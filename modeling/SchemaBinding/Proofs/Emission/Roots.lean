import SchemaBinding.Proofs.Emission.Seeds
import SchemaBinding.Proofs.Struct.Agree
import SchemaBinding.Proofs.SchemaSet.Ordinal

namespace SchemaBinding

open Relation (ReflTransGen)
open Sink (GeneratedFile)

theorem mem_rootLocations {roots : List Path} {location : Location} :
    location ∈ rootLocations roots ↔ ∃ root ∈ roots, .file root.normalize = location :=
  List.mem_map

theorem exists_found {targets : Location → List Location} {lists : List Path → Prop}
    {roots : List Path} (hroots : ∀ root ∈ roots, ∃ others, lists others ∧ root ∈ others)
    {location : Location} (h : Found (rootLocations roots) targets location) :
    ∃ others, lists others ∧ Found (rootLocations others) targets location := by
  induction h with
  | start hstart =>
      obtain ⟨root, hroot, rfl⟩ := mem_rootLocations.mp hstart
      obtain ⟨others, hothers, hmem⟩ := hroots root hroot
      exact ⟨others, hothers, .start (mem_rootLocations.mpr ⟨root, hmem, rfl⟩)⟩
  | target _ hnext ih =>
      obtain ⟨others, hothers, hfound⟩ := ih
      exact ⟨others, hothers, .target hfound hnext⟩

namespace SchemaSet

variable {setting : Setting} {roots roots' all : List Path} {first second : SchemaSet}

/-- Sets that can be loaded can be loaded together, if there is room for both. -/
theorem ClosureOf.exists_load (h : first.ClosureOf setting roots)
    (h' : second.ClosureOf setting roots')
    (hall : ∀ root ∈ all, root ∈ roots ∨ root ∈ roots')
    (hroom : (first.locations.toFinset ∪ second.locations.toFinset).card ≤
      setting.limits.documents) :
    ∃ set, load setting.tree all setting.limits setting.permissive = .ok set := by
  have hlists : ∀ root ∈ all, ∃ others, (others = roots ∨ others = roots') ∧ root ∈ others := by
    intro root hroot
    rcases hall root hroot with hmem | hmem
    · exact ⟨roots, .inl rfl, hmem⟩
    · exact ⟨roots', .inr rfl, hmem⟩
  rcases load_cases setting all with ⟨set, hset, _, _⟩ | ⟨_, hhopeless⟩
  · exact ⟨set, hset⟩
  · refine absurd hhopeless (Loading.not_hopeless ?_ ?_ hroom)
    · intro location hfound
      obtain ⟨others, rfl | rfl, hothers⟩ := exists_found hlists hfound
      · exact h.loadable hothers
      · exact h'.loadable hothers
    · intro location hfound
      obtain ⟨others, rfl | rfl, hothers⟩ := exists_found hlists hfound
      · exact Finset.mem_union_left _ (List.mem_toFinset.mpr ((h.mem_iff location).mpr hothers))
      · exact Finset.mem_union_right _ (List.mem_toFinset.mpr ((h'.mem_iff location).mpr hothers))

end SchemaSet

namespace Emission

open SchemaSet

variable {setting : Setting} {roots : List Path} {first : SchemaSet} {options : Options}

/-- The sets that are loaded in a setting from roots that they say. -/
def LoadedIn (setting : Setting) (set : SchemaSet) (roots : List Path) : Prop :=
  SchemaSet.load setting.tree roots setting.limits setting.permissive = .ok set

theorem exists_begins {seconds : List SchemaSet} (h : LoadedIn setting first roots)
    (hroots : ∀ root ∈ roots, ∃ second ∈ seconds, ∃ others,
      LoadedIn setting second others ∧ root ∈ others) {id : DocumentId}
    (hbegins : Begins first options id) :
    ∃ second ∈ seconds, ∃ others, LoadedIn setting second others ∧
      ∃ id', first.Alongside second id id' ∧ Begins second options id' := by
  have hclosure := closureOf_of_load h
  obtain ⟨⟨document, hdocument⟩, hrecursive | ⟨root, hroot, hreach⟩⟩ := hbegins
  · have hlists : ∀ root ∈ roots, ∃ others,
        (∃ second ∈ seconds, LoadedIn setting second others) ∧ root ∈ others := by
      intro root hroot
      obtain ⟨second, hsecond, others, hothers, hmem⟩ := hroots root hroot
      exact ⟨others, ⟨second, hsecond, hothers⟩, hmem⟩
    have hplace : first.location? id = some (.file document.path) :=
      location?_eq_some_iff.mpr ⟨document, hdocument, rfl⟩
    have hfound := (hclosure.mem_iff _).mp (List.mem_of_getElem? hplace)
    obtain ⟨others, ⟨second, hsecond, hothers⟩, hfound'⟩ := exists_found hlists hfound
    exact ⟨second, hsecond, others, hothers, exists_begins_of_place hrecursive hplace
      (((closureOf_of_load hothers).mem_iff _).mpr hfound')⟩
  · have hplaces : first.location? root ∈ first.roots.map first.location? :=
      List.mem_map_of_mem hroot
    rw [hclosure.roots] at hplaces
    obtain ⟨location, hlocation, hplace⟩ := List.mem_map.mp hplaces
    obtain ⟨path, hpath, rfl⟩ := mem_rootLocations.mp (List.mem_eraseDups.mp hlocation)
    obtain ⟨second, hsecond, others, hothers, hmem⟩ := hroots path hpath
    exact ⟨second, hsecond, others, hothers, exists_begins_of_root hclosure
      (closureOf_of_load hothers) (fun _ _ => rfl) hplace.symm
      (mem_rootLocations.mpr ⟨path, hmem, rfl⟩) hreach⟩

/-- Paired with one of some sets, so that what is paired is in one place. -/
def SamePlaces (first : SchemaSet) (seconds : List SchemaSet) (second : SchemaSet)
    (pairing : Pairing) : Prop :=
  second ∈ seconds ∧ ∀ a b : TypeId, pairing.id a b → first.place? a = second.place? b

/-- The seeds of a set are those of sets that have its roots. -/
theorem traced_of_load {seconds : List SchemaSet} (h : LoadedIn setting first roots)
    (hroots : ∀ root ∈ roots, ∃ second ∈ seconds, ∃ others,
      LoadedIn setting second others ∧ root ∈ others) :
    Traced first options (SamePlaces first seconds) := by
  intro seed hseed
  obtain ⟨id, document, hdocument, hbegins, hdeclared⟩ :=
    (mem_seeds_iff_declaredIn fun _ => distinct_of_load h).mp hseed
  obtain ⟨second, hsecond, others, hothers, id', halong, hbegins'⟩ := exists_begins h hroots hbegins
  obtain ⟨layout, hlaid⟩ := exists_layout_of_load h
  obtain ⟨layout', hlaid'⟩ := exists_layout_of_load hothers
  have hshares : first.Shares setting second layout layout' :=
    ⟨hlaid, hlaid', ⟨roots, closureOf_of_load h⟩, ⟨others, closureOf_of_load hothers⟩⟩
  obtain ⟨document', hdocument', hnames⟩ :=
    hshares.linked.exists_names halong (hshares.symbols_rel halong) hdocument
  obtain ⟨seed', hdeclared', hmatches⟩ := hshares.paired.exists_declaredIn hnames hdeclared
  refine ⟨second, _, ⟨hsecond, fun _ _ => hshares.place?_eq⟩, trivial, hshares.paired, seed', ?_,
    hmatches⟩
  exact (mem_seeds_iff_declaredIn fun _ => distinct_of_load hothers).mpr
    ⟨id', document', hdocument', hbegins', hdeclared'⟩

/-- Among the types that are reached in some sets, those that collide are in one place. -/
def ApartAmong (sets : List SchemaSet) (options : Options) : Prop :=
  ∀ first ∈ sets, ∀ second ∈ sets, ∀ id other type type', IsReached first options id →
    IsReached second options other → first.typeDef id = .ok type →
      second.typeDef other = .ok type' → Collide options type type' →
        first.place? id = second.place? other

theorem ApartAmong.apart {seconds : List SchemaSet} (hapart : ApartAmong seconds options)
    (htraced : Traced first options (SamePlaces first seconds))
    (hload : LoadedIn setting first roots) : Apart first options := by
  intro id other type type' hid hother htype htype' hcollide
  obtain ⟨layout, hlaid⟩ := exists_layout_of_load hload
  apply hlaid.eq_of_place?_eq (closureOf_of_load hload).nodup (index_lt_of_typeDef htype)
    (index_lt_of_typeDef htype')
  obtain ⟨second, pairing, ⟨hsecond, hplaces⟩, _, hpaired, a, ha, hreached⟩ :=
    htraced.exists_isReached hid
  obtain ⟨third, pairing', ⟨hthird, hplaces'⟩, _, hpaired', b, hb, hreached'⟩ :=
    htraced.exists_isReached hother
  obtain ⟨_, found, hfirst, hfound, hmatches⟩ := hpaired.exists_typeDef ha
  obtain ⟨_, found', hfirst', hfound', hmatches'⟩ := hpaired'.exists_typeDef hb
  rw [htype] at hfirst
  rw [htype'] at hfirst'
  cases hfirst
  cases hfirst'
  rw [hplaces id a ha, hplaces' other b hb]
  exact hapart second hsecond third hthird a b found found' hreached hreached' hfound hfound'
    ((collide_iff options hmatches hmatches').mp hcollide)

/-- A set that is loaded from the roots of two others. -/
structure Joint (setting : Setting) (first second joint : SchemaSet)
    (roots roots' all : List Path) : Prop where
  first : LoadedIn setting first roots
  second : LoadedIn setting second roots'
  whole : LoadedIn setting joint all
  mem_iff : ∀ root, root ∈ all ↔ root ∈ roots ∨ root ∈ roots'

namespace Joint

variable {second joint : SchemaSet} {roots' all : List Path}
  (h : Joint setting first second joint roots roots' all)

include h

theorem traced : Traced joint options (SamePlaces joint [first, second]) := by
  apply traced_of_load h.whole
  intro root hroot
  rcases (h.mem_iff root).mp hroot with hmem | hmem
  · exact ⟨first, List.mem_cons_self, roots, h.first, hmem⟩
  · exact ⟨second, List.mem_cons_of_mem _ List.mem_cons_self, roots', h.second, hmem⟩

theorem traced_first : Traced first options (SamePlaces first [joint]) :=
  traced_of_load h.first fun root hroot =>
    ⟨joint, List.mem_cons_self, all, h.whole, (h.mem_iff root).mpr (.inl hroot)⟩

theorem traced_second : Traced second options (SamePlaces second [joint]) :=
  traced_of_load h.second fun root hroot =>
    ⟨joint, List.mem_cons_self, all, h.whole, (h.mem_iff root).mpr (.inr hroot)⟩

theorem apart (hapart : ApartAmong [first, second] options) :
    Apart first options ∧ Apart second options ∧ Apart joint options := by
  have hfirst : Traced first options (SamePlaces first [first, second]) :=
    traced_of_load h.first fun root hroot => ⟨first, List.mem_cons_self, roots, h.first, hroot⟩
  have hsecond : Traced second options (SamePlaces second [first, second]) :=
    traced_of_load h.second fun root hroot =>
      ⟨second, List.mem_cons_of_mem _ List.mem_cons_self, roots', h.second, hroot⟩
  exact ⟨hapart.apart hfirst h.first, hapart.apart hsecond h.second, hapart.apart h.traced h.whole⟩

theorem succeeds (hfirst : Succeeds first options) (hsecond : Succeeds second options) :
    Succeeds joint options := by
  apply h.traced.succeeds
  rintro _ _ ⟨hmem, _⟩
  rcases List.mem_pair.mp hmem with rfl | rfl
  · exact hfirst
  · exact hsecond

theorem writes_iff {file : GeneratedFile} :
    Writes joint options file ↔ Writes first options file ∨ Writes second options file := by
  constructor
  · intro hwrites
    obtain ⟨_, _, ⟨hmem, _⟩, hwritten⟩ := h.traced.exists_writes hwrites
    rcases List.mem_pair.mp hmem with rfl | rfl
    · exact .inl hwritten
    · exact .inr hwritten
  · rintro (hwrites | hwrites)
    · obtain ⟨_, _, ⟨hmem, _⟩, hwritten⟩ := h.traced_first.exists_writes hwrites
      rwa [← List.mem_singleton.mp hmem]
    · obtain ⟨_, _, ⟨hmem, _⟩, hwritten⟩ := h.traced_second.exists_writes hwrites
      rwa [← List.mem_singleton.mp hmem]

end Joint

end Emission

/-! Options that differ in their roots. -/

def Options.withRoots (options : Options) (roots : List Path) : Options :=
  { options with roots := roots }

theorem Options.agree_withRoots (options : Options) (roots : List Path) :
    (options.withRoots roots).Agree options :=
  ⟨rfl, rfl, rfl⟩

namespace Emission

variable {set : SchemaSet} {options : Options} {roots : List Path}

theorem becomes_withRoots :
    Becomes set (options.withRoots roots) = Becomes set options := by
  funext id file
  simp only [Becomes, (options.agree_withRoots roots).structFile_eq]

theorem succeeds_withRoots :
    Succeeds set (options.withRoots roots) ↔ Succeeds set options := by
  constructor
  · rintro ⟨hknown, hbecomes⟩
    rw [becomes_withRoots] at hbecomes
    exact ⟨hknown, hbecomes⟩
  · rintro ⟨hknown, hbecomes⟩
    refine ⟨hknown, ?_⟩
    rw [becomes_withRoots]
    exact hbecomes

theorem writes_withRoots {file : GeneratedFile} :
    Writes set (options.withRoots roots) file ↔ Writes set options file := by
  rw [Writes, becomes_withRoots]
  rfl

end Emission

namespace Generation

open Emission

variable {σ : Type} {tree : FileTree} {options : Options} {sink : Sink σ}
  {roots roots' all : List Path} {set set' : SchemaSet}

theorem load_withRoots_iff (hroots : roots ≠ []) :
    load tree (options.withRoots roots) = .ok set ↔ options.validate = .ok () ∧
      LoadedIn ⟨tree, options.limits, options.permissive⟩ set
        (roots.map options.inputDirectory.join) := by
  have hsome : (!(options.withRoots roots).roots.isEmpty) = true := by
    cases roots with
    | nil => exact absurd rfl hroots
    | cons root rest => rfl
  have hpaths : (options.withRoots roots).rootPaths tree =
      .ok (roots.map options.inputDirectory.join) := if_pos hsome
  simp only [load, hpaths, bind_eq_ok_iff]
  constructor
  · rintro ⟨_, hvalid, _, heq, hload⟩
    cases heq
    exact ⟨hvalid, hload⟩
  · rintro ⟨hvalid, hload⟩
    exact ⟨(), hvalid, _, rfl, hload⟩

theorem exists_joint (hroots : roots ≠ []) (hroots' : roots' ≠ [])
    (hall : all.Perm (roots ++ roots'))
    (hload : load tree (options.withRoots roots) = .ok set)
    (hload' : load tree (options.withRoots roots') = .ok set')
    (hroom : (set.locations.toFinset ∪ set'.locations.toFinset).card ≤
      options.limits.documents) :
    ∃ joint, Joint ⟨tree, options.limits, options.permissive⟩ set set' joint
        (roots.map options.inputDirectory.join) (roots'.map options.inputDirectory.join)
        (all.map options.inputDirectory.join) ∧
      load tree (options.withRoots all) = .ok joint := by
  obtain ⟨hvalid, hloaded⟩ := (load_withRoots_iff hroots).mp hload
  obtain ⟨_, hloaded'⟩ := (load_withRoots_iff hroots').mp hload'
  have hmem : ∀ root, root ∈ all.map options.inputDirectory.join ↔
      root ∈ roots.map options.inputDirectory.join ∨
        root ∈ roots'.map options.inputDirectory.join := by
    intro root
    rw [(hall.map _).mem_iff, List.map_append, List.mem_append]
  obtain ⟨joint, hjoint⟩ := (SchemaSet.closureOf_of_load hloaded).exists_load
    (SchemaSet.closureOf_of_load hloaded') (fun root => (hmem root).mp) hroom
  have hsome : all ≠ [] := by
    rintro rfl
    exact hroots (List.append_eq_nil_iff.mp hall.nil_eq.symm).1
  exact ⟨joint, ⟨hloaded, hloaded', hjoint, hmem⟩, (load_withRoots_iff hsome).mpr ⟨hvalid, hjoint⟩⟩

theorem written_of_run (hload : load tree (options.withRoots roots) = .ok set)
    (hapart : Apart set options) {start after : σ} {report : Report} {files : List GeneratedFile}
    (hrun : run tree (options.withRoots roots) sink.recorded (start, []) =
      .ok report (after, files)) :
    Succeeds set options ∧ ∀ file, file ∈ files ↔ Writes set options file := by
  have hsame : Apart set (options.withRoots roots) := hapart
  refine ⟨succeeds_withRoots.mp (succeeds_of_run hload hsame hrun), ?_⟩
  intro file
  rw [mem_files_of_run hload hsame hrun file, writes_withRoots]

/-- If runs with two lists of roots succeed, so does a run with all of these, in whatever order,
and it writes the files that either run writes. -/
theorem run_append (hroots : roots ≠ []) (hroots' : roots' ≠ []) (hall : all.Perm (roots ++ roots'))
    (hload : load tree (options.withRoots roots) = .ok set)
    (hload' : load tree (options.withRoots roots') = .ok set')
    (hroom : (set.locations.toFinset ∪ set'.locations.toFinset).card ≤ options.limits.documents)
    (hapart : ApartAmong [set, set'] options) {start after after' : σ} {report report' : Report}
    {files files' : List GeneratedFile}
    (hsink : sink.Steady (fun file => file ∈ files ∨ file ∈ files') start)
    (hrun : run tree (options.withRoots roots) sink.recorded (start, []) =
      .ok report (after, files))
    (hrun' : run tree (options.withRoots roots') sink.recorded (start, []) =
      .ok report' (after', files')) :
    ∃ report last written, run tree (options.withRoots all) sink.recorded (start, []) =
        .ok report (last, written) ∧
      ∀ file, file ∈ written ↔ file ∈ files ∨ file ∈ files' := by
  obtain ⟨joint, hjoint, hloadJoint⟩ := exists_joint hroots hroots' hall hload hload' hroom
  obtain ⟨hfirst, hsecond, hwhole⟩ := hjoint.apart hapart
  obtain ⟨hsucceeds, hfiles⟩ := written_of_run hload hfirst hrun
  obtain ⟨hsucceeds', hfiles'⟩ := written_of_run hload' hsecond hrun'
  have hapartAll : Apart joint (options.withRoots all) := hwhole
  have hsucceedsAll : Succeeds joint (options.withRoots all) :=
    succeeds_withRoots.mpr (hjoint.succeeds hsucceeds hsucceeds')
  have hwrites : ∀ file, Writes joint (options.withRoots all) file ↔
      file ∈ files ∨ file ∈ files' := by
    intro file
    rw [writes_withRoots, hjoint.writes_iff, hfiles, hfiles']
  have htakes : ∀ file, file ∈ files ∨ file ∈ files' → sink.Takes start file := by
    rintro file (hfile | hfile)
    · exact (hsink.exists_takeAll_iff fun _ => .inl).mp ⟨_, takeAll_of_run hrun⟩ file hfile
    · exact (hsink.exists_takeAll_iff fun _ => .inr).mp ⟨_, takeAll_of_run hrun'⟩ file hfile
  rw [← funext fun file => propext (hwrites file)] at hsink
  obtain ⟨report, ⟨last, written⟩, hrunAll⟩ := (exists_run_iff hloadJoint hapartAll hsink).mpr
    ⟨hsucceedsAll, fun file hfile => htakes file ((hwrites file).mp hfile)⟩
  refine ⟨report, last, written, hrunAll, ?_⟩
  intro file
  rw [mem_files_of_run hloadJoint hapartAll hrunAll file, hwrites]

end Generation

/-! Two documents, each with an element that has a type of its own. -/

namespace Twofold

open Emission

def text (name : String) : String :=
  "<schema xmlns=\"http://www.w3.org/2001/XMLSchema\"><element name=\"" ++ name ++
    "\"><complexType><sequence/></complexType></element></schema>"

def treeOf (first second : String) : FileTree :=
  ⟨[(⟨.above 0, ["a.xsd"]⟩, .file (.text first)), (⟨.above 0, ["b.xsd"]⟩, .file (.text second))]⟩

def tree : FileTree :=
  treeOf (text "first") (text "second")

theorem readFrom_first (first second : String) :
    Location.readFrom (treeOf first second) (.file ⟨"a.xsd"⟩) = .ok first := by
  cbv

theorem readFrom_second (first second : String) :
    Location.readFrom (treeOf first second) (.file ⟨"b.xsd"⟩) = .ok second := by
  cbv

def loaded (file name : String) : Except Error Loading :=
  Loading.supply ⟨{}, []⟩ Cased.options.limits Cased.options.permissive ⟨.file ⟨file⟩, none⟩
    (.ok (text name))

def Known (file struct : String) (set : SchemaSet) : Prop :=
  set.locations = [.file ⟨file⟩] ∧ seeds set Cased.options = [.element ⟨0⟩] ∧
    Seed.type? set (.element ⟨0⟩) = some ⟨0⟩ ∧ set.successors ⟨0⟩ = [] ∧
    Cased.hasFile set ⟨0⟩ = true ∧
    (set.typeDef ⟨0⟩).toOption.map TypeDef.structName = some struct

instance (file struct : String) (set : SchemaSet) : Decidable (Known file struct set) :=
  inferInstanceAs (Decidable (_ ∧ _))

theorem exists_load {file name struct : String}
    (hread : Location.readFrom tree (.file ⟨file⟩) = .ok (text name))
    (hfile : (Cased.options.inputDirectory.join ⟨file⟩).normalize = ⟨file⟩)
    (h : (loaded file name).toOption.map (fun next => decide (next.pending = [] ∧
      Known file struct next.set)) = some true) :
    ∃ set, Generation.load tree (Cased.options.withRoots [⟨file⟩]) = .ok set ∧
      Known file struct set := by
  have hvalid : Cased.options.validate = .ok () := by decide +kernel
  obtain ⟨next, hloaded, hpending, hknown⟩ := exists_ok_of_map h
  rw [loaded, ← hfile] at hloaded
  rw [← hfile] at hread
  exact ⟨next.set, (Generation.load_withRoots_iff (List.cons_ne_nil _ _)).mpr
    ⟨hvalid, SchemaSet.load_of_supply hread hloaded hpending⟩, hknown⟩

theorem exists_first : ∃ set, Generation.load tree (Cased.options.withRoots [⟨"a.xsd"⟩]) =
    .ok set ∧ Known "a.xsd" "FirstType" set :=
  exists_load (readFrom_first _ _) (by cbv) (by decide +kernel)

theorem exists_second : ∃ set, Generation.load tree (Cased.options.withRoots [⟨"b.xsd"⟩]) =
    .ok set ∧ Known "b.xsd" "SecondType" set :=
  exists_load (readFrom_second _ _) (by cbv) (by decide +kernel)

variable {file struct : String} {set : SchemaSet} (h : Known file struct set)

include h

theorem eq_of_isReached {id : TypeId} (hid : IsReached set Cased.options id) : id = ⟨0⟩ := by
  obtain ⟨_, hseeds, htype, hsuccessors, _⟩ := h
  apply @IsReached.holds set Cased.options (· = ⟨0⟩) _ _ id hid
  · intro seed hseed start hstart
    rw [hseeds] at hseed
    rw [List.mem_singleton.mp hseed, htype] at hstart
    exact (Option.some.inj hstart).symm
  · rintro _ next rfl hnext
    rw [SchemaSet.Refers, hsuccessors] at hnext
    cases hnext

theorem succeeds : Succeeds set Cased.options where
  known seed hseed := by
    rw [h.2.1] at hseed
    rw [List.mem_singleton.mp hseed]
    exact Seed.known_of_type? h.2.2.1
  becomes id hid := by
    obtain ⟨type, made, htype, hmade⟩ := Cased.exists_file h.2.2.2.2.1
    rw [eq_of_isReached h hid]
    exact ⟨_, type, made, htype, hmade, rfl⟩

omit h

theorem structName_eq (h : Known file struct set) {type : TypeDef}
    (htype : set.typeDef ⟨0⟩ = .ok type) : type.structName = struct := by
  obtain ⟨_, _, _, _, _, hname⟩ := h
  rw [htype] at hname
  exact Option.some.inj hname

theorem not_collide {type other : TypeDef} (htype : type.structName = "FirstType")
    (hother : other.structName = "SecondType") : ¬ Collide Cased.options type other := by
  apply Emission.not_collide
  · rw [htype, hother]
    decide
  · rw [htype, hother]
    decide +kernel

theorem apartAmong {first second : SchemaSet} (hfirst : Known "a.xsd" "FirstType" first)
    (hsecond : Known "b.xsd" "SecondType" second) :
    ApartAmong [first, second] Cased.options := by
  intro one hone two htwo id other type type' hid hother htype htype' hcollide
  rcases List.mem_pair.mp hone with rfl | rfl
  · cases eq_of_isReached hfirst hid
    rcases List.mem_pair.mp htwo with rfl | rfl
    · cases eq_of_isReached hfirst hother
      rfl
    · cases eq_of_isReached hsecond hother
      exact absurd hcollide
        (not_collide (structName_eq hfirst htype) (structName_eq hsecond htype'))
  · cases eq_of_isReached hsecond hid
    rcases List.mem_pair.mp htwo with rfl | rfl
    · cases eq_of_isReached hfirst hother
      exact absurd hcollide.symm
        (not_collide (structName_eq hfirst htype') (structName_eq hsecond htype))
    · cases eq_of_isReached hsecond hother
      rfl

theorem exists_run {roots : List Path} {file struct : String} {set : SchemaSet}
    (h : Known file struct set)
    (hload : Generation.load tree (Cased.options.withRoots roots) = .ok set) :
    ∃ report after files, Generation.run tree (Cased.options.withRoots roots)
      Sink.listing.recorded ([], []) = .ok report (after, files) := by
  have hapart : Apart set (Cased.options.withRoots roots) := by
    intro id other type type' hid hother _ _ _
    rw [eq_of_isReached h hid, eq_of_isReached h hother]
  obtain ⟨report, ⟨after, files⟩, hrun⟩ :=
    (Generation.exists_run_iff hload hapart (Sink.accepts_listing.steady _ _)).mpr
      ⟨succeeds_withRoots.mpr (succeeds h), fun _ _ => Sink.accepts_listing _ _ _ _⟩
  exact ⟨report, after, files, hrun⟩

end Twofold

theorem Generation.run_append_twofold : ∃ set set' report report' after after' files files',
    load Twofold.tree (Cased.options.withRoots [⟨"a.xsd"⟩]) = .ok set ∧
    load Twofold.tree (Cased.options.withRoots [⟨"b.xsd"⟩]) = .ok set' ∧
    Emission.ApartAmong [set, set'] Cased.options ∧
    run Twofold.tree (Cased.options.withRoots [⟨"a.xsd"⟩]) Sink.listing.recorded ([], []) =
      .ok report (after, files) ∧
    run Twofold.tree (Cased.options.withRoots [⟨"b.xsd"⟩]) Sink.listing.recorded ([], []) =
      .ok report' (after', files') ∧
    ∃ report last written, run Twofold.tree (Cased.options.withRoots [⟨"b.xsd"⟩, ⟨"a.xsd"⟩])
        Sink.listing.recorded ([], []) = .ok report (last, written) ∧
      ∀ file, file ∈ written ↔ file ∈ files ∨ file ∈ files' := by
  obtain ⟨set, hload, hknown⟩ := Twofold.exists_first
  obtain ⟨set', hload', hknown'⟩ := Twofold.exists_second
  obtain ⟨report, after, files, hrun⟩ := Twofold.exists_run hknown hload
  obtain ⟨report', after', files', hrun'⟩ := Twofold.exists_run hknown' hload'
  have hapart := Twofold.apartAmong hknown hknown'
  have hroom : (set.locations.toFinset ∪ set'.locations.toFinset).card ≤
      Cased.options.limits.documents := by
    rw [hknown.1, hknown'.1]
    decide
  have hall : List.Perm [(⟨"b.xsd"⟩ : Path), ⟨"a.xsd"⟩] ([⟨"a.xsd"⟩] ++ [⟨"b.xsd"⟩]) :=
    List.Perm.swap _ _ _
  exact ⟨set, set', report, report', after, after', files, files', hload, hload', hapart, hrun,
    hrun', run_append (List.cons_ne_nil _ _) (List.cons_ne_nil _ _) hall hload hload' hroom hapart
      (Sink.accepts_listing.steady _ _) hrun hrun'⟩

end SchemaBinding
