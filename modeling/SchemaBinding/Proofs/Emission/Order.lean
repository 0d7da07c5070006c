import SchemaBinding.Proofs.Emission.Seeds
import SchemaBinding.Proofs.SchemaSet.Order

namespace SchemaBinding

open Sink (GeneratedFile)

namespace SchemaSet.Rearranged

open Emission

variable {tree other : FileTree} {limits : Limits} {permissive : Bool} {roots : List Path}
  {first second : SchemaSet} {layout layout' : Layout} {options : Options}
  (h : Rearranged tree other limits permissive roots first second layout layout')

include h

theorem exists_begins {id : DocumentId} (hbegins : Begins first options id) :
    ∃ id', first.Alongside second id id' ∧ Begins second options id' := by
  obtain ⟨⟨document, hdocument⟩, hrecursive | ⟨root, hroot, hreach⟩⟩ := hbegins
  · have hplace : first.location? id = some (.file document.path) :=
      location?_eq_some_iff.mpr ⟨document, hdocument, rfl⟩
    have hfound := (h.closure.mem_iff _).mp (List.mem_of_getElem? hplace)
    exact exists_begins_of_place hrecursive hplace
      ((h.closure'.mem_iff _).mpr ((h.trees.found_iff h.once).mp hfound))
  · have hplaces : first.location? root ∈ first.roots.map first.location? :=
      List.mem_map_of_mem hroot
    rw [h.closure.roots] at hplaces
    obtain ⟨location, hlocation, hplace⟩ := List.mem_map.mp hplaces
    exact exists_begins_of_root h.closure h.closure' (fun _ => h.links_eq) hplace.symm
      (List.mem_eraseDups.mp hlocation) hreach

theorem traced : Traced first options fun set pairing =>
    set = second ∧ pairing = (byKey first second layout layout').pairing := by
  intro seed hseed
  obtain ⟨id, document, hdocument, hbegins, hdeclared⟩ :=
    (mem_seeds_iff_declaredIn fun _ => distinct_of_load h.load).mp hseed
  obtain ⟨id', halong, hbegins'⟩ := h.exists_begins hbegins
  obtain ⟨document', hdocument', hnames⟩ :=
    h.linked.exists_names halong (h.symbols_rel halong) hdocument
  obtain ⟨seed', hdeclared', hmatches⟩ := h.paired.exists_declaredIn hnames hdeclared
  refine ⟨second, _, ⟨rfl, rfl⟩, trivial, h.paired, seed', ?_, hmatches⟩
  exact (mem_seeds_iff_declaredIn fun _ => distinct_of_load h.load').mpr
    ⟨id', document', hdocument', hbegins', hdeclared'⟩

theorem succeeds (hsecond : Succeeds second options) : Succeeds first options :=
  h.traced.succeeds fun _ _ ⟨hset, _⟩ => hset ▸ hsecond

theorem writes {file : GeneratedFile} (hfile : Writes first options file) :
    Writes second options file := by
  obtain ⟨_, _, ⟨rfl, _⟩, hwrites⟩ := h.traced.exists_writes hfile
  exact hwrites

theorem writes_eq : Writes first options = Writes second options :=
  funext fun _ => propext ⟨h.writes, h.symm.writes⟩

theorem apart (hsecond : Apart second options) : Apart first options := by
  intro id next type type' hid hnext htype htype' hcollide
  obtain ⟨_, _, ⟨rfl, rfl⟩, _, hpaired, a, ha, hreached⟩ := h.traced.exists_isReached hid
  obtain ⟨_, _, ⟨rfl, rfl⟩, _, _, b, hb, hreached'⟩ := h.traced.exists_isReached hnext
  obtain ⟨_, found, hfirst, hfound, hmatches⟩ := hpaired.exists_typeDef ha
  obtain ⟨_, found', hfirst', hfound', hmatches'⟩ := hpaired.exists_typeDef hb
  rw [htype] at hfirst
  rw [htype'] at hfirst'
  cases hfirst
  cases hfirst'
  have hsame := hsecond a b found found' hreached hreached' hfound hfound'
    ((collide_iff options hmatches hmatches').mp hcollide)
  exact (hpaired.unique ha hb).mpr hsame

end SchemaSet.Rearranged

namespace Generation

open Emission

variable {σ : Type} {tree other : FileTree} {options : Options} {sink : Sink σ}

/-- No document of a run declares one name of one kind twice. -/
def DeclaresOnce (tree : FileTree) (options : Options) : Prop :=
  ∀ roots, options.rootPaths tree = .ok roots →
    Setting.DeclaresOnce ⟨tree, options.limits, options.permissive⟩ roots

def Rearranged (tree other : FileTree) (options : Options) (first second : SchemaSet) : Prop :=
  ∃ roots layout layout', first.Rearranged tree other options.limits options.permissive roots second
    layout layout'

theorem rootPaths_eq (htrees : tree.Reorders options.limits other) :
    options.rootPaths tree = options.rootPaths other := by
  have hnames : tree.namesIn = other.namesIn := funext htrees.alike.namesIn_eq
  rw [Options.rootPaths, hnames, Options.rootPaths]

theorem DeclaresOnce.reordered (honce : DeclaresOnce tree options)
    (htrees : tree.Reorders options.limits other) : DeclaresOnce other options := by
  intro roots hroots
  rw [← rootPaths_eq htrees] at hroots
  exact htrees.declaresOnce_of_roots (honce roots hroots)

theorem exists_rearranged (htrees : tree.Reorders options.limits other)
    (honce : DeclaresOnce tree options) {set : SchemaSet} (hload : load tree options = .ok set) :
    ∃ set', load other options = .ok set' ∧ Rearranged tree other options set set' := by
  simp only [load, bind_eq_ok_iff] at hload
  obtain ⟨_, hvalid, roots, hroots, hset⟩ := hload
  obtain ⟨set', hset'⟩ := htrees.exists_load (honce roots hroots) hset
  obtain ⟨layout, hlaid⟩ := SchemaSet.exists_layout_of_load hset
  obtain ⟨layout', hlaid'⟩ := SchemaSet.exists_layout_of_load hset'
  refine ⟨set', ?_, roots, layout, layout', htrees, honce roots hroots, hlaid, hlaid', hset, hset'⟩
  simp only [load, bind_eq_ok_iff]
  exact ⟨(), hvalid, roots, rootPaths_eq htrees ▸ hroots, hset'⟩

theorem apart_of_reorders (htrees : tree.Reorders options.limits other)
    (honce : DeclaresOnce tree options)
    (hapart : ∀ set, load tree options = .ok set → Apart set options) :
    ∀ set, load other options = .ok set → Apart set options := by
  intro set hload
  obtain ⟨set', hload', roots, layout, layout', hsets⟩ :=
    exists_rearranged htrees.symm (honce.reordered htrees) hload
  exact hsets.apart (hapart set' hload')

theorem exists_run_of_reorders (htrees : tree.Reorders options.limits other)
    (honce : DeclaresOnce tree options)
    (hapart : ∀ set, load tree options = .ok set → Apart set options) {start : σ}
    (hsink : ∀ set, load tree options = .ok set → sink.Steady (Writes set options) start)
    (hrun : ∃ report state, run tree options sink.recorded (start, []) = .ok report state) :
    ∃ report state, run other options sink.recorded (start, []) = .ok report state := by
  obtain ⟨report, state, hrun⟩ := hrun
  obtain ⟨set, _, hload, _⟩ := run_eq_ok_iff.mp hrun
  obtain ⟨set', hload', roots, layout, layout', hsets⟩ := exists_rearranged htrees honce hload
  obtain ⟨hsucceeds, htakes⟩ :=
    (exists_run_iff hload (hapart set hload) (hsink set hload)).mp ⟨report, state, hrun⟩
  have hsteady := hsink set hload
  rw [hsets.writes_eq] at hsteady htakes
  exact (exists_run_iff hload' (hsets.symm.apart (hapart set hload)) hsteady).mpr
    ⟨hsets.symm.succeeds hsucceeds, htakes⟩

theorem steady_of_reorders (htrees : tree.Reorders options.limits other)
    (honce : DeclaresOnce tree options) {start : σ}
    (hsink : ∀ set, load tree options = .ok set → sink.Steady (Writes set options) start) :
    ∀ set, load other options = .ok set → sink.Steady (Writes set options) start := by
  intro set hload
  obtain ⟨set', hload', roots, layout, layout', hsets⟩ :=
    exists_rearranged htrees.symm (honce.reordered htrees) hload
  rw [hsets.writes_eq]
  exact hsink set' hload'

/-- A run succeeds whatever the order of declarations, or in none, and writes the same files. -/
theorem run_reorders (htrees : tree.Reorders options.limits other)
    (honce : DeclaresOnce tree options)
    (hapart : ∀ set, load tree options = .ok set → Apart set options) {start : σ}
    (hsink : ∀ set, load tree options = .ok set → sink.Steady (Writes set options) start) :
    ((∃ report state, run tree options sink.recorded (start, []) = .ok report state) ↔
      ∃ report state, run other options sink.recorded (start, []) = .ok report state) ∧
    ∀ report after files report' after' files',
      run tree options sink.recorded (start, []) = .ok report (after, files) →
        run other options sink.recorded (start, []) = .ok report' (after', files') →
          ∀ file, file ∈ files ↔ file ∈ files' := by
  have hapart' := apart_of_reorders htrees honce hapart
  constructor
  · exact ⟨exists_run_of_reorders htrees honce hapart hsink,
      exists_run_of_reorders htrees.symm (honce.reordered htrees) hapart'
        (steady_of_reorders htrees honce hsink)⟩
  · intro report after files report' after' files' hrun hrun' file
    obtain ⟨set, _, hload, _⟩ := run_eq_ok_iff.mp hrun
    obtain ⟨set', hload', roots, layout, layout', hsets⟩ := exists_rearranged htrees honce hload
    rw [mem_files_of_run hload (hapart set hload) hrun,
      mem_files_of_run hload' (hapart' set' hload') hrun', hsets.writes_eq]

end Generation

/-! Two documents with the same two types, in one order and in the other. -/

namespace Swapped

open Emission
open Xml (Element)

def typeText (name : String) : String :=
  "<complexType name=\"" ++ name ++ "\"><sequence/></complexType>"

def text (first second : String) : String :=
  "<schema xmlns=\"http://www.w3.org/2001/XMLSchema\">" ++ typeText first ++ typeText second ++
    "</schema>"

def treeOf (text : String) : FileTree :=
  ⟨[(⟨.above 0, ["a.xsd"]⟩, .file (.text text))]⟩

def tree : FileTree :=
  treeOf (text "First" "Second")

def other : FileTree :=
  treeOf (text "Second" "First")

/-- What an element holds besides its children. -/
structure Leaf where
  name : QName
  attributes : Table String String
  text : Option String
  bindings : Bindings
  deriving DecidableEq

def leaf (element : Element) : Leaf :=
  ⟨element.name, element.attributes, element.text, element.bindings⟩

def build (leaf : Leaf) (children : List Element) : Element :=
  ⟨leaf.name, leaf.attributes, leaf.text, leaf.bindings, 0, 0, children⟩

theorem unplaced_eq_build (element : Element) :
    element.unplaced = build (leaf element) (element.children.map Element.unplaced) := by
  obtain ⟨name, attributes, text, bindings, start, stop, children⟩ := element
  rw [Element.unplaced, Element.unplacedAll_eq]
  rfl

def stem (element : Element) : Leaf × List Leaf :=
  (leaf element, element.children.map leaf)

theorem unplaced_eq_of_stem {element : Element}
    (h : ∀ inner ∈ element.children, inner.children.isEmpty = true) :
    element.unplaced = build (stem element).1 ((stem element).2.map (build · [])) := by
  rw [unplaced_eq_build, stem, List.map_map]
  congr 1
  apply List.map_congr_left
  intro inner hinner
  rw [unplaced_eq_build, List.isEmpty_iff.mp (h inner hinner)]
  rfl

/-- Roots with the same children the other way round, none of which asks for a document, and which
do not declare one name twice. -/
def Mirrors (root other : Element) : Prop :=
  root.name = other.name ∧ root.attributes = other.attributes ∧
    (∀ child ∈ root.children ++ other.children, child.isDirective = false ∧
      ∀ inner ∈ child.children, inner.children.isEmpty = true) ∧
    root.children.map stem = (other.children.map stem).reverse ∧ root.declaredKeys.Nodup

instance (root other : Element) : Decidable (Mirrors root other) :=
  inferInstanceAs (Decidable (_ ∧ _))

theorem Mirrors.permuted {root other : Element} (h : Mirrors root other) : root.Permuted other := by
  obtain ⟨hname, hattributes, hchildren, hstems, _⟩ := h
  have hunplaced : ∀ elements : List Element, (∀ child ∈ elements, ∀ inner ∈ child.children,
      inner.children.isEmpty = true) → elements.map Element.unplaced =
        (elements.map stem).map fun stem => build stem.1 (stem.2.map (build · [])) := by
    intro elements helements
    rw [List.map_map]
    exact List.map_congr_left fun child hchild => unplaced_eq_of_stem (helements child hchild)
  have hdirectives : ∀ elements : List Element, (∀ child ∈ elements, child.isDirective = false) →
      elements.filter Element.isDirective = [] := by
    intro elements helements
    apply List.filter_eq_nil_iff.mpr
    intro child hchild
    rw [helements child hchild]
    exact Bool.false_ne_true
  obtain ⟨hroot, hother⟩ := List.forall_mem_append.mp hchildren
  refine ⟨hname, hattributes, ?_, ?_⟩
  · rw [hunplaced _ fun child hchild => (hroot child hchild).2,
      hunplaced _ fun child hchild => (hother child hchild).2, hstems]
    exact (List.reverse_perm _).map _
  · rw [hdirectives _ fun child hchild => (hroot child hchild).1,
      hdirectives _ fun child hchild => (hother child hchild).1]

theorem exists_roots : ∃ root root', Xml.readRoot (text "First" "Second") = .ok root ∧
    Xml.readRoot (text "Second" "First") = .ok root' ∧ Mirrors root root' := by
  exact exists_ok_of_bind (by decide +kernel)

theorem reorders : tree.Reorders Cased.options.limits other := by
  obtain ⟨root, root', hroot, hroot', hmirrors⟩ := exists_roots
  have hsize : (text "First" "Second").utf8ByteSize ≤ Cased.options.limits.size ↔
      (text "Second" "First").utf8ByteSize ≤ Cased.options.limits.size := by
    decide +kernel
  exact .cons ⟨rfl, .text ⟨hsize, root, root', hroot, hroot', hmirrors.permuted⟩⟩ .nil

theorem declaresOnce : Generation.DeclaresOnce tree Cased.options := by
  obtain ⟨root, _, hroot, _, hmirrors⟩ := exists_roots
  intro roots _ location _
  apply FileTree.declaresOnce_of_entries
  intro place text found hentry hfound
  cases List.mem_singleton.mp hentry
  rw [hroot] at hfound
  cases hfound
  exact hmirrors.2.2.2.2

def loaded : Except Error Loading :=
  Loading.supply ⟨{}, []⟩ Cased.options.limits Cased.options.permissive Cased.request
    (.ok (text "First" "Second"))

def Known (set : SchemaSet) : Prop :=
  seeds set Cased.options = [.type ⟨0⟩, .type ⟨1⟩] ∧
    (∀ id ∈ ([⟨0⟩, ⟨1⟩] : List TypeId),
      Cased.hasFile set id = true ∧ set.successors id = []) ∧
    (set.typeDef ⟨0⟩).toOption.map TypeDef.structName = some "First" ∧
    (set.typeDef ⟨1⟩).toOption.map TypeDef.structName = some "Second"

instance (set : SchemaSet) : Decidable (Known set) :=
  inferInstanceAs (Decidable (_ ∧ _))

theorem exists_load : ∃ set, Generation.load tree Cased.options = .ok set ∧ Known set := by
  obtain ⟨next, hloaded, hpending, hknown⟩ : ∃ next, loaded = .ok next ∧ next.pending = [] ∧
      Known next.set := exists_ok_of_map (by decide +kernel)
  have hvalid : Cased.options.validate = .ok () := by decide +kernel
  have hroots : ∀ tree, Cased.options.rootPaths tree = .ok [⟨"./a.xsd"⟩] := by
    intro tree
    cbv
  refine ⟨next.set, ?_, hknown⟩
  have hnormal : (⟨"./a.xsd"⟩ : Path).normalize = ⟨"a.xsd"⟩ := by cbv
  have hread : Location.readFrom tree (.file ⟨"a.xsd"⟩) = .ok (text "First" "Second") :=
    Location.readFrom_single _
  rw [← hnormal] at hread
  rw [loaded, Cased.request, ← hnormal] at hloaded
  rw [Generation.load, hvalid, hroots]
  exact SchemaSet.load_of_supply hread hloaded hpending

variable {set : SchemaSet} (h : Known set)

include h

theorem mem_of_isReached {id : TypeId} (hid : IsReached set Cased.options id) :
    id ∈ ([⟨0⟩, ⟨1⟩] : List TypeId) := by
  obtain ⟨hseeds, hknown, _⟩ := h
  apply @IsReached.holds set Cased.options (· ∈ ([⟨0⟩, ⟨1⟩] : List TypeId)) _ _ id hid
  · intro seed hseed start hstart
    rw [hseeds] at hseed
    rcases List.mem_pair.mp hseed with rfl | rfl
    · cases hstart
      exact List.mem_cons_self
    · cases hstart
      exact List.mem_cons_of_mem _ List.mem_cons_self
  · intro id next hid hnext
    rw [SchemaSet.Refers, (hknown id hid).2] at hnext
    cases hnext

theorem succeeds : Succeeds set Cased.options where
  known seed hseed := by
    rw [h.1] at hseed
    rcases List.mem_pair.mp hseed with rfl | rfl
    · exact Seed.known_of_type? rfl
    · exact Seed.known_of_type? rfl
  becomes id hid := by
    obtain ⟨type, made, htype, hmade⟩ := Cased.exists_file (h.2.1 id (mem_of_isReached h hid)).1
    exact ⟨_, type, made, htype, hmade, rfl⟩

theorem not_collide {type other : TypeDef} (htype : set.typeDef ⟨0⟩ = .ok type)
    (hother : set.typeDef ⟨1⟩ = .ok other) : ¬ Collide Cased.options type other := by
  obtain ⟨_, _, hfirst, hsecond⟩ := h
  rw [htype] at hfirst
  rw [hother] at hsecond
  have hname : type.structName = "First" := Option.some.inj hfirst
  have hname' : other.structName = "Second" := Option.some.inj hsecond
  apply Emission.not_collide
  · rw [hname, hname']
    decide
  · rw [hname, hname']
    decide +kernel

theorem apart : Apart set Cased.options := by
  intro id next type type' hid hnext htype htype' hcollide
  rcases List.mem_pair.mp (mem_of_isReached h hid) with rfl | rfl
  · rcases List.mem_pair.mp (mem_of_isReached h hnext) with rfl | rfl
    · rfl
    · exact absurd hcollide (not_collide h htype htype')
  · rcases List.mem_pair.mp (mem_of_isReached h hnext) with rfl | rfl
    · exact absurd hcollide.symm (not_collide h htype' htype)
    · rfl

theorem exists_run (hload : Generation.load tree Cased.options = .ok set) :
    ∃ report after files, Generation.run tree Cased.options Sink.listing.recorded ([], []) =
      .ok report (after, files) := by
  obtain ⟨report, ⟨after, files⟩, hrun⟩ :=
    (Generation.exists_run_iff hload (apart h) (Sink.accepts_listing.steady _ _)).mpr
      ⟨succeeds h, fun _ _ => Sink.accepts_listing _ _ _ _⟩
  exact ⟨report, after, files, hrun⟩

end Swapped

theorem Generation.run_reorders_swapped : ∃ report report' after after' files files',
    Swapped.tree.Reorders Cased.options.limits Swapped.other ∧
    run Swapped.tree Cased.options Sink.listing.recorded ([], []) = .ok report (after, files) ∧
    run Swapped.other Cased.options Sink.listing.recorded ([], []) =
      .ok report' (after', files') ∧ ∀ file, file ∈ files ↔ file ∈ files' := by
  obtain ⟨set, hload, hknown⟩ := Swapped.exists_load
  obtain ⟨report, after, files, hrun⟩ := Swapped.exists_run hknown hload
  have hapart : ∀ set, load Swapped.tree Cased.options = .ok set →
      Emission.Apart set Cased.options := by
    intro found hfound
    rw [hload] at hfound
    cases hfound
    exact Swapped.apart hknown
  obtain ⟨hruns, hfiles⟩ := @run_reorders _ _ _ _ Sink.listing Swapped.reorders Swapped.declaresOnce
    hapart [] fun _ _ => Sink.accepts_listing.steady _ _
  obtain ⟨report', ⟨after', files'⟩, hrun'⟩ := hruns.mp ⟨report, (after, files), hrun⟩
  exact ⟨report, report', after, after', files, files', Swapped.reorders, hrun, hrun',
    hfiles report after files report' after' files' hrun hrun'⟩

end SchemaBinding
