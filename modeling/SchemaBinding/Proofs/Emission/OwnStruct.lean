import SchemaBinding.Proofs.Emission.Reach
import SchemaBinding.Proofs.Emission.Roots

namespace SchemaBinding

namespace Emission

variable {σ : Type} {set : SchemaSet} {options : Options} {sink : Sink σ}

/-- A run with these files starts from the type, writes it, or refers to it in a struct. -/
def CameTo (set : SchemaSet) (options : Options) (deliveries : List Delivery) (id : TypeId) :
    Prop :=
  IsStart set options id ∨ ∃ delivery ∈ deliveries, delivery.id = id ∨ set.Refers delivery.id id

/-- A struct is listed under the package and the name of the type and with its namespace. -/
def HasOwnStruct (options : Options) (structs : List EmittedStruct) (type : TypeDef) : Prop :=
  ∃ entry ∈ structs, (entry.package, entry.name) = type.structKey options ∧
    entry.space = type.space

/-- Types of one package and name that a run comes to are of one namespace. -/
def SpacesApart (set : SchemaSet) (options : Options) (deliveries : List Delivery) : Prop :=
  ∀ first second type other, CameTo set options deliveries first →
    CameTo set options deliveries second → set.typeDef first = .ok type →
      set.typeDef second = .ok other → type.structKey options = other.structKey options →
        type.space = other.space

theorem claimed_of_delivery {claims : Claims} {deliveries : List Delivery}
    (hkeys : claims.keys = deliveries.map Delivery.key) {delivery : Delivery}
    (hfits : delivery.Fits set options) (hdelivery : delivery ∈ deliveries) :
    Claimed set options claims delivery.id := by
  obtain ⟨type, htype, hkey⟩ := key_eq_of_fits hfits
  refine ⟨type, htype, ?_⟩
  rw [hkeys, ← hkey]
  exact List.mem_map_of_mem hdelivery

theorem exists_delivery_of_cameTo {before after : Emission σ} {deliveries : List Delivery}
    (h : Ran set options sink before after ((seeds set options).filterMap (Seed.type? set))
      deliveries) (hclaims : before.claims = []) {id : TypeId}
    (hid : CameTo set options deliveries id) {type : TypeDef} (htype : set.typeDef id = .ok type) :
    ∃ delivery ∈ deliveries, delivery.key = type.structKey options := by
  have hkeys : after.claims.keys = deliveries.map Delivery.key := by
    rw [h.keys, hclaims]
    rfl
  have hclaimed : Claimed set options after.claims id := by
    rcases hid with hstart | ⟨delivery, hdelivery, rfl | hnext⟩
    · exact h.started id (mem_seeds_iff.mpr hstart)
    · exact claimed_of_delivery hkeys (h.delivered.fits delivery hdelivery) hdelivery
    · exact h.closed delivery hdelivery id hnext
  obtain ⟨found, hfound, hmem⟩ := hclaimed
  cases eq_of_ok hfound htype
  rw [hkeys] at hmem
  obtain ⟨delivery, hdelivery, hkey⟩ := List.mem_map.mp hmem
  exact ⟨delivery, hdelivery, hkey⟩

/-- Of the types with one package and name, those of one namespace only have a struct. -/
theorem space_eq_of_hasOwnStruct {before after : Emission σ} {deliveries : List Delivery}
    (h : Ran set options sink before after ((seeds set options).filterMap (Seed.type? set))
      deliveries) (hclaims : before.claims = []) {type other : TypeDef}
    (htype : HasOwnStruct options (deliveries.map Delivery.entry) type)
    (hother : HasOwnStruct options (deliveries.map Delivery.entry) other)
    (hkey : type.structKey options = other.structKey options) : type.space = other.space := by
  have hnodup : (deliveries.map Delivery.key).Nodup := by
    have hclaimed := h.nodup (by
      rw [hclaims]
      exact List.nodup_nil)
    rw [h.keys, hclaims] at hclaimed
    exact hclaimed
  obtain ⟨entry, hentry, hnamed, hspace⟩ := htype
  obtain ⟨entry', hentry', hnamed', hspace'⟩ := hother
  obtain ⟨delivery, hdelivery, rfl⟩ := List.mem_map.mp hentry
  obtain ⟨delivery', hdelivery', rfl⟩ := List.mem_map.mp hentry'
  have hsame : delivery.key = delivery'.key := hnamed.trans (hkey.trans hnamed'.symm)
  cases List.inj_on_of_nodup_map hnodup hdelivery hdelivery' hsame
  exact hspace.symm.trans hspace'

theorem hasOwnStruct_iff {before after : Emission σ} {deliveries : List Delivery}
    (h : Ran set options sink before after ((seeds set options).filterMap (Seed.type? set))
      deliveries) (hclaims : before.claims = []) :
    (∀ id type, CameTo set options deliveries id → set.typeDef id = .ok type →
        HasOwnStruct options (deliveries.map Delivery.entry) type) ↔
      SpacesApart set options deliveries := by
  constructor
  · intro hown first second type other hfirst hsecond htype hother
    exact space_eq_of_hasOwnStruct h hclaims (hown first type hfirst htype)
      (hown second other hsecond hother)
  · intro hapart id type hid htype
    obtain ⟨delivery, hdelivery, hkey⟩ := exists_delivery_of_cameTo h hclaims hid htype
    refine ⟨delivery.entry, List.mem_map_of_mem hdelivery, hkey, ?_⟩
    obtain ⟨found, hfound, hspace, hfile⟩ := h.delivered.fits delivery hdelivery
    obtain ⟨same, hsame, hown⟩ := key_eq_of_fits ⟨found, hfound, hspace, hfile⟩
    cases eq_of_ok hfound hsame
    rw [Delivery.entry, hspace]
    exact hapart delivery.id id found type (.inr ⟨delivery, hdelivery, .inl rfl⟩) hid hfound htype
      (hown.symm.trans hkey)

end Emission

namespace Generation

open Emission

theorem exists_ran {σ : Type} {tree : FileTree} {options : Options} {sink : Sink σ}
    {before after : σ} {report : Report} (h : run tree options sink before = .ok report after) :
    ∃ set emission deliveries, load tree options = .ok set ∧
      report.structs = deliveries.map Delivery.entry ∧
      Ran set options sink { works := { sink := before } } emission
        ((seeds set options).filterMap (Seed.type? set)) deliveries := by
  obtain ⟨set, emission, hload, hroots, rfl, _⟩ := run_eq_ok_iff.mp h
  obtain ⟨deliveries, hran⟩ := ran_emitSeeds (Memo.settled_empty set) hroots
  exact ⟨set, emission, deliveries, hload, hran.delivered.structs, hran⟩

/-- After a run that succeeds, the types that it came to have structs of their own namespaces
exactly when no package and name is shared by types of different namespaces. -/
theorem own_structs_iff {σ : Type} {tree : FileTree} {options : Options} {sink : Sink σ}
    {before after : σ} {report : Report} (h : run tree options sink before = .ok report after) :
    ∃ set deliveries, load tree options = .ok set ∧
      report.structs = deliveries.map Delivery.entry ∧
      (∀ delivery ∈ deliveries, delivery.Fits set options ∧ IsReached set options delivery.id) ∧
      ((∀ id type, CameTo set options deliveries id → set.typeDef id = .ok type →
          HasOwnStruct options report.structs type) ↔
        SpacesApart set options deliveries) := by
  obtain ⟨set, emission, deliveries, hload, hstructs, hran⟩ := exists_ran h
  refine ⟨set, deliveries, hload, hstructs, ?_, ?_⟩
  · intro delivery hdelivery
    obtain ⟨start, hstart, hreach⟩ := hran.reached delivery hdelivery
    exact ⟨hran.delivered.fits delivery hdelivery, start, mem_seeds_iff.mp hstart, hreach⟩
  · rw [hstructs]
    exact hasOwnStruct_iff hran rfl

end Generation

/-! Two documents whose namespaces end alike, each with a type of one name. -/

namespace Namesakes

open Emission

def text (space : String) : String :=
  "<schema xmlns=\"http://www.w3.org/2001/XMLSchema\" targetNamespace=\"" ++ space ++
    "\"><complexType name=\"Item\"><sequence/></complexType></schema>"

def tree : FileTree :=
  Twofold.treeOf (text "urn:order") (text "urn:b:order")

def options : Options :=
  Cased.options.withRoots [⟨"a.xsd"⟩, ⟨"b.xsd"⟩]

def request (file : String) : Request :=
  ⟨.file ⟨file⟩, none⟩

def Named (space : String) (type : TypeDef) : Prop :=
  type.space = some space ∧ type.structKey options = ("order", "Item")

instance (space : String) (type : TypeDef) : Decidable (Named space type) :=
  inferInstanceAs (Decidable (_ ∧ _))

def Known (set : SchemaSet) : Prop :=
  seeds set options = [.type ⟨0⟩, .type ⟨1⟩] ∧
    (∀ id ∈ ([⟨0⟩, ⟨1⟩] : List TypeId),
      Cased.hasFile set id = true ∧ set.successors id = []) ∧
    (set.typeDef ⟨0⟩).toOption.map (fun type => decide (Named "urn:order" type)) = some true ∧
    (set.typeDef ⟨1⟩).toOption.map (fun type => decide (Named "urn:b:order" type)) = some true

instance (set : SchemaSet) : Decidable (Known set) :=
  inferInstanceAs (Decidable (_ ∧ _))

def loadSecond (first : Loading) : Except Error Loading :=
  Loading.supply ⟨first.set, []⟩ options.limits options.permissive (request "b.xsd")
    (.ok (text "urn:b:order"))

theorem exists_loaded : ∃ first last, Loading.supply ⟨{}, [request "b.xsd"]⟩ options.limits
      options.permissive (request "a.xsd") (.ok (text "urn:order")) = .ok first ∧
    first.pending = [request "b.xsd"] ∧ Loading.known? first.set (request "b.xsd").location = none ∧
    loadSecond first = .ok last ∧ last.pending = [] ∧ Known last.set := by
  have hfirst : ∃ first, Loading.supply ⟨{}, [request "b.xsd"]⟩ options.limits
        options.permissive (request "a.xsd") (.ok (text "urn:order")) = .ok first ∧
      first.pending = [request "b.xsd"] ∧
      Loading.known? first.set (request "b.xsd").location = none ∧
      (loadSecond first).toOption.map
        (fun last => decide (last.pending = [] ∧ Known last.set)) = some true :=
    exists_ok_of_map (by decide +kernel)
  obtain ⟨first, hsupply, hpending, hknown, hsecond⟩ := hfirst
  obtain ⟨last, hlast, hdone, hset⟩ := exists_ok_of_map hsecond
  exact ⟨first, last, hsupply, hpending, hknown, hlast, hdone, hset⟩

theorem exists_load : ∃ set, Generation.load tree options = .ok set ∧ Known set := by
  obtain ⟨first, last, hfirst, hwaiting, hknown, hlast, hdone, hset⟩ := exists_loaded
  have hvalid : Cased.options.validate = .ok () := by decide +kernel
  have hbegun : Loading.begin ([⟨"a.xsd"⟩, ⟨"b.xsd"⟩].map Cased.options.inputDirectory.join) =
      ⟨{}, [request "a.xsd", request "b.xsd"]⟩ := by cbv
  have hbegin : Loading.settle {} [request "a.xsd", request "b.xsd"] =
      ⟨{}, [request "a.xsd", request "b.xsd"]⟩ := by cbv
  have hsettle : Loading.settle first.set first.pending = ⟨first.set, [request "b.xsd"]⟩ := by
    rw [hwaiting, Loading.settle, hknown]
  have hread : Location.readFrom tree (request "a.xsd").location = .ok (text "urn:order") :=
    Twofold.readFrom_first _ _
  have hread' : Location.readFrom tree (request "b.xsd").location = .ok (text "urn:b:order") :=
    Twofold.readFrom_second _ _
  have hrun : Loading.run options.limits options.permissive (Location.readFrom tree)
      ⟨{}, [request "a.xsd", request "b.xsd"]⟩ = .ok last.set := by
    calc
      _ = Loading.run options.limits options.permissive (Location.readFrom tree) first :=
        Loading.run_of_supply hbegin hread hfirst
      _ = Loading.run options.limits options.permissive (Location.readFrom tree) last :=
        Loading.run_of_supply hsettle hread' hlast
      _ = .ok last.set := Loading.run_of_settled hdone
  refine ⟨last.set, (Generation.load_withRoots_iff (List.cons_ne_nil _ _)).mpr ⟨hvalid, ?_⟩, hset⟩
  rw [LoadedIn, SchemaSet.load, hbegun]
  exact hrun

variable {set : SchemaSet} (h : Known set)

include h

theorem exists_types : ∃ first second, set.typeDef ⟨0⟩ = .ok first ∧ Named "urn:order" first ∧
    set.typeDef ⟨1⟩ = .ok second ∧ Named "urn:b:order" second := by
  obtain ⟨_, _, hfirst, hsecond⟩ := h
  obtain ⟨first, hfirst, hnamed⟩ := exists_ok_of_map hfirst
  obtain ⟨second, hsecond, hnamed'⟩ := exists_ok_of_map hsecond
  exact ⟨first, second, hfirst, hnamed, hsecond, hnamed'⟩

theorem exists_run (hload : Generation.load tree options = .ok set) :
    ∃ report files, Generation.run tree options Sink.memory [] = .ok report files := by
  obtain ⟨hseeds, hknown, _⟩ := h
  have hstarts : seeds set options = ([⟨0⟩, ⟨1⟩] : List TypeId).map .type := hseeds
  apply Generation.exists_run_of_types hload hstarts
  intro id hid
  obtain ⟨type, made, htype, hmade⟩ := Cased.exists_file (hknown id hid).1
  rw [← (Cased.options.agree_withRoots _).structFile_eq] at hmade
  exact ⟨⟨type, made, htype, hmade⟩, (hknown id hid).2⟩

theorem isStart {id : TypeId} (hid : id ∈ ([⟨0⟩, ⟨1⟩] : List TypeId)) :
    IsStart set options id := by
  have htypes : (seeds set options).filterMap (Seed.type? set) = [⟨0⟩, ⟨1⟩] := by
    rw [h.1]
    rfl
  rw [← mem_seeds_iff, htypes]
  exact hid

theorem isReached {id : TypeId} (hid : id ∈ ([⟨0⟩, ⟨1⟩] : List TypeId)) :
    IsReached set options id :=
  ⟨id, isStart h hid, .refl⟩

omit h

theorem not_hasOwnStruct {report : Report} {files : Table String String}
    (hrun : Generation.run tree options Sink.memory [] = .ok report files) {first second : TypeDef}
    (hspace : first.space ≠ second.space)
    (hkey : first.structKey options = second.structKey options) :
    ¬ (HasOwnStruct options report.structs first ∧ HasOwnStruct options report.structs second) := by
  rintro ⟨hfirst, hsecond⟩
  obtain ⟨_, _, deliveries, _, hstructs, hran⟩ := Generation.exists_ran hrun
  rw [hstructs] at hfirst hsecond
  exact hspace (space_eq_of_hasOwnStruct hran rfl hfirst hsecond hkey)

end Namesakes

/-- Two namespaces have one package, and of their types with one name only one is written. -/
theorem Generation.one_package_for_namesakes :
    ∃ set report files first second,
      Namesakes.options.validate = .ok () ∧ Namesakes.options.namespacePackages = [] ∧
      load Namesakes.tree Namesakes.options = .ok set ∧
      run Namesakes.tree Namesakes.options Sink.memory [] = .ok report files ∧
      Emission.IsReached set Namesakes.options ⟨0⟩ ∧
      Emission.IsReached set Namesakes.options ⟨1⟩ ∧
      set.typeDef ⟨0⟩ = .ok first ∧ set.typeDef ⟨1⟩ = .ok second ∧ first.space ≠ second.space ∧
      first.package Namesakes.options = second.package Namesakes.options ∧
      ¬ (Emission.HasOwnStruct Namesakes.options report.structs first ∧
        Emission.HasOwnStruct Namesakes.options report.structs second) := by
  obtain ⟨set, hload, hknown⟩ := Namesakes.exists_load
  obtain ⟨report, files, hrun⟩ := Namesakes.exists_run hknown hload
  obtain ⟨first, second, hfirst, ⟨hspace, hkey⟩, hsecond, hspace', hkey'⟩ :=
    Namesakes.exists_types hknown
  have hspaces : first.space ≠ second.space := by
    rw [hspace, hspace']
    decide
  have hkeys : first.structKey Namesakes.options = second.structKey Namesakes.options :=
    hkey.trans hkey'.symm
  exact ⟨set, report, files, first, second, (by decide +kernel), rfl, hload, hrun,
    Namesakes.isReached hknown (by decide), Namesakes.isReached hknown (by decide), hfirst, hsecond,
    hspaces, congrArg Prod.fst hkeys, Namesakes.not_hasOwnStruct hrun hspaces hkeys⟩

theorem Generation.own_structs_iff_namesakes :
    ∃ report files, run Namesakes.tree Namesakes.options Sink.memory [] = .ok report files ∧
      ∃ set deliveries, load Namesakes.tree Namesakes.options = .ok set ∧
        report.structs = deliveries.map Delivery.entry ∧
        (∀ delivery ∈ deliveries, delivery.Fits set Namesakes.options ∧
          Emission.IsReached set Namesakes.options delivery.id) ∧
        ((∀ id type, Emission.CameTo set Namesakes.options deliveries id →
            set.typeDef id = .ok type →
              Emission.HasOwnStruct Namesakes.options report.structs type) ↔
          Emission.SpacesApart set Namesakes.options deliveries) := by
  obtain ⟨set, hload, hknown⟩ := Namesakes.exists_load
  obtain ⟨report, files, hrun⟩ := Namesakes.exists_run hknown hload
  exact ⟨report, files, hrun, own_structs_iff hrun⟩

end SchemaBinding
