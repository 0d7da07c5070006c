import SchemaBinding.Proofs.Loading.Loaded

namespace SchemaBinding

open Relation (ReflTransGen)

namespace SchemaSet

variable {set : SchemaSet} {kind : SymbolKind} {name : QName}

/-- A document whose target namespace is that of a name registers a component under its local
name. -/
def Registers (set : SchemaSet) (kind : SymbolKind) (name : QName) (number : DocumentId)
    (id : Id kind) : Prop :=
  ∃ document, set.document? number = some document ∧ document.targetSpace = name.space ∧
    (name.localName, id) ∈ document.symbols.symbols kind

/-- The first document of an order that registers anything under a name registers a component. -/
def RegistersFirst (set : SchemaSet) (kind : SymbolKind) (name : QName)
    (order : List DocumentId) (id : Id kind) : Prop :=
  ∃ before number after, order = before ++ number :: after ∧
    set.Registers kind name number id ∧
      ∀ earlier ∈ before, ∀ other, ¬ set.Registers kind name earlier other

/-- The order in which recursive visits along links come to documents, the only one there is. -/
structure VisitOrder (set : SchemaSet) (links : SchemaDocument → List DocumentId)
    (start : DocumentId) (order : List DocumentId) : Prop where
  tours : ∀ other, Tours set links [] start other ↔ order = other
  nodup : order.Nodup
  mem_iff : ∀ id, id ∈ order ↔ ReflTransGen (set.LinksTo links) start id

theorem visitOrder_walk {links : SchemaDocument → List DocumentId} (hclosed : set.Closed links)
    {start : DocumentId} (hstart : set.Loaded start) :
    set.VisitOrder links start (set.walk links [] [start]).reverse where
  tours := tours_iff hclosed hstart
  nodup := List.nodup_reverse.mpr (nodup_walk List.nodup_nil)
  mem_iff id := by
    rw [List.mem_reverse, mem_walk_iff]
    constructor
    · exact And.right
    · intro hreach
      exact ⟨hclosed.loaded hstart hreach, hreach⟩

theorem declaredIn?_eq_some_iff
    (hdistinct : ∀ document ∈ set.documents, document.symbols.Distinct) {number : DocumentId}
    {id : Id kind} :
    set.declaredIn? kind name number = some id ↔ set.Registers kind name number id := by
  unfold declaredIn? Registers
  simp only [Option.bind_eq_bind, Option.bind_eq_some_iff]
  constructor
  · rintro ⟨document, hdocument, h⟩
    have hsymbols := hdistinct document (Array.mem_of_getElem? hdocument)
    split at h
    case isTrue hspace =>
        have hspace := (eq_of_beq hspace).symm
        exact ⟨document, hdocument, hspace, hsymbols.get?_eq_some_iff.mp h⟩
    case isFalse => cases h
  · rintro ⟨document, hdocument, hspace, hmem⟩
    have hsymbols := hdistinct document (Array.mem_of_getElem? hdocument)
    refine ⟨document, hdocument, ?_⟩
    rw [QName.inNamespace, hspace, beq_self_eq_true, if_pos rfl]
    exact hsymbols.get?_eq_some_iff.mpr hmem

theorem declaredIn?_eq_none_iff
    (hdistinct : ∀ document ∈ set.documents, document.symbols.Distinct) {number : DocumentId} :
    set.declaredIn? kind name number = none ↔
      ∀ id, ¬ set.Registers kind name number id := by
  rw [Option.eq_none_iff_forall_ne_some]
  exact forall_congr' fun id => not_congr (declaredIn?_eq_some_iff hdistinct)

theorem findSome?_declaredIn?_iff
    (hdistinct : ∀ document ∈ set.documents, document.symbols.Distinct)
    {order : List DocumentId} {id : Id kind} :
    order.findSome? (set.declaredIn? kind name) = some id ↔
      set.RegistersFirst kind name order id := by
  rw [List.findSome?_eq_some_iff]
  simp only [declaredIn?_eq_some_iff hdistinct, declaredIn?_eq_none_iff hdistinct]
  rfl

theorem lookup?_of_links_nil {start : DocumentId} {document : SchemaDocument}
    (hdocument : set.document? start = some document) (hlinks : document.links = []) :
    set.lookup? kind name start = set.declaredIn? kind name start := by
  have hvisible : set.visible start = [start] := by
    rw [visible, walk, dif_neg List.not_mem_nil]
    split
    case h_1 hnone => cases hnone.symm.trans hdocument
    case h_2 found hfound =>
        cases hfound.symm.trans hdocument
        rw [hlinks, List.nil_append, walk]
        rfl
  rw [lookup?, hvisible, List.findSome?_singleton]

theorem exists_registersFirst_iff {order : List DocumentId} :
    (∃ id, set.RegistersFirst kind name order id) ↔
      ∃ number ∈ order, ∃ id, set.Registers kind name number id := by
  constructor
  · rintro ⟨id, before, number, after, rfl, hregisters, _⟩
    exact ⟨number, List.mem_append_right _ List.mem_cons_self, id, hregisters⟩
  · intro h
    induction order with
    | nil =>
        obtain ⟨_, hnone, _⟩ := h
        cases hnone
    | cons first rest ih =>
        by_cases hfirst : ∃ id, set.Registers kind name first id
        · obtain ⟨id, hid⟩ := hfirst
          exact ⟨id, [], first, rest, rfl, hid, by simp⟩
        · obtain ⟨number, hnumber, hregisters⟩ := h
          rcases List.mem_cons.mp hnumber with rfl | hlater
          · exact absurd hregisters hfirst
          · obtain ⟨id, before, found, after, rfl, hid, hbefore⟩ := ih ⟨number, hlater, hregisters⟩
            refine ⟨id, first :: before, found, after, rfl, hid, ?_⟩
            intro earlier hearlier other hother
            rcases List.mem_cons.mp hearlier with rfl | hmem
            · exact hfirst ⟨other, hother⟩
            · exact hbefore earlier hmem other hother

/-- Looking a name up from a document succeeds exactly when a document that links lead to
registers it, and finds what is registered first in an order. -/
structure LooksUpIn (set : SchemaSet) (start : DocumentId) (order : List DocumentId) : Prop where
  found_iff : ∀ kind name, (∃ id, set.lookup? kind name start = some id) ↔
    ∃ number, ReflTransGen (set.LinksTo SchemaDocument.links) start number ∧
      ∃ id, set.Registers kind name number id
  first : ∀ kind name id, set.lookup? kind name start = some id ↔
    set.RegistersFirst kind name order id

/-- A look-up in a loaded set finds what the first document registers, in the order of recursive
visits along inclusions and imports; and what a document includes stands in the order of such
visits along inclusions. -/
theorem lookup_in_order {tree : FileTree} {roots : List Path} {limits : Limits}
    {permissive : Bool} (hset : load tree roots limits permissive = .ok set)
    {start : DocumentId} (hstart : set.Loaded start) :
    (∃ order, set.VisitOrder SchemaDocument.links start order ∧ set.LooksUpIn start order) ∧
    set.VisitOrder SchemaDocument.includes start (set.includeClosure start) := by
  have horder : set.VisitOrder SchemaDocument.links start (set.visible start) :=
    visitOrder_walk (closed_links_of_load hset) hstart
  have hdistinct : ∀ document ∈ set.documents, document.symbols.Distinct :=
    fun document => distinct_of_load hset
  have hfirst : ∀ kind name id, set.lookup? kind name start = some id ↔
      set.RegistersFirst kind name (set.visible start) id :=
    fun _ _ _ => findSome?_declaredIn?_iff hdistinct
  refine ⟨⟨set.visible start, horder, ?_, hfirst⟩,
    visitOrder_walk (closed_includes_of_load hset) hstart⟩
  intro kind name
  simp only [hfirst, exists_registersFirst_iff, horder.mem_iff]

end SchemaSet

namespace Circle

def forSecond : Request :=
  ⟨second, some (⟨0⟩, .inclusion)⟩

def back : Request :=
  ⟨first, some (⟨1⟩, .inclusion)⟩

def loadFirst : Except Error Loading :=
  Loading.supply ⟨{}, []⟩ setting.limits setting.permissive ⟨first, none⟩ (.ok firstText)

def loadSecond (next : Loading) : Except Error Loading :=
  Loading.supply ⟨next.set, []⟩ setting.limits setting.permissive forSecond (.ok secondText)

def order : QName := ⟨none, "order"⟩

def item : QName := ⟨none, "item"⟩

def Known (set : SchemaSet) : Prop :=
  (set.document? ⟨0⟩).map SchemaDocument.links = some [⟨1⟩] ∧
    (set.document? ⟨1⟩).map SchemaDocument.links = some [⟨0⟩] ∧
    set.declaredIn? .element order ⟨0⟩ = some ⟨0⟩ ∧
    set.declaredIn? .element order ⟨1⟩ = some ⟨1⟩ ∧
    set.declaredIn? .element item ⟨0⟩ = none ∧ set.declaredIn? .element item ⟨1⟩ = some ⟨2⟩

instance : DecidablePred Known := fun _ =>
  inferInstanceAs (Decidable (_ ∧ _))

theorem exists_loaded : ∃ next last, loadFirst = .ok next ∧ next.pending = [forSecond] ∧
    Loading.known? next.set forSecond.location = none ∧ loadSecond next = .ok last ∧
    Loading.settle last.set last.pending = ⟨last.set.link back.parent ⟨0⟩, []⟩ ∧
    Known (last.set.link back.parent ⟨0⟩) := by
  have hfirst : ∃ next, loadFirst = .ok next ∧ next.pending = [forSecond] ∧
      Loading.known? next.set forSecond.location = none ∧
      (loadSecond next).toOption.map (fun last => decide (last.pending = [back] ∧
        Loading.known? last.set back.location = some ⟨0⟩ ∧
        Known (last.set.link back.parent ⟨0⟩))) = some true :=
    exists_ok_of_map (by decide +kernel)
  obtain ⟨next, hnext, hpending, hnew, hsecond⟩ := hfirst
  obtain ⟨last, hlast, hback, hseen, hknown⟩ := exists_ok_of_map hsecond
  refine ⟨next, last, hnext, hpending, hnew, hlast, ?_, hknown⟩
  simp only [hback, Loading.settle, hseen]

theorem exists_load :
    ∃ set, SchemaSet.load setting.tree [⟨"./a.xsd"⟩] .strict false = .ok set ∧ Known set := by
  obtain ⟨next, last, hnext, hpending, hnew, hlast, hsettled, hknown⟩ := exists_loaded
  have hbegin : Loading.settle (Loading.begin [⟨"./a.xsd"⟩]).set
      (Loading.begin [⟨"./a.xsd"⟩]).pending = ⟨{}, [⟨first, none⟩]⟩ := by cbv
  have hwaiting : Loading.settle next.set next.pending = ⟨next.set, [forSecond]⟩ := by
    simp only [hpending, Loading.settle, hnew]
  refine ⟨_, ?_, hknown⟩
  calc
    _ = Loading.run .strict false (Location.readFrom setting.tree) next :=
      Loading.run_of_supply hbegin readText_first hnext
    _ = Loading.run .strict false (Location.readFrom setting.tree) last :=
      Loading.run_of_supply hwaiting readText_second hlast
    _ = .ok (last.set.link back.parent ⟨0⟩) := by
      rw [Loading.run_eq, hsettled]

namespace Known

variable {set : SchemaSet} (h : Known set)

include h

theorem tours_first : SchemaSet.Tours set SchemaDocument.links [] ⟨0⟩ [⟨0⟩, ⟨1⟩] := by
  obtain ⟨hlinks, hlinks', _⟩ := h
  obtain ⟨document, hdocument, hlinks⟩ := Option.map_eq_some_iff.mp hlinks
  obtain ⟨document', hdocument', hlinks'⟩ := Option.map_eq_some_iff.mp hlinks'
  have hback :
      SchemaSet.ToursAll set SchemaDocument.links [⟨0⟩, ⟨1⟩] document'.links [⟨0⟩, ⟨1⟩] := by
    rw [hlinks']
    exact .cons (.passed List.mem_cons_self) .nil
  have hforth : SchemaSet.ToursAll set SchemaDocument.links [⟨0⟩] document.links [⟨0⟩, ⟨1⟩] := by
    rw [hlinks]
    exact .cons (.taken (by decide) hdocument' hback) .nil
  exact .taken List.not_mem_nil hdocument hforth

end Known

end Circle

/-- From the first document of the circle its own element is found, which hides that of the second
document, and by way of it the other element of that document. -/
theorem SchemaSet.lookup_in_circle :
    ∃ set, load Circle.setting.tree [⟨"./a.xsd"⟩] .strict false = .ok set ∧ set.Loaded ⟨0⟩ ∧
      set.VisitOrder SchemaDocument.links ⟨0⟩ [⟨0⟩, ⟨1⟩] ∧ set.LooksUpIn ⟨0⟩ [⟨0⟩, ⟨1⟩] ∧
      set.VisitOrder SchemaDocument.includes ⟨0⟩ (set.includeClosure ⟨0⟩) ∧
      set.Registers .element Circle.order ⟨1⟩ ⟨1⟩ ∧
      set.lookup? .element Circle.order ⟨0⟩ = some ⟨0⟩ ∧
      set.Registers .element Circle.item ⟨1⟩ ⟨2⟩ ∧
      set.lookup? .element Circle.item ⟨0⟩ = some ⟨2⟩ := by
  obtain ⟨set, hset, hknown⟩ := Circle.exists_load
  have htours := hknown.tours_first
  obtain ⟨hlinks, _, hown, hhidden, hnone, hitem⟩ := hknown
  obtain ⟨document, hdocument, _⟩ := Option.map_eq_some_iff.mp hlinks
  obtain ⟨⟨order, hvisits, hfinds⟩, hincludes⟩ := lookup_in_order hset ⟨document, hdocument⟩
  obtain rfl := (hvisits.tours _).mp htours
  have hdistinct : ∀ document ∈ set.documents, document.symbols.Distinct :=
    fun document => distinct_of_load hset
  have hown := (declaredIn?_eq_some_iff hdistinct).mp hown
  have hhidden := (declaredIn?_eq_some_iff hdistinct).mp hhidden
  have hitem := (declaredIn?_eq_some_iff hdistinct).mp hitem
  have hnone := (declaredIn?_eq_none_iff hdistinct).mp hnone
  refine ⟨set, hset, ⟨document, hdocument⟩, hvisits, hfinds, hincludes, hhidden, ?_, hitem, ?_⟩
  · exact (hfinds.first _ _ _).mpr ⟨[], ⟨0⟩, [⟨1⟩], rfl, hown, nofun⟩
  · refine (hfinds.first _ _ _).mpr ⟨[⟨0⟩], ⟨1⟩, [], rfl, hitem, ?_⟩
    intro earlier hearlier
    rw [List.mem_singleton.mp hearlier]
    exact hnone

end SchemaBinding
