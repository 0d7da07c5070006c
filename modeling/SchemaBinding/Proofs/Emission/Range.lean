import SchemaBinding.Proofs.Emission.Complete
import SchemaBinding.Proofs.Report
import SchemaBinding.Proofs.Resolution.Range
import SchemaBinding.Proofs.Struct.Paired

namespace SchemaBinding

open Relation (ReflTransGen TransGen)

section

variable {σ α β : Type} {fails : Error → Prop} {good : α → Prop} {fine : β → Prop}

theorem lands_bind {work : EStateM Error σ α} {next : α → EStateM Error σ β} {before : σ}
    (hwork : Lands fails good (resultOf (work before)))
    (hnext : ∀ value between, work before = .ok value between → good value →
      Lands fails fine (resultOf (next value between))) :
    Lands fails fine (resultOf ((work >>= next) before)) := by
  simp only [bind, EStateM.bind]
  cases hresult : work before with
  | error error state =>
      rw [hresult] at hwork
      cases hwork with
      | error hfails => exact .error hfails
  | ok value between =>
      rw [hresult] at hwork
      cases hwork with
      | ok hgood => exact hnext value between hresult hgood

end

variable {σ : Type}

/-- The failures of a sink's own. -/
def Sink.Raises (sink : Sink σ) (error : Error) : Prop :=
  ∃ package file contents before after,
    sink.write package file contents before = .error error after

namespace Works

variable {set : SchemaSet} {options : Options} {sink : Sink σ}

theorem resultOf_resolving {α : Type} {work : Resolving α} {result : Except Error α}
    (h : Agrees set {} work result) {works : Works σ} (hsettled : works.memo.Settled set) :
    resultOf (resolving work works) = result := by
  obtain ⟨memo, _, heq⟩ := resolving_eq h hsettled
  rw [heq, resultOf_outcome]

theorem lands_writing (package file contents : String) (works : Works σ) :
    Lands (fun error => set.Shows error ∨ sink.Raises error) (fun _ => True)
      (resultOf (writing (sink.write package file contents) works)) := by
  unfold writing
  split
  case h_1 => exact .ok trivial
  case h_2 error state hwrite =>
      exact .error (.inr ⟨package, file, contents, works.sink, state, hwrite⟩)

end Works

namespace SchemaSet.LaidOut

variable {permissive : Bool} {set : SchemaSet} {layout : Layout}
  (h : set.LaidOut permissive layout) (options : Options) (sink : Sink σ)

include h

theorem lands_structFile {id : TypeId} {type : TypeDef} (htype : set.typeDef id = .ok type) :
    Lands set.Shows (fun made => ∀ next ∈ made.2, next.index < set.model.size .type)
      (Works.structFile set options set.answers id type) := by
  have hknown : set.Knows [⟨.type, id⟩] := by simpa [Knows] using index_lt_of_typeDef htype
  have hsame := h.id_same hknown
  have hmatches := h.paired_same.typeDef hsame
  rw [htype] at hmatches
  cases hmatches with
  | ok hmatches =>
      apply h.lands_of_parallel (h.paired_same.structFile options hsame hmatches)
      intro made made' hmade next hnext
      obtain ⟨_, _, hpaired⟩ := exists_rel_of_mem hmade.referenced hnext
      exact (h.same_iff.mp hpaired).2

theorem lands_writeStruct {id : TypeId} {type : TypeDef} (htype : set.typeDef id = .ok type)
    {works : Works σ} (hsettled : works.memo.Settled set) :
    Lands (fun error => set.Shows error ∨ sink.Raises error)
      (fun referenced => ∀ next ∈ referenced, next.index < set.model.size .type)
      (resultOf (Works.writeStruct set options sink id type works)) := by
  have hfile := h.lands_structFile options htype
  rw [← Works.resultOf_resolving (Works.agrees_structFile set options id type) hsettled] at hfile
  apply lands_bind (hfile.imp (fun _ => .inl) fun _ hgood => hgood)
  rintro ⟨file, referenced⟩ resolved _ hreferenced
  have hclaim : Lands (fun error => set.Shows error ∨ sink.Raises error) (fun _ => True)
      (resultOf (Works.claimFile file.package file.name resolved)) := .ok trivial
  apply lands_bind hclaim
  intro fileName claimed _ _
  apply lands_bind (Works.lands_writing file.package fileName file.text claimed)
  intro _ written _ _
  exact .ok hreferenced

theorem lands_walk {claims : Claims} {works : Works σ} {stack : List TypeId}
    (hstack : ∀ id ∈ stack, id.index < set.model.size .type)
    (hsettled : works.memo.Settled set) :
    Lands (fun error => set.Shows error ∨ sink.Raises error) (fun _ => True)
      (resultOf (Emission.walk set options sink claims works stack)) := by
  fun_induction Emission.walk set options sink claims works stack with
  | case1 => exact .ok trivial
  | case2 claims works id rest htype =>
      have hlt := hstack id List.mem_cons_self
      exact absurd htype (by simp [Model.type?, show id.index < set.model.types.size from hlt])
  | case3 claims works id rest type htype owner hclaim ih =>
      exact ih (fun other hother => hstack other (List.mem_cons_of_mem id hother)) hsettled
  | case4 claims works id rest type htype hclaim claimed error written hwrite =>
      have hlands := h.lands_writeStruct options sink (Emission.typeDef_of_type? htype) hsettled
      rw [hwrite] at hlands
      cases hlands with
      | error hfails => exact .error hfails
  | case5 claims works id rest type htype hclaim claimed referenced written hwrite _ ih =>
      have hlands := h.lands_writeStruct options sink (Emission.typeDef_of_type? htype) hsettled
      have hwritten := Works.settled_writeStruct options sink id type hsettled
      rw [hwrite] at hlands hwritten
      apply ih _ hwritten
      intro other hother
      rcases List.mem_append.mp hother with hmem | hmem
      · cases hlands with
        | ok hreferenced => exact hreferenced other hmem
      · exact hstack other (List.mem_cons_of_mem id hmem)

theorem lands_emit {id : TypeId} (hid : id.index < set.model.size .type) {emission : Emission σ}
    (hsettled : emission.works.memo.Settled set) :
    Lands (fun error => set.Shows error ∨ sink.Raises error) (fun _ => True)
      (resultOf (Emission.emit set options sink id emission)) := by
  apply h.lands_walk options sink _ hsettled
  intro other hother
  rw [List.mem_singleton.mp hother]
  exact hid

end SchemaSet.LaidOut

def Emission.Seed.symbol : Emission.Seed → Symbol
  | .element id => ⟨.element, id⟩
  | .type id => ⟨.type, id⟩

theorem Emission.exists_document_of_mem_seeds {set : SchemaSet} {options : Options} {seed : Seed}
    (h : seed ∈ seeds set options) :
    ∃ document ∈ set.documents, seed ∈ elementSeeds document ++ typeSeeds set document := by
  unfold seeds at h
  split at h
  case isTrue =>
      obtain ⟨document, hdocument, hseed⟩ := List.mem_flatMap.mp h
      exact ⟨document, Array.mem_toList_iff.mp hdocument, hseed⟩
  case isFalse =>
      obtain ⟨document, hdocument, hseed⟩ := List.mem_flatMap.mp h
      obtain ⟨id, _, hfound⟩ := List.mem_filterMap.mp hdocument
      exact ⟨document, Array.mem_of_getElem? hfound, List.mem_append_left _ hseed⟩

theorem SchemaSet.InRange.knows_seed {set : SchemaSet} (h : set.InRange) {options : Options}
    {seed : Emission.Seed} (hseed : seed ∈ Emission.seeds set options) :
    set.Knows [seed.symbol] := by
  obtain ⟨document, hdocument, hmem⟩ := Emission.exists_document_of_mem_seeds hseed
  have htable : ∀ {kind : SymbolKind} {entry : String × Id kind},
      entry ∈ document.symbols.symbols kind → set.Knows [⟨kind, entry.2⟩] := by
    intro kind entry hentry symbol hsymbol
    rw [List.mem_singleton.mp hsymbol]
    exact h.tables document hdocument _ (SymbolTable.mem_symbols_iff.mp hentry)
  rcases List.mem_append.mp hmem with helement | htype
  · obtain ⟨entry, hentry, rfl⟩ := List.mem_map.mp helement
    exact htable hentry
  · obtain ⟨entry, hentry, rfl⟩ := List.mem_map.mp htype
    exact htable (List.mem_of_mem_filter hentry)

namespace SchemaSet.LaidOut

variable {permissive : Bool} {set : SchemaSet} {layout : Layout}
  (h : set.LaidOut permissive layout) (options : Options) (sink : Sink σ)

include h

theorem lands_emitSeed {seed : Emission.Seed} (hseed : set.Knows [seed.symbol])
    {emission : Emission σ} (hsettled : emission.works.memo.Settled set) :
    Lands (fun error => set.Shows error ∨ sink.Raises error) (fun _ => True)
      (resultOf (Emission.emitSeed set options sink seed emission)) := by
  cases seed with
  | type id => exact h.lands_emit options sink (hseed _ List.mem_cons_self) hsettled
  | element id =>
      obtain ⟨memo, hmemo, heq⟩ := Emission.elementType_eq hsettled id
      have hanswer := h.lands_meaning (.elementType id) hseed
      have htype : Lands (fun error => set.Shows error ∨ sink.Raises error)
          (fun target => set.Knows (TypeTarget.symbols target))
          (resultOf (Emission.elementType set id emission)) := by
        rw [heq, resultOf_outcome]
        exact hanswer.imp (fun _ => .inl) fun _ hgood => hgood
      apply lands_bind htype
      intro target between hbetween hknown
      rw [heq] at hbetween
      obtain ⟨_, rfl⟩ := eq_ok_of_outcome hbetween
      cases target with
      | builtin type => exact .ok trivial
      | simple next => exact .ok trivial
      | complex next => exact h.lands_emit options sink (hknown _ List.mem_cons_self) hmemo

theorem lands_emitSeeds {seeds : List Emission.Seed}
    (hseeds : ∀ seed ∈ seeds, set.Knows [seed.symbol]) {emission : Emission σ}
    (hsettled : emission.works.memo.Settled set) :
    Lands (fun error => set.Shows error ∨ sink.Raises error) (fun _ => True)
      (resultOf (Emission.emitSeeds set options sink seeds emission)) := by
  induction seeds generalizing emission with
  | nil => exact .ok trivial
  | cons seed rest ih =>
      apply lands_bind (h.lands_emitSeed options sink (hseeds seed List.mem_cons_self) hsettled)
      intro _ between hbetween _
      have hkept := (Emission.lasting_settled options sink).emitSeed seed hsettled
      rw [hbetween] at hkept
      exact ih (fun other hother => hseeds other (List.mem_cons_of_mem seed hother)) hkept

theorem lands_ofMember (package : String) {member : Member} (hmember : set.Knows member.symbols)
    {memo : Memo} (hsettled : memo.Settled set) :
    Lands set.Shows (fun field => ∀ next, field.referenced = some next →
        next.index < set.model.size .type)
      (resultOf (Field.ofMember set options package member memo)) := by
  obtain ⟨next, _, _, heq⟩ := Field.follows_memberField set options (Resolving.serves_answers set)
    package member memo hsettled.1 hsettled.2
  rw [Field.ofMember, heq, resultOf_outcome]
  apply h.lands_of_parallel (h.paired_same.memberField options h.paired_same.answers package
    (h.member_same hmember))
  intro field field' hfield next hnext
  have hreferenced := hfield.referenced
  rw [hnext] at hreferenced
  generalize field'.referenced = other at hreferenced
  cases hreferenced with
  | some hpaired => exact (h.same_iff.mp hpaired).2

end SchemaSet.LaidOut

/-! Loaded sets. -/

namespace SchemaSet

/-- What starts from numbers of a set stays among them: walks, look-ups, answers from any memo,
fields and emissions. Their failures show what is there, or are a sink's own. -/
structure Safe (set : SchemaSet) : Prop where
  visible : ∀ id next : DocumentId, id.index < set.size →
    ReflTransGen (set.LinksTo SchemaDocument.links) id next → next.index < set.size
  included : ∀ id next : DocumentId, id.index < set.size →
    ReflTransGen (set.LinksTo SchemaDocument.includes) id next → next.index < set.size
  byPath : ∀ path id, set.documentByPath? path = some id → id.index < set.size
  lookup : ∀ (kind : SymbolKind) name id found, set.lookup? kind name id = some found →
    found.index < set.model.size kind
  reference : ∀ (reference : TypeRef) (span : Span), set.Knows reference.mentions.symbols →
    span.document.index < set.size →
      Lands set.Shows (fun target => set.Knows target.symbols) (set.resolveTypeRef reference span)
  query : ∀ (memo : Memo) (query : Query), memo.Reachable set → set.Knows query.symbols →
    Lands set.Shows (fun value => set.Knows (query.found value)) (query.answer set memo)
  field : ∀ (options : Options) (package : String) (member : Member) (memo : Memo),
    memo.Reachable set → set.Knows member.symbols →
      Lands set.Shows (fun field => ∀ next, field.referenced = some next →
          next.index < set.model.size .type)
        (resultOf (Field.ofMember set options package member memo))
  emit : ∀ {σ : Type} (options : Options) (sink : Sink σ) (id : TypeId) (emission : Emission σ),
    emission.works.memo.Reachable set → id.index < set.model.size .type →
      Lands (fun error => set.Shows error ∨ sink.Raises error) (fun _ => True)
        (resultOf (Emission.emit set options sink id emission))
  emitRoots : ∀ {σ : Type} (options : Options) (sink : Sink σ) (emission : Emission σ),
    emission.works.memo.Reachable set →
      Lands (fun error => set.Shows error ∨ sink.Raises error) (fun _ => True)
        (resultOf (Emission.emitRoots set options sink emission))

variable {tree : FileTree} {roots : List Path} {limits : Limits} {permissive : Bool}
  {set : SchemaSet}

theorem safe_of_load (h : load tree roots limits permissive = .ok set) : set.Safe := by
  obtain ⟨layout, hlaid⟩ := exists_layout_of_load h
  have hrange := inRange_of_load h
  constructor
  case visible =>
      intro id next hid hreach
      exact index_lt_of_loaded
        ((closed_links_of_load h).loaded (loaded_of_index_lt hid) hreach)
  case included =>
      intro id next hid hreach
      exact index_lt_of_loaded
        ((closed_includes_of_load h).loaded (loaded_of_index_lt hid) hreach)
  case byPath =>
      intro path id hid
      simp only [documentByPath?, withPath?, Option.map_eq_some_iff] at hid
      obtain ⟨index, hindex, rfl⟩ := hid
      exact (Array.findIdx?_eq_some_iff_getElem.mp hindex).choose
  case lookup =>
      intro kind name start found hfound
      obtain ⟨id, _, hdeclared⟩ := List.exists_of_findSome?_eq_some hfound
      simp only [declaredIn?, Option.bind_eq_bind, Option.bind_eq_some_iff] at hdeclared
      obtain ⟨document, hdocument, hget⟩ := hdeclared
      split at hget
      · exact hlaid.inRange_of_get? hdocument hget
      · cases hget
  case reference =>
      intro reference span hknown hspan
      exact hlaid.lands_resolveTypeRef hknown (loaded_of_index_lt hspan)
  case query =>
      intro memo query hmemo hknown
      rw [hmemo.settled.answer_eq query]
      exact hlaid.lands_meaning query hknown
  case field =>
      intro options package member memo hmemo hknown
      exact hlaid.lands_ofMember options package hknown hmemo.settled
  case emit =>
      intro σ options sink id emission hmemo hid
      exact hlaid.lands_emit options sink hid hmemo.settled
  case emitRoots =>
      intro σ options sink emission hmemo
      exact hlaid.lands_emitSeeds options sink (fun _ => hrange.knows_seed) hmemo.settled

/-- In a loaded set all numbers are in range, what is inside a type has a smaller number, so that
going inwards ends, and nothing that starts from the set asks for what is not there. -/
theorem all_in_range (h : load tree roots limits permissive = .ok set) :
    set.InRange ∧
      (∀ outer inner, set.Encloses outer inner → inner.index < outer.index) ∧
      WellFounded (fun inner outer => set.Encloses outer inner) ∧ set.Safe := by
  obtain ⟨layout, hlaid⟩ := exists_layout_of_load h
  exact ⟨inRange_of_load h, fun _ _ => hlaid.index_lt_of_encloses, hlaid.wellFounded_encloses,
    safe_of_load h⟩

end SchemaSet

/-! A type of an element, with an element of another such type inside. -/

namespace Nested

open SchemaSet

def text : String :=
  "<schema xmlns=\"http://www.w3.org/2001/XMLSchema\"><element name=\"outer\"><complexType>" ++
    "<sequence><element name=\"inner\"><complexType><sequence/></complexType></element>" ++
    "</sequence></complexType></element></schema>"

def tree : FileTree :=
  ⟨[(⟨.above 0, ["a.xsd"]⟩, .file (.text text))]⟩

def request : Request := ⟨.file ⟨"a.xsd"⟩, none⟩

def loaded : Except Error Loading :=
  Loading.supply ⟨{}, []⟩ .strict false request (.ok text)

def mentions (set : SchemaSet) {kind : SymbolKind} (id : Id kind) : List Symbol :=
  ((set.model.component? id).map fun component =>
    (Component.mentions component).symbols).getD []

theorem mentions_of_mem {set : SchemaSet} {symbol next : Symbol}
    (h : next ∈ mentions set symbol.id) : set.Mentions symbol next := by
  unfold mentions at h
  cases hcomponent : set.model.component? symbol.id with
  | none =>
      rw [hcomponent] at h
      cases h
  | some component =>
      rw [hcomponent] at h
      exact ⟨component, hcomponent, h⟩

theorem exists_loaded : ∃ next, loaded = .ok next ∧ next.pending = [] ∧
    ⟨.element, ⟨0⟩⟩ ∈ mentions next.set (⟨1⟩ : TypeId) ∧
    ⟨.type, ⟨0⟩⟩ ∈ mentions next.set (⟨0⟩ : ElementId) := by
  exact exists_ok_of_map (by decide +kernel)

theorem load_eq {next : Loading} (hloaded : loaded = .ok next) (hpending : next.pending = []) :
    load tree [⟨"a.xsd"⟩] .strict false = .ok next.set :=
  load_of_supply (Location.readFrom_single text) hloaded hpending

end Nested

theorem SchemaSet.all_in_range_nested :
    ∃ set, load Nested.tree [⟨"a.xsd"⟩] .strict false = .ok set ∧ set.Encloses ⟨1⟩ ⟨0⟩ ∧
      set.InRange ∧ (∀ outer inner, set.Encloses outer inner → inner.index < outer.index) ∧
      WellFounded (fun inner outer => set.Encloses outer inner) ∧ set.Safe := by
  obtain ⟨next, hloaded, hpending, helement, htype⟩ := Nested.exists_loaded
  have hload := Nested.load_eq hloaded hpending
  have hfirst : next.set.Mentions ⟨.type, ⟨1⟩⟩ ⟨.element, ⟨0⟩⟩ :=
    Nested.mentions_of_mem helement
  have hsecond : next.set.Mentions ⟨.element, ⟨0⟩⟩ ⟨.type, ⟨0⟩⟩ := Nested.mentions_of_mem htype
  exact ⟨next.set, hload, .tail (.single hfirst) hsecond, all_in_range hload⟩

end SchemaBinding
