import Mathlib.Data.List.Chain
import SchemaBinding.Proofs.Emission.Complete
import SchemaBinding.Proofs.Report
import SchemaBinding.Proofs.Resolution.Cycle
import SchemaBinding.Proofs.SchemaSet.Lookup
import SchemaBinding.Proofs.SchemaSet.Range

namespace SchemaBinding

open Relation (ReflTransGen)

section

variable {α : Type} {leads : α → α → Prop} {start : α}

/-- From here on there is always a next one. -/
def NeverEnds (leads : α → α → Prop) (start : α) : Prop :=
  ∃ path : Nat → α, path 0 = start ∧ ∀ n, leads (path n) (path (n + 1))

/-- The things passed in order from a start, no two the same but for the last, which is one of
those before it. -/
structure Revisits (leads : α → α → Prop) (start : α) (passed : List α) : Prop where
  first : passed.head? = some start
  linked : passed.IsChain leads
  back : ∃ front last, passed = front ++ [last] ∧ front.Nodup ∧ last ∈ front

theorem NeverEnds.head {next : α} (hunique : Relator.RightUnique leads)
    (h : NeverEnds leads start) (hnext : leads start next) : NeverEnds leads next := by
  obtain ⟨path, rfl, hpath⟩ := h
  exact ⟨fun n => path (n + 1), hunique (hpath 0) hnext, fun n => hpath (n + 1)⟩

theorem NeverEnds.exists_next {last : α} (hunique : Relator.RightUnique leads)
    (h : NeverEnds leads start) (hreach : ReflTransGen leads start last) :
    ∃ next, leads last next := by
  induction hreach using ReflTransGen.head_induction_on with
  | refl =>
      obtain ⟨path, rfl, hpath⟩ := h
      exact ⟨path 1, hpath 0⟩
  | head hnext _ ih => exact ih (h.head hunique hnext)

theorem Revisits.exists_next {passed : List α} (h : Revisits leads start passed) {thing : α}
    (hmem : thing ∈ passed) : ∃ next ∈ passed, leads thing next := by
  obtain ⟨front, last, rfl, _, hback⟩ := h.back
  have hfront : thing ∈ front := by
    rcases List.mem_append.mp hmem with hfront | hlast
    · exact hfront
    · exact List.mem_singleton.mp hlast ▸ hback
  obtain ⟨before, after, rfl⟩ := List.append_of_mem hfront
  have hlinked := h.linked
  rw [List.append_assoc, List.cons_append] at hlinked
  obtain ⟨next, rest, hrest⟩ := List.exists_cons_of_ne_nil
    (List.append_ne_nil_of_right_ne_nil after (List.cons_ne_nil last []))
  rw [hrest] at hlinked
  refine ⟨next, ?_, (List.isChain_split.mp hlinked).2.rel⟩
  have hnext : next ∈ after ++ [last] := hrest ▸ List.mem_cons_self
  simpa using Or.inr (Or.inr (List.mem_append.mp hnext))

theorem Revisits.neverEnds {passed : List α} (h : Revisits leads start passed) :
    NeverEnds leads start := by
  have hstep : ∀ thing : { thing // thing ∈ passed }, ∃ next : { thing // thing ∈ passed },
      leads thing next := by
    rintro ⟨thing, hmem⟩
    obtain ⟨next, hnext, hleads⟩ := h.exists_next hmem
    exact ⟨⟨next, hnext⟩, hleads⟩
  choose next hnext using hstep
  refine ⟨fun n => next^[n] ⟨start, List.mem_of_mem_head? h.first⟩, rfl, ?_⟩
  intro n
  change leads (next^[n] _).val (next^[n + 1] _).val
  rw [Function.iterate_succ_apply']
  exact hnext _

end

namespace SchemaSet

variable (set : SchemaSet) {kind : SymbolKind}

/-- The declaration is a reference by a name, written at a span. -/
def IsReference (id : Id kind) (name : QName) (span : Span) : Prop :=
  ∃ documentation, set.declared? kind id = some ⟨.reference name, documentation, span⟩

/-- The declaration is no reference, and the target is all that it says. -/
def IsTarget (target : Target kind) : Prop :=
  set.declared? kind target.id =
    some ⟨.named target.name target.type, target.documentation, target.span⟩

/-- The name of a reference, as its own document sees it, is that of another declaration. -/
def PointsTo (id next : Id kind) : Prop :=
  ∃ name span, set.IsReference id name span ∧
    set.lookup? kind name span.document = some next

def ArrivesAt (id : Id kind) (target : Target kind) : Prop :=
  ReflTransGen set.PointsTo id target.id ∧ set.IsTarget target

/-- References lead to one whose name, as its own document sees it, nothing has. -/
def DanglesAt (id : Id kind) (name : QName) (span : Span) : Prop :=
  ∃ last, ReflTransGen set.PointsTo id last ∧ set.IsReference last name span ∧
    set.lookup? kind name span.document = none

variable {set}

theorem pointsTo_rightUnique : Relator.RightUnique (@PointsTo set kind) := by
  rintro id next other ⟨name, span, ⟨_, hname⟩, hnext⟩ ⟨name', span', ⟨_, hname'⟩, hother⟩
  cases hname.symm.trans hname'
  exact Option.some.inj (hnext.symm.trans hother)

theorem IsTarget.not_pointsTo {target : Target kind} (h : set.IsTarget target) (next : Id kind) :
    ¬ set.PointsTo target.id next := by
  rintro ⟨name, span, ⟨_, hname⟩, _⟩
  cases h.symm.trans hname

theorem not_pointsTo_of_dangling {id : Id kind} {name : QName} {span : Span}
    (hname : set.IsReference id name span)
    (hnone : set.lookup? kind name span.document = none) (next : Id kind) :
    ¬ set.PointsTo id next := by
  rintro ⟨other, span', ⟨_, hother⟩, hnext⟩
  obtain ⟨_, hname⟩ := hname
  cases hname.symm.trans hother
  cases hnone.symm.trans hnext

theorem IsTarget.eq_of_id {target other : Target kind} (h : set.IsTarget target)
    (hother : set.IsTarget other) (hid : target.id = other.id) : target = other := by
  obtain ⟨id, name, type, documentation, span⟩ := target
  obtain ⟨id', name', type', documentation', span'⟩ := other
  cases hid
  cases h.symm.trans hother
  rfl

theorem eq_of_ends {id last other : Id kind} (hlast : ReflTransGen set.PointsTo id last)
    (hother : ReflTransGen set.PointsTo id other) (hend : ∀ next, ¬ set.PointsTo last next)
    (hend' : ∀ next, ¬ set.PointsTo other next) : last = other := by
  rcases ReflTransGen.total_of_right_unique pointsTo_rightUnique hlast hother with hreach | hreach
  · rcases hreach.cases_head with heq | ⟨next, hnext, _⟩
    · exact heq
    · exact absurd hnext (hend next)
  · rcases hreach.cases_head with heq | ⟨next, hnext, _⟩
    · exact heq.symm
    · exact absurd hnext (hend' next)

/-! What a chain comes to. -/

/-- What the references from a declaration come to: a target, a name that nothing has, or
declarations of which one is passed twice. -/
inductive ComesTo (set : SchemaSet) (id : Id kind) : Except Error (Target kind) → Prop
  | target {target : Target kind} : set.ArrivesAt id target → ComesTo set id (.ok target)
  | dangling {name : QName} {span : Span} : set.DanglesAt id name span →
      ComesTo set id (.error (.unresolved kind name.text (set.fragment span)))
  | cyclic {ids : List (Id kind)} : Revisits set.PointsTo id ids →
      ComesTo set id (.error (.cyclic kind (ids.map (set.declarationLabel kind))))

/-- All numbers of a kind are those of declarations, and so are those that references lead to. -/
structure AllDeclared (set : SchemaSet) (kind : SymbolKind) : Prop where
  declared : ∀ {id : Id kind}, id.index < set.model.size kind →
    ∃ found, set.declared? kind id = some found
  lookup : ∀ {name : QName} {start : DocumentId} {id : Id kind},
    set.lookup? kind name start = some id → id.index < set.model.size kind

/-- Each declaration that is passed refers to the one after it, so that the first one that comes
up again closes a loop. -/
theorem comesTo_target (hdeclares : set.AllDeclared kind) {start : Id kind}
    (passed : List (Id kind)) (id : Id kind) (hid : id.index < set.model.size kind)
    (hlinked : (id :: passed).IsChain fun next other => set.PointsTo other next)
    (hnodup : passed.Nodup) (hstart : (id :: passed).getLast? = some start)
    (hreach : ReflTransGen set.PointsTo start id) :
    set.ComesTo start (set.target kind passed id) := by
  fun_induction target set kind passed id with
  | case1 passed id hseen =>
      apply ComesTo.cyclic
      constructor
      · rw [List.head?_reverse]
        exact hstart
      · exact List.isChain_reverse.mpr hlinked
      · exact ⟨passed.reverse, id, List.reverse_cons, List.nodup_reverse.mpr hnodup,
          List.mem_reverse.mpr hseen⟩
  | case2 passed id hseen hnone =>
      obtain ⟨found, hfound⟩ := hdeclares.declared hid
      cases hnone.symm.trans hfound
  | case3 passed id hseen name type documentation span hfound => exact .target ⟨hreach, hfound⟩
  | case4 passed id hseen name documentation span hfound error hresolve =>
      obtain ⟨hnone, rfl⟩ := resolve_eq_error_iff.mp hresolve
      exact .dangling ⟨id, hreach, ⟨documentation, hfound⟩, hnone⟩
  | case5 passed id hseen name documentation span hfound next hresolve hless ih =>
      have hlookup := resolve_eq_ok_iff.mp hresolve
      have hpoints : set.PointsTo id next := ⟨name, span, ⟨documentation, hfound⟩, hlookup⟩
      apply ih
      · exact hdeclares.lookup hlookup
      · exact hlinked.cons_cons hpoints
      · exact List.nodup_cons.mpr ⟨hseen, hnodup⟩
      · rw [List.getLast?_cons_cons]
        exact hstart
      · exact hreach.tail hpoints

theorem comesTo_targetOf (hdeclares : set.AllDeclared kind) {id : Id kind}
    (hid : id.index < set.model.size kind) : set.ComesTo id (set.targetOf kind id) :=
  comesTo_target hdeclares [] id hid (.singleton id) List.nodup_nil rfl .refl

namespace ComesTo

variable {id : Id kind} {result : Except Error (Target kind)}

theorem ends (h : set.ComesTo id result) :
    (∃ target, result = .ok target) ∨
      (∃ text fragment, result = .error (.unresolved kind text fragment)) ∨
      ∃ labels, result = .error (.cyclic kind labels) := by
  cases h with
  | target _ => exact .inl ⟨_, rfl⟩
  | dangling _ => exact .inr (.inl ⟨_, _, rfl⟩)
  | cyclic _ => exact .inr (.inr ⟨_, rfl⟩)

theorem eq_ok_iff (h : set.ComesTo id result) {target : Target kind} :
    result = .ok target ↔ set.ArrivesAt id target := by
  constructor
  · rintro rfl
    cases h with
    | target harrives => exact harrives
  · rintro ⟨hreach, htarget⟩
    cases h with
    | target harrives =>
        have hid := eq_of_ends harrives.1 hreach harrives.2.not_pointsTo htarget.not_pointsTo
        rw [harrives.2.eq_of_id htarget hid]
    | dangling hdangles =>
        obtain ⟨last, hlast, ⟨_, hname⟩, hnone⟩ := hdangles
        have hend := not_pointsTo_of_dangling ⟨_, hname⟩ hnone
        cases eq_of_ends hlast hreach hend htarget.not_pointsTo
        cases htarget.symm.trans hname
    | cyclic hloop =>
        obtain ⟨next, hnext⟩ := hloop.neverEnds.exists_next pointsTo_rightUnique hreach
        exact absurd hnext (htarget.not_pointsTo next)

theorem eq_unresolved_iff (h : set.ComesTo id result) {text fragment : String} :
    result = .error (.unresolved kind text fragment) ↔ ∃ name span, set.DanglesAt id name span ∧
      text = name.text ∧ fragment = set.fragment span := by
  constructor
  · rintro rfl
    cases h with
    | dangling hdangles => exact ⟨_, _, hdangles, rfl, rfl⟩
  · rintro ⟨name, span, ⟨last, hlast, hname, hnone⟩, rfl, rfl⟩
    have hend := not_pointsTo_of_dangling hname hnone
    cases h with
    | target harrives =>
        cases eq_of_ends harrives.1 hlast harrives.2.not_pointsTo hend
        obtain ⟨_, hname⟩ := hname
        cases harrives.2.symm.trans hname
    | dangling hdangles =>
        obtain ⟨other, hother, hname', hnone'⟩ := hdangles
        cases eq_of_ends hlast hother hend (not_pointsTo_of_dangling hname' hnone')
        obtain ⟨_, hname⟩ := hname
        obtain ⟨_, hname'⟩ := hname'
        cases hname.symm.trans hname'
        rfl
    | cyclic hloop =>
        obtain ⟨next, hnext⟩ := hloop.neverEnds.exists_next pointsTo_rightUnique hlast
        exact absurd hnext (hend next)

theorem cyclic_iff (h : set.ComesTo id result) :
    (∃ names, result = .error (.cyclic kind names)) ↔ NeverEnds set.PointsTo id := by
  constructor
  · rintro ⟨names, rfl⟩
    cases h with
    | cyclic hloop => exact hloop.neverEnds
  · intro hnever
    cases h with
    | target harrives =>
        obtain ⟨next, hnext⟩ := hnever.exists_next pointsTo_rightUnique harrives.1
        exact absurd hnext (harrives.2.not_pointsTo next)
    | dangling hdangles =>
        obtain ⟨last, hlast, hname, hnone⟩ := hdangles
        obtain ⟨next, hnext⟩ := hnever.exists_next pointsTo_rightUnique hlast
        exact absurd hnext (not_pointsTo_of_dangling hname hnone next)
    | cyclic hloop => exact ⟨_, rfl⟩

theorem listed (h : set.ComesTo id result) {labels : List String}
    (hresult : result = .error (.cyclic kind labels)) :
    ∃ ids, Revisits set.PointsTo id ids ∧
      List.Forall₂ (fun passed label => ∃ name span, set.IsReference passed name span ∧
        label = "ref " ++ name.text) ids labels := by
  subst hresult
  cases h with
  | cyclic hloop =>
      refine ⟨_, hloop, ?_⟩
      rw [List.forall₂_map_right_iff, List.forall₂_same]
      intro passed hpassed
      obtain ⟨next, _, name, span, hname, _⟩ := hloop.exists_next hpassed
      refine ⟨name, span, hname, ?_⟩
      obtain ⟨documentation, hname⟩ := hname
      rw [declarationLabel, hname]
      rfl

end ComesTo

theorem IsTarget.targetOf_eq {target : Target kind} (h : set.IsTarget target) :
    set.targetOf kind target.id = .ok target := by
  rw [targetOf, target_eq, if_neg List.not_mem_nil, h]

theorem nameOf_of_targetOf {id : Id kind} {target : Target kind}
    (h : set.targetOf kind id = .ok target) : set.nameOf kind id = .ok target.name := by
  rw [nameOf, h]
  rfl

theorem typeOf_of_targetOf {id : Id kind} {target : Target kind}
    (h : set.targetOf kind id = .ok target) : set.typeOf kind id = set.targetType target := by
  rw [typeOf, h]
  rfl

theorem index_lt_of_lookup? (hset : set.InRange)
    (hdistinct : ∀ document ∈ set.documents, document.symbols.Distinct) {name : QName}
    {start : DocumentId} {id : Id kind} (h : set.lookup? kind name start = some id) :
    id.index < set.model.size kind := by
  obtain ⟨_, number, _, _, ⟨document, hdocument, _, hmem⟩, _⟩ :=
    (findSome?_declaredIn?_iff hdistinct).mp h
  exact hset.tables document (Array.mem_of_getElem? hdocument) _
    (SymbolTable.mem_symbols_iff.mp hmem)

/-- The type with a number, as what a type name stands for. -/
def TypedBy (set : SchemaSet) (id : TypeId) (target : TypeTarget) : Prop :=
  ∃ type, set.model.type? id = some type ∧
    target = if type.isComplex then .complex id else .simple id

/-- What the type of a declaration comes to where the declaration is written. A name is looked up
from the document there, unless it is one of the schema language. -/
inductive MeansType (set : SchemaSet) (span : Span) :
    Option TypeRef → Except Error TypeTarget → Prop
  | untyped : MeansType set span none (.ok (.builtin .anyType))
  | inline {id : TypeId} {target : TypeTarget} : set.TypedBy id target →
      MeansType set span (some (.inline id)) (.ok target)
  | builtin {name : QName} {type : Builtin} : name.space = some xsdNamespace →
      Builtin.lookup? name.localName = some type →
        MeansType set span (some (.named name)) (.ok (.builtin type))
  | notBuiltin {name : QName} : name.space = some xsdNamespace →
      Builtin.lookup? name.localName = none → MeansType set span (some (.named name))
        (.error (.unresolved .type name.text (set.fragment span)))
  | found {name : QName} {id : TypeId} {target : TypeTarget} : name.space ≠ some xsdNamespace →
      set.lookup? .type name span.document = some id → set.TypedBy id target →
        MeansType set span (some (.named name)) (.ok target)
  | notFound {name : QName} : name.space ≠ some xsdNamespace →
      set.lookup? .type name span.document = none → MeansType set span (some (.named name))
        (.error (.unresolved .type name.text (set.fragment span)))

theorem exists_typedBy {id : TypeId} (h : id.index < set.model.size .type) :
    ∃ target, set.typeTarget id = .ok target ∧ set.TypedBy id target := by
  have htype : set.model.type? id = some _ := Array.getElem?_eq_getElem h
  refine ⟨_, ?_, _, htype, rfl⟩
  rw [typeTarget, typeDef, htype]
  rfl

theorem meansType_targetType (hlookup : ∀ {name : QName} {start : DocumentId} {id : TypeId},
      set.lookup? .type name start = some id → id.index < set.model.size .type)
    {target : Target kind}
    (hinline : ∀ id, target.type = some (.inline id) → id.index < set.model.size .type) :
    set.MeansType target.span target.type (set.targetType target) := by
  unfold targetType
  cases htype : target.type with
  | none => exact .untyped
  | some reference =>
      cases reference with
      | inline id =>
          obtain ⟨found, hfound, htyped⟩ := exists_typedBy (hinline id htype)
          change set.MeansType target.span (some (.inline id)) (set.typeTarget id)
          rw [hfound]
          exact .inline htyped
      | named name =>
          change set.MeansType target.span (some (.named name))
            (set.resolveTypeName name target.span)
          unfold resolveTypeName
          split
          case isTrue hspace =>
              have hspace := eq_of_beq hspace
              split
              case h_1 type hbuiltin => exact .builtin hspace hbuiltin
              case h_2 hnone => exact .notBuiltin hspace hnone
          case isFalse hspace =>
              have hspace : name.space ≠ some xsdNamespace := fun heq => hspace (beq_iff_eq.mpr heq)
              unfold resolve
              cases hid : set.lookup? .type name target.span.document with
              | none => exact .notFound hspace hid
              | some id =>
                  obtain ⟨found, hfound, htyped⟩ := exists_typedBy (hlookup hid)
                  change set.MeansType target.span (some (.named name)) (set.typeTarget id)
                  rw [hfound]
                  exact .found hspace hid htyped

theorem exists_component_of_declared? {id : Id kind} {found : Declared}
    (h : set.declared? kind id = some found) :
    ∃ component, set.model.component? id = some component ∧
      ∀ symbol ∈ (Declaration.mentions found.declaration).symbols,
        symbol ∈ (Component.mentions component).symbols := by
  cases kind <;> simp only [declared?, Option.map_eq_some_iff, reduceCtorEq] at h
  all_goals
    obtain ⟨component, hcomponent, rfl⟩ := h
    exact ⟨component, hcomponent, fun _ => List.mem_append_left _⟩

theorem meansType_of_load {tree : FileTree} {roots : List Path} {limits : Limits}
    {permissive : Bool} (h : load tree roots limits permissive = .ok set)
    {target : Target kind} (htarget : set.IsTarget target) :
    set.MeansType target.span target.type (set.targetType target) := by
  refine meansType_targetType (index_lt_of_lookup? (inRange_of_load h) fun _ => distinct_of_load h)
    fun id hinline => ?_
  obtain ⟨component, hcomponent, hmentions⟩ := exists_component_of_declared? htarget
  apply (inRange_of_load h).components hcomponent ⟨.type, id⟩
  apply hmentions
  rw [hinline]
  exact List.mem_cons_self

theorem declares_elements_of_load {tree : FileTree} {roots : List Path} {limits : Limits}
    {permissive : Bool} (h : load tree roots limits permissive = .ok set) :
    set.AllDeclared .element where
  declared {id} hid := by
    obtain ⟨decl, hdecl⟩ : ∃ decl, set.model.element? id = some decl :=
      ⟨_, Array.getElem?_eq_getElem hid⟩
    simp only [declared?, hdecl]
    exact ⟨_, rfl⟩
  lookup := index_lt_of_lookup? (inRange_of_load h) fun _ => distinct_of_load h

theorem declares_attributes_of_load {tree : FileTree} {roots : List Path} {limits : Limits}
    {permissive : Bool} (h : load tree roots limits permissive = .ok set) :
    set.AllDeclared .attribute where
  declared {id} hid := by
    obtain ⟨decl, hdecl⟩ : ∃ decl, set.model.attribute? id = some decl :=
      ⟨_, Array.getElem?_eq_getElem hid⟩
    simp only [declared?, hdecl]
    exact ⟨_, rfl⟩
  lookup := index_lt_of_lookup? (inRange_of_load h) fun _ => distinct_of_load h

end SchemaSet

namespace Resolving

/-- What is answered from a memo for a declaration is what its chain of references comes to, and
its name and its type are those of the declaration at the end, also when they are asked for there
and from another memo. -/
structure FollowsReferences (set : SchemaSet) {kind : SymbolKind} (memo other : Memo)
    (target : Id kind → Resolving (SchemaSet.Target kind)) (name : Id kind → Resolving String)
    (type : Id kind → Resolving TypeTarget) (id : Id kind) : Prop where
  ends : (∃ reached, (target id).result memo = .ok reached) ∨
    (∃ text fragment, (target id).result memo = .error (.unresolved kind text fragment)) ∨
    ∃ labels, (target id).result memo = .error (.cyclic kind labels)
  found_iff : ∀ reached, (target id).result memo = .ok reached ↔ set.ArrivesAt id reached
  unresolved_iff : ∀ text fragment,
    (target id).result memo = .error (.unresolved kind text fragment) ↔
      ∃ name span, set.DanglesAt id name span ∧ text = name.text ∧ fragment = set.fragment span
  cyclic_iff : (∃ labels, (target id).result memo = .error (.cyclic kind labels)) ↔
    NeverEnds set.PointsTo id
  listed : ∀ labels, (target id).result memo = .error (.cyclic kind labels) →
    ∃ ids, Revisits set.PointsTo id ids ∧
      List.Forall₂ (fun passed label => ∃ name span, set.IsReference passed name span ∧
        label = "ref " ++ name.text) ids labels
  same_target : ∀ reached, (target id).result memo = .ok reached →
    (target reached.id).result other = .ok reached
  same_name : ∀ reached, (target id).result memo = .ok reached →
    (name id).result memo = .ok reached.name ∧ (name reached.id).result other = .ok reached.name
  /-- The type is what its name stands for where the target itself is written. -/
  same_type : ∀ reached, (target id).result memo = .ok reached →
    (type id).result memo = set.targetType reached ∧
      (type reached.id).result other = set.targetType reached
  means_type : ∀ reached, (target id).result memo = .ok reached →
    set.MeansType reached.span reached.type ((type id).result memo)

theorem followsReferences {set : SchemaSet} {kind : SymbolKind} (hdeclares : set.AllDeclared kind)
    (hmeans : ∀ {reached : SchemaSet.Target kind}, set.IsTarget reached →
      set.MeansType reached.span reached.type (set.targetType reached))
    {memo other : Memo} {target : Id kind → Resolving (SchemaSet.Target kind)}
    {name : Id kind → Resolving String} {type : Id kind → Resolving TypeTarget}
    (htarget : ∀ memo : Memo, memo.Settled set → ∀ id,
      (target id).result memo = set.targetOf kind id)
    (hname : ∀ memo : Memo, memo.Settled set → ∀ id, (name id).result memo = set.nameOf kind id)
    (htype : ∀ memo : Memo, memo.Settled set → ∀ id, (type id).result memo = set.typeOf kind id)
    (hmemo : memo.Settled set) (hother : other.Settled set) {id : Id kind}
    (hid : id.index < set.model.size kind) :
    FollowsReferences set memo other target name type id := by
  have hcomes := SchemaSet.comesTo_targetOf hdeclares hid
  have hsame : ∀ reached, set.targetOf kind id = .ok reached →
      set.targetOf kind reached.id = .ok reached := by
    intro reached hreached
    exact (hcomes.eq_ok_iff.mp hreached).2.targetOf_eq
  constructor
  case ends =>
      rw [htarget memo hmemo]
      exact hcomes.ends
  case found_iff =>
      intro reached
      rw [htarget memo hmemo]
      exact hcomes.eq_ok_iff
  case unresolved_iff =>
      intro text fragment
      rw [htarget memo hmemo]
      exact hcomes.eq_unresolved_iff
  case cyclic_iff =>
      simp only [htarget memo hmemo]
      exact hcomes.cyclic_iff
  case listed =>
      intro labels hlabels
      rw [htarget memo hmemo] at hlabels
      exact hcomes.listed hlabels
  case same_target =>
      intro reached hreached
      rw [htarget memo hmemo] at hreached
      rw [htarget other hother]
      exact hsame reached hreached
  case same_name =>
      intro reached hreached
      rw [htarget memo hmemo] at hreached
      rw [hname memo hmemo, hname other hother]
      exact ⟨SchemaSet.nameOf_of_targetOf hreached,
        SchemaSet.nameOf_of_targetOf (hsame reached hreached)⟩
  case same_type =>
      intro reached hreached
      rw [htarget memo hmemo] at hreached
      rw [htype memo hmemo, htype other hother]
      exact ⟨SchemaSet.typeOf_of_targetOf hreached,
        SchemaSet.typeOf_of_targetOf (hsame reached hreached)⟩
  case means_type =>
      intro reached hreached
      rw [htarget memo hmemo] at hreached
      rw [htype memo hmemo, SchemaSet.typeOf_of_targetOf hreached]
      exact hmeans (hcomes.eq_ok_iff.mp hreached).2

/-- In a loaded set references are followed to where they lead, for elements and for attributes,
whatever was asked before. -/
theorem references_followed {tree : FileTree} {roots : List Path} {limits : Limits}
    {permissive : Bool} {set : SchemaSet}
    (hset : SchemaSet.load tree roots limits permissive = .ok set) {memo other : Memo}
    (hmemo : memo.Reachable set) (hother : other.Reachable set) :
    (∀ id : ElementId, id.index < set.model.size .element →
      FollowsReferences set memo other (elementTarget set) (elementName set) (elementType set)
        id) ∧
      ∀ id : AttributeId, id.index < set.model.size .attribute →
        FollowsReferences set memo other (attributeTarget set) (answers set).attributeName
          (attributeType set) id := by
  constructor
  · intro id hid
    exact followsReferences (SchemaSet.declares_elements_of_load hset)
      (SchemaSet.meansType_of_load hset)
      (fun _ hmemo id => result_of_agrees hmemo (agrees_elementTarget set {} id))
      (fun _ hmemo id => result_of_agrees hmemo (agrees_elementName set {} id))
      (fun _ hmemo id => result_of_agrees hmemo (agrees_elementType set {} id))
      hmemo.settled hother.settled hid
  · intro id hid
    exact followsReferences (SchemaSet.declares_attributes_of_load hset)
      (SchemaSet.meansType_of_load hset)
      (fun _ hmemo id => result_of_agrees hmemo (agrees_attributeTarget set {} id))
      (fun _ hmemo id => result_of_agrees hmemo ((serves_answers set).attributeName id))
      (fun _ hmemo id => result_of_agrees hmemo (agrees_attributeType set {} id))
      hmemo.settled hother.settled hid

end Resolving

/-! A reference that leads into a loop that it is not on. -/

namespace Entered

def text : String :=
  "<xs:schema xmlns:xs=\"http://www.w3.org/2001/XMLSchema\"><xs:element name=\"a\" ref=\"b\"/>" ++
    "<xs:element name=\"b\" ref=\"c\"/><xs:element name=\"c\" ref=\"b\"/></xs:schema>"

def tree : FileTree :=
  ⟨[(⟨.above 0, ["a.xsd"]⟩, .file (.text text))]⟩

def loaded : Except Error Loading :=
  Loading.supply ⟨{}, []⟩ .strict false ⟨.file ⟨"a.xsd"⟩, none⟩ (.ok text)

def referenceAt? (set : SchemaSet) (id : ElementId) : Option (QName × DocumentId) := do
  match ← set.declared? .element id with
  | ⟨.reference name, _, span⟩ => some (name, span.document)
  | _ => none

def steps : List (Nat × String × Nat) :=
  [(0, "b", 1), (1, "c", 2), (2, "b", 1)]

structure Known (next : Loading) : Prop where
  complete : next.pending = []
  size : next.set.model.size .element = 3
  links : (next.set.document? ⟨0⟩).map SchemaDocument.links = some []
  references : ∀ step ∈ steps,
    referenceAt? next.set ⟨step.1⟩ = some (⟨none, step.2.1⟩, ⟨0⟩) ∧
      next.set.declaredIn? .element ⟨none, step.2.1⟩ ⟨0⟩ = some ⟨step.2.2⟩

instance : DecidablePred Known := fun next =>
  decidable_of_iff
    (next.pending = [] ∧ next.set.model.size .element = 3 ∧
      (next.set.document? ⟨0⟩).map SchemaDocument.links = some [] ∧
      ∀ step ∈ steps, referenceAt? next.set ⟨step.1⟩ = some (⟨none, step.2.1⟩, ⟨0⟩) ∧
        next.set.declaredIn? .element ⟨none, step.2.1⟩ ⟨0⟩ = some ⟨step.2.2⟩)
    ⟨fun ⟨complete, size, links, references⟩ => ⟨complete, size, links, references⟩,
      fun h => ⟨h.complete, h.size, h.links, h.references⟩⟩

theorem exists_loaded : ∃ next, loaded = .ok next ∧ Known next := by
  exact exists_ok_of_map (by decide +kernel)

theorem Known.pointsTo {next : Loading} (h : Known next) {step : Nat × String × Nat}
    (hstep : step ∈ steps) :
    next.set.PointsTo (⟨step.1⟩ : ElementId) ⟨step.2.2⟩ := by
  obtain ⟨hreference, hdeclared⟩ := h.references step hstep
  obtain ⟨document, hdocument, hlinks⟩ := Option.map_eq_some_iff.mp h.links
  unfold referenceAt? at hreference
  obtain ⟨⟨declaration, documentation, span⟩, hfound, hname⟩ :=
    Option.bind_eq_some_iff.mp hreference
  cases declaration with
  | named name type => cases hname
  | reference name =>
      obtain ⟨rfl, hspan⟩ := Prod.mk.inj (Option.some.inj hname)
      refine ⟨_, span, ⟨documentation, hfound⟩, ?_⟩
      rw [hspan, SchemaSet.lookup?_of_links_nil hdocument hlinks]
      exact hdeclared

theorem Known.revisits {next : Loading} (h : Known next) :
    Revisits next.set.PointsTo (⟨0⟩ : ElementId) [⟨0⟩, ⟨1⟩, ⟨2⟩, ⟨1⟩] where
  first := rfl
  linked := by
    have hfirst := @Known.pointsTo next h (0, "b", 1) (by decide)
    have hsecond := @Known.pointsTo next h (1, "c", 2) (by decide)
    have hthird := @Known.pointsTo next h (2, "b", 1) (by decide)
    simp [hfirst, hsecond, hthird]
  back := ⟨[⟨0⟩, ⟨1⟩, ⟨2⟩], ⟨1⟩, rfl, by decide, by decide⟩

end Entered

theorem Resolving.references_followed_entered :
    ∃ set, SchemaSet.load Entered.tree [⟨"a.xsd"⟩] .strict false = .ok set ∧
      FollowsReferences set {} {} (elementTarget set) (elementName set) (elementType set)
        (⟨0⟩ : ElementId) ∧
      ∃ labels, (elementTarget set ⟨0⟩).result {} = .error (.cyclic .element labels) := by
  obtain ⟨next, hloaded, hknown⟩ := Entered.exists_loaded
  have hset : SchemaSet.load Entered.tree [⟨"a.xsd"⟩] .strict false = .ok next.set :=
    SchemaSet.load_of_supply (Location.readFrom_single _) hloaded hknown.complete
  have hid : 0 < next.set.model.size .element := by
    rw [hknown.size]
    decide
  have hfollows := (references_followed hset .empty .empty).1 ⟨0⟩ hid
  exact ⟨next.set, hset, hfollows, hfollows.cyclic_iff.mpr hknown.revisits.neverEnds⟩

end SchemaBinding
