import SchemaBinding.Component.Builtin
import SchemaBinding.Room
import SchemaBinding.SchemaSet.Lookup

namespace SchemaBinding

inductive TypeTarget
  | builtin (type : Builtin)
  | simple (id : TypeId)
  | complex (id : TypeId)
  deriving DecidableEq, Repr

def TypeTarget.complex? : TypeTarget → Option TypeId
  | .complex id => some id
  | _ => none

namespace SchemaSet

def unresolved (set : SchemaSet) (kind : SymbolKind) (name : QName) (span : Span) : Error :=
  .unresolved kind name.text (set.fragment span)

def malformed (set : SchemaSet) (flaw : Flaw) (span : Span) : Error :=
  .malformed flaw (set.fragment span)

def resolve (set : SchemaSet) (kind : SymbolKind) (name : QName) (span : Span) :
    Except Error (Id kind) :=
  match set.lookup? kind name span.document with
  | some id => .ok id
  | none => .error (set.unresolved kind name span)

def typeDef (set : SchemaSet) (id : TypeId) : Except Error TypeDef :=
  match set.model.type? id with
  | some type => .ok type
  | none => .error (.absent .type id.index)

def typeTarget (set : SchemaSet) (id : TypeId) : Except Error TypeTarget := do
  let type ← set.typeDef id
  return if type.isComplex then .complex id else .simple id

/-- What a type name stands for. The names of the schema language are the built-in types. -/
def resolveTypeName (set : SchemaSet) (name : QName) (span : Span) :
    Except Error TypeTarget :=
  if name.inNamespace (some xsdNamespace) then
    match Builtin.lookup? name.localName with
    | some type => .ok (.builtin type)
    | none => .error (set.unresolved .type name span)
  else do set.typeTarget (← set.resolve .type name span)

def resolveTypeRef (set : SchemaSet) (reference : TypeRef) (span : Span) :
    Except Error TypeTarget :=
  match reference with
  | .named name => set.resolveTypeName name span
  | .inline id => set.typeTarget id

structure Declared where
  declaration : Declaration
  documentation : List String
  span : Span
  deriving DecidableEq, Repr

def elementDecl (set : SchemaSet) (id : ElementId) : Except Error ElementDecl :=
  match set.model.element? id with
  | some element => .ok element
  | none => .error (.absent .element id.index)

def attributeDecl (set : SchemaSet) (id : AttributeId) : Except Error AttributeDecl :=
  match set.model.attribute? id with
  | some declared => .ok declared
  | none => .error (.absent .attribute id.index)

def declared? (set : SchemaSet) (kind : SymbolKind) (id : Id kind) : Option Declared :=
  match kind with
  | .element =>
      (set.model.element? id).map fun element =>
        ⟨element.declaration, element.documentation, element.span⟩
  | .attribute =>
      (set.model.attribute? id).map fun declared =>
        ⟨declared.declaration, declared.documentation, declared.span⟩
  | _ => none

def declarationLabel (set : SchemaSet) (kind : SymbolKind) (id : Id kind) : String :=
  match (set.declared? kind id).map Declared.declaration with
  | some (.named name _) => name
  | some (.reference target) => "ref " ++ target.text
  | none => ""

structure Target (kind : SymbolKind) where
  id : Id kind
  name : String
  type : Option TypeRef
  documentation : List String
  span : Span
  deriving DecidableEq, Repr

/-- How many components of a kind are not among those listed. -/
def unlisted (set : SchemaSet) (kind : SymbolKind) (ids : List (Id kind)) : Nat :=
  room (set.model.size kind) (ids.map Id.index)

theorem unlisted_le (set : SchemaSet) {kind : SymbolKind} (ids : List (Id kind)) :
    set.unlisted kind ids ≤ set.model.size kind :=
  room_le _ _

theorem unlisted_cons_lt {set : SchemaSet} {kind : SymbolKind} {ids : List (Id kind)}
    {id : Id kind} (hlt : id.index < set.model.size kind) (hnew : id ∉ ids) :
    set.unlisted kind (id :: ids) < set.unlisted kind ids := by
  apply room_cons_lt hlt
  intro hmem
  obtain ⟨other, hother, heq⟩ := List.mem_map.mp hmem
  cases other
  cases id
  cases heq
  exact hnew hother

theorem index_lt_of_declared? {set : SchemaSet} {kind : SymbolKind} {id : Id kind}
    {found : Declared} (h : set.declared? kind id = some found) :
    id.index < set.model.size kind := by
  cases kind <;> simp only [declared?, Option.map_eq_some_iff, reduceCtorEq] at h
  all_goals
    obtain ⟨component, hcomponent, _⟩ := h
    exact (Array.getElem?_eq_some_iff.mp hcomponent).choose

/-- The declaration that a declaration stands for, after those passed so far, newest first. -/
def target (set : SchemaSet) (kind : SymbolKind) (passed : List (Id kind)) (id : Id kind) :
    Except Error (Target kind) :=
  if hseen : id ∈ passed then
    .error (.cyclic kind ((id :: passed).reverse.map (set.declarationLabel kind)))
  else
    match hfound : set.declared? kind id with
    | none => .error (.absent kind id.index)
    | some ⟨.named name type, documentation, span⟩ =>
        .ok ⟨id, name, type, documentation, span⟩
    | some ⟨.reference name, _, span⟩ =>
        match set.resolve kind name span with
        | .error error => .error error
        | .ok next =>
            -- no declaration is passed twice, so fewer are left
            have := unlisted_cons_lt (index_lt_of_declared? hfound) hseen
            target set kind (id :: passed) next
termination_by set.unlisted kind passed

def targetOf (set : SchemaSet) (kind : SymbolKind) (id : Id kind) :
    Except Error (Target kind) :=
  set.target kind [] id

def nameOf (set : SchemaSet) (kind : SymbolKind) (id : Id kind) : Except Error String := do
  return (← set.targetOf kind id).name

def targetType (set : SchemaSet) {kind : SymbolKind} (target : Target kind) :
    Except Error TypeTarget :=
  match target.type with
  | some reference => set.resolveTypeRef reference target.span
  | none => .ok (.builtin .anyType)

def typeOf (set : SchemaSet) (kind : SymbolKind) (id : Id kind) :
    Except Error TypeTarget := do
  set.targetType (← set.targetOf kind id)

end SchemaSet

end SchemaBinding
