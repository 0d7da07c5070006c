import SchemaBinding.Resolution.Content

namespace SchemaBinding

def TypeTarget.id? : TypeTarget → Option TypeId
  | .builtin _ => none
  | .simple id => some id
  | .complex id => some id

mutual

def Particle.uses : Particle → List GroupUse
  | .element _ => []
  | .model _ _ particles => Particle.usesAll particles
  | .group use _ => [use]

def Particle.usesAll : List Particle → List GroupUse
  | [] => []
  | particle :: rest => particle.uses ++ Particle.usesAll rest

end

namespace SchemaSet

variable (set : SchemaSet)

/-- What the scalar of a type is taken from. An item type of a list is not among it. -/
def scalarSources (type : TypeDef) : List (Except Error TypeTarget) :=
  match type.body with
  | .simple (.restriction base _) => [set.resolveTypeRef base type.span]
  | .simple (.list _) => []
  | .simple (.union members) => members.map fun member => set.resolveTypeRef member type.span
  | .complex (.simple derivation) _ => [Rules.contentBase set derivation]
  | .complex _ _ => []

def ScalarNeeds (id next : TypeId) : Prop :=
  ∃ type target, set.typeDef id = .ok type ∧ .ok target ∈ set.scalarSources type ∧
    target.id? = some next

/-- The derivation whose base lends its members or its names to a type. A restriction of complex
content takes nothing from its base. -/
def lender? (type : TypeDef) : Option Derivation :=
  match type.body with
  | .complex (.simple derivation) _ => some derivation
  | .complex (.complex derivation) _ =>
      if derivation.method = .extension then some derivation else none
  | _ => none

def ContentNeeds (id next : TypeId) : Prop :=
  ∃ type derivation, set.typeDef id = .ok type ∧ lender? type = some derivation ∧
    set.resolveTypeName derivation.base derivation.span = .ok (.complex next)

def AttributesNeed (id next : AttributeGroupId) : Prop :=
  ∃ group use, set.attributeGroupDef id = .ok group ∧ .group use ∈ group.attributes ∧
    set.resolve .attributeGroup use.name use.span = .ok next

def MembersNeed (id next : GroupId) : Prop :=
  ∃ group particle use, set.groupDef id = .ok group ∧ group.particle = some particle ∧
    use ∈ particle.uses ∧ set.resolve .group use.name use.span = .ok next

variable {set}

theorem resolve_eq_ok_iff {kind : SymbolKind} {name : QName} {span : Span} {id : Id kind} :
    set.resolve kind name span = .ok id ↔ set.lookup? kind name span.document = some id := by
  rw [resolve]
  cases set.lookup? kind name span.document <;> simp

theorem resolve_eq_error_iff {kind : SymbolKind} {name : QName} {span : Span} {error : Error} :
    set.resolve kind name span = .error error ↔
      set.lookup? kind name span.document = none ∧ error = set.unresolved kind name span := by
  rw [resolve]
  cases set.lookup? kind name span.document <;> simp [eq_comm]

theorem type?_of_typeDef {id : TypeId} {type : TypeDef} (h : set.typeDef id = .ok type) :
    set.model.type? id = some type := by
  unfold typeDef at h
  split at h
  case h_1 found hfound =>
      cases h
      exact hfound
  case h_2 => cases h

theorem index_lt_of_typeDef {id : TypeId} {type : TypeDef} (h : set.typeDef id = .ok type) :
    id.index < set.model.size .type :=
  (Array.getElem?_eq_some_iff.mp (type?_of_typeDef h)).choose

theorem index_lt_of_attributeGroupDef {id : AttributeGroupId} {group : AttributeGroupDef}
    (h : set.attributeGroupDef id = .ok group) :
    id.index < set.model.size .attributeGroup := by
  unfold attributeGroupDef at h
  split at h
  case h_1 found hfound => exact (Array.getElem?_eq_some_iff.mp hfound).choose
  case h_2 => cases h

theorem index_lt_of_groupDef {id : GroupId} {group : GroupDef}
    (h : set.groupDef id = .ok group) : id.index < set.model.size .group := by
  unfold groupDef at h
  split at h
  case h_1 found hfound => exact (Array.getElem?_eq_some_iff.mp hfound).choose
  case h_2 => cases h

theorem typeDef_of_index_le {id : TypeId} (h : set.model.size .type ≤ id.index) :
    set.typeDef id = .error (.absent .type id.index) := by
  have hnone : set.model.type? id = none := Array.getElem?_eq_none h
  rw [typeDef, hnone]

theorem attributeGroupDef_of_index_le {id : AttributeGroupId}
    (h : set.model.size .attributeGroup ≤ id.index) :
    set.attributeGroupDef id = .error (.absent .attributeGroup id.index) := by
  have hnone : set.model.attributeGroup? id = none := Array.getElem?_eq_none h
  rw [attributeGroupDef, hnone]

theorem groupDef_of_index_le {id : GroupId} (h : set.model.size .group ≤ id.index) :
    set.groupDef id = .error (.absent .group id.index) := by
  have hnone : set.model.group? id = none := Array.getElem?_eq_none h
  rw [groupDef, hnone]

/-- Following a reference goes on from what its name refers to. -/
theorem target_eq (set : SchemaSet) {kind : SymbolKind} (passed : List (Id kind)) (id : Id kind) :
    set.target kind passed id =
      if id ∈ passed then
        .error (.cyclic kind ((id :: passed).reverse.map (set.declarationLabel kind)))
      else
        match set.declared? kind id with
        | none => .error (.absent kind id.index)
        | some found =>
            match found.declaration with
            | .named name type => .ok ⟨id, name, type, found.documentation, found.span⟩
            | .reference name =>
                set.resolve kind name found.span >>= set.target kind (id :: passed) := by
  rw [target]
  split
  · rfl
  · split
    · rename_i h
      rw [h]
    · rename_i h
      rw [h]
    · rename_i name documentation span h
      simp only [h]
      cases hresolve : set.resolve kind name span <;> rfl

end SchemaSet

end SchemaBinding
