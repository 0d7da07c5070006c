import SchemaBinding.Emission.Struct

namespace SchemaBinding

abbrev StructKey := String × String

instance : LawfulBEq StructKey :=
  inferInstance

def TypeDef.structKey (type : TypeDef) (options : Options) : StructKey :=
  (type.package options, type.structName)

abbrev Claims := Table StructKey TypeId

structure Emission (σ : Type) where
  claims : Claims := []
  works : Works σ

namespace Emission

variable {σ : Type}

def isEmitted (emission : Emission σ) (package name : String) : Bool :=
  (emission.claims.get? (package, name)).isSome

def renew (emission : Emission σ) : Emission σ where
  works := { memo := emission.works.memo, sink := emission.works.sink }

def unclaimed (set : SchemaSet) (options : Options) (claims : Claims) : List TypeDef :=
  set.model.types.toList.filter fun type =>
    decide (type.structKey options ∉ claims.keys)

theorem unclaimed_put_lt {set : SchemaSet} {options : Options} {claims : Claims}
    {id : TypeId} {type : TypeDef} (htype : set.model.type? id = some type)
    (hnew : claims.get? (type.structKey options) = none) :
    (unclaimed set options (claims.put (type.structKey options) id)).length <
      (unclaimed set options claims).length := by
  have hkey : type.structKey options ∉ claims.keys := Table.get?_eq_none_iff.mp hnew
  have hmem : type ∈ set.model.types.toList := by
    simp only [Model.type?] at htype
    exact Array.mem_toList_iff.mpr (Array.mem_of_getElem? htype)
  have hsub : unclaimed set options (claims.put (type.structKey options) id) =
      (unclaimed set options claims).filter fun other =>
        decide (other.structKey options ≠ type.structKey options) := by
    simp only [unclaimed, Table.keys_put, hkey, if_false, List.filter_filter]
    apply List.filter_congr
    intro other _
    simp only [List.mem_append, List.mem_singleton, not_or, ← Bool.decide_and]
    apply decide_eq_decide.mpr
    exact and_comm
  rw [hsub]
  apply List.length_filter_lt_length_iff_exists.mpr
  exact ⟨type, by simp [unclaimed, hmem, hkey], by simp⟩

/-- Writes the types on a stack and, after each, those it refers to. -/
def walk (set : SchemaSet) (options : Options) (sink : Sink σ) (claims : Claims)
    (works : Works σ) : List TypeId → EStateM.Result Error (Emission σ) Unit
  | [] => .ok () ⟨claims, works⟩
  | id :: rest =>
      match htype : set.model.type? id with
      | none => .error (.absent .type id.index) ⟨claims, works⟩
      | some type =>
          match hclaim : claims.get? (type.structKey options) with
          | some _ => walk set options sink claims works rest
          | none =>
              -- claimed before it is written, so that the walk ends whatever cycles there are
              let claimed := claims.put (type.structKey options) id
              match Works.writeStruct set options sink id type works with
              | .error error works => .error error ⟨claimed, works⟩
              | .ok referenced works =>
                  have := unclaimed_put_lt htype hclaim
                  walk set options sink claimed works (referenced ++ rest)
termination_by stack => ((unclaimed set options claims).length, stack.length)

abbrev Emitting (σ : Type) := EStateM Error (Emission σ)

def emit (set : SchemaSet) (options : Options) (sink : Sink σ) (id : TypeId) : Emitting σ Unit :=
  fun emission => walk set options sink emission.claims emission.works [id]

inductive Seed
  | element (id : ElementId)
  | type (id : TypeId)
  deriving DecidableEq, Repr

def elementSeeds (document : SchemaDocument) : List Seed :=
  document.symbols.elements.map fun entry => .element entry.2

def isComplex (set : SchemaSet) (id : TypeId) : Bool :=
  ((set.model.type? id).map TypeDef.isComplex).getD false

def typeSeeds (set : SchemaSet) (document : SchemaDocument) : List Seed :=
  (document.symbols.types.filter fun entry => isComplex set entry.2).map fun entry =>
    .type entry.2

/-- In recursive mode, all elements and complex types of all documents; else the elements of the
roots and of what these include. -/
def seeds (set : SchemaSet) (options : Options) : List Seed :=
  if options.recursive then
    set.documents.toList.flatMap fun document =>
      elementSeeds document ++ typeSeeds set document
  else
    ((set.roots.flatMap set.includeClosure).filterMap set.document?).flatMap elementSeeds

def elementType (set : SchemaSet) (id : ElementId) : Emitting σ TypeTarget :=
  fun emission =>
    match Works.resolving (Resolving.elementType set id) emission.works with
    | .ok target works => .ok target { emission with works := works }
    | .error error works => .error error { emission with works := works }

/-- Starts from one seed. An element of a simple type has nothing to write. -/
def emitSeed (set : SchemaSet) (options : Options) (sink : Sink σ) :
    Seed → Emitting σ Unit
  | .type id => emit set options sink id
  | .element id => do
      match ← elementType set id with
      | .complex type => emit set options sink type
      | _ => return

def emitSeeds (set : SchemaSet) (options : Options) (sink : Sink σ) :
    List Seed → Emitting σ Unit
  | [] => return
  | seed :: rest => do
      emitSeed set options sink seed
      emitSeeds set options sink rest

def emitRoots (set : SchemaSet) (options : Options) (sink : Sink σ) : Emitting σ Unit :=
  emitSeeds set options sink (seeds set options)

end Emission

end SchemaBinding
