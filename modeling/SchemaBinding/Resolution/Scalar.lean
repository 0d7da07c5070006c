import SchemaBinding.Resolution.Memo

namespace SchemaBinding

namespace Rules

variable (set : SchemaSet) {m : Type → Type} [Monad m] [MonadExceptOf Error m]

/-- The scalar of what a type reference stands for, given scalars of types by number. -/
def scalarAt (scalar : TypeId → m Scalar) : TypeTarget → m Scalar
  | .builtin type => return type.scalar
  | .simple id => scalar id
  | .complex id => scalar id

def joinScalars (known : Option Scalar) (scalar : Scalar) : Option Scalar :=
  match known with
  | none => some scalar
  | some other => if other = scalar then some other else some .string

def unionScalar (scalar : TypeId → m Scalar) (span : Span) (known : Option Scalar) :
    List TypeRef → m (Option Scalar)
  | [] => return known
  | member :: rest => do
      let target ← given (set.resolveTypeRef member span)
      let found ← scalarAt scalar target
      unionScalar scalar span (joinScalars known found) rest

def simpleScalar (scalar : TypeId → m Scalar) (span : Span) : SimpleDerivation → m Scalar
  | .restriction base _ => do
      let target ← given (set.resolveTypeRef base span)
      scalarAt scalar target
  | .list item => do
      let _ ← given (set.resolveTypeRef item span)
      return .string
  | .union members => do
      return (← unionScalar set scalar span none members).getD .string

/-- What the scalar of simple content comes from: the type inside a restriction, or the base. -/
def contentBase (derivation : Derivation) : Except Error TypeTarget :=
  match derivation.method, derivation.inlineSimple with
  | .restriction, some id => set.typeTarget id
  | _, _ => set.resolveTypeName derivation.base derivation.span

def bodyScalar (scalar : TypeId → m Scalar) (type : TypeDef) : m Scalar :=
  match type.body with
  | .simple derivation => simpleScalar set scalar type.span derivation
  | .complex (.simple derivation) _ => do
      let target ← given (contentBase set derivation)
      scalarAt scalar target
  | .complex _ mixed =>
      if mixed then return .string
      else throw (set.malformed (.noSimpleContent type.displayName) type.span)

def scalar (scalar : TypeId → m Scalar) (id : TypeId) : m Scalar := do
  bodyScalar set scalar (← given (set.typeDef id))

end Rules

namespace Resolving

variable (set : SchemaSet)

def typeScalar (id : TypeId) : Resolving Scalar :=
  settle set .scalars .scalars (Rules.scalar set) id

def scalarOf (target : TypeTarget) : Resolving Scalar :=
  Rules.scalarAt (typeScalar set) target

end Resolving

/-- The facets of a restriction, where they say something. -/
def SchemaSet.facetsOf? (set : SchemaSet) (target : TypeTarget) : Option Facets :=
  match target with
  | .simple id =>
      match (set.model.type? id).map TypeDef.body with
      | some (.simple (.restriction _ facets)) => if facets.isEmpty then none else some facets
      | _ => none
  | _ => none

end SchemaBinding
