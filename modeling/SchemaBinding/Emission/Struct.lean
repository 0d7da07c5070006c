import SchemaBinding.Sink
import SchemaBinding.Struct.File

namespace SchemaBinding

structure EmittedStruct where
  package : String
  name : String
  file : String
  space : Option String
  deriving DecidableEq, Repr

/-- What writing structs leaves behind: taken file names, the structs written, what is known of
the schemas, and the files. -/
structure Works (σ : Type) where
  files : List (String × String) := []
  structs : List EmittedStruct := []
  memo : Memo := {}
  sink : σ

abbrev Working (σ : Type) := EStateM Error (Works σ)

namespace Works

variable {σ : Type}

def resolving {α : Type} (work : Resolving α) : Working σ α := fun works =>
  match work works.memo with
  | .ok value memo => .ok value { works with memo := memo }
  | .error error memo => .error error { works with memo := memo }

def writing {α : Type} (work : EStateM Error σ α) : Working σ α := fun works =>
  match work works.sink with
  | .ok value sink => .ok value { works with sink := sink }
  | .error error sink => .error error { works with sink := sink }

def numberedFile (stem : String) (number : Nat) : String :=
  stem ++ "_" ++ toString number ++ ".go"

/-- The names a struct's file may get, in order of preference. One of them is free. -/
def candidates (count : Nat) (structName : String) : List String :=
  Identifier.fileName structName ::
    (List.range (count + 1)).map fun index =>
      numberedFile (Identifier.fileStem structName) (index + 2)

def freeFile (files : List (String × String)) (package structName : String) : String :=
  ((candidates files.length structName).find? fun file =>
    decide ((package, file) ∉ files)).getD (Identifier.fileName structName)

def claimFile (package structName : String) : Working σ String :=
  modifyGet fun works =>
    let file := freeFile works.files package structName
    (file, { works with files := (package, file) :: works.files })

/-- The packages that the types of a file belong to, with their paths. -/
def importsOf (options : Options) (types : List GoType) : Table String String :=
  (types.filterMap GoType.package).foldl
    (fun imports package => imports.put package (options.importPath package)) []

section

variable (set : SchemaSet) (options : Options) {m : Type → Type} [Monad m]
  [MonadExceptOf Error m] (answers : Answers m)

def fieldsOf (package : String) : List Member → m (List Field)
  | [] => return []
  | member :: rest => do
      let field ← Field.memberField set options answers package member
      let others ← fieldsOf package rest
      return field :: others

def baseType (package : String) : Option TypeId → m (Option GoType)
  | none => return none
  | some base => do
      let type ← given (set.typeDef base)
      return some (type.goType options package)

/-- The file of a type, and the complex types it refers to, the base first. -/
def structFile (id : TypeId) (type : TypeDef) : m (StructFile × List TypeId) := do
  let package := type.package options
  let content ← answers.content id
  let base ← baseType set options package content.base
  let members ← fieldsOf set options answers package content.members
  let fields := (content.text.toList.map Field.ofText) ++ members
  let file : StructFile := {
    package := package
    imports := importsOf options (base.toList ++ fields.map Field.type)
    name := type.structName
    documentation := type.documentation
    base := base
    fields := fields }
  return (file, content.base.toList ++ fields.filterMap Field.referenced)

end

/-- Writes the struct of a type, and gives the complex types that it refers to. -/
def writeStruct (set : SchemaSet) (options : Options) (sink : Sink σ) (id : TypeId)
    (type : TypeDef) : Working σ (List TypeId) := do
  let (file, referenced) ←
    resolving (structFile set options (Resolving.answers set) id type)
  let fileName ← claimFile file.package file.name
  writing (sink.write file.package fileName file.text)
  modify fun works =>
    { works with
      structs := works.structs ++ [⟨file.package, file.name, fileName, type.space⟩] }
  return referenced

end Works

end SchemaBinding
