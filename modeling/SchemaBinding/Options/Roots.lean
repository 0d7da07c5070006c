import SchemaBinding.FileTree
import SchemaBinding.Options.Basic

namespace SchemaBinding.Options

/-- Goes down one piece of a path as written. Below the working directory, paths do not mention
it. -/
def descend (path : Path) (piece : String) : Option Path :=
  if path.text = "." then (if piece = "" then none else some ⟨piece⟩)
  else some (path.join ⟨piece⟩)

/-- The directory to search, if the input directory can be searched. -/
def searchDirectory? (options : Options) : Option Path :=
  match options.inputDirectory.text.toList with
  | [] => some ⟨"/"⟩
  | '/' :: rest => (Path.pieces ⟨String.ofList rest⟩).foldlM descend ⟨"/"⟩
  | _ => options.inputDirectory.pieces.foldlM descend ⟨"."⟩

def isSchemaName (name : String) : Bool :=
  ".xsd".toList.isSuffixOf name.toList

def schemasAmong (directory : Path) (names : List String) : List Path :=
  ((names.filter isSchemaName).mergeSort fun first second => first ≤ second).filterMap
    (descend directory)

def rootsFrom (options : Options) (namesIn : Path → List String) : Except Error (List Path) :=
  if !options.roots.isEmpty then .ok (options.roots.map options.inputDirectory.join)
  else
    match options.searchDirectory?.map fun path => schemasAmong path (namesIn path) with
    | some (root :: rest) => .ok (root :: rest)
    | _ => .error (.options (.noSchemas options.inputDirectory.text))

def rootPaths (options : Options) (tree : FileTree) : Except Error (List Path) :=
  options.rootsFrom tree.namesIn

end SchemaBinding.Options
