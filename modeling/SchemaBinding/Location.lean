import SchemaBinding.Path
import SchemaBinding.Url

namespace SchemaBinding

inductive Location
  | file (path : Path)
  | remote (url : Url)
  deriving DecidableEq, Repr

namespace Location

def ofPath (text : String) (base : Path) : Location :=
  .file (base.join ⟨text⟩).normalize

/-- A file URL stands for its path. Any other URL is remote unless its scheme is one letter,
which is taken for the drive of a path. -/
def resolve (text : String) (base : Path) : Location :=
  match Url.parse? text with
  | none => ofPath text base
  | some url =>
      if url.scheme = "file" then
        match url.filePath? with
        | some path => .file (Path.normalize ⟨path⟩)
        | none => ofPath text base
      else if url.scheme.length = 1 then ofPath text base
      else .remote url

def text : Location → String
  | file path => path.text
  | remote url => url.text

def isRemote : Location → Bool
  | file _ => false
  | remote _ => true

end Location

end SchemaBinding
