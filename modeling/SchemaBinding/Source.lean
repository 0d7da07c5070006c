import SchemaBinding.FileTree
import SchemaBinding.Limits
import SchemaBinding.Location

namespace SchemaBinding.Location

/-- The text of a location, once the file at it has been read. -/
def accept (limits : Limits) (result : Except FileFault String) :
    Location → Except Error String
  | .remote url => .error (.missing url.text .remote)
  | .file path =>
      match result with
      | .error fault => .error (.missing path.text (.unreadable fault))
      | .ok text => do
          limits.checkSize text.utf8ByteSize
          return text

def readFrom (tree : FileTree) : Location → Except FileFault String
  | .remote _ => .error .missing
  | .file path => tree.readText path

def load (tree : FileTree) (limits : Limits) (location : Location) : Except Error String :=
  location.accept limits (location.readFrom tree)

end SchemaBinding.Location
