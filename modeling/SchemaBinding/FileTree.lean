import SchemaBinding.Error
import SchemaBinding.Path
import SchemaBinding.Table

namespace SchemaBinding

/-- What a file holds: text, or bytes that are no text. -/
inductive Contents
  | text (text : String)
  | bytes (bytes : List UInt8)
  deriving DecidableEq

def Contents.ofBytes (bytes : ByteArray) : Contents :=
  match String.fromUTF8? bytes with
  | some decoded => .text decoded
  | none => .bytes bytes.toList

def Contents.read : Contents → Except FileFault String
  | .text decoded => .ok decoded
  | .bytes _ => .error .notText

/-- Where names are counted from: the top of the file system, or so many levels above the
working directory. -/
inductive Anchor
  | top
  | above (levels : Nat)
  deriving DecidableEq, Repr

/-- A place in the file system, its names innermost first. -/
structure Place where
  anchor : Anchor
  names : List String
  deriving DecidableEq, Repr

namespace Place

def working : Place := ⟨.above 0, []⟩

def parent : Place → Place
  | ⟨.top, []⟩ => ⟨.top, []⟩
  | ⟨.above levels, []⟩ => ⟨.above (levels + 1), []⟩
  | ⟨anchor, _ :: outer⟩ => ⟨anchor, outer⟩

def child (place : Place) (name : String) : Place :=
  { place with names := name :: place.names }

def start (path : Path) : Place :=
  if path.isAbsolute then ⟨.top, []⟩ else working

def step (place : Place) : String → Place
  | "." => place
  | ".." => place.parent
  | name => place.child name

def namesBelow? (place other : Place) : Option (List String) :=
  if other.anchor = place.anchor && place.names.isSuffixOf other.names then
    some (other.names.take (other.names.length - place.names.length)).reverse
  else none

end Place

inductive Node
  | directory
  | file (contents : Contents)
  deriving DecidableEq

/-- Every directory between an anchor and an entry is an entry too. -/
structure FileTree where
  entries : Table Place Node := []

namespace FileTree

def node? (tree : FileTree) (place : Place) : Option Node :=
  if place.names.isEmpty then some .directory else tree.entries.get? place

def set (tree : FileTree) (place : Place) (node : Node) : FileTree :=
  ⟨tree.entries.put place node⟩

/-- Why no file system looks a path up. -/
def refused? (path : Path) : Option FileFault :=
  if path.text.contains '\x00' then some .nulInName
  else if path.text = "" then some .missing
  else if 4096 ≤ path.text.utf8ByteSize then some .nameTooLong
  else none

/-- Follows pieces one by one; only a directory can be left, and no name in it has more than
255 bytes. -/
def follow (tree : FileTree) (place : Place) : List String → Except FileFault Place
  | [] => .ok place
  | piece :: rest =>
      match tree.node? place with
      | some .directory =>
          if 255 < piece.utf8ByteSize then .error .nameTooLong
          else tree.follow (place.step piece) rest
      | some (.file _) => .error .notDirectory
      | none => .error .missing

def locateBy (tree : FileTree) (path : Path) (route : List String) : Except FileFault Place :=
  match refused? path with
  | some fault => .error fault
  | none => tree.follow (Place.start path) route

/-- The place that a path leads to; the directory it would be in is there. -/
def locate (tree : FileTree) (path : Path) : Except FileFault Place :=
  tree.locateBy path path.route

def find (tree : FileTree) (path : Path) : Except FileFault Node := do
  match tree.node? (← tree.locate path) with
  | none => throw .missing
  | some .directory => return .directory
  | some (.file contents) =>
      if path.endsWithSlash then throw .notDirectory else return .file contents

def isDirectory (tree : FileTree) (path : Path) : Bool :=
  match tree.find path with
  | .ok .directory => true
  | _ => false

def fileExists (tree : FileTree) (path : Path) : Bool :=
  match tree.find path with
  | .ok _ => true
  | .error _ => false

def readText (tree : FileTree) (path : Path) : Except FileFault String := do
  match ← tree.find path with
  | .directory => throw .isDirectory
  | .file contents => contents.read

def makeDirectory (tree : FileTree) (path : Path) : Except FileFault FileTree := do
  let place ← tree.locate path
  match tree.node? place with
  | none => return tree.set place .directory
  | some .directory => return tree
  | some (.file _) => throw .alreadyThere

/-- Makes a directory by `make`. Where one above it is missing, that one is made before, and
what was made stays if a later one fails. -/
def makeInside {m : Type → Type} [Monad m] (make : Path → m (Except FileFault Unit))
    (path : Path) : List Path → m (Except FileFault Unit)
  | [] => make path
  | parent :: above => do
      match ← make path with
      | .error .missing =>
          match ← makeInside make parent above with
          | .ok () => make path
          | .error fault => return .error fault
      | made => return made

/-- Makes a directory and those above it that are missing. -/
def makeDirectories (path : Path) : StateM FileTree (Except FileFault Unit) :=
  if path.text = "" then return .ok ()
  else
    let make := fun (one : Path) (tree : FileTree) =>
      match tree.makeDirectory one with
      | .ok next => (Except.ok (), next)
      | .error fault => (Except.error fault, tree)
    makeInside make path path.parents

/-- The route to a file that is written. With a slash at the end a path means a directory, be it
there or not; so its last piece is not looked up, and the route ends in the directory before. -/
def routeToWrite (path : Path) : List String :=
  if path.endsWithSlash then path.route.dropLast ++ ["."] else path.route

def write (tree : FileTree) (path : Path) (contents : Contents) :
    Except FileFault FileTree := do
  let place ← tree.locateBy path (routeToWrite path)
  if tree.node? place = some .directory then throw .isDirectory
  return tree.set place (.file contents)

/-- Puts an entry at a path and directories above it, whatever was there. -/
def seed (tree : FileTree) (path : Path) (node : Node) : FileTree :=
  let pieces := path.route
  let above := (List.range pieces.length).foldl
    (fun (state : FileTree × Place) i =>
      let next := state.2.step (pieces.getD i "")
      (if i + 1 < pieces.length && (state.1.node? next).isNone then
          state.1.set next .directory
        else state.1, next))
    (tree, Place.start path)
  above.1.set above.2 node

/-- The names of the entries of the directory at a path; of anything else, none. -/
def namesIn (tree : FileTree) (path : Path) : List String :=
  if tree.isDirectory path then
    match tree.follow (Place.start path) path.route with
    | .error _ => []
    | .ok place =>
        tree.entries.filterMap fun (other, _) =>
          match other.names with
          | name :: outer =>
              if other.anchor = place.anchor ∧ outer = place.names then some name else none
          | [] => none
  else []

def textsBelow (tree : FileTree) (place : Place) : List (String × String) :=
  (tree.entries.filterMap fun (other, node) =>
    match place.namesBelow? other, node with
    | some (name :: names), .file (.text text) =>
        some (Text.joinWith "/" (name :: names), text)
    | _, _ => none).mergeSort fun first second => first.1 ≤ second.1

def textsUnder (tree : FileTree) (path : Path) : List (String × String) :=
  match tree.follow (Place.start path) path.route with
  | .ok place => tree.textsBelow place
  | .error _ => []

/-- The text files below the working directory that are new or differ from what was there. -/
def changesSince (tree old : FileTree) : List (String × String) :=
  (tree.textsBelow .working).filter fun (path, text) =>
    match old.readText ⟨path⟩ with
    | .ok before => before != text
    | .error _ => true

end FileTree

end SchemaBinding
