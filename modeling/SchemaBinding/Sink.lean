import SchemaBinding.FileTree

namespace SchemaBinding

/-- A way of writing a file of a package, given the file's name and contents. A write that fails
may still have changed the state. -/
structure Sink (σ : Type) where
  write : String → String → String → EStateM Error σ Unit

namespace Sink

def key (package file : String) : String :=
  package ++ "/" ++ file

def memory : Sink (Table String String) where
  write package file contents :=
    modify fun files => files.put (key package file) contents

structure GeneratedFile where
  package : String
  file : String
  contents : String
  deriving DecidableEq, Repr

/-- Keeps the files in the order in which they were handed over. -/
def listing : Sink (List GeneratedFile) where
  write package file contents :=
    modify fun files => files ++ [⟨package, file, contents⟩]

/-- Makes the package's directory, which stays even if the file cannot be written. -/
def directory (root : Path) : Sink FileTree where
  write package file contents := do
    let directory := root.join ⟨package⟩
    let (made, tree) := FileTree.makeDirectories directory (← get)
    set tree
    match made.bind fun () => tree.write (directory.join ⟨file⟩) (.text contents) with
    | .ok written => set written
    | .error fault => throw (.file fault)

end Sink

end SchemaBinding
