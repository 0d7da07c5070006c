import SchemaBinding.Error

namespace SchemaBinding

structure Limits where
  depth : Nat := 256
  size : Nat := 64 * 1024 * 1024
  documents : Nat := 4096
  deriving DecidableEq, Repr

namespace Limits

def strict : Limits where
  depth := 64
  size := 10 * 1024 * 1024
  documents := 256

def checkDepth (limits : Limits) (depth : Nat) : Except Error Unit :=
  if depth ≤ limits.depth then .ok () else .error (.limit (.depth depth limits.depth))

def checkSize (limits : Limits) (size : Nat) : Except Error Unit :=
  if size ≤ limits.size then .ok () else .error (.limit (.size size limits.size))

def checkDocuments (limits : Limits) (count : Nat) : Except Error Unit :=
  if count ≤ limits.documents then .ok ()
  else .error (.limit (.documents count limits.documents))

end Limits

end SchemaBinding
