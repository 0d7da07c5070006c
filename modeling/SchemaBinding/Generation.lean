import SchemaBinding.Emission.Walk
import SchemaBinding.Options.Roots
import SchemaBinding.SchemaSet.Loading

namespace SchemaBinding

structure Report where
  /-- In the order in which they were written. -/
  structs : List EmittedStruct
  /-- How many schema documents were loaded. -/
  documents : Nat
  deriving DecidableEq, Repr

namespace Report

def packages (report : Report) : List String :=
  ((report.structs.map EmittedStruct.package).eraseDups).mergeSort
    fun first second => first ≤ second

end Report

namespace Generation

variable {σ : Type}

def write (set : SchemaSet) (options : Options) (sink : Sink σ) : EStateM Error σ Report :=
  fun state =>
    match Emission.emitRoots set options sink { works := { sink := state } } with
    | .ok () emission => .ok ⟨emission.works.structs, set.size⟩ emission.works.sink
    | .error error emission => .error error emission.works.sink

def load (tree : FileTree) (options : Options) : Except Error SchemaSet := do
  options.validate
  let roots ← options.rootPaths tree
  SchemaSet.load tree roots options.limits options.permissive

def run (tree : FileTree) (options : Options) (sink : Sink σ) : EStateM Error σ Report := do
  match load tree options with
  | .ok set => write set options sink
  | .error error => throw error

end Generation

end SchemaBinding
