import SchemaBinding.CommandLine.Run

namespace SchemaBinding.CommandLine

def faultOf : IO.Error → FileFault
  | .noFileOrDirectory .. => .missing
  | .inappropriateType _ 21 _ => .isDirectory
  | .inappropriateType .. => .notDirectory
  | .alreadyExists .. => .alreadyThere
  | .invalidArgument _ 36 _ => .nameTooLong
  | error => .noted (toString error)

/-- What is done with a path that is no possible one fails without being tried. -/
def attempt {α : Type} (path : Path) (action : String → IO α) : IO (Except FileFault α) := do
  match FileTree.refused? path with
  | some fault => return .error fault
  | none =>
      try return .ok (← action path.text)
      catch error => return .error (faultOf error)

def readText (path : Path) : IO (Except FileFault String) := do
  match ← attempt path fun name => IO.FS.readBinFile name with
  | .ok bytes => return (Contents.ofBytes bytes).read
  | .error fault => return .error fault

def readLocation : Location → IO (Except FileFault String)
  | .file path => readText path
  | .remote _ => return .error .missing

def namesIn (path : Path) : IO (List String) := do
  match ← attempt path fun name => do (← IO.FS.realPath name).readDir with
  | .ok entries => return entries.toList.map fun entry => entry.fileName
  | .error _ => return []

def loadFrom (options : Options) (state : Loading) : IO (Except Error SchemaSet) := do
  match hsettled : Loading.settle state.set state.pending with
  | ⟨set, []⟩ => return .ok set
  | ⟨set, request :: rest⟩ =>
      let result ← readLocation request.location
      match hnext : Loading.supply ⟨set, rest⟩ options.limits options.permissive request
        result with
      | .error error => return .error error
      | .ok next =>
          have := Loading.room_lt hsettled hnext
          loadFrom options next
termination_by options.limits.documents - state.set.size

def loadAll (options : Options) : IO (Except Error SchemaSet) := do
  match options.validate with
  | .error error => return .error error
  | .ok () =>
      let names ← (options.searchDirectory?.map namesIn).getD (return [])
      match options.rootsFrom fun _ => names with
      | .error error => return .error error
      | .ok roots => loadFrom options (.begin roots)

def isDirectory (path : Path) : IO Bool := do
  match ← attempt path fun name => do (← IO.FS.realPath name).isDir with
  | .ok found => return found
  | .error _ => return false

def makeDirectory (path : Path) : IO (Except FileFault Unit) := do
  match ← attempt path fun name => IO.FS.createDir name with
  | .ok () => return .ok ()
  | .error fault => return if ← isDirectory path then .ok () else .error fault

def makeDirectories (path : Path) : IO (Except FileFault Unit) :=
  if path.text = "" then return .ok ()
  else FileTree.makeInside makeDirectory path path.parents

def writeFiles (root : Path) : List Sink.GeneratedFile → IO (Except FileFault Unit)
  | [] => return .ok ()
  | file :: rest => do
      let directory := root.join ⟨file.package⟩
      match ← makeDirectories directory with
      | .error fault => return .error fault
      | .ok () =>
          let path := directory.join ⟨file.file⟩
          match ← attempt path fun name => IO.FS.writeFile name file.contents with
          | .error fault => return .error fault
          | .ok () => writeFiles root rest

def writeAll (options : Options) (set : SchemaSet) : IO (Except Error Report) := do
  let (result, files) :=
    match Generation.write set options .listing [] with
    | .ok report files => (Except.ok report, files)
    | .error error files => (Except.error error, files)
  match ← writeFiles options.outputDirectory files with
  | .ok () => return result
  | .error fault => return .error (.file fault)

def runWith (arguments : Arguments) : IO Outcome := do
  let config ← readText (arguments.config.getD ⟨""⟩)
  match optionsOf (fun _ => config) arguments with
  | .error error => return .ofError error
  | .ok options =>
      match ← loadAll options with
      | .error error => return .ofError error
      | .ok set =>
          match ← writeAll options set with
          | .error error => return .ofError error
          | .ok report => return .ofReport arguments options report

def finish (outcome : Outcome) : IO UInt32 := do
  IO.print outcome.output
  IO.eprint outcome.complaint
  return outcome.code.toUInt32

end SchemaBinding.CommandLine

open SchemaBinding.CommandLine

def main (words : List String) : IO UInt32 := do
  match Arguments.ofWords words with
  | .error stop => finish (.ofStop stop)
  | .ok arguments => finish (← runWith arguments)
