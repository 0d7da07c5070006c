import SchemaBinding.Options.Basic

namespace SchemaBinding.CommandLine

structure Arguments where
  inputDirectory : Option Path := none
  roots : List Path := []
  output : Option Path := none
  package : Option String := none
  baseModule : Option String := none
  config : Option Path := none
  recursive : Bool := false
  permissive : Bool := false
  json : Bool := false
  verbosity : Nat := 0
  quiet : Bool := false
  deriving DecidableEq, Repr

inductive Stop
  | misuse
  | help
  | version
  deriving DecidableEq, Repr

inductive Flag
  | recursive
  | permissive
  | json
  | verbose
  | quiet
  | help
  | version
  deriving DecidableEq, Repr

inductive Setting
  | root
  | output
  | package
  | baseModule
  | config
  deriving DecidableEq, Repr

inductive Switch
  | flag (flag : Flag)
  | setting (setting : Setting)
  deriving DecidableEq, Repr

def longSwitches : Table String Switch :=
  [("root", .setting .root), ("output", .setting .output), ("package", .setting .package),
    ("base-module", .setting .baseModule), ("config", .setting .config),
    ("recursive", .flag .recursive), ("permissive", .flag .permissive), ("json", .flag .json),
    ("verbose", .flag .verbose), ("quiet", .flag .quiet), ("help", .flag .help),
    ("version", .flag .version)]

def shortSwitches : Table Char Switch :=
  [('r', .setting .root), ('o', .setting .output), ('p', .setting .package),
    ('b', .setting .baseModule), ('c', .setting .config), ('j', .flag .json),
    ('v', .flag .verbose), ('q', .flag .quiet), ('h', .flag .help), ('V', .flag .version)]

namespace Arguments

def once {α : Type} (given : Option α) (value : α) : Except Stop (Option α) :=
  if given.isSome then .error .misuse else .ok (some value)

def pathOf (value : String) : Except Stop Path :=
  if value.isEmpty then .error .misuse else .ok ⟨value⟩

def assign (arguments : Arguments) (value : String) : Setting → Except Stop Arguments
  | .root => do return { arguments with roots := arguments.roots ++ [← pathOf value] }
  | .output => do return { arguments with output := ← once arguments.output (← pathOf value) }
  | .package => do return { arguments with package := ← once arguments.package value }
  | .baseModule => do return { arguments with baseModule := ← once arguments.baseModule value }
  | .config => do return { arguments with config := ← once arguments.config (← pathOf value) }

def raise (given : Bool) : Except Stop Bool :=
  if given then .error .misuse else .ok true

def turnOn (arguments : Arguments) : Flag → Except Stop Arguments
  | .recursive => do return { arguments with recursive := ← raise arguments.recursive }
  | .permissive => do return { arguments with permissive := ← raise arguments.permissive }
  | .json => do return { arguments with json := ← raise arguments.json }
  | .verbose => .ok { arguments with verbosity := arguments.verbosity + 1 }
  | .quiet => do return { arguments with quiet := ← raise arguments.quiet }
  | .help => .error .help
  | .version => .error .version

def position (arguments : Arguments) (word : String) : Except Stop Arguments := do
  return { arguments with
    inputDirectory := ← once arguments.inputDirectory (← pathOf word) }

/-- A word after one hyphen: switches of one letter. The rest of the word after a setting is
its value; else the next word is. -/
def letters (arguments : Arguments) : List Char → Except Stop (Arguments × Option Setting)
  | [] => .ok (arguments, none)
  | c :: rest =>
      match shortSwitches.get? c, rest with
      | none, _ => .error .misuse
      | some (.flag flag), _ => do letters (← arguments.turnOn flag) rest
      | some (.setting setting), [] => .ok (arguments, some setting)
      | some (.setting setting), '=' :: value => do
          return (← arguments.assign (String.ofList value) setting, none)
      | some (.setting setting), value => do
          return (← arguments.assign (String.ofList value) setting, none)

/-- A word after two hyphens: the name of a switch, and a value after an equals sign. -/
def named (arguments : Arguments) (word : List Char) :
    Except Stop (Arguments × Option Setting) :=
  let (name, value) :=
    match Text.cutFirst '=' word with
    | some (name, value) => (name, some (String.ofList value))
    | none => (word, none)
  match longSwitches.get? (String.ofList name), value with
  | none, _ => .error .misuse
  | some (.flag flag), none => do return (← arguments.turnOn flag, none)
  | some (.flag _), some _ => .error .misuse
  | some (.setting setting), none => .ok (arguments, some setting)
  | some (.setting setting), some value => do return (← arguments.assign value setting, none)

/-- Quiet and verbose exclude each other. -/
def finish (arguments : Arguments) : Except Stop Arguments :=
  if arguments.quiet && arguments.verbosity != 0 then .error .misuse else .ok arguments

/-- Takes in the words that are left; the setting is one that waits for its value. -/
def read (arguments : Arguments) (waiting : Option Setting) :
    List String → Except Stop Arguments
  | [] => if waiting.isSome then .error .misuse else arguments.finish
  | word :: rest =>
      match waiting, word.toList with
      | some _, '-' :: _ :: _ => .error .misuse
      | none, ['-', '-'] => do
          let arguments ← rest.foldlM position arguments
          arguments.finish
      | none, '-' :: '-' :: name => do
          let (arguments, waiting) ← arguments.named name
          arguments.read waiting rest
      | none, '-' :: c :: others => do
          let (arguments, waiting) ← arguments.letters (c :: others)
          arguments.read waiting rest
      | some setting, _ => do (← arguments.assign word setting).read none rest
      | none, _ => do (← arguments.position word).read none rest

def ofWords (words : List String) : Except Stop Arguments :=
  read {} none words

/-- The options that a file gave, with those of the command line in their place. -/
def apply (arguments : Arguments) (options : Options) : Options :=
  { options with
    inputDirectory := arguments.inputDirectory.getD options.inputDirectory
    roots := if arguments.roots.isEmpty then options.roots else arguments.roots
    outputDirectory := arguments.output.getD options.outputDirectory
    package := arguments.package.getD options.package
    baseModule := arguments.baseModule.getD options.baseModule
    recursive := options.recursive || arguments.recursive
    permissive := options.permissive || arguments.permissive }

end Arguments

end SchemaBinding.CommandLine
