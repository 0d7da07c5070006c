import SchemaBinding.CommandLine.Arguments
import SchemaBinding.Generation
import SchemaBinding.Options.Decoding

namespace SchemaBinding.CommandLine

structure Outcome where
  code : Nat
  output : String := ""
  complaint : String := ""
  deriving DecidableEq, Repr

namespace Outcome

def versionText : String := "xsdgo 0.1.0\n"

def usageText : String :=
  "Usage: xsdgo [OPTIONS] [INPUT_DIR]\n\n" ++
  "  -r, --root FILE           root schema, may be repeated\n" ++
  "  -o, --output DIR          output directory\n" ++
  "  -p, --package PACKAGE     package for schemas without a target namespace\n" ++
  "  -b, --base-module MODULE  module path of the generated packages\n" ++
  "      --recursive           write every named complex type\n" ++
  "      --permissive          pass over repeated and empty definitions\n" ++
  "  -c, --config FILE         options in JSON\n" ++
  "  -j, --json                print the report in JSON\n" ++
  "  -v, --verbose             log more\n" ++
  "  -q, --quiet               log less\n"

def ofStop : Stop → Outcome
  | .misuse => { code := 2, complaint := usageText }
  | .help => { code := 0, output := usageText }
  | .version => { code := 0, output := versionText }

def ofError (error : Error) : Outcome where
  code := 1
  complaint := "Error: " ++ error.message ++ "\n"

def summaryLines (options : Options) (report : Report) : List String :=
  (report.structs.map fun written =>
    "  " ++ ((options.outputDirectory.join ⟨written.package⟩).join ⟨written.file⟩).text) ++
  [s!"Generated {report.structs.length} structs in {report.packages.length} packages " ++
    s!"from {report.documents} schema documents"]

def structJson (written : EmittedStruct) : JsonValue :=
  .object [
    JsonValue.member "package" (.text written.package),
    JsonValue.member "name" (.text written.name),
    JsonValue.member "file" (.text written.file),
    JsonValue.member "namespace" ((written.space.map JsonValue.text).getD .null)]

def reportJson (report : Report) : JsonValue :=
  .object [
    JsonValue.member "structs" (.array (report.structs.map structJson)),
    JsonValue.member "documents" (.number (toString report.documents)),
    JsonValue.member "packages" (.array (report.packages.map JsonValue.text))]

def ofReport (arguments : Arguments) (options : Options) (report : Report) : Outcome where
  code := 0
  output :=
    if arguments.json then (reportJson report).pretty 0 ++ "\n"
    else String.join ((summaryLines options report).map fun line => line ++ "\n")

end Outcome

def optionsOf (read : Path → Except FileFault String) (arguments : Arguments) :
    Except Error Options :=
  match arguments.config with
  | none => .ok (arguments.apply {})
  | some path => do return arguments.apply (← Options.ofFile (read path))

/-- A run on a file system: its outcome, and the files after it. -/
def run (tree : FileTree) (words : List String) : Outcome × FileTree :=
  match Arguments.ofWords words with
  | .error stop => (.ofStop stop, tree)
  | .ok arguments =>
      match optionsOf tree.readText arguments with
      | .error error => (.ofError error, tree)
      | .ok options =>
          match Generation.run tree options (.directory options.outputDirectory) tree with
          | .ok report after => (.ofReport arguments options report, after)
          | .error error after => (.ofError error, after)

end SchemaBinding.CommandLine
