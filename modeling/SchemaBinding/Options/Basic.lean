import SchemaBinding.Limits
import SchemaBinding.Name.Identifier
import SchemaBinding.Path
import SchemaBinding.Table

namespace SchemaBinding

structure Options where
  /-- Root schemas are relative to this directory. -/
  inputDirectory : Path := ⟨"."⟩
  /-- Without any, every schema in the input directory is a root. -/
  roots : List Path := []
  outputDirectory : Path := ⟨"generated"⟩
  /-- The package of what has no namespace. -/
  package : String := "schema"
  baseModule : String := ""
  namespacePackages : Table String String := []
  /-- Whether every named complex type is generated, reached or not. -/
  recursive : Bool := false
  /-- Whether repeated definitions and empty complex types are passed over. -/
  permissive : Bool := false
  limits : Limits := {}
  deriving DecidableEq, Repr

namespace Options

def withRoot (options : Options) (root : Path) : Options :=
  { options with roots := options.roots ++ [root] }

def withNamespacePackage (options : Options) (space package : String) : Options :=
  { options with namespacePackages := options.namespacePackages.put space package }

def checkPackage (fault : OptionFault) (package : String) : Except Error Unit :=
  if Identifier.isPackage package then .ok () else .error (.options fault)

def checkNamespacePackages : Table String String → Except Error Unit
  | [] => .ok ()
  | (space, package) :: rest => do
      checkPackage (.badNamespacePackage package space) package
      checkNamespacePackages rest

/-- Packages have to be usable names, and there has to be an output directory. -/
def validate (options : Options) : Except Error Unit := do
  checkPackage (.badPackage options.package) options.package
  checkNamespacePackages options.namespacePackages
  if options.outputDirectory.text = "" then throw (.options .noOutput)

def packageFor (options : Options) (space : Option String) : String :=
  match space with
  | none => options.package
  | some space =>
      match options.namespacePackages.get? space with
      | some package => package
      | none => Identifier.packageOf space

def importPath (options : Options) (package : String) : String :=
  match Text.dropEnd '/' options.baseModule.toList with
  | [] => package
  | base => String.ofList base ++ "/" ++ package

end Options

end SchemaBinding
