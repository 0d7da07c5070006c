import SchemaBinding.Text.Pieces

namespace SchemaBinding

structure Path where
  text : String
  deriving DecidableEq, Repr

namespace Path

inductive Step
  | up
  | down (name : String)
  deriving DecidableEq, Repr

def isAbsolute (path : Path) : Bool :=
  path.text.toList.head? == some '/'

def pieces (path : Path) : List String :=
  (path.text.toList.splitOnP (· == '/')).map String.ofList

/-- Empty pieces and single dots are no components. -/
def stepOf? (piece : String) : Option Step :=
  if piece = "" || piece = "." then none
  else if piece = ".." then some .up
  else some (.down piece)

def steps (path : Path) : List Step :=
  path.pieces.filterMap stepOf?

def route (path : Path) : List String :=
  path.pieces.filter (· != "")

def endsWithSlash (path : Path) : Bool :=
  path.text.toList.getLast? == some '/'

/-- A relative path goes below this one; an absolute one replaces it. -/
def join (path other : Path) : Path :=
  if other.isAbsolute || path.text = "" then other
  else if path.endsWithSlash then ⟨path.text ++ other.text⟩
  else ⟨path.text ++ "/" ++ other.text⟩

def ofNames (absolute : Bool) (names : List String) : Path :=
  ⟨(if absolute then "/" else "") ++ Text.joinWith "/" names⟩

/-- Goes on from the names so far, innermost first. A step up drops the innermost name, be it
a step up that was kept before; with no name to drop it is kept itself. -/
def stepFrom : List String → Step → List String
  | [], .up => [".."]
  | _ :: outer, .up => outer
  | names, .down name => name :: names

def foldSteps (names : List String) (steps : List Step) : List String :=
  steps.foldl stepFrom names

def normalize (path : Path) : Path :=
  ofNames path.isAbsolute (foldSteps [] path.steps).reverse

def directory (path : Path) : Path :=
  match Text.cutLast '/' path.text.toList with
  | none => ⟨""⟩
  | some ([], _) => ⟨"/"⟩
  | some (before, _) => ⟨String.ofList before⟩

/-- The routes within a route, itself included, names innermost first. One that ends with a
single dot is the same as without it. -/
def outerRoutes : List String → List (List String)
  | [] => []
  | name :: outer =>
      if name = "." then outerRoutes outer else (name :: outer) :: outerRoutes outer

def parents (path : Path) : List Path :=
  let outer := (path.route.reverse.dropWhile (· == ".")).drop 1
  (outerRoutes outer).map fun names => ofNames path.isAbsolute names.reverse

theorem foldSteps_append (names : List String) (first second : List Step) :
    foldSteps names (first ++ second) = foldSteps (foldSteps names first) second := by
  simp [foldSteps]

end Path

end SchemaBinding
