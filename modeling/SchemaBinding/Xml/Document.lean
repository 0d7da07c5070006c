import SchemaBinding.Xml.Element
import SchemaBinding.Xml.Token

namespace SchemaBinding.Xml

/-- The namespaces in scope, with no prefix for the default one. -/
abbrev Scope := List (Option String × String)

namespace Scope

def find? (scope : Scope) (short : Option String) : Option String :=
  List.lookup short scope

/-- The own bindings, then those of the parent that they do not replace. -/
def within (own parent : Scope) : Scope :=
  if own.isEmpty then parent
  else parent.foldl
    (fun scope entry => if (scope.find? entry.1).isSome then scope else scope ++ [entry]) own

def bindings (scope : Scope) : Bindings :=
  scope.foldl
    (fun bindings entry =>
      match entry.1 with
      | some short => bindings.bind short entry.2
      | none => bindings.bindDefault entry.2)
    {}

def namespaceOf (scope : Scope) (short : String) : Except Fault (Option String) :=
  if short.isEmpty then .ok (scope.find? none)
  else
    match scope.find? (some short) with
    | some space => .ok (some space)
    | none => .error (.unknownNamespace short)

end Scope

def xmlnsNamespace : String := "http://www.w3.org/2000/xmlns/"

/-- The declarations among the attributes of a tag, and the others. -/
def splitAttributes (own : Scope) (others : List (RawName × String)) :
    List (RawName × String) → Except Fault (Scope × List (RawName × String))
  | [] => .ok (own, others.reverse)
  | (name, value) :: rest =>
      if name.short = "xmlns" then
        if value = xmlnsNamespace then .error .reservedNamespace
        else if (name.localName = "xml") != (value = xmlNamespace) then
          .error .reservedNamespace
        else if (own.find? (some name.localName)).isSome then
          .error (.repeatedNamespace name.localName)
        else if value = xmlNamespace then splitAttributes own others rest
        else splitAttributes (own ++ [(some name.localName, value)]) others rest
      else if name.localName = "xmlns" then
        if value = xmlNamespace || value = xmlnsNamespace then .error .reservedNamespace
        else splitAttributes (own ++ [(none, value)]) others rest
      else splitAttributes own ((name, value) :: others) rest

def attributeName (scope : Scope) (name : RawName) : Except Fault QName :=
  if name.short = "xml" then .ok ⟨some xmlNamespace, name.localName⟩
  else if name.short.isEmpty then .ok ⟨none, name.localName⟩
  else do return ⟨← scope.namespaceOf name.short, name.localName⟩

/-- The attributes by expanded name, each name once. -/
def expandAttributes (scope : Scope) (done : List (QName × String)) :
    List (RawName × String) → Except Fault (List (QName × String))
  | [] => .ok done.reverse
  | (name, value) :: rest => do
      let expanded ← attributeName scope name
      if done.any fun entry => entry.1 == expanded then
        throw (.repeatedAttribute name.localName)
      expandAttributes scope ((expanded, value) :: done) rest

/-- An element whose end tag is still to come, its children newest first. -/
structure Unclosed where
  raw : RawName
  scope : Scope
  element : Element

namespace Unclosed

def addText (frame : Unclosed) (text : String) : Unclosed :=
  let element := frame.element
  { frame with element := { element with text := some (element.text.getD "" ++ text) } }

def addChild (frame : Unclosed) (child : Element) : Unclosed :=
  let element := frame.element
  { frame with element := { element with children := child :: element.children } }

def close (frame : Unclosed) (stop : Nat) : Element :=
  let element := frame.element
  { element with stop := stop, children := element.children.reverse }

end Unclosed

/-- The tree so far: the elements that are open, innermost first, and the finished root. -/
structure Forest where
  unclosed : List Unclosed := []
  root : Option Element := none

namespace Forest

def finish (forest : Forest) (outer : List Unclosed) (element : Element) : Forest :=
  match outer with
  | [] => { unclosed := [], root := some element }
  | parent :: rest => { forest with unclosed := parent.addChild element :: rest }

def opened (forest : Forest) (name : RawName) (attributes : List (RawName × String))
    (start stop : Nat) : Except Fault Unclosed := do
  if forest.unclosed.isEmpty && forest.root.isSome then throw .outsideRoot
  let parent := (forest.unclosed.head?.map Unclosed.scope).getD []
  let (own, others) ← splitAttributes [] [] attributes
  let scope := Scope.within own parent
  let expanded ← expandAttributes scope [] others
  let space ← scope.namespaceOf name.short
  return {
    raw := name
    scope := scope
    element := {
      name := ⟨space, name.localName⟩
      attributes := expanded.filterMap fun (key, value) =>
        if key.space.isNone then some (key.localName, value) else none
      text := none
      bindings := scope.bindings
      start := start
      stop := stop
      children := [] } }

def add (forest : Forest) : Token → Except Fault Forest
  | .opening name attributes closed start stop => do
      let frame ← forest.opened name attributes start stop
      return if closed then forest.finish forest.unclosed (frame.close stop)
        else { forest with unclosed := frame :: forest.unclosed }
  | .closing name stop =>
      match forest.unclosed with
      | [] => .error .outsideRoot
      | frame :: outer =>
          if frame.raw = name then .ok (forest.finish outer (frame.close stop))
          else .error (.mismatchedEnd name.text)
  | .text value plain =>
      match forest.unclosed with
      | frame :: outer => .ok { forest with unclosed := frame.addText value :: outer }
      | [] => if plain then .ok forest else .error .outsideRoot
  | .cdata value =>
      match forest.unclosed with
      | frame :: outer => .ok { forest with unclosed := frame.addText value :: outer }
      | [] => .error .outsideRoot
  | .skipped => .ok forest

def rootOf (tokens : List Token) : Except Fault Element := do
  let forest ← tokens.foldlM add {}
  if !forest.unclosed.isEmpty then throw .unclosed
  match forest.root with
  | some root => return root
  | none => throw .noRoot

end Forest

def readRoot (source : String) : Except Fault Element := do
  Forest.rootOf (← tokensOf source)

structure Document where
  source : String
  root : Element

namespace Document

def parse (source : String) (limits : Limits) : Except Error Document := do
  match readRoot source with
  | .error fault => throw (.markup fault.message)
  | .ok root =>
      root.checkDepth limits 0
      return ⟨source, root⟩

def fragment (document : Document) (start stop : Nat) : String :=
  Text.slice document.source start stop

end Document

end SchemaBinding.Xml
