import SchemaBinding.Url.Host
import SchemaBinding.Url.Segments

namespace SchemaBinding

/-- A URL by its parts; the authority and the path are in normal form. -/
structure Url where
  scheme : String
  /-- User, host and service number, as printed after the two slashes. -/
  authority : Option (List Char)
  path : List Char
  /-- Query and fragment, each with its mark. -/
  suffix : List Char
  deriving DecidableEq, Repr

namespace Url

def isTrimmed (c : Char) : Bool :=
  c.toNat ≤ 0x20

def trimmed (text : String) : List Char :=
  let start := text.toList.dropWhile isTrimmed
  (start.reverse.dropWhile isTrimmed).reverse

def isSchemeChar (c : Char) : Bool :=
  c.isAlphanum || c == '+' || c == '-' || c == '.'

def scheme? (text : List Char) : Option (String × List Char) := do
  let (before, after) ← Text.cutFirst ':' text
  match withoutBreaks before with
  | [] => none
  | c :: rest =>
      if c.isAlpha && rest.all isSchemeChar then
        some (String.ofList ((c :: rest).map Char.toLower), after)
      else none

def hostedSchemes : List (String × Nat) :=
  [("http", 80), ("https", 443), ("ws", 80), ("wss", 443), ("ftp", 21)]

/-- The text up to the query or the fragment, and these two as written. -/
def cutSuffix (special : Bool) (text : List Char) : List Char × List Char :=
  let body := text.takeWhile fun c => c != '?' && c != '#'
  let rest := withoutBreaks (text.dropWhile fun c => c != '?' && c != '#')
  let queryText := rest.takeWhile (· != '#')
  let fragmentText := rest.dropWhile (· != '#')
  let query :=
    match queryText with
    | '?' :: chars =>
        '?' :: Percent.encode (if special then Percent.inSpecialQuery else Percent.inQuery) chars
    | _ => []
  let fragment :=
    match fragmentText with
    | '#' :: chars => '#' :: Percent.encode Percent.inFragment chars
    | _ => []
  (body, query ++ fragment)

/-- User and password, with the sign that ends them. -/
def userinfo (text : List Char) : List Char :=
  let written :=
    match Text.cutFirst ':' text with
    | none => Percent.encode Percent.inUserinfo text
    | some (user, password) =>
        Percent.encode Percent.inUserinfo user ++
          (if password.isEmpty then []
            else ':' :: Percent.encode Percent.inUserinfo password)
  if written.isEmpty then [] else written ++ ['@']

/-- The text before and after the colon that begins a service number. -/
def cutService : Bool → List Char → List Char × Option (List Char)
  | _, [] => ([], none)
  | bracket, c :: rest =>
      if c == ':' && !bracket then ([], some rest)
      else
        let inside := if c == '[' then true else if c == ']' then false else bracket
        let cut := cutService inside rest
        (c :: cut.1, cut.2)

def service? (standard : Option Nat) (digits : List Char) : Option (List Char) := do
  let value ← Host.numberIn? 10 digits
  if 65535 < value then none
  else if digits.isEmpty || some value = standard then some []
  else some (':' :: (toString value).toList)

/-- The authority, and what of the text is no part of it: a backslash ends the service number. -/
def authority? (scheme : String) (special : Bool) (text : List Char) :
    Option (List Char × List Char) := do
  let (user, location) :=
    match Text.cutLast '@' text with
    | some (user, location) => (user, location)
    | none => ([], text)
  let info := userinfo user
  let (hostText, serviceText) := cutService false location
  if hostText.isEmpty && (special || serviceText.isSome || !info.isEmpty) then none
  let host ← if special then Host.domain? hostText else Host.opaque? hostText
  let afterHost := serviceText.getD []
  let service ← service? (hostedSchemes.lookup scheme) (afterHost.takeWhile (· != '\\'))
  return (info ++ host ++ service, afterHost.dropWhile (· != '\\'))

def pathAfterAuthority (special : Bool) (text : List Char) : List Char :=
  match text with
  | [] => if special then ['/'] else []
  | c :: rest => hierarchicalPath special (if isSlash special c then rest else c :: rest)

/-- The parts of a URL whose authority begins the text. A sign that ends no user must have a
host behind it, unless nothing at all follows. -/
def withAuthority? (scheme : String) (special : Bool) (text : List Char) : Option Url := do
  let (body, suffix) := cutSuffix special text
  let authorityText := body.takeWhile fun c => !isSlash special c
  let pathPart := body.dropWhile fun c => !isSlash special c
  if authorityText = ['@'] && !(pathPart ++ suffix).isEmpty then none
  let (authority, rest) ← authority? scheme special authorityText
  return ⟨scheme, some authority, pathAfterAuthority special (rest ++ pathPart), suffix⟩

/-- The host of a file URL, none if it is this machine. -/
def fileHost? (text : List Char) : Option (List Char) :=
  if text.isEmpty then some []
  else (Host.domain? text).map fun host => if host = "localhost".toList then [] else host

def onThisMachine (path suffix : List Char) : Url :=
  ⟨"file", some [], path, suffix⟩

/-- A file URL from the text behind two slashes. A drive is no host, and a path that begins with
one is on this machine, whatever host is written. -/
def fileWithHost? (text suffix : List Char) : Option Url := do
  let hostText := withoutBreaks (text.takeWhile fun c => !isSlash true c)
  let rest := text.dropWhile fun c => !isSlash true c
  if isDrive hostText then return onThisMachine (pathOfFile text).path suffix
  match ← fileHost? hostText with
  | [] => return onThisMachine (pathOfFile rest).path suffix
  | host =>
      let folded := pathOfFile (rest.drop 1)
      return ⟨"file", some (if folded.onDrive then [] else host), folded.path, suffix⟩

def file? (text : List Char) : Option Url :=
  let (body, suffix) := cutSuffix true text
  match next? body with
  | none => some (onThisMachine ['/'] suffix)
  | some (first, rest) =>
      if isSlash true first then
        match next? rest with
        | some (second, more) =>
            if isSlash true second then fileWithHost? more suffix
            else some (onThisMachine (pathOfFile rest).path suffix)
        | none => some (onThisMachine ['/'] suffix)
      else some (onThisMachine (pathOfFile body).path suffix)

def plain? (scheme : String) (text : List Char) : Option Url :=
  match text with
  | '/' :: '/' :: rest => withAuthority? scheme false rest
  | '/' :: rest =>
      let (body, suffix) := cutSuffix false rest
      let path := hierarchicalPath false body
      some ⟨scheme, none, if path.take 2 = ['/', '/'] then '/' :: '.' :: path else path, suffix⟩
  | _ =>
      let (body, suffix) := cutSuffix false text
      some ⟨scheme, none, Percent.encode Percent.isControl body, suffix⟩

/-- A text without a scheme, or with a part that a URL with its scheme cannot have, is no URL. -/
def parse? (text : String) : Option Url := do
  let (scheme, rest) ← scheme? (trimmed text)
  if scheme = "file" then file? rest
  else
    let plain := withoutBreaks rest
    if (hostedSchemes.lookup scheme).isSome then
      withAuthority? scheme true (plain.dropWhile (isSlash true))
    else plain? scheme plain

def text (url : Url) : String :=
  url.scheme ++ ":" ++
    (match url.authority with
      | some authority => "//" ++ String.ofList authority
      | none => "") ++
    String.ofList (url.path ++ url.suffix)

/-- The path of the file that a URL names on this machine. -/
def filePath? (url : Url) : Option String :=
  if url.scheme = "file" && url.authority = some [] then
    some (String.ofList (Percent.decode url.path))
  else none

end Url

end SchemaBinding
