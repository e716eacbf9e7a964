import Renderflow.Engine.Url.Host
import Renderflow.Text.Basic

/-!
# URLs

Absolute URLs in the form that browsers give them: scheme and host in lower case, no port
that is the default of the scheme, no dot segments, and every part percent-encoded.
-/

namespace Renderflow

namespace Url

/-- The segments of a path, or a text that is no hierarchy. -/
inductive Path where
  | flat (text : String)
  | segments (list : List String)
  deriving DecidableEq, Repr

end Url

structure Url where
  scheme : String
  username : String := ""
  password : String := ""
  host : Option Url.Host := none
  port : Option Nat := none
  path : Url.Path
  query : Option String := none
  fragment : Option String := none
  deriving DecidableEq, Repr

namespace Url

/-! ## Writing -/

def credentials (u : Url) : String :=
  if u.username.isEmpty && u.password.isEmpty then ""
  else u.username ++ (if u.password.isEmpty then "" else ":" ++ u.password) ++ "@"

/-- A path that would read as a host is set off by a dot. -/
def pathText (u : Url) : String :=
  match u.path with
  | .flat text => text
  | .segments list =>
    let mark := match u.host, list with
      | none, "" :: _ :: _ => "/."
      | _, _ => ""
    mark ++ String.join (list.map ("/" ++ ·))

def text (u : Url) : String :=
  let authority := match u.host with
    | none => ""
    | some h => "//" ++ u.credentials ++ h.text ++ ((u.port.map fun p => ":" ++ toString p).getD "")
  u.scheme ++ ":" ++ authority ++ u.pathText ++ ((u.query.map ("?" ++ ·)).getD "") ++
    ((u.fragment.map ("#" ++ ·)).getD "")

/-! ## Reading -/

/-- The schemes with rules for hosts, and their default ports. -/
def defaultPort? (scheme : String) : Option Nat :=
  [("http", 80), ("https", 443), ("ws", 80), ("wss", 443), ("ftp", 21)].lookup scheme

def isSlash (special : Bool) (c : Char) : Bool :=
  c == '/' || (special && c == '\\')

/-- The text without control characters and spaces at its ends, and without line breaks and
tabs anywhere. -/
def cleaned (s : String) : List Char :=
  let outer (c : Char) : Bool := c.toNat ≤ 0x20
  let cs := ((s.toList.dropWhile outer).reverse.dropWhile outer).reverse
  cs.filter fun c => c != '\t' && c != '\n' && c != '\r'

/-- The scheme before the first colon, in lower case, and what follows the colon. -/
def scheme? (cs : List Char) : Option (String × List Char) :=
  let mark (c : Char) : Bool := c.isAlphanum || c == '+' || c == '-' || c == '.'
  match cs with
  | [] => none
  | c :: _ =>
    if !c.isAlpha then none
    else match cs.dropWhile mark with
      | ':' :: rest => some (String.ofList ((cs.takeWhile mark).map Char.toLower), rest)
      | _ => none

def after? (mark : Char) (cs : List Char) : List Char × Option (List Char) :=
  match cs.dropWhile (· != mark) with
  | [] => (cs, none)
  | _ :: rest => (cs.takeWhile (· != mark), some rest)

/-- A letter and a colon or bar, as drives are named on some systems. -/
def isDrive : List Char → Bool
  | [c, mark] => c.isAlpha && (mark == ':' || mark == '|')
  | _ => false

/-- The path without its last segment, which is never a drive that stands alone. -/
def parent (file : Bool) (list : List String) : List String :=
  match list with
  | [only] => if file && isDrive only.toList then list else []
  | _ => list.dropLast

def isDot (segment : String) : Bool :=
  segment == "." || Text.lower segment == "%2e"

def isDoubleDot (segment : String) : Bool :=
  ["..", ".%2e", "%2e.", "%2e%2e"].contains (Text.lower segment)

/-- Follows the parts of a path, dot segments taken as steps. -/
def walk (file : Bool) (path : List String) : List (List Char) → List String
  | [] => path
  | part :: rest =>
    let segment := encode inPath part
    let closed := if rest.isEmpty then [""] else []
    if isDoubleDot segment then walk file (parent file path ++ closed) rest
    else if isDot segment then walk file (path ++ closed) rest
    else if file && path.isEmpty && isDrive part then
      walk file [String.ofList (part.take 1) ++ ":"] rest
    else walk file (path ++ [segment]) rest

/-- The segments after a first slash, which may be missing. -/
def segments (special file : Bool) (cs : List Char) : List String :=
  let cs := match cs with
    | c :: rest => if isSlash special c then rest else cs
    | [] => []
  walk file [] (Text.splitBy (isSlash special) cs)

/-- Username and password, up to the last `@` of an authority, and what follows it. -/
def userInfo (authority : List Char) : String × String × List Char :=
  match authority.reverse.dropWhile (· != '@') with
  | [] => ("", "", authority)
  | _ :: before =>
    let (user, password) := after? ':' before.reverse
    (encode inUserInfo user, encode inUserInfo (password.getD []),
      (authority.reverse.takeWhile (· != '@')).reverse)

/-- Cuts a host from its port, at the first colon outside of brackets. -/
def cutPort : Bool → List Char → List Char × Option (List Char)
  | _, [] => ([], none)
  | inside, c :: rest =>
    if c == ':' && !inside then ([], some rest)
    else
      let (host, port) :=
        cutPort (if c == '[' then true else if c == ']' then false else inside) rest
      (c :: host, port)

/-- The port of an authority; the default one is not kept. -/
def port? (scheme : String) : Option (List Char) → Option (Option Nat)
  | none => some none
  | some [] => some none
  | some digits =>
    match (Text.digits? digits).filter (· ≤ 65535) with
    | none => none
    | some n => some (if defaultPort? scheme = some n then none else some n)

def special (scheme : String) : Bool :=
  scheme == "file" || (defaultPort? scheme).isSome

/-- Authority and path, after the two slashes. -/
def authority? (scheme : String) (cs : List Char) : Option Url := do
  let special := special scheme
  let authority := cs.takeWhile fun c => !isSlash special c
  let rest := cs.dropWhile fun c => !isSlash special c
  let (username, password, place) := userInfo authority
  let (hostText, portText) := cutPort false place
  if hostText.isEmpty && (special || portText.isSome) then none
  else
    let host ← if special then Host.special? hostText else Host.plain? hostText
    let port ← port? scheme portText
    let path := if rest.isEmpty && !special then [] else segments special false rest
    some { scheme, username, password, host := some host, port, path := .segments path }

/-- A file URL; the local host is not kept. -/
def file? (cs : List Char) : Option Url := do
  let slash := isSlash true
  let plain (path : List Char) : Url :=
    { scheme := "file", host := some (.name ""), path := .segments (segments true true path) }
  match cs with
  | a :: b :: rest =>
    if slash a && slash b then
      let hostText := rest.takeWhile fun c => !slash c
      if hostText.isEmpty || isDrive hostText then some (plain rest)
      else
        let host ← Host.special? hostText
        let host := if host.text == "localhost" then .name "" else host
        some { plain (rest.dropWhile fun c => !slash c) with host := some host }
    else some (plain cs)
  | _ => some (plain cs)

/-- A URL without its query and fragment. -/
def hierarchy? (scheme : String) (cs : List Char) : Option Url :=
  if scheme == "file" then file? cs
  else if special scheme then authority? scheme (cs.dropWhile (isSlash true))
  else match cs with
    | '/' :: '/' :: rest => authority? scheme rest
    | '/' :: _ => some { scheme, path := .segments (segments false false cs) }
    | _ => some { scheme, path := .flat (encode isControl cs) }

/-- Reads an absolute URL. -/
def parse? (s : String) : Option Url := do
  let (scheme, rest) ← scheme? (cleaned s)
  let (rest, fragment) := after? '#' rest
  let (rest, query) := after? '?' rest
  let url ← hierarchy? scheme rest
  some
    { url with
      query := query.map (encode (if special scheme then inSpecialQuery else inQuery))
      fragment := fragment.map (encode inFragment) }

/-- The URL of a name in the directory that a URL stands for. A URL whose path is no
hierarchy has none. -/
def join? (u : Url) (name : String) : Option Url :=
  match u.path with
  | .flat _ => none
  | .segments list =>
    some
      { u with
        path := .segments (parent (u.scheme == "file") list ++ [name])
        query := none
        fragment := none }

end Url

end Renderflow
