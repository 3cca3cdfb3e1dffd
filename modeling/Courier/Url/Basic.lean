import Courier.Url.Host

/-!
# Addresses

An address is parsed and written back in its normal form: surrounding blanks and inner tabs
and line ends are dropped, the scheme is in lower case and the host in its normal form, the
default port of the scheme is left out, dot segments are resolved, and an empty path is a
slash. In a path a backslash is a slash, as after the host.

* `Url.parse` reads an absolute address.
* `Url.render` is the normal form.
-/

namespace Courier

/-- A parsed address. The authority is absent in addresses such as `mailto:x`. -/
structure Url where
  scheme : String
  authority : Option String
  path : String
  query : Option String
  fragment : Option String

namespace Url

/-- The port that a scheme stands for, in the schemes whose addresses always have a host. -/
def defaultPort? (scheme : String) : Option Nat :=
  [("http", 80), ("https", 443), ("ws", 80), ("wss", 443), ("ftp", 21)].lookup scheme

/-- Whether addresses of a scheme always have a host. -/
def needsHost (scheme : String) : Bool :=
  (defaultPort? scheme).isSome

/-- Whether addresses of a scheme have a hierarchical path. -/
def isSpecial (scheme : String) : Bool :=
  needsHost scheme || scheme == "file"

/-- Drops controls and spaces at the ends, and tabs and line ends everywhere. -/
def clean (cs : List Char) : List Char :=
  let isEdge (c : Char) := decide (c.toNat ≤ 0x20)
  let inner := ((cs.dropWhile isEdge).reverse.dropWhile isEdge).reverse
  inner.filter fun c => c ≠ '\t' ∧ c ≠ '\n' ∧ c ≠ '\r'

/-- The scheme and what follows its colon. -/
def splitScheme? (cs : List Char) : Option (String × List Char) :=
  let name := cs.takeWhile fun c => c.isAlphanum || c == '+' || c == '-' || c == '.'
  match name, cs.drop name.length with
  | first :: _, ':' :: rest =>
    if first.isAlpha then some (String.ofList (name.map Char.toLower), rest) else none
  | _, _ => none

/-- The user part before the last at sign, if there is one, and the rest of an authority. -/
def splitUser (cs : List Char) : Option (List Char) × List Char :=
  match (cs.splitOn '@').reverse with
  | host :: part :: parts => (some (['@'].intercalate (part :: parts).reverse), host)
  | _ => (none, cs)

/-- A user part, escaped; an empty word after the name is left out with its colon. -/
def renderUser (cs : List Char) : String :=
  let name := cs.takeWhile (· ≠ ':')
  let word := (cs.drop name.length).drop 1
  let special := "\"#<>?`\x7b\x7d/:;=@[\\]^|"
  let text := escape special name ++ if word = [] then "" else ":" ++ escape special word
  if text = "" then "" else text ++ "@"

/-- The text before the first colon that does not stand in brackets, and what follows it. -/
def splitPort (inBrackets : Bool) : List Char → List Char × Option (List Char)
  | [] => ([], none)
  | c :: cs =>
    if c = ':' ∧ !inBrackets then ([], some cs)
    else
      let (host, port) := splitPort (c = '[' || (inBrackets && c != ']')) cs
      (c :: host, port)

/-- A decimal number below `2 ^ 16`; the empty text is no number, but no fault either. -/
def port? (cs : List Char) : Except Fault (Option Nat) :=
  if cs = [] then .ok none
  else if cs.all Char.isDigit then
    let n := cs.foldl (fun n c => n * 10 + (c.toNat - '0'.toNat)) 0
    if n < 2 ^ 16 then .ok (some n) else .error .badPort
  else .error .badPort

/-- The normal form of an authority, which may be the whole of an address after the scheme. The
host may be empty if the scheme does not need one, and nobody and no port is named. -/
def normalAuthority (scheme : String) (isWhole : Bool) (cs : List Char) : Except Fault String := do
  let (user, rest) := splitUser cs
  if user = some [] ∧ rest = [] ∧ !isWhole then throw .emptyHost
  let user := (user.map renderUser).getD ""
  let (name, port) := splitPort false rest
  if name = [] then
    if needsHost scheme ∨ port.isSome ∨ user ≠ "" then throw .emptyHost
  let host ← if needsHost scheme then host name else opaqueHost name
  let port ← port? ((port.getD []).takeWhile (· ≠ '\\'))
  return user ++ host ++ match port with
    | some n => if defaultPort? scheme = some n then "" else ":" ++ toString n
    | none => ""

/-- Whether a text is the letter of a drive. -/
def isDrive : List Char → Bool
  | [letter, sign] => letter.isAlpha && (sign = ':' || sign = '|')
  | _ => false

/-- The normal form of the host of a file; the letter of a drive belongs to the path. -/
def fileHost (cs : List Char) : Except Fault String :=
  if cs = [] ∨ isDrive cs then .ok ""
  else (host cs).map fun name => if name = "localhost" then "" else name

/-- Whether a segment stands for the directory itself. -/
def isDot (s : List Char) : Bool :=
  [".", "%2e"].contains (String.ofList (s.map Char.toLower))

/-- Whether a segment stands for the parent directory. -/
def isDoubleDot (s : List Char) : Bool :=
  ["..", ".%2e", "%2e.", "%2e%2e"].contains (String.ofList (s.map Char.toLower))

/-- The parent of a directory, whose segments are in reverse; a drive has none. -/
def parent : List (List Char) → List (List Char)
  | [] => []
  | s :: segments => if isDrive s then s :: segments else segments

/-- Resolves dot segments; a dot at the end leaves an empty segment. -/
def resolve (done : List (List Char)) : List (List Char) → List (List Char)
  | [] => done.reverse
  | s :: rest =>
    if isDoubleDot s then
      if rest = [] then resolve ([] :: parent done) rest else resolve (parent done) rest
    else if isDot s then
      if rest = [] then resolve ([] :: done) rest else resolve done rest
    else resolve (s :: done) rest

/-- The normal form of a hierarchical path. -/
def normalPath (cs : List Char) : String :=
  let cs := if cs.head? = some '/' then cs.drop 1 else cs
  (resolve [] (cs.splitOn '/')).foldl (fun out s => out ++ "/" ++ escape "\"#<>?`\x7b\x7d" s) ""

/-- Reads an absolute address. -/
def parse (text : String) : Except Fault Url :=
  match splitScheme? (clean text.toList) with
  | none => .error .relative
  | some (scheme, rest) =>
    let body := rest.takeWhile (· ≠ '#')
    let fragment := if body.length < rest.length then
      some (escape "\"<>`" (rest.drop (body.length + 1))) else none
    let main := body.takeWhile (· ≠ '?')
    let query := if main.length < body.length then
      some (escape (if isSpecial scheme then "\"#<>'" else "\"#<>") (body.drop (main.length + 1)))
      else none
    let main := if isSpecial scheme then main.map fun c => if c = '\\' then '/' else c else main
    let slashes := (main.takeWhile (· == '/')).length
    if needsHost scheme ∨ 2 ≤ slashes then
      let after := main.drop (if needsHost scheme then slashes else 2)
      let name := after.takeWhile (· ≠ '/')
      let path := after.drop name.length
      let isWhole := path = [] ∧ query = none ∧ fragment = none
      let authority :=
        if scheme = "file" then fileHost name else normalAuthority scheme isWhole name
      authority.map fun authority => {
        scheme := scheme
        authority := some authority
        path := if isSpecial scheme ∨ path ≠ [] then normalPath path else ""
        query := query
        fragment := fragment }
    else .ok {
      scheme := scheme
      authority := if isSpecial scheme then some "" else none
      path := if isSpecial scheme ∨ slashes ≠ 0 then normalPath main else escape "" main
      query := query
      fragment := fragment }

/-- The normal form of an address. -/
def render (u : Url) : String :=
  u.scheme ++ ":" ++ (match u.authority with
    | some a => "//" ++ a
    | none => "") ++ u.path
    ++ (match u.query with
      | some q => "?" ++ q
      | none => "")
    ++ (match u.fragment with
      | some f => "#" ++ f
      | none => "")

end Url

end Courier
