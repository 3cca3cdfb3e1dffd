import Courier.Text.Blank
import Courier.Text.Quoted

/-!
# The session cookie

One cookie names the session. A `Session` remembers what it was and notices when somebody
else changes it; from then on it refuses every local change of the cookies. It looks at the
cookies only through their header text, so that any store of cookies will do.

* `Session.check` compares the header with the last one seen.
* `Session.update` makes a local change and remembers its result, unless the session was
  rotated.
-/

namespace Courier

/-- Whether the session cookie is still ours. -/
inductive SessionStatus where
  | unchanged
  | rotated
deriving DecidableEq

/-- What is known of the session cookie. -/
structure Session where
  cookieName : String
  lastHeader : Option String
  lastValue : Option String
  rotated : Bool
deriving DecidableEq

namespace Session

/-- Whether a name can name the session: not empty, without blanks, `=` and `;`. -/
def isValidName (name : String) : Bool :=
  name ≠ "" && !name.toList.any fun c => isBlank c || c == '=' || c == ';'

/-- The size of the matcher for the cookie of a name: one state of 32 octets for each octet of
the name and of the pattern around it, and a frame. -/
def matcherSize (name : String) : Nat := 32 * (name.utf8ByteSize + 61) + 120

/-- The greatest size that a matcher may have. -/
def matcherLimit : Nat := 10485760

/-- Nothing was seen yet. -/
def new (cookieName : String) : Session := ⟨cookieName, none, none, false⟩

/-- The value up to the next semicolon, if the text begins with the name and an equals sign. -/
def valueAt? (name cs : List Char) : Option (List Char) :=
  let start := name ++ ['=']
  if start.isPrefixOf cs then some ((cs.drop start.length).takeWhile (· ≠ ';')) else none

/-- The value of the first pair of the name that follows a semicolon and blanks. -/
def laterValue? (name : List Char) : List Char → Option (List Char)
  | [] => none
  | c :: cs =>
    if c = ';' then
      match valueAt? name (cs.dropWhile isBlank) with
      | some value => some value
      | none => laterValue? name cs
    else laterValue? name cs

/-- The value of a cookie in a header text. -/
def extract (name header : String) : Option String :=
  let name := name.toList
  let cs := header.toList
  ((valueAt? name cs).or (laterValue? name cs)).map String.ofList

/-- Remembers a header and the value in it. -/
def snapshot (s : Session) (header : String) : Session :=
  { s with lastHeader := some header, lastValue := extract s.cookieName header }

/-- Compares a header with the last one. Only a value that was there before and is now
another one, or gone, is a rotation; nothing undoes it. -/
def check (s : Session) (header : String) : Session × SessionStatus :=
  if s.rotated then (s, .rotated)
  else if s.lastHeader = some header then (s, .unchanged)
  else
    let seen := s.snapshot header
    match s.lastValue with
    | none => (seen, .unchanged)
    | some previous =>
      if seen.lastValue = some previous then (seen, .unchanged)
      else ({ seen with rotated := true }, .rotated)

/-- Nothing undoes a rotation. -/
theorem check_of_rotated {s : Session} (h : s.rotated = true) (header : String) :
    s.check header = (s, .rotated) := by
  rw [check, if_pos h]

/-- Makes a change of a store and remembers its header. If the session was rotated the store
is left alone; the flag returned says whether the change was made. -/
def update {σ : Type} (header : σ → String) (s : Session) (store : σ) (change : σ → σ) :
    Session × σ × Bool :=
  match s.check (header store) with
  | (s, .rotated) => (s, store, false)
  | (s, .unchanged) => (s.snapshot (header (change store)), change store, true)

theorem update_of_rotated {σ : Type} {s : Session} (h : s.rotated = true) (header : σ → String)
    (store : σ) (change : σ → σ) : s.update header store change = (s, store, false) := by
  rw [update, check_of_rotated h]

/-- The session as it stands in a message. -/
def render (s : Session) : String :=
  "CookieManager \x7b cookie_name: " ++ quote s.cookieName ++ ", last_session: "
    ++ quoteOption quote s.lastValue ++ ", rotated: " ++ (if s.rotated then "true" else "false")
    ++ ", .. \x7d"

end Session

end Courier
