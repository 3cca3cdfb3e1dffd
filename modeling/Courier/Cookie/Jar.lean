import Courier.Number.Power
import Courier.Text.Blank

/-!
# Cookie jars

A jar holds named cookies in the order in which they were first set. Of a `Set-Cookie` line
only the name, the value and `Max-Age` count: an age of zero or less removes the cookie.

* `Jar.header` is the text that a handshake presents.
* `Jar.applyLine` applies one line; a line without a name changes nothing.
-/

namespace Courier

/-- Cookies in the order in which they were first set, each name once. -/
structure Jar where
  cookies : List (String × String)
  nodup : (cookies.map (·.1)).Nodup

namespace Jar

/-- The jar without cookies. -/
def empty : Jar := ⟨[], by simp⟩

/-- The value of a cookie. -/
def get? (jar : Jar) (name : String) : Option String :=
  jar.cookies.lookup name

/-- Replaces the value of a cookie in place. -/
def replace (name value : String) (cookies : List (String × String)) : List (String × String) :=
  cookies.map fun c => if c.1 = name then (name, value) else c

theorem map_fst_replace (name value : String) (cookies : List (String × String)) :
    (replace name value cookies).map (·.1) = cookies.map (·.1) := by
  induction cookies with
  | nil => rfl
  | cons c cookies ih =>
    simp only [replace, List.map_cons] at ih ⊢
    rw [ih]
    split <;> simp_all

/-- Sets a cookie: in place if there is one of that name, else at the end. -/
def insert (jar : Jar) (name value : String) : Jar :=
  if h : name ∈ jar.cookies.map (·.1) then
    ⟨replace name value jar.cookies, by rw [map_fst_replace]; exact jar.nodup⟩
  else
    ⟨jar.cookies ++ [(name, value)], by
      rw [List.map_append, List.nodup_append]
      exact ⟨jar.nodup, by simp, by
        rintro a ha b hb rfl
        simp only [List.map_cons, List.map_nil, List.mem_singleton] at hb
        exact h (hb ▸ ha)⟩⟩

/-- Removes a cookie. -/
def erase (jar : Jar) (name : String) : Jar :=
  ⟨jar.cookies.filter (·.1 ≠ name), jar.nodup.sublist ((List.filter_sublist).map _)⟩

/-- The jar of the given cookies, the last of one name winning. -/
def ofList (cookies : List (String × String)) : Jar :=
  cookies.foldl (fun jar c => jar.insert c.1 c.2) empty

/-- How many cookies there are. -/
def size (jar : Jar) : Nat := jar.cookies.length

/-- All cookies, as a handshake presents them. -/
def header (jar : Jar) : String :=
  "; ".intercalate (jar.cookies.map fun c => c.1 ++ "=" ++ c.2)

/-- What a handshake presents: an empty header is left out. -/
def header? (jar : Jar) : Option String :=
  if jar.header = "" then none else some jar.header

/-- The parts before and after the first equals sign. -/
def splitPair? : List Char → Option (List Char × List Char)
  | [] => none
  | c :: cs => if c = '=' then some ([], cs) else (splitPair? cs).map fun (a, b) => (c :: a, b)

/-- A number with an optional sign and decimal digits, if 64 bits hold it. -/
def age? (cs : List Char) : Option Int :=
  let (negative, digits) := match cs with
    | '-' :: rest => (true, rest)
    | '+' :: rest => (false, rest)
    | _ => (false, cs)
  if digits = [] ∨ !digits.all fun c => '0' ≤ c ∧ c ≤ '9' then none else
    let n : Int := digits.foldl (fun n c => n * 10 + (c.toNat - '0'.toNat : Nat)) (0 : Int)
    let i := if negative then -n else n
    if -2 ^ 63 ≤ i ∧ i < 2 ^ 63 then some i else none

/-- Whether an attribute of a line removes its cookie. -/
def expires (cs : List Char) : Bool :=
  match splitPair? cs with
  | some (key, value) =>
    (trim key).map Char.toLower == "max-age".toList
      && (age? (trim value)).any fun age => decide (age ≤ 0)
  | none => false

/-- What a line does to a jar. -/
inductive Change where
  | set (name value : String)
  | remove (name : String)
deriving DecidableEq

/-- The change that a line asks for; none without an equals sign before the first semicolon,
or without a name before it. -/
def change? (line : String) : Option Change :=
  match line.toList.splitOn ';' with
  | [] => none
  | pair :: attributes =>
    match splitPair? pair with
    | none => none
    | some (name, value) =>
      let name := trim name
      if name = [] then none
      else if attributes.any expires then some (.remove (String.ofList name))
      else some (.set (String.ofList name) (String.ofList (trim value)))

/-- Makes a change. -/
def apply (jar : Jar) : Change → Jar
  | .set name value => jar.insert name value
  | .remove name => jar.erase name

/-- Applies one `Set-Cookie` line. -/
def applyLine (jar : Jar) (line : String) : Jar :=
  match change? line with
  | some change => jar.apply change
  | none => jar

/-- Applies `Set-Cookie` lines in order. -/
def applyLines (jar : Jar) (lines : List String) : Jar :=
  lines.foldl applyLine jar

end Jar

end Courier
