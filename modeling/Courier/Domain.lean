import Courier.Text.Composed
import Courier.Text.Folding
import Courier.Text.Joining
import Courier.Text.Punycode

/-!
# Domain names

A domain name is a row of labels with dots between them. Its normal form is in ASCII and in
small letters; a label with other characters is written in Punycode after the mark `xn--`. A
label that is written so already has to be the normal form of what it stands for.

* `Domain.normal?` is the normal form of a name.
-/

namespace Courier.Domain

/-- Whether a character may not stand in a domain name. -/
def isForbidden (c : Char) : Bool :=
  c.toNat ≤ 0x20 || c.toNat == 0x7F || "#%/:<>?@[\\]^|".toList.contains c

/-- Whether a character is in ASCII. -/
def isAscii (c : Char) : Bool :=
  c.toNat < 0x80

/-- What stands before a label in Punycode. -/
def punycodeMark : List Char := "xn--".toList

/-- The greatest number of characters that are written in Punycode. -/
def encodeLimit : Nat := 1000

/-- The greatest number of characters that are read as Punycode. -/
def decodeLimit : Nat := 2000

/-- A part of a name: as it is written in ASCII, and the characters that it stands for. -/
structure Label where
  written : List Char
  meaning : List Char

/-- The label that is written in Punycode. It stands for characters that are not all in ASCII,
each of which stands for itself. -/
def Label.ofPunycode? (cs : List Char) : Option Label :=
  let code := cs.drop punycodeMark.length
  if decodeLimit < code.length then none
  else match Punycode.decode? code with
    | none => none
    | some meaning =>
      if !meaning.all isAscii && meaning.all Folding.isPlain
          && Composed.compose meaning == meaning then
        some ⟨cs, meaning⟩
      else none

/-- The label of folded and composed characters. -/
def Label.ofFolded? (cs : List Char) : Option Label :=
  if cs.all isAscii then
    if punycodeMark.isPrefixOf cs then Label.ofPunycode? cs else some ⟨cs, cs⟩
  else if punycodeMark.isPrefixOf cs ∨ encodeLimit < cs.length then none
  else some ⟨punycodeMark ++ Punycode.encode cs, cs⟩

/-- Whether a label may stand in a name on its own. -/
def Label.isSound (l : Label) : Bool :=
  !l.written.any isForbidden && !l.meaning.head?.any Mark.isMark && Joining.fit l.meaning

/-- The labels of a name. -/
def labels? (cs : List Char) : Option (List Label) :=
  (cs.mapM Folding.fold?).bind fun folded =>
    ((Composed.compose folded.flatten).splitOn '.').mapM Label.ofFolded?

/-- The normal form of a name. Where a label has characters that run from right to left, every
label can be read in one direction only. -/
def normal? (cs : List Char) : Option (List Char) :=
  match labels? cs with
  | none => none
  | some labels =>
    let turns := labels.any fun l => l.meaning.any Direction.turns
    if labels.all Label.isSound
        && (!turns || labels.all fun l => l.meaning.isEmpty || Direction.agree l.meaning) then
      some (['.'].intercalate (labels.map Label.written))
    else none

end Courier.Domain
