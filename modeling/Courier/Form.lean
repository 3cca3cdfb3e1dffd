import Courier.Frame
import Courier.Json.Value

/-!
# Request bodies

A request carries nothing, a document, or a form. A form is an ordered list of text and file
fields; the wire carries its texts as the content and at most one file as an attachment.

* `Form.split` separates the texts from the file, or says why the wire cannot carry the form.
* `Upload.ofPath` takes the name of an upload from the last component of its path.
-/

namespace Courier

/-- Where the octets of an upload come from. -/
inductive Source where
  | memory (octets : Octets)
  /-- A file that is read when the request is sent. -/
  | disk (path : String)
deriving DecidableEq

/-- A file to send. -/
structure Upload where
  name : String
  source : Source
deriving DecidableEq

/-- What makes an upload or a form with uploads invalid. -/
inductive UploadFault where
  | secondFile
  | misnamed (name : String)
  | namelessPath (path : String)
  | stated (text : String)
deriving DecidableEq

/-- Names the fault. -/
def UploadFault.message : UploadFault → String
  | .secondFile => "only one file field is allowed per request"
  | .misnamed name => "file field must be named \"file\", got \"" ++ name ++ "\""
  | .namelessPath path => "no file name in path: " ++ path
  | .stated text => text

/-- The file name at the end of a path. Empty components and single dots do not count, and
two dots are no name. -/
def fileName? (path : String) : Option String :=
  match ((path.toList.splitOn '/').filter fun c => c ≠ [] ∧ c ≠ ['.']).getLast? with
  | none | some ['.', '.'] => none
  | some name => some (String.ofList name)

namespace Upload

/-- An upload of octets in memory. -/
def ofOctets (name : String) (octets : Octets) : Upload := ⟨name, .memory octets⟩

/-- An upload of a file, named as the last component of its path. -/
def ofPath (path : String) : Except UploadFault Upload :=
  match fileName? path with
  | some name => .ok ⟨name, .disk path⟩
  | none => .error (.namelessPath path)

/-- Whether the octets are at hand. -/
def isInMemory (u : Upload) : Bool :=
  match u.source with
  | .memory _ => true
  | .disk _ => false

/-- The attachment of an upload whose octets are at hand. -/
def attachment? (u : Upload) : Option Attachment :=
  match u.source with
  | .memory octets => some ⟨u.name, octets⟩
  | .disk _ => none

end Upload

/-- What a form field holds. -/
inductive FieldValue where
  | text (s : String)
  | file (u : Upload)
deriving DecidableEq

/-- Named fields in order; names may repeat. -/
abbrev Form := List (String × FieldValue)

/-- A form as the wire carries it. -/
structure SplitForm where
  texts : List (String × String)
  file : Option Upload
deriving DecidableEq

namespace Form

/-- The only name that a file field may have. -/
def fileField : String := "file"

/-- Splits the rest of a form, given the texts so far in reverse and the file so far. -/
def splitFrom (texts : List (String × String)) (file : Option Upload) :
    Form → Except UploadFault SplitForm
  | [] => .ok ⟨texts.reverse, file⟩
  | (name, .text s) :: fields => splitFrom ((name, s) :: texts) file fields
  | (name, .file u) :: fields =>
    if file.isSome then .error .secondFile
    else if name ≠ fileField then .error (.misnamed name)
    else splitFrom texts (some u) fields

/-- Separates the texts from the file. -/
def split (form : Form) : Except UploadFault SplitForm :=
  splitFrom [] none form

end Form

/-- The map of the texts, in order. -/
def SplitForm.content (s : SplitForm) : Value :=
  .map (s.texts.map fun (name, text) => (.ofString name, .ofString text))

/-- What a request carries. -/
inductive Body where
  | empty
  | json (j : Json)
  | form (f : Form)

end Courier
