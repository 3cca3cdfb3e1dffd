import Courier.Error
import Mathlib.Data.List.Basic

/-!
# Forms that the wire can carry

The texts of a form travel as its content, its file as an attachment. There may be any number of
texts, under any names, but only one file, and that under one name.

* `Form.texts`, `Form.files`: the fields of a form by what they hold, in their order.
* `Form.splitFrom_eq`: **the file fields alone decide** whether a form can be split.
* `Form.split_exact`: **a form can be split exactly if the wire can carry it**, and then nothing of it
  is lost; of two faults the one that comes first is reported.
-/

namespace Courier

/-- The text of a form field. -/
def FieldValue.text? : FieldValue → Option String
  | .text s => some s
  | .file _ => none

/-- The file of a form field. -/
def FieldValue.file? : FieldValue → Option Upload
  | .text _ => none
  | .file u => some u

namespace Form

/-- The text fields of a form with their names, in their order. -/
def texts (form : Form) : List (String × String) :=
  form.filterMap fun field => field.2.text?.map (field.1, ·)

/-- The file fields of a form with their names, in their order. -/
def files (form : Form) : List (String × Upload) :=
  form.filterMap fun field => field.2.file?.map (field.1, ·)

/-- What the file fields come to, given the file so far. -/
def fileOf (file : Option Upload) : List (String × Upload) → Except UploadFault (Option Upload)
  | [] => .ok file
  | (name, u) :: files =>
    if file.isSome then .error .secondFile
    else if name ≠ fileField then .error (.misnamed name)
    else fileOf (some u) files

variable {form : Form} {s : SplitForm} {fault : UploadFault}

/-- **The file fields alone decide.** The texts are kept wherever they stand. -/
theorem splitFrom_eq (texts : List (String × String)) (file : Option Upload) (form : Form) :
    splitFrom texts file form =
      (fileOf file form.files).map fun file => ⟨texts.reverse ++ form.texts, file⟩ := by
  induction form generalizing texts file with
  | nil => simp [splitFrom, fileOf, Form.texts, files, Except.map]
  | cons field fields ih =>
    obtain ⟨name, value⟩ := field
    cases value with
    | text s =>
      have htexts : Form.texts ((name, .text s) :: fields) = (name, s) :: Form.texts fields := rfl
      have hfiles : files ((name, .text s) :: fields) = files fields := rfl
      rw [splitFrom, ih, htexts, hfiles, List.reverse_cons, List.append_assoc, List.singleton_append]
    | file u =>
      have htexts : Form.texts ((name, .file u) :: fields) = Form.texts fields := rfl
      have hfiles : files ((name, .file u) :: fields) = (name, u) :: files fields := rfl
      rw [splitFrom, ih, htexts, hfiles, fileOf]
      -- A second file is refused before its name is looked at.
      split
      · rfl
      · split <;> rfl

theorem ofString_injective : Function.Injective Value.ofString := by
  intro s t h
  have hdecode := congrArg Utf8.decode? (Value.text.inj h)
  rw [Utf8.decode?_encode, Utf8.decode?_encode] at hdecode
  exact Option.some.inj hdecode

/-- The content of a split form says which texts it has. -/
theorem content_eq_iff {texts : List (String × String)} :
    s.content = .map (texts.map fun t => (.ofString t.1, .ofString t.2)) ↔ s.texts = texts := by
  have hinj : Function.Injective fun t : String × String =>
      (Value.ofString t.1, Value.ofString t.2) := by
    intro t t' h
    obtain ⟨hname, htext⟩ := Prod.mk.inj h
    exact Prod.ext (ofString_injective hname) (ofString_injective htext)
  rw [SplitForm.content, Value.map.injEq]
  exact (List.map_injective_iff.2 hinj).eq_iff

theorem split_eq_ok_iff :
    form.split = .ok s ↔ fileOf none form.files = .ok s.file ∧ s.texts = form.texts := by
  rw [split, splitFrom_eq]
  cases fileOf none form.files with
  | error fault => simp [Except.map]
  | ok file =>
    obtain ⟨texts, file'⟩ := s
    simp [Except.map, and_comm, eq_comm]

theorem split_eq_error_iff : form.split = .error fault ↔ fileOf none form.files = .error fault := by
  rw [split, splitFrom_eq]
  cases fileOf none form.files <;> simp [Except.map]

/-- There is at most one file, and it has the one name. -/
theorem fileOf_eq_ok_iff {files : List (String × Upload)} {file : Option Upload} :
    fileOf none files = .ok file ↔
      (files.length ≤ 1 ∧ ∀ f ∈ files, f.1 = fileField) ∧ file.toList = files.map (·.2) := by
  match files with
  | [] => cases file <;> simp [fileOf]
  | [(name, u)] =>
    by_cases hname : name = fileField
    · cases file <;> simp [fileOf, hname, eq_comm]
    · simp [fileOf, hname]
  | (name, u) :: second :: rest =>
    by_cases hname : name = fileField <;> simp [fileOf, hname]

/-- The first file decides which fault there is: its name comes before the number of files. -/
theorem fileOf_eq_error_iff {files : List (String × Upload)} :
    fileOf none files = .error fault ↔
      (∃ first rest, files = first :: rest ∧ first.1 ≠ fileField ∧ fault = .misnamed first.1) ∨
        ∃ first second rest, files = first :: second :: rest ∧ first.1 = fileField ∧
          fault = .secondFile := by
  match files with
  | [] => simp [fileOf]
  | [(name, u)] =>
    by_cases hname : name = fileField <;> simp [fileOf, hname, eq_comm]
  | (name, u) :: second :: rest =>
    by_cases hname : name = fileField <;> simp [fileOf, hname, eq_comm]

/-- A form that the wire can carry: at most one of its fields is a file, and that is named `file`. -/
def IsCarried (form : Form) : Prop :=
  form.files.length ≤ 1 ∧ ∀ f ∈ form.files, f.1 = "file"

/-- **A form can be split exactly if the wire can carry it.** Then all its texts are there, in their
order and as often as they come, and the file is as it was. Otherwise the upload is invalid: because
of the name of the first file field if that is another, and else because of the second file field,
whatever its name. -/
theorem split_exact (form : Form) :
    ((∃ s, form.split = .ok s) ↔ form.IsCarried) ∧
      (∀ s, form.split = .ok s ↔ form.IsCarried ∧
        s.content = .map (form.texts.map fun t => (.ofString t.1, .ofString t.2)) ∧
        s.file.toList = form.files.map (·.2)) ∧
      ∀ e, form.split.mapError Error.invalidUpload = .error e ↔
        (∃ first rest, form.files = first :: rest ∧ first.1 ≠ "file" ∧
          e = .invalidUpload (.misnamed first.1)) ∨
        ∃ first second rest, form.files = first :: second :: rest ∧ first.1 = "file" ∧
          e = .invalidUpload .secondFile := by
  have hok : ∀ s, form.split = .ok s ↔ form.IsCarried ∧
      s.content = .map (form.texts.map fun t => (.ofString t.1, .ofString t.2)) ∧
      s.file.toList = form.files.map (·.2) := by
    intro s
    rw [split_eq_ok_iff, fileOf_eq_ok_iff, content_eq_iff, and_assoc, and_comm (a := s.texts = _)]
    rfl
  refine ⟨⟨?_, ?_⟩, hok, fun e => ?_⟩
  · rintro ⟨s, hs⟩
    exact ((hok s).1 hs).1
  · intro hcarried
    have hlist : form.files.head?.toList = form.files := by
      match form.files, hcarried.1 with
      | [], _ | [_], _ => rfl
    refine ⟨⟨form.texts, form.files.head?.map (·.2)⟩, (hok _).2 ⟨hcarried, rfl, ?_⟩⟩
    rw [Option.toList_map, hlist]
  · have hmap : form.split.mapError Error.invalidUpload = .error e ↔
        ∃ fault, form.split = .error fault ∧ e = .invalidUpload fault := by
      cases form.split <;> simp [Except.mapError, eq_comm]
    rw [hmap]
    constructor
    · rintro ⟨fault, hfault, rfl⟩
      rcases fileOf_eq_error_iff.1 (split_eq_error_iff.1 hfault) with
        ⟨first, rest, hfiles, hname, rfl⟩ | ⟨first, second, rest, hfiles, hname, rfl⟩
      · exact .inl ⟨first, rest, hfiles, hname, rfl⟩
      · exact .inr ⟨first, second, rest, hfiles, hname, rfl⟩
    · rintro (⟨first, rest, hfiles, hname, rfl⟩ | ⟨first, second, rest, hfiles, hname, rfl⟩)
      · exact ⟨_, split_eq_error_iff.2
          (fileOf_eq_error_iff.2 (.inl ⟨first, rest, hfiles, hname, rfl⟩)), rfl⟩
      · exact ⟨_, split_eq_error_iff.2
          (fileOf_eq_error_iff.2 (.inr ⟨first, second, rest, hfiles, hname, rfl⟩)), rfl⟩

end Form

end Courier
