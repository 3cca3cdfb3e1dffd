import Courier.Json.Shape
import Courier.Proofs.Conservation
import Courier.Proofs.Forms
import Courier.Proofs.RoundTrip

/-!
# What a call asks for

A body says what the content and the attachments of a frame are to be. A call that has everything at
hand makes that frame at once; one with a file on disk makes it once the file was read, and then it
is the frame that the same octets in memory would have given.

* `Body.content`, `Body.files`: what a body says, field by field of a form.
* `split_eq`: **splitting loses nothing and adds nothing.**
* `begin_complete`, `begin_reading`: what a call leaves behind that got a number.
* `AsAsked`: a request is what a call asked for; its frame is read back as that.
-/

namespace Courier

/-! ## Bodies -/

/-- The entry of a form field in the content. -/
def FieldValue.pair? (name : String) : FieldValue → Option (Value × Value)
  | .text s => some (.ofString name, .ofString s)
  | .file _ => none

/-- The same upload, with these octets if they are still to be read. -/
def Upload.loaded (octets : Octets) (u : Upload) : Upload :=
  match u.source with
  | .memory _ => u
  | .disk _ => .ofOctets u.name octets

/-- The same field, its file with these octets if they are still to be read. -/
def FieldValue.loaded (octets : Octets) : FieldValue → FieldValue
  | .text s => .text s
  | .file u => .file (u.loaded octets)

namespace Body

/-- What the content of a frame is to be: nothing, the document, or the map of the texts of a form,
in their order. -/
def content : Body → Value
  | .empty => .nil
  | .json j => j.toValue
  | .form f => .map (f.filterMap fun field => field.2.pair? field.1)

/-- The files of a body. -/
def files : Body → List Upload
  | .form f => f.filterMap (·.2.file?)
  | _ => []

/-- The same body with these octets in memory, where it names a file on disk. -/
def loaded (octets : Octets) : Body → Body
  | .form f => .form (f.map fun field => (field.1, field.2.loaded octets))
  | body => body

end Body

/-- What an upload attaches once its file was read. -/
theorem Upload.attachment?_loaded {u : Upload} (h : u.attachment? = none) (octets : Octets) :
    (u.loaded octets).attachment? = some ⟨u.name, octets⟩ := by
  cases hu : u.source with
  | memory bytes => simp [attachment?, hu] at h
  | disk path => simp [loaded, hu, ofOctets, attachment?]

namespace Body

/-- Reading files changes no text. -/
theorem content_loaded (octets : Octets) (body : Body) :
    (body.loaded octets).content = body.content := by
  have hpair : ∀ field : String × FieldValue,
      (field.2.loaded octets).pair? field.1 = field.2.pair? field.1 := by
    rintro ⟨name, text | file⟩ <;> rfl
  cases body with
  | empty | json j => rfl
  | form f => simp only [loaded, content, List.filterMap_map, Function.comp_def, hpair]

theorem files_loaded (octets : Octets) (body : Body) :
    (body.loaded octets).files = body.files.map (·.loaded octets) := by
  have hfile : ∀ field : String × FieldValue,
      (field.2.loaded octets).file? = field.2.file?.map (·.loaded octets) := by
    rintro ⟨name, text | file⟩ <;> rfl
  cases body with
  | empty | json j => rfl
  | form f => simp only [loaded, files, List.filterMap_map, Function.comp_def, hfile,
      List.map_filterMap]

end Body

/-- The content of a split form is made of its text fields, and its file of its file fields. -/
theorem split_form_eq {form : Form} {s : SplitForm} (h : form.split = .ok s) :
    s.content = (Body.form form).content ∧ s.file.toList = (Body.form form).files := by
  obtain ⟨hfile, htexts⟩ := Form.split_eq_ok_iff.1 h
  have hpair : ∀ field : String × FieldValue,
      (field.2.text?.map (field.1, ·)).map (fun t => (Value.ofString t.1, Value.ofString t.2)) =
        field.2.pair? field.1 := by
    rintro ⟨name, text | file⟩ <;> rfl
  have hupload : ∀ field : String × FieldValue,
      (field.2.file?.map (field.1, ·)).map (·.2) = field.2.file? := by
    rintro ⟨name, text | file⟩ <;> rfl
  refine ⟨?_, (Form.fileOf_eq_ok_iff.1 hfile).2.trans ?_⟩
  · simp only [SplitForm.content, htexts, Form.texts, List.map_filterMap, hpair, Body.content]
  · simp only [Form.files, List.map_filterMap, hupload, Body.files]

/-- **Splitting loses nothing and adds nothing.** -/
theorem split_eq {body : Body} {content : Value} {upload : Option Upload}
    (h : body.split = .ok (content, upload)) :
    content = body.content ∧ upload.toList = body.files := by
  cases body with
  | empty | json j =>
    cases h
    exact ⟨rfl, rfl⟩
  | form f =>
    cases hs : f.split with
    | error fault => simp [Body.split, hs, Except.map] at h
    | ok s =>
      obtain ⟨hcontent, hfile⟩ := split_form_eq hs
      simp only [Body.split, hs, Except.map, Except.ok.injEq, Prod.mk.injEq] at h
      obtain ⟨rfl, rfl⟩ := h
      exact ⟨hcontent, hfile⟩

/-- A body that was read splits as it did before. -/
theorem splitFrom_loaded {texts : List (String × String)} {file : Option Upload} {form : Form}
    {s : SplitForm} (octets : Octets) (h : Form.splitFrom texts file form = .ok s) :
    Form.splitFrom texts (file.map (·.loaded octets))
        (form.map fun field => (field.1, field.2.loaded octets)) =
      .ok { s with file := s.file.map (·.loaded octets) } := by
  induction form generalizing texts file with
  | nil =>
    cases h
    rfl
  | cons field fields ih =>
    obtain ⟨name, value⟩ := field
    cases value with
    | text s => exact ih h
    | file u =>
      cases file with
      | some v => simp [Form.splitFrom] at h
      | none =>
        by_cases hname : name = Form.fileField
        · simp only [Form.splitFrom, hname] at h
          simpa [Form.splitFrom, FieldValue.loaded, hname] using ih h
        · simp [Form.splitFrom, hname] at h

theorem split_loaded {body : Body} {content : Value} {upload : Option Upload} (octets : Octets)
    (h : body.split = .ok (content, upload)) :
    (body.loaded octets).split = .ok (content, upload.map (·.loaded octets)) := by
  cases body with
  | empty | json j =>
    cases h
    rfl
  | form f =>
    cases hs : Form.splitFrom [] none f with
    | error fault => simp [Body.split, Form.split, hs, Except.map] at h
    | ok s =>
      simp only [Body.split, Form.split, hs, Except.map, Except.ok.injEq, Prod.mk.injEq] at h
      obtain ⟨rfl, rfl⟩ := h
      have hloaded := splitFrom_loaded octets hs
      simp only [Body.loaded, Body.split, Form.split, Option.map_none] at hloaded ⊢
      rw [hloaded]
      rfl

/-- Every text of a content is UTF-8. -/
theorem Body.isTextual_content (body : Body) : body.content.isTextual = true := by
  cases body with
  | empty => rfl
  | json j => exact Json.isTextual_toValue j
  | form f =>
    rw [Body.content, Value.isTextual_map]
    intro e he
    obtain ⟨⟨name, value⟩, -, hentry⟩ := List.mem_filterMap.1 he
    cases value with
    | text s =>
      cases hentry
      exact ⟨Value.isTextual_ofString name, Value.isTextual_ofString s⟩
    | file u => cases hentry

/-! ## Calls -/

/-- The request of an upload once its file was read. -/
def PendingUpload.request (version : UInt32) (p : PendingUpload) (octets : Octets) : Request :=
  ⟨p.seq, requestFrame version p.seq p.uri p.content (some ⟨p.upload.name, octets⟩), p.response⟩

/-- A request `r` and its frame `f` are what a call asked for. -/
structure AsAsked (version : UInt32) (uri : String) (body : Body) (response : ResponseType)
    (r : Request) (f : Frame) : Prop where
  /-- The header is that of a request to the decoded address, under the number of the request. -/
  header : ∃ address, Percent.decode uri = .ok address ∧
    f.header = ⟨version, 1, some r.seq, some address, none⟩
  content : f.content = body.content
  /-- The attachments are the files of the body. -/
  attachments : f.attachments.map some = body.files.map Upload.attachment?
  response_eq : r.response = response
  frame_eq : r.frame = f.encode
  /-- Whoever reads the frame gets exactly that. -/
  decode_eq : f.Writable → Frame.decode r.frame = .ok f

/-- With the octets of its file, a call asks for the texts of its body and for that file. -/
theorem AsAsked.of_loaded {version : UInt32} {uri : String} {body : Body}
    {response : ResponseType} {r : Request} {f : Frame} {u : Upload} {octets : Octets}
    (h : AsAsked version uri (body.loaded octets) response r f) (hfile : body.files = [u])
    (hu : u.attachment? = none) :
    f.content = body.content ∧ f.attachments = [⟨u.name, octets⟩] := by
  have hattachments := h.attachments
  rw [Body.files_loaded, hfile, List.map_singleton, List.map_singleton,
    Upload.attachment?_loaded hu] at hattachments
  exact ⟨h.content.trans (body.content_loaded octets), by simpa using hattachments⟩

namespace Client

variable {c : Client} {uri : String} {body : Body} {response : ResponseType}

theorem prepare_eq_ok_iff {address : String} {content : Value} {upload : Option Upload} :
    prepare uri body = .ok (address, content, upload) ↔
      Percent.decode uri = .ok address ∧ body.split = .ok (content, upload) := by
  unfold prepare
  cases Percent.decode uri with
  | error fault => simp
  | ok address' =>
    cases body.split with
    | error fault => simp
    | ok s =>
      obtain ⟨content', upload'⟩ := s
      simp

/-- **A call with everything at hand makes the frame that it asks for**, under the next number. -/
theorem begin_complete {r : Request} (h : (c.begin uri body response).2 = .ok (.complete r)) :
    (c.begin uri body response).1.calls = c.calls ++ [r] ∧
      (c.begin uri body response).1.uploads = c.uploads ∧
      ∃ f, AsAsked c.config.version uri body response r f := by
  rcases begin_cases c uri body response with
    ⟨session, result, hb, hnone, -⟩ | ⟨session, address, content, upload, -, -, hprepare, hb⟩
  · rw [hb] at h
    cases hnone _ h
  obtain ⟨haddress, hsplit⟩ := prepare_eq_ok_iff.1 hprepare
  obtain ⟨rfl, hfiles⟩ := split_eq hsplit
  rcases accept_cases { c with session := session } address body.content upload response with
    ⟨attachment, r', hattachment, hr, hacc⟩ | ⟨u, p, -, -, -, hacc⟩ <;> rw [hacc] at hb <;>
    rw [hb] at h ⊢ <;> cases h
  have hframe : r.frame = requestFrame c.config.version r.seq address body.content attachment := by
    rw [hr]
  refine ⟨rfl, rfl, ⟨(Header.request r.seq address).toRecord c.config.version, body.content,
    attachment.toList⟩, ⟨address, haddress, rfl⟩, rfl, ?_, ?_, hframe, ?_⟩
  · rw [← hfiles, hattachment]
  · rw [hr]
  · intro hw
    have hdecode := Frame.decode_encode hw
    rw [Value.normal_of_isTextual body.isTextual_content] at hdecode
    rw [hframe]
    exact hdecode

/-- **A call with a file on disk** leaves what is needed to make the frame later, which is then the
frame that it would have made with the same octets in memory. -/
theorem begin_reading {n : ReqSeq} (h : (c.begin uri body response).2 = .ok (.reading n)) :
    ∃ p : PendingUpload, p.seq = n ∧ body.files = [p.upload] ∧ p.upload.attachment? = none ∧
      (c.begin uri body response).1.calls = c.calls ∧
      (c.begin uri body response).1.uploads = c.uploads ++ [p] ∧
      ∀ octets, (c.begin uri (body.loaded octets) response).2 =
        .ok (.complete (p.request c.config.version octets)) := by
  rcases begin_cases c uri body response with
    ⟨session, result, hb, hnone, -⟩ | ⟨session, address, content, upload, hs, hrun, hprepare, hb⟩
  · rw [hb] at h
    cases hnone _ h
  obtain ⟨haddress, hsplit⟩ := prepare_eq_ok_iff.1 hprepare
  rcases accept_cases { c with session := session } address content upload response with
    ⟨attachment, r', -, -, hacc⟩ | ⟨u, p, rfl, hdisk, hp, hacc⟩ <;> rw [hacc] at hb <;>
    rw [hb] at h ⊢ <;> cases h
  have hupload : p.upload = u := by rw [hp]
  refine ⟨p, rfl, ?_, hupload ▸ hdisk, rfl, rfl, fun octets => ?_⟩
  · rw [hupload, ← (split_eq hsplit).2, Option.toList_some]
  · have hprepare' := prepare_eq_ok_iff.2 ⟨haddress, split_loaded octets hsplit⟩
    rw [begin_of_prepare hs hrun hprepare' response, hp]
    simp only [accept, Option.map_some, Upload.attachment?_loaded hdisk]
    rfl

/-- Any other call leaves nothing behind. -/
theorem begin_leaves (c : Client) (uri : String) (body : Body) (response : ResponseType) :
    ((c.begin uri body response).1.calls = c.calls ∧
        (c.begin uri body response).1.uploads = c.uploads) ∨
      (∃ r, (c.begin uri body response).2 = .ok (.complete r)) ∨
      ∃ n, (c.begin uri body response).2 = .ok (.reading n) := by
  rcases begin_cases c uri body response with
    ⟨session, result, hb, -⟩ | ⟨session, address, content, upload, -, -, -, hb⟩ <;> rw [hb]
  · exact .inl ⟨rfl, rfl⟩
  · rcases accept_eq { c with session := session } address content upload response with
      ⟨r, -, hacc⟩ | ⟨p, -, hacc⟩ <;> rw [hacc]
    · exact .inr (.inl ⟨r, rfl⟩)
    · exact .inr (.inr ⟨p.seq, rfl⟩)

end Client

end Courier
