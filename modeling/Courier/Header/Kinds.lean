import Courier.Header.Wire

/-!
# What the kinds of frames need

Of the optional fields of a record each kind uses some, and it needs all that it uses. So a record
stands for a header if its kind is known and nothing of that is missing; what else it carries is
dropped.

* `Kind.fields`: the optional fields that a kind uses.
* `Record.check_eq_ok_iff`: **a record stands for a header if they agree in what its kind uses.**
* `Record.exists_check_iff`: **it stands for one if its kind is known and has its fields.**
-/

namespace Courier

/-- The fields that a kind uses besides version and kind. It needs all of them. -/
def Kind.fields : Kind → List Record.Field
  | .request => [.reqSeq, .uri]
  | .reply | .exception => [.reqSeq]
  | .message => [.method]

namespace Record

/-- A record with these of its optional fields and no others. -/
def only (r : Record) (fields : List Field) : Record :=
  { r with
    reqSeq := if .reqSeq ∈ fields then r.reqSeq else none
    uri := if .uri ∈ fields then r.uri else none
    method := if .method ∈ fields then r.method else none }

variable {r : Record} {h : Header} {kind : Kind}

/-- **A record stands for a header if they agree in what its kind uses.** -/
theorem check_eq_ok_iff : r.check = .ok h ↔ h.toRecord r.version = r.only h.kind.fields := by
  obtain ⟨version, code, reqSeq, uri, method⟩ := r
  constructor
  · intro hc
    unfold check at hc
    cases hk : Kind.ofCode? code with
    | none => simp [hk] at hc
    | some kind =>
      have hcode := (Kind.code_of_ofCode? hk).symm
      -- Each kind asks for its fields in turn; where one is absent there is no header.
      cases kind <;> cases reqSeq <;> cases uri <;> cases method <;>
        simp only [hk, reduceCtorEq, Except.ok.injEq] at hc <;> subst hc <;>
        simp [Header.toRecord, only, Kind.fields, Header.kind, Header.reqSeq?, hcode]
  · intro heq
    cases h with
    | request seq address =>
      simp only [Header.toRecord, Header.reqSeq?, Header.kind, only, Kind.fields] at heq
      obtain ⟨-, rfl, rfl, rfl, -⟩ := Record.mk.inj heq
      rfl
    | reply seq | exception seq =>
      simp only [Header.toRecord, Header.reqSeq?, Header.kind, only, Kind.fields] at heq
      obtain ⟨-, rfl, rfl, -, -⟩ := Record.mk.inj heq
      rfl
    | message name =>
      simp only [Header.toRecord, Header.reqSeq?, Header.kind, only, Kind.fields] at heq
      obtain ⟨-, rfl, -, -, rfl⟩ := Record.mk.inj heq
      rfl

/-- A header has all that its kind needs. -/
theorem isSome_value?_toRecord (version : UInt32) (h : Header) :
    ∀ field ∈ h.kind.fields, ((h.toRecord version).value? field).isSome := by
  cases h <;> simp [Header.kind, Kind.fields, Header.toRecord, Header.reqSeq?, value?]

/-- What a record has of the fields that are kept it had before. -/
theorem value?_only {fields : List Field} {field : Field} (hfield : field ∈ fields) :
    (r.only fields).value? field = r.value? field := by
  cases field <;> simp [only, value?, hfield]

/-- **A record stands for a header exactly if its kind is known and has its fields.** -/
theorem exists_check_iff :
    (∃ h, r.check = .ok h) ↔
      ∃ kind : Kind, kind.code = r.kind ∧ ∀ field ∈ kind.fields, (r.value? field).isSome := by
  constructor
  · rintro ⟨h, hc⟩
    have heq := check_eq_ok_iff.1 hc
    refine ⟨h.kind, congrArg Record.kind heq, fun field hfield => ?_⟩
    rw [← value?_only hfield, ← heq]
    exact isSome_value?_toRecord r.version h field hfield
  · rintro ⟨kind, hcode, hfields⟩
    obtain ⟨version, code, reqSeq, uri, method⟩ := r
    subst hcode
    cases kind with
    | request =>
      simp only [Kind.fields, List.forall_mem_cons, value?, Option.isSome_map] at hfields
      obtain ⟨seq, rfl⟩ := Option.isSome_iff_exists.1 hfields.1
      obtain ⟨address, rfl⟩ := Option.isSome_iff_exists.1 hfields.2.1
      exact ⟨.request seq address, rfl⟩
    | reply =>
      simp only [Kind.fields, List.forall_mem_cons, value?, Option.isSome_map] at hfields
      obtain ⟨seq, rfl⟩ := Option.isSome_iff_exists.1 hfields.1
      exact ⟨.reply seq, rfl⟩
    | exception =>
      simp only [Kind.fields, List.forall_mem_cons, value?, Option.isSome_map] at hfields
      obtain ⟨seq, rfl⟩ := Option.isSome_iff_exists.1 hfields.1
      exact ⟨.exception seq, rfl⟩
    | message =>
      simp only [Kind.fields, List.forall_mem_cons, value?, Option.isSome_map] at hfields
      obtain ⟨name, rfl⟩ := Option.isSome_iff_exists.1 hfields.1
      exact ⟨.message name, rfl⟩

end Record

end Courier
