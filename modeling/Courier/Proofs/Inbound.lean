import Courier.Client.Inbound
import Courier.Header.Kinds

/-!
# What the octets of a frame decide

A frame addresses the request that its header names, unless it is a message. It settles that
request whatever else is wrong with it, and no other one.

* `judge_eq_settle_iff`: **a frame settles exactly what it addresses.**
* `judge_eq_deliver_iff`: **what is delivered is a message that is in order**, and `judge_message`:
  any other message is nothing.
* `Judged`: what is known of the outcome. It is a reply for a well-formed reply only, and a
  protocol error names the request.
-/

namespace Courier

/-- The request that a frame addresses: the header is readable, is not that of a message and
carries a number. Nothing else of the frame matters. -/
def Addresses (b : Octets) (n : ReqSeq) : Prop :=
  ∃ frame, Inbound.decode? b = some frame ∧ frame.header.kind ≠ 4 ∧ frame.header.reqSeq = some n

/-- Which request a frame addresses. -/
def addressee? (b : Octets) : Option ReqSeq :=
  (Inbound.decode? b).bind fun frame =>
    if frame.header.kind = 4 then none else frame.header.reqSeq

theorem addressee?_eq_some_iff {b : Octets} {n : ReqSeq} :
    addressee? b = some n ↔ Addresses b n := by
  simp [addressee?, Addresses, Option.bind_eq_some_iff]

instance (b : Octets) (n : ReqSeq) : Decidable (Addresses b n) :=
  decidable_of_iff _ addressee?_eq_some_iff

/-- A frame that is a reply under a protocol version, with readable content. -/
def RepliesWith (version : UInt32) (b : Octets) (content : Value) : Prop :=
  ∃ frame, Inbound.decode? b = some frame ∧ frame.content = some content ∧
    frame.header.version = version ∧ frame.header.kind = 2

/-- A frame that is a message under a protocol version, with a method and readable content. -/
def CarriesMessage (version : UInt32) (b : Octets) (method : String) (content : Value) : Prop :=
  ∃ frame, Inbound.decode? b = some frame ∧ frame.content = some content ∧
    frame.header.version = version ∧ frame.header.kind = 4 ∧ frame.header.method = some method

/-- The outcomes that a frame can have for the request that it addresses, by what the request
asked for. -/
structure Judged (version : UInt32) (b : Octets) (n : ReqSeq) (outcome : ResponseType → Outcome) :
    Prop where
  ok_iff : ∀ type reply, outcome type = .ok reply ↔
    ∃ content, RepliesWith version b content ∧ Reply.coerce n type content = .ok reply
  protocol : ∀ type fault seq, outcome type = .error (.protocol fault seq) → seq = some n
  not_abandoned : ∀ type, outcome type ≠ .error .abandoned

variable {version : UInt32} {b : Octets} {n : ReqSeq} {outcome : ResponseType → Outcome}

theorem Addresses.unique {m : ReqSeq} (hn : Addresses b n) (hm : Addresses b m) : m = n := by
  obtain ⟨f, hf, -, hseq⟩ := hn
  obtain ⟨g, hg, -, hseq'⟩ := hm
  rw [hf] at hg
  cases hg
  rw [hseq] at hseq'
  exact (Option.some.inj hseq').symm

theorem RepliesWith.unique {content : Value} {frame : Inbound} (h : RepliesWith version b content)
    (hf : Inbound.decode? b = some frame) :
    frame.content = some content ∧ frame.header.version = version ∧ frame.header.kind = 2 := by
  obtain ⟨g, hg, hrest⟩ := h
  rw [hf] at hg
  cases hg
  exact hrest

/-! ## Headers -/

/-- A header has the kind of its record, and the number if it has one. -/
theorem Record.check_ok {r : Record} {h : Header} (hc : r.check = .ok h) :
    r.kind = h.kind.code ∧ ∀ n, h.reqSeq? = some n → r.kind ≠ 4 ∧ r.reqSeq = some n := by
  have heq := check_eq_ok_iff.1 hc
  have hkind : h.kind.code = r.kind := congrArg Record.kind heq
  have hseq : h.reqSeq? = (r.only h.kind.fields).reqSeq := congrArg Record.reqSeq heq
  refine ⟨hkind.symm, fun n hn => ?_⟩
  rw [hn] at hseq
  rw [← hkind]
  cases h with
  | message => cases hn
  | request => exact ⟨show (1 : UInt8) ≠ 4 by decide, hseq.symm⟩
  | reply => exact ⟨show (2 : UInt8) ≠ 4 by decide, hseq.symm⟩
  | exception => exact ⟨show (3 : UInt8) ≠ 4 by decide, hseq.symm⟩

/-- A record of a reply with a number lacks nothing. -/
theorem Record.check_reply {r : Record} (hk : r.kind = 2) (hs : r.reqSeq = some n) :
    r.check = .ok (.reply n) := by
  obtain ⟨version, kind, reqSeq, uri, method⟩ := r
  cases hk
  cases hs
  exact check_eq_ok_iff.2 rfl

/-- What a header of a message needs is its method; a number does no harm. -/
theorem Record.check_eq_message_iff {r : Record} {method : String} :
    r.check = .ok (.message method) ↔ r.kind = 4 ∧ r.method = some method := by
  rw [check_eq_ok_iff]
  constructor
  · exact fun heq => ⟨(congrArg Record.kind heq).symm, (congrArg Record.method heq).symm⟩
  · rintro ⟨hk, hm⟩
    obtain ⟨version, kind, reqSeq, uri, method⟩ := r
    cases hk
    cases hm
    rfl

/-! ## Errors -/

/-- What reading a reply can fail with. -/
theorem coerce_error {type : ResponseType} {content : Value} {e : Error}
    (h : Reply.coerce n type content = .error e) :
    (∃ fault, e = .protocol fault (some n)) ∨ ∃ j, e = .errorReply j := by
  have hdoc : ∀ e, documentOf n content = .error e → ∃ fault, e = .protocol fault (some n) := by
    intro e he
    unfold documentOf shapedAs at he
    split at he <;> (try split at he) <;> (try split at he) <;> cases he <;> exact ⟨_, rfl⟩
  unfold Reply.coerce at h
  split at h
  · cases h
  · split at h
    · cases h
    · cases h
      exact .inl ⟨_, rfl⟩
  · split at h
    · rename_i hd
      cases h
      exact .inl (hdoc _ hd)
    · split at h
      · cases h
        exact .inr ⟨_, rfl⟩
      · cases h

/-- What an exception can stand for. -/
theorem ofException_cases (n : ReqSeq) (content : Value) :
    (∃ fault, Error.ofException n content = .protocol fault (some n)) ∨
    (∃ status, Error.ofException n content = .http status) ∨
    ∃ route params, Error.ofException n content = .serverException route params := by
  unfold Error.ofException shapedAs
  cases Json.ofValue? content with
  | none => exact .inl ⟨_, rfl⟩
  | some j =>
    simp only
    split
    · exact .inl ⟨_, rfl⟩
    · split
      · exact .inr (.inl ⟨_, rfl⟩)
      · exact .inr (.inr ⟨_, _, rfl⟩)

/-- Outcomes that are errors whatever the request asked for. -/
theorem Judged.of_error {e : Error} (hno : ∀ content, ¬ RepliesWith version b content)
    (hp : ∀ fault seq, e = .protocol fault seq → seq = some n) (ha : e ≠ .abandoned) :
    Judged version b n fun _ => .error e where
  ok_iff type reply := by
    constructor
    · intro h
      cases h
    · rintro ⟨content, hr, -⟩
      exact absurd hr (hno content)
  protocol type fault seq h := hp fault seq (Except.error.inj h)
  not_abandoned type h := ha (Except.error.inj h)

/-! ## Verdicts -/

theorem broken_eq_settle_iff {header : Record} {fault : ProtocolFault} :
    Verdict.broken header fault = .settle n outcome ↔
      header.kind ≠ 4 ∧ header.reqSeq = some n ∧
        outcome = fun _ => .error (.protocol fault (some n)) := by
  unfold Verdict.broken
  by_cases hk : header.kind = 4
  · rw [if_pos (show header.kind = Kind.message.code from hk)]
    simp [hk]
  · rw [if_neg (show header.kind ≠ Kind.message.code from hk)]
    cases hs : header.reqSeq with
    | none => simp
    | some seq =>
      simp only [Verdict.settle.injEq, Option.some.injEq, ne_eq, hk, not_false_eq_true, true_and]
      constructor
      · rintro ⟨rfl, rfl⟩
        exact ⟨rfl, rfl⟩
      · rintro ⟨rfl, rfl⟩
        exact ⟨rfl, rfl⟩

/-- The outcome of a frame that breaks the protocol. -/
theorem judged_broken {header : Record} {fault : ProtocolFault}
    (h : Verdict.broken header fault = .settle n outcome)
    (hno : ∀ content, ¬ RepliesWith version b content) : Judged version b n outcome := by
  obtain ⟨-, -, rfl⟩ := broken_eq_settle_iff.1 h
  exact .of_error hno (fun _ _ heq => (Error.protocol.inj heq).2.symm) (by simp)

theorem broken_ne_deliver {header : Record} {fault : ProtocolFault} {method : String}
    {content : Value} : Verdict.broken header fault ≠ .deliver method content := by
  unfold Verdict.broken
  intro h
  split at h
  · cases h
  · split at h <;> cases h

/-- What a frame means of which nothing is wrong. -/
theorem judge_of_check {frame : Inbound} {content : Value} {header : Header}
    (hd : Inbound.decode? b = some frame) (hcontent : frame.content = some content)
    (hv : frame.header.version = version) (hc : frame.header.check = .ok header) :
    Inbound.judge version b = match header with
      | .message method => .deliver method content
      | .exception seq => .settle seq fun _ => .error (.ofException seq content)
      | .reply seq => .settle seq fun type => Reply.coerce seq type content
      | .request seq _ => .settle seq fun _ => .error (.protocol .replyKind (some seq)) := by
  simp only [Inbound.judge, hd, hcontent, hv, hc, ne_eq, not_true_eq_false, if_false]
  cases header <;> rfl

/-- A frame breaks the protocol, or nothing is wrong with it. -/
theorem judge_cases (version : UInt32) {frame : Inbound} (hd : Inbound.decode? b = some frame) :
    (∃ fault, Inbound.judge version b = .broken frame.header fault ∧
      ∀ content header, frame.content = some content → frame.header.version = version →
        frame.header.check ≠ .ok header) ∨
    ∃ content header, frame.content = some content ∧ frame.header.version = version ∧
      frame.header.check = .ok header := by
  unfold Inbound.judge
  simp only [hd]
  cases hcontent : frame.content with
  | none => exact .inl ⟨_, rfl, by simp⟩
  | some content =>
  by_cases hv : frame.header.version ≠ version
  · simp only [if_pos hv]
    exact .inl ⟨_, rfl, fun _ _ _ heq => absurd heq hv⟩
  cases hc : frame.header.check with
  | error fault =>
    simp only [if_neg hv]
    exact .inl ⟨_, rfl, by simp⟩
  | ok header => exact .inr ⟨content, header, rfl, Decidable.not_not.1 hv, rfl⟩

/-- **What a frame settles is what it addresses**, with an outcome as it should be. -/
theorem judge_settle (h : Inbound.judge version b = .settle n outcome) :
    Addresses b n ∧ Judged version b n outcome := by
  cases hd : Inbound.decode? b with
  | none => simp [Inbound.judge, hd] at h
  | some frame =>
  rcases judge_cases version hd with ⟨fault, hj, hbad⟩ | ⟨content, header, hcontent, hv, hc⟩
  · rw [hj] at h
    obtain ⟨hk, hs, -⟩ := broken_eq_settle_iff.1 h
    refine ⟨⟨frame, hd, hk, hs⟩, judged_broken h fun content hr => ?_⟩
    -- A reply with a number lacks nothing.
    obtain ⟨hcontent, hv, hkind⟩ := hr.unique hd
    exact hbad content _ hcontent hv (Record.check_reply hkind hs)
  · obtain ⟨hk, hs⟩ := Record.check_ok hc
    have hreply : ∀ {content}, RepliesWith version b content → header.kind.code = 2 :=
      fun hr => hk ▸ (hr.unique hd).2.2
    rw [judge_of_check hd hcontent hv hc] at h
    cases header with
    | message method => cases h
    | request seq uri =>
      cases h
      have hno : ∀ content, ¬ RepliesWith version b content := fun _ hr =>
        absurd (show (1 : UInt8) = 2 from hreply hr) (by decide)
      exact ⟨⟨frame, hd, hs n rfl⟩,
        .of_error hno (fun _ _ heq => (Error.protocol.inj heq).2.symm) (by simp)⟩
    | exception seq =>
      cases h
      have hno : ∀ content, ¬ RepliesWith version b content := fun _ hr =>
        absurd (show (3 : UInt8) = 2 from hreply hr) (by decide)
      refine ⟨⟨frame, hd, hs n rfl⟩, .of_error hno ?_ ?_⟩
      · intro fault s heq
        rcases ofException_cases n content with ⟨_, h⟩ | ⟨_, h⟩ | ⟨_, _, h⟩ <;>
          rw [h] at heq <;> cases heq
        rfl
      · rcases ofException_cases n content with ⟨_, h⟩ | ⟨_, h⟩ | ⟨_, _, h⟩ <;> simp [h]
    | reply seq =>
      cases h
      refine ⟨⟨frame, hd, hs n rfl⟩, ?_, ?_, ?_⟩
      · intro type reply
        constructor
        · intro hok
          exact ⟨content, ⟨frame, hd, hcontent, hv, hk⟩, hok⟩
        · rintro ⟨content', hr, hok⟩
          have := (hr.unique hd).1
          rw [hcontent] at this
          cases this
          exact hok
      · intro type fault s herr
        rcases coerce_error herr with ⟨_, h⟩ | ⟨_, h⟩ <;> cases h
        rfl
      · intro type herr
        rcases coerce_error herr with ⟨_, h⟩ | ⟨_, h⟩ <;> cases h

/-- **A frame settles exactly what it addresses.** -/
theorem judge_eq_settle_iff :
    (∃ outcome, Inbound.judge version b = .settle n outcome) ↔ Addresses b n := by
  constructor
  · rintro ⟨outcome, h⟩
    exact (judge_settle h).1
  · rintro ⟨frame, hd, hk, hs⟩
    rcases judge_cases version hd with ⟨fault, hj, -⟩ | ⟨content, header, hcontent, hv, hc⟩
    · exact ⟨_, hj.trans (broken_eq_settle_iff.2 ⟨hk, hs, rfl⟩)⟩
    · obtain ⟨hk', hs'⟩ := Record.check_ok hc
      rw [judge_of_check hd hcontent hv hc]
      cases header with
      | message method => exact absurd hk' hk
      | request seq uri | reply seq | exception seq =>
        have := (hs' seq rfl).2
        rw [hs] at this
        cases this
        exact ⟨_, rfl⟩

/-- **What is delivered is a message that is in order.** -/
theorem judge_eq_deliver_iff {method : String} {content : Value} :
    Inbound.judge version b = .deliver method content ↔
      CarriesMessage version b method content := by
  constructor
  · intro h
    cases hd : Inbound.decode? b with
    | none => simp [Inbound.judge, hd] at h
    | some frame =>
    rcases judge_cases version hd with ⟨fault, hj, -⟩ | ⟨content', header, hcontent, hv, hc⟩
    · rw [hj] at h
      exact absurd h broken_ne_deliver
    · rw [judge_of_check hd hcontent hv hc] at h
      cases header with
      | message method' =>
        cases h
        obtain ⟨hk, hm⟩ := Record.check_eq_message_iff.1 hc
        exact ⟨frame, hd, hcontent, hv, hk, hm⟩
      | _ => cases h
  · rintro ⟨frame, hd, hcontent, hv, hk, hm⟩
    exact judge_of_check hd hcontent hv (Record.check_eq_message_iff.2 ⟨hk, hm⟩)

/-- A message addresses no request, whatever number it carries. -/
theorem not_addresses_message {frame : Inbound} (hd : Inbound.decode? b = some frame)
    (hk : frame.header.kind = 4) (n : ReqSeq) : ¬ Addresses b n := by
  rintro ⟨frame', hd', hk', -⟩
  rw [hd] at hd'
  cases hd'
  exact hk' hk

/-- A message that cannot be delivered is nothing. -/
theorem judge_message {frame : Inbound} (hd : Inbound.decode? b = some frame)
    (hk : frame.header.kind = 4)
    (hno : ∀ method content, ¬ CarriesMessage version b method content) :
    Inbound.judge version b = .nothing := by
  cases hj : Inbound.judge version b with
  | nothing => rfl
  | settle n outcome => exact absurd (judge_settle hj).1 (not_addresses_message hd hk n)
  | deliver method content => exact absurd (judge_eq_deliver_iff.1 hj) (hno method content)

end Courier
