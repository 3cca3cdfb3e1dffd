import Courier.Proofs.Inbound
import Courier.Proofs.Run

/-!
# Answers find their requests

Whatever octets come in over an open connection, at most one request is touched: the one that
the header names, if it awaits an answer.

* `frame_correlated`: the exact effect of any frame in any reachable client.
-/

namespace Courier.Client

variable {c : Client} {b : Octets}

/-- The exact effect of a frame `b` that takes a client `c` to `c'`. -/
structure Correlated (c : Client) (b : Octets) (c' : Client) : Prop where
  queue_eq : c'.outbox.queue = c.outbox.queue
  link_eq : c'.link = c.link
  backoff_eq : c'.backoff = c.backoff
  /-- The table changes exactly when the request that the frame addresses is in it. -/
  changed_iff : c'.outbox.awaiting ≠ c.outbox.awaiting ↔
    ∃ n, Addresses b n ∧ n ∈ c.outbox.awaiting.map (·.1)
  /-- Then that entry goes, all others stay, and the request is settled once. -/
  settled : ∀ n entry, Addresses b n → (n, entry) ∈ c.outbox.awaiting →
    ∃ before after outcome, c.outbox.awaiting = before ++ (n, entry) :: after ∧
      c'.outbox.awaiting = before ++ after ∧
      c'.history = .settled entry.request.seq outcome :: .received b :: c.history ∧
      (∀ reply, outcome = .ok reply ↔ ∃ content, RepliesWith c.config.version b content ∧
        Reply.coerce n entry.request.response content = .ok reply) ∧
      ∀ fault seq, outcome = .error (.protocol fault seq) →
        seq = some entry.request.seq ∧ (Error.protocol fault seq).status? = some 500
  /-- Otherwise nothing is settled. -/
  unsettled : (∀ n, Addresses b n → n ∉ c.outbox.awaiting.map (·.1)) →
    c'.numbersAt .settled = c.numbersAt .settled

/-- A frame that addresses nothing in the table leaves the requests alone. -/
theorem receive_of_not_addressed
    (hno : ∀ n, Addresses b n → n ∉ c.outbox.awaiting.map (·.1)) :
    ∃ jar session new, c.receive b = { c with
      jar := jar
      session := session
      history := new ++ c.history } ∧ ∀ o ∈ new, o.isQuiet := by
  simp only [receive, note]
  cases hj : Inbound.judge c.config.version b with
  | nothing => exact ⟨c.jar, c.session, [.received b], rfl, by simp [Occurrence.isQuiet]⟩
  | settle n outcome =>
    have hnone := Outbox.take?_eq_none_iff.2 (hno n (judge_settle hj).1)
    simp only [answer, hnone]
    exact ⟨c.jar, c.session, [.received b], rfl, by simp [Occurrence.isQuiet]⟩
  | deliver method content =>
    obtain ⟨session, jar, new, heq, hnew, -⟩ :=
      dispatch_eq { c with history := .received b :: c.history } method content
    refine ⟨jar, session, new ++ [.received b], ?_, ?_⟩
    · simp only [heq, List.append_assoc, List.singleton_append]
    · simpa [or_imp, forall_and, Occurrence.isQuiet] using hnew

/-- A frame that addresses an entry of the table settles it. -/
theorem received_of_addressed {connection : Nat} (hl : c.link = .opened connection)
    (hv : c.outbox.Valid) {n : ReqSeq} (ha : Addresses b n)
    (hn : n ∈ c.outbox.awaiting.map (·.1)) :
    ∃ before entry after outcome, c.outbox.awaiting = before ++ (n, entry) :: after ∧
      entry.request.seq = n ∧ Inbound.judge c.config.version b = .settle n outcome ∧
      c.step (.received b) = { c with
        outbox := { c.outbox with awaiting := before ++ after }
        history := .settled n (outcome entry.request.response) :: .received b :: c.history } := by
  obtain ⟨outcome, hj⟩ : ∃ outcome, Inbound.judge c.config.version b = .settle n outcome :=
    judge_eq_settle_iff.2 ha
  cases ht : c.outbox.take? n with
  | none => exact absurd hn (Outbox.take?_eq_none_iff.1 ht)
  | some taken =>
    obtain ⟨r, outbox⟩ := taken
    obtain ⟨before, stamp, after, heq, rfl, hseq⟩ := hv.take?_eq_some ht
    refine ⟨before, ⟨stamp, r⟩, after, outcome, heq, hseq, hj, ?_⟩
    have hstep : c.step (.received b) = c.receive b := by simp only [step, hl]
    rw [hstep]
    simp only [receive, note, hj, answer, ht, settle, hseq]

/-- A reply without content. -/
def answerTo (n : ReqSeq) : Octets :=
  Frame.encode ⟨(Header.reply n).toRecord Config.standard.version, .nil, []⟩

/-- **Any frame touches at most the request that it addresses.** -/
theorem frame_correlated (h : c.Reachable) {connection : Nat} (hl : c.link = .opened connection)
    (b : Octets) : Correlated c b (c.step (.received b)) := by
  have hv := reachable_valid h
  by_cases hno : ∀ n, Addresses b n → n ∉ c.outbox.awaiting.map (·.1)
  · obtain ⟨jar, session, new, heq, hnew⟩ := receive_of_not_addressed hno
    have hstep : c.step (.received b) = c.receive b := by simp only [step, hl]
    rw [hstep, heq]
    refine ⟨rfl, rfl, rfl, ?_, ?_, ?_⟩
    · simpa using hno
    · intro n entry ha hmem
      exact absurd (List.mem_map.2 ⟨_, hmem, rfl⟩) (hno n ha)
    · intro _
      simp [numbersAt, settled?_quiet hnew]
  · push Not at hno
    obtain ⟨n, ha, hn⟩ := hno
    obtain ⟨before, entry, after, outcome, htable, hseq, hj, heq⟩ :=
      received_of_addressed hl hv ha hn
    have hjudged := (judge_settle hj).2
    rw [heq]
    refine ⟨rfl, rfl, rfl, ?_, ?_, ?_⟩
    · refine ⟨fun _ => ⟨n, ha, hn⟩, fun _ hsame => ?_⟩
      have hlen := congrArg List.length (hsame.trans htable)
      simp at hlen
    · intro m entry' ha' hmem
      obtain rfl := ha.unique ha'
      -- The table has no number twice, so it is the entry that was taken out.
      have hmem' : (m, entry) ∈ c.outbox.awaiting := by simp [htable]
      obtain rfl := hv.eq_of_mem hmem' hmem
      refine ⟨before, after, _, htable, rfl, by rw [hseq], hjudged.ok_iff _, ?_⟩
      intro fault seq herr
      have := hjudged.protocol _ fault seq herr
      exact ⟨by rw [this, hseq], rfl⟩
    · intro hno
      exact absurd hn (hno n ha)

/-- A request and its reply. -/
theorem frame_correlated_reply :
    Correlated (fresh.run transmission) (answerTo 1)
      ((fresh.run transmission).step (.received (answerTo 1))) ∧
    ((fresh.run transmission).step (.received (answerTo 1))).outbox.awaiting = [] := by
  have hl : (fresh.run transmission).link = .opened 0 := by decide +kernel
  exact ⟨frame_correlated (reachable_fresh _) hl _, by decide +kernel⟩

end Courier.Client
