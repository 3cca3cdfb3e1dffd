import Courier.Proofs.Dispatch

/-!
# Sequences of frames

What a sequence of frames does is decided number by number: the first frame that addresses an entry
of the table settles it and takes it away, and whatever comes later under that number finds nothing.
So the order between frames of different requests does not matter, and neither does any frame that
addresses no request.

* `answered_step`, `answered_run`: **the exact effect of any sequence of frames.**
* `replies_commute`: two sequences that agree on each request do the same to all of them.
-/

namespace Courier

variable {b : Octets} {fs gs : List Octets} {n : ReqSeq}

/-- The outcome that a frame has for a request that it addresses. -/
def Inbound.outcome? (version : UInt32) (b : Octets) (type : ResponseType) : Option Outcome :=
  match Inbound.judge version b with
  | .settle _ outcome => some (outcome type)
  | _ => none

/-- The first frame that addresses a request. -/
def firstFor (fs : List Octets) (n : ReqSeq) : Option Octets :=
  fs.find? fun b => Addresses b n

@[simp] theorem firstFor_nil (n : ReqSeq) : firstFor [] n = none := rfl

theorem firstFor_singleton (b : Octets) (n : ReqSeq) :
    firstFor [b] n = if Addresses b n then some b else none := by
  by_cases h : Addresses b n <;> simp [firstFor, h]

theorem firstFor_append (fs gs : List Octets) (n : ReqSeq) :
    firstFor (fs ++ gs) n = (firstFor fs n).or (firstFor gs n) := List.find?_append

/-- Only the frames that address a request matter to it. -/
theorem firstFor_congr
    (h : (fs.filter fun b => Addresses b n) = gs.filter fun b => Addresses b n) :
    firstFor fs n = firstFor gs n := by
  rw [firstFor, firstFor, ← List.head?_filter, h, List.head?_filter]

namespace Client

variable {c d d' : Client}

/-- All outcomes that a request got, the latest first. -/
def outcomesOf (c : Client) (n : ReqSeq) : List Outcome :=
  (c.outcomes.filter fun p => p.1 = n).map (·.2)

theorem outcome?_eq_head? (c : Client) (n : ReqSeq) : c.outcome? n = (c.outcomesOf n).head? := by
  rw [outcome?_eq_lookup, outcomesOf]
  induction c.outcomes with
  | nil => rfl
  | cons p rest ih =>
    obtain ⟨m, o⟩ := p
    by_cases hm : m = n
    · subst hm
      simp
    · have hne : (n == m) = false := by simpa using Ne.symm hm
      simpa [List.lookup_cons, hne, hm] using ih

theorem count_settled (c : Client) (n : ReqSeq) :
    (c.numbersAt .settled).count n = (c.outcomesOf n).length := by
  rw [← map_fst_outcomes, outcomesOf, List.length_map, List.count_eq_countP, List.countP_map,
    ← List.countP_eq_length_filter]
  exact List.countP_congr fun p _ => by simp

/-- The outcome that frames have for a request: that of the first that addresses it, if it awaits
an answer. -/
def answerIn (c : Client) (fs : List Octets) (n : ReqSeq) : Option Outcome :=
  (c.outbox.awaiting.lookup n).bind fun entry =>
    (firstFor fs n).bind fun b => Inbound.outcome? c.config.version b entry.request.response

/-- Who awaits no answer gets none. -/
theorem answerIn_of_not_awaiting (h : n ∉ c.outbox.awaiting.map (·.1)) :
    c.answerIn fs n = none := by
  have hnone : c.outbox.awaiting.lookup n = none :=
    List.lookup_eq_none_iff.2 fun e he => by
      simpa using fun heq => h (List.mem_map.2 ⟨e, he, heq.symm⟩)
  simp [answerIn, hnone]

/-- Nor does who is not addressed. -/
theorem answerIn_of_not_addressed (h : firstFor fs n = none) : c.answerIn fs n = none := by
  simp [answerIn, h]

/-- What frames `fs` do to the requests of a client `c` on its way to `d`. -/
structure Answered (c : Client) (fs : List Octets) (d : Client) : Prop where
  config_eq : d.config = c.config
  link_eq : d.link = c.link
  backoff_eq : d.backoff = c.backoff
  /-- The entries that are addressed go, all others stay. -/
  outbox_eq : d.outbox = c.outbox.without fun n => (firstFor fs n).isSome
  /-- Each of those gets the outcome of the first frame that addresses it. -/
  outcomesOf_eq : ∀ n, d.outcomesOf n = (c.answerIn fs n).toList ++ c.outcomesOf n

theorem Answered.refl (c : Client) : Answered c [] c where
  config_eq := rfl
  link_eq := rfl
  backoff_eq := rfl
  outbox_eq := (Outbox.without_eq_self fun _ _ => rfl).symm
  outcomesOf_eq n := by rw [answerIn_of_not_addressed (firstFor_nil n)]; rfl

/-- What the first frames answer is gone for those after them. -/
theorem Answered.answerIn_append (h : Answered c fs d) (gs : List Octets) (n : ReqSeq) :
    (c.answerIn (fs ++ gs) n).toList = (d.answerIn gs n).toList ++ (c.answerIn fs n).toList := by
  unfold answerIn
  rw [h.outbox_eq, Outbox.lookup_without, h.config_eq, firstFor_append]
  cases firstFor fs n <;> simp

theorem Answered.trans (h : Answered c fs d) (h' : Answered d gs d') :
    Answered c (fs ++ gs) d' where
  config_eq := h'.config_eq.trans h.config_eq
  link_eq := h'.link_eq.trans h.link_eq
  backoff_eq := h'.backoff_eq.trans h.backoff_eq
  outbox_eq := by simp [h'.outbox_eq, h.outbox_eq, Outbox.without_without, firstFor_append]
  outcomesOf_eq n := by
    rw [h'.outcomesOf_eq, h.outcomesOf_eq, h.answerIn_append, List.append_assoc]

/-- **The effect of one frame.** -/
theorem answered_step {connection : Nat} (hl : c.link = .opened connection) (hv : c.outbox.Valid)
    (b : Octets) : Answered c [b] (c.step (.received b)) := by
  by_cases hno : ∀ n, Addresses b n → n ∉ c.outbox.awaiting.map (·.1)
  · obtain ⟨jar, session, new, heq, hnew⟩ := receive_of_not_addressed hno
    have hstep : c.step (.received b) = c.receive b := by simp only [step, hl]
    have hfree : ∀ n ∈ c.outbox.awaiting.map (·.1), firstFor [b] n = none := fun n hn => by
      rw [firstFor_singleton, if_neg fun ha => hno n ha hn]
    rw [hstep, heq]
    refine ⟨rfl, rfl, rfl, ?_, fun n => ?_⟩
    · exact (Outbox.without_eq_self fun n hn => by rw [hfree n hn]; rfl).symm
    · have hnone : c.answerIn [b] n = none := by
        by_cases hn : n ∈ c.outbox.awaiting.map (·.1)
        · exact answerIn_of_not_addressed (hfree n hn)
        · exact answerIn_of_not_awaiting hn
      simp [hnone, outcomesOf, outcomes, outcome?_quiet hnew]
  · push Not at hno
    obtain ⟨n, ha, hn⟩ := hno
    obtain ⟨before, entry, after, outcome, htable, hseq, hj, heq⟩ :=
      received_of_addressed hl hv ha hn
    have hother : ∀ m, m ≠ n → firstFor [b] m = none := fun m hm => by
      rw [firstFor_singleton, if_neg fun ha' => hm (ha.unique ha')]
    have hfirst : firstFor [b] n = some b := by rw [firstFor_singleton, if_pos ha]
    rw [heq]
    refine ⟨rfl, rfl, rfl, ?_, fun m => ?_⟩
    · have honly : (fun m => (firstFor [b] m).isSome) = fun m => decide (m = n) := by
        funext m
        by_cases hm : m = n
        · subst hm
          simp [hfirst]
        · simp [hother m hm, hm]
      rw [honly, hv.without_eq htable]
    · by_cases hm : m = n
      · subst hm
        have hentry : (m, entry) ∈ c.outbox.awaiting := by simp [htable]
        have hsome : c.answerIn [b] m = some (outcome entry.request.response) := by
          simp [answerIn, hv.lookup_eq hentry, hfirst, Inbound.outcome?, hj]
        simp [hsome, outcomesOf, outcomes, List.filterMap_cons]
      · rw [answerIn_of_not_addressed (hother m hm)]
        simp [outcomesOf, outcomes, List.filterMap_cons, Ne.symm hm]

/-- An awaiting request gets the outcome of a frame that addresses it. -/
theorem outcome?_received {connection : Nat} (hl : c.link = .opened connection)
    (hv : c.outbox.Valid) {entry : InFlight} (hn : (n, entry) ∈ c.outbox.awaiting)
    (ha : Addresses b n) :
    (c.step (.received b)).outcome? n =
      (Inbound.outcome? c.config.version b entry.request.response).or (c.outcome? n) := by
  have hanswer : c.answerIn [b] n =
      Inbound.outcome? c.config.version b entry.request.response := by
    simp [answerIn, hv.lookup_eq hn, firstFor_singleton, ha]
  rw [outcome?_eq_head?, outcome?_eq_head?, (answered_step hl hv b).outcomesOf_eq, hanswer]
  cases Inbound.outcome? c.config.version b entry.request.response <;> rfl

/-- **The effect of any sequence of frames**, as if each request had them to itself. -/
theorem answered_run {connection : Nat} (hl : c.link = .opened connection) (hv : c.outbox.Valid)
    (fs : List Octets) : Answered c fs (c.run (fs.map .received)) := by
  induction fs generalizing c with
  | nil => exact .refl c
  | cons b fs ih =>
    have hstep := answered_step hl hv b
    have hl' : (c.step (.received b)).link = .opened connection := hstep.link_eq.trans hl
    exact hstep.trans (ih hl' (hstep.outbox_eq ▸ hv.filter _))

/-- A client that does not listen hears nothing. -/
theorem run_received_of_deaf (hl : ∀ connection, c.link ≠ .opened connection) (fs : List Octets) :
    c.run (fs.map .received) = c := by
  induction fs with
  | nil => rfl
  | cons b fs ih =>
    have hstep : c.step (.received b) = c := by
      simp only [step]
    rw [List.map_cons, run_cons, hstep, ih]

/-- Two clients know the same of all requests. -/
structure Concur (d d' : Client) : Prop where
  queue_eq : d.outbox.queue = d'.outbox.queue
  awaiting_eq : d.outbox.awaiting = d'.outbox.awaiting
  link_eq : d.link = d'.link
  backoff_eq : d.backoff = d'.backoff
  /-- The same outcome, if any. -/
  outcome_eq : ∀ n, d.outcome? n = d'.outcome? n
  /-- It was given as often. -/
  settled_eq : ∀ n, (d.numbersAt .settled).count n = (d'.numbersAt .settled).count n

/-- **Replies commute**: if for each request the frames that address it are the same in both
sequences, and in the same order, both do the same to all requests, whatever else is in them. -/
theorem replies_commute (h : c.Reachable)
    (hsame : ∀ n, (fs.filter fun b => Addresses b n) = gs.filter fun b => Addresses b n) :
    Concur (c.run (fs.map .received)) (c.run (gs.map .received)) := by
  by_cases hl : ∃ connection, c.link = .opened connection
  · obtain ⟨connection, hl⟩ := hl
    have hfs := answered_run hl (reachable_valid h) fs
    have hgs := answered_run hl (reachable_valid h) gs
    have hfirst : ∀ n, firstFor fs n = firstFor gs n := fun n => firstFor_congr (hsame n)
    have houtbox : (c.run (fs.map .received)).outbox = (c.run (gs.map .received)).outbox := by
      simp only [hfs.outbox_eq, hgs.outbox_eq, hfirst]
    have houtcomes : ∀ n,
        (c.run (fs.map .received)).outcomesOf n = (c.run (gs.map .received)).outcomesOf n :=
      fun n => by simp only [hfs.outcomesOf_eq, hgs.outcomesOf_eq, answerIn, hfirst]
    exact {
      queue_eq := by rw [houtbox]
      awaiting_eq := by rw [houtbox]
      link_eq := hfs.link_eq.trans hgs.link_eq.symm
      backoff_eq := hfs.backoff_eq.trans hgs.backoff_eq.symm
      outcome_eq := fun n => by rw [outcome?_eq_head?, outcome?_eq_head?, houtcomes]
      settled_eq := fun n => by rw [count_settled, count_settled, houtcomes] }
  · push Not at hl
    rw [run_received_of_deaf hl, run_received_of_deaf hl]
    exact ⟨rfl, rfl, rfl, rfl, fun _ => rfl, fun _ => rfl⟩

/-- The answers to two requests change places, and what comes between them is another message and
octets that mean nothing. -/
theorem replies_commute_swapped :
    let c := fresh.run (transmission ++
      [.send "/b" .empty .raw, .finish 2, .command, .next, .taken, .next])
    let fs := [answerTo 1, messageTo "progress" 1, answerTo 2, answerTo 1]
    let gs := [answerTo 2, [0xc1], answerTo 1, messageTo "other" 2, answerTo 1, []]
    c.numbersAt .awaiting = [1, 2] ∧
      Concur (c.run (fs.map .received)) (c.run (gs.map .received)) ∧
      (c.run (fs.map .received)).numbersAt .settled = [2, 1] := by
  intro c fs gs
  have hsame : ∀ n, (fs.filter fun b => Addresses b n) = gs.filter fun b => Addresses b n := by
    have h₁ : addressee? (answerTo 1) = some 1 := by decide +kernel
    have h₂ : addressee? (answerTo 2) = some 2 := by decide +kernel
    have hnone : ∀ b ∈ [messageTo "progress" 1, messageTo "other" 2, [0xc1], []],
        addressee? b = none := by decide +kernel
    simp only [List.forall_mem_cons, List.not_mem_nil, false_implies, implies_true, and_true]
      at hnone
    intro n
    by_cases hn₁ : n = 1
    · subst hn₁
      simp [fs, gs, ← addressee?_eq_some_iff, h₁, h₂, hnone]
    · simp [fs, gs, List.filter_cons, ← addressee?_eq_some_iff, h₁, h₂, hnone, Ne.symm hn₁]
  exact ⟨by decide +kernel, replies_commute (reachable_fresh _) hsame, by decide +kernel⟩

end Client

end Courier
