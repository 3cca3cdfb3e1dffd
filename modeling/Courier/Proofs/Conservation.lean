import Courier.Proofs.Inbound
import Courier.Proofs.Run

/-!
# Conservation of requests

Every number that was handed out with a reply is at exactly one place, in every reachable
client: no event loses a request, doubles it or settles it twice.

The proof counts. `tally` is how often a number is at all the places together, `calling` how
often it belongs to a call that has yet to post its request. An event adds to the tally
exactly the number that it hands out (`Transition.tally_eq`), and numbers are fresh when they
are given (`Conserved`).
-/

namespace Courier.Client

variable {c c' : Client} {e : Event} {n : ReqSeq}

/-- How often a number is at all the places together. -/
def tally (c : Client) (n : ReqSeq) : Nat :=
  (c.numbersAt .reading).count n + (c.numbersAt .posted).count n + (c.numbersAt .queued).count n
    + (c.numbersAt .awaiting).count n + (c.numbersAt .settled).count n
    + (c.numbersAt .discarded).count n

/-- How often a number belongs to a call that has yet to post its request. -/
def calling (c : Client) (n : ReqSeq) : Nat := (c.calls.map (·.seq)).count n

theorem tally_eq (c : Client) (n : ReqSeq) :
    c.tally n = (c.uploads.map (·.seq)).count n + ((requestsOf c.inbox).map (·.seq)).count n
      + (c.outbox.queue.map (·.seq)).count n + (c.outbox.awaiting.map (·.1)).count n
      + (c.history.filterMap Occurrence.settled?).count n
      + (c.history.filterMap Occurrence.discarded?).count n := rfl

@[simp] theorem requestsOf_nil : requestsOf [] = [] := rfl

@[simp] theorem requestsOf_enqueue (r : Request) (rest : List Command) :
    requestsOf (.enqueue r :: rest) = r :: requestsOf rest := rfl

@[simp] theorem requestsOf_clear (rest : List Command) :
    requestsOf (.clear :: rest) = requestsOf rest := rfl

@[simp] theorem requestsOf_query (rest : List Command) :
    requestsOf (.query :: rest) = requestsOf rest := rfl

@[simp] theorem requestsOf_append (a b : List Command) :
    requestsOf (a ++ b) = requestsOf a ++ requestsOf b := List.filterMap_append

/-! ## What one event changes -/

/-- A call that ends while the loop runs hands out its reply. -/
theorem handsOut_finish {r : Request} (hr : c.calls.find? (fun q => q.seq = r.seq) = some r) :
    c.handsOut (.finish r.seq) = if c.stopped then none else some r.seq := by
  simp only [handsOut, hr, finish, Option.bind_some]
  split <;> rfl

/-- **An event adds to the tally exactly the number that it hands out.** -/
theorem Transition.tally_eq (h : Transition c e c') (hv : c.outbox.Valid)
    (hone : ∀ m, c.tally m ≤ 1) (n : ReqSeq) :
    c'.tally n = c.tally n + (c.handsOut e).toList.count n := by
  cases h with
  | quiet e jar session handlers held new hnew hr hm =>
    simp [Client.tally_eq, hm.handsOut, settled?_quiet hnew, discarded?_quiet hnew]
  | numbered uri body response session r hs hr hn hh => simp [Client.tally_eq, hh]
  | reading uri body response session p hs hp hn hh =>
    simp [Client.tally_eq, hh]
    omega
  | posted r hr hs =>
    simp [Client.tally_eq, handsOut_finish hr, hs]
    omega
  | forsaken r hr hs => simp [Client.tally_eq, handsOut_finish hr, hs]
  | cancelled seq => simp [Client.tally_eq, handsOut]
  | asked e command hc hs hm => simp [Client.tally_eq, hm.handsOut, hc]
  | readPosted p octets r hr hp hs =>
    -- The request leaves the uploads and enters the inbox under the same number.
    have hperm := ((perm_cons_eraseP hp).map (·.seq)).count_eq n
    simp [Client.tally_eq, handsOut, List.count_cons, hr] at hperm ⊢
    omega
  | readFailed p result error he hp =>
    have hperm := ((perm_cons_eraseP hp).map (·.seq)).count_eq n
    simp [Client.tally_eq, handsOut, List.filterMap_cons, List.count_cons] at hperm ⊢
    omega
  | dropped r rest hb hi hc =>
    simp [Client.tally_eq, handsOut, hi, List.filterMap_cons, List.count_cons]
    omega
  | queuedOpen r rest connection hl hi hc | queuedLater r rest hl hi hc =>
    simp [Client.tally_eq, handsOut, hi, List.filterMap_cons, List.count_cons]
    omega
  | queuedDialled r rest session hl hi hc hs =>
    simp [Client.tally_eq, handsOut, hi, List.filterMap_cons, List.count_cons]
    omega
  | queuedRotated r rest session hl hi hc hs =>
    have hd := (hv.push r).count_drain n
    simp [Client.tally_eq, handsOut, hi, List.filterMap_cons, hd, List.count_cons]
    omega
  | cleared rest hb hi | rotated secs session hl hs =>
    have hd := hv.count_drain n
    simp [Client.tally_eq, handsOut, *]
    omega
  | queried rest stats hb hi =>
    simp [Client.tally_eq, handsOut, hi, List.filterMap_cons]
  | halted e rest hb he =>
    -- The commands that are left and the whole outbox are settled at once.
    have hd := hv.count_drain n
    simp [Client.tally_eq, he.passive.handsOut, hd, he.requestsOf_eq]
    omega
  | connected cookies hl | redialled secs session hl hs =>
    simp [Client.tally_eq, handsOut, List.filterMap_cons]
  | ended e clean he =>
    -- Requests at most go back from the table to the queue.
    have hrequeue := hv.count_requeue n
    simp only [Client.tally_eq, he.passive.handsOut, List.filterMap_cons]
    split
    · simp [hrequeue]
      omega
    · simp
  | answered b connection seq outcome r outbox hl hj ht =>
    obtain ⟨before, stamp, after, heq, rfl, rfl⟩ := hv.take?_eq_some ht
    simp [Client.tally_eq, handsOut, List.filterMap_cons, heq, List.count_cons]
    omega
  | drained connection hl hq => simp [Client.tally_eq, handsOut]
  | skipped connection r rest hl hq hc =>
    simp [Client.tally_eq, handsOut, List.filterMap_cons, hq, List.count_cons]
    omega
  | handed connection r rest hl hq hc =>
    -- The number is in the queue already, so it is not in the table and replaces nothing there.
    have hfresh : r.seq ∉ c.outbox.awaiting.map (·.1) := by
      have hr := hone r.seq
      simp [Client.tally_eq, hq] at hr
      rw [← List.count_eq_zero]
      omega
    have hsent := Outbox.markSent_of_notMem (o := { c.outbox with queue := rest }) hfresh
    simp [Client.tally_eq, handsOut, List.filterMap_cons, hq, hsent, List.count_cons]
    omega
  | taken connection r hl =>
    simp [Client.tally_eq, handsOut, List.filterMap_cons]

/-- A number belongs to its call until the call hands it out, or ends after the loop did. -/
theorem Transition.calling_cases (h : Transition c e c') (n : ReqSeq) :
    c'.calling n + (c.handsOut e).toList.count n = c.calling n + (c.allocates e).toList.count n ∨
      c.stopped = true ∧ c'.calling n + (c.handsOut e).toList.count n
        ≤ c.calling n + (c.allocates e).toList.count n := by
  cases h with
  | quiet e jar session handlers held new hnew hr hm =>
    exact .inl (by simp [calling, hm.handsOut, hm.allocates])
  | numbered uri body response session r hs hr hn hh => exact .inl (by simp [calling, hn, hh])
  | reading uri body response session p hs hp hn hh => exact .inl (by simp [calling, hn, hh])
  | posted r hr hs =>
    have hperm := ((perm_cons_eraseP hr).map (·.seq)).count_eq n
    simp [calling, handsOut_finish hr, hs, allocates, List.count_cons] at hperm ⊢
    omega
  | forsaken r hr hs =>
    have hperm := ((perm_cons_eraseP hr).map (·.seq)).count_eq n
    simp [calling, handsOut_finish hr, hs, allocates, List.count_cons] at hperm ⊢
    omega
  | asked e command hc hs hm => exact .inl (by simp [calling, hm.handsOut, hm.allocates])
  | halted e rest hb he => exact .inl (by simp [calling, he.passive.handsOut, he.passive.allocates])
  | ended e clean he => exact .inl (by simp [calling, he.passive.handsOut, he.passive.allocates])
  | _ => exact .inl rfl

/-- A call that posts its request keeps its number in use. -/
theorem Transition.calling_le (h : Transition c e c') (n : ReqSeq) :
    c'.calling n + (c.handsOut e).toList.count n
      ≤ c.calling n + (c.allocates e).toList.count n := by
  rcases h.calling_cases n with heq | ⟨-, hle⟩
  · exact Nat.le_of_eq heq
  · exact hle

/-- Numbers are given in turn. -/
theorem Transition.allocates_cases (h : Transition c e c') :
    (c.allocates e = none ∧ c'.lastSeq = c.lastSeq) ∨
    (c.allocates e = some (ReqSeq.next c.lastSeq) ∧ c'.lastSeq = ReqSeq.next c.lastSeq) := by
  cases h with
  | quiet e jar session handlers held new hnew hr hm => exact .inl ⟨hm.allocates, rfl⟩
  | numbered uri body response session r hs hr hn hh => exact .inr ⟨hr ▸ hn, hr⟩
  | reading uri body response session p hs hp hn hh => exact .inr ⟨hp ▸ hn, hp⟩
  | asked e command hc hs hm => exact .inl ⟨hm.allocates, rfl⟩
  | halted e rest hb he => exact .inl ⟨he.passive.allocates, rfl⟩
  | ended e clean he => exact .inl ⟨he.passive.allocates, rfl⟩
  | _ => exact .inl ⟨rfl, rfl⟩

/-! ## Runs -/

/-- What every event keeps, as long as the numbers last: `issued` are the numbers that were
handed out, and `given` is how many were given to requests. -/
structure Conserved (issued : List ReqSeq) (given : Nat) (c : Client) : Prop where
  valid : c.outbox.Valid
  tally_eq : ∀ n, c.tally n = issued.count n
  /-- No number is in use twice. -/
  once : ∀ n, c.tally n + c.calling n ≤ 1
  /-- The numbers in use are those that were given. -/
  given_of_used : ∀ n, 0 < c.tally n + c.calling n → n ≤ c.lastSeq
  lastSeq_eq : c.lastSeq.toNat = given

variable {issued : List ReqSeq} {given : Nat}

theorem conserved_start (config : Config) (session : Session) (jar : Jar) :
    Conserved [] 0 (start config session jar) where
  valid := Outbox.valid_of_nil rfl
  tally_eq n := by simp [Client.tally_eq, start, Outbox.empty]
  once n := by simp [Client.tally_eq, calling, start, Outbox.empty]
  given_of_used n h := by simp [Client.tally_eq, calling, start, Outbox.empty] at h
  lastSeq_eq := rfl

theorem Conserved.tally_le (h : Conserved issued given c) (n : ReqSeq) : c.tally n ≤ 1 :=
  Nat.le_trans (Nat.le_add_right _ _) (h.once n)

/-- One event keeps the numbers apart, unless they run out. -/
theorem Conserved.step (h : Conserved issued given c) (e : Event)
    (hlt : given + (c.allocates e).toList.length < 2 ^ 64) :
    Conserved (issued ++ (c.handsOut e).toList) (given + (c.allocates e).toList.length)
      (c.step e) := by
  have ht := step_transition c e
  have htally := ht.tally_eq h.valid h.tally_le
  have hcalling := ht.calling_le
  -- What an event adds to the numbers in use is the number that it allocates.
  have huse : ∀ n, (c.step e).tally n + (c.step e).calling n
      ≤ c.tally n + c.calling n + (c.allocates e).toList.count n := by
    intro n
    have := htally n
    have := hcalling n
    omega
  have hvalid := ht.valid h.valid
  have hissued : ∀ n, (c.step e).tally n = (issued ++ (c.handsOut e).toList).count n := by
    intro n
    rw [List.count_append, htally, h.tally_eq]
  rcases ht.allocates_cases with ⟨hn, hl⟩ | ⟨hn, hl⟩
  · simp only [hn, Option.toList_none, List.count_nil, List.length_nil, Nat.add_zero] at huse ⊢
    refine ⟨hvalid, hissued, fun n => Nat.le_trans (huse n) (h.once n), ?_, hl ▸ h.lastSeq_eq⟩
    intro n hpos
    rw [hl]
    exact h.given_of_used n (Nat.lt_of_lt_of_le hpos (huse n))
  · simp only [hn, Option.toList_some, List.length_singleton] at huse hlt ⊢
    have hnext : (ReqSeq.next c.lastSeq).toNat = given + 1 := by
      have := h.lastSeq_eq
      simp only [ReqSeq.next, UInt64.toNat_add, UInt64.toNat_one]
      omega
    have hlast : c.lastSeq < ReqSeq.next c.lastSeq := by
      have := h.lastSeq_eq
      rw [UInt64.lt_iff_toNat_lt]
      omega
    refine ⟨hvalid, hissued, ?_, ?_, hl ▸ hnext⟩
    · intro n
      have := huse n
      by_cases heq : n = ReqSeq.next c.lastSeq
      · -- The number that is given now was not in use.
        have hfresh : ¬ 0 < c.tally n + c.calling n := by
          intro hpos
          have := h.given_of_used n hpos
          rw [heq] at this
          exact absurd hlast (UInt64.not_lt.2 this)
        rw [heq, List.count_singleton_self] at this
        rw [heq] at hfresh ⊢
        omega
      · rw [List.count_singleton, if_neg (by simpa using Ne.symm heq)] at this
        exact Nat.le_trans this (h.once n)
    · intro n hpos
      rw [hl]
      by_cases heq : n = ReqSeq.next c.lastSeq
      · exact UInt64.le_of_eq heq
      · have := huse n
        rw [List.count_singleton, if_neg (by simpa using Ne.symm heq)] at this
        have hle := h.given_of_used n (Nat.lt_of_lt_of_le hpos this)
        exact UInt64.le_trans hle (UInt64.le_of_lt hlast)

/-- **A run keeps the numbers apart**, unless they run out. -/
theorem Conserved.run (h : Conserved issued given c) (es : List Event)
    (hlt : given + (c.along allocates es).length < 2 ^ 64) :
    Conserved (issued ++ c.along handsOut es) (given + (c.along allocates es).length)
      (c.run es) := by
  -- By induction on the run, from any client and whatever was given before.
  induction es generalizing c issued given with
  | nil => simpa [along] using h
  | cons e es ih =>
    simp only [along, List.length_append] at hlt
    have hstep := h.step e (by omega)
    have hrun := ih hstep (by omega)
    simpa [along, Nat.add_assoc] using hrun

/-! ## Places -/

theorem count_le_tally (c : Client) (p : Place) (n : ReqSeq) :
    (c.numbersAt p).count n ≤ c.tally n := by
  unfold tally
  cases p <;> omega

/-- Each place adds to the tally. -/
theorem two_le_tally {p q : Place} (hne : p ≠ q) (hp : n ∈ c.numbersAt p)
    (hq : n ∈ c.numbersAt q) : 2 ≤ c.tally n := by
  rw [← List.count_pos_iff] at hp hq
  unfold tally
  cases p <;> cases q <;> first | exact absurd rfl hne | omega

theorem exists_place (h : 0 < c.tally n) : ∃ p, n ∈ c.numbersAt p := by
  by_contra hno
  have hzero : ∀ p, (c.numbersAt p).count n = 0 := by
    intro p
    rw [List.count_eq_zero]
    exact fun hmem => hno ⟨p, hmem⟩
  simp [tally, hzero] at h

theorem Conserved.not_two_places (h : Conserved issued given c) {p q : Place}
    (hp : n ∈ c.numbersAt p) (hq : n ∈ c.numbersAt q) : p = q := by
  by_contra hne
  have := two_le_tally hne hp hq
  have := h.tally_le n
  omega

/-- **Every number that was handed out is accounted for.** -/
structure Accounted (issued : List ReqSeq) (c : Client) : Prop where
  /-- No number is handed out twice. -/
  issued_nodup : issued.Nodup
  /-- A number that was handed out is at exactly one place. -/
  place : ∀ n ∈ issued, ∃! p, n ∈ c.numbersAt p
  /-- It is there only once; in particular it is settled at most once. -/
  nodup_at : ∀ p, (c.numbersAt p).Nodup
  /-- No other number is anywhere. -/
  issued_of_mem : ∀ p, ∀ n ∈ c.numbersAt p, n ∈ issued
  waiting_nodup : (c.numbersAt .posted ++ c.numbersAt .queued ++ c.numbersAt .awaiting).Nodup
  /-- A request is in the table under its own number. -/
  keyed : ∀ e ∈ c.outbox.awaiting, e.1 = e.2.request.seq
  /-- Entering a request that waits to be transmitted into the table replaces nothing. -/
  markSent : ∀ r ∈ requestsOf c.inbox ++ c.outbox.queue,
    (c.outbox.markSent r).awaiting = c.outbox.awaiting ++ [(r.seq, ⟨c.outbox.nextStamp, r⟩)]
  /-- What is thrown away is what nobody waits for. -/
  cancelled_of_discarded : ∀ n ∈ c.numbersAt .discarded, n ∈ c.cancelled

/-- Only requests that nobody waits for are thrown away. -/
theorem Transition.cancelled_of_discarded (h : Transition c e c')
    (hc : ∀ n ∈ c.numbersAt .discarded, n ∈ c.cancelled) :
    ∀ n ∈ c'.numbersAt .discarded, n ∈ c'.cancelled := by
  simp only [numbersAt] at hc ⊢
  cases h with
  | quiet e jar session handlers held new hnew hr hm =>
    simpa [discarded?_quiet hnew] using hc
  | cancelled seq => exact fun n hn => List.mem_cons_of_mem _ (hc n hn)
  | dropped r rest hb hi hcancelled | skipped connection r rest hl hq hcancelled =>
    intro n hn
    rcases List.mem_cons.1 hn with rfl | hn
    · simpa [isCancelled] using hcancelled
    · exact hc n hn
  | queuedRotated | cleared | halted | rotated => simpa using hc
  | _ => exact hc

theorem Conserved.accounted (h : Conserved issued given c)
    (hc : ∀ n ∈ c.numbersAt .discarded, n ∈ c.cancelled) : Accounted issued c where
  issued_nodup := by
    refine List.nodup_iff_count_le_one.2 fun n => ?_
    rw [← h.tally_eq]
    exact h.tally_le n
  place n hn := by
    have hpos : 0 < c.tally n := by
      rw [h.tally_eq]
      exact List.count_pos_iff.2 hn
    obtain ⟨p, hp⟩ := exists_place hpos
    exact ⟨p, hp, fun q hq => h.not_two_places hq hp⟩
  nodup_at p := by
    refine List.nodup_iff_count_le_one.2 fun n => ?_
    exact Nat.le_trans (count_le_tally c p n) (h.tally_le n)
  issued_of_mem p n hn := by
    rw [← List.count_pos_iff] at hn ⊢
    rw [← h.tally_eq]
    exact Nat.lt_of_lt_of_le hn (count_le_tally c p n)
  waiting_nodup := by
    refine List.nodup_iff_count_le_one.2 fun n => ?_
    have hone := h.tally_le n
    unfold tally at hone
    rw [List.count_append, List.count_append]
    omega
  keyed := h.valid.keyed
  markSent r hr := by
    refine Outbox.markSent_of_notMem fun hmem => ?_
    rcases List.mem_append.1 hr with hr | hr
    · have := h.not_two_places (p := .posted) (q := .awaiting) (List.mem_map.2 ⟨r, hr, rfl⟩) hmem
      cases this
    · have := h.not_two_places (p := .queued) (q := .awaiting) (List.mem_map.2 ⟨r, hr, rfl⟩) hmem
      cases this
  cancelled_of_discarded := hc

/-! ## Abandoned requests -/

theorem settled_mem_failures {rs : List Request} {error : Error} {outcome : Outcome} :
    Occurrence.settled n outcome ∈ failures rs error ↔
      n ∈ rs.map (·.seq) ∧ outcome = .error error := by
  simp only [failures, List.mem_reverse, List.mem_map, Occurrence.settled.injEq]
  constructor
  · rintro ⟨r, hr, rfl, rfl⟩
    exact ⟨⟨r, hr, rfl⟩, rfl⟩
  · rintro ⟨⟨r, hr, rfl⟩, rfl⟩
    exact ⟨r, hr, rfl, rfl⟩

/-- **Only the command to clear abandons requests**, those that the loop has taken. -/
theorem Transition.clear_of_abandoned (h : Transition c e c') (hv : c.outbox.Valid)
    (hold : .settled n (.error .abandoned) ∉ c.history)
    (hnew : .settled n (.error .abandoned) ∈ c'.history) :
    e = .command ∧ c.takes e = some .clear ∧
      (n ∈ c.numbersAt .queued ∨ n ∈ c.numbersAt .awaiting) := by
  cases h with
  | cleared rest hb hi =>
    refine ⟨rfl, by simp [takes, hb, hi], ?_⟩
    rcases List.mem_append.1 hnew with hnew | hnew
    · have hmem := (settled_mem_failures.1 hnew).1
      rw [hv.map_seq_drain] at hmem
      exact List.mem_append.1 hmem
    · exact absurd hnew hold
  | quiet e jar session handlers held new hq hr hm =>
    rcases List.mem_append.1 hnew with hnew | hnew
    · have := hq _ hnew
      cases this
    · exact absurd hnew hold
  | readFailed p result error he hp =>
    rcases List.mem_cons.1 hnew with hnew | hnew
    · cases hnew
      cases he
    · exact absurd hnew hold
  | answered b connection seq outcome r outbox hl hj ht =>
    rcases List.mem_cons.1 hnew with hnew | hnew
    · simp only [Occurrence.settled.injEq] at hnew
      exact absurd hnew.2.symm ((judge_settle hj).2.not_abandoned _)
    · simp_all
  | queuedRotated | rotated =>
    simp [settled_mem_failures] at hnew
    exact absurd hnew hold
  | halted e rest hb he =>
    rcases hl : c.link <;> simp [settled_mem_failures, closing, hl] at hnew <;>
      exact absurd hnew hold
  | _ =>
    simp at hnew
    exact absurd hnew hold

/-- **Requests are conserved.** After any run that gives fewer than `2 ^ 64 - 1` numbers, each
number that was handed out is at exactly one place, no entry of the table was ever replaced,
and whatever was abandoned was abandoned by a command to clear. -/
theorem requests_conserved (config : Config) (session : Session) (jar : Jar) (events : List Event)
    (hfew : ((start config session jar).along allocates events).length < 2 ^ 64 - 1) :
    Accounted ((start config session jar).along handsOut events)
      ((start config session jar).run events) ∧
    ∀ n, .settled n (.error .abandoned) ∈ ((start config session jar).run events).history →
      ∃ before after, events = before ++ .command :: after ∧
        ((start config session jar).run before).takes .command = some .clear ∧
        (n ∈ ((start config session jar).run before).numbersAt .queued ∨
          n ∈ ((start config session jar).run before).numbersAt .awaiting) := by
  have hstart := reachable_start config session jar
  have hconserved := (conserved_start config session jar).run events (by omega)
  rw [List.nil_append] at hconserved
  have hdiscarded := (hstart.run events).invariant
    (P := fun c => ∀ n ∈ c.numbersAt .discarded, n ∈ c.cancelled)
    (fun _ _ _ n hn => by cases hn) fun hc ht => ht.cancelled_of_discarded hc
  refine ⟨hconserved.accounted hdiscarded, fun n hn => ?_⟩
  obtain ⟨before, e, after, heq, hold, hnew⟩ := exists_first
    (P := fun c => .settled n (.error .abandoned) ∈ c.history) (by simp [start]) hn
  have hv := reachable_valid (hstart.run before)
  obtain ⟨rfl, htakes, hplace⟩ := (step_transition _ e).clear_of_abandoned hv hold hnew
  exact ⟨before, after, heq, htakes, hplace⟩

/-- A request that is cleared while it awaits its answer. -/
theorem requests_conserved_cleared :
    Accounted [1] (fresh.run (transmission ++ [.clear, .command])) := by
  have hissued : fresh.along handsOut (transmission ++ [.clear, .command]) = [1] := by
    decide +kernel
  have h := requests_conserved .standard (.new "sid") .empty (transmission ++ [.clear, .command])
    (Nat.lt_of_le_of_lt (along_length_le _ _) (by decide))
  rw [← hissued]
  exact h.1

end Courier.Client
