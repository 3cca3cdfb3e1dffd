import Courier.Proofs.Conservation

/-!
# Requests on their way to the loop

A request reaches the loop once. Until then its file is being read or its command is in the
inbox; after that its number never turns up there again, whatever becomes of the request.

* `Conserved.arriving_run`: **what has reached the loop never arrives again.**
* `Conserved.receives_nodup`: so the loop receives no number twice.
-/

namespace Courier.Client

variable {c c' : Client} {e : Event} {n : ReqSeq} {issued : List ReqSeq} {given : Nat}

/-- How often a number is on its way to the loop. -/
def arriving (c : Client) (n : ReqSeq) : Nat :=
  (c.numbersAt .reading).count n + (c.numbersAt .posted).count n

/-- Only what was never handed out arrives. -/
theorem Transition.arriving_le (h : Transition c e c') (n : ReqSeq) :
    c'.arriving n ≤ c.arriving n + (c.handsOut e).toList.count n := by
  simp only [arriving, numbersAt]
  cases h with
  | reading uri body response session p hs hp hn hh =>
    simp [hh]
    omega
  | posted r hr hs =>
    simp [handsOut_finish hr, hs]
    omega
  | asked e command hc hs hm => simp [hc]
  | readPosted p octets r hr hp hs =>
    have hperm := ((perm_cons_eraseP hp).map (·.seq)).count_eq n
    simp [handsOut, List.count_cons, hr] at hperm ⊢
    omega
  | readFailed p result error he hp =>
    have hperm := ((perm_cons_eraseP hp).map (·.seq)).count_eq n
    simp [handsOut, List.count_cons] at hperm ⊢
    omega
  | dropped r rest hb hi hc | queuedOpen r rest connection hl hi hc | queuedLater r rest hl hi hc =>
    simp [hi, List.count_cons]
    omega
  | queuedDialled r rest session hl hi hc hs | queuedRotated r rest session hl hi hc hs =>
    simp [hi, List.count_cons]
    omega
  | cleared rest hb hi => simp [hi]
  | queried rest stats hb hi => simp [hi]
  | halted e rest hb he =>
    simp
    omega
  | _ => exact Nat.le_add_right _ _

/-- A request that has reached the loop never arrives again. -/
theorem Conserved.arriving_step (h : Conserved issued given c) (e : Event)
    (hlt : given + (c.allocates e).toList.length < 2 ^ 64) (hpos : 0 < c.tally n)
    (hzero : c.arriving n = 0) : 0 < (c.step e).tally n ∧ (c.step e).arriving n = 0 := by
  have ht := step_transition c e
  have htally := ht.tally_eq h.valid h.tally_le n
  have harriving := ht.arriving_le n
  have hone := (h.step e hlt).tally_le n
  omega

theorem Conserved.arriving_run {es : List Event} (h : Conserved issued given c)
    (hlt : given + (c.along allocates es).length < 2 ^ 64) (hpos : 0 < c.tally n)
    (hzero : c.arriving n = 0) : (c.run es).arriving n = 0 := by
  induction es generalizing c issued given with
  | nil => exact hzero
  | cons e es ih =>
    simp only [along, List.length_append] at hlt
    obtain ⟨hpos', hzero'⟩ := h.arriving_step e (by omega) hpos hzero
    exact ih (h.step e (by omega)) (by omega) hpos' hzero'

/-- Receiving a request takes it off its way. -/
theorem Transition.arriving_of_receives (h : Transition c e c') {r : Request}
    (hr : c.receives e = some r) : c'.arriving r.seq + 1 ≤ c.arriving r.seq := by
  have hnone : c.takes e = none → c.receives e = none := fun ht => by simp [receives, ht]
  simp only [arriving, numbersAt]
  cases h with
  | quiet e jar session handlers held new hnew hq hm => simp [hnone hm.takes] at hr
  | asked e command hc hs hm => simp [hnone hm.takes] at hr
  | dropped q rest hb hi hc =>
    obtain rfl : q = r := by simpa [receives, takes, hb, hi] using hr
    simp only [hi, requestsOf_enqueue, List.map_cons, List.count_cons_self]
    omega
  | queuedOpen q rest connection hl hi hc =>
    obtain rfl : q = r := by simpa [receives, takes, Link.isBusy, hl, hi] using hr
    simp only [hi, requestsOf_enqueue, List.map_cons, List.count_cons_self]
    omega
  | queuedLater q rest hl hi hc =>
    have hb : c.link.isBusy = false := by rcases hl with ⟨_, hl⟩ | ⟨_, hl⟩ <;> rw [hl] <;> rfl
    obtain rfl : q = r := by simpa [receives, takes, hb, hi] using hr
    simp only [hi, requestsOf_enqueue, List.map_cons, List.count_cons_self]
    omega
  | queuedDialled q rest session hl hi hc hs | queuedRotated q rest session hl hi hc hs =>
    obtain rfl : q = r := by simpa [receives, takes, Link.isBusy, hl, hi] using hr
    simp only [hi, requestsOf_enqueue, List.map_cons, List.count_cons_self]
    omega
  | cleared rest hb hi | queried rest stats hb hi => simp [receives, takes, hb, hi] at hr
  | halted e rest hb he =>
    cases he with
    | shutdown rest hi => simp [receives, takes, hb, hi] at hr
    | deserted hd => simp [hnone rfl] at hr
  | ended e clean he => cases he <;> simp [hnone rfl] at hr
  | _ => simp [hnone rfl] at hr

/-- A request is received when it is the first in the inbox. -/
theorem receives_eq_some_iff {r : Request} : c.receives e = some r ↔
    e = .command ∧ c.link.isBusy = false ∧ c.inbox.head? = some (.enqueue r) := by
  unfold receives takes
  cases e with
  | command =>
    cases hb : c.link.isBusy with
    | true => simp
    | false =>
      cases c.inbox with
      | nil => simp
      | cons command rest => cases command <;> simp
  | _ => simp

theorem mem_inbox_of_receives {r : Request} (hr : c.receives e = some r) :
    r ∈ requestsOf c.inbox := by
  obtain ⟨-, -, hhead⟩ := receives_eq_some_iff.1 hr
  obtain ⟨rest, hi⟩ := List.head?_eq_some_iff.1 hhead
  rw [hi]
  exact List.mem_cons_self

theorem posted_of_receives {r : Request} (hr : c.receives e = some r) :
    r.seq ∈ c.numbersAt .posted :=
  List.mem_map_of_mem (mem_inbox_of_receives hr)

/-- What the loop has received it does not receive again. -/
theorem Conserved.receives_notMem {es : List Event} (h : Conserved issued given c)
    (hlt : given + (c.along allocates es).length < 2 ^ 64) (hpos : 0 < c.tally n)
    (hzero : c.arriving n = 0) : n ∉ (c.along receives es).map (·.seq) := by
  intro hmem
  obtain ⟨r, hr, rfl⟩ := List.mem_map.1 hmem
  obtain ⟨before, e, after, rfl, hreceives⟩ := mem_along.1 hr
  have hshort := along_length_le_append (f := allocates) c before (e :: after)
  have hnone : (c.run before).arriving r.seq = 0 := h.arriving_run (by omega) hpos hzero
  have hposted := List.count_pos_iff.2 (posted_of_receives hreceives)
  rw [arriving] at hnone
  omega

/-- **The loop receives no number twice.** -/
theorem Conserved.receives_nodup {es : List Event} (h : Conserved issued given c)
    (hlt : given + (c.along allocates es).length < 2 ^ 64) :
    ((c.along receives es).map (·.seq)).Nodup := by
  induction es generalizing c issued given with
  | nil => simp [along]
  | cons e es ih =>
    simp only [along, List.length_append] at hlt
    have hstep := h.step e (by omega)
    have hrest := ih hstep (by omega)
    rw [along]
    cases hr : c.receives e with
    | none => simpa using hrest
    | some r =>
      have hposted := List.count_pos_iff.2 (posted_of_receives hr)
      have htally := (step_transition c e).tally_eq h.valid h.tally_le r.seq
      have hle := count_le_tally c .posted r.seq
      have hone := hstep.tally_le r.seq
      -- The number was on its way once, and that once is over.
      have harriving := (step_transition c e).arriving_of_receives hr
      have hway : c.arriving r.seq ≤ c.tally r.seq := by
        unfold arriving tally
        omega
      have hnot : r.seq ∉ ((c.step e).along receives es).map (·.seq) :=
        hstep.receives_notMem (by omega) (by omega) (by omega)
      simpa using ⟨by simpa using hnot, hrest⟩

end Courier.Client
