import Courier.Proofs.Outbox
import Courier.Proofs.Transition
import Mathlib.Data.Multiset.Basic

/-!
# An outbox is two lists

A table that is looked up by numbers may list its entries in any order, and in another one each
time. Nothing depends on it: an outbox answers as two plain lists would, one of the requests to be
transmitted and one of those in flight, in the order in which they were transmitted.

* `Outbox.run`: what an outbox answers, with its table in any order and stamps that are words.
* `Outbox.Lists.run`: what two lists answer.
* `Outbox.Relisted.perform`: **no answer depends on the order of the table.**
* `Outbox.Valid.perform`: **an outbox whose table is in order answers as its lists do.**
* `Outbox.refines_lists`: **an outbox answers as two lists do**, whatever is asked of it.
-/

namespace Courier.Outbox

/-! ## Operations -/

/-- What can be asked of an outbox. -/
inductive Operation where
  | push (r : Request)
  | pop
  | markSent (r : Request)
  | take (seq : ReqSeq)
  | requeue
  | failAll

/-- The request that an operation enters into the table. -/
def Operation.marked? : Operation → Option Request
  | .markSent r => some r
  | _ => none

/-- What an operation gives back. -/
inductive Answer where
  | done
  | request (r : Option Request)
  | moved (count : Nat)
  /-- So many requests were settled: these, each as often as it stands here. -/
  | settled (count : Nat) (requests : Multiset Request)

/-- An order in which a table may list its entries. -/
structure Listing where
  order : List (ReqSeq × InFlight) → List (ReqSeq × InFlight)
  perm : ∀ entries, (order entries).Perm entries

/-- An operation, and the order in which the table lists its entries then. -/
structure Step where
  operation : Operation
  listing : Listing

/-- The outbox with its table in another order. -/
def listed (o : Outbox) (listing : Listing) : Outbox :=
  { o with awaiting := listing.order o.awaiting }

/-- The outbox with a next stamp that is a word of 64 bits. -/
def worded (o : Outbox) : Outbox :=
  { o with nextStamp := o.nextStamp % 2 ^ 64 }

/-- The answer to an operation, and the outbox after it. -/
def perform (o : Outbox) : Operation → Answer × Outbox
  | .push r => (.done, o.push r)
  | .pop => (.request (o.pop?.map (·.1)), (o.pop?.map (·.2)).getD o)
  | .markSent r => (.done, o.markSent r)
  | .take seq => (.request ((o.take? seq).map (·.1)), ((o.take? seq).map (·.2)).getD o)
  | .requeue => (.moved o.requeue.1, o.requeue.2)
  | .failAll => (.settled o.drain.1.length o.drain.1, o.drain.2)

/-- The outbox after a step. -/
def after (o : Outbox) (s : Step) : Outbox :=
  ((o.listed s.listing).perform s.operation).2.worded

/-- The answers to a sequence of operations, and the outbox after them. A sort that may exchange
entries of one stamp does what a sort that keeps their order does to the table in another order, so
it is among these runs. -/
def run (o : Outbox) : List Step → List Answer × Outbox
  | [] => ([], o)
  | s :: steps =>
    (((o.listed s.listing).perform s.operation).1 :: (run (o.after s) steps).1,
      (run (o.after s) steps).2)

/-- The operation enters no request under a number that stands in the table. -/
def Admits (o : Outbox) (op : Operation) : Prop :=
  ∀ r ∈ op.marked?, r.seq ∉ o.awaiting.map (·.1)

instance (o : Outbox) (op : Operation) : Decidable (o.Admits op) :=
  inferInstanceAs (Decidable (∀ r ∈ op.marked?, r.seq ∉ o.awaiting.map (·.1)))

/-- No operation enters a request under a number that stands in the table at that moment. -/
def Fresh (o : Outbox) : List Step → Prop
  | [] => True
  | s :: steps => o.Admits s.operation ∧ Fresh (o.after s) steps

instance decidableFresh : ∀ (o : Outbox) (steps : List Step), Decidable (o.Fresh steps)
  | _, [] => inferInstanceAs (Decidable True)
  | o, s :: steps =>
    have := decidableFresh (o.after s) steps
    inferInstanceAs (Decidable (o.Admits s.operation ∧ Fresh (o.after s) steps))

/-- The requests that a sequence of operations enters into the table. -/
def marked (steps : List Step) : List Request :=
  steps.filterMap (·.operation.marked?)

theorem length_marked_cons (s : Step) (steps : List Step) :
    (marked (s :: steps)).length = s.operation.marked?.toList.length + (marked steps).length := by
  rw [marked, marked, List.filterMap_cons]
  cases s.operation.marked? with
  | none => exact (Nat.zero_add _).symm
  | some r => exact Nat.add_comm _ _

/-- The requests to be transmitted, and those in flight in the order of their transmission. -/
structure Lists where
  queue : List Request
  inFlight : List Request

namespace Lists

/-- No requests. -/
def empty : Lists := ⟨[], []⟩

/-- The answer to an operation, and the lists after it. -/
def perform (l : Lists) : Operation → Answer × Lists
  | .push r => (.done, { l with queue := l.queue ++ [r] })
  | .pop => (.request l.queue.head?, { l with queue := l.queue.tail })
  | .markSent r => (.done, { l with inFlight := l.inFlight ++ [r] })
  | .take seq => (.request (l.inFlight.find? (·.seq = seq)),
      { l with inFlight := l.inFlight.eraseP (·.seq = seq) })
  | .requeue => (.moved l.inFlight.length, ⟨l.inFlight ++ l.queue, []⟩)
  | .failAll => (.settled (l.queue.length + l.inFlight.length) (l.queue ++ l.inFlight : List _),
      empty)

/-- The answers to a sequence of operations, and the lists after them. -/
def run (l : Lists) : List Operation → List Answer × Lists
  | [] => ([], l)
  | op :: ops => ((l.perform op).1 :: (run (l.perform op).2 ops).1, (run (l.perform op).2 ops).2)

end Lists

variable {o t : Outbox} {l : Lists} {op : Operation} {seq : ReqSeq}
  {entries : List (ReqSeq × InFlight)}

/-! ## Whatever order the table is in -/

/-- The same outbox, but for the order in which its table lists the entries. -/
structure Relisted (o t : Outbox) : Prop where
  queue : o.queue = t.queue
  awaiting : o.awaiting.Perm t.awaiting
  nextStamp : o.nextStamp = t.nextStamp

theorem relisted_listed (o : Outbox) (listing : Listing) : Relisted (o.listed listing) o :=
  ⟨rfl, listing.perm _, rfl⟩

theorem Relisted.trans {u : Outbox} (h : Relisted o t) (h' : Relisted t u) : Relisted o u :=
  ⟨h.queue.trans h'.queue, h.awaiting.trans h'.awaiting, h.nextStamp.trans h'.nextStamp⟩

theorem Relisted.admits_iff (h : Relisted o t) : o.Admits op ↔ t.Admits op := by
  unfold Admits
  simp only [(h.awaiting.map (·.1)).mem_iff]

theorem Relisted.withQueue (h : Relisted o t) (queue : List Request) :
    Relisted { o with queue := queue } { t with queue := queue } :=
  ⟨rfl, h.awaiting, h.nextStamp⟩

theorem Relisted.push (h : Relisted o t) (r : Request) : Relisted (o.push r) (t.push r) := by
  rw [Outbox.push, h.queue]
  exact h.withQueue _

theorem Relisted.markSent (h : Relisted o t) (r : Request) :
    Relisted (o.markSent r) (t.markSent r) where
  queue := h.queue
  awaiting := by
    rw [Outbox.markSent, h.nextStamp]
    exact (h.awaiting.filter _).append_right _
  nextStamp := congrArg (· + 1) h.nextStamp

theorem Relisted.without (h : Relisted o t) (p : ReqSeq → Bool) :
    Relisted (o.without p) (t.without p) :=
  ⟨h.queue, h.awaiting.filter _, h.nextStamp⟩

/-- However the table is sorted, its requests come out in the order of their transmission. -/
theorem Relisted.sorted (h : Relisted o t) (ht : t.Valid) {es : List InFlight}
    (hperm : es.Perm (o.awaiting.map (·.2))) (hsorted : es.Pairwise (·.stamp ≤ ·.stamp)) :
    es.map (·.request) = t.awaiting.map (·.2.request) := by
  rw [ht.eq_of_sorted (hperm.trans (h.awaiting.map _)) hsorted, List.map_map]
  rfl

theorem Relisted.inOrder_eq (h : Relisted o t) (ht : t.Valid) :
    o.inOrder = t.awaiting.map (·.2.request) :=
  h.sorted ht (perm_foldr_insertByStamp _) (pairwise_foldr_insertByStamp _)

theorem Relisted.requeue (h : Relisted o t) (ht : t.Valid) : o.requeue = t.requeue := by
  rw [Outbox.requeue, Outbox.requeue, h.inOrder_eq ht, ht.inOrder_eq, h.awaiting.length_eq, h.queue,
    h.nextStamp]

theorem Relisted.perm_drain (h : Relisted o t) : o.drain.1.Perm t.drain.1 := by
  rw [drain, drain, h.queue]
  exact (h.awaiting.map _).append_left _

/-- A number under which nothing is found has no entry to take away. -/
theorem without_of_take?_eq_none (h : o.take? seq = none) : (o.without fun n => n = seq) = o := by
  have hnot := take?_eq_none_iff.1 h
  exact without_eq_self fun n hn => decide_eq_false fun heq => hnot (heq ▸ hn)

/-- What is found under a number, and what is left without it. -/
theorem perform_take (o : Outbox) (seq : ReqSeq) :
    o.perform (.take seq) =
      (.request ((o.awaiting.lookup seq).map (·.request)), o.without fun n => n = seq) := by
  rw [perform]
  cases h : o.take? seq with
  | none =>
    have hlookup : o.awaiting.lookup seq = none := by
      rw [← Option.not_isSome_iff_eq_none, lookup_isSome_iff]
      exact take?_eq_none_iff.1 h
    rw [hlookup, without_of_take?_eq_none h]
    rfl
  | some taken =>
    obtain ⟨stamp, hlookup, hleft⟩ := take?_eq_some_iff.1 h
    rw [hlookup, ← hleft]
    rfl

/-- **No answer depends on the order of the table.** -/
theorem Relisted.perform (h : Relisted o t) (ht : t.Valid) (op : Operation) :
    (o.perform op).1 = (t.perform op).1 ∧ Relisted (o.perform op).2 (t.perform op).2 := by
  cases op with
  | push r => exact ⟨rfl, h.push r⟩
  | pop =>
    simp only [Outbox.perform, pop?, h.queue]
    cases t.queue with
    | nil => exact ⟨rfl, h⟩
    | cons r rest => exact ⟨rfl, h.withQueue rest⟩
  | markSent r => exact ⟨rfl, h.markSent r⟩
  | take seq =>
    rw [perform_take, perform_take, lookup_eq_of_perm ht.nodup h.awaiting.symm]
    exact ⟨rfl, h.without fun n => n = seq⟩
  | requeue =>
    rw [Outbox.perform, Outbox.perform, h.requeue ht]
    exact ⟨rfl, rfl, .refl _, rfl⟩
  | failAll =>
    refine ⟨?_, rfl, .refl _, h.nextStamp⟩
    simp only [Outbox.perform, h.perm_drain.length_eq, Multiset.coe_eq_coe.2 h.perm_drain]

/-! ## A table in the order of the stamps -/

/-- The lists that an outbox holds whose table is in the order of the stamps. -/
def lists (o : Outbox) : Lists := ⟨o.queue, o.awaiting.map (·.2.request)⟩

/-- Under its number a request is found where it stands among those in flight. -/
theorem find?_eq_lookup (hkeyed : ∀ e ∈ entries, e.1 = e.2.request.seq) (seq : ReqSeq) :
    (entries.map (·.2.request)).find? (·.seq = seq) = (entries.lookup seq).map (·.request) := by
  induction entries with
  | nil => rfl
  | cons e entries ih =>
    obtain ⟨hhead, htail⟩ := List.forall_mem_cons.1 hkeyed
    rw [lookup_cons_ite, List.map_cons, List.find?_cons, ih htail]
    by_cases heq : seq = e.1
    · simp [heq, hhead]
    · have hne : ¬ e.2.request.seq = seq := fun hseq => heq (hhead.trans hseq).symm
      simp [heq, hne]

/-- No two requests in flight have one number, so that only one goes. -/
theorem Valid.eraseP_lists (h : o.Valid) (seq : ReqSeq) :
    o.lists.inFlight.eraseP (·.seq = seq) = (o.without fun n => n = seq).lists.inFlight := by
  cases ht : o.take? seq with
  | none =>
    have hnot := take?_eq_none_iff.1 ht
    rw [without_of_take?_eq_none ht]
    refine List.eraseP_of_forall_not fun q hq hseq => hnot ?_
    rw [← h.map_seq, ← of_decide_eq_true hseq]
    obtain ⟨e, he, rfl⟩ := List.mem_map.1 hq
    exact List.mem_map_of_mem he
  | some taken =>
    obtain ⟨before, stamp, after, htable, -, hseq⟩ := h.take?_eq_some ht
    have hnodup := h.nodup
    rw [← h.map_seq, htable, List.map_append, List.nodup_append] at hnodup
    have hbefore : ∀ q ∈ before.map (·.2.request), ¬ decide (q.seq = seq) = true := by
      intro q hq hdec
      obtain ⟨e, he, rfl⟩ := List.mem_map.1 hq
      exact hnodup.2.2 _ (List.mem_map_of_mem he) seq (by simp [hseq]) (of_decide_eq_true hdec)
    rw [h.without_eq htable, lists, lists, htable, List.map_append, List.map_append,
      List.eraseP_append_right _ hbefore, List.map_cons,
      List.eraseP_cons_of_pos (by simpa using hseq)]

/-- **An outbox whose table is in order answers as its lists do**, and its table stays in order. -/
theorem Valid.perform (h : o.Valid) (hop : o.Admits op) :
    (o.perform op).1 = (o.lists.perform op).1 ∧ (o.perform op).2.lists = (o.lists.perform op).2 ∧
      (o.perform op).2.Valid := by
  cases op with
  | push r => exact ⟨rfl, rfl, h.push r⟩
  | pop =>
    simp only [Outbox.perform, Lists.perform, pop?, lists]
    cases hq : o.queue with
    | nil => exact ⟨rfl, by simp [hq], h⟩
    | cons r rest => exact ⟨rfl, rfl, h.withQueue rest⟩
  | markSent r =>
    refine ⟨rfl, ?_, h.markSent r⟩
    -- The number is not in the table, so that no entry is replaced and the new one stands last.
    simp only [Outbox.perform, Lists.perform, lists, markSent_of_notMem (hop r rfl),
      List.map_append]
    rfl
  | take seq =>
    rw [perform_take, Lists.perform, h.eraseP_lists, lists, find?_eq_lookup h.keyed]
    exact ⟨rfl, rfl, h.filter _⟩
  | requeue =>
    have hlength : o.awaiting.length = o.lists.inFlight.length := (List.length_map _).symm
    have hqueue : o.inOrder ++ o.queue = o.lists.inFlight ++ o.lists.queue := by
      rw [h.inOrder_eq, lists]
    refine ⟨congrArg Answer.moved hlength, ?_, valid_of_nil rfl⟩
    exact congrArg (Lists.mk · []) hqueue
  | failAll =>
    have hlength : o.drain.1.length = o.lists.queue.length + o.lists.inFlight.length :=
      List.length_append
    refine ⟨?_, rfl, valid_of_nil rfl⟩
    rw [Outbox.perform, Lists.perform, hlength]
    rfl

/-! ## Any sequence of operations -/

/-- What the outbox holds, once its table is in the order of the stamps. -/
def Holds (o : Outbox) (l : Lists) : Prop :=
  ∃ t : Outbox, Relisted o t ∧ t.Valid ∧ t.lists = l

theorem holds_empty : Holds .empty .empty :=
  ⟨.empty, ⟨rfl, .refl _, rfl⟩, valid_of_nil rfl, rfl⟩

theorem Holds.listed (h : Holds o l) (listing : Listing) : Holds (o.listed listing) l := by
  obtain ⟨t, hrel, hvalid, hlists⟩ := h
  exact ⟨t, (relisted_listed o listing).trans hrel, hvalid, hlists⟩

/-- One operation on an outbox is the same operation on its lists. -/
theorem Holds.perform (h : Holds o l) (hop : o.Admits op) :
    (o.perform op).1 = (l.perform op).1 ∧ Holds (o.perform op).2 (l.perform op).2 := by
  obtain ⟨t, hrel, hvalid, rfl⟩ := h
  obtain ⟨hsame, hrel'⟩ := hrel.perform hvalid op
  obtain ⟨hanswer, hlists, hvalid'⟩ := hvalid.perform (hrel.admits_iff.1 hop)
  exact ⟨hsame.trans hanswer, _, hrel', hvalid', hlists⟩

/-- A stamp is used up by entering a request into the table, and by nothing else. -/
theorem nextStamp_perform (o : Outbox) (op : Operation) :
    (o.perform op).2.nextStamp = o.nextStamp + op.marked?.toList.length := by
  cases op with
  | pop =>
    simp only [Outbox.perform, pop?]
    cases o.queue <;> rfl
  | take seq =>
    rw [perform_take]
    rfl
  | _ => rfl

theorem worded_of_lt (h : o.nextStamp < 2 ^ 64) : o.worded = o := by
  rw [worded, Nat.mod_eq_of_lt h]

/-- **An outbox answers a sequence of operations as its lists do**, as long as its stamps last. -/
theorem Holds.run (h : Holds o l) (steps : List Step) (hfresh : o.Fresh steps)
    (hfew : o.nextStamp + (marked steps).length < 2 ^ 64) :
    (o.run steps).1 = (l.run (steps.map (·.operation))).1 ∧
      Holds (o.run steps).2 (l.run (steps.map (·.operation))).2 := by
  induction steps generalizing o l with
  | nil => exact ⟨rfl, h⟩
  | cons s steps ih =>
    obtain ⟨hfirst, hrest⟩ := hfresh
    have hop := (relisted_listed o s.listing).admits_iff.2 hfirst
    obtain ⟨hanswer, hholds⟩ := (h.listed s.listing).perform hop
    have hstamp : ((o.listed s.listing).perform s.operation).2.nextStamp
        = o.nextStamp + s.operation.marked?.toList.length := nextStamp_perform _ _
    have hcount := length_marked_cons s steps
    -- The stamps last for the whole sequence, so none of them is cut down to a word.
    have hafter : o.after s = ((o.listed s.listing).perform s.operation).2 :=
      worded_of_lt (by omega)
    rw [← hafter] at hholds hstamp
    obtain ⟨hanswers, hlast⟩ := ih hholds hrest (by omega)
    exact ⟨congrArg₂ List.cons hanswer hanswers, hlast⟩

/-- What two lists say about an outbox, whatever order its table is in. -/
structure Refines (o : Outbox) (l : Lists) : Prop where
  queue : o.queue = l.queue
  awaiting : (o.awaiting.map (·.2.request)).Perm l.inFlight
  /-- Whatever brings the table into the order of the stamps, its requests come out in the order of
  their transmission. -/
  sorted : ∀ es : List InFlight, es.Perm (o.awaiting.map (·.2)) →
    es.Pairwise (·.stamp ≤ ·.stamp) → es.map (·.request) = l.inFlight
  /-- If they are put in front of the queue one at a time, the last one first, they stand there in
  that order. -/
  pushed : ∀ es : List InFlight, es.Perm (o.awaiting.map (·.2)) →
    es.Pairwise (·.stamp ≤ ·.stamp) →
    es.reverse.foldl (fun queue e => e.request :: queue) o.queue = l.inFlight ++ l.queue
  /-- If everything fails, each request of both lists gets the error once, and nothing is left. -/
  failed : ∀ (c : Client) (e : Error) (listing : Listing), c.outbox = o.listed listing →
    ∃ rs : List Request, rs.Perm (l.queue ++ l.inFlight) ∧
      (c.failAll e).history = Client.failures rs e ++ c.history ∧ (c.failAll e).outbox.carried = []

theorem Holds.refines (h : Holds o l) : Refines o l := by
  obtain ⟨t, hrel, hvalid, rfl⟩ := h
  have hsorted (es : List InFlight) (hperm : es.Perm (o.awaiting.map (·.2)))
      (hpairwise : es.Pairwise (·.stamp ≤ ·.stamp)) : es.map (·.request) = t.lists.inFlight :=
    hrel.sorted hvalid hperm hpairwise
  refine ⟨hrel.queue, hrel.awaiting.map _, hsorted, fun es hperm hpairwise => ?_, ?_⟩
  · rw [List.foldl_flip_cons_eq_append, List.map_reverse, List.reverse_reverse,
      hsorted es hperm hpairwise, hrel.queue]
    rfl
  · intro c e listing hc
    rw [Client.failAll_eq, hc]
    exact ⟨_, ((relisted_listed o listing).trans hrel).perm_drain, rfl, rfl⟩

/-- **An outbox answers as two lists do.** Whatever is asked of it, and in whatever order its table
lists the entries each time, it gives the answers of two plain lists and holds at the end what they
hold, as long as no number is entered that stands in the table and the stamps last. -/
theorem refines_lists (steps : List Step) (hfresh : empty.Fresh steps)
    (hfew : (marked steps).length < 2 ^ 64) :
    (empty.run steps).1 = (Lists.empty.run (steps.map (·.operation))).1 ∧
      Refines (empty.run steps).2 (Lists.empty.run (steps.map (·.operation))).2 := by
  have hfew' : empty.nextStamp + (marked steps).length < 2 ^ 64 :=
    (Nat.zero_add _).symm ▸ hfew
  obtain ⟨hanswers, hholds⟩ := holds_empty.run steps hfresh hfew'
  exact ⟨hanswers, hholds.refines⟩

/-- Three requests are transmitted in another order than that of their numbers, one of them is
answered and its number used again, and the table lists its entries backwards all the time. Then
all are put back, in the order of their transmission, and one is transmitted again before everything
fails. -/
theorem refines_lists_backwards :
    let request (n : ReqSeq) : Request := ⟨n, [], .raw⟩
    let ops : List Operation := [.markSent (request 2), .markSent (request 1),
      .markSent (request 3), .push (request 4), .take 1, .markSent (request 1), .requeue, .pop,
      .markSent (request 2), .take 5, .failAll]
    let steps : List Step := ops.map fun op => ⟨op, List.reverse, List.reverse_perm⟩
    empty.Fresh steps ∧ (marked steps).length < 2 ^ 64 ∧
      (empty.run steps).1 = [.done, .done, .done, .done, .request (some (request 1)), .done,
        .moved 3, .request (some (request 2)), .done, .request none,
        .settled 4 ([request 3, request 1, request 4, request 2] : List Request)] ∧
      Refines (empty.run steps).2 .empty := by
  intro request ops steps
  have hfresh : empty.Fresh steps := by decide
  have hfew : (marked steps).length < 2 ^ 64 := by decide
  exact ⟨hfresh, hfew, refines_lists steps hfresh hfew⟩

end Courier.Outbox
