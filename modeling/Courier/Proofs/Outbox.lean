import Courier.Lookup
import Courier.Outbox
import Mathlib.Data.List.Nodup
import Mathlib.Data.List.Sort

/-!
# What an outbox keeps

The table holds each request under its own number, no number twice, and lists the requests
by their stamps. So bringing it into the order of the stamps changes nothing, and removing an
entry leaves all others where they are.

* `Outbox.Valid` is what every operation keeps.
* `Valid.eq_of_sorted`: **the stamps allow one order only**, however the table is sorted.
* `Valid.inOrder_eq`: the order of the stamps is the order of the table.
* `Valid.take?_eq_some`: taking a request out removes exactly its entry.
-/

namespace Courier

/-- What is found is what erasing takes away. -/
theorem perm_cons_eraseP {α : Type} {p : α → Bool} {l : List α} {a : α} (h : l.find? p = some a) :
    l.Perm (a :: l.eraseP p) := by
  obtain ⟨hp, as, bs, rfl, has⟩ := List.find?_eq_some_iff_append.1 h
  have hnone : ∀ b ∈ as, ¬ p b = true := fun b hb => by simpa using has b hb
  rw [List.eraseP_append_right _ hnone, List.eraseP_cons_of_pos hp]
  exact List.perm_middle

namespace Outbox

variable {o : Outbox}

@[simp] theorem push_queue (o : Outbox) (r : Request) : (o.push r).queue = o.queue ++ [r] := rfl

@[simp] theorem push_awaiting (o : Outbox) (r : Request) : (o.push r).awaiting = o.awaiting := rfl

@[simp] theorem drain_queue (o : Outbox) : o.drain.2.queue = [] := rfl

@[simp] theorem drain_awaiting (o : Outbox) : o.drain.2.awaiting = [] := rfl

@[simp] theorem requeue_awaiting (o : Outbox) : o.requeue.2.awaiting = [] := rfl

@[simp] theorem markSent_queue (o : Outbox) (r : Request) : (o.markSent r).queue = o.queue := rfl

/-- The table holds each request under its own number, no number twice, and in the order of the
stamps, all of which were given out. -/
structure Valid (o : Outbox) : Prop where
  keyed : ∀ e ∈ o.awaiting, e.1 = e.2.request.seq
  nodup : (o.awaiting.map (·.1)).Nodup
  ordered : o.awaiting.Pairwise fun a b => a.2.stamp < b.2.stamp
  stamped : ∀ e ∈ o.awaiting, e.2.stamp < o.nextStamp

theorem valid_of_nil (h : o.awaiting = []) : o.Valid :=
  ⟨by simp [h], by simp [h], by simp [h], by simp [h]⟩

/-- Only the table matters. -/
theorem Valid.withQueue (h : o.Valid) (queue : List Request) :
    Valid { o with queue := queue } :=
  ⟨h.keyed, h.nodup, h.ordered, h.stamped⟩

theorem Valid.push (h : o.Valid) (r : Request) : (o.push r).Valid := h.withQueue _

theorem Valid.filter (h : o.Valid) (p : ReqSeq × InFlight → Bool) :
    Valid { o with awaiting := o.awaiting.filter p } where
  keyed e he := h.keyed e (List.mem_of_mem_filter he)
  nodup := h.nodup.sublist (List.filter_sublist.map _)
  ordered := h.ordered.filter p
  stamped e he := h.stamped e (List.mem_of_mem_filter he)

theorem Valid.markSent (h : o.Valid) (r : Request) : (o.markSent r).Valid := by
  have hf := h.filter fun e => e.1 ≠ r.seq
  refine ⟨?_, ?_, ?_, ?_⟩
  · intro e he
    rcases List.mem_append.1 he with he | he
    · exact hf.keyed e he
    · rw [List.mem_singleton.1 he]
  · rw [Outbox.markSent, List.map_append, List.nodup_append]
    refine ⟨hf.nodup, by simp, ?_⟩
    intro a ha b hb hab
    obtain ⟨e, he, rfl⟩ := List.mem_map.1 ha
    have hne := (List.mem_filter.1 he).2
    simp_all
  · refine List.pairwise_append.2 ⟨hf.ordered, by simp, ?_⟩
    intro a ha b hb
    rw [List.mem_singleton.1 hb]
    exact hf.stamped a ha
  · intro e he
    show e.2.stamp < o.nextStamp + 1
    rcases List.mem_append.1 he with he | he
    · have := hf.stamped e he
      exact Nat.lt_succ_of_lt this
    · rw [List.mem_singleton.1 he]
      exact Nat.lt_succ_self _

/-- A request whose number is not in the table is added behind all others. -/
theorem markSent_of_notMem {r : Request} (h : r.seq ∉ o.awaiting.map (·.1)) :
    (o.markSent r).awaiting = o.awaiting ++ [(r.seq, ⟨o.nextStamp, r⟩)] := by
  have hall : ∀ e ∈ o.awaiting, e.1 ≠ r.seq := fun e he heq => h (List.mem_map.2 ⟨e, he, heq⟩)
  unfold Outbox.markSent
  rw [List.filter_eq_self.2 (by simpa using hall)]

theorem insertByStamp_eq (e : InFlight) (es : List InFlight) :
    insertByStamp e es = es.orderedInsert (·.stamp ≤ ·.stamp) e := by
  induction es with
  | nil => rfl
  | cons f later ih => rw [insertByStamp, ih, List.orderedInsert_cons]

/-- Bringing transmitted requests into the order of their stamps is insertion sort. -/
theorem foldr_insertByStamp_eq (es : List InFlight) :
    es.foldr insertByStamp [] = es.insertionSort (·.stamp ≤ ·.stamp) := by
  induction es with
  | nil => rfl
  | cons e es ih => rw [List.foldr_cons, ih, insertByStamp_eq, List.insertionSort_cons]

theorem perm_foldr_insertByStamp (es : List InFlight) : (es.foldr insertByStamp []).Perm es := by
  rw [foldr_insertByStamp_eq]
  exact List.perm_insertionSort _ es

theorem pairwise_foldr_insertByStamp (es : List InFlight) :
    (es.foldr insertByStamp []).Pairwise (·.stamp ≤ ·.stamp) := by
  have : Std.Total fun a b : InFlight => a.stamp ≤ b.stamp := ⟨fun a b => Nat.le_total _ _⟩
  have : IsTrans InFlight fun a b => a.stamp ≤ b.stamp := ⟨fun _ _ _ => Nat.le_trans⟩
  rw [foldr_insertByStamp_eq]
  exact List.pairwise_insertionSort _ es

/-- **The stamps allow one order only.** No stamp was given out twice, so whatever brings the
entries into the order of their stamps comes to the same. -/
theorem Valid.eq_of_sorted (h : o.Valid) {es : List InFlight}
    (hperm : es.Perm (o.awaiting.map (·.2))) (hsorted : es.Pairwise (·.stamp ≤ ·.stamp)) :
    es = o.awaiting.map (·.2) := by
  have hstrict : (o.awaiting.map (·.2)).Pairwise (·.stamp < ·.stamp) :=
    List.pairwise_map.2 h.ordered
  have hnodup : ((o.awaiting.map (·.2)).map (·.stamp)).Nodup :=
    List.pairwise_map.2 (hstrict.imp Nat.ne_of_lt)
  refine hperm.eq_of_pairwise ?_ hsorted (hstrict.imp Nat.le_of_lt)
  intro a b ha hb hab hba
  exact List.inj_on_of_nodup_map hnodup (hperm.mem_iff.1 ha) hb (Nat.le_antisymm hab hba)

/-- **The order of the stamps is the order of the table.** -/
theorem Valid.inOrder_eq (h : o.Valid) : o.inOrder = o.awaiting.map (·.2.request) := by
  rw [inOrder, h.eq_of_sorted (perm_foldr_insertByStamp _) (pairwise_foldr_insertByStamp _),
    List.map_map]
  rfl

theorem Valid.map_seq (h : o.Valid) : o.awaiting.map (·.2.request.seq) = o.awaiting.map (·.1) :=
  List.map_congr_left fun e he => (h.keyed e he).symm

theorem Valid.map_seq_drain (h : o.Valid) :
    o.drain.1.map (·.seq) = o.queue.map (·.seq) ++ o.awaiting.map (·.1) := by
  rw [← h.map_seq, drain, List.map_append, List.map_map]
  rfl

theorem Valid.map_seq_requeue (h : o.Valid) :
    o.requeue.2.queue.map (·.seq) = o.awaiting.map (·.1) ++ o.queue.map (·.seq) := by
  rw [← h.map_seq, requeue, List.map_append, h.inOrder_eq, List.map_map]
  rfl

theorem Valid.count_drain (h : o.Valid) (n : ReqSeq) :
    (o.drain.1.map (·.seq)).count n
      = (o.queue.map (·.seq)).count n + (o.awaiting.map (·.1)).count n := by
  rw [h.map_seq_drain, List.count_append]

theorem Valid.count_requeue (h : o.Valid) (n : ReqSeq) :
    (o.requeue.2.queue.map (·.seq)).count n
      = (o.awaiting.map (·.1)).count n + (o.queue.map (·.seq)).count n := by
  rw [h.map_seq_requeue, List.count_append]

theorem take?_eq_none_iff {seq : ReqSeq} : o.take? seq = none ↔ seq ∉ o.awaiting.map (·.1) := by
  unfold take?
  cases h : o.awaiting.lookup seq with
  | none =>
    have := List.lookup_eq_none_iff.1 h
    simp only [true_iff]
    intro hmem
    obtain ⟨e, he, heq⟩ := List.mem_map.1 hmem
    simpa [heq] using this e he
  | some e =>
    obtain ⟨l₁, l₂, heq, -⟩ := List.lookup_eq_some_iff.1 h
    simp [heq]

/-- No number is in the table twice. -/
theorem Valid.eq_of_mem (h : o.Valid) {seq : ReqSeq} {e e' : InFlight}
    (he : (seq, e) ∈ o.awaiting) (he' : (seq, e') ∈ o.awaiting) : e = e' :=
  (Prod.ext_iff.1 (List.inj_on_of_nodup_map h.nodup he he' rfl)).2

/-! ## What is taken out -/

/-- The outbox without the entries of some numbers. -/
def without (o : Outbox) (p : ReqSeq → Bool) : Outbox :=
  { o with awaiting := o.awaiting.filter fun e => !p e.1 }

/-- What is left of a number is what there was, or nothing. -/
theorem lookup_without (o : Outbox) (p : ReqSeq → Bool) (n : ReqSeq) :
    (o.without p).awaiting.lookup n = if p n then none else o.awaiting.lookup n := by
  unfold without
  induction o.awaiting with
  | nil => simp
  | cons e rest ih =>
    obtain ⟨m, entry⟩ := e
    simp only at ih
    by_cases hm : n = m
    · subst hm
      cases hp : p n <;> simp [hp, ih]
    · have hne : (n == m) = false := by simpa using hm
      cases hp : p m <;> simp [hp, hne, ih, List.lookup_cons]

theorem without_without (o : Outbox) (p q : ReqSeq → Bool) :
    (o.without p).without q = o.without fun n => p n || q n := by
  simp [without, List.filter_filter, Bool.and_comm]

theorem without_eq_self {p : ReqSeq → Bool} (h : ∀ n ∈ o.awaiting.map (·.1), p n = false) :
    o.without p = o := by
  have hall : ∀ e ∈ o.awaiting, (!p e.1) = true := fun e he => by
    simp [h e.1 (List.mem_map_of_mem he)]
  rw [without, List.filter_eq_self.2 hall]

theorem take?_eq_some_iff {seq : ReqSeq} {r : Request} {o' : Outbox} :
    o.take? seq = some (r, o') ↔
      ∃ stamp, o.awaiting.lookup seq = some ⟨stamp, r⟩ ∧ o' = o.without fun n => n = seq := by
  unfold take? without
  cases hl : o.awaiting.lookup seq with
  | none => simp
  | some e =>
    obtain ⟨stamp, request⟩ := e
    simp only [Option.some.injEq, Prod.mk.injEq, InFlight.mk.injEq, decide_not, ne_eq]
    constructor
    · rintro ⟨rfl, rfl⟩
      exact ⟨stamp, ⟨rfl, rfl⟩, rfl⟩
    · rintro ⟨_, ⟨rfl, rfl⟩, rfl⟩
      exact ⟨rfl, rfl⟩

/-- An entry under its number is what is found there. -/
theorem Valid.lookup_eq (h : o.Valid) {seq : ReqSeq} {e : InFlight}
    (he : (seq, e) ∈ o.awaiting) : o.awaiting.lookup seq = some e :=
  (mem_iff_lookup h.nodup).1 he

/-- The entries of a number are the one entry that it has. -/
theorem Valid.without_eq (h : o.Valid) {seq : ReqSeq} {e : InFlight}
    {before after : List (ReqSeq × InFlight)} (htable : o.awaiting = before ++ (seq, e) :: after) :
    o.without (fun n => n = seq) = { o with awaiting := before ++ after } := by
  have hnd := h.nodup
  rw [htable, List.map_append, List.map_cons, List.nodup_append, List.nodup_cons] at hnd
  obtain ⟨-, ⟨hafter, -⟩, hbefore⟩ := hnd
  have h₁ : before.filter (fun q => !decide (q.1 = seq)) = before :=
    List.filter_eq_self.2 fun q hq => by
      simpa using hbefore q.1 (List.mem_map_of_mem hq) seq List.mem_cons_self
  have h₂ : after.filter (fun q => !decide (q.1 = seq)) = after :=
    List.filter_eq_self.2 fun q hq => by
      simpa using fun heq => hafter (List.mem_map.2 ⟨q, hq, heq⟩)
  rw [without, htable, List.filter_append, h₁, List.filter_cons_of_neg (by simp), h₂]

/-- **Taking a request out removes exactly its entry.** -/
theorem Valid.take?_eq_some (h : o.Valid) {seq : ReqSeq} {r : Request} {o' : Outbox}
    (ht : o.take? seq = some (r, o')) :
    ∃ before stamp after, o.awaiting = before ++ (seq, ⟨stamp, r⟩) :: after ∧
      o' = { o with awaiting := before ++ after } ∧ r.seq = seq := by
  obtain ⟨stamp, hl, rfl⟩ := take?_eq_some_iff.1 ht
  obtain ⟨before, after, heq, -⟩ := List.lookup_eq_some_iff.1 hl
  exact ⟨before, stamp, after, heq, h.without_eq heq,
    (h.keyed (seq, ⟨stamp, r⟩) (by simp [heq])).symm⟩

/-! ## What an outbox carries -/

/-- The requests that are to be transmitted or that await an answer. -/
def carried (o : Outbox) : List Request := o.queue ++ o.awaiting.map (·.2.request)

variable {r q : Request} {rest : List Request}

theorem Valid.map_seq_carried (h : o.Valid) :
    o.carried.map (·.seq) = o.queue.map (·.seq) ++ o.awaiting.map (·.1) := by
  rw [carried, List.map_append, List.map_map, ← h.map_seq]
  rfl

theorem mem_carried_push : q ∈ (o.push r).carried ↔ q ∈ o.carried ∨ q = r := by
  simp only [carried, push_queue, push_awaiting, List.mem_append, List.mem_singleton]
  tauto

theorem Valid.mem_carried_requeue (h : o.Valid) : q ∈ o.requeue.2.carried ↔ q ∈ o.carried := by
  simp only [carried, requeue, h.inOrder_eq, List.mem_append, List.map_nil, List.not_mem_nil]
  tauto

/-- A hand-over adds nothing to what is carried. -/
theorem mem_carried_of_markSent (hq : o.queue = r :: rest)
    (h : q ∈ ({ o with queue := rest }.markSent r).carried) : q ∈ o.carried := by
  simp only [carried, markSent, hq, List.map_append, List.mem_append, List.mem_map, List.mem_filter,
    List.mem_cons] at h ⊢
  rcases h with hrest | ⟨e, ⟨he, -⟩, rfl⟩ | ⟨e, he, rfl⟩
  · exact .inl (.inr hrest)
  · exact .inr ⟨e, he, rfl⟩
  · obtain rfl := List.mem_singleton.1 (List.mem_cons.2 he)
    exact .inl (.inl rfl)

/-- Nor does it lose a number. -/
theorem Valid.mem_map_carried_markSent (h : o.Valid) (hq : o.queue = r :: rest) {seq : ReqSeq}
    (hseq : seq ∈ o.carried.map (·.seq)) :
    seq ∈ (Outbox.markSent { o with queue := rest } r).carried.map (·.seq) := by
  rw [((h.withQueue rest).markSent r).map_seq_carried]
  rw [h.map_seq_carried, hq] at hseq
  by_cases hr : seq = r.seq
  · exact List.mem_append_right _ (by simp [Outbox.markSent, hr])
  · rcases List.mem_append.1 hseq with hqueue | htable
    · exact List.mem_append_left _ ((List.mem_cons.1 hqueue).resolve_left hr)
    · obtain ⟨e, he, rfl⟩ := List.mem_map.1 htable
      refine List.mem_append_right _ (List.mem_map_of_mem (List.mem_append_left _ ?_))
      exact List.mem_filter.2 ⟨he, by simpa using hr⟩

/-- Nor does an answer add anything. -/
theorem mem_carried_of_take? {seq : ReqSeq} {o' : Outbox} (ht : o.take? seq = some (r, o'))
    (h : q ∈ o'.carried) : q ∈ o.carried := by
  obtain ⟨stamp, -, rfl⟩ := take?_eq_some_iff.1 ht
  refine List.mem_append.2 ((List.mem_append.1 h).imp_right fun htable => ?_)
  exact (List.filter_sublist.map _).subset htable

/-- It takes away nothing else than what has its number. -/
theorem Valid.mem_carried_of_ne (h : o.Valid) {seq : ReqSeq} {o' : Outbox}
    (ht : o.take? seq = some (r, o')) (hq : q ∈ o.carried) (hne : q.seq ≠ seq) :
    q ∈ o'.carried := by
  obtain ⟨stamp, -, rfl⟩ := take?_eq_some_iff.1 ht
  refine List.mem_append.2 ((List.mem_append.1 hq).imp_right fun htable => ?_)
  obtain ⟨e, he, rfl⟩ := List.mem_map.1 htable
  refine List.mem_map_of_mem (List.mem_filter.2 ⟨he, ?_⟩)
  rw [h.keyed e he]
  simpa using hne

/-- No number is carried twice, so the head of the queue replaces nothing in the table. -/
theorem Valid.notMem_of_nodup (h : o.Valid) (hnd : (o.carried.map (·.seq)).Nodup)
    (hq : o.queue = r :: rest) : r.seq ∉ o.awaiting.map (·.1) := by
  rw [h.map_seq_carried, hq, List.map_cons, List.cons_append, List.nodup_cons] at hnd
  exact fun hmem => hnd.1 (List.mem_append_right _ hmem)

/-- A hand-over moves a request from the queue into the table. -/
theorem Valid.perm_carried_markSent (h : o.Valid) (hnd : (o.carried.map (·.seq)).Nodup)
    (hq : o.queue = r :: rest) : ({ o with queue := rest }.markSent r).carried.Perm o.carried := by
  have hsent := markSent_of_notMem (o := { o with queue := rest }) (h.notMem_of_nodup hnd hq)
  rw [carried, hsent, markSent_queue, List.map_append, carried, hq, ← List.append_assoc]
  exact List.perm_append_singleton r _

/-- An answer takes away what has its number. -/
theorem Valid.mem_carried_take? (h : o.Valid) (hq : o.queue = []) {seq : ReqSeq} {o' : Outbox}
    (ht : o.take? seq = some (r, o')) : q ∈ o'.carried ↔ q ∈ o.carried ∧ q.seq ≠ seq := by
  obtain ⟨stamp, -, rfl⟩ := take?_eq_some_iff.1 ht
  simp only [carried, without, hq, List.nil_append, List.mem_map, List.mem_filter,
    Bool.not_eq_true', decide_eq_false_iff_not]
  constructor
  · rintro ⟨e, ⟨he, hne⟩, rfl⟩
    exact ⟨⟨e, he, rfl⟩, h.keyed e he ▸ hne⟩
  · rintro ⟨⟨e, he, rfl⟩, hne⟩
    exact ⟨e, ⟨he, (h.keyed e he).symm ▸ hne⟩, rfl⟩

end Outbox

end Courier
