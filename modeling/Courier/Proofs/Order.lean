import Courier.Proofs.Arrival
import Courier.Proofs.Transmission
import Mathlib.Data.List.Induction

/-!
# Requests are transmitted in the order in which they arrive

Requests are numbered as the loop receives them. Whatever happens to connections, what is handed
over keeps to these numbers, and only a lost connection lets a request be handed over again.

The invariant couples the table and the queue: **the numbers of the table and then those of the
queue increase**, and what was never handed over is younger than all that was (`Ordered`). It is
kept because an event does one of three things to the outbox (`Moves`). What is handed over is
what the history records of it (`passagesIn`).

* `InOrder`: what the numbers of a run satisfy.
* `transmitted_in_order`: every run has such numbers.
-/

namespace Courier.Client

variable {c c' : Client} {e : Event} {received rs : List Request} {ns : List Nat}

/-! ## Numbers -/

/-- `ns` are the numbers of the requests `rs`, counted in the order of arrival. -/
def Numbers (received : List Request) (ns : List Nat) (rs : List Request) : Prop :=
  ns.map (received[·]?) = rs.map some

theorem Numbers.lt_length (h : Numbers received ns rs) : ∀ n ∈ ns, n < received.length := by
  intro n hn
  have hmem : received[n]? ∈ rs.map some := h ▸ List.mem_map.2 ⟨n, hn, rfl⟩
  obtain ⟨r, -, hr⟩ := List.mem_map.1 hmem
  exact (List.getElem?_eq_some_iff.1 hr.symm).1

/-- Numbers stay when more requests arrive. -/
theorem Numbers.receive (h : Numbers received ns rs) (more : List Request) :
    Numbers (received ++ more) ns rs := by
  rw [Numbers, ← h]
  exact List.map_congr_left fun n hn => List.getElem?_append_left (h.lt_length n hn)

theorem Numbers.append {ms : List Nat} {qs : List Request} (h : Numbers received ns rs)
    (h' : Numbers received ms qs) : Numbers received (ns ++ ms) (rs ++ qs) := by
  rw [Numbers, List.map_append, List.map_append, h, h']

theorem Numbers.sublist {qs : List Request} (h : Numbers received ns rs) (hs : qs.Sublist rs) :
    ∃ ms, ms.Sublist ns ∧ Numbers received ms qs := by
  have hmap : (qs.map some).Sublist (ns.map (received[·]?)) := h ▸ hs.map some
  obtain ⟨ms, hms, heq⟩ := List.sublist_map_iff.1 hmap
  exact ⟨ms, hms, heq.symm⟩

theorem Numbers.cons {r : Request} (h : Numbers received ns (r :: rs)) :
    ∃ n ms, ns = n :: ms ∧ received[n]? = some r ∧ Numbers received ms rs := by
  obtain ⟨n, ms, rfl, hn, hms⟩ := List.map_eq_cons_iff.1 h
  exact ⟨n, ms, rfl, hn, hms⟩

/-! ## What is handed over -/

/-- What was handed over along a run, each request by its number among those received. -/
structure InOrder (received : List Request) (passages : List (Passage Request))
    (numbered : List (Passage Nat)) : Prop where
  named : numbered.map (Passage.map (received[·]?)) = passages.map (Passage.map some)
  /-- On each connection the numbers increase; so none is handed over twice. -/
  increasing : ∀ connection, (numbered.filterMap (Passage.handedTo? connection)).Pairwise (· < ·)
  /-- Of all connections together, the first time that each is handed over. -/
  first_increasing : (numbered.filterMap Passage.handed?).eraseDups.Pairwise (· < ·)
  /-- Between two times, a connection was lost. -/
  lost_between : ∀ before k n between k' after,
    numbered = before ++ .handed k n :: (between ++ .handed k' n :: after) → .lost ∈ between

theorem inOrder_nil : InOrder [] [] [] := by
  refine ⟨rfl, fun _ => List.Pairwise.nil, List.Pairwise.nil, ?_⟩
  intro before k n between k' after h
  simp at h

variable {passages : List (Passage Request)} {numbered : List (Passage Nat)} {connection n : Nat}

theorem InOrder.lt_length (h : InOrder received passages numbered) :
    ∀ n ∈ numbered.filterMap Passage.handed?, n < received.length := by
  intro n hn
  obtain ⟨p, hp, hpn⟩ := List.mem_filterMap.1 hn
  have hmem : p.map (received[·]?) ∈ passages.map (Passage.map some) :=
    h.named ▸ List.mem_map.2 ⟨p, hp, rfl⟩
  obtain ⟨q, -, hq⟩ := List.mem_map.1 hmem
  cases p with
  | lost => cases hpn
  | handed k m =>
    cases hpn
    cases q with
    | lost => cases hq
    | handed k' r =>
      simp only [Passage.map, Passage.handed.injEq] at hq
      exact (List.getElem?_eq_some_iff.1 hq.2.symm).1

theorem InOrder.receive (h : InOrder received passages numbered) (more : List Request) :
    InOrder (received ++ more) passages numbered := by
  refine ⟨?_, h.increasing, h.first_increasing, h.lost_between⟩
  rw [← h.named]
  refine List.map_congr_left fun p hp => ?_
  cases p with
  | lost => rfl
  | handed k n =>
    have hlt := h.lt_length n (List.mem_filterMap.2 ⟨_, hp, rfl⟩)
    simp [List.getElem?_append_left hlt]

/-- Only what is new is kept. -/
theorem eraseDups_concat {α : Type} [BEq α] [LawfulBEq α] [DecidableEq α] (l : List α) (a : α) :
    (l ++ [a]).eraseDups = if a ∈ l then l.eraseDups else l.eraseDups ++ [a] := by
  rw [List.eraseDups_append, List.removeAll]
  by_cases h : a ∈ l <;> simp [h, List.eraseDups_cons]

/-- The last of a list that is cut in two places. -/
theorem concat_eq_cut {α : Type} {l before between after : List α} {x a b : α}
    (h : l ++ [x] = before ++ a :: (between ++ b :: after)) :
    (after = [] ∧ x = b ∧ l = before ++ a :: between) ∨
    ∃ rest, after = rest ++ [x] ∧ l = before ++ a :: (between ++ b :: rest) := by
  rcases List.eq_nil_or_concat after with rfl | ⟨rest, y, rfl⟩
  · have h' : l ++ [x] = (before ++ a :: between) ++ [b] := by simpa using h
    obtain ⟨rfl, hx⟩ := List.append_inj' h' rfl
    exact .inl ⟨rfl, List.singleton_inj.1 hx, rfl⟩
  · have h' : l ++ [x] = (before ++ a :: (between ++ b :: rest)) ++ [y] := by simpa using h
    obtain ⟨rfl, hx⟩ := List.append_inj' h' rfl
    obtain rfl := List.singleton_inj.1 hx
    exact .inr ⟨rest, by simp, rfl⟩

theorem InOrder.lose (h : InOrder received passages numbered) :
    InOrder received (passages ++ [.lost]) (numbered ++ [.lost]) := by
  refine ⟨?_, ?_, ?_, ?_⟩
  · rw [List.map_append, List.map_append, h.named]
    rfl
  · intro connection
    simpa [List.filterMap_cons] using h.increasing connection
  · simpa [List.filterMap_cons] using h.first_increasing
  · intro before k m between k' after heq
    rcases concat_eq_cut heq with ⟨-, hx, -⟩ | ⟨rest, -, heq⟩
    · cases hx
    · exact h.lost_between _ _ _ _ _ _ heq

/-- **A request may be handed over** if its connection was handed only older ones, if it is
younger than all or was handed over before, and if a connection was lost since. -/
theorem InOrder.hand (h : InOrder received passages numbered) {r : Request}
    (hr : received[n]? = some r)
    (hconnection : ∀ m ∈ numbered.filterMap (Passage.handedTo? connection), m < n)
    (hfirst : n ∈ numbered.filterMap Passage.handed? ∨
      ∀ m ∈ numbered.filterMap Passage.handed?, m < n)
    (hlost : ∀ before k after, numbered = before ++ .handed k n :: after → .lost ∈ after) :
    InOrder received (passages ++ [.handed connection r])
      (numbered ++ [.handed connection n]) := by
  refine ⟨?_, ?_, ?_, ?_⟩
  · rw [List.map_append, List.map_append, h.named]
    simp [hr]
  · intro k
    rw [List.filterMap_append, List.pairwise_append]
    refine ⟨h.increasing k, ?_, ?_⟩
    · by_cases hk : connection = k <;> simp [hk]
    · intro m hm m' hm'
      by_cases hk : connection = k
      · subst hk
        obtain rfl : m' = n := by simpa using hm'
        exact hconnection m hm
      · simp [hk] at hm'
  · rw [List.filterMap_append]
    show (List.eraseDups (_ ++ [n])).Pairwise (· < ·)
    rw [eraseDups_concat]
    split
    · exact h.first_increasing
    · rename_i hnew
      refine List.pairwise_append.2 ⟨h.first_increasing, List.pairwise_singleton _ _, ?_⟩
      intro m hm m' hm'
      obtain rfl := List.mem_singleton.1 hm'
      exact hfirst.resolve_left hnew m (List.mem_eraseDups.1 hm)
  · intro before k m between k' after heq
    rcases concat_eq_cut heq with ⟨-, hx, hcut⟩ | ⟨rest, -, hcut⟩
    · cases hx
      exact hlost _ _ _ hcut
    · exact h.lost_between _ _ _ _ _ _ hcut

/-! ## The passages of a run -/

theorem passagesIn_append (c : Client) (a b : List Event) :
    c.passagesIn (a ++ b) = c.passagesIn a ++ (c.run a).passagesIn b := by
  induction a generalizing c with
  | nil => rfl
  | cons e a ih => simp only [List.cons_append, passagesIn, ih, run_cons, List.append_assoc]

/-- One event, as the loop comes to it. -/
theorem passagesIn_singleton (c : Client) (e : Event) : c.passagesIn [e] =
    (c.hands e).toList.map (fun h => .handed h.1 h.2) ++ if c.breaks e then [.lost] else [] := by
  rw [passagesIn, passagesIn, handedIn_singleton, List.append_nil]

theorem passagesIn_eq_nil (hr : c.reaches e = none) (hb : c.breaks e = false) :
    c.passagesIn [e] = [] := by
  simp [passagesIn_singleton, hands_of_reaches hr, hb]

/-- Whatever a run hands over is among its passages. -/
theorem handed_mem_passagesIn {es : List Event} {r : Request}
    (h : (connection, r) ∈ c.handedIn es) : .handed connection r ∈ c.passagesIn es := by
  induction es generalizing c with
  | nil => simp [handedIn_eq, along] at h
  | cons e es ih =>
    rw [← List.singleton_append, handedIn_append, List.mem_append] at h
    simp only [passagesIn, List.mem_append]
    rcases h with h | h
    · exact .inl (.inl (List.mem_map.2 ⟨_, h, rfl⟩))
    · exact .inr (ih h)

/-! ## What an event does to the outbox -/

/-- The requests of the table, in its order. -/
def inFlight (c : Client) : List Request := c.outbox.awaiting.map (·.2.request)

/-- **The three things that an event can do to the outbox.** -/
inductive Moves (c : Client) (e : Event) (c' : Client) : Prop where
  /-- At most what arrives is queued, and whatever goes is gone for good. -/
  | kept (hr : c.passagesIn [e] = [])
      (hq : c'.outbox.queue.Sublist (c.outbox.queue ++ (c.receives e).toList))
      (ha : c'.inFlight.Sublist c.inFlight)
      (hl : c'.link.connection? = c.link.connection? ∨ c'.link.connection? = none ∨
        c'.link.connection? = some c.connections)
  /-- The head of the queue goes behind all that is in the table. -/
  | handed (connection : Nat) (r : Request) (hr : c.receives e = none)
      (hp : c.passagesIn [e] = [.handed connection r])
      (hq : c.outbox.queue = r :: c'.outbox.queue)
      (ha : c'.inFlight.Sublist (c.inFlight ++ [r])) (hl : c.link.connection? = some connection)
      (hl' : c'.link.connection? = some connection)
  /-- The table goes in front of the queue, and there is no connection any more. -/
  | lost (hr : c.receives e = none) (hp : c.passagesIn [e] = [.lost])
      (hq : c'.outbox.queue = c.inFlight ++ c.outbox.queue) (ha : c'.inFlight = [])
      (hl : c'.link.connection? = none)

theorem Moves.of_same (hp : c.passagesIn [e] = []) (ho : c'.outbox = c.outbox)
    (hl : c'.link.connection? = c.link.connection? ∨ c'.link.connection? = none ∨
      c'.link.connection? = some c.connections) : Moves c e c' := by
  refine .kept hp ?_ ?_ hl
  · rw [ho]
    exact List.sublist_append_left _ _
  · rw [inFlight, ho]
    exact .refl _

/-- A request that is queued is the one that was received. -/
theorem Moves.of_push {r : Request} {rest : List Command} (hb : c.link.isBusy = false)
    (hi : c.inbox = .enqueue r :: rest) (ho : c'.outbox = c.outbox.push r)
    (hl : c'.link.connection? = c.link.connection? ∨ c'.link.connection? = none) :
    Moves c .command c' := by
  have hr : c.receives .command = some r := by simp [receives, takes, hb, hi]
  refine .kept (passagesIn_eq_nil rfl rfl) ?_ ?_ (hl.imp_right .inl)
  · rw [ho, hr]
    exact .refl _
  · rw [inFlight, ho]
    exact .refl _

/-- The end of an open connection moves the table if it was unclean, and the end of an attempt
moves nothing. -/
theorem Ends.moves {clean : Bool} (he : c.Ends e clean) (hs : c.Steady)
    (ho : c'.outbox = if c.backoff.isIdle ∧ !clean then c.outbox.requeue.2 else c.outbox)
    (hl : c'.link.connection? = none) : Moves c e c' := by
  have hhands := hands_of_reaches he.passive.reaches
  by_cases hb : c.breaks e = true
  · have hidle : c.backoff.isIdle = true ∧ (!clean) = true := by
      cases he with
      | refused cookies hl => simp [breaks] at hb
      | closed k clean hl => exact ⟨(hs.up k (by rw [hl]; rfl)).1, by simpa [breaks, hl] using hb⟩
      | broken k r hl => exact ⟨(hs.up k (by rw [hl]; rfl)).1, rfl⟩
    rw [if_pos hidle] at ho
    refine .lost (by cases he <;> rfl) (by simp [passagesIn_singleton, hhands, hb]) ?_ ?_ hl
    · rw [ho, Outbox.requeue, hs.valid.inOrder_eq]
      rfl
    · rw [inFlight, ho]
      rfl
  · simp only [Bool.not_eq_true] at hb
    have hsame : c'.outbox.queue = c.outbox.queue ∧
        c'.outbox.awaiting.Sublist c.outbox.awaiting := by
      rw [ho]
      split
      · rename_i hunclean
        cases he with
        | refused cookies hl =>
          -- An attempt that fails first after an open finds the table empty.
          have hempty := hs.dialling cookies hl hunclean.1
          simp [Outbox.requeue, hs.valid.inOrder_eq, hempty]
        | closed k clean hl => simp [breaks, hl, hunclean.2] at hb
        | broken k r hl => simp [breaks, hl] at hb
      · exact ⟨rfl, .refl _⟩
    refine .kept (passagesIn_eq_nil he.passive.reaches hb) ?_ (hsame.2.map _) (.inr (.inl hl))
    rw [hsame.1]
    exact List.sublist_append_left _ _

/-- **Every event does one of the three.** -/
theorem Transition.moves (h : Transition c e c') (hs : c.Steady) : Moves c e c' := by
  cases h with
  | quiet e jar session handlers held new hnew hr hm =>
    exact .of_same (passagesIn_eq_nil hm.reaches hm.breaks) rfl (.inl rfl)
  | asked e command hc hs hm =>
    exact .of_same (passagesIn_eq_nil hm.reaches hm.breaks) rfl (.inl rfl)
  | queuedOpen r rest connection hl hi hc =>
    exact .of_push (by rw [hl]; rfl) hi rfl (.inl (by rw [hl]; rfl))
  | queuedLater r rest hl hi hc =>
    exact .of_push (by rcases hl with ⟨_, hl⟩ | ⟨_, hl⟩ <;> rw [hl] <;> rfl) hi rfl (.inl rfl)
  | queuedDialled r rest session hl hi hc hcheck =>
    exact .of_push (by rw [hl]; rfl) hi rfl (.inr rfl)
  | queuedRotated | rotated =>
    exact .kept (passagesIn_eq_nil rfl rfl) (List.nil_sublist _) (List.nil_sublist _)
      (.inr (.inl rfl))
  | cleared =>
    exact .kept (passagesIn_eq_nil rfl rfl) (List.nil_sublist _) (List.nil_sublist _) (.inl rfl)
  | halted e rest hb he =>
    have hbreaks : c.breaks e = false := by cases he <;> rfl
    exact .kept (passagesIn_eq_nil he.passive.reaches hbreaks) (List.nil_sublist _)
      (List.nil_sublist _) (.inr (.inl rfl))
  | connected cookies hl => exact .of_same (passagesIn_eq_nil rfl rfl) rfl (.inr (.inr rfl))
  | redialled => exact .of_same (passagesIn_eq_nil rfl rfl) rfl (.inr (.inl rfl))
  | ended e clean he => exact he.moves hs rfl rfl
  | answered b connection seq outcome r outbox hl hj ht =>
    obtain ⟨before, stamp, after, heq, rfl, -⟩ := hs.valid.take?_eq_some ht
    refine .kept (passagesIn_eq_nil rfl rfl) (List.sublist_append_left _ _) ?_ (.inl rfl)
    rw [inFlight, inFlight, heq]
    exact ((List.Sublist.refl before).append (List.sublist_cons_self _ _)).map _
  | drained connection hl hq =>
    have hnone : c.passagesIn [.next] = [] := by
      simp [passagesIn_singleton, hands, reaches, breaks, hl, hq]
    exact .of_same hnone rfl (.inl (by rw [hl]; rfl))
  | skipped connection r rest hl hq hc =>
    have hnone : c.passagesIn [.next] = [] := by
      simp [passagesIn_singleton, hands, reaches, breaks, hl, hq, hc]
    refine .kept hnone ?_ (.refl _) (.inl rfl)
    rw [hq]
    exact (List.sublist_cons_self _ _).trans (List.sublist_append_left _ _)
  | handed connection r rest hl hq hc =>
    have hpassed : c.passagesIn [.next] = [.handed connection r] := by
      simp [passagesIn_singleton, hands, reaches, breaks, hl, hq, hc]
    refine .handed connection r rfl hpassed hq ?_ (by rw [hl]; rfl) rfl
    rw [inFlight, Outbox.markSent, List.map_append]
    exact (List.filter_sublist.map _).append (.refl _)
  | taken connection r hl =>
    exact .of_same (passagesIn_eq_nil rfl rfl) rfl (.inl (by rw [hl]; rfl))
  | _ => exact .of_same (passagesIn_eq_nil rfl rfl) rfl (.inl rfl)

/-! ## What every event keeps -/

/-- **The invariant**: the numbers of the table and of the queue, beside those of what was handed
over. -/
structure Ordered (received : List Request) (passages : List (Passage Request)) (c : Client)
    (table queue : List Nat) (numbered : List (Passage Nat)) : Prop where
  inOrder : InOrder received passages numbered
  table_numbers : Numbers received table c.inFlight
  queue_numbers : Numbers received queue c.outbox.queue
  /-- Whatever is in the table arrived before whatever is in the queue. -/
  increasing : (table ++ queue).Pairwise (· < ·)
  table_handed : ∀ n ∈ table, n ∈ numbered.filterMap Passage.handed?
  /-- What was never handed over is younger than all that was. -/
  youngest : ∀ n ∈ queue, n ∈ numbered.filterMap Passage.handed? ∨
    ∀ m ∈ numbered.filterMap Passage.handed?, m < n
  /-- The connection that is up was handed older requests only. -/
  younger : ∀ connection, c.link.connection? = some connection →
    ∀ m ∈ numbered.filterMap (Passage.handedTo? connection), ∀ n ∈ queue, m < n
  /-- A request that was handed over and is queued again lost a connection since. -/
  lost : ∀ n ∈ queue, ∀ before k after, numbered = before ++ .handed k n :: after →
    .lost ∈ after
  /-- Nothing was handed to a connection of the future. -/
  past : ∀ k n, .handed k n ∈ numbered → k < c.connections

theorem ordered_start (config : Config) (session : Session) (jar : Jar) :
    Ordered [] [] (start config session jar) [] [] [] := by
  refine ⟨inOrder_nil, rfl, rfl, List.Pairwise.nil, ?_, ?_, ?_, ?_, ?_⟩ <;> simp

theorem handedTo_of_connection {k m : Nat}
    (h : m ∈ numbered.filterMap (Passage.handedTo? k)) : .handed k m ∈ numbered := by
  obtain ⟨p, hp, hpm⟩ := List.mem_filterMap.1 h
  cases p with
  | lost => cases hpm
  | handed k' m' =>
    simp only [Passage.handedTo?, Option.ite_none_right_eq_some, Option.some.injEq] at hpm
    obtain ⟨rfl, rfl⟩ := hpm
    exact hp

theorem handed_of_connection {k m : Nat} (h : m ∈ numbered.filterMap (Passage.handedTo? k)) :
    m ∈ numbered.filterMap Passage.handed? :=
  List.mem_filterMap.2 ⟨_, handedTo_of_connection h, rfl⟩

variable {table queue : List Nat}

theorem Ordered.lt_length (h : Ordered received passages c table queue numbered) :
    ∀ n ∈ table ++ queue, n < received.length := by
  intro n hn
  rcases List.mem_append.1 hn with hn | hn
  · exact h.table_numbers.lt_length n hn
  · exact h.queue_numbers.lt_length n hn

/-- A request that arrives is given the next number. -/
theorem Ordered.receive (h : Ordered received passages c table queue numbered)
    (more : Option Request) (hq : c'.outbox.queue.Sublist (c.outbox.queue ++ more.toList))
    (ha : c'.inFlight.Sublist c.inFlight)
    (hl : c'.link.connection? = c.link.connection? ∨ c'.link.connection? = none ∨
      c'.link.connection? = some c.connections) (hc : c.connections ≤ c'.connections) :
    ∃ table' queue', Ordered (received ++ more.toList) passages c' table' queue' numbered := by
  have hlt := h.lt_length
  have hpassed := h.inOrder.lt_length
  -- What is in the queue now was there before, or it has just arrived.
  obtain ⟨new, hnew, hnumbers⟩ : ∃ new : List Nat, (∀ n ∈ new, n = received.length) ∧
      new.Pairwise (· < ·) ∧ Numbers (received ++ more.toList) new more.toList := by
    cases more with
    | none => exact ⟨[], by simp, List.Pairwise.nil, rfl⟩
    | some r => exact ⟨[received.length], by simp, List.pairwise_singleton _ _, by simp [Numbers]⟩
  obtain ⟨table', htable, htable'⟩ := (h.table_numbers.receive more.toList).sublist ha
  obtain ⟨queue', hqueue, hqueue'⟩ :=
    ((h.queue_numbers.receive more.toList).append hnumbers.2).sublist hq
  have hcases : ∀ n ∈ queue', n ∈ queue ∨ n = received.length := fun n hn =>
    (List.mem_append.1 (hqueue.subset hn)).imp_right (hnew n)
  refine ⟨table', queue', h.inOrder.receive _, htable', hqueue', ?_,
    fun n hn => h.table_handed n (htable.subset hn), ?_, ?_, ?_, ?_⟩
  · have hall : (table ++ (queue ++ new)).Pairwise (· < ·) := by
      rw [← List.append_assoc]
      refine List.pairwise_append.2 ⟨h.increasing, hnumbers.1, fun m hm n hn => ?_⟩
      rw [hnew n hn]
      exact hlt m hm
    exact hall.sublist (htable.append hqueue)
  · intro n hn
    rcases hcases n hn with hold | rfl
    · exact h.youngest n hold
    · exact .inr hpassed
  · intro connection hconnection m hm n hn
    rcases hcases n hn with hold | rfl
    · rcases hl with hsame | hnone | hnext
      · exact h.younger connection (hsame ▸ hconnection) m hm n hold
      · rw [hnone] at hconnection
        cases hconnection
      · -- A connection that has just opened was handed nothing.
        rw [hnext] at hconnection
        cases hconnection
        exact absurd (h.past _ _ (handedTo_of_connection hm)) (Nat.lt_irrefl _)
    · exact hpassed m (handed_of_connection hm)
  · intro n hn before k after heq
    rcases hcases n hn with hold | rfl
    · exact h.lost n hold before k after heq
    · have hmem : received.length ∈ numbered.filterMap Passage.handed? :=
        List.mem_filterMap.2 ⟨.handed k _, by simp [heq], rfl⟩
      exact absurd (hpassed _ hmem) (Nat.lt_irrefl _)
  · exact fun k n hmem => Nat.lt_of_lt_of_le (h.past k n hmem) hc

/-- The head of the queue is handed over. -/
theorem Ordered.hand (h : Ordered received passages c table queue numbered) {r : Request}
    (hs : c.Steady) (hq : c.outbox.queue = r :: c'.outbox.queue)
    (ha : c'.inFlight.Sublist (c.inFlight ++ [r])) (hl : c.link.connection? = some connection)
    (hl' : c'.link.connection? = some connection) (hc : c.connections ≤ c'.connections) :
    ∃ table' queue' numbered', Ordered received (passages ++ [.handed connection r]) c'
      table' queue' numbered' := by
  obtain ⟨n, queue', rfl, hn, hqueue'⟩ := (hq ▸ h.queue_numbers).cons
  have hsingle : Numbers received [n] [r] := by simp [Numbers, hn]
  obtain ⟨table', htable, htable'⟩ := (h.table_numbers.append hsingle).sublist ha
  have hincreasing : (table ++ [n] ++ queue').Pairwise (· < ·) := by simpa using h.increasing
  have hhead : ∀ m ∈ queue', n < m := by
    intro m hm
    exact (List.pairwise_append.1 hincreasing).2.2 n (by simp) m hm
  have hinOrder := h.inOrder.hand hn
    (fun m hm => h.younger connection hl m hm n List.mem_cons_self)
    (h.youngest n List.mem_cons_self) (h.lost n List.mem_cons_self)
  refine ⟨table', queue', numbered ++ [.handed connection n], hinOrder, htable', hqueue',
    hincreasing.sublist (htable.append_right queue'), ?_, ?_, ?_, ?_, ?_⟩
  · intro m hm
    rw [List.filterMap_append, List.mem_append]
    rcases List.mem_append.1 (htable.subset hm) with hm | hm
    · exact .inl (h.table_handed m hm)
    · exact .inr (by simpa using hm)
  · intro m hm
    simp only [List.filterMap_append, List.mem_append]
    rcases h.youngest m (List.mem_cons_of_mem _ hm) with hold | hyoungest
    · exact .inl (.inl hold)
    · refine .inr fun k hk => hk.elim (hyoungest k) fun hk => ?_
      obtain rfl : k = n := by simpa using hk
      exact hhead m hm
  · intro k hk m hm m' hm'
    rw [hl'] at hk
    cases hk
    rw [List.filterMap_append, List.mem_append] at hm
    rcases hm with hm | hm
    · exact h.younger _ hl m hm m' (List.mem_cons_of_mem _ hm')
    · obtain rfl : m = n := by simpa using hm
      exact hhead m' hm'
  · intro m hm before k after heq
    rcases List.eq_nil_or_concat after with rfl | ⟨rest, p, rfl⟩
    · -- What was handed over now is not in the queue any more.
      obtain ⟨-, hlast⟩ := List.append_inj' heq rfl
      cases hlast
      exact absurd (hhead _ hm) (Nat.lt_irrefl _)
    · have hcut : numbered ++ [.handed connection n] = (before ++ .handed k m :: rest) ++ [p] := by
        simpa using heq
      obtain ⟨hcut, -⟩ := List.append_inj' hcut rfl
      have := h.lost m (List.mem_cons_of_mem _ hm) before k rest hcut
      simp [this]
  · intro k m hmem
    rcases List.mem_append.1 hmem with hmem | hmem
    · exact Nat.lt_of_lt_of_le (h.past k m hmem) hc
    · cases List.mem_singleton.1 hmem
      exact Nat.lt_of_lt_of_le (hs.up connection hl).2 hc

/-- An open connection is lost, and the table goes back into the queue. -/
theorem Ordered.lose (h : Ordered received passages c table queue numbered)
    (hq : c'.outbox.queue = c.inFlight ++ c.outbox.queue) (ha : c'.inFlight = [])
    (hl : c'.link.connection? = none) (hc : c.connections ≤ c'.connections) :
    Ordered received (passages ++ [.lost]) c' [] (table ++ queue) (numbered ++ [.lost]) := by
  refine ⟨h.inOrder.lose, by simp [Numbers, ha], ?_, by simpa using h.increasing, by simp, ?_, ?_,
    ?_, ?_⟩
  · rw [hq]
    exact h.table_numbers.append h.queue_numbers
  · intro n hn
    simp only [List.filterMap_append, List.filterMap_cons, Passage.handed?, List.filterMap_nil,
      List.append_nil]
    rcases List.mem_append.1 hn with hn | hn
    · exact .inl (h.table_handed n hn)
    · exact h.youngest n hn
  · intro k hk
    rw [hl] at hk
    cases hk
  · intro n hn before k after heq
    rcases List.eq_nil_or_concat after with rfl | ⟨rest, p, rfl⟩
    · obtain ⟨-, hlast⟩ := List.append_inj' heq rfl
      cases hlast
    · have hcut : numbered ++ [.lost] = (before ++ .handed k n :: rest) ++ [p] := by simpa using heq
      obtain ⟨-, hlast⟩ := List.append_inj' hcut rfl
      obtain rfl := List.singleton_inj.1 hlast
      simp
  · intro k m hmem
    refine Nat.lt_of_lt_of_le (h.past k m ?_) hc
    simpa using hmem

/-- **One event keeps the order.** -/
theorem Ordered.step (h : Ordered received passages c table queue numbered) (hs : c.Steady)
    (e : Event) : ∃ table' queue' numbered', Ordered (received ++ (c.receives e).toList)
      (passages ++ c.passagesIn [e]) (c.step e) table' queue' numbered' := by
  have ht := step_transition c e
  have hc := ht.connections_le
  cases ht.moves hs with
  | kept hr hq ha hl =>
    obtain ⟨table', queue', hordered⟩ := h.receive (c.receives e) hq ha hl hc
    exact ⟨table', queue', numbered, by simpa [hr] using hordered⟩
  | handed connection r hr hp hq ha hl hl' =>
    simpa [hr, hp] using h.hand hs hq ha hl hl' hc
  | lost hr hp hq ha hl => exact ⟨[], table ++ queue, numbered ++ [.lost],
      by simpa [hr, hp] using h.lose hq ha hl hc⟩

/-- **Every run keeps the order.** -/
theorem ordered_run (config : Config) (session : Session) (jar : Jar) (events : List Event) :
    ∃ table queue numbered, Ordered ((start config session jar).along receives events)
      ((start config session jar).passagesIn events) ((start config session jar).run events)
      table queue numbered := by
  induction events using List.reverseRecOn with
  | nil => exact ⟨[], [], [], ordered_start config session jar⟩
  | append_singleton events e ih =>
    obtain ⟨table, queue, numbered, hordered⟩ := ih
    have hs := reachable_steady ((reachable_start config session jar).run events)
    rw [along_append, passagesIn_append, run_append]
    simpa [along] using hordered.step hs e

/-- **Requests are transmitted in the order in which they arrive.** After any run, what was handed
over can be numbered as it arrived: increasing on each connection, and the first time on any, and
handed over again only after a connection was lost. These numbers are the only ones, since no two
requests that arrive have the same number of their own, as long as fewer than `2 ^ 64 - 1` are
given. -/
theorem transmitted_in_order (config : Config) (session : Session) (jar : Jar)
    (events : List Event) :
    (∃ numbered, InOrder ((start config session jar).along receives events)
      ((start config session jar).passagesIn events) numbered) ∧
    (((start config session jar).along allocates events).length < 2 ^ 64 - 1 →
      (((start config session jar).along receives events).map (·.seq)).Nodup) := by
  obtain ⟨table, queue, numbered, hordered⟩ := ordered_run config session jar events
  refine ⟨⟨numbered, hordered.inOrder⟩, fun hfew => ?_⟩
  exact (conserved_start config session jar).receives_nodup (by omega)

end Courier.Client
