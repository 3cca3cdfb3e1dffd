import Courier.Proofs.Alone
import Courier.Proofs.Order
import Courier.Proofs.Outcomes

/-!
# What becomes of a request does not depend on connections

The outcome of a request that the server answers is decided by the request and the server's answer
to its frame, whichever connection brings the answer and however often it comes.

* `fate`: the outcome that the server's answer has for a request.
* `settled_fate`: **a request that is settled meets its fate**, or it failed before it was posted.
* `outcome_unique`: so two runs of the same application never settle it differently.
-/

namespace Courier.Client

variable {c c' : Client} {e : Event} {es fs : List Event} {server : Server} {config : Config}
  {session : Session} {jar : Jar} {a : Client}

/-- The outcome that the server's answer has for a request. -/
def fate (server : Server) (version : UInt32) (r : Request) : Option Outcome :=
  (server r.frame).bind fun b => match Inbound.judge version b with
    | .settle _ outcome => some (outcome r.response)
    | _ => none

/-! ## Requests that the loop has received -/

theorem Numbers.subset {received rs : List Request} {ns : List Nat}
    (h : Numbers received ns rs) : ∀ r ∈ rs, r ∈ received := by
  intro r hr
  have hmem : some r ∈ ns.map (received[·]?) := h ▸ List.mem_map.2 ⟨r, hr, rfl⟩
  obtain ⟨n, -, hn⟩ := List.mem_map.1 hmem
  exact List.mem_of_getElem? hn

theorem InOrder.subset {received : List Request} {passages : List (Passage Request)}
    {numbered : List (Passage Nat)} (h : InOrder received passages numbered) {connection : Nat}
    {r : Request} (hr : .handed connection r ∈ passages) : r ∈ received := by
  have hmem : .handed connection (some r) ∈ numbered.map (Passage.map (received[·]?)) :=
    h.named ▸ List.mem_map.2 ⟨_, hr, rfl⟩
  obtain ⟨p, -, hp⟩ := List.mem_map.1 hmem
  cases p with
  | lost => cases hp
  | handed k n =>
    simp only [Passage.map, Passage.handed.injEq] at hp
    exact List.mem_of_getElem? hp.2

/-- What awaits an answer was received. -/
theorem received_of_inFlight {r : Request} (hr : r ∈ ((start config session jar).run es).inFlight) :
    r ∈ (start config session jar).along receives es := by
  obtain ⟨table, queue, numbered, hordered⟩ := ordered_run config session jar es
  exact hordered.table_numbers.subset r hr

/-- What was handed over was received. -/
theorem received_of_handed {r : Request}
    (hr : r ∈ ((start config session jar).run es).handOvers.map (·.2)) :
    r ∈ (start config session jar).along receives es := by
  obtain ⟨table, queue, numbered, hordered⟩ := ordered_run config session jar es
  obtain ⟨⟨connection, r⟩, hmem, rfl⟩ := List.mem_map.1 hr
  have hstart : (start config session jar).handOvers = [] := rfl
  rw [run_handOvers, hstart, List.nil_append] at hmem
  exact hordered.inOrder.subset (handed_mem_passagesIn hmem)

/-! ## What settles a request -/

/-- **In an undisturbed run the loop settles a request only when it takes in a frame.** -/
theorem Transition.outcomes_cases (h : Transition c e c') (he : e.isApplication = false)
    (hc : c'.Calm) (hclear : c.takes e ≠ some .clear) :
    c'.outcomes = c.outcomes ∨ ∃ b connection n outcome r outbox,
      e = .received b ∧ c.link = .opened connection ∧
      Inbound.judge c.config.version b = .settle n outcome ∧
      c.outbox.take? n = some (r, outbox) ∧
      c' = { c with
        outbox := outbox
        history := .settled r.seq (outcome r.response) :: .received b :: c.history } := by
  have hrotated := hc.unrotated
  unfold outcomes
  cases h with
  | quiet e jar session handlers held new hnew hr hm hk => simp [outcome?_quiet hnew]
  | numbered | reading | posted | forsaken | cancelled | readPosted | readFailed => cases he
  | queuedRotated r rest session hl hi hcancelled hs | rotated secs session hl hs =>
    simp [Session.rotated_of_check hs] at hrotated
  | cleared rest hb hi => simp [takes, hb, hi] at hclear
  | halted e rest hb hhalts =>
    have := hc.running
    simp at this
  | answered b connection n outcome r outbox hl hj ht =>
    exact .inr ⟨b, connection, n, outcome, r, outbox, rfl, hl, hj, ht, rfl⟩
  | _ => simp [List.filterMap_cons]

/-! ## Runs -/

theorem Undisturbed.of_append (h : Undisturbed c (es ++ fs)) : Undisturbed c es where
  calm := calm_of_run fs (run_append c es fs ▸ h.calm)
  uncleared := by
    have := h.uncleared
    rw [along_append] at this
    exact fun hmem => this (List.mem_append_left _ hmem)

theorem Serves.of_append (h : Serves server c (es ++ fs)) : Serves server c es where
  addresses r hr := h.addresses r (along_append c es fs ▸ List.mem_append_left _ hr)
  answers p hp := h.answers p (along_append c es fs ▸ List.mem_append_left _ hp)

/-- The numbers of what was posted are those of what was posted later, too. -/
theorem posted_concat (hc : ((start config session jar).run (es ++ [e])).Calm) :
    requestsOf (alone config es).inbox <+: requestsOf (alone config (es ++ [e])).inbox := by
  rw [run_append, run_cons, run_nil] at hc
  rw [alone_concat]
  cases he : e.isApplication with
  | true =>
    have hd := draws_run config session jar es ((step_transition _ e).calm hc)
    obtain ⟨commands, -, hia⟩ := (hd.together he hc).inbox
    have hinbox : ((alone config es).apply e).inbox = (alone config es).inbox ++ commands := hia
    rw [if_pos rfl, hinbox, requestsOf_append]
    exact List.prefix_append _ _
  | false => exact List.prefix_rfl

/-- A request with this number fails before it is posted, or it is posted and this is its fate. -/
def Meets (server : Server) (version : UInt32) (a : Client) (n : ReqSeq) (o : Outcome) : Prop :=
  (n, o) ∈ a.outcomes ∨ ∃ r ∈ requestsOf a.inbox, r.seq = n ∧ fate server version r = some o

/-- **A frame that addresses an awaiting request answers that request**: what it answers has the
same number, and there is only one. -/
theorem answer_of_inFlight {b : Octets}
    (hs : Serves server (start config session jar) (es ++ [.received b]))
    (hnodup : (((start config session jar).along receives es).map (·.seq)).Nodup)
    {connection : Nat} (hl : ((start config session jar).run es).link = .opened connection)
    {r : Request} (hr : r ∈ ((start config session jar).run es).inFlight)
    (ha : Addresses b r.seq) : server r.frame = some b := by
  have hheard : (b, ((start config session jar).run es).handOvers.map (·.2)) ∈
      (start config session jar).along hears (es ++ [.received b]) :=
    mem_along.2 ⟨es, .received b, [], rfl, by simp [hears, hl]⟩
  rcases hs.answers _ hheard with ⟨q, hq, hanswer⟩ | hnone
  · have hreceived := received_of_handed hq
    have hmore : q ∈ (start config session jar).along receives (es ++ [.received b]) := by
      rw [along_append]
      exact List.mem_append_left _ hreceived
    have hseq : r.seq = q.seq := (hs.addresses q hmore b hanswer).unique ha
    have heq := List.inj_on_of_nodup_map hnodup (received_of_inFlight hr) hreceived hseq
    exact heq ▸ hanswer
  · exact absurd ha (hnone r.seq)

/-- What the application does later changes no fate, and what it fails has failed. -/
theorem Draws.meets {received : List Request} {version : UInt32} (hd : Draws received c a)
    (he : e.isApplication = true) (hc : (c.step e).Calm)
    (h : ∀ n o, (n, o) ∈ c.outcomes → Meets server version a n o) :
    ∀ n o, (n, o) ∈ (c.step e).outcomes → Meets server version (a.apply e) n o := by
  obtain ⟨-, ⟨commands, -, hia⟩, ⟨new, hoc, hoa⟩, -⟩ := hd.together he hc
  have hinbox : (a.apply e).inbox = a.inbox ++ commands := hia
  have houtcomes : (a.apply e).outcomes = new ++ a.outcomes := hoa
  intro n o hmem
  rw [Meets, hinbox, houtcomes, requestsOf_append, List.mem_append]
  rw [hoc, List.mem_append] at hmem
  rcases hmem with hnew | hold
  · exact .inl (.inl hnew)
  · rcases h n o hold with hfailed | ⟨r, hr, hfate⟩
    · exact .inl (.inr hfailed)
    · exact .inr ⟨r, List.mem_append_left _ hr, hfate⟩

/-- What the loop settles next meets its fate. -/
theorem settled_by_loop (hu : Undisturbed (start config session jar) (es ++ [e]))
    (hs : Serves server (start config session jar) (es ++ [e])) (he : e.isApplication = false)
    (hnodup : ((requestsOf (alone config es).inbox).map (·.seq)).Nodup) {n : ReqSeq} {o : Outcome}
    (h : (n, o) ∈ (((start config session jar).run es).step e).outcomes) :
    (n, o) ∈ ((start config session jar).run es).outcomes ∨
      Meets server config.version (alone config es) n o := by
  have hd := draws_run config session jar es hu.of_append.calm
  have hcalm := hu.calm
  rw [run_append, run_cons, run_nil] at hcalm
  have hclear : ((start config session jar).run es).takes e ≠ some .clear := fun hclear =>
    hu.uncleared (mem_along.2 ⟨es, e, [], rfl, hclear⟩)
  rcases (step_transition _ e).outcomes_cases he hcalm hclear with
    hsame | ⟨b, connection, m, outcome, r, outbox, rfl, hl, hj, ht, heq⟩
  · exact .inl (hsame ▸ h)
  · rw [heq] at h
    rcases List.mem_cons.1 h with hnew | hold
    · have hv := reachable_valid ((reachable_start config session jar).run es)
      obtain ⟨before, stamp, after, htable, -, rfl⟩ := hv.take?_eq_some ht
      have hr : r ∈ ((start config session jar).run es).inFlight := by simp [inFlight, htable]
      have hposted : (start config session jar).along receives es <+:
          requestsOf (alone config es).inbox := hd.inbox_eq ▸ List.prefix_append _ _
      have hanswer := answer_of_inFlight hs (hnodup.sublist (hposted.sublist.map _)) hl hr
        (judge_settle hj).1
      have hconfig : ((start config session jar).run es).config = config := run_config _ es
      rw [hconfig] at hj
      cases hnew
      refine .inr (.inr ⟨r, hposted.subset (received_of_inFlight hr), rfl, ?_⟩)
      rw [fate, hanswer, Option.bind_some, hj]
    · exact .inl hold

/-- **A request that is settled meets its fate.** -/
theorem settled_fate (hu : Undisturbed (start config session jar) es)
    (hs : Serves server (start config session jar) es)
    (hnodup : ((requestsOf (alone config es).inbox).map (·.seq)).Nodup) :
    ∀ n o, (n, o) ∈ ((start config session jar).run es).outcomes →
      Meets server config.version (alone config es) n o := by
  induction es using List.reverseRecOn with
  | nil => simp [outcomes, start]
  | append_singleton es e ih =>
    have hnodup' := hnodup.sublist ((posted_concat hu.calm).sublist.map _)
    have hih := ih hu.of_append hs.of_append hnodup'
    rw [run_append, run_cons, run_nil, alone_concat]
    cases he : e.isApplication with
    | true =>
      have hcalm := hu.calm
      rw [run_append, run_cons, run_nil] at hcalm
      rw [if_pos rfl]
      exact (draws_run config session jar es hu.of_append.calm).meets he hcalm hih
    | false =>
      rw [if_neg Bool.false_ne_true]
      intro n o hmem
      rcases settled_by_loop hu hs he hnodup' hmem with hold | hmeets
      · exact hih n o hold
      · exact hmeets

/-- A number has one fate. -/
theorem Meets.unique {issued : List ReqSeq} {given : Nat} (ha : Conserved issued given a)
    {version : UInt32} {n : ReqSeq} {o o' : Outcome} (h : Meets server version a n o)
    (h' : Meets server version a n o') : o' = o := by
  have hsettled : ∀ {o}, (n, o) ∈ a.outcomes → n ∈ a.numbersAt .settled := fun ho =>
    map_fst_outcomes a ▸ List.mem_map.2 ⟨_, ho, rfl⟩
  have hposted : ∀ {r}, r ∈ requestsOf a.inbox → r.seq = n → n ∈ a.numbersAt .posted :=
    fun hr hseq => List.mem_map.2 ⟨_, hr, hseq⟩
  rcases h with ho | ⟨r, hr, hseq, hfate⟩ <;> rcases h' with ho' | ⟨r', hr', hseq', hfate'⟩
  · have hnodup : (a.outcomes.map (·.1)).Nodup := map_fst_outcomes a ▸ ha.nodup_at .settled
    exact (Prod.ext_iff.1 (List.inj_on_of_nodup_map hnodup ho' ho rfl)).2
  · cases ha.not_two_places (hsettled ho) (hposted hr' hseq')
  · cases ha.not_two_places (hsettled ho') (hposted hr hseq)
  · obtain rfl := List.inj_on_of_nodup_map (ha.nodup_at .posted) hr hr' (hseq.trans hseq'.symm)
    rw [hfate] at hfate'
    exact (Option.some.inj hfate').symm

/-- **Two runs of the same application settle a request alike**, if both do. -/
theorem outcome_unique (hu : Undisturbed (start config session jar) es)
    (hs : Serves server (start config session jar) es)
    (hfew : ((start config session jar).along allocates es).length < 2 ^ 64)
    (hu' : Undisturbed (start config session jar) fs)
    (hs' : Serves server (start config session jar) fs)
    (hsame : fs.filter Event.isApplication = es.filter Event.isApplication) {n : ReqSeq}
    {o o' : Outcome} (ho : (n, o) ∈ ((start config session jar).run es).outcomes)
    (ho' : (n, o') ∈ ((start config session jar).run fs).outcomes) : o' = o := by
  obtain ⟨issued, hconserved⟩ := conserved_alone config session jar es hu.calm hfew
  have halone : alone config fs = alone config es := by rw [alone, hsame, alone]
  have hmeets := settled_fate hu hs (hconserved.nodup_at .posted) n o ho
  have hmeets' := settled_fate hu' hs' (halone ▸ hconserved.nodup_at .posted) n o' ho'
  rw [halone] at hmeets'
  exact hmeets.unique hconserved hmeets'

end Courier.Client
