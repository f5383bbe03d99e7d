/-
The resync barrier protocol: no event from before a gap is published after
the gap's barrier, and no event is lost without a barrier.

Every entry of the trace is explained by those before it (`Justifies`): a
load reads the number of claims so far, and an event is published only if it
loaded the present number. An event that is dropped loaded a smaller one, so a
gap was claimed since, and its barrier is out (`Covered`).
-/
import Xenoteer.Daemon.ExternalEventsFacts
import Xenoteer.Lib.Run
import Xenoteer.Lib.Trace

namespace Xenoteer.ExternalEvents

open Lib.Run Lib.Trace

variable {C : Type} {s s' : System C} {t outs : List (Output C)} {c : C}

/-! ## Justified traces -/

/-- What the trace so far says of the next entry. -/
def Justifies (t : List (Output C)) : Output C → Prop
  | .loaded c admissionEpoch =>
    .started c ∈ t ∧ (∀ e, .loaded c e ∉ t) ∧ admissionEpoch / 2 = claims t
  | .claimed epoch => epoch = 2 * (claims t + 1)
  | .barrier epoch => epoch = 2 * claims t ∧ barriers t < claims t
  | .event c => .loaded c (2 * claims t) ∈ t
  | .started _ | .returned _ _ => True

/-- No barrier comes before its claim. -/
theorem barriers_le_claims (h : Justified Justifies t) : barriers t ≤ claims t := by
  refine h.induction (P := fun t => barriers t ≤ claims t) (Nat.le_refl _) ?_
  intro t o ho ih
  cases o with
  | barrier e =>
    have hlt : barriers t < claims t := ho.2
    simp [Output.isBarrier, Output.isClaim]
    omega
  | _ => simpa [Output.isBarrier, Output.isClaim] using by omega

/-- Each epoch up to the present one was claimed. -/
theorem claimed_mem (h : Justified Justifies t) : ∀ n, 0 < n → n ≤ claims t → .claimed (2 * n) ∈ t := by
  refine h.induction (P := fun t => ∀ n, 0 < n → n ≤ claims t → .claimed (2 * n) ∈ t) (by simp; omega) ?_
  intro t o ho ih n hn hle
  by_cases hl : n ≤ claims t
  · exact List.mem_append_left _ (ih n hn hl)
  cases o with
  | claimed e =>
    have he : e = 2 * (claims t + 1) := ho
    simp [Output.isClaim] at hle
    have hn : n = claims t + 1 := by omega
    simp [hn, he]
  | _ => simp [Output.isClaim] at hle; omega

/-- Where a call loaded its epoch, once and after its start. -/
theorem exists_load (h : Justified Justifies t) {e} (hm : .loaded c e ∈ t) :
    ∃ u v, t = u ++ .loaded c e :: v ∧ .started c ∈ u ∧ (∀ e', .loaded c e' ∉ u) ∧ e / 2 = claims u := by
  obtain ⟨u, v, huv⟩ := List.append_of_mem hm
  exact ⟨u, v, huv, h u _ v huv⟩

/-- An event published after a claim loaded its epoch after that claim. -/
theorem loaded_after_claim {t₁ t₂ k}
    (h : Justified Justifies (t₁ ++ .claimed k :: t₂)) (hev : Justifies (t₁ ++ .claimed k :: t₂) (.event c)) :
    (∀ e, .loaded c e ∉ t₁) ∧ ∃ e, .loaded c e ∈ t₂ := by
  obtain ⟨e, he, hm⟩ : ∃ e, e = 2 * claims (t₁ ++ .claimed k :: t₂) ∧
    .loaded c e ∈ t₁ ++ .claimed k :: t₂ :=
    ⟨_, rfl, hev⟩
  obtain ⟨u, v, huv, -, ho, hco⟩ := exists_load h hm
  -- The load read the number of claims of the whole trace, which t₁ falls short of.
  have hc : claims u = claims (t₁ ++ .claimed k :: t₂) := by omega
  simp only [claims_append, claims_cons, Output.isClaim, if_true] at hc
  obtain ⟨w, rfl, hw⟩ | ⟨w, rfl, hw⟩ := List.append_eq_append_iff.mp huv
  · cases w with
    | nil => simp at hw
    | cons o w =>
      obtain ⟨rfl, rfl⟩ := List.cons.inj hw
      exact ⟨fun e' he' => ho e' (List.mem_append_left _ he'), e, by simp⟩
  · simp only [claims_append] at hc
    omega

/-! ## Stamps -/

/-- What the trace says of a call at a point. -/
def Reached (t : List (Output C)) (c : C) : CallPoint → Prop
  | .idle => ∀ e, .loaded c e ∉ t
  | .loading => .started c ∈ t ∧ ∀ e, .loaded c e ∉ t
  | .sending admissionEpoch =>
    .started c ∈ t ∧ .loaded c admissionEpoch ∈ t ∧ latched admissionEpoch = false
  | point => point.started = true → .started c ∈ t

theorem Reached.started {p} (h : Reached t c p) (hp : p.started = true) : .started c ∈ t := by
  cases p with
  | loading | sending => exact h.1
  | idle => cases hp
  | _ => exact h hp

theorem Reached.of_quiet {p st} (hq : p.Quiet st)
    (h : p.started = true → .started c ∈ t) : Reached t c p := by
  cases p with
  | idle | loading | sending => exact hq.elim
  | _ => exact h

theorem Reached.append {p} (h : Reached t c p) (hf : ∀ e, .loaded c e ∉ outs) : Reached (t ++ outs) c p := by
  cases p with
  | idle => exact fun e => by simpa [hf e] using h e
  | loading => exact ⟨List.mem_append_left _ h.1, fun e => by simpa [hf e] using h.2 e⟩
  | sending => exact ⟨List.mem_append_left _ h.1, List.mem_append_left _ h.2.1, h.2.2⟩
  | _ => exact fun hp => List.mem_append_left _ (h hp)

/-- The queued events and the one the relay holds. -/
def InTransit (s : System C) (queued : EpochRuntimeEvent C) : Prop :=
  queued ∈ s.queue ∨ s.relay.held = some queued

/-- The trace is justified, and what the calls and the queue hold is what the
trace says they loaded. -/
structure Stamps (s : System C) (t : List (Output C)) : Prop where
  justified : Justified Justifies t
  call : ∀ c, Reached t c (s.calls c)
  entry : ∀ queued, InTransit s queued →
    .loaded queued.event queued.admissionEpoch ∈ t ∧ latched queued.admissionEpoch = false

section StampsStep

variable [DecidableEq C]

section

variable (h : Transition s outs s')
include h

/-- What is in transit after a step was before it, or is what `try_send` just
queued. -/
theorem InTransit.of_transition {q} (hq : InTransit s' q) :
    InTransit s q ∨ s.calls q.event = .sending q.admissionEpoch := by
  cases h with
  | environment | quiet | start | load | refuse | full | latch => exact .inl hq
  | enqueue hc =>
    rcases hq with hq | hq
    · rcases List.mem_append.mp hq with hq | hq
      · exact .inl (.inl hq)
      · rw [List.mem_singleton.mp hq]
        exact .inr hc
    · exact .inl (.inr hq)
  | ready | publish | drop | muteEvent => exact .inl (hq.imp_right (by rintro ⟨⟩))
  | exit => rcases hq with hq | hq <;> cases hq
  | @observe held hr =>
    have hh : s.relay.held = held := by rcases hr with hr | ⟨_, hr⟩ <;> rw [hr] <;> rfl
    exact .inl (hq.imp_right (by simp [hh]))
  | @claim held hr | @barrier held _ hr | @muteBarrier held _ hr =>
    have hh : s.relay.held = held := by rw [hr]; rfl
    exact .inl (hq.imp_right (by rw [hh]; first | exact id | simp))
  | receive hr hqu =>
    refine .inl (.inl ?_)
    rw [hqu]
    rcases hq with hq | hq
    · exact List.mem_cons_of_mem _ hq
    · simp only [RelayPoint.held, Option.some.injEq] at hq
      exact hq ▸ List.mem_cons_self

/-- Each output is justified by the trace at its step. -/
theorem Stamps.justifies (he : Epochs s t) (hs : Stamps s t)
    (hcl : claims (t ++ outs) < 2 ^ 63) : ∀ o ∈ outs, Justifies t o := by
  cases h with
  | @load c hc =>
    have hre := hs.call c
    rw [hc] at hre
    simpa [Justifies] using ⟨hre.1, hre.2, he.state⟩
  | claim hr hod =>
    have hst := he.state
    simp [Output.isClaim] at hcl
    have hsu := wrappingSucc_of_odd hod (by omega)
    simpa [Justifies, ← hst] using hsu
  | barrier hr ho =>
    have hb := he.barriers ⟨ho, by simp [System.isClosed, hr]⟩
    simp only [hr, RelayPoint.owes, if_true] at hb
    simp only [List.mem_singleton, forall_eq, Justifies]
    exact ⟨he.published hr, by omega⟩
  | publish hr hep ho =>
    obtain ⟨hl, -⟩ := hs.entry _ (.inr (by rw [hr]; rfl))
    obtain ⟨-, hco, hrl⟩ := settled_spec (by rw [hr]; rfl)
    simpa [Justifies, ← he.relay hco, hrl, ← hep] using hl
  | start | refuse | full | enqueue => simp [Justifies]
  | _ => simp

theorem Transition.outs_cases : outs = [] ∨ ∃ o, outs = [o] := by
  cases h <;> simp

theorem Stamps.calls (hs : Stamps s t) : ∀ c, Reached (t ++ outs) c (s'.calls c) := by
  have hm : (∀ c e, .loaded c e ∉ outs) → ∀ c, Reached (t ++ outs) c (s.calls c) :=
    fun hf c => (hs.call c).append (hf c)
  cases h with
  | @quiet c p _ hpo hst =>
    refine forall_goto (fun c' _ => hm (by simp) c') (.of_quiet hpo fun hp => ?_)
    exact List.mem_append_left _ ((hs.call c).started (hst hp))
  | @start c hc =>
    have hr := hs.call c
    rw [hc] at hr
    exact forall_goto (fun c' _ => hm (by simp) c') ⟨by simp, by simpa [Reached] using hr⟩
  | @load c hc =>
    have hr := hs.call c
    rw [hc] at hr
    refine forall_goto (fun c' hne => (hs.call c').append (by simp [hne])) ?_
    split
    case isTrue => exact fun _ => List.mem_append_left _ hr.1
    case isFalse he => exact ⟨List.mem_append_left _ hr.1, by simp, by simpa using he⟩
  | refuse | full | enqueue => exact forall_goto (fun c' _ => hm (by simp) c') nofun
  | @latch c cl hc =>
    have hr := hs.call c
    rw [hc] at hr
    refine forall_goto (fun c' _ => hm (by simp) c') (fun hp => ?_)
    exact List.mem_append_left _ (hr hp)
  | _ => exact hm (by simp)

theorem Stamps.transition (he : Epochs s t) (hs : Stamps s t)
    (hcl : claims (t ++ outs) < 2 ^ 63) : Stamps s' (t ++ outs) := by
  have hj := hs.justifies h he hcl
  refine ⟨?_, hs.calls h, fun q hq => ?_⟩
  · obtain rfl | ⟨o, rfl⟩ := h.outs_cases
    · simpa using hs.justified
    · exact hs.justified.append_singleton (hj o List.mem_cons_self)
  · rcases InTransit.of_transition h hq with hq | hc
    · exact (hs.entry q hq).imp_left (List.mem_append_left _)
    · have hr := hs.call q.event
      rw [hc] at hr
      exact ⟨List.mem_append_left _ hr.2.1, hr.2.2⟩

end

end StampsStep

/-! ## No event is lost without a barrier -/

/-- A barrier since the start of the call is published, latched or owed. -/
structure Signalled (s : System C) (t : List (Output C)) (c : C) : Prop where
  started : .started c ∈ t
  barrier : (∃ k, Since (.started c) (.barrier k) t) ∨ latched s.resyncState = true ∨ s.relay.owes = true

/-- What became of the event of a call. -/
inductive Covered (s : System C) (t : List (Output C)) (c : C) : Prop
  | published (h : .event c ∈ t)
  | inTransit {queued} (h : InTransit s queued) (hc : queued.event = c)
  | signalled (h : Signalled s t c)

/-- Every call that returned `Ok` or `Full` is covered, and so is every call
about to return `Full`. -/
structure Kept (s : System C) (t : List (Output C)) : Prop where
  gap : Open s → ∀ c, s.calls c = .gap ∨ s.calls c = .notifying .trySend → Signalled s t c
  returned : Open s → ∀ c result, .returned c result ∈ t → result ≠ .closed → Covered s t c

/-- An event whose epoch is not the relay's was admitted before a gap whose
barrier is out. -/
theorem Stamps.signalled_of_stale (he : Epochs s t) (hs : Stamps s t) (ho : Open s) {q}
    (hr : s.relay = .deciding q) (hsa : q.admissionEpoch ≠ s.publishedEpoch) : Signalled s t q.event := by
  obtain ⟨hl, hev⟩ := hs.entry q (.inr (by rw [hr]; rfl))
  obtain ⟨how, hc, hre⟩ := settled_spec (by rw [hr]; rfl)
  have hep := he.relay hc
  have hb := he.barriers ho
  obtain ⟨u, v, rfl, hst, -, hco⟩ := exists_load hs.justified hl
  have hle : barriers u ≤ claims u := barriers_le_claims hs.justified.of_append
  simp only [latched, decide_eq_false_iff_not] at hev
  simp only [how, barriers_append, claims_append, barriers_cons, claims_cons, Output.isBarrier,
    Output.isClaim]
    at hep hb
  -- The claims after the load are matched by barriers after the load.
  obtain ⟨k, hk⟩ : ∃ k, .barrier k ∈ v := exists_barrier (by simp at hep hb; omega)
  exact ⟨List.mem_append_left _ hst, .inl ⟨k, since_append hst (List.mem_cons_of_mem _ hk)⟩⟩

section KeptStep

variable [DecidableEq C]

section

variable (h : Transition s outs s')
include h

theorem Signalled.transition (hop : Open s') (hs : Signalled s t c) : Signalled s' (t ++ outs) c := by
  refine ⟨List.mem_append_left _ hs.started, ?_⟩
  rcases hs.barrier with ⟨k, hk⟩ | hod | ho
  · exact .inl ⟨k, hk.append outs⟩
  · cases h with
    | latch hc he => simp [he] at hod
    | claim => exact .inr (.inr rfl)
    | _ => exact .inr (.inl hod)
  · cases h with
    | environment | quiet | start | load | refuse | full | enqueue | latch => exact .inr (.inr ho)
    | barrier hr => exact .inl ⟨_, since_append hs.started List.mem_cons_self⟩
    | muteBarrier hr hcl => exact absurd hop.coordinator (by simp [hcl])
    | ready hr => rcases hr with hr | hr <;> simp [hr, RelayPoint.owes] at ho
    | observe hr => rcases hr with hr | ⟨_, hr⟩ <;> simp [hr, RelayPoint.owes] at ho
    | claim hr | receive hr | publish hr | drop hr | muteEvent hr => simp [hr, RelayPoint.owes] at ho
    | exit => cases hop.relay

/-- An event in transit stays there, is published, or is dropped after a
barrier. -/
theorem InTransit.transition (he : Epochs s t) (hs : Stamps s t) (ho : Open s')
    {q} (hq : InTransit s q) : Covered s' (t ++ outs) q.event := by
  have hb := Open.of_transition h ho
  cases h with
  | environment | quiet | start | load | refuse | full | latch => exact .inTransit hq rfl
  | enqueue => exact .inTransit (hq.imp_left (List.mem_append_left _)) rfl
  | ready hr =>
    refine .inTransit (hq.imp_right fun hq => ?_) rfl
    rcases hr with hr | hr <;> simp [hr, RelayPoint.held] at hq
  | @observe held hr =>
    have hh : s.relay.held = held := by rcases hr with hr | ⟨_, hr⟩ <;> rw [hr] <;> rfl
    exact .inTransit (hq.imp_right (by simp [hh])) rfl
  | @claim held hr | @barrier held _ hr | @muteBarrier held _ hr =>
    have hh : s.relay.held = held := by rw [hr]; rfl
    exact .inTransit (hq.imp_right (by rw [hh]; first | exact id | simp)) rfl
  | receive hr hqu =>
    rcases hq with hq | hq
    · rw [hqu] at hq
      rcases List.mem_cons.mp hq with rfl | hq
      · exact .inTransit (.inr rfl) rfl
      · exact .inTransit (.inl hq) rfl
    · simp [hr, RelayPoint.held] at hq
  | publish hr =>
    rcases hq with hq | hq
    · exact .inTransit (.inl hq) rfl
    · simp only [hr, RelayPoint.held, Option.some.injEq] at hq
      exact .published (by simp [hq])
  | drop hr hep =>
    rcases hq with hq | hq
    · exact .inTransit (.inl hq) rfl
    · simp only [hr, RelayPoint.held, Option.some.injEq] at hq
      subst hq
      exact .signalled ((hs.signalled_of_stale he hb hr hep).transition (.drop hr hep) ho)
  | muteEvent hr hc => exact absurd ho.coordinator (by simp [hc])
  | exit => cases ho.relay

theorem Covered.transition (he : Epochs s t) (hs : Stamps s t) (ho : Open s')
    (hc : Covered s t c) : Covered s' (t ++ outs) c := by
  cases hc with
  | published hev => exact .published (List.mem_append_left _ hev)
  | inTransit hq hc => exact hc ▸ hq.transition h he hs ho
  | signalled hsi => exact .signalled (hsi.transition h ho)

/-- The calls about to return `Full`. -/
theorem Kept.gaps (he : Epochs s t) (hs : Stamps s t) (hk : Kept s t)
    (hcl : claims (t ++ outs) < 2 ^ 63) (hop : Open s') :
    ∀ c, s'.calls c = .gap ∨ s'.calls c = .notifying .trySend → Signalled s' (t ++ outs) c := by
  have hm : ∀ c, s.calls c = .gap ∨ s.calls c = .notifying .trySend → Signalled s' (t ++ outs) c :=
    fun c hc => (hk.gap (.of_transition h hop) c hc).transition h hop
  have hst := he.state
  cases h with
  | @quiet c pn _ hp =>
    refine forall_goto (P := fun c p => p = .gap ∨ p = .notifying .trySend → _) (fun c' _ => hm c') ?_
    rintro (rfl | rfl)
    · exact hp.elim
    · exact hp.elim
  | @load c hc =>
    refine forall_goto (P := fun c p => p = .gap ∨ p = .notifying .trySend → _) (fun c' _ => hm c') ?_
    intro hg
    have ho : latched s.resyncState = true := by
      by_contra hev
      simp [hev] at hg
    exact ⟨List.mem_append_left _ ((hs.call c).started (by rw [hc]; rfl)), .inr (.inl ho)⟩
  | @latch c cl hc hev =>
    refine forall_goto (P := fun c p => p = .gap ∨ p = .notifying .trySend → _) (fun c' _ => hm c') ?_
    intro hg
    simp only [claims_append] at hcl
    obtain ⟨ho, -⟩ := wrappingSucc_of_even hev (by omega)
    have hca : cl = .trySend := by simpa using hg
    exact ⟨List.mem_append_left _ ((hs.call c).started (by simp [hc, hca, CallPoint.started])),
      .inr (.inl ho)⟩
  | start | refuse | full | enqueue =>
    exact forall_goto (P := fun c p => p = .gap ∨ p = .notifying .trySend → _)
      (fun c' _ => hm c') (by simp)
  | _ => exact hm

theorem Kept.transition (he : Epochs s t) (hs : Stamps s t) (hk : Kept s t)
    (hcl : claims (t ++ outs) < 2 ^ 63) : Kept s' (t ++ outs) := by
  refine ⟨hk.gaps h he hs hcl, fun ho c r hm hr => ?_⟩
  have hb := Open.of_transition h ho
  rcases List.mem_append.mp hm with hm | hm
  · exact (hk.returned hb c r hm hr).transition h he hs ho
  cases h with
  | refuse => simp_all
  | @full c' p hst hg =>
    obtain ⟨rfl, rfl⟩ : c = c' ∧ r = .full := by simpa using hm
    have hsi : Signalled s t c := by
      rcases hg with hg | hg | hod
      · exact hk.gap hb c (.inl hg)
      · exact hk.gap hb c (.inr hg)
      · exact ⟨(hs.call c).started hst, .inr (.inl hod)⟩
    exact .signalled (hsi.transition (.full p hst hg) ho)
  | @enqueue c' ae hc =>
    obtain ⟨rfl, rfl⟩ : c = c' ∧ r = .ok := by simpa using hm
    have hq : InTransit ((s.enqueue ⟨ae, c⟩).goto c (.returned (some .ok)))
      ⟨ae, c⟩ :=
      .inl (List.mem_append_right _ List.mem_cons_self)
    exact .inTransit hq rfl
  | _ => simp at hm

end

end KeptStep

/-! ## The barrier comes next -/

/-- No event can be published before a barrier is: the relay owes one, will
claim one before its next event, or publishes nothing any more. -/
inductive Pending (s : System C) : Prop
  | owed (h : s.relay.owes = true)
  | latched (h : ExternalEvents.latched s.resyncState = true) (hr : ∀ queued, s.relay ≠ .deciding queued)
  | closed (h : s.coordinatorClosed = true)
  | exited (h : s.isClosed = true)

/-- The first publication is a barrier. -/
def BarrierFirst (published : List (Output C)) : Prop := ∀ o ∈ published.head?, o.isBarrier = true

/-- The first publication is a barrier, after the event the relay is about to
publish at `s` if there is one. -/
def BarrierNext (s : System C) (published : List (Output C)) : Prop :=
  BarrierFirst published ∨
    ∃ queued rest, s.relay = .deciding queued ∧ published = .event queued.event :: rest ∧ BarrierFirst rest

theorem Pending.carry (hp : Pending s) (hs : s'.resyncState = s.resyncState) (hre : s'.relay = s.relay)
    (hc : s.coordinatorClosed = true → s'.coordinatorClosed = true) : Pending s' := by
  cases hp with
  | owed h => exact .owed (hre ▸ h)
  | latched h hr => exact .latched (hs ▸ h) (hre ▸ hr)
  | closed h => exact .closed (hc h)
  | exited h => exact .exited (by simpa [System.isClosed, hre] using h)

/-- A relay that runs and owes no barrier has a gap to claim, unless the
coordinator is closed. -/
theorem Pending.of_settled (hp : Pending s) (hs : s.relay.settled = true) :
    (ExternalEvents.latched s.resyncState = true ∧ ∀ q, s.relay ≠ .deciding q) ∨
      s.coordinatorClosed = true := by
  obtain ⟨ho, hop, -⟩ := settled_spec hs
  cases hp with
  | owed h => simp [ho] at h
  | latched h hr => exact .inl ⟨h, hr⟩
  | closed h => exact .inr h
  | exited h => simp [hop] at h

section PendingStep

variable [DecidableEq C]

/-- Until the barrier is published nothing is. -/
theorem Pending.transition (h : Transition s outs s') (hp : Pending s) :
    (∃ k, outs = [.barrier k]) ∨ (publications outs = [] ∧ Pending s') := by
  cases h with
  | barrier => exact .inl ⟨_, rfl⟩
  | environment hm => exact .inr ⟨rfl, hp.carry rfl rfl hm⟩
  | quiet | start | load | refuse | full | enqueue => exact .inr ⟨rfl, hp.carry rfl rfl id⟩
  | latch hc he =>
    refine .inr ⟨rfl, ?_⟩
    cases hp with
    | owed h => exact .owed h
    | latched h hr => simp [he] at h
    | closed h => exact .closed h
    | exited h => exact .exited h
  | claim => exact .inr ⟨rfl, .owed rfl⟩
  | muteBarrier hr hcl | muteEvent hr hcl => exact .inr ⟨rfl, .closed hcl⟩
  | exit => exact .inr ⟨rfl, .exited rfl⟩
  | ready hr =>
    have hs : s.relay.settled = true := by rcases hr with hr | hr <;> rw [hr] <;> rfl
    rcases hp.of_settled hs with ⟨ho, -⟩ | hcl
    · exact .inr ⟨rfl, .latched ho (by simp)⟩
    · exact .inr ⟨rfl, .closed hcl⟩
  | observe hr =>
    have hs : s.relay.settled = true := by rcases hr with hr | ⟨_, hr⟩ <;> rw [hr] <;> rfl
    rcases hp.of_settled hs with ⟨ho, -⟩ | hcl
    · exact .inr ⟨rfl, .latched ho (by simp [System.claimLoop, ho])⟩
    · exact .inr ⟨rfl, .closed hcl⟩
  | receive hr =>
    rcases hp.of_settled (by rw [hr]; rfl) with ⟨ho, -⟩ | hcl
    · exact .inr ⟨rfl, .latched ho (by simp)⟩
    · exact .inr ⟨rfl, .closed hcl⟩
  | publish hr hep hop =>
    rcases hp.of_settled (by rw [hr]; rfl) with ⟨-, hne⟩ | hcl
    · exact absurd hr (hne _)
    · simp [hop] at hcl
  | drop hr =>
    rcases hp.of_settled (by rw [hr]; rfl) with ⟨-, hne⟩ | hcl
    · exact absurd hr (hne _)
    · exact .inr ⟨rfl, .closed hcl⟩

/-- The event the relay decides on while a gap is latched is the last before
the barrier. -/
theorem deciding_transition (h : Transition s outs s') {q}
    (hr : s.relay = .deciding q) (ho : latched s.resyncState = true) :
    (publications outs = [] ∧ s'.relay = .deciding q ∧ latched s'.resyncState = true) ∨
      ((publications outs = [] ∨ outs = [.event q.event]) ∧ Pending s') := by
  cases h with
  | environment | quiet | start | load | refuse | full | enqueue => exact .inl ⟨rfl, hr, ho⟩
  | latch hc he => simp [he] at ho
  | ready hr' => rcases hr' with hr' | hr' <;> simp [hr] at hr'
  | observe hr' => rcases hr' with hr' | ⟨_, hr'⟩ <;> simp [hr] at hr'
  | claim hr' | barrier hr' | muteBarrier hr' | receive hr' => simp [hr] at hr'
  | publish hr' =>
    obtain rfl : q = _ := by simpa [hr] using hr'
    exact .inr ⟨.inr rfl, .latched ho (by simp)⟩
  | drop | muteEvent => exact .inr ⟨.inl rfl, .latched ho (by simp)⟩
  | exit => exact .inr ⟨.inl rfl, .exited rfl⟩

/-- From a pending state, whoever moves, the first publication is a barrier. -/
theorem Pending.run (hp : Pending s) (hpa : Parity s) (l : List (Action C)) :
    BarrierFirst (publications (trace (answers step s l))) := by
  induction l generalizing s with
  | nil => simp [BarrierFirst, trace, publications]
  | cons a l ih =>
    have hs := step_transition hpa a
    rw [answers_cons, trace_cons, publications_append]
    rcases hp.transition hs with ⟨k, ho⟩ | ⟨hq, hp'⟩
    · simp [ho, BarrierFirst, publications, Output.isPublication, Output.isBarrier]
    · rw [hq]
      exact ih hp' (hpa.transition hs)

/-- From a state with a gap latched or owed the barrier comes next. -/
theorem barrier_next (hpa : Parity s) (hg : latched s.resyncState = true ∨ s.relay.owes = true)
    (l : List (Action C)) : BarrierNext s (publications (trace (answers step s l))) := by
  by_cases hr : ∃ q, s.relay = .deciding q
  · obtain ⟨q, hr⟩ := hr
    have ho : latched s.resyncState = true := by simpa [hr, RelayPoint.owes] using hg
    induction l generalizing s with
    | nil => exact .inl (by simp [BarrierFirst, trace, publications])
    | cons a l ih =>
      have hs := step_transition hpa a
      have hpa' := hpa.transition hs
      rw [answers_cons, trace_cons, publications_append]
      rcases deciding_transition hs hr ho with ⟨hq, hr', ho'⟩ | ⟨hou, hp⟩
      · simpa [hq, BarrierNext, hr, hr'] using ih hpa' (.inl ho') hr' ho'
      · rcases hou with hq | he
        · exact .inl (by rw [hq]; exact hp.run hpa' l)
        · exact .inr ⟨q, _, hr, by rw [he]; rfl, hp.run hpa' l⟩
  · have hp : Pending s := by
      rcases hg with ho | how
      · exact .latched ho (by simpa using hr)
      · exact .owed how
    exact .inl (hp.run hpa l)

end PendingStep

/-! ## The protocol -/

theorem parity_spawn {capacity} : Parity (spawnExternalEventRelay capacity : System C) :=
  ⟨by simp [spawnExternalEventRelay], by simp [spawnExternalEventRelay]⟩

section Protocol

variable [DecidableEq C]

/-- The invariants of the protocol, at the end of every run. -/
theorem invariants (cp : Nat) (ac : List (Action C)) :
    let s := final step (spawnExternalEventRelay cp) ac
    let t := trace (answers step (spawnExternalEventRelay cp) ac)
    Parity s ∧ (claims t < 2 ^ 63 → Epochs s t ∧ Stamps s t ∧ Kept s t) := by
  refine run_induction (P := fun s log => Parity s ∧
    (claims (trace log) < 2 ^ 63 → Epochs s (trace log) ∧ Stamps s (trace log) ∧
    Kept s (trace log))) ?_ ?_ ac
  · refine ⟨parity_spawn, fun _ => ⟨?_, ⟨justified_nil, ?_, ?_⟩, ?_⟩⟩
    · exact ⟨by simp [spawnExternalEventRelay, trace], fun _ => rfl, fun _ => rfl⟩
    · simp [spawnExternalEventRelay, Reached, trace]
    · simp [spawnExternalEventRelay, InTransit, RelayPoint.held]
    · exact ⟨by simp [spawnExternalEventRelay], by simp [trace]⟩
  · intro s log a ⟨hp, hi⟩
    have hst := step_transition hp a
    have ht : trace (log ++ [(a, (step s a).1)]) = trace log ++ (step s a).1 := by simp [trace]
    rw [ht]
    refine ⟨hp.transition hst, fun hc => ?_⟩
    obtain ⟨he, hs, hk⟩ := hi (by simp only [claims_append] at hc; omega)
    exact ⟨he.transition hst hc, hs.transition hst he hc, hk.transition hst he hs hc⟩

/-- The resync barrier protocol, for any number of calls and any interleaving
of their instructions with the relay's, short of a wrap of the epoch.

A barrier belongs to an epoch claimed before it, and an event published after
the barrier loaded its admission epoch after the claim. While the coordinator
and the relay run, the event of a call that returned `Ok` or `Full` is
published, queued or in the relay's hand, or a barrier since the start of the
call is published, latched or owed. A latched or owed barrier is published before any
event but the one the relay was about to publish. -/
theorem resync_barrier_protocol (capacity : Nat) (actions : List (Action C))
    (hclaims : claims (trace (answers step (spawnExternalEventRelay capacity) actions)) < 2 ^ 63) :
    let s := final step (spawnExternalEventRelay capacity) actions
    let t := trace (answers step (spawnExternalEventRelay capacity) actions)
    (∀ t₁ t₂ k, t = t₁ ++ .barrier k :: t₂ → .claimed k ∈ t₁) ∧
    (∀ t₁ t₂ t₃ t₄ k c, t = t₁ ++ .claimed k :: (t₂ ++ .barrier k :: (t₃ ++ .event c :: t₄)) →
      (∀ e, .loaded c e ∉ t₁) ∧ ∃ e, .loaded c e ∈ t₂ ++ .barrier k :: t₃) ∧
    (Open s → ∀ c result, .returned c result ∈ t → result ≠ .closed → Covered s t c) ∧
    (latched s.resyncState = true ∨ s.relay.owes = true →
      ∀ later, BarrierNext s (publications (trace (answers step s later)))) := by
  intro s t
  obtain ⟨hp, hi⟩ := invariants capacity actions
  obtain ⟨-, hs, hk⟩ := hi hclaims
  refine ⟨?_, ?_, hk.returned, barrier_next hp⟩
  · intro t₁ t₂ k ht
    obtain ⟨rfl, hlt⟩ : k = 2 * claims t₁ ∧ barriers t₁ < claims t₁ := hs.justified t₁ _ t₂ ht
    have hj : Justified Justifies (t₁ ++ .barrier (2 * claims t₁) :: t₂) := ht ▸ hs.justified
    exact claimed_mem hj.of_append (claims t₁) (by omega) (Nat.le_refl _)
  · intro t₁ t₂ t₃ t₄ k c ht
    have hsp : t = (t₁ ++ .claimed k :: (t₂ ++ .barrier k :: t₃)) ++ .event c :: t₄ := by simpa using ht
    have hj : Justified Justifies ((t₁ ++ .claimed k :: (t₂ ++ .barrier k :: t₃)) ++ .event c :: t₄) :=
      hsp ▸ hs.justified
    exact loaded_after_claim hj.of_append (hs.justified _ _ t₄ hsp)

end Protocol

/-- A queue of one: call 0 fills it, call 1 overflows it and latches a gap.
The relay publishes the barrier and drops the event of call 0; call 2 is
admitted after the claim and its event is published. -/
def overflowRun : List (Action Nat) :=
  [.relay false true, .trySend 0, .call 0 false, .call 0 false,
    .trySend 1, .call 1 false, .call 1 false, .call 1 false, .call 1 false, .call 1 false,
    .relay false true, .relay false true, .relay false true, .trySend 2, .call 2 false,
    .relay false true, .select .recv, .relay false true, .relay false true, .call 2 false,
    .relay false true, .select .recv, .relay false true, .relay false true]

theorem overflow_is_signalled : trace (answers step (spawnExternalEventRelay 1) overflowRun) =
      [.started 0, .loaded 0 0, .returned 0 .ok, .started 1, .loaded 1 0, .returned 1 .full,
        .claimed 2, .barrier 2, .started 2, .loaded 2 2, .returned 2 .ok, .event 2] ∧
    Covered (final step (spawnExternalEventRelay 1) overflowRun)
      (trace (answers step (spawnExternalEventRelay 1) overflowRun)) 0 ∧ ∀ e, Output.loaded 2 e ∉
      [.started 0, .loaded 0 0, .returned 0 .ok, .started 1, .loaded 1 0, .returned 1 .full] := by
  have ht : trace (answers step (spawnExternalEventRelay 1) overflowRun) =
      [.started 0, .loaded 0 0, .returned 0 .ok, .started 1, .loaded 1 0, .returned 1 .full,
        .claimed 2, .barrier 2, .started 2, .loaded 2 2, .returned 2 .ok, .event 2] := by decide +kernel
  have ho : Open (final step (spawnExternalEventRelay 1) overflowRun) :=
    ⟨by decide +kernel, by decide +kernel⟩
  obtain ⟨-, ha, hc, -⟩ := resync_barrier_protocol 1 overflowRun (by rw [ht]; decide)
  refine ⟨ht, hc ho 0 .ok (by rw [ht]; decide) (by decide), ?_⟩
  exact (ha _ [] [.started 2, .loaded 2 2, .returned 2 .ok] [] 2 2 ht).1

/-- The event of call 0 is received and past the second claim when call 1
latches a gap. Call 2 loads the odd state and returns `Full`, with no barrier
published since it started, and yet the relay publishes the event of call 0
before the barrier. -/
theorem received_event_precedes_barrier : ∃ actions later : List (Action Nat),
      let s := final step (spawnExternalEventRelay externalEventQueueCapacity) actions
      let t := trace (answers step (spawnExternalEventRelay externalEventQueueCapacity) actions)
      claims t = 0 ∧ s.coordinatorClosed = false ∧ s.relay = .deciding ⟨0, 0⟩ ∧ .returned 2 .full ∈ t ∧
        .event 2 ∉ t ∧
      (∀ q ∈ s.queue, q.event ≠ 2) ∧ barriers t = 0 ∧ latched s.resyncState = true ∧
      publications (trace (answers step s later)) = [.event 0, .barrier 2] := by
  refine ⟨[.relay false true, .relay false true, .trySend 0, .call 0 false, .call 0 false, .select .recv,
    .relay false true, .requireResync 1, .call 1 false, .call 1 false, .call 1 false,
    .trySend 2, .call 2 false, .call 2 false],
    [.relay false true, .relay false true, .relay false true, .relay false true], ?_⟩
  decide +kernel

end Xenoteer.ExternalEvents
