/-
The steps of the ingress and the relay, inverted once (`Transition`), and the
two invariants everything else rests on: each compare-exchange expects the
parity it is there for (`Parity`), and half of the resync state is the number
of claims in the trace (`Epochs`).
-/
import Xenoteer.Daemon.ExternalEvents

namespace Xenoteer.ExternalEvents

variable {C : Type}

/-! ## Reading a trace -/

namespace Output

def isClaim : Output C → Bool
  | .claimed _ => true
  | _ => false

def isBarrier : Output C → Bool
  | .barrier _ => true
  | _ => false

/-- What the coordinator sees. -/
def isPublication : Output C → Bool
  | .barrier _ | .event _ => true
  | _ => false

end Output

def claims (t : List (Output C)) : Nat := t.countP Output.isClaim

def barriers (t : List (Output C)) : Nat := t.countP Output.isBarrier

/-- All that a history shows, in order. -/
def trace (log : List (Action C × List (Output C))) : List (Output C) := log.flatMap (·.2)

def publications (t : List (Output C)) : List (Output C) := t.filter Output.isPublication

@[simp] theorem claims_append (t u : List (Output C)) :
    claims (t ++ u) = claims t + claims u := List.countP_append

@[simp] theorem barriers_append (t u : List (Output C)) : barriers (t ++ u) = barriers t + barriers u :=
  List.countP_append

@[simp] theorem claims_cons (o : Output C) (t) :
    claims (o :: t) = claims t + if o.isClaim then 1 else 0 := List.countP_cons

@[simp] theorem barriers_cons (o : Output C) (t) :
    barriers (o :: t) = barriers t + if o.isBarrier then 1 else 0 := List.countP_cons

@[simp] theorem claims_nil : claims ([] : List (Output C)) = 0 := rfl

@[simp] theorem barriers_nil : barriers ([] : List (Output C)) = 0 := rfl

@[simp] theorem publications_append (t u : List (Output C)) :
    publications (t ++ u) = publications t ++ publications u := List.filter_append ..

@[simp] theorem trace_cons (a : Action C) (outs) (log) : trace ((a, outs) :: log) = outs ++ trace log := rfl

theorem exists_barrier {t : List (Output C)} (h : 0 < barriers t) : ∃ k, .barrier k ∈ t := by
  obtain ⟨o, ho, hb⟩ := List.countP_pos_iff.mp h
  cases o with
  | barrier k => exact ⟨k, ho⟩
  | _ => simp [Output.isBarrier] at hb

/-! ## The transitions -/

/-- The point is inside a call of `try_send` that passed its first check. -/
def CallPoint.started : CallPoint → Bool
  | .loading | .gap | .sending _ => true
  | .resyncing caller | .latching caller _ | .notifying caller => caller = .trySend
  | .idle | .rechecking | .returned _ => false

/-- The points a call reaches without a trace: inside `require_resync`, where
it expects an even state, and back from it. -/
def CallPoint.Quiet (resyncState : Nat) : CallPoint → Prop
  | .resyncing _ | .rechecking | .returned _ => True
  | .latching _ observed => observed = resyncState ∧ latched observed = false
  | .idle | .loading | .gap | .sending _ | .notifying _ => False

namespace RelayPoint

/-- The event the relay received and did not decide on yet. -/
def held : RelayPoint C → Option (EpochRuntimeEvent C)
  | .claiming held | .swapping held _ | .publishing held _ => held
  | .deciding queued => some queued
  | .starting | .selecting | .exited _ => none

/-- The relay claimed an epoch and has its barrier to publish. -/
def owes : RelayPoint C → Bool
  | .publishing _ _ => true
  | _ => false

end RelayPoint

/-- The compare-exchanges expect what they are there for: an even state where
a gap is latched, an odd one where it is claimed. -/
structure Parity (s : System C) : Prop where
  call : ∀ c caller observed, s.calls c = .latching caller observed → latched observed = false
  relay : ∀ held observed, s.relay = .swapping held observed → latched observed = true

/-- Latching a gap keeps the count of claims. -/
theorem wrappingSucc_of_even {st} (he : latched st = false) (h : st / 2 < 2 ^ 63) :
    latched (wrappingSucc st) = true ∧ wrappingSucc st / 2 = st / 2 := by
  simp only [latched, decide_eq_false_iff_not, decide_eq_true_eq] at he ⊢
  unfold wrappingSucc
  omega

/-- Claiming a gap counts it, short of a wrap. -/
theorem wrappingSucc_of_odd {st} (ho : latched st = true) (h : st / 2 + 1 < 2 ^ 63) :
    wrappingSucc st = 2 * (st / 2 + 1) := by
  simp only [latched, decide_eq_true_eq] at ho
  unfold wrappingSucc
  omega

theorem claimLoop_swapping {s : System C} {held held' : Option (EpochRuntimeEvent C)} {o : Nat}
    (h : s.claimLoop held = .swapping held' o) : latched o = true := by
  unfold System.claimLoop at h
  split at h
  · cases h
    assumption
  · cases held <;> cases h

@[simp] theorem afterBarrier_held (held : Option (EpochRuntimeEvent C)) :
    (System.afterBarrier held).held = held := by
  cases held <;> rfl

@[simp] theorem claimLoop_held (s : System C) (held : Option (EpochRuntimeEvent C)) :
    (s.claimLoop held).held = held := by
  unfold System.claimLoop
  split
  · rfl
  · cases held <;> rfl

/-! A publication lands only while the coordinator is open, and is discarded
only once it is closed. -/

theorem open_of_published {s : System C} {a : Bool} (h : s.publishRuntimeEvent a = .published) :
    s.coordinatorClosed = false := by
  cases hc : s.coordinatorClosed with
  | false => rfl
  | true => cases a <;> cases hca : s.cancelled <;> simp_all [System.publishRuntimeEvent]

theorem closed_of_discarded {s : System C} {a : Bool}
    (h : s.publishRuntimeEvent a = .discarded) : s.coordinatorClosed = true := by
  cases hc : s.coordinatorClosed with
  | true => rfl
  | false => cases a <;> simp_all [System.publishRuntimeEvent]

section Transitions

variable [DecidableEq C]

/-- What a step can do. -/
inductive Transition (s : System C) : List (Output C) → System C → Prop
  | environment {permit coordinatorClosed cancelled}
      (h : s.coordinatorClosed = true → coordinatorClosed = true) :
      Transition s [] { s with permit, coordinatorClosed, cancelled }
  | quiet {c point} (permit : Bool) (hpoint : point.Quiet s.resyncState)
      (hstarted : point.started → (s.calls c).started) :
      Transition s [] ((s.setPermit permit).goto c point)
  | start {c} (hc : s.calls c = .idle) : Transition s [.started c] (s.goto c .loading)
  | load {c} (hc : s.calls c = .loading) :
      Transition s [.loaded c s.resyncState]
        (s.goto c (if latched s.resyncState then .gap else .sending s.resyncState))
  | refuse {c} : Transition s [.returned c .closed] (s.goto c (.returned (some .closed)))
  | full {c} (permit : Bool) (hstarted : (s.calls c).started)
      (hgap : s.calls c = .gap ∨ s.calls c = .notifying .trySend ∨ latched s.resyncState) :
      Transition s [.returned c .full] ((s.setPermit permit).goto c (.returned (some .full)))
  | enqueue {c admissionEpoch} (hc : s.calls c = .sending admissionEpoch) :
      Transition s [.returned c .ok] ((s.enqueue ⟨admissionEpoch, c⟩).goto c (.returned (some .ok)))
  | latch {c caller} (hc : s.calls c = .latching caller s.resyncState)
      (heven : latched s.resyncState = false) :
      Transition s [] ((s.setState (wrappingSucc s.resyncState)).goto c (.notifying caller))
  | ready {permit} (hr : s.relay = .starting ∨ s.relay = .selecting) :
      Transition s [] { s with permit, relay := .claiming none }
  | observe {held} (hr : s.relay = .claiming held ∨ ∃ observed, s.relay = .swapping held observed) :
      Transition s [] { s with relay := s.claimLoop held }
  | claim {held} (hr : s.relay = .swapping held s.resyncState) (hodd : latched s.resyncState = true) :
      Transition s [.claimed (wrappingSucc s.resyncState)]
        { s with resyncState := wrappingSucc s.resyncState,
                 relay := .publishing held (wrappingSucc s.resyncState) }
  | barrier {held epoch} (hr : s.relay = .publishing held epoch) (hopen : s.coordinatorClosed = false) :
      Transition s [.barrier epoch]
        { s with publishedEpoch := epoch, relay := System.afterBarrier held }
  | muteBarrier {held epoch} (hr : s.relay = .publishing held epoch)
      (hclosed : s.coordinatorClosed = true) :
      Transition s [] { s with publishedEpoch := epoch, relay := System.afterBarrier held }
  | receive {queued queue} (hr : s.relay = .selecting) (hq : s.queue = queued :: queue) :
      Transition s [] { s with queue, relay := .claiming (some queued) }
  | publish {queued} (hr : s.relay = .deciding queued) (hepoch : queued.admissionEpoch = s.publishedEpoch)
      (hopen : s.coordinatorClosed = false) :
      Transition s [.event queued.event] { s with relay := .claiming none }
  | drop {queued} (hr : s.relay = .deciding queued) (hepoch : queued.admissionEpoch ≠ s.publishedEpoch) :
      Transition s [] { s with relay := .claiming none }
  | muteEvent {queued} (hr : s.relay = .deciding queued) (hclosed : s.coordinatorClosed = true) :
      Transition s [] { s with relay := .claiming none }
  | exit (failed : Bool) : Transition s [] (s.exit failed)

theorem Transition.refl (s : System C) : Transition s [] s := .environment (fun h => h)

variable {s : System C} {c : C}

/-- The head of the loop of `require_resync` leaves it only when a gap is
latched. -/
theorem latchLoop_transition {cl} (hs : cl = .trySend → (s.calls c).started) :
    Transition s (s.latchLoop c cl).1 (s.latchLoop c cl).2 := by
  unfold System.latchLoop
  split
  case isTrue ho =>
    cases cl with
    | plain | tryRequireResync => exact .quiet s.permit trivial (by simp [CallPoint.started])
    | trySend => exact .full s.permit (hs rfl) (.inr (.inr ho))
  case isFalse he =>
    exact .quiet s.permit ⟨rfl, by simpa using he⟩ (by simpa [CallPoint.started] using hs)

theorem stepCall_transition (hp : Parity s) {w} : Transition s (s.stepCall c w).1 (s.stepCall c w).2 := by
  unfold System.stepCall
  split
  case h_1 hc => exact .load hc
  case h_2 hc =>
    cases hcl : s.isClosed with
    | true => simpa using .refuse
    | false => simpa using .full s.permit (by rw [hc]; rfl) (.inl hc)
  case h_3 admissionEpoch hc =>
    split
    · exact .refuse
    · split
      · exact .enqueue hc
      · exact .quiet s.permit trivial (fun _ => by rw [hc]; rfl)
  case h_4 caller hc => exact latchLoop_transition (fun h => by simp [hc, h, CallPoint.started])
  case h_5 caller observed hc =>
    split
    case isTrue hs =>
      obtain ⟨rfl, -⟩ := hs
      exact .latch hc (hp.call c caller _ hc)
    case isFalse => exact latchLoop_transition (fun h => by simp [hc, h, CallPoint.started])
  case h_6 caller hc =>
    cases caller with
    | plain | tryRequireResync => exact .quiet true trivial (by simp [CallPoint.started])
    | trySend => exact .full true (by rw [hc]; rfl) (.inr (.inl hc))
  case h_7 hc => exact .quiet s.permit trivial (by simp [CallPoint.started])
  case h_8 | h_9 => exact .refl s

theorem stepRelay_transition (hp : Parity s) {w a} :
    Transition s (s.stepRelay w a).1 (s.stepRelay w a).2 := by
  unfold System.stepRelay
  split
  case h_1 hr =>
    cases a with
    | true => exact .ready (.inl hr)
    | false => exact .exit true
  case h_2 held hr => exact .observe (.inl hr)
  case h_3 held observed hr =>
    split
    case isTrue hs =>
      obtain ⟨rfl, -⟩ := hs
      exact .claim hr (hp.relay held _ hr)
    case isFalse => exact .observe (.inr ⟨observed, hr⟩)
  case h_4 held epoch hr =>
    split
    case h_1 h => exact .barrier hr (open_of_published h)
    case h_2 h => exact .muteBarrier hr (closed_of_discarded h)
    case h_3 => exact .exit true
  case h_5 queued hr =>
    by_cases he : queued.admissionEpoch = s.publishedEpoch
    · simp only [eventAfterExternalBarrier, he, if_true]
      split
      case h_1 h => exact .publish hr he (open_of_published h)
      case h_2 h => exact .muteEvent hr (closed_of_discarded h)
      case h_3 => exact .exit true
    · simp only [eventAfterExternalBarrier, he, if_false]
      exact .drop hr he
  case h_6 | h_7 => exact .refl s

theorem select_transition {b} : Transition s [] (s.select b) := by
  unfold System.select
  split
  case h_1 =>
    split
    · exact .exit false
    · exact .refl s
  case h_2 hr =>
    split
    · exact .ready (.inr hr)
    · exact .refl s
  case h_3 hr =>
    split
    · exact .refl s
    · exact .receive hr ‹_›
  case h_4 =>
    split
    · exact .exit false
    · exact .refl s
  case h_5 => exact .refl s

theorem step_transition (hp : Parity s) (a : Action C) : Transition s (step s a).1 (step s a).2 := by
  cases a with
  | trySend c =>
    simp only [step, System.startTrySend]
    split
    case h_1 hc =>
      split
      · exact .refuse
      · exact .start hc
    case h_2 => exact .refl s
  | requireResync c =>
    simp only [step, System.startRequireResync]
    split
    · exact .quiet s.permit trivial (by simp [CallPoint.started])
    · exact .refl s
  | tryRequireResync c =>
    simp only [step, System.startTryRequireResync]
    split
    · split <;> exact .quiet s.permit trivial (by simp [CallPoint.started])
    · exact .refl s
  | call c w => exact stepCall_transition hp
  | relay w ac => exact stepRelay_transition hp
  | select b => exact select_transition
  | cancel => exact .environment (fun h => h)
  | close => exact .environment (fun _ => rfl)

/-- A property of the points of all calls survives a move of one of them. -/
theorem forall_goto {P : C → CallPoint → Prop} (h : ∀ c', c' ≠ c → P c' (s.calls c')) {p}
    (hc : P c p) : ∀ c', P c' ((s.goto c p).calls c') := by
  intro c'
  simp only [System.goto, Function.update_apply]
  split
  case isTrue heq => exact heq ▸ hc
  case isFalse hne => exact h c' hne

/-! ## Parity -/

theorem Parity.goto (hp : Parity s) {pn} (h : ∀ cl o, pn = .latching cl o → latched o = false) :
    Parity (s.goto c pn) :=
  ⟨forall_goto (P := fun _ p => ∀ cl o, p = .latching cl o → latched o = false)
    (fun c' _ => hp.call c') h, hp.relay⟩

theorem Parity.transition {outs : List (Output C)} {s' : System C} (h : Transition s outs s')
    (hp : Parity s) : Parity s' := by
  cases h with
  | environment => exact ⟨hp.call, hp.relay⟩
  | quiet p hpo =>
    refine Parity.goto (s := s.setPermit p) ⟨hp.call, hp.relay⟩ ?_
    rintro cl o rfl
    exact hpo.2
  | start | refuse => exact hp.goto (by simp)
  | load =>
    refine hp.goto ?_
    intro cl o h
    split at h <;> cases h
  | full p => exact Parity.goto (s := s.setPermit p) ⟨hp.call, hp.relay⟩ (by simp)
  | enqueue => exact Parity.goto (s := s.enqueue _) ⟨hp.call, hp.relay⟩ (by simp)
  | latch => exact Parity.goto (s := s.setState (wrappingSucc s.resyncState)) ⟨hp.call, hp.relay⟩ (by simp)
  | observe => exact ⟨hp.call, fun _ _ => claimLoop_swapping⟩
  | @barrier held | @muteBarrier held => exact ⟨hp.call, by cases held <;> simp [System.afterBarrier]⟩
  | ready | claim | receive | publish | drop | muteEvent => exact ⟨hp.call, by simp⟩
  | exit => exact ⟨hp.call, nofun⟩

end Transitions

/-! ## Epochs -/

variable {s s' : System C} {t outs : List (Output C)} {c : C}

/-- Nothing was lost with its owner: the coordinator is open and the relay
did not return. -/
structure Open (s : System C) : Prop where
  coordinator : s.coordinatorClosed = false
  relay : s.isClosed = false

/-- The relay's epoch: that of the claim it is about to publish a barrier
for, or of the last barrier. -/
def relayEpoch (s : System C) : Nat :=
  match s.relay with
  | .publishing _ claimedEpoch => claimedEpoch
  | _ => s.publishedEpoch

/-- The epochs count the claims of the trace, and all barriers but the one
the relay owes are out. -/
structure Epochs (s : System C) (t : List (Output C)) : Prop where
  state : s.resyncState / 2 = claims t
  relay : s.isClosed = false → relayEpoch s = 2 * claims t
  barriers : Open s → barriers t + (if s.relay.owes then 1 else 0) = claims t

/-- The relay runs and owes no barrier. -/
def RelayPoint.settled : RelayPoint C → Bool
  | .publishing _ _ | .exited _ => false
  | _ => true

theorem settled_spec (h : s.relay.settled = true) :
    s.relay.owes = false ∧ s.isClosed = false ∧ relayEpoch s = s.publishedEpoch := by
  unfold relayEpoch System.isClosed
  cases hr : s.relay <;> simp_all [RelayPoint.settled, RelayPoint.owes]

theorem settled_claimLoop {held} : (s.claimLoop held).settled = true := by
  unfold System.claimLoop
  split
  · rfl
  · cases held <;> rfl

theorem settled_afterBarrier (held : Option (EpochRuntimeEvent C)) :
    (System.afterBarrier held).settled = true := by
  cases held <;> rfl

theorem Epochs.published (he : Epochs s t) {held e}
    (hr : s.relay = .publishing held e) : e = 2 * claims t := by
  simpa [relayEpoch, hr] using he.relay (by simp [System.isClosed, hr])

/-- A step that neither claims nor publishes a barrier. -/
theorem Epochs.moved (he : Epochs s t) (hop : Open s' → Open s) (hs : s'.resyncState / 2 = s.resyncState / 2)
    (hr : s'.isClosed = false → s.isClosed = false ∧ relayEpoch s' = relayEpoch s)
    (how : Open s' → s'.relay.owes = s.relay.owes) (hca : claims outs = 0)
    (hb : ExternalEvents.barriers outs = 0) : Epochs s' (t ++ outs) := by
  have hc : claims (t ++ outs) = claims t := by simp [hca]
  refine ⟨?_, fun hcl => ?_, fun ho => ?_⟩
  · rw [hs, hc]
    exact he.state
  · rw [(hr hcl).2, hc]
    exact he.relay (hr hcl).1
  · rw [how ho, hc, barriers_append, hb]
    exact he.barriers (hop ho)

/-- A move of the relay away from its barriers. -/
theorem Epochs.settled (he : Epochs s t) (hop : Open s' → Open s) (hs : s.relay.settled = true)
    (hs' : s'.relay.settled = true) (hst : s'.resyncState = s.resyncState)
    (hep : s'.publishedEpoch = s.publishedEpoch) (hc : claims outs = 0)
    (hb : ExternalEvents.barriers outs = 0) : Epochs s' (t ++ outs) := by
  obtain ⟨ho, hcl, hr⟩ := settled_spec hs
  obtain ⟨ho', -, hr'⟩ := settled_spec hs'
  exact he.moved hop (by rw [hst]) (fun _ => ⟨hcl, by rw [hr, hr', hep]⟩)
    (fun _ => by rw [ho, ho']) hc hb

section EpochsStep

variable [DecidableEq C]

theorem Open.of_transition (h : Transition s outs s') (ho : Open s') : Open s := by
  obtain ⟨hop, hre⟩ := ho
  cases h with
  | environment hm =>
    refine ⟨?_, hre⟩
    cases hc : s.coordinatorClosed with
    | false => rfl
    | true => simp [hm hc] at hop
  | quiet | start | load | refuse | full | enqueue | latch => exact ⟨hop, hre⟩
  | ready hr => exact ⟨hop, by rcases hr with hr | hr <;> simp [System.isClosed, hr]⟩
  | observe hr => exact ⟨hop, by rcases hr with hr | ⟨_, hr⟩ <;> simp [System.isClosed, hr]⟩
  | claim hr | barrier hr | muteBarrier hr | receive hr | publish hr | drop hr | muteEvent hr =>
    exact ⟨hop, by simp [System.isClosed, hr]⟩
  | exit => cases hre

theorem Epochs.transition (h : Transition s outs s') (he : Epochs s t)
    (hcl : claims (t ++ outs) < 2 ^ 63) : Epochs s' (t ++ outs) := by
  have hop : Open s' → Open s := .of_transition h
  have hst := he.state
  cases h with
  | environment | quiet | start | load | refuse | full | enqueue =>
    exact he.moved hop rfl (fun h => ⟨h, rfl⟩) (fun _ => rfl) rfl rfl
  | latch hc hev =>
    simp only [claims_append] at hcl
    obtain ⟨-, hh⟩ := wrappingSucc_of_even hev (by omega)
    exact he.moved hop hh (fun h => ⟨h, rfl⟩) (fun _ => rfl) rfl rfl
  | ready hr =>
    exact he.settled hop (by rcases hr with hr | hr <;> rw [hr] <;> rfl) rfl rfl rfl rfl rfl
  | observe hr =>
    have hs : s.relay.settled = true := by rcases hr with hr | ⟨_, hr⟩ <;> rw [hr] <;> rfl
    exact he.settled hop hs settled_claimLoop rfl rfl rfl rfl
  | receive hr | publish hr | drop hr | muteEvent hr =>
    exact he.settled hop (by rw [hr]; rfl) rfl rfl rfl rfl rfl
  | claim hr hod =>
    have hsu := wrappingSucc_of_odd hod (by simp [Output.isClaim] at hcl; omega)
    have hco : claims (t ++ [Output.claimed (wrappingSucc s.resyncState)]) = claims t + 1 :=
      by simp [Output.isClaim]
    refine ⟨?_, fun _ => ?_, fun ho => ?_⟩
    · show wrappingSucc s.resyncState / 2 = _
      omega
    · show wrappingSucc s.resyncState = _
      omega
    · have hb := he.barriers (hop ho)
      simp only [hr, RelayPoint.owes] at hb
      simp [hco, RelayPoint.owes, Output.isBarrier]
      simpa using hb
  | @barrier held e hr hcr =>
    obtain ⟨how, -, hre⟩ := settled_spec
      (s := { s with publishedEpoch := e, relay := System.afterBarrier held })
        (settled_afterBarrier held)
    have hep := he.published hr
    have hb := he.barriers ⟨hcr, by simp [System.isClosed, hr]⟩
    simp only [hr, RelayPoint.owes, if_true] at hb
    refine ⟨by simpa [Output.isClaim] using hst, fun _ => ?_, fun _ => ?_⟩
    · simpa [hre, Output.isClaim] using hep
    · rw [how]
      simpa [Output.isClaim, Output.isBarrier] using hb
  | @muteBarrier held e hr hcs =>
    obtain ⟨-, -, hre⟩ := settled_spec
      (s := { s with publishedEpoch := e, relay := System.afterBarrier held })
        (settled_afterBarrier held)
    refine ⟨by simpa using hst, fun _ => ?_, fun ho => ?_⟩
    · simpa [hre] using he.published hr
    · exact absurd ho.coordinator (by simp [hcs])
  | exit => exact he.moved hop rfl nofun (fun ho => nomatch ho.relay) rfl rfl

end EpochsStep

end Xenoteer.ExternalEvents
