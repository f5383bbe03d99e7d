/-
The operations of the input state, inverted once (`Change`), and its
bookkeeping: pending releases name owned input, each once, and belong to the
open batch of an active action (`Bookkeeping`).

Buttons and keys are treated alike where the code does so: a `PendingRelease`
is the button or key itself, and a `Submission` is a press or release of one.
-/
import Xenoteer.Input.State
import Xenoteer.Lib.Run

namespace Xenoteer

open Lib.Run

/-- What an accepted submission did to a button or key. -/
inductive Submission where
  | motion
  | press (target : PendingRelease)
  | release (target : PendingRelease)
deriving DecidableEq

def Effect.submission : Effect → Submission
  | .pointerMoved _ => .motion
  | .buttonPressed button => .press (.button button)
  | .buttonReleased button => .release (.button button)
  | .keyPressed key _ => .press (.key key)
  | .keyReleased key _ => .release (.key key)

def InputOp.submission : InputOp → Option Submission
  | .submitPointerMotion _ => some .motion
  | .submitButtonPress button _ => some (.press (.button button))
  | .submitButtonRelease button _ => some (.release (.button button))
  | .submitKeyPress key _ => some (.press (.key key))
  | .submitKeyRelease key => some (.release (.key key))
  | _ => none

namespace InputState

variable {s s' : InputState} {op : InputOp} {reply : InputReply}

/-- The button or key is among the pressed ones. -/
def Owns (s : InputState) : PendingRelease → Prop
  | .button button => button ∈ s.pressedButtons
  | .key key => ∃ owned ∈ s.pressedKeys, owned.key = key

/-- The submissions of the open batch. -/
def batch (s : InputState) : List Submission :=
  match s.effects, s.batchCheckpoint with
  | some journal, some checkpoint => (journal.records.drop checkpoint).map (·.effect.submission)
  | _, _ => []

/-! ## The pieces of a step -/

def openBatch (s : InputState) (journal : EffectJournal) : InputState :=
  { s with batchCheckpoint := some (s.batchCheckpoint.getD journal.checkpoint) }

/-- The state after an effect was recorded. -/
def record (s : InputState) (journal : EffectJournal) (next : Nat) (effect : Effect) : InputState :=
  { s.openBatch journal with
    effects := some ⟨journal.records ++ [⟨journal.nextSequence, effect, .provisional⟩], next⟩ }

def own (s : InputState) (target : PendingRelease) (modifier : Bool) : InputState :=
  match target with
  | .button button => { s with pressedButtons := s.pressedButtons ++ [button] }
  | .key key => { s with pressedKeys := s.pressedKeys ++ [⟨key, modifier⟩] }

def addRelease (s : InputState) (target : PendingRelease) : InputState :=
  { s with pendingReleases := s.pendingReleases ++ [target] }

/-- The releases are dropped and the batch is closed. -/
def closeBatch (s : InputState) : InputState := { s with pendingReleases := [], batchCheckpoint := none }

/-- The journal once the batch is confirmed. -/
def confirmedJournal (journal : EffectJournal) (checkpoint : Nat) : EffectJournal :=
  { journal with
    records := journal.records.take checkpoint ++
      (journal.records.drop checkpoint).map EffectRecord.confirm }

def confirmed (s : InputState) (journal : EffectJournal) (checkpoint : Nat) : InputState :=
  (s.pendingReleases.foldl applyRelease
    { s with effects := some (confirmedJournal journal checkpoint) }).closeBatch

structure PressAllowed (s : InputState) : Prop where
  purpose : s.actionPurpose = some .ordinary
  health : s.health = .healthy

theorem ensurePressAllowed_ok (h : s.ensurePressAllowed = .ok ()) : s.PressAllowed := by
  unfold ensurePressAllowed at h
  split at h
  · cases h
  rename_i p hp
  split at h
  · cases h
  · simp only [ne_eq, not_or, not_not] at *
    rename_i ha
    exact ⟨ha.1 ▸ hp, ha.2⟩

theorem appendEffect_cases (s : InputState) {ef : Effect} : (∃ e, s.appendEffect ef = (.error e, s)) ∨
    ∃ j, s.effects = some j ∧ ((∃ e, s.appendEffect ef = (.error e, s.openBatch j)) ∨
        ∃ n, s.appendEffect ef = (.ok (), s.record j n ef)) := by
  unfold appendEffect
  cases hj : s.effects with
  | none => exact .inl ⟨_, rfl⟩
  | some j =>
    refine .inr ⟨j, rfl, ?_⟩
    obtain ⟨e, he⟩ | ⟨n, hok⟩ := j.recordProvisional_cases ef
    · exact .inl ⟨.effectJournal e, by simp [he, openBatch, ← hj]⟩
    · exact .inr ⟨n, by simp [hok, record, openBatch]⟩

/-- What a step can do. -/
inductive Change (s : InputState) : InputOp → InputReply → InputState → Prop
  | refused {op e} : Change s op (.error e) s
  /-- The journal is full: the batch is open all the same. -/
  | opened {op e submission journal} (hop : op.submission = some submission)
      (hj : s.effects = some journal) :
      Change s op (.error e) (s.openBatch journal)
  | began {purpose} (heffects : s.effects = none) (hresolved : s.unresolved = false)
      (hhealth : purpose = .ordinary → s.health = .healthy) :
      Change s (.beginAction purpose) (.ok none)
        { s with effects := some .new, actionPurpose := some purpose }
  | finished {journal} (hj : s.effects = some journal) (hresolved : s.unresolved = false) :
      Change s .finishAction (.ok (some journal)) { s with effects := none, actionPurpose := none }
  | motion {op journal next effect} (hop : op.submission = some .motion) (hallowed : s.PressAllowed)
      (hj : s.effects = some journal) (heffect : effect.submission = .motion) :
      Change s op (.ok none) (s.record journal next effect)
  | press {op journal next effect target modifier} (hop : op.submission = some (.press target))
      (hallowed : s.PressAllowed) (hj : s.effects = some journal)
        (heffect : effect.submission = .press target)
      (hfree : ¬ s.Owns target) :
      Change s op (.ok none) ((s.record journal next effect).own target modifier)
  | pressAgain {journal next effect button} (hallowed : s.PressAllowed) (hj : s.effects = some journal)
      (heffect : effect.submission = .press (.button button)) (howned : s.Owns (.button button)) :
      Change s (.submitButtonPress button true) (.ok none) (s.record journal next effect)
  | release {op journal next effect target} (hop : op.submission = some (.release target))
      (hj : s.effects = some journal) (heffect : effect.submission = .release target)
        (howned : s.Owns target)
      (hnew : target ∉ s.pendingReleases) :
      Change s op (.ok none) ((s.record journal next effect).addRelease target)
  | releaseAgain {op journal next effect button} (hop : op.submission = some (.release (.button button)))
      (hj : s.effects = some journal) (heffect : effect.submission = .release (.button button)) :
      Change s op (.ok none) (s.record journal next effect)
  | confirmed {journal checkpoint} (hcheckpoint : s.batchCheckpoint = some checkpoint)
      (hj : s.effects = some journal) (hle : checkpoint ≤ journal.records.length) :
      Change s .confirmBatch (.ok none) (s.confirmed journal checkpoint)
  | failed {reason health} (hopen : s.batchCheckpoint.isSome)
      (hnext : s.nextHealth (.requireReset reason) = .ok health) :
      Change s (.failBatch reason) (.ok none) { s.closeBatch with health }
  | abandoned (hopen : s.batchCheckpoint.isSome) (hpoisoned : s.isPoisoned = true) :
      Change s .abandonPoisonedResetBatch (.ok none) s.closeBatch
  | terminated {event health} (hevent : event.isTerminal = true) (hnext : s.nextHealth event = .ok health) :
      Change s (.transitionHealth event) (.ok none) { s.closeBatch with health }
  | transitioned {event health} (hevent : event.isTerminal = false)
      (hnext : s.nextHealth event = .ok health)
      (hreset : event.isResetOutcome = true → s.actionPurpose = some .reset ∧ s.unresolved = false) :
      Change s (.transitionHealth event) (.ok none) { s with health }

abbrev Changes (s : InputState) (op : InputOp) (r : Except InputStateError Unit × InputState) : Prop :=
  Change s op (plain r).1 (plain r).2

/-- A submission that is recorded, or refused with the batch open or not. -/
theorem Change.of_append {sb : Submission} {ef : Effect} {f : InputState → InputState}
    (hop : op.submission = some sb) (hok : ∀ j n, s.effects = some j →
    Change s op (.ok none) (f (s.record j n ef))) {r : Except InputStateError Unit × InputState}
    (hr : r = match s.appendEffect ef with
      | (.error e, s) => (.error e, s)
      | (.ok (), s) => (.ok (), f s)) : Changes s op r := by
  subst hr
  obtain ⟨e, h⟩ | ⟨j, hj, ⟨e, h⟩ | ⟨n, h⟩⟩ := s.appendEffect_cases
  · rw [h]
    exact .refused
  · rw [h]
    exact .opened hop hj
  · rw [h]
    exact hok j n hj

theorem appendEffect_eta (s : InputState) {ef} : s.appendEffect ef = match s.appendEffect ef with
      | (.error e, s) => (.error e, s)
      | (.ok (), s) => (.ok (), s) := by
  rcases s.appendEffect ef with ⟨e | _, s'⟩ <;> rfl

theorem submitPointerMotion_change {s p} : Changes s (.submitPointerMotion p) (s.submitPointerMotion p) := by
  unfold submitPointerMotion
  split
  case h_1 => exact .refused
  case h_2 ha =>
    refine .of_append rfl (fun j n hj => ?_) (appendEffect_eta s)
    exact .motion rfl (ensurePressAllowed_ok ha) hj rfl

theorem submitButtonPress_change {s b ar} : Changes s (.submitButtonPress b ar) (s.submitButtonPress b ar) := by
  unfold submitButtonPress
  split
  case h_1 => exact .refused
  case h_2 ha =>
    split
    case isTrue ho =>
      split
      · exact .refused
      · refine .of_append rfl (fun j n hj => ?_) (appendEffect_eta s)
        obtain rfl : ar = true := by simp_all
        exact .pressAgain (ensurePressAllowed_ok ha) hj rfl ho
    case isFalse hf =>
      refine .of_append (f := fun s => s.own (.button b) false) rfl (fun j n hj => ?_) rfl
      exact .press rfl (ensurePressAllowed_ok ha) hj rfl hf

theorem submitButtonRelease_change {s b ar} : Changes s (.submitButtonRelease b ar) (s.submitButtonRelease b ar) := by
  unfold submitButtonRelease
  simp only
  split
  · exact .refused
  by_cases h : b ∈ s.pressedButtons ∧ .button b ∉ s.pendingReleases
  · simp only [h, decide_true, decide_false, Bool.not_false, Bool.and_self, if_true]
    refine .of_append rfl (fun j n hj => ?_) rfl
    exact .release rfl hj rfl h.1 h.2
  · have hr :
        (decide (b ∈ s.pressedButtons) && !decide (.button b ∈ s.pendingReleases)) = false := by
      simpa using h
    simp only [hr, Bool.false_eq_true, if_false]
    refine .of_append rfl (fun j n hj => ?_) rfl
    exact .releaseAgain rfl hj rfl

theorem submitKeyPress_change {s key m} : Changes s (.submitKeyPress key m) (s.submitKeyPress key m) := by
  unfold submitKeyPress
  split
  case h_1 => exact .refused
  case h_2 ha =>
    split
    case isTrue => exact .refused
    case isFalse hf =>
      refine .of_append (f := fun s => s.own (.key key) m) rfl (fun j n hj => ?_) rfl
      exact .press rfl (ensurePressAllowed_ok ha) hj rfl (by simpa [Owns] using hf)

theorem submitKeyRelease_change {s key} : Changes s (.submitKeyRelease key) (s.submitKeyRelease key) := by
  unfold submitKeyRelease
  split
  case h_1 => exact .refused
  case h_2 owned ho =>
    split
    case isTrue => exact .refused
    case isFalse hn =>
      refine .of_append rfl (fun j n hj => ?_) rfl
      have hk : s.Owns (.key key) :=
        ⟨owned, List.mem_of_find?_eq_some ho, by simpa using List.find?_some ho⟩
      exact .release rfl hj rfl hk hn

theorem transitionHealth_change {s e} : Changes s (.transitionHealth e) (s.transitionHealth e) := by
  unfold transitionHealth
  split
  case isTrue => exact .refused
  case isFalse hr =>
    split
    case h_1 => exact .refused
    case h_2 health hn =>
      split
      case isTrue he => exact .terminated he hn
      case isFalse he =>
        exact .transitioned (by simpa using he) hn (fun h => by simpa [h] using hr)

theorem failBatch_change {s r} : Changes s (.failBatch r) (s.failBatch r) := by
  unfold failBatch
  split
  case h_1 => exact .refused
  case h_2 ho =>
    cases hn : s.nextHealth (.requireReset r) with
    | error e =>
      simp only [transitionHealth, HealthEvent.isResetOutcome, Bool.false_and, Bool.false_eq_true,
        if_false, hn]
      exact .refused
    | ok health =>
      simp only [transitionHealth, HealthEvent.isResetOutcome, HealthEvent.isTerminal, Bool.false_and,
        Bool.false_eq_true, if_false, hn]
      exact .failed (by simp [ho]) hn

theorem step_change (s : InputState) (op : InputOp) : Change s op (s.step op).1 (s.step op).2 := by
  cases op with
  | beginAction pr =>
    simp only [step, beginAction]
    split
    case isTrue => exact .refused
    case isFalse ha =>
      split
      case isTrue => exact .refused
      case isFalse hr =>
        split
        case isTrue => exact .refused
        case isFalse hh =>
          exact .began (by simpa using ha) (by simpa using hr)
            (fun h => by simpa [h] using hh)
  | finishAction =>
    simp only [step, finishAction]
    split
    case isTrue => exact .refused
    case isFalse hr =>
      split
      case h_1 => exact .refused
      case h_2 journal hj => exact .finished hj (by simpa using hr)
  | submitPointerMotion p => exact submitPointerMotion_change
  | submitButtonPress b ar => exact submitButtonPress_change
  | submitButtonRelease b ar => exact submitButtonRelease_change
  | submitKeyPress key m => exact submitKeyPress_change
  | submitKeyRelease key => exact submitKeyRelease_change
  | confirmBatch =>
    simp only [step, confirmBatch]
    split
    case h_1 => exact .refused
    case h_2 checkpoint hc =>
      split
      case h_1 => exact .refused
      case h_2 journal hj =>
        by_cases hle : checkpoint ≤ journal.records.length
        · simp only [EffectJournal.confirmSince, hle, if_true]
          exact .confirmed hc hj hle
        · simp only [EffectJournal.confirmSince, hle, if_false, ← hj]
          exact .refused
  | failBatch r => exact failBatch_change
  | abandonPoisonedResetBatch =>
    simp only [step, abandonPoisonedResetBatch]
    split
    case h_1 => exact .refused
    case h_2 ho =>
      split
      case isTrue => exact .refused
      case isFalse hal => exact .abandoned (by simp [ho]) (by simp_all)
  | transitionHealth e => exact transitionHealth_change

/-! ## Bookkeeping -/

structure Bookkeeping (s : InputState) : Prop where
  owned : ∀ target ∈ s.pendingReleases, s.Owns target
  nodup : s.pendingReleases.Nodup
  pending_open : s.pendingReleases ≠ [] → s.batchCheckpoint.isSome
  open_active : ∀ checkpoint, s.batchCheckpoint = some checkpoint →
    ∃ journal, s.effects = some journal ∧ checkpoint ≤ journal.records.length
  purpose : s.actionPurpose.isSome = s.effects.isSome

theorem unresolved_eq_false : s.unresolved = false ↔ s.batchCheckpoint = none ∧ s.pendingReleases = [] := by
  simp [unresolved]

theorem owns_own {t t' m} (h : s.Owns t) : (s.own t' m).Owns t := by
  cases t' with
  | button =>
    cases t with
    | button => exact List.mem_append_left _ h
    | key => exact h
  | key =>
    cases t with
    | button => exact h
    | key =>
      obtain ⟨o, hm, hk⟩ := h
      exact ⟨o, List.mem_append_left _ hm, hk⟩

theorem Bookkeeping.openBatch (hb : Bookkeeping s) {j} (hj : s.effects = some j) :
    Bookkeeping (s.openBatch j) := by
  refine ⟨hb.owned, hb.nodup, fun _ => rfl, fun c h => ⟨j, hj, ?_⟩, hb.purpose⟩
  cases ho : s.batchCheckpoint with
  | none =>
    have h : j.checkpoint = c := by simpa [InputState.openBatch, ho] using h
    exact Nat.le_of_eq h.symm
  | some c' =>
    obtain ⟨j', hj', hle⟩ := hb.open_active c' ho
    obtain rfl : j = j' := by simpa [hj] using hj'
    have h : c' = c := by simpa [InputState.openBatch, ho] using h
    exact h ▸ hle

theorem Bookkeeping.record (hb : Bookkeeping s) {j} (hj : s.effects = some j)
    (n : Nat) (e : Effect) : Bookkeeping (s.record j n e) := by
  have ho := hb.openBatch hj
  refine ⟨ho.owned, ho.nodup, ho.pending_open, fun c h => ⟨_, rfl, ?_⟩, ?_⟩
  · obtain ⟨j', hj', hle⟩ := ho.open_active c h
    obtain rfl : j = j' := by simpa [InputState.openBatch, hj] using hj'
    simp only [List.length_append]
    omega
  · have hp := hb.purpose
    rw [hj] at hp
    exact hp

theorem Bookkeeping.own (hb : Bookkeeping s) (t : PendingRelease) (m : Bool) : Bookkeeping (s.own t m) := by
  have ho : ∀ t' ∈ s.pendingReleases, (s.own t m).Owns t' :=
    fun t' h => owns_own (hb.owned t' h)
  cases t <;> exact ⟨ho, hb.nodup, hb.pending_open, hb.open_active, hb.purpose⟩

/-- With no releases pending and no batch open nothing is left to keep. -/
theorem Bookkeeping.resolved (hp : s.pendingReleases = []) (ho : s.batchCheckpoint = none)
    (hpu : s.actionPurpose.isSome = s.effects.isSome) : Bookkeeping s :=
  ⟨by simp [hp], by simp [hp], by simp [hp], by simp [ho], hpu⟩

@[simp] theorem applyRelease_actionPurpose (s : InputState) (r : PendingRelease) :
    (s.applyRelease r).actionPurpose = s.actionPurpose := by
  cases r <;> rfl

@[simp] theorem applyRelease_effects (s : InputState) (r : PendingRelease) :
    (s.applyRelease r).effects = s.effects := by
  cases r <;> rfl

@[simp] theorem applyRelease_health (s : InputState) (r : PendingRelease) :
    (s.applyRelease r).health = s.health := by
  cases r <;> rfl

/-- Applying releases touches the owned input only. -/
theorem applyReleases_frame (r : List PendingRelease) (s : InputState) :
    (r.foldl applyRelease s).actionPurpose = s.actionPurpose ∧
      (r.foldl applyRelease s).effects = s.effects ∧
      (r.foldl applyRelease s).health = s.health := by
  induction r generalizing s with
  | nil => exact ⟨rfl, rfl, rfl⟩
  | cons rl r ih =>
    obtain ⟨hp, he, hh⟩ := ih (s.applyRelease rl)
    exact ⟨by simpa using hp, by simpa using he, by simpa using hh⟩

theorem Bookkeeping.change (h : Change s op reply s') (hb : Bookkeeping s) : Bookkeeping s' := by
  cases h with
  | refused => exact hb
  | opened hop hj => exact hb.openBatch hj
  | began _ hr | finished _ hr =>
    obtain ⟨ho, hp⟩ := unresolved_eq_false.mp hr
    exact .resolved hp ho rfl
  | motion _ _ hj | pressAgain _ hj | releaseAgain _ hj => exact hb.record hj _ _
  | press _ _ hj => exact (hb.record hj _ _).own _ _
  | @release op j n e t hop hj hef how hn =>
    have hre := hb.record hj n e
    refine ⟨fun t' h => ?_, ?_, fun _ => rfl, hre.open_active, hre.purpose⟩
    · rcases List.mem_append.mp h with h | h
      · exact hb.owned t' h
      · exact List.mem_singleton.mp h ▸ how
    · refine List.nodup_append.mpr ⟨hb.nodup, List.pairwise_singleton .., ?_⟩
      rintro t' hm _ hl rfl
      exact hn (List.mem_singleton.mp hl ▸ hm)
  | @confirmed j c hc hj =>
    refine .resolved rfl rfl ?_
    obtain ⟨hpu, he, -⟩ := applyReleases_frame s.pendingReleases
      { s with effects := some (confirmedJournal j c) }
    have ha := hb.purpose
    rw [hj] at ha
    simpa [InputState.confirmed, closeBatch, hpu, he] using ha
  | failed | abandoned | terminated => exact .resolved rfl rfl hb.purpose
  | transitioned => exact { hb with }

theorem bookkeeping_final (ops : List InputOp) : Bookkeeping (final step .new ops) :=
  final_induction (.resolved rfl rfl rfl) (fun s op h => h.change (step_change s op)) ops

/-! ## Health -/

theorem nextHealth_poisoned {e r} (hh : s.health = .poisoned r) {health} : s.nextHealth e ≠ .ok health := by
  cases e <;> simp [nextHealth, hh]

@[simp] theorem own_health (s : InputState) (t : PendingRelease) (m : Bool) :
    (s.own t m).health = s.health := by
  cases t <;> rfl

theorem confirmed_health (s : InputState) (j : EffectJournal) (c : Nat) :
    (s.confirmed j c).health = s.health :=
  (applyReleases_frame s.pendingReleases { s with effects := some (confirmedJournal j c) }).2.2

section

variable (h : Change s op reply s')
include h

/-- A step changes the health only as `nextHealth` says. -/
theorem Change.health :
    s'.health = s.health ∨ (∃ e, op = .transitionHealth e ∧ s.nextHealth e = .ok s'.health ∧
        reply = .ok none ∧ (e.isResetOutcome = true → s.actionPurpose = some .reset ∧
          s.unresolved = false)) ∨
      ∃ r, s.nextHealth (.requireReset r) = .ok s'.health := by
  cases h with
  | refused | opened | began | finished | motion | pressAgain | release | releaseAgain | abandoned =>
    exact .inl rfl
  | press => exact .inl (own_health ..)
  | confirmed => exact .inl (confirmed_health ..)
  | failed ho hn => exact .inr (.inr ⟨_, hn⟩)
  | @terminated e health he hn =>
    refine .inr (.inl ⟨e, rfl, hn, rfl, fun h => ?_⟩)
    cases e <;> simp_all [HealthEvent.isTerminal, HealthEvent.isResetOutcome]
  | transitioned he hn hr => exact .inr (.inl ⟨_, rfl, hn, rfl, hr⟩)

/-- The only way out of `ResetRequired` to `Healthy`. -/
theorem Change.reset_succeeded {r} (hh : s.health = .resetRequired r) (hhe : s'.health = .healthy) :
    op = .transitionHealth .resetSucceeded ∧ reply = .ok none ∧ s.actionPurpose = some .reset ∧
      s.batchCheckpoint = none ∧ s.pressedButtons = [] ∧ s.pressedKeys = [] ∧ s.pendingReleases = [] := by
  obtain hs | ⟨e, rfl, hn, rfl, hr⟩ | ⟨r', hn⟩ := h.health
  · simp [hh, hhe] at hs
  · rw [hhe] at hn
    obtain ⟨rfl, hb, hk⟩ : e = .resetSucceeded ∧ s.pressedButtons = [] ∧ s.pressedKeys = [] := by
      cases e <;> simp_all [nextHealth]
    obtain ⟨hp, hre⟩ := hr rfl
    obtain ⟨ho, hpe⟩ := unresolved_eq_false.mp hre
    exact ⟨rfl, rfl, hp, ho, hb, hk, hpe⟩
  · simp [hhe, nextHealth, hh] at hn

theorem Change.poisoned {r} (hh : s.health = .poisoned r) : s'.health = .poisoned r := by
  obtain hs | ⟨e, -, hn, -⟩ | ⟨r', hn⟩ := h.health
  · exact hs.trans hh
  · exact absurd hn (nextHealth_poisoned hh)
  · exact absurd hn (nextHealth_poisoned hh)

/-- A press or motion is accepted only while it is allowed. -/
theorem Change.allowed (hok : reply = .ok none) (hop : op.submission = some .motion ∨ ∃ t,
    op.submission = some (.press t)) : s.PressAllowed := by
  cases h with
  | motion _ ha | press _ ha | pressAgain ha => exact ha
  | release hop' | releaseAgain hop' => simp [hop'] at hop
  | refused | opened => cases hok
  | _ => simp [InputOp.submission] at hop

end

end InputState

end Xenoteer
