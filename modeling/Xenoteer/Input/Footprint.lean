/-
What the engine's methods do to it, said once: every method is a list of
changes (`Change`), and what it keeps follows from the kinds of change it
makes. A change joins what belongs together: an observation and the buttons
it shows up, a drained mapping, a press and its note in the ledger.

A plain method may send and record, but leaves the keyboard mapping and its
restoration alone and never makes an engine healthy.
-/
import Xenoteer.Input.Engine
import Xenoteer.Input.StateFacts

namespace Xenoteer

open Lib Prog

set_option synthInstance.maxSize 1000

/-- Marks about keyboard mappings and keyboard actions. -/
def EngineMark.isMapping : EngineMark → Bool
  | .restoreStored _ _ | .restoreDropped _ | .keyboardStarted => true
  | _ => false

def Entry.isMapping : Entry → Bool
  | .writeKeyboardMapping _ _ _ => true
  | .mark m => m.isMapping
  | _ => false

namespace InputEngine

variable {ε φ α β : Type} {env : Environment} {s : InputEngine}

inductive Change where
  | entry (entry : Entry)
  | drained (events : DrainedEvents)
  | pointer (point : RootPoint)
  /-- An observation with the buttons it shows up. -/
  | observedButtons (observation : PointerObservation)
  | observedKeys (pressed : List PhysicalKey)
  | reconciled (observation : PointerObservation)
  /-- An event is noted and handed over. -/
  | sent (event : PlannedEvent) (answer : Exit BackendFault Unit)
  | cleared (events : List PlannedEvent)
  | state (op : InputOp)
  | invariantFailed
  | keyboardEffect (count : Nat)
  | holds (captured : List CapturedKeyHold) (synthesized : List SynthesizedModifierRef)
  | restore (pending : Option PendingTemporaryRestore)

namespace Change

def apply : Change → InputEngine → InputEngine
  | .entry noted, s => s.addEntry noted
  | .drained events, s => applyDrainedMapping events (s.addEntry (.drainEvents (.ok events)))
  | .pointer point, s => { s with lastPointer := some point }
  | .observedButtons observation, s => noteObservation observation
      (s.addEntry (.observePointer (.ok observation)))
  | .observedKeys pressed, s =>
    { s.addEntry (.observeKeys (.ok pressed)) with
      sentPressLedger := s.sentPressLedger.reconcileKeys pressed }
  | .reconciled observation, s => reconcileButtons observation s
  | .sent event answer, s =>
    { s.addEntry (.sendEvent event.backend answer) with sentPressLedger := s.sentPressLedger.note event }
  | .cleared events, s => { s with sentPressLedger := s.sentPressLedger.clearReleased events }
  | .state op, s => { s with state := (s.state.step op).2 }
  | .invariantFailed, s => { s with invariantFailed := true }
  | .keyboardEffect count, s => noteKeyboardEffect count s
  | .holds captured synthesized, s =>
    { s with capturedKeys := captured, synthesizedModifiers := synthesized }
  | .restore pending, s => { s with pendingKeyboardRestore := pending }

def isPlain : Change → Bool
  | .entry noted => !noted.isMapping
  | .state op => op ≠ .transitionHealth .resetSucceeded
  | .restore _ => false
  | _ => true

end Change

/-- Changes of one kind. -/
def made (P : Change → Prop) : Frame InputEngine := Frame.changes Change.apply P

def plain : Frame InputEngine := made (·.isPlain = true)

variable {P : Change → Prop}

theorem made_one {c} (hc : P c) : (made P).rel s (c.apply s) :=
  Frame.changes_one hc

theorem of_made {F : Frame InputEngine} (hF : ∀ c s, P c → F.rel s (Change.apply c s))
    (h : (made P).rel s s') : F.rel s s' :=
  Frame.of_changes hF h

abbrev Plain (x : EngineM ε α) : Prop := Framed plain x

/-! ## Questions and faults -/

theorem ask_plain {an : EngineTrace → Exit φ α} {en : Exit φ α → Entry}
    (he : ∀ g, (en g).isMapping = false) : Plain (ask an en : EngineM ε (Except φ α)) := by
  refine ⟨fun s => ?_⟩
  have ho : plain.rel s (s.addEntry (en (an s.trace))) :=
    made_one (c := .entry (en (an s.trace))) (by simp [Change.isPlain, he])
  rcases hg : an s.trace with a | e | _ <;> simpa only [ask, hg] using ho

theorem update_plain {g} (hg : ∀ s, plain.rel s (g s)) : Plain (update g : EngineM ε Unit) := ⟨.update hg⟩

theorem transitionHealth_plain {e} (h : e ≠ .resetSucceeded) :
    Plain (update (transitionHealth e) : EngineM ε Unit) :=
  update_plain fun _ => made_one (c := .state (.transitionHealth e)) (by simpa [Change.isPlain] using h)

instance : Plain (markPanicked : EngineM ε Unit) := by
  refine update_plain fun s => ?_
  have hs : plain.rel s (s.transitionHealth .actorPanicked) :=
    made_one (c := .state (.transitionHealth .actorPanicked)) rfl
  exact plain.trans hs (made_one (c := .invariantFailed) rfl)

instance : Plain (applyBackendFault f : EngineM ε Unit) := by
  refine transitionHealth_plain ?_
  unfold faultEvent
  split <;> simp

instance : Plain (applyConnectionFault f : EngineM ε Unit) := by
  refine update_plain fun s => ?_
  split
  · exact made_one (c := .state (.transitionHealth .connectionLost)) rfl
  · exact plain.refl s

instance : Plain (update (transitionHealth (.requireReset r)) : EngineM ε Unit) := transitionHealth_plain (by simp)

instance : Plain (barrierFault f : EngineM ε InputFailureKind) := by
  dsimp only [barrierFault]
  infer_instance

instance : Plain (update (noteModelFault f) : EngineM ε Unit) := by
  refine update_plain fun s => ?_
  unfold noteModelFault
  split
  · exact made_one (c := .state (.transitionHealth .connectionLost)) rfl
  · exact plain.refl s

instance : Plain (keyboardModelFailure f ae : EngineM ε InputFailureKind) := by
  dsimp only [keyboardModelFailure]
  infer_instance

instance : Plain (keyboardIdentifierFailure f i ae : EngineM ε InputFailureKind) := by
  dsimp only [keyboardIdentifierFailure]
  infer_instance

instance : Plain (temporaryMappingPreflightFailure f : EngineM ε InputFailureKind) := by
  dsimp only [temporaryMappingPreflightFailure]
  split <;> infer_instance

instance {t} {r : Except KeyboardModelFault α} [∀ f, Plain (t f)] : Plain (orFailure t r) := by
  unfold orFailure
  split <;> infer_instance

instance : Plain (keyboardResolutionContext i) := by
  refine .bind fun s => ?_
  dsimp only
  split <;> infer_instance

instance : Plain (resolveSynchronized env i cx : EngineM ε _) := ask_plain fun _ => rfl

instance : Plain (validateBinding env b cx : EngineM ε _) := ask_plain fun _ => rfl

instance : Plain (resolveBindings env cx i g) := by
  induction i generalizing g <;> dsimp only [resolveBindings] <;> infer_instance

instance : Plain (validateBindings env cx b) := by
  induction b <;> dsimp only [validateBindings] <;> infer_instance

instance : Plain (resolveAndValidateBindings env i cx) := by
  dsimp only [resolveAndValidateBindings]
  infer_instance

instance : Plain (deadlineElapsed env dd : EngineM ε Bool) := by
  cases dd with
  | none => exact ⟨.pure _⟩
  | some dd => exact ⟨fun s => made_one (c := .entry (.now (env.now s.trace))) rfl⟩

instance : Plain (isCancelled env : EngineM ε Bool) :=
  ⟨fun s => made_one (c := .entry (.isCancelled (env.isCancelled s.trace))) rfl⟩

instance : Plain (deadlineStop env dd : EngineM ε (Option BoundaryStop)) := by
  dsimp only [deadlineStop]
  infer_instance

instance : Plain (boundaryStop env dd : EngineM ε (Option BoundaryStop)) := by
  dsimp only [boundaryStop]
  infer_instance

instance : Plain (drainApplied env : EngineM ε _) := by
  refine ⟨fun s => ?_⟩
  rcases hg : env.drainEvents s.trace with e | f | _ <;>
    simp only [drainApplied, bind_run, ask, hg]
  · exact made_one (c := .drained e) rfl
  · exact made_one (c := .entry (.drainEvents (.error f))) rfl
  · exact made_one (c := .entry (.drainEvents .unwound)) rfl

instance : Plain (drainEvents env : EngineM ε _) := by
  dsimp only [drainEvents]
  infer_instance

instance : Plain (observePointer env : EngineM ε _) := ask_plain fun _ => rfl

instance : Plain (synchronizePreflight env : EngineM ε _) := ask_plain fun _ => rfl

instance : Plain (ask an (.waitForInputDelay dm) : EngineM ε _) := ask_plain fun _ => rfl

instance : Plain (ask an .reserveUnusedKeycode : EngineM ε _) := ask_plain fun _ => rfl

instance : Plain (ask an (.observeWindowGeometry w) : EngineM ε _) := ask_plain fun _ => rfl

instance : Plain (ask an .evaluatePrecondition : EngineM ε _) := ask_plain fun _ => rfl

instance : Plain (ask an (.validateHeldBinding b i cx) : EngineM ε _) := ask_plain fun _ => rfl

instance : Plain (ask an (.checkCookie i) : EngineM ε _) := ask_plain fun _ => rfl

instance : Plain (waitForInputDelay env dm : EngineM ε _) := by
  dsimp only [waitForInputDelay]
  infer_instance

instance : Plain (readKeyboardMapping env key : EngineM ε _) := ask_plain fun _ => rfl

instance : Plain (validateReservation env r : EngineM ε _) := ask_plain fun _ => rfl

instance : Plain (reserveBlankKeycode env) := by
  dsimp only [reserveBlankKeycode]
  infer_instance

/-! ## Plain methods -/

theorem onState_plain {f : InputState → Except InputStateError α × InputState} (op : InputOp)
    (hop : op ≠ .transitionHealth .resetSucceeded) (hf : ∀ st, (f st).2 = (st.step op).2) :
    Plain (onState f : EngineM ε _) := by
  refine ⟨fun s => ?_⟩
  have ho : plain.rel s ((Change.state op).apply s) := made_one (by simpa [Change.isPlain] using hop)
  simpa [onState, Change.apply, hf] using ho

theorem mark_plain {m} (h : m.isMapping = false) : Plain (mark m : EngineM ε Unit) :=
  update_plain fun s => made_one (c := .entry (.mark m)) (by simpa [Change.isPlain, Entry.isMapping] using h)

instance : Plain (onState InputState.finishAction : EngineM ε _) := onState_plain .finishAction (by simp) fun _ => rfl

instance : Plain (onState (applyEffect · e) : EngineM ε _) := by
  cases e with
  | motion p => exact onState_plain (.submitPointerMotion p) (by simp) fun _ => rfl
  | buttonPress b r => exact onState_plain (.submitButtonPress b r) (by simp) fun _ => rfl
  | buttonRelease b r => exact onState_plain (.submitButtonRelease b r) (by simp) fun _ => rfl
  | keyRelease key => exact onState_plain (.submitKeyRelease key) (by simp) fun _ => rfl
  | keyPress key m => exact onState_plain (.submitKeyPress key m) (by simp) fun _ => rfl
  | untrackedRelease => exact ⟨fun s => plain.refl s⟩

instance : Plain (onState InputState.confirmBatch : EngineM ε _) := onState_plain .confirmBatch (by simp) fun _ => rfl

instance : Plain (mark .batchConfirmed : EngineM ε _) := mark_plain rfl

instance : Plain (confirmBatch : EngineM ε _) := by
  dsimp only [confirmBatch]
  infer_instance

instance : Plain (onState (·.failBatch r) : EngineM ε _) := onState_plain (.failBatch r) (by simp) fun _ => rfl

/-- What a noted event is to the engine. -/
theorem sendNoted_run (event s) : ((sendNoted env event : EngineM ε (Except BackendFault Unit)).run s).2 =
      (Change.sent event (env.sendEvent s.trace event.backend)).apply s := by
  rcases hg : env.sendEvent s.trace event.backend with a | e | _ <;>
    simp only [sendNoted, bind_run, update, sendEvent, ask, hg, Change.apply, addEntry]

instance : Plain (sendNoted env e : EngineM ε _) := by
  refine ⟨fun s => ?_⟩
  rw [sendNoted_run]
  exact made_one rfl

instance : Plain (sendEvents env ev c : EngineM ε _) := by
  induction ev generalizing c <;> dsimp only [sendEvents] <;> infer_instance

instance : Plain (checkCookies env i r f : EngineM ε _) := by
  induction r generalizing i f <;> dsimp only [checkCookies] <;> infer_instance

theorem applyBatchUncertainty_step (st k) (r : Nat) :
    ∃ op, op ≠ .transitionHealth .resetSucceeded ∧ applyBatchUncertainty st k r = (st.step op).2 := by
  unfold applyBatchUncertainty
  split
  · exact ⟨.transitionHealth .actorPanicked, by simp, rfl⟩
  · exact ⟨.transitionHealth .connectionLost, by simp, rfl⟩
  · split
    · exact ⟨.failBatch (uncertaintyReason k), by simp, rfl⟩
    · exact ⟨.transitionHealth (.requireReset (uncertaintyReason k)), by simp, rfl⟩

instance {kind counts observation} : Plain (failBatch kind counts observation : EngineM BatchFailure α) := by
  refine ⟨.bind (Keeps.update fun s => ?_) fun _ => .fail _⟩
  obtain ⟨op, hop, h⟩ := applyBatchUncertainty_step s.state kind counts.recorded
  rw [h]
  exact made_one (c := .state op) (by simpa [Change.isPlain] using hop)

instance : Plain (observeNoted env : EngineM ε _) := by
  refine ⟨fun s => ?_⟩
  rcases hg : env.observePointer s.trace with o | f | _ <;>
    simp only [observeNoted, observePointer, bind_run, ask, hg]
  · exact made_one (c := .observedButtons o) rfl
  · exact made_one (c := .entry (.observePointer (.error f))) rfl
  · exact made_one (c := .entry (.observePointer .unwound)) rfl

instance : Plain (observeKeysNoted env : EngineM ε _) := by
  refine ⟨fun s => ?_⟩
  rcases hg : env.observeKeys s.trace with p | f | _ <;>
    simp only [observeKeysNoted, observeKeys, bind_run, ask, hg]
  · exact made_one (c := .observedKeys p) rfl
  · exact made_one (c := .entry (.observeKeys (.error f))) rfl
  · exact made_one (c := .entry (.observeKeys .unwound)) rfl

instance : Plain (update fun s => { s with sentPressLedger := s.sentPressLedger.clearReleased ev } : EngineM ε Unit) :=
  update_plain fun _ => made_one (c := .cleared ev) rfl

instance : Plain (settleBatch env ev ms cn ct) := by
  dsimp only [settleBatch]
  infer_instance

instance : Plain (mark (.batchStarted r) : EngineM ε _) := mark_plain rfl

instance : Plain (runBatch env e ms cn) := by
  refine .bind fun s => .bind fun _ => .bind fun _ => .bind fun _ => ?_
  split <;> infer_instance

/-! ## Pointer actions -/

instance : Plain (runBatchFor env p e ms cn) := by
  dsimp only [runBatchFor]
  infer_instance

instance : Plain (confirmObservedBatch p) := by
  dsimp only [confirmObservedBatch]
  infer_instance

instance : Plain (failObservedBatch p : EngineM ActionError α) := by
  dsimp only [failObservedBatch]
  infer_instance

instance : Plain (confirmDelayedButtonRelease env l rdm p) := by
  dsimp only [confirmDelayedButtonRelease]
  infer_instance

instance : Plain (update (notePointer o) : EngineM ε Unit) :=
  update_plain fun _ => made_one (c := .pointer o.pointer) rfl

instance : Plain (drainForAction env p) := by
  dsimp only [drainForAction]
  infer_instance

instance : Plain (requireObservedStart env pl p) := by
  dsimp only [requireObservedStart]
  infer_instance

instance : Plain (resolveWindowClickTarget env r) := by
  refine .bindExcept inferInstance fun g => ?_
  dsimp only
  split <;> infer_instance

instance : Plain (evaluatePrecondition env pc) := by
  dsimp only [evaluatePrecondition]
  infer_instance

instance : Plain (revalidateWindowClick env st p) := by
  dsimp only [revalidateWindowClick]
  infer_instance

instance : Plain (runWindowClickDwell env dm : EngineM ε _) := by
  dsimp only [runWindowClickDwell]
  infer_instance

instance : Plain (windowClickDwell env st dm dd p) := by
  dsimp only [windowClickDwell]
  split <;> infer_instance

instance : Plain (windowClickCheck env st dd p) := by
  dsimp only [windowClickCheck]
  split <;> infer_instance

instance : Plain (resolveButton p l) := by
  refine .bind fun s => ?_
  split <;> infer_instance

instance : Plain (motionSegments env dd f i sg p) := by
  induction sg generalizing i p <;> dsimp only [motionSegments] <;> infer_instance

instance : Plain (runMove env pl dd) := by
  dsimp only [runMove]
  infer_instance

instance : Plain (pressAndRelease env a b pd dd p) := by
  dsimp only [pressAndRelease]
  infer_instance

instance : Plain (clickOnce env a st i dd p) := by
  refine .bindOption inferInstance (.bind fun _ => .bindOption inferInstance (.bindOption inferInstance ?_))
  refine .bind fun b => .bind fun s => .bind fun _ => .bind fun c => ?_
  dsimp only
  split <;> infer_instance

instance : Plain (clickMovement env m dd p) := by
  dsimp only [clickMovement]
  split <;> infer_instance

instance : Plain (clicks env a st dd r p) := by
  induction r generalizing p <;> dsimp only [clicks] <;> infer_instance

instance : Plain (runClick env a st dd) := by
  dsimp only [runClick]
  infer_instance

instance : Plain (dragSegments env dd sg t p) := by
  induction sg generalizing t p <;> dsimp only [dragSegments] <;> infer_instance

instance : Plain (dragRelease env a b ta p) := by
  dsimp only [dragRelease]
  infer_instance

instance : Plain (dragPressed env a b dd p) := by
  dsimp only [dragPressed]
  infer_instance

instance : Plain (runDrag env a dd) := by
  dsimp only [runDrag]
  infer_instance

instance : Plain (scrollOnce env a i dd p) := by
  dsimp only [scrollOnce]
  infer_instance

instance : Plain (scrollNotches env a dd r p) := by
  induction r generalizing p <;> dsimp only [scrollNotches] <;> infer_instance

instance : Plain (runButton env b d ar dd) := by
  dsimp only [runButton]
  infer_instance

instance : Plain (runAction env a dd st) := by
  cases a <;> simp only [runAction, runAction.runScroll] <;> infer_instance

/-! ## Keyboard actions -/

instance : Plain confirmPendingKeyBatch := by
  dsimp only [confirmPendingKeyBatch]
  infer_instance

instance : Plain (failPendingKeyBatch r) := by
  dsimp only [failPendingKeyBatch]
  infer_instance

instance : Plain (rejectKeyBatch reason kind : EngineM InputFailureKind α) := by
  dsimp only [rejectKeyBatch]
  infer_instance

instance {t} {r : Except KeyboardModelFault α} [∀ f, Plain (t f)] : Plain (rejectAfterFault t r) := by
  unfold rejectAfterFault
  split <;> infer_instance

instance : Plain (keyPostflight env a eg eu e) := by
  dsimp only [keyPostflight]
  infer_instance

instance : Plain (update (noteKeyboardEffect cn) : EngineM ε Unit) :=
  update_plain fun _ => made_one (c := .keyboardEffect cn) rfl

instance : Plain (runKeyBatch env ev eg eu e p) := by
  dsimp only [runKeyBatch]
  infer_instance

instance : Plain (revalidateAcross env cx p b) := by
  induction b <;> dsimp only [revalidateAcross] <;> infer_instance

instance : Plain (revalidateSame env cx b) := by
  induction b <;> dsimp only [revalidateSame] <;> infer_instance

instance : Plain (validateCompleteBindingsAfterEffect env b cx p) := by
  dsimp only [validateCompleteBindingsAfterEffect]
  split <;> infer_instance

instance : Plain (runCompleteBatch env st b o cx g p) := by
  dsimp only [runCompleteBatch]
  infer_instance

instance : Plain (runKeyboardStep env st dd p) := by
  refine .bind fun cx => .bind fun b => .bindOption inferInstance ?_
  dsimp only
  split <;> infer_instance

instance : Plain (runResolvedCompleteStep env st b cx dd rbe p) := by
  refine .bindOption inferInstance ?_
  dsimp only
  split <;> infer_instance

instance : Plain (runExactScalar env sc dbm dd p) := by
  dsimp only [runExactScalar]
  split <;> infer_instance

instance {c : InputEngine → List CapturedKeyHold} {sy : InputEngine → List SynthesizedModifierRef} :
    Plain (update fun s => { s with capturedKeys := c s, synthesizedModifiers := sy s } : EngineM ε Unit) :=
  update_plain fun _ => made_one (c := .holds _ _) rfl

instance : Plain (update (reinsertHold p hold) : EngineM ε Unit) := update_plain fun _ => made_one (c := .holds _ _) rfl

instance : Plain (captureHold env i b sy p) := by
  dsimp only [captureHold]
  infer_instance

instance : Plain (runKeyboardDown env i dd p) := by
  refine .bind fun s => .bind fun _ => .bind fun cx => .bind fun b => ?_
  dsimp only
  split <;> infer_instance

instance : Plain (heldGeneration env hold p cx) := by
  dsimp only [heldGeneration]
  infer_instance

instance : Plain (releaseHold env hold p held d pr) := by
  refine .bind fun s => .bindExcept inferInstance fun ps => .bind fun _ => .bind fun _ => ?_
  split <;> infer_instance

instance : Plain (runKeyboardUp env i dd p) := by
  refine .bind fun s => .bind fun s' => ?_
  dsimp only
  split <;> infer_instance

instance : Plain (typeInstalled env sc dbm r cx dd p) := by
  refine .bind fun _ => .bind fun b => .bind fun _ => .bind fun v => .bind fun _ => ?_
  split <;> infer_instance

/-! ## Reset -/

section Reset

instance : Plain (onState InputState.abandonPoisonedResetBatch : EngineM ε _) :=
  onState_plain .abandonPoisonedResetBatch (by simp) fun _ => rfl

instance : Plain (onState (·.transitionHealth (.requireReset r)) : EngineM ε _) :=
  onState_plain (.transitionHealth (.requireReset r)) (by simp) fun _ => rfl

instance : Plain (panicIf c : EngineM ε _) := by
  dsimp only [panicIf]
  infer_instance

instance : Plain (queryKeys env b : EngineM ε _) := by
  dsimp only [queryKeys]
  infer_instance

instance : Plain (releaseOwned env c : EngineM ε _) := by
  dsimp only [releaseOwned]
  infer_instance

instance : Plain (abandonPoisoned a ev i : EngineM ε _) := by
  dsimp only [abandonPoisoned]
  infer_instance

instance {r : Except InputStateError α} : Plain (orPanic p r : EngineM ε _) := by
  unfold orPanic
  split <;> infer_instance

instance : Plain (settleReset prf rc ev p : EngineM ε _) := by
  dsimp only [settleReset]
  infer_instance

/-- The end of a reset is plain but for its success. -/
theorem concludeReset_made {P} (hp : ∀ c : Change, c.isPlain = true → P c) {healthBefore progress}
    (hs : progress.proofSucceeded = true → P (.state (.transitionHealth .resetSucceeded))) :
    Keeps (made P) (concludeReset healthBefore progress : EngineM ε (ResetProgress × Bool)) := by
  have hm {α : Type} {x : EngineM ε α} [hx : Plain x] : Framed (made P) x := ⟨hx.keeps.mono fun _ _ => Frame.changes_mono hp⟩
  refine .bind .read fun s => .bind ?_ fun transition => Framed.keeps
  · split
    · exact .pure _
    rename_i event he
    refine fun s => made_one (c := .state (.transitionHealth event)) ?_
    cases event with
    | resetSucceeded =>
      refine hs ?_
      by_contra hpr
      simp only [resetTransition] at he
      grind
    | _ => exact hp _ (by simp [Change.isPlain])

end Reset

end InputEngine

end Xenoteer
