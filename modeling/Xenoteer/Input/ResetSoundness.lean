/-
The health machine and what a reset proves: ordinary input runs only while
healthy, health comes back only through a reset that left nothing owned, and
an action whose batches were all confirmed leaves no doubt in its journal.
-/
import Xenoteer.Input.StateFacts

namespace Xenoteer.InputState

open Lib.Run

variable {s s' : InputState} {op : InputOp} {reply : InputReply}

/-! ## Confirmed journals -/

/-- Everything the journal holds from before the open batch is confirmed. -/
def Clean (s : InputState) : Prop :=
  ∀ journal, s.effects = some journal →
    ∀ record ∈ journal.records.take (s.batchCheckpoint.getD journal.records.length),
      record.certainty = .confirmed

/-- The operation closes the open batch, if it does, by confirming it. -/
def ConfirmsBatch (s : InputState) (op : InputOp) : Prop :=
  s.batchCheckpoint.isSome → (step s op).2.batchCheckpoint = none → op = .confirmBatch

variable {j : EffectJournal}

theorem Clean.openBatch (hc : Clean s) (hj : s.effects = some j) : Clean (s.openBatch j) := by
  intro jr' hj'
  obtain rfl : j = jr' := by simpa [InputState.openBatch, hj] using hj'
  simpa [InputState.openBatch, EffectJournal.checkpoint] using hc j hj

/-- A record is appended behind the checkpoint. -/
theorem Clean.record (hc : Clean s) (hb : Bookkeeping s) (hj : s.effects = some j)
    (n : Nat) (e : Effect) : Clean (s.record j n e) := by
  have ho := hc.openBatch hj j hj
  obtain ⟨jr', hj', hle⟩ := (hb.openBatch hj).open_active _ rfl
  obtain rfl : j = jr' := by simpa [InputState.openBatch, hj] using hj'
  rintro _ ⟨⟩
  simpa [InputState.record, InputState.openBatch, List.take_append_of_le_length hle] using ho

theorem Clean.confirmed (hc : Clean s) {checkpoint} (hj : s.effects = some j)
    (hch : s.batchCheckpoint = some checkpoint) : Clean (s.confirmed j checkpoint) := by
  have he : (s.confirmed j checkpoint).effects = some (confirmedJournal j checkpoint) :=
    (applyReleases_frame s.pendingReleases { s with effects := some (confirmedJournal j checkpoint) }).2.1
  intro journal' hj'
  obtain rfl : confirmedJournal j checkpoint = journal' := by simpa [he] using hj'
  intro record hm
  rcases List.mem_append.mp (List.mem_of_mem_take hm) with hm | hm
  · exact hc j hj record (by simpa [hch] using hm)
  · obtain ⟨original, -, rfl⟩ := List.mem_map.mp hm
    rfl

theorem Clean.own (hc : Clean s) (t : PendingRelease) (m : Bool) : Clean (s.own t m) := by
  cases t <;> exact hc

theorem Clean.change (h : Change s op reply s') (hb : Bookkeeping s)
    (hco : s.batchCheckpoint.isSome → s'.batchCheckpoint = none → op = .confirmBatch) (hc : Clean s) :
    Clean s' := by
  cases h with
  | refused | transitioned => exact hc
  | opened hop hj => exact hc.openBatch hj
  | began =>
    rintro _ ⟨⟩
    simp [EffectJournal.new]
  | finished => exact nofun
  | motion _ _ hj | pressAgain _ hj | releaseAgain _ hj | release _ hj => exact hc.record hb hj _ _
  | press _ _ hj => exact (hc.record hb hj _ _).own _ _
  | confirmed hch hj => exact hc.confirmed hj hch
  | failed ho | abandoned ho => cases hco ho rfl
  | terminated =>
    cases ho : s.batchCheckpoint with
    | some c => cases hco (by simp [ho]) rfl
    | none => simpa [Clean, closeBatch, ho] using hc

theorem Clean.begun {p} (h : (s.beginAction p).1 = .ok ()) : Clean (s.beginAction p).2 := by
  revert h
  unfold beginAction
  split
  · rintro ⟨⟩
  split
  · rintro ⟨⟩
  split
  · rintro ⟨⟩
  · rintro - _ ⟨⟩
    simp [EffectJournal.new]

/-- Along operations that close every batch by confirming it, the journal
stays clean. -/
theorem Clean.run (hb : Bookkeeping s) (hc : Clean s) (ops : List InputOp)
    (ho : along step ConfirmsBatch s ops) : Clean (final step s ops) := by
  refine (run_induction_along (P := fun s _ => Bookkeeping s ∧ Clean s) ⟨hb, hc⟩ ?_ ops ho).2
  intro s log op ⟨hb, hc⟩ hco
  exact ⟨hb.change (step_change s op), hc.change (step_change s op) hb hco⟩

theorem Clean.finished (hc : Clean s) (h : s.finishAction.1 = .ok j) : j.hasProvisional = false := by
  unfold finishAction at h
  split at h
  case isTrue => cases h
  case isFalse hr =>
    split at h
    case h_1 => cases h
    case h_2 hj =>
      cases h
      obtain ⟨ho, -⟩ := unresolved_eq_false.mp (by simpa using hr)
      have hcl := hc j hj
      simp only [ho, Option.getD_none, List.take_length] at hcl
      simp only [EffectJournal.hasProvisional, List.any_eq_false, decide_eq_true_eq]
      intro r hm
      simp [hcl r hm]

/-! ## The machine -/

theorem finishAction_error {e} (h : s.finishAction.1 = .error e) :
    e = .noActiveAction ∨ e = .unresolvedBatch := by
  unfold finishAction at h
  split at h
  · exact .inr (by cases h; rfl)
  · split at h
    · exact .inl (by cases h; rfl)
    · cases h

/-- The health machine and the soundness of a reset, in every state that a
sequence of operations reaches. -/
theorem health_machine (ops : List InputOp) :
    let s := final step .new ops
    (∀ op, (op.submission = some .motion ∨ ∃ t, op.submission = some (.press t)) →
      (step s op).1 = .ok none → s.health = .healthy ∧ s.actionPurpose = some .ordinary) ∧
    (∀ op r, s.health = .resetRequired r → (step s op).2.health = .healthy →
      op = .transitionHealth .resetSucceeded ∧ (step s op).1 = .ok none ∧ s.actionPurpose = some .reset ∧
        s.batchCheckpoint = none ∧ s.pressedButtons = [] ∧ s.pressedKeys = [] ∧ s.pendingReleases = []) ∧
    (∀ r, s.health = .poisoned r → ∀ l, (final step s l).health = .poisoned r) ∧
    (∀ t ∈ s.pendingReleases, s.Owns t) ∧ s.pendingReleases.Nodup ∧
    (s.pendingReleases ≠ [] → s.batchCheckpoint.isSome ∧ s.effects.isSome ∧ s.actionPurpose.isSome) ∧
    (∀ c, s.batchCheckpoint = some c → ∃ j, s.effects = some j ∧ c ≤ j.records.length) ∧
    (∀ e, s.finishAction.1 = .error e → e = .noActiveAction ∨ e = .unresolvedBatch) ∧
    (∀ p st j, (s.beginAction p).1 = .ok () → along step ConfirmsBatch (s.beginAction p).2 st →
      (final step (s.beginAction p).2 st).finishAction.1 = .ok j →
      j.hasProvisional = false) := by
  intro s
  have hb : Bookkeeping s := bookkeeping_final ops
  refine ⟨fun op hop hok => ?_, fun op r => (step_change s op).reset_succeeded, fun r hh => ?_,
    hb.owned, hb.nodup, fun hp => ?_, hb.open_active, fun e => finishAction_error, ?_⟩
  · have ha := (step_change s op).allowed hok hop
    exact ⟨ha.health, ha.purpose⟩
  · exact final_induction (P := fun s => s.health = .poisoned r) hh
      (fun s op h => (step_change s op).poisoned h)
  · obtain ⟨c, ho⟩ := Option.isSome_iff_exists.mp (hb.pending_open hp)
    obtain ⟨j, hj, -⟩ := hb.open_active c ho
    exact ⟨by simp [ho], by simp [hj], by simp [hb.purpose, hj]⟩
  · intro p st j hbe hs hf
    have hbg : Bookkeeping (s.beginAction p).2 := hb.change (step_change s (.beginAction p))
    exact ((Clean.begun hbe).run hbg st hs).finished hf

/-- A click whose batch is confirmed: the journal holds a press and a release,
both confirmed. -/
theorem confirmed_click_leaves_no_doubt :
    let button : PhysicalButton := ⟨1, by decide⟩
    let c : List InputOp :=
      [.submitButtonPress button false, .submitButtonRelease button false, .confirmBatch]
    ∃ j, (final step (InputState.new.beginAction .ordinary).2 c).finishAction.1 = .ok j ∧
      j.records.map (·.effect) = [.buttonPressed button, .buttonReleased button] ∧
      j.hasProvisional = false := by
  intro button c
  obtain ⟨-, -, -, -, -, -, -, -, hc⟩ := health_machine []
  have hs : along step ConfirmsBatch (InputState.new.beginAction .ordinary).2 c := by
    refine ⟨?_, ?_, ?_, trivial⟩ <;> unfold ConfirmsBatch <;> decide +kernel
  have hf : (final step (InputState.new.beginAction .ordinary).2 c).finishAction.1 =
      .ok ⟨[⟨0, .buttonPressed button, .confirmed⟩, ⟨1, .buttonReleased button, .confirmed⟩], 2⟩ := by
    rfl
  exact ⟨_, hf, rfl, hc .ordinary c _ rfl hs hf⟩

end Xenoteer.InputState
