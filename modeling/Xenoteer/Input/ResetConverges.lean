/-
A reset of the input state converges (`input/cleanup.rs`, `input/state.rs`):
from every reachable state that needs one and is not inside an action, the
planned releases are all accepted, their batch confirms, and nothing is owned
at the end.

The errors on the way are excluded by three facts: what is owned is owned
once (`owned_nodup_final`), nothing is pending outside an action
(`Bookkeeping`), and there are fewer buttons and keycodes than records in a
journal.
-/
import Xenoteer.Input.Action
import Xenoteer.Input.StateFacts
import Mathlib.Data.Fintype.Prod

namespace Xenoteer

open Lib.Run

/-- The call that submits a planned release. -/
def CleanupAction.submit (allowRedundant : Bool) : CleanupAction → InputOp
  | .releaseButton button => .submitButtonRelease button allowRedundant
  | .releaseKey key _ => .submitKeyRelease key

/-- Where the release stands in a plan: buttons, then keys, then modifiers. -/
def CleanupAction.rank : CleanupAction → Nat
  | .releaseButton _ => 0
  | .releaseKey _ false => 1
  | .releaseKey _ true => 2

/-- The calls after the releases; there is a batch to confirm if there were any. -/
def closeOps (plan : List CleanupAction) : List InputOp :=
  (if plan = [] then [] else [.confirmBatch]) ++ [.transitionHealth .resetSucceeded, .finishAction]

/-- The calls of a reset with the given releases. -/
def resetOps (allowRedundant : Bool) (plan : List CleanupAction) : List InputOp :=
  .beginAction .reset :: plan.map (·.submit allowRedundant) ++ closeOps plan

namespace InputState

variable {s s' t : InputState} {op : InputOp} {reply : InputReply}

/-! ## Nothing is owned twice -/

/-- The owned buttons and keys, in press order. -/
def owned (s : InputState) : List PendingRelease :=
  s.pressedButtons.map .button ++ s.pressedKeys.map (.key ·.key)

theorem mem_owned {tr} : tr ∈ s.owned ↔ s.Owns tr := by
  cases tr <;> simp [owned, Owns]

theorem owned_eq_nil : s.owned = [] ↔ s.pressedButtons = [] ∧ s.pressedKeys = [] := by
  simp [owned]

theorem owned_own (s : InputState) (tr : PendingRelease) (m : Bool) :
    (s.own tr m).owned.Perm (tr :: s.owned) := by
  cases tr with
  | button => simp [own, owned]
  | key => simp [own, owned, ← List.append_assoc, List.perm_append_singleton]

/-- A release takes away what it names and nothing else. -/
theorem owned_applyRelease (s : InputState) (release : PendingRelease) :
    (s.applyRelease release).owned = s.owned.erase release := by
  cases release with
  | button button =>
    by_cases hp : button ∈ s.pressedButtons
    · rw [owned, owned, List.erase_append_left _ (List.mem_map_of_mem hp),
        ← List.map_erase fun _ _ => PendingRelease.button.inj, applyRelease]
    · have hf : .button button ∉ s.owned := fun hm => hp (mem_owned.mp hm)
      simp only [applyRelease, List.erase_of_not_mem hp, List.erase_of_not_mem hf]
  | key key =>
    have hs : ((PendingRelease.key key == ·) ∘ fun owned : OwnedKey => PendingRelease.key owned.key) =
        fun owned => decide (owned.key = key) := by
      funext owned
      rw [Bool.eq_iff_iff]
      simp only [Function.comp_apply, beq_iff_eq, PendingRelease.key.injEq, decide_eq_true_eq]
      exact eq_comm
    rw [owned, owned, List.erase_append_right _ (by simp), List.erase_eq_eraseP, List.eraseP_map, hs]
    rfl

theorem owned_applyReleases (r : List PendingRelease) (s : InputState) :
    (r.foldl applyRelease s).owned = s.owned.diff r := by
  induction r generalizing s with
  | nil => simp
  | cons rl r ih => rw [List.foldl_cons, ih, owned_applyRelease, List.diff_cons]

theorem Change.owned_nodup (h : Change s op reply s') (hs : s.owned.Nodup) : s'.owned.Nodup := by
  cases h with
  | press _ _ _ _ hf =>
    refine (owned_own ..).nodup_iff.mpr (List.nodup_cons.mpr ⟨fun hm => hf (mem_owned.mp hm), hs⟩)
  | @confirmed j c =>
    have hr := owned_applyReleases s.pendingReleases
      { s with effects := some (confirmedJournal j c) }
    exact (hr ▸ hs.diff : (List.foldl applyRelease _ _).owned.Nodup)
  | _ => exact hs

theorem owned_nodup_final (ops : List InputOp) : (final step .new ops).owned.Nodup :=
  final_induction (P := fun s => s.owned.Nodup) List.nodup_nil (fun s op h => (step_change s op).owned_nodup h) ops

/-! ## The plan -/

theorem planCleanup_perm (s : InputState) : ((planCleanup s).map CleanupAction.target).Perm s.owned := by
  have hk := List.filter_append_perm (!·.modifier) s.pressedKeys.reverse
  simp only [Bool.not_not] at hk
  have ht := ((hk.trans (List.reverse_perm _)).map (PendingRelease.key ·.key)).append_left
    (s.pressedButtons.reverse.map PendingRelease.button)
  refine List.Perm.trans ?_ (ht.trans ((List.reverse_perm _).map _ |>.append_right _))
  simp [planCleanup, CleanupAction.target, Function.comp_def]

theorem planCleanup_sorted {s} : (planCleanup s).Pairwise (fun a b => a.rank ≤ b.rank) := by
  simp only [planCleanup, List.pairwise_append, List.pairwise_map, CleanupAction.rank, le_refl, List.mem_append,
    List.mem_map]
  refine ⟨⟨List.pairwise_of_forall fun _ _ => trivial, List.pairwise_of_forall fun _ _ => trivial, ?_⟩,
    List.pairwise_of_forall fun _ _ => trivial, ?_⟩
  · rintro _ ⟨bt, -, rfl⟩ _ ⟨o, -, rfl⟩
    exact Nat.zero_le _
  · rintro _ (⟨bt, -, rfl⟩ | ⟨o, -, rfl⟩) _ ⟨m, -, rfl⟩ <;> simp

/-- Which of the 512 possible buttons and keys it is. -/
def code : PendingRelease → Bool × Fin 256
  | .button button => (false, button.detail.toFin)
  | .key key => (true, key.keycode.toFin)

theorem code_injective : Function.Injective code := by
  rintro (⟨a, _⟩ | ⟨a, _⟩) (⟨b, _⟩ | ⟨b, _⟩) h <;> simp_all [code, UInt8.toFin_inj]

/-- The journal has room for every plan. -/
theorem planCleanup_length_lt (hs : s.owned.Nodup) : (planCleanup s).length < maxEffectRecords := by
  have hc := (hs.map code_injective).length_le_card
  have hl := (planCleanup_perm s).length_eq
  simp only [List.length_map, Fintype.card_prod, Fintype.card_bool, Fintype.card_fin] at hc hl
  rw [maxEffectRecords]
  omega

/-! ## Submitting the plan -/

/-- The reset action of `s` after the releases `done` were submitted. -/
structure Releasing (s : InputState) (done : List PendingRelease) (t : InputState) : Prop where
  buttons : t.pressedButtons = s.pressedButtons
  keys : t.pressedKeys = s.pressedKeys
  health : t.health = s.health
  purpose : t.actionPurpose = some .reset
  pending : t.pendingReleases = done
  batch : t.batchCheckpoint = if done = [] then none else some 0
  journal : ∃ j, t.effects = some j ∧ j.records.length = done.length ∧ j.nextSequence = done.length

variable {done : List PendingRelease}

section

variable (h : Releasing s done t)

include h

theorem Releasing.owns {tr} : t.Owns tr ↔ s.Owns tr := by
  cases tr <;> simp [Owns, h.buttons, h.keys]

/-- An owned release that is not pending yet is accepted. -/
theorem Releasing.submit {a : CleanupAction}
    (ho : s.Owns a.target) (hn : a.target ∉ done) (hr : done.length < maxEffectRecords)
    (ar : Bool) : (t.step (a.submit ar)).1 = .ok none ∧
      Releasing s (done ++ [a.target]) (t.step (a.submit ar)).2 := by
  obtain ⟨j, hj, hl, hs⟩ := h.journal
  have hne : checkedAdd j.nextSequence 1 = some (j.nextSequence + 1) := by
    refine checkedAdd_eq_some.mpr ⟨?_, rfl⟩
    rw [hs]
    exact (Nat.succ_le_of_lt hr).trans (by decide)
  have ha : ∀ e, t.appendEffect e = (.ok (), t.record j (j.nextSequence + 1) e) := by
    intro e
    simp [appendEffect, hj, EffectJournal.recordProvisional, hl, Nat.not_le.mpr hr, hne, record, openBatch]
  have hre : ∀ e,
      Releasing s (done ++ [a.target]) ((t.record j (j.nextSequence + 1) e).addRelease a.target) := by
    intro e
    refine ⟨h.buttons, h.keys, h.health, h.purpose, ?_, ?_, _, rfl, ?_, ?_⟩
    · simp [addRelease, record, openBatch, h.pending]
    · -- the batch is the one the first release opened
      cases done with
      | nil => simp [addRelease, record, openBatch, h.batch, EffectJournal.checkpoint, hl]
      | cons => simp [addRelease, record, openBatch, h.batch]
    · simp [hl]
    · simp [hs]
  rw [← h.owns] at ho
  rw [← h.pending] at hn
  cases a with
  | releaseButton b =>
    have hpr : b ∈ t.pressedButtons := ho
    have hp : .button b ∉ t.pendingReleases := hn
    simp only [CleanupAction.submit, step, submitButtonRelease, hpr, hp, ha, decide_true, decide_false,
      Bool.not_true, Bool.not_false, Bool.or_self, Bool.false_and, Bool.false_eq_true, if_false, Bool.and_self, if_true]
    exact ⟨rfl, hre _⟩
  | releaseKey key m =>
    have hp : .key key ∉ t.pendingReleases := hn
    obtain ⟨o, hm, hk⟩ := ho
    obtain ⟨f, hf⟩ : ∃ f, t.pressedKeys.find? (·.key = key) = some f :=
      Option.isSome_iff_exists.mp (List.find?_isSome.mpr ⟨o, hm, by simpa using hk⟩)
    simp only [CleanupAction.submit, step, submitKeyRelease, hf, hp, ha, if_false]
    exact ⟨rfl, hre _⟩

theorem Releasing.submits {td : List CleanupAction}
    (ho : ∀ ac ∈ td, s.Owns ac.target) (hn : (done ++ td.map CleanupAction.target).Nodup)
    (hr : done.length + td.length ≤ maxEffectRecords) {ar : Bool} :
    (∀ e ∈ answers step t (td.map (·.submit ar)), e.2 = .ok none) ∧
      Releasing s (done ++ td.map CleanupAction.target)
        (final step t (td.map (·.submit ar))) := by
  induction td generalizing done t with
  | nil => simpa using h
  | cons ac td ih =>
    have hne : ac.target ∉ done := by
      rw [List.map_cons, List.nodup_append] at hn
      exact fun hm => hn.2.2 _ hm _ List.mem_cons_self rfl
    simp only [List.length_cons] at hr
    obtain ⟨hre, hnx⟩ := h.submit (ho ac List.mem_cons_self) hne (by omega) ar
    obtain ⟨hrp, hl⟩ := ih hnx (fun a ha => ho a (List.mem_cons_of_mem _ ha))
      (by simpa using hn) (by simp only [List.length_append, List.length_singleton]; omega)
    simp only [List.map_cons, answers_cons, final_cons, List.mem_cons, forall_eq_or_imp]
    exact ⟨⟨hre, hrp⟩, by simpa using hl⟩

/-- The reset action with its batch closed and nothing owned. -/
structure Released (s t : InputState) : Prop where
  owned : t.owned = []
  health : t.health = s.health
  purpose : t.actionPurpose = some .reset
  resolved : t.unresolved = false
  active : t.effects.isSome

/-- Once everything owned is pending, confirming the batch leaves nothing owned. -/
theorem Releasing.confirm (hs : s.owned.Nodup)
    (hd : done ≠ []) (ha : s.owned ⊆ done) :
    (t.step .confirmBatch).1 = .ok none ∧ Released s (t.step .confirmBatch).2 := by
  obtain ⟨j, hj, -⟩ := h.journal
  have ho : t.batchCheckpoint = some 0 := h.batch.trans (if_neg hd)
  have hc : t.step .confirmBatch = (.ok none, t.confirmed j 0) := by
    simp [step, confirmBatch, ho, hj, EffectJournal.confirmSince, confirmed, closeBatch, confirmedJournal, plain,
      Except.map]
  have hsa : t.owned = s.owned := by rw [InputState.owned, h.buttons, h.keys, InputState.owned]
  obtain ⟨hp, he, hh⟩ := applyReleases_frame t.pendingReleases
    { t with effects := some (confirmedJournal j 0) }
  have hn := owned_applyReleases t.pendingReleases { t with effects := some (confirmedJournal j 0) }
  rw [show InputState.owned { t with effects := some (confirmedJournal j 0) } = s.owned from hsa, h.pending,
    hs.sdiff_eq_filter, List.filter_eq_nil_iff.mpr fun tr hm => by simpa using ha hm] at hn
  rw [h.pending] at hp he hh
  rw [hc]
  refine ⟨rfl, ?_, ?_, ?_, rfl, ?_⟩ <;> simp only [confirmed, h.pending]
  · exact hn
  · exact hh.trans h.health
  · exact hp.trans h.purpose
  · exact Option.isSome_of_eq_some he

end

variable {reason : ResetReason}

/-- A reset with nothing left to release succeeds. -/
theorem Released.finish (h : Released s t) (hh : s.health = .resetRequired reason) :
    (∀ e ∈ answers step t [.transitionHealth .resetSucceeded, .finishAction], ∃ r, e.2 = .ok r) ∧
      (final step t [.transitionHealth .resetSucceeded, .finishAction]).owned = [] ∧
      (final step t [.transitionHealth .resetSucceeded, .finishAction]).health = .healthy := by
  obtain ⟨hb, hk⟩ := owned_eq_nil.mp h.owned
  obtain ⟨hc, hp⟩ := unresolved_eq_false.mp h.resolved
  obtain ⟨j, hj⟩ := Option.isSome_iff_exists.mp h.active
  have hs : t.step (.transitionHealth .resetSucceeded) = (.ok none, { t with health := .healthy }) := by
    simp [step, transitionHealth, nextHealth, h.purpose, h.resolved, h.health, hh, hb, hk, hp,
      HealthEvent.isTerminal, plain, Except.map]
  have hf : step { t with health := .healthy } .finishAction = (.ok (some j),
      { t with health := .healthy, effects := none, actionPurpose := none }) := by
    simp [step, finishAction, unresolved, hc, hp, hj, Except.map]
  simp only [answers_cons, answers_nil, final_cons, final_nil, hs, hf, List.mem_cons, List.not_mem_nil,
    or_false, forall_eq_or_imp, forall_eq]
  exact ⟨⟨⟨_, rfl⟩, _, rfl⟩, h.owned, trivial⟩

theorem Releasing.close {p} (h : Releasing s (p.map CleanupAction.target) t)
    (hs : s.owned.Nodup) (ha : s.owned ⊆ p.map CleanupAction.target)
    (hh : s.health = .resetRequired reason) : (∀ e ∈ answers step t (closeOps p), ∃ r, e.2 = .ok r) ∧
      (final step t (closeOps p)).owned = [] ∧ (final step t (closeOps p)).health = .healthy := by
  cases p with
  | nil =>
    have hn : t.owned = [] := by
      rw [InputState.owned, h.buttons, h.keys]
      exact List.subset_nil.mp ha
    obtain ⟨j, hj, -⟩ := h.journal
    have hr : Released s t := ⟨hn, h.health, h.purpose, unresolved_eq_false.mpr ⟨h.batch, h.pending⟩,
      Option.isSome_of_eq_some hj⟩
    exact hr.finish hh
  | cons a p =>
    obtain ⟨hre, hr⟩ := h.confirm hs (by simp) ha
    obtain ⟨hrp, he⟩ := hr.finish hh
    refine ⟨fun e hm => ?_, he⟩
    obtain rfl | hm := List.mem_cons.mp hm
    · exact ⟨_, hre⟩
    · exact hrp e hm

/-! ## The reset -/

/-- **Reset converges.** From every reachable state that needs a reset and is
not inside an action, a reset with the planned releases succeeds at every call
and ends healthy with nothing owned; the plan names everything owned once,
buttons first, then keys, then modifiers, each in reverse press order. -/
theorem reset_converges {ops : List InputOp} (allowRedundant : Bool)
    (hidle : (final step .new ops).effects = none) (hhealth : (final step .new ops).health = .resetRequired reason) :
    let s := final step .new ops
    let p := planCleanup s
    (∀ e ∈ answers step s (resetOps allowRedundant p), ∃ r, e.2 = .ok r) ∧
      (final step s (resetOps allowRedundant p)).pressedButtons = [] ∧
      (final step s (resetOps allowRedundant p)).pressedKeys = [] ∧
      (final step s (resetOps allowRedundant p)).health = .healthy ∧
      (p.map CleanupAction.target).Nodup ∧
      (∀ tr, tr ∈ p.map CleanupAction.target ↔ s.Owns tr) ∧
      p.Pairwise (fun a b => a.rank ≤ b.rank) ∧
      p.filter CleanupAction.isButton = (s.pressedButtons.map .releaseButton).reverse ∧
      ∀ m, p.filter (CleanupAction.isKey m) =
        ((s.pressedKeys.filter (·.modifier == m)).map fun o => .releaseKey o.key m).reverse := by
  intro s p
  have hb := bookkeeping_final ops
  have hn := owned_nodup_final ops
  have hp := planCleanup_perm s
  -- nothing waits outside an action, so the reset begins
  have hc : s.batchCheckpoint = none := by
    by_contra ho
    obtain ⟨c, hch⟩ := Option.ne_none_iff_exists'.mp ho
    obtain ⟨j, hj, -⟩ := hb.open_active c hch
    cases hidle.symm.trans hj
  have hpe : s.pendingReleases = [] := by
    by_contra hw
    have ho : s.batchCheckpoint.isSome := hb.pending_open hw
    simp [hc] at ho
  have hbe : s.step (.beginAction .reset) =
      (.ok none, { s with effects := some .new, actionPurpose := some .reset }) := by
    simp [step, beginAction, show s.effects = none from hidle, unresolved, hc, hpe, plain, Except.map]
  have hs : Releasing s [] { s with effects := some .new, actionPurpose := some .reset } :=
    ⟨rfl, rfl, rfl, rfl, hpe, hc, _, rfl, rfl, rfl⟩
  obtain ⟨hr, hsu⟩ := hs.submits
    (fun ac hm => mem_owned.mp (hp.subset (List.mem_map_of_mem hm)))
    (by simpa using hp.nodup_iff.mpr hn) (by simpa using (planCleanup_length_lt hn).le)
  obtain ⟨hcl, hno, hh⟩ := hsu.close hn hp.symm.subset hhealth
  obtain ⟨hbu, hk⟩ := owned_eq_nil.mp hno
  have hf : final step s (resetOps allowRedundant p) = _ := final_append ..
  rw [final_cons, hbe] at hf
  rw [hf]
  refine ⟨fun e hm => ?_, hbu, hk, hh, hp.nodup_iff.mpr hn,
    fun tr => hp.mem_iff.trans mem_owned, planCleanup_sorted, ?_, fun m => ?_⟩
  · rw [resetOps, answers_append, answers_cons, final_cons, hbe] at hm
    obtain hm | hm := List.mem_append.mp hm
    · obtain rfl | hm := List.mem_cons.mp hm
      · exact ⟨_, rfl⟩
      · exact ⟨_, hr e hm⟩
    · exact hcl e hm
  · simp [p, planCleanup, List.filter_map, Function.comp_def, CleanupAction.isButton]
  · cases m <;> simp [p, planCleanup, List.filter_map, Function.comp_def, CleanupAction.isKey]

/-- A button and a modifier are held when the batch of their presses fails. -/
def heldInput : InputState :=
  final step .new [.beginAction .ordinary, .submitKeyPress ⟨50, by decide⟩ true, .submitButtonPress ⟨1, by decide⟩ false,
    .failBatch .checkedRequestFailed, .finishAction]

theorem held_input_reset :
    planCleanup heldInput = [.releaseButton ⟨1, by decide⟩, .releaseKey ⟨50, by decide⟩ true] ∧
      (final step heldInput (resetOps false (planCleanup heldInput))).health = .healthy :=
  ⟨by decide, (reset_converges false (by decide)
    (show heldInput.health = .resetRequired .checkedRequestFailed by decide)).2.2.2.1⟩

end InputState

end Xenoteer
