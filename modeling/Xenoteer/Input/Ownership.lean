/-
Conservative ownership: what was pressed last is owned. A button or key whose
last accepted submission is a press must be among the pressed ones, or a
reset would leave it down; it leaves them only when a batch is confirmed that
released it after its last press.

For keys this holds of every run: an owned key is not pressed again. A button
is, with `allow_redundant`, also while its release is pending: the release
stays pending, and the confirmed batch drops a button that it leaves pressed.
The theorem is about the runs without such a press (`NotRepressed`).
-/
import Xenoteer.Input.StateFacts
import Xenoteer.Lib.Trace

namespace Xenoteer.InputState

open Lib.Run Lib.Trace

variable {s s' : InputState} {op : InputOp} {reply : InputReply} {h : List Submission}

/-- The submission of an operation that was accepted. -/
def accepted (op : InputOp) : InputReply → List Submission
  | .ok _ => op.submission.toList
  | .error _ => []

/-- The accepted submissions of a history, in order. -/
def submitted (log : List (InputOp × InputReply)) :
    List Submission := log.flatMap fun entry => accepted entry.1 entry.2

/-- No button is pressed redundantly while its release is pending. -/
def NotRepressed (s : InputState) (op : InputOp) : Prop :=
  ∀ button, op = .submitButtonPress button true → .button button ∉ s.pendingReleases

/-! ## The open batch -/

theorem batch_of_closed (ho : s.batchCheckpoint = none) : s.batch = [] := by
  unfold batch
  split
  case h_1 h => simp [ho] at h
  case h_2 => rfl

variable {j : EffectJournal}

theorem batch_openBatch (hj : s.effects = some j) : (s.openBatch j).batch = s.batch := by
  cases ho : s.batchCheckpoint with
  | none => simp [batch, openBatch, hj, ho, EffectJournal.checkpoint]
  | some c => simp [batch, openBatch, hj, ho]

theorem batch_record (hb : Bookkeeping s) (hj : s.effects = some j) (n : Nat)
    (e : Effect) : (s.record j n e).batch = s.batch ++ [e.submission] := by
  obtain ⟨jr', hj', hle⟩ := (hb.openBatch hj).open_active _ rfl
  obtain rfl : j = jr' := by simpa [openBatch, hj] using hj'
  rw [← batch_openBatch hj]
  simp [batch, record, openBatch, hj, List.drop_append_of_le_length hle]

/-! ## What leaves -/

variable {t : PendingRelease}

theorem owns_applyRelease {r} (hne : t ≠ r) (ho : s.Owns t) : (s.applyRelease r).Owns t := by
  cases r with
  | button b =>
    cases t with
    | button b' => exact (List.mem_erase_of_ne (by simpa using hne)).mpr ho
    | key => exact ho
  | key key =>
    cases t with
    | button => exact ho
    | key key' =>
      obtain ⟨o, hm, rfl⟩ := ho
      exact ⟨o, (List.mem_eraseP_of_neg (by simpa using hne)).mpr hm, rfl⟩

theorem owns_applyReleases {r : List PendingRelease} (hn : t ∉ r)
    (ho : s.Owns t) : (r.foldl applyRelease s).Owns t := by
  induction r generalizing s with
  | nil => exact ho
  | cons rl r ih =>
    simp only [List.mem_cons, not_or] at hn
    exact ih hn.2 (owns_applyRelease hn.1 ho)

theorem owns_confirmed {c : Nat} (hn : t ∉ s.pendingReleases) (ho : s.Owns t) : (s.confirmed j c).Owns t := by
  have h : (s.pendingReleases.foldl applyRelease
      { s with effects := some (confirmedJournal j c) }).Owns t := by
    refine owns_applyReleases hn ?_
    cases t <;> exact ho
  cases t <;> exact h

/-- Only a confirmed pending release ends ownership. -/
theorem Change.leaves (hc : Change s op reply s') (ho : s.Owns t)
    (hg : ¬ s'.Owns t) : op = .confirmBatch ∧ reply = .ok none ∧ t ∈ s.pendingReleases := by
  cases hc with
  | confirmed =>
    refine ⟨rfl, rfl, ?_⟩
    by_contra hn
    exact hg (owns_confirmed hn ho)
  | press =>
    refine absurd (owns_own ?_) hg
    cases t <;> exact ho
  | _ => exact absurd (by cases t <;> exact ho) hg

/-! ## Conservative ownership -/

/-- The open batch ends the history, what the history leaves pressed is owned,
and a pending release is in the batch with no press after it. -/
structure Conservative (s : InputState) (h : List Submission) : Prop where
  tail : ∃ older, h = older ++ s.batch
  pressed : ∀ target, Stands (.press target) (.release target) h → s.Owns target
  released : ∀ target ∈ s.pendingReleases, Stands (.release target) (.press target) s.batch

/-- Closing the batch with the ownership of all that the history leaves
pressed. -/
theorem Conservative.closed (ho : ∀ t, Stands (.press t) (.release t) h → s.Owns t)
    (hop : s.batchCheckpoint = none) (hp : s.pendingReleases = []) : Conservative s h :=
  ⟨⟨h, by simp [batch_of_closed hop]⟩, ho, by simp [hp]⟩

/-- A recorded submission, with what it does to the ownership. -/
theorem Conservative.submit (hc : Conservative s h) {sb} (hb : s'.batch = s.batch ++ [sb])
    (ho : ∀ t, s.Owns t ∨ sb = .press t → s'.Owns t)
    (hpe : ∀ t ∈ s'.pendingReleases, t ∈ s.pendingReleases ∨ sb = .release t)
    (hf : ∀ t ∈ s.pendingReleases, sb ≠ .press t) : Conservative s' (h ++ [sb]) := by
  obtain ⟨o, holder⟩ := hc.tail
  refine ⟨⟨o, by simp [hb, holder]⟩, fun t hs => ?_, fun t ht => ?_⟩
  · by_cases hp : sb = .press t
    · exact ho t (.inr hp)
    · exact ho t (.inl (hc.pressed t (hs.of_append_singleton hp).1))
  · rw [hb]
    rcases hpe t ht with ht | rfl
    · exact (hc.released t ht).append (by simpa using Ne.symm (hf t ht))
    · exact stands_append_self ..

theorem Conservative.change (hch : Change s op reply s') (hb : Bookkeeping s) (hpr : NotRepressed s op)
    (hc : Conservative s h) : Conservative s' (h ++ accepted op reply) := by
  cases hch with
  | refused => simpa [accepted] using hc
  | opened hop hj =>
    have hba := batch_openBatch hj
    simp only [accepted, List.append_nil]
    exact ⟨hba ▸ hc.tail, hc.pressed, hba ▸ hc.released⟩
  | began _ hr | finished _ hr =>
    obtain ⟨hoe, hp⟩ := unresolved_eq_false.mp hr
    simpa [accepted, InputOp.submission] using .closed hc.pressed hoe hp
  | motion hop _ hj he =>
    have hba := batch_record hb hj
    simp only [accepted, hop, Option.toList_some]
    refine hc.submit (he ▸ hba _ _) ?_ (fun _ => .inl) (by simp)
    exact fun t h => h.elim id (by simp)
  | @press _ j n e t m hop _ hj he hf =>
    simp only [accepted, hop, Option.toList_some]
    have hba : ((s.record j n e).own t m).batch = s.batch ++ [.press t] := by
      cases t <;> exact he ▸ batch_record hb hj _ _
    have hp :
        ((s.record j n e).own t m).pendingReleases = s.pendingReleases := by
      cases t <;> rfl
    refine hc.submit hba ?_ (fun _ h => .inl (hp ▸ h)) (fun tr' ht hs => ?_)
    · rintro tr' (ho | hs)
      · exact owns_own ho
      · cases hs
        cases t <;> simp [own, Owns]
    · cases hs
      exact hf (hb.owned _ ht)
  | @pressAgain j n e b _ hj he how =>
    simp only [accepted, InputOp.submission, Option.toList_some]
    refine hc.submit (he ▸ batch_record hb hj _ _) ?_ (fun _ => .inl) (fun tr' ht hs => ?_)
    · rintro tr' (ho | hs)
      · exact ho
      · cases hs
        exact how
    · cases hs
      exact hpr b rfl ht
  | release hop hj he =>
    simp only [accepted, hop, Option.toList_some]
    refine hc.submit (he ▸ batch_record hb hj _ _) (fun _ h => h.elim id (by simp)) ?_ (by simp)
    intro tr' ht
    exact (List.mem_append.mp ht).imp_right fun h => by rw [List.mem_singleton.mp h]
  | releaseAgain hop hj he =>
    simp only [accepted, hop, Option.toList_some]
    exact hc.submit (he ▸ batch_record hb hj _ _) (fun _ h => h.elim id (by simp))
      (fun _ => .inl) (by simp)
  | confirmed =>
    -- What the history leaves pressed has no release pending: the batch would have released it since.
    have ho : ∀ t, Stands (.press t) (.release t) h → t ∉ s.pendingReleases := by
      intro t hst hp
      obtain ⟨o, rfl⟩ := hc.tail
      exact hst.asymm (by simp) ((hc.released t hp).prepend)
    simpa [accepted, InputOp.submission] using
      .closed (fun t hst =>
        owns_confirmed (ho t hst) (hc.pressed t hst)) rfl rfl
  | failed | abandoned | terminated =>
    simpa [accepted, InputOp.submission] using .closed hc.pressed rfl rfl
  | transitioned => simpa [accepted, InputOp.submission] using ⟨hc.tail, hc.pressed, hc.released⟩

theorem conservative_final {ops} (ho : along step NotRepressed .new ops) :
    Bookkeeping (final step .new ops) ∧ Conservative (final step .new ops)
      (submitted (answers step .new ops)) := by
  refine run_induction_along
    (P := fun s log => Bookkeeping s ∧ Conservative s (submitted log)) ?_ ?_ ops ho
  · refine ⟨.resolved rfl rfl rfl, .closed ?_ rfl rfl⟩
    rintro t ⟨t₁, t₂, heq, -⟩
    simp [submitted] at heq
  · intro s log op ⟨hb, hc⟩ hp
    have hs : submitted (log ++ [(op, (step s op).1)]) = submitted log ++ accepted op
      (step s op).1 := by
      simp [submitted]
    rw [hs]
    exact ⟨hb.change (step_change s op), hc.change (step_change s op) hb hp⟩

/-- Conservative ownership, in every state of every run that presses no button
while its release is pending: the button or key whose last accepted submission
is a press is owned, and it leaves only through a `confirm_batch` whose batch,
the end of the history, releases it after its last press. -/
theorem conservative_ownership (ops : List InputOp) (hops : along step NotRepressed .new ops) :
    let s := final step .new ops
    let h := submitted (answers step .new ops)
    (∀ t, Stands (.press t) (.release t) h → s.Owns t) ∧
    ∀ op t, s.Owns t → ¬ (step s op).2.Owns t →
      op = .confirmBatch ∧ (step s op).1 = .ok none ∧ Stands (.release t) (.press t) s.batch ∧
        ∃ o, h = o ++ s.batch := by
  intro s h
  obtain ⟨-, hc⟩ := conservative_final hops
  refine ⟨hc.pressed, fun op t ho hg => ?_⟩
  obtain ⟨rfl, hr, hp⟩ := (step_change s op).leaves ho hg
  exact ⟨rfl, hr, hc.released t hp, hc.tail⟩

/-- A key and a button are pressed and the button is released. -/
def chordRun (button : PhysicalButton) (key : PhysicalKey) : List InputOp :=
  [.beginAction .ordinary, .submitKeyPress key true, .submitButtonPress button false,
    .submitButtonRelease button false]

/-- The key is owned, and the confirmed release of the button ends its
ownership. -/
theorem confirmed_release_leaves :
    let button : PhysicalButton := ⟨1, by decide⟩
    let key : PhysicalKey := ⟨38, by decide⟩
    let s := final step .new (chordRun button key)
    s.Owns (.key key) ∧ s.Owns (.button button) ∧ ¬ (step s .confirmBatch).2.Owns (.button button) ∧
      Stands (.release (.button button)) (.press (.button button)) s.batch := by
  intro button key s
  have hop : along step NotRepressed .new (chordRun button key) := ⟨nofun, nofun, nofun, nofun, trivial⟩
  have ho : s.Owns (.button button) := by
    show button ∈ s.pressedButtons
    decide +kernel
  have hg : ¬ (step s .confirmBatch).2.Owns (.button button) := by
    show button ∉ (step s .confirmBatch).2.pressedButtons
    decide +kernel
  obtain ⟨hpr, hl⟩ := conservative_ownership (chordRun button key) hop
  refine ⟨hpr (.key key) ?_, ho, hg, (hl .confirmBatch _ ho hg).2.2.1⟩
  exact ⟨[], [.press (.button button), .release (.button button)], by decide +kernel, by simp⟩

/-- Pressed, released and pressed again in one batch, the button is down when
the batch is confirmed, and is no longer owned. -/
theorem repressed_button_is_dropped : ∃ (button : PhysicalButton) (ops : List InputOp),
      (∀ entry ∈ answers step .new ops, entry.2 = .ok none) ∧
      Stands (.press (.button button)) (.release (.button button)) (submitted (answers step .new ops)) ∧
      ¬ (final step .new ops).Owns (.button button) := by
  let button : PhysicalButton := ⟨1, by decide⟩
  let ops : List InputOp := [.beginAction .ordinary, .submitButtonPress button false,
    .submitButtonRelease button false, .submitButtonPress button true, .confirmBatch]
  refine ⟨button, ops, by decide +kernel, ?_, ?_⟩
  · have h : submitted (answers step .new ops) =
        [.press (.button button), .release (.button button)] ++ [.press (.button button)] :=
          by decide +kernel
    rw [h]
    exact stands_append_self ..
  · show button ∉ (final step .new ops).pressedButtons
    decide +kernel

end Xenoteer.InputState
