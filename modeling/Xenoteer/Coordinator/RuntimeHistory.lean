/-
What a run of the actor shows to the outside: the replies, the executions it
starts and the terminal updates. The history of a command (when it was
admitted, started, finished) is read off what the steps sent.
-/
import Xenoteer.Coordinator.RuntimeEffects

namespace Xenoteer

variable {C R E : Type}

/-! ## Reading the output of a step -/

namespace Sent

/-- An execution of the command starts. -/
def starts (key : ActiveKey) : Sent C R E → Bool
  | .execute k _ _ => k = key
  | _ => false

/-- The terminal record of the command goes to its watchers. -/
def ends (key : ActiveKey) : Sent C R E → Bool
  | .update k record => k = key && record.state.isTerminal
  | _ => false

/-- A submission is answered with `admitted = true`. -/
def admits : Sent C R E → Bool
  | .reply (.submitted (.ok submission)) => submission.admitted
  | _ => false

/-- An `InvariantViolation` of a submission, a cancellation or a watch. -/
def violates : Sent C R E → Bool
  | .reply (.submitted (.error e)) | .reply (.cancelled (.error e)) | .reply (.watched (.error e)) =>
    e = .ledger .invariantViolation
  | _ => false

end Sent

namespace CoordinatorTask

/-- The submission that a step admitted. -/
def admission (entry : Step C R E × List (Sent C R E)) : Option (CommandAdmission C) :=
  match entry.1 with
  | .select (.message (.submit a)) => if entry.2.any Sent.admits then some a else none
  | _ => none

/-- Whether a step admitted the command. -/
def admits (key : ActiveKey) (entry : Step C R E × List (Sent C R E)) : Bool :=
  (admission entry).any (·.key = key)

/-- All that the steps of a history sent, in order. -/
def outputs (log : List (Step C R E × List (Sent C R E))) : List (Sent C R E) := log.flatMap (·.2)

@[simp] theorem outputs_nil : outputs ([] : List (Step C R E × List (Sent C R E))) = [] := rfl

@[simp] theorem outputs_append (log log' : List (Step C R E × List (Sent C R E))) :
    outputs (log ++ log') = outputs log ++ outputs log' :=
  List.flatMap_append

@[simp] theorem outputs_singleton (e : Step C R E × List (Sent C R E)) : outputs [e] = e.2 := by
  simp [outputs]

variable {s s' : CoordinatorTask C R E} {key : ActiveKey}

/-! ## What the effects send -/

/-- The actor sends its notices, and calls the executor where an execution
begins; the replies are sent by the step. -/
def Unreplied (s : CoordinatorTask C R E) : Prop := ∀ x ∈ s.outbox, ∀ r, x ≠ .reply r

theorem not_reply_of_isNotice {x : Sent C R E} (h : x.IsNotice = true) (r) : x ≠ .reply r := by
  rintro rfl
  cases h

theorem Unreplied.append {out} (hs : s.Unreplied) (ho : ∀ x ∈ out, ∀ r, x ≠ .reply r) :
    ∀ x ∈ s.outbox ++ out, ∀ r, x ≠ .reply r := by
  intro x hx
  obtain hx | hx := List.mem_append.mp hx
  · exact hs x hx
  · exact ho x hx

theorem Moved.unreplied (h : Moved o s s') (hs : s.Unreplied) : s'.Unreplied := by
  refine moves_induction (fun hm hs => ?_) h.moves hs
  cases hm with
  | sent ho => exact hs.append fun x hx => not_reply_of_isNotice (Sent.isNotice_of_live (ho x hx))
  | finished | joined | resetSpawned => exact hs.append (by simp)
  | _ => exact hs

theorem Begins.unreplied (h : Begins s key s') (hs : s.Unreplied) : s'.Unreplied := by
  cases h
  exact hs.append (by simp)

theorem Rotated.unreplied (h : Rotated s s') (hs : s.Unreplied) : s'.Unreplied := by
  obtain ⟨out, ho, hn, -⟩ := h.outbox
  intro x hx
  rw [ho] at hx
  exact hs.append (fun x hx => not_reply_of_isNotice (hn x hx)) x hx

/-! Only the start of an execution calls the executor. -/

theorem countP_starts_append (sn : List (Sent C R E)) {out}
    (h : ∀ x ∈ out, x.IsNotice = true) : (sn ++ out).countP (Sent.starts key) = sn.countP
    (Sent.starts key) := by
  rw [List.countP_append, Nat.add_eq_left, List.countP_eq_zero]
  intro x hx
  cases x with
  | execute => cases h _ hx
  | _ => simp [Sent.starts]

theorem Move.starts_eq (h : Move o s s') :
    s'.outbox.countP (Sent.starts key) = s.outbox.countP (Sent.starts key) := by
  cases h with
  | sent ho => exact countP_starts_append _ fun x hx => Sent.isNotice_of_live (ho x hx)
  | finished | joined | resetSpawned => exact countP_starts_append _ (by simp [Sent.IsNotice])
  | _ => rfl

theorem Move.pending_sublist (h : Move o s s') : s'.pending.Sublist s.pending := by
  cases h with
  | finished => exact List.filter_sublist
  | popped hq => exact hq ▸ List.sublist_cons_self _ _
  | _ => exact List.Sublist.refl _

variable {a : Step C R E}

theorem Effect.unreplied {replies} (h : Effect s a replies s') (hs : s.Unreplied) : s'.Unreplied := by
  cases h with
  | quiet hm | unwound _ hm | resetJoined _ _ hm => exact hm.unreplied hs
  | admitted hm ha hm' =>
    refine hm'.unreplied ?_
    cases ha
    exact hm.unreplied hs
  | rotated _ hr hm | begun _ hr hm => exact hm.unreplied (hr.unreplied hs)

theorem not_violates_of_plain {r} (h : r.Plain) : (Sent.reply r : Sent C R E).violates = false := by
  cases r with
  | submitted rs | cancelled rs | watched rs =>
    cases rs with
    | error => exact decide_eq_false h
    | ok => rfl
  | _ => rfl

/-- No reply of a step reports a broken invariant. -/
theorem Effect.not_violates {replies} (h : Effect s a replies s') {r} (hr : r ∈ replies) :
    (Sent.reply r : Sent C R E).violates = false := by
  cases h with
  | quiet _ hp => exact not_violates_of_plain (hp r hr)
  | admitted | rotated =>
    cases List.mem_singleton.mp hr
    rfl
  | begun | unwound | resetJoined => cases hr

theorem step_not_violates (hc : Coupled s) (a) : ∀ x ∈ (s.step a).1, x.violates = false := by
  obtain ⟨rp, s', he, heq⟩ := step_effect hc a
  have hun := he.unreplied (fun x hx => by cases hx)
  rw [heq]
  intro x hx
  obtain hx | hx := List.mem_append.mp hx
  · cases x with
    | reply r => exact absurd rfl (hun _ hx r)
    | _ => rfl
  · obtain ⟨r, hr, rfl⟩ := List.mem_map.mp hx
    exact he.not_violates hr

/-- A step whose replies are plain admits nothing. -/
theorem Unreplied.admission {replies} (hs : s.Unreplied)
    (hp : ∀ r ∈ replies, (Sent.reply r : Sent C R E).admits = false) :
    admission (a, (s.answered replies).outbox) = none := by
  have hn : (s.answered replies).outbox.any Sent.admits = false := by
    rw [List.any_eq_false]
    intro x hx
    obtain hx | hx := List.mem_append.mp hx
    · cases x with
      | reply r => exact absurd rfl (hs _ hx r)
      | _ => simp [Sent.admits]
    · obtain ⟨r, hr, rfl⟩ := List.mem_map.mp hx
      simp [hp r hr]
  unfold CoordinatorTask.admission
  split
  · rw [hn, if_neg Bool.false_ne_true]
  · rfl

theorem not_admits_of_plain {r} (h : r.Plain) : (Sent.reply r : Sent C R E).admits = false := by
  cases r with
  | submitted rs =>
    cases rs with
    | error => rfl
    | ok => exact h
  | _ => rfl

theorem admission_admitted (s : CoordinatorTask C R E) (a : CommandAdmission C) (record) :
    admission (.select (.message (.submit a)),
      (s.answered [.submitted (.ok ⟨true, record, record⟩)]).outbox) = some a := by
  simp [admission, answered, Sent.admits]

/-- A step that admits is the effect of an admission. -/
theorem Effect.admitted_of {replies b} (h : Effect s a replies s')
    (hun : s.Unreplied) (had : admission (a, (s'.answered replies).outbox) = some b) :
    ∃ s₁ s₂, a = .select (.message (.submit b)) ∧ Moved none s s₁ ∧ Admits s₁ b s₂ ∧ Moved none s₂ s' ∧
      (s'.lease = s₂.lease ∨ s'.shuttingDown = true) := by
  have hun' := h.unreplied hun
  cases h with
  | quiet hm hp =>
    rw [hun'.admission fun r hr => not_admits_of_plain (hp r hr)] at had
    cases had
  | admitted hm ha hm' hl =>
    cases (admission_admitted _ _ _).symm.trans had
    exact ⟨_, _, rfl, hm, ha, hm', hl⟩
  | rotated | begun | unwound | resetJoined => cases had

end CoordinatorTask

/-! ## A small actor -/

/-- One execution at a time. -/
def CoordinatorSettings.small : CoordinatorSettings :=
  ⟨⟨1⟩, ⟨1⟩, 4, 4, 4, 1, .default, ⟨4, 1000, by decide, by decide⟩,
    ⟨4, 64, by decide, by decide, by decide⟩,
    by decide, by decide, by decide, by decide, by decide⟩

/-- A clock that advances by a millisecond with each reading. -/
def Clock.ticking : Clock := ⟨fun n => n * 10 ^ 6, fun _ _ h => Nat.mul_le_mul_right _ h⟩

/-- The actor of the small settings, before its first message. -/
def CoordinatorTask.small : CoordinatorTask Unit Unit Unit := initial .small (fun _ _ => []) .ticking

theorem CoordinatorTask.spawn_small : spawn .small (fun _ _ => []) .ticking = .ok CoordinatorTask.small :=
  spawn_eq .small (fun _ _ => []) .ticking

def CommandAdmission.sample : CommandAdmission Unit :=
  ⟨.operator, ⟨1⟩, .zero, .first, .notRequired, none, ()⟩

end Xenoteer
