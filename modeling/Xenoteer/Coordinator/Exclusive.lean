/-
Exclusive control. A command that needs a lease is admitted while its
principal holds it, but it starts when an execution slot is free. The actor
looks at the lease only at admission, so a command that outlives its lease in
the queue starts under another one (`queued_command_outlives_lease`). If no
command admitted under a lease is queued when the lease ends, otherwise than
by a rotation or a shutdown, a command starts only under its lease.
-/
import Xenoteer.Coordinator.Accounting

namespace Xenoteer.CoordinatorTask

open Lib.TreeMapKeys Lib.Run

variable {C R E : Type} {s s' : CoordinatorTask C R E} {key : ActiveKey}

/-! ## Leases and admissions -/

/-- The lease is held by `owner` under `leaseId`. -/
def HeldBy (s : CoordinatorTask C R E) (owner : PrincipalId) (leaseId : ControlLeaseId) : Prop :=
  ∃ grant, s.lease.state = .held grant ∧ grant.owner = owner ∧ grant.leaseId = leaseId

/-- The last admission of the command in a history. -/
def lastAdmission (key : ActiveKey) (log : List (Step C R E × List (Sent C R E))) :
    Option (CommandAdmission C) :=
  log.foldl (fun last entry => if admits key entry then admission entry else last) none

@[simp] theorem lastAdmission_append (log : List (Step C R E × List (Sent C R E))) (entry) :
    lastAdmission key (log ++ [entry]) =
      if admits key entry then admission entry else lastAdmission key log := by
  simp [lastAdmission]

/-- A step that ends the lease of `owner`, neither with the generation nor by
closing the actor. -/
structure LosesLease (s s' : CoordinatorTask C R E) (owner : PrincipalId) (leaseId : ControlLeaseId) :
    Prop where
  held : s.HeldBy owner leaseId
  lost : ¬ s'.HeldBy owner leaseId
  token : s'.token = s.token
  down : s'.shuttingDown = s.shuttingDown

/-- When the step ends a lease, no command admitted under it is queued, but for
those that the step stops. -/
def LeavesNone (s : CoordinatorTask C R E) (log : List (Step C R E × List (Sent C R E))) (a : Step C R E) :
    Prop :=
  ∀ owner leaseId, LosesLease s (s.step a).2 owner leaseId → ∀ key ∈ s.pending,
    ∀ adm, lastAdmission key log = some adm → adm.lease = .required leaseId → adm.principal = owner →
      key ∉ (s.step a).2.pending

theorem HeldBy.unique {o o' li li'} (h : s.HeldBy o li) (h' : s.HeldBy o' li') : o = o' ∧ li = li' := by
  obtain ⟨g, hs, rfl, rfl⟩ := h
  obtain ⟨g', hs', rfl, rfl⟩ := h'
  cases hs.symm.trans hs'
  exact ⟨rfl, rfl⟩

variable {log : List (Step C R E × List (Sent C R E))} {a : Step C R E}

theorem leavesNone_of_empty (h : s.pending = []) : LeavesNone s log a := by
  intro o li _ key hk
  rw [h] at hk
  cases hk

theorem leavesNone_of_held {o li} (h : s.HeldBy o li) (h' : (s.step a).2.HeldBy o li) : LeavesNone s log a := by
  intro o' li' hl
  obtain ⟨rfl, rfl⟩ := hl.held.unique h
  exact absurd h' hl.lost

/-! ## The queue and the lease -/

/-- Every queued command was admitted, and its lease is still held; only a
closed actor without access ordinals keeps one that it cannot make terminal. -/
def Owned (s : CoordinatorTask C R E) (log : List (Step C R E × List (Sent C R E))) : Prop :=
  ∀ key ∈ s.pending, ∃ adm, lastAdmission key log = some adm ∧ ∀ leaseId, adm.lease = .required leaseId →
    s.HeldBy adm.principal leaseId ∨ s.ledger.Exhausted ∧ s.shuttingDown = true

theorem Moved.pending_sublist (h : Moved o s s') : s'.pending.Sublist s.pending :=
  moves_induction
    (fun hm ht => hm.pending_sublist.trans ht) h.moves
    (List.Sublist.refl _)

theorem Moved.token (h : Moved o s s') : s'.token = s.token :=
  moves_induction (P := fun t => t.token = s.token) (fun hm ht => by cases hm <;> exact ht) h.moves rfl

/-- A command in the queue after a step was there before or was admitted by it. -/
theorem Effect.queued {replies} (hc : Coupled s) (h : Effect s a replies s') (hk : key ∈ s'.pending) :
    key ∈ s.pending ∨ admits key (a, (s'.answered replies).outbox) = true := by
  revert hk
  refine h.keeps (P := fun t => key ∈ t.pending →
    key ∈ s.pending ∨ admits key (a, (s'.answered replies).outbox) = true) hc ?_ ?_ ?_ ?_ ?_ .inl
  · exact fun _ hm ht hk => ht (hm.pending_sublist.subset hk)
  · rintro b r t t' rfl rfl - ha ht hk
    cases ha
    obtain hk | hk := List.mem_append.mp hk
    · exact ht hk
    · cases List.mem_singleton.mp hk
      exact .inr (by simp [admits, admission_admitted])
  · intro t hr _ hk
    rw [hr.pending] at hk
    cases hk
  · intro n k t hb ht hk
    obtain ⟨hq⟩ := hb
    exact ht (by rw [hq]; exact List.mem_cons_of_mem _ hk)
  · exact fun _ _ _ ht hk => ht hk

/-- A step that changes the generation leaves an empty queue. Admission never opens again, and
a closed actor without access ordinals gets none. -/
theorem Effect.token_or_empty {replies} (h : Effect s a replies s') :
    (s'.token = s.token ∨ s'.pending = []) ∧ (s.shuttingDown = true →
      s'.shuttingDown = true ∧ (s.ledger.Exhausted → s'.ledger.Exhausted)) := by
  cases h with
  | quiet hm | unwound _ hm | resetJoined _ _ hm =>
    exact ⟨.inl hm.token, fun hd => ⟨hm.down hd, fun hex => Nat.le_trans hex hm.counter⟩⟩
  | admitted hm ha hm' =>
    obtain ⟨_, ho⟩ := ha
    exact ⟨.inl (hm'.token.trans hm.token), fun hd => by cases ho.symm.trans (hm.down hd)⟩
  | rotated ho hr hm =>
    refine ⟨.inr (List.sublist_nil.mp ?_), fun hd => by cases ho.symm.trans hd⟩
    rw [← hr.pending]
    exact hm.pending_sublist
  | begun _ hb hm =>
    obtain ⟨_, _, _, _, _, hl⟩ := hb
    exact ⟨.inl hm.token, fun hd => ⟨hm.down hd, fun hex => absurd hex hl⟩⟩

/-- What is still queued when the actor closes could not be made terminal. -/
theorem Effect.exhausted_of_closing {replies} (hc' : Coupled s') (h : Effect s a replies s')
    (ho : s.shuttingDown = false) (hdo : s'.shuttingDown = true) (hk : key ∈ s'.pending) :
    s'.ledger.Exhausted := by
  have hc : s.Closed := fun hd => by cases ho.symm.trans hd
  obtain ⟨ac, ha, hp⟩ := hc'.queued hk
  refine (h.closed hc hdo key).resolve_left fun hr => ?_
  have := hr ac ha
  rw [hp] at this
  cases this

/-- The lease of a command that the step admits. -/
theorem Effect.owned_of_admitted {replies b} (hc' : Coupled s')
    (h : Effect s a replies s') (hun : s.Unreplied)
    (had : admission (a, (s'.answered replies).outbox) = some b) (hk : b.key ∈ s'.pending) {leaseId}
    (hl : b.lease = .required leaseId) :
    s'.HeldBy b.principal leaseId ∨ s'.ledger.Exhausted ∧ s'.shuttingDown = true := by
  obtain ⟨s₁, s₂, -, hm, ha, hm', hs⟩ := h.admitted_of hun had
  obtain @⟨d, r, l, ho, hsi, hsh, hh, ham⟩ := ha
  obtain hs | hdo := hs
  · obtain ⟨g, hst, how, hid⟩ := hh leaseId hl
    exact .inl ⟨g, by rw [hs]; exact hst, how, hid⟩
  · have ho' : s.shuttingDown = false := by
      cases hd : s.shuttingDown with
      | false => rfl
      | true => cases ho.symm.trans (hm.down hd)
    exact .inr ⟨h.exhausted_of_closing hc' ho' hdo hk, hdo⟩

/-- The lease of a command that stays queued over the step. -/
theorem Effect.owned_of_queued {replies} {adm : CommandAdmission C} {leaseId} (hc' : Coupled s')
    (h : Effect s a replies s') (hk : key ∈ s'.pending)
    (hs : s.HeldBy adm.principal leaseId ∨ s.ledger.Exhausted ∧ s.shuttingDown = true)
    (hl : ¬ LosesLease s s' adm.principal leaseId) :
    s'.HeldBy adm.principal leaseId ∨ s'.ledger.Exhausted ∧ s'.shuttingDown = true := by
  obtain hh | ⟨hex, hd⟩ := hs
  · by_cases hh' : s'.HeldBy adm.principal leaseId
    · exact .inl hh'
    -- the lease ended: by a rotation, which empties the queue, or by closing the actor
    have ht : s'.token = s.token := by
      refine h.token_or_empty.1.resolve_right fun he => ?_
      rw [he] at hk
      cases hk
    have hd : s'.shuttingDown ≠ s.shuttingDown := fun hd => hl ⟨hh, hh', ht, hd⟩
    cases ho : s.shuttingDown with
    | true =>
      refine absurd ?_ hd
      rw [ho]
      exact (h.token_or_empty.2 ho).1
    | false =>
      have hd' : s'.shuttingDown = true := by simpa [ho] using hd
      exact .inr ⟨h.exhausted_of_closing hc' ho hd' hk, hd'⟩
  · obtain ⟨hd, he⟩ := h.token_or_empty.2 hd
    exact .inr ⟨he hex, hd⟩

/-- **One step**: it keeps the queue owned when it ends no lease of a queued command. -/
theorem Owned.step (hc : Coupled s) (hla : LeavesNone s log a) (hs : Owned s log) : Owned (s.step a).2
    (log ++ [(a, (s.step a).1)]) := by
  obtain ⟨r, s', he, heq⟩ := step_effect hc a
  have hc₀ : Coupled { s with outbox := [] } := { hc with }
  have hc' : Coupled s' := hc₀.effect he
  intro key hk
  unfold LeavesNone at hla
  rw [heq] at hk hla ⊢
  simp only [lastAdmission_append]
  cases ha : admits key (a, (s'.answered r).outbox) with
  | true =>
    obtain ⟨b, hb, rfl⟩ : ∃ b, admission (a, (s'.answered r).outbox) = some b ∧ b.key = key := by
      simpa [admits, Option.any_eq_true] using ha
    refine ⟨b, hb, fun li hr => ?_⟩
    have hun : ({ s with outbox := [] } : CoordinatorTask C R E).Unreplied := fun x hx => by cases hx
    have ho : s'.HeldBy b.principal li ∨ s'.ledger.Exhausted ∧ s'.shuttingDown = true :=
      he.owned_of_admitted hc' hun hb hk hr
    exact ho
  | false =>
    have hold := (he.queued hc₀ hk).resolve_right (by simp [ha])
    obtain ⟨adm, hl, hle⟩ := hs key hold
    refine ⟨adm, hl, fun li hr => ?_⟩
    have ho : s'.HeldBy adm.principal li ∨ s'.ledger.Exhausted ∧ s'.shuttingDown = true :=
      he.owned_of_queued hc' hk (hle li hr) fun h => hla _ li { h with } key hold adm hl hr rfl hk
    exact ho

/-! ## Starts -/

/-- An execution starts in a turn of `drive_pending`, from the queue. -/
theorem Effect.starts {replies} (h : Effect s a replies s') (hs : s.outbox = [])
    (hst : 0 < s'.outbox.countP (Sent.starts key)) : a = .drive ∧ key ∈ s.pending ∧ ¬ s.ledger.Exhausted := by
  have hmo : ∀ {o} {t t' : CoordinatorTask C R E}, Moved o t t' →
      t'.outbox.countP (Sent.starts key) = t.outbox.countP (Sent.starts key) := fun {_ t _} hm =>
    moves_induction
      (fun hm hu => hm.starts_eq.trans hu) hm.moves rfl
  have hn : ∀ {o} {t t' : CoordinatorTask C R E}, Moved o t t' → t.outbox = [] →
      0 < t'.outbox.countP (Sent.starts key) → False := by
    intro _ t t' hm ht hp
    rw [hmo hm, ht] at hp
    exact Nat.lt_irrefl _ hp
  cases h with
  | quiet hm | unwound _ hm | resetJoined _ _ hm => exact (hn hm hs hst).elim
  | admitted hm ha hm' =>
    rw [hmo hm'] at hst
    cases ha
    exact (hn hm hs hst).elim
  | rotated _ hr hm =>
    obtain ⟨out, ho, hno, -⟩ := hr.outbox
    rw [hmo hm, ho, countP_starts_append _ hno, hs] at hst
    exact absurd hst (Nat.lt_irrefl _)
  | @begun n k s₁ _ _ hb hm =>
    rw [hmo hm] at hst
    obtain ⟨hq, hru, hk, hc, hg, hex⟩ := hb
    refine ⟨rfl, ?_, hex⟩
    have hke : k = key := by
      by_contra hne
      simp [hs, Sent.starts, hne] at hst
    rw [← hke, show s.pending = _ from hq]
    exact List.mem_cons_self

theorem step_starts (hc : Coupled s) (hs : (s.step a).1.any (Sent.starts key) = true) :
    a = .drive ∧ key ∈ s.pending ∧ ¬ s.ledger.Exhausted := by
  obtain ⟨rp, s', he, heq⟩ := step_effect hc a
  rw [heq] at hs
  obtain ⟨x, hx, hst⟩ := List.any_eq_true.mp hs
  refine he.starts rfl (List.countP_pos_iff.mpr ⟨x, ?_, hst⟩)
  obtain hx | hx := List.mem_append.mp hx
  · exact hx
  · obtain ⟨r, -, rfl⟩ := List.mem_map.mp hx
    cases hst

/-! ## Runs -/

/-- **Exclusive control.** In a run in which no command admitted under a lease is
queued when that lease ends, otherwise than with its generation or by a
shutdown, an execution is started only by `drive_pending`, and a command
that needs a lease only while its principal holds that lease. -/
theorem exclusive_control {settings : CoordinatorSettings} {eventMapper clock} {s₀ : CoordinatorTask C R E}
    (hspawn : spawn settings eventMapper clock = .ok s₀) (steps : List (Step C R E))
    (hleaves : alongLog step LeavesNone s₀ [] steps) (a : Step C R E) (key : ActiveKey)
    (hstart : (step (final step s₀ steps) a).1.any (Sent.starts key) = true) :
    a = .drive ∧ ∃ adm, lastAdmission key (answers step s₀ steps) = some adm ∧
      ∀ leaseId, adm.lease = .required leaseId → (final step s₀ steps).HeldBy adm.principal leaseId := by
  obtain ⟨hc, ho⟩ : Coupled (final step s₀ steps) ∧ Owned (final step s₀ steps)
    (answers step s₀ steps) := by
    refine run_induction_log (P := fun t log => Coupled t ∧ Owned t log)
      ⟨coupled_spawn hspawn, ?_⟩ ?_ steps hleaves
    · rw [spawn_eq] at hspawn
      cases hspawn
      exact fun key hk => by cases hk
    · rintro t log a ⟨hc, ho⟩ ha
      exact ⟨hc.step a, ho.step hc ha⟩
  obtain ⟨hd, hk, hex⟩ := step_starts hc hstart
  obtain ⟨adm, hl, hle⟩ := ho key hk
  exact ⟨hd, adm, hl, fun leaseId hr => (hle leaseId hr).resolve_right fun h => hex h.1⟩

/-- A command starts under the lease it was admitted with. -/
theorem leased_command_starts :
    let needsLease : CommandAdmission Unit := { CommandAdmission.sample with lease := .required ⟨7⟩ }
    let st : List (Step Unit Unit Unit) :=
      [.select (.message (.acquireLease .operator ⟨7⟩ none .first)), .advance, .drive,
        .select (.message (.submit needsLease)), .advance]
    spawn .small (fun _ _ => []) .ticking = .ok small ∧
      (step (final step small st) .drive).1.any (Sent.starts needsLease.key) = true ∧
      (final step small st).HeldBy .operator ⟨7⟩ := by
  intro needsLease st
  have hs : (step (final step small st) .drive).1.any (Sent.starts needsLease.key) = true := by
    decide +kernel
  obtain ⟨-, adm, hl, hh⟩ := exclusive_control spawn_small st
    ⟨leavesNone_of_empty rfl, leavesNone_of_empty rfl, leavesNone_of_empty rfl, leavesNone_of_empty rfl,
      leavesNone_of_held ⟨⟨⟨7⟩, .operator, .first, 60001, 3⟩, by decide +kernel, rfl, rfl⟩
        ⟨⟨⟨7⟩, .operator, .first, 60001, 3⟩, by decide +kernel, rfl, rfl⟩,
          trivial⟩ .drive needsLease.key hs
  have ha : some needsLease = some adm := Eq.trans (by decide +kernel) hl
  cases ha
  exact ⟨spawn_small, hs, hh ⟨7⟩ rfl⟩

/-- The operator's command, admitted under lease 7, waits behind another one
while the operator releases the lease, its reset completes and the agent
acquires lease 8; then it starts. -/
theorem queued_command_outlives_lease :
    let needsLease : CommandAdmission Unit :=
      { CommandAdmission.sample with commandId := ⟨2⟩, lease := .required ⟨7⟩ }
    let t : List (Step Unit Unit Unit) := [.advance, .drive]
    let st : List (Step Unit Unit Unit) :=
      .select (.message (.acquireLease .operator ⟨7⟩ none .first)) :: t ++
      .select (.message (.submit .sample)) :: t ++ [.drive] ++
      .select (.message (.submit needsLease)) :: t ++
      .select (.message (.releaseLease .operator ⟨7⟩ .first)) :: t ++
      .select (.completion (.reset 1) (.reset .complete)) :: t ++
      .select (.message (.acquireLease .agent ⟨8⟩ none .first)) :: t ++
      [.select (.completion (.execution CommandAdmission.sample.key) (.executed (.completed () .afterEffect))),
        .advance]
    spawn .small (fun _ _ => []) .ticking = .ok small ∧
      lastAdmission needsLease.key (answers step small st) = some needsLease ∧
      (step (final step small st) .drive).1.any (Sent.starts needsLease.key) = true ∧
      (final step small st).HeldBy .agent ⟨8⟩ ∧ ¬ (final step small st).HeldBy .operator ⟨7⟩ := by
  intro needsLease t st
  have ha : (final step small st).HeldBy .agent ⟨8⟩ :=
    ⟨⟨⟨8⟩, .agent, .first, 60011, 11⟩, by decide +kernel, rfl, rfl⟩
  refine ⟨spawn_small, by decide +kernel, by decide +kernel, ha, fun ho => ?_⟩
  cases (ho.unique ha).2

end Xenoteer.CoordinatorTask
