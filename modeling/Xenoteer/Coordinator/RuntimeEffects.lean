/-
What one step of the actor's loop can do (`run_effect`): besides quiet moves,
a submission admits its command, a rotation changes the generation, the queue
starts an execution, and a task ends in a way its bookkeeping does not cover
or ends a reset. Every invariant of the actor is proved once per effect.
-/
import Xenoteer.Coordinator.RuntimeRequests
import Xenoteer.Coordinator.RuntimeRotation

namespace Xenoteer

variable {C R E : Type}

/-- The replies that announce neither an admission nor a broken invariant. -/
def Reply.Plain : Reply R E → Prop
  | .submitted (.ok submission) => submission.admitted = false
  | .submitted (.error e) | .watched (.error e) | .cancelled (.error e) => e ≠ .ledger .invariantViolation
  | _ => True

theorem Reply.found_of_mem {r : Except CommandLedgerError (Option (CommandRecord (CommandTerminal R)))}
    {rc : CommandRecord (CommandTerminal R)}
    (h : rc ∈ (Reply.found (E := E) (r.mapError CoordinatorError.ledger)).records) : r = .ok (some rc) := by
  match r with
  | .error _ | .ok none => cases h
  | .ok (some _) => rw [List.mem_singleton.mp h]

namespace CoordinatorTask

open Lib.TreeMapKeys Lib.Run

variable {s s' : CoordinatorTask C R E} {key : ActiveKey} {active : ActiveCommand C R}
  {now : MonotonicMillis} {o : Option (ExecutionOutcome R)}

/-! ## Timers -/

theorem advanceTimers_moved (hc : Coupled s) : Moved o s s.advanceTimers := by
  have hch := lease_change (s.lease.advanceTime_transition (s.nowMillisAt (s.clock.reading s.reads)))
    (by simp) (by simp)
  have hl : Moved o s
      { s with
        reads := s.reads + 1
        lease := (s.lease.advanceTime (s.nowMillisAt (s.clock.reading s.reads))).2 } :=
    (clock_moved s).trans (lease_moved hch)
  have hr := hl.trans (ensureReset_moved _)
  exact hr.trans (stopEach_moved (hc.moved hr)
    (show TerminalCause.deadlineExceeded ≠ .returned by decide) (by decide)
    (ensureReset_same).latest.symm _).1

/-! ## The queue -/

variable {rest : List ActiveKey}

/-- The state in which the turn of `drive_pending` looks at its command. -/
theorem Coupled.popped (hc : Coupled s) (hq : s.pending = key :: rest) : Coupled { s with pending := rest } :=
  { hc with
    queue := (hq ▸ hc.queue : (_ :: _).Nodup).of_cons
    queued := fun h => hc.queued (hq ▸ List.mem_cons_of_mem _ h) }

/-- A queued command found past its deadline is made terminal. -/
theorem expire_moved (hc : Coupled s) (hq : s.pending = key :: rest)
    (hk : s.active[key]? = some active) (hp : active.phase = .pending) {t} (he : Ends o t) :
    Moved o s (({ s with pending := rest } : CoordinatorTask C R E).completeActive key t s.latest).2 := by
  have hg := hc.pending_current hk hp
  obtain ⟨st, hs, hr, heq⟩ := completeActive_current (hc.popped hq) hk hg t rfl
  have hf : rest.filter (· ≠ key) = s.pending.filter (· ≠ key) := by rw [hq]; simp
  rw [show s.latest = ({ s with pending := rest } : CoordinatorTask C R E).latest from rfl, heq,
    if_pos hp, hf]
  split
  next hex =>
    exact (Moved.of_move (.popped hq hex) rfl).trans
      (ledger_moved (.observed hc.accepts))
  next hex =>
    have hfi : Finishes s key t
        ((s.ledger.observed s.latest).put key.command (st.completed t s.latest)) :=
      .current hg hc.accepts hex hs (hr ▸ (hc.active hk).open)
    exact (Moved.of_move (.finished (st.completed t s.latest).record hk hp hfi he rfl) rfl).trans
      (publishCommandTransition_published _ _ _).moved

/-- What a turn of `drive_pending` does: it starts the first queued command,
or nothing but moves. -/
inductive Driven (s s' : CoordinatorTask C R E) : Prop
  | moved : Moved none s s' → Driven s s'
  | begun {n key s₁} : s.reads ≤ n → Begins { s with reads := n } key s₁ → Moved none s₁ s' → Driven s s'

theorem Driven.after {n} (hn : s.reads ≤ n) (h : Driven { s with reads := n } s') : Driven s s' := by
  cases h with
  | moved h => exact .moved ((Moved.of_move (.clock hn) rfl).trans h)
  | begun hn' hb hm => exact .begun (hn.trans hn') hb hm

/-- The end of the turn: the record is marked running and the execution
starts; only an exhausted counter prevents it. -/
theorem start_driven (hc : Coupled s) (hq : s.pending = key :: rest)
    (hk : s.active[key]? = some active) (hp : active.phase = .pending)
    (hru : s.running < s.settings.maximumConcurrentExecutions) :
    Driven s (match s.ledger.markRunning key.principal key.commandId s.latest key.generation with
      | (.error _, ledger) =>
        (false, ({ s with pending := rest, ledger } : CoordinatorTask C R E).beginShutdown false)
      | (.ok record, ledger) =>
        ({ s with pending := rest, ledger } : CoordinatorTask C R E).startExecution key record).2 := by
  have hg := hc.pending_current hk hp
  obtain ⟨st, hs, hre⟩ := hc.recorded hk hg
  have hso := (hc.active hk).phase
  rw [hp] at hso
  obtain ⟨-, ha, hco⟩ | ⟨hr, -⟩ := hso
  · obtain ⟨c, hco⟩ := Option.isSome_iff_exists.mp hco
    have hst : st.record.state = .accepted := by rw [hre]; exact ha
    have hma := CommandLedger.markRunning_of_accepted hc.accepts hs hst
    rw [← hg] at hma
    by_cases hex : s.ledger.Exhausted
    · rw [if_pos hex] at hma
      have hpo : Moved none s { s with pending := rest, ledger := s.ledger.observed s.latest } :=
        (Moved.of_move (.popped hq hex) rfl).trans
          (ledger_moved (.observed hc.accepts))
      simp only [hma]
      exact .moved (hpo.trans (beginShutdown_moved (hc.moved hpo) (by simp)).1)
    · rw [if_neg hex] at hma
      have hb : Begins s key _ := Begins.mk hq hru hk hco hg hex hs hst
      simp only [hma, startExecution, hk, hco]
      split
      next hpu =>
        have hm := (published_of_eq hpu).moved (o := none)
        exact .begun le_rfl hb
          (hm.trans (beginShutdown_moved ((hc.begins hb).moved hm) (by simp)).1)
      next hpu => exact .begun le_rfl hb (published_of_eq hpu).moved
  · cases hr

theorem driveOne_driven (hc : Coupled s) : Driven s s.driveOne.2 := by
  simp only [driveOne]
  split
  next hru =>
    cases hq : s.pending with
    | nil => exact .moved (.refl s)
    | cons key rest =>
      obtain ⟨active, hk, hp⟩ := hc.queued (show key ∈ s.pending from hq ▸ List.mem_cons_self)
      simp only [hk, hp, ne_eq, not_true_eq_false, if_false]
      -- the deadline is read off the clock only when there is one
      have hs : ∀ n, s.reads ≤ n → Driven s _ := fun n hn =>
        (start_driven (hc.clockMove (Nat.le_succ_of_le hn)) hq hk hp hru).after
          (Nat.le_succ_of_le hn)
      cases hd : active.deadline with
      | none => exact hs s.reads le_rfl
      | some d =>
        simp only [overdue]
        by_cases hdu : d ≤ s.clock.reading s.reads
        · simp only [instantNow, hdu, decide_true]
          have hr : s.reads ≤ s.reads + 2 := Nat.le_add_right _ _
          exact .moved ((Moved.of_move (.clock hr) rfl).trans
            (expire_moved (hc.clockMove hr) hq hk hp (.stopped (by decide))))
        · simp only [instantNow, hdu, decide_false]
          exact hs (s.reads + 1) (Nat.le_succ _)
  · exact .moved (.refl s)

/-! ## Messages and completions -/

/-- The outcome of the execution that ends in the step. -/
def Step.outcome : Step C R E → Option (ExecutionOutcome R)
  | .select (.completion _ (.executed outcome)) => some outcome
  | _ => none

/-- What a step does, its replies apart. -/
inductive Effect (s : CoordinatorTask C R E) :
    Step C R E → List (Reply R E) → CoordinatorTask C R E → Prop
  | quiet {a replies s'} : Moved a.outcome s s' → (∀ r ∈ replies, Reply.Plain r) →
      (∀ r ∈ replies, ∀ record ∈ r.records, s'.Knows record) → Effect s a replies s'
  | admitted {a record s₁ s₂ s'} : Moved none s s₁ → Admits s₁ a s₂ → Moved none s₂ s' →
      (s'.lease = s₂.lease ∨ s'.shuttingDown = true) → record.state.isTerminal = false →
      Effect s (.select (.message (.submit a))) [.submitted (.ok ⟨true, record, record⟩)] s'
  | rotated {generation token s₁ s'} : s.shuttingDown = false → Rotated s s₁ → Moved none s₁ s' →
      Effect s (.select (.message (.rotateGeneration generation))) [.rotated (.ok token)] s'
  | begun {n key s₁ s'} : s.reads ≤ n → Begins { s with reads := n } key s₁ → Moved none s₁ s' →
      Effect s .drive [] s'
  | unwound {task s'} : task ∈ s.tasks → Moved none { s with tasks := s.tasks.erase task } s' →
      Effect s (.select (.completion task .callPanicked)) [] s'
  | resetJoined {epoch ended m s'} : .reset epoch ∈ s.tasks → (m = s.lease ∨ m = s.lease.finishReset.2) →
      Moved (Step.select (.completion (.reset epoch) ended) : Step C R E).outcome
        { s with
          tasks := s.tasks.erase (.reset epoch)
          activeReset := if s.activeReset = some epoch then none else s.activeReset
          lease := m } s' →
      Effect s (.select (.completion (.reset epoch) ended)) [] s'

theorem Coupled.resetJoined (hc : Coupled s) {epoch activeReset m}
    (hm : m = s.lease ∨ m = s.lease.finishReset.2) :
    Coupled { s with tasks := s.tasks.erase (.reset epoch), activeReset, lease := m } := by
  have hf : m.generation = s.lease.generation ∧ m.desktopId = s.lease.desktopId := by
    obtain rfl | rfl := hm
    · exact ⟨rfl, rfl⟩
    · simp only [LeaseMachine.finishReset]
      split <;> exact ⟨rfl, rfl⟩
  exact
    { hc.joined List.erase_sublist with
      leaseToken := hf.1.trans hc.leaseToken
      leaseDesktop := hf.2.trans hc.leaseDesktop }

/-- The state with the replies sent. -/
def answered (s : CoordinatorTask C R E) (replies : List (Reply R E)) : CoordinatorTask C R E :=
  { s with outbox := s.outbox ++ replies.map .reply }

@[simp] theorem answered_nil (s : CoordinatorTask C R E) : s.answered [] = s := by
  simp [answered]

theorem Effect.atPoint {a replies} (h : Effect s a replies s') {point} :
    Effect s a replies { s' with point } := by
  have hl : ∀ {o}, Moved o s' { s' with point } := loop_moved s' point s'.resetFailed s'.shutdownReply
  cases h with
  | quiet hm hr hk => exact .quiet (hm.trans hl) hr hk
  | admitted hm ha hm' hle ho => exact .admitted hm ha (hm'.trans hl) hle ho
  | rotated hd hr hm => exact .rotated hd hr (hm.trans hl)
  | begun hn hb hm => exact .begun hn hb (hm.trans hl)
  | unwound ht hm => exact .unwound ht (hm.trans hl)
  | resetJoined ht hle hm => exact .resetJoined ht hle (hm.trans hl)

/-- An operation of the lease machine with the clock read before it and the
reset started after it. -/
theorem leaseMessage_moved {m} (h : s.lease.Change m) :
    Moved o s ({ s with reads := s.reads + 1, lease := m } : CoordinatorTask C R E).ensureReset :=
  ((clock_moved s).trans (lease_moved h)).trans (ensureReset_moved _)

section

variable (hc : Coupled s)

include hc

theorem handleMessage_effect (hd : s.shuttingDown = false) {m} :
    ∃ r s', Effect s (.select (.message m)) r s' ∧ s.handleMessage m = s'.answered r := by
  have han : ∀ {t : CoordinatorTask C R E} {reply}, Moved none s t → Reply.Plain reply →
      (∀ rc ∈ reply.records, t.Knows rc) →
      ∃ r s', Effect s (.select (.message m)) r s' ∧ t.send
        (.reply reply) = s'.answered r :=
    fun {t reply} hm hr hk => ⟨[reply], t, .quiet hm (by simpa using hr) (by simpa using hk), rfl⟩
  -- the messages that only move, with a reply that says nothing of a command
  have hq : ∀ {t : CoordinatorTask C R E} {reply}, Moved none s t → Reply.Plain reply →
      reply.records = [] →
      ∃ r s', Effect s (.select (.message m)) r s' ∧ t.send
        (.reply reply) = s'.answered r :=
    fun {t reply} hm hr hn => han hm hr (by simp [hn])
  cases m with
  | generation | leaseSnapshot | replayEvents | subscribeEvents => exact hq (.refl s) trivial rfl
  | acquireLease ow li tm g =>
    exact hq (leaseMessage_moved (lease_change
      (s.lease.acquire_transition ow li tm _ g) (by simp) (by simp))) trivial rfl
  | renewLease ow li tm g =>
    exact hq (leaseMessage_moved (lease_change
      (s.lease.renew_transition ow li tm _ g) (by simp) (by simp))) trivial rfl
  | releaseLease ow li g =>
    exact hq (leaseMessage_moved (lease_change
      (s.lease.release_transition ow li _ g) (by simp) (by simp))) trivial rfl
  | revokeLease rn =>
    exact hq ((lease_moved (revoke_change s.lease rn)).trans (ensureReset_moved _)) trivial rfl
  | retryReset =>
    simp only [handleMessage]
    split
    · exact hq (.refl s) trivial rfl
    rename_i hn
    split
    · exact hq (.refl s) trivial rfl
    · exact hq (spawnReset_moved (by simpa using hn)) trivial rfl
  | submit a =>
    have hs := submitCommand_submission hc hd a
    simp only [handleMessage]
    generalize s.submitCommand a = answer at hs ⊢
    obtain ⟨rs, t⟩ := answer
    cases hs with
    | answered hm hok hv =>
      cases rs with
      | error => exact han hm (fun h => hv (congrArg Except.error h)) fun _ h => (nomatch h)
      | ok sb => exact han hm (hok sb rfl).1 (by simpa [Reply.records] using (hok sb rfl).2)
    | admitted hm ha hm' hl ho => exact ⟨_, t, .admitted hm ha hm' hl ho, rfl⟩
  | lookup p ci g =>
    refine han ((clock_moved s).trans (ledger_moved
      (.lookup s.ledger p ci _ g))) trivial fun rc hr => ?_
    exact lookup_knows (Reply.found_of_mem hr)
  | watchLookup p ci g =>
    obtain ⟨hm, hv, hkn⟩ := watchCommand_moved hc
    simp only [handleMessage]
    generalize s.watchCommand p ci g = answer at hm hv hkn ⊢
    obtain ⟨rs | rc | rc, t⟩ := answer
    · exact hq hm (fun h => hv (congrArg Except.error h)) rfl
    · exact hq hm trivial rfl
    · exact han hm trivial (by simpa [Reply.records] using hkn rc)
  | cancel p ci g =>
    obtain ⟨hm, hv⟩ := cancelCommand_moved hc
    simp only [handleMessage]
    generalize s.cancelCommand p ci g = answer at hm hv ⊢
    obtain ⟨rs | rs, t⟩ := answer
    · exact hq hm (fun h => hv (congrArg Except.error h)) rfl
    · exact hq hm trivial rfl
  | publishEvent ev es g =>
    exact hq (publishEvent_published s ev es g).moved trivial rfl
  | rotateGeneration g =>
    simp only [handleMessage]
    obtain ⟨e, he⟩ | ⟨t, s₁, hro, he⟩ := rotateGeneration_cases hc g
    · rw [he]
      exact hq (.refl s) trivial rfl
    · rw [he]
      exact ⟨[.rotated (.ok t)], _, .rotated hd hro (ensureReset_moved s₁), rfl⟩
  | shutdown =>
    exact ⟨[], s.beginShutdown true, .quiet (beginShutdown_moved hc fun _ => hd).1 (by simp) (by simp),
      (answered_nil _).symm⟩

theorem handleCompletion_effect {task e completion}
    (hm : task ∈ s.tasks) (hj : joinResult task e = some (some completion)) :
    Effect s (.select (.completion task e)) []
      (({ s with tasks := s.tasks.erase task } : CoordinatorTask C R E).handleCompletion completion) := by
  have hex : ∀ {key ot}, task = .execution key → completion = .execution key ot →
      ot = (Step.select (.completion task e) : Step C R E).outcome →
      Effect s (.select (.completion task e)) []
        (({ s with tasks := s.tasks.erase task } : CoordinatorTask C R E).handleCompletion completion) := by
    rintro key ot rfl rfl rfl
    exact .quiet (handleExecution_moved hc hm) (by simp) (by simp)
  have hr : ∀ {ep ot}, task = .reset ep → completion = .reset ep ot →
      Effect s (.select (.completion task e)) []
        (({ s with tasks := s.tasks.erase task } : CoordinatorTask C R E).handleCompletion completion) := by
    rintro ep ot rfl rfl
    simp only [handleCompletion]
    by_cases he : s.activeReset = some ep
    · simp only [he, ne_eq, not_true_eq_false, if_false]
      split
      · refine .resetJoined hm (.inr rfl) ?_
        simp only [he, if_true]
        exact loop_moved _ s.point false s.shutdownReply
      · refine .resetJoined hm (.inl rfl) ?_
        simp only [he, if_true]
        exact loop_moved _ s.point true s.shutdownReply
    · simp only [ne_eq, he, not_false_eq_true, if_true]
      refine .resetJoined hm (.inl rfl) ?_
      simp only [if_neg he]
      exact .refl _
  cases task <;> cases e <;> simp only [joinResult, Option.some.injEq, reduceCtorEq] at hj
  all_goals first | exact hex rfl hj.symm rfl | exact hr rfl hj.symm

theorem handleSelected_effect {sl} (h : s.handleSelected sl = some s') :
    ∃ r s'', Effect s (.select sl) r s'' ∧ s' = s''.answered r := by
  cases sl with
  | message m =>
    simp only [handleSelected] at h
    split at h
    · cases h
    next hd =>
      cases h
      exact handleMessage_effect hc (by simpa using hd)
  | closed =>
    simp only [handleSelected] at h
    split at h <;> cases h
    exact ⟨[], s.beginShutdown false, .quiet (beginShutdown_moved hc (by simp)).1 (by simp) (by simp),
      (answered_nil _).symm⟩
  | completion t e =>
    simp only [handleSelected] at h
    split at h
    next hm =>
      split at h
      · cases h
      rename_i j hj
      split at h <;> cases h
      · -- a call that panicked: only `callPanicked` joins to nothing
        have he : e = .callPanicked := by
          cases t <;> cases e <;> simp [joinResult] at hj ⊢
        subst he
        exact ⟨[], _, .unwound hm (beginShutdown_moved (hc.joined List.erase_sublist) (by simp)).1,
          (answered_nil _).symm⟩
      · exact ⟨[], _, handleCompletion_effect hc hm hj, (answered_nil _).symm⟩
    · cases h
  | timer =>
    simp only [handleSelected] at h
    split at h
    · cases h
    split at h <;> cases h
    exact ⟨[], s, .quiet (.refl s) (by simp) (by simp), (answered_nil s).symm⟩

/-! ## The step -/

/-- **What a step of the loop can do.** -/
theorem run_effect {a} :
    ∃ replies s', Effect s a replies s' ∧ s.run a = s'.answered replies := by
  have hi : ∃ replies s', Effect s a replies s' ∧ s = s'.answered replies :=
    ⟨[], s, .quiet (.refl s) (by simp) (by simp), (answered_nil s).symm⟩
  cases a with
  | select selected =>
    simp only [run]
    split
    · split
      · split
        · exact ⟨[.shutdown], { s with point := .exited, shutdownReply := false },
            .quiet (loop_moved s .exited s.resetFailed false) (by simp [Reply.Plain]) (by simp [Reply.records]), rfl⟩
        · exact ⟨[], { s with point := .exited },
            .quiet (loop_moved s .exited s.resetFailed s.shutdownReply) (by simp) (by simp), (answered_nil _).symm⟩
      · cases hs : s.handleSelected selected with
        | none => exact hi
        | some t =>
          obtain ⟨replies, s', he, rfl⟩ := handleSelected_effect hc hs
          exact ⟨replies, { s' with point := .timers }, he.atPoint, rfl⟩
    · exact hi
  | advance =>
    simp only [run]
    split
    · exact ⟨[], { s.advanceTimers with point := .drive },
        .quiet ((advanceTimers_moved hc).trans (loop_moved _ .drive _ _)) (by simp) (by simp), (answered_nil _).symm⟩
    · exact hi
  | drive =>
    have he : Effect s .drive [] s.driveOne.2 := by
      cases driveOne_driven hc with
      | moved hm => exact .quiet hm (by simp) (by simp)
      | begun hn hb hm => exact .begun hn hb hm
    simp only [run]
    split
    · generalize s.driveOne = turn at he ⊢
      obtain ⟨_ | _, t⟩ := turn
      · exact ⟨[], { t with point := .select }, he.atPoint, (answered_nil _).symm⟩
      · exact ⟨[], t, he, (answered_nil _).symm⟩
    · exact hi

/-- A property of coupled states is kept by an effect when the moves, the
admission, the rotation and the start in it keep it, and the bookkeeping of
joined tasks does not concern it. -/
theorem Effect.keeps {P : CoordinatorTask C R E → Prop} {a : Step C R E} {replies}
    (h : Effect s a replies s') (hmv : ∀ {t t'}, Coupled t → Move a.outcome t t' → P t → P t')
    (had : ∀ {b record t t'}, a = .select (.message (.submit b)) →
      replies = [.submitted (.ok ⟨true, record, record⟩)] → Coupled t → Admits t b t' → P t → P t')
    (hro : ∀ {t}, Rotated s t → P s → P t)
    (hbe : ∀ {n key t}, Begins { s with reads := n } key t → P { s with reads := n } → P t)
    (hj : ∀ tasks activeReset lease, P s → P { s with tasks, activeReset, lease })
    (hs : P s) : P s' := by
  have hmo : ∀ {t t'}, Coupled t → Moved a.outcome t t' → P t → P t' := by
    intro t t' ht hm hp
    exact (moves_induction (P := fun u => Coupled u ∧ P u)
      (fun hm hu => ⟨hu.1.move hm, hmv hu.1 hm hu.2⟩) hm.moves ⟨ht, hp⟩).2
  cases h with
  | quiet hm => exact hmo hc hm hs
  | admitted hm ha hm' =>
    have hc₁ := hc.moved hm
    exact hmo (hc₁.admits ha) hm' (had rfl rfl hc₁ ha (hmo hc hm hs))
  | rotated _ hr hm => exact hmo (hc.rotated hr) hm (hro hr hs)
  | begun hn hb hm =>
    have hc₁ := hc.clockMove hn
    exact hmo (hc₁.begins hb) hm (hbe hb (hmv hc (.clock hn) hs))
  | unwound _ hm =>
    refine hmo ?_ hm (hj _ s.activeReset s.lease hs)
    exact hc.joined List.erase_sublist
  | resetJoined _ hl hm =>
    exact hmo (hc.resetJoined hl) hm (hj _ _ _ hs)

/-- Every effect keeps the invariant. -/
theorem Coupled.effect {a replies} (h : Effect s a replies s') : Coupled s' := by
  cases h with
  | quiet hm => exact hc.moved hm
  | admitted hm ha hm' => exact ((hc.moved hm).admits ha).moved hm'
  | rotated _ hr hm => exact (hc.rotated hr).moved hm
  | begun hn hb hm => exact ((hc.clockMove hn).begins hb).moved hm
  | unwound _ hm => exact (hc.joined List.erase_sublist).moved hm
  | resetJoined _ hl hm => exact (hc.resetJoined hl).moved hm

/-- A step starts with nothing sent; what it sends is in its outbox. -/
theorem step_effect (a : Step C R E) : ∃ r s', Effect { s with outbox := [] } a r s' ∧
      s.step a = ((s'.answered r).outbox, s'.answered r) := by
  have hc' : Coupled { s with outbox := [] } := { hc with }
  obtain ⟨r, s', he, heq⟩ := run_effect hc'
  refine ⟨r, s', he, ?_⟩
  simp only [step, heq]

theorem Coupled.step (a : Step C R E) : Coupled (s.step a).2 := by
  obtain ⟨r, s', he, heq⟩ := step_effect hc a
  have hc' : Coupled { s with outbox := [] } := { hc with }
  rw [heq]
  exact { hc'.effect he with }

end

/-- The actor before its first message. -/
def initial (settings : CoordinatorSettings)
    (eventMapper : PrincipalId → CommandRecord (CommandTerminal R) → List (CoordinatorEvent E))
    (clock : Clock) : CoordinatorTask C R E :=
  let generationFence := GenerationFence.new settings.desktopId settings.initialGeneration
  { settings, eventMapper, clock
    reads := 1
    generationFence
    lease := ⟨settings.desktopId, generationFence.capture, settings.leasePolicy, none, .vacant⟩
    ledger := ⟨settings.desktopId, generationFence.capture, settings.ledgerLimits, ∅, 1, none⟩
    events := ⟨settings.desktopId, generationFence.capture, settings.eventLimits, [], 0, 0, 0⟩
    origin := clock.reading 0
    active := ∅
    pending := []
    running := 0
    tasks := []
    nextResetEpoch := 1
    activeReset := none
    resetFailed := false
    shuttingDown := false
    shutdownReply := false
    point := .select
    outbox := [] }

/-- The fence is made for the desktop of the settings, so no machine refuses it. -/
theorem spawn_eq (settings)
    (eventMapper : PrincipalId → CommandRecord (CommandTerminal R) → List (CoordinatorEvent E))
    (clock : Clock) : (spawn settings eventMapper clock : Except _ (CoordinatorTask C R E)) = .ok
    (initial settings eventMapper clock) := by
  have hd : (GenerationFence.new settings.desktopId settings.initialGeneration).capture.desktopId =
    settings.desktopId := rfl
  simp only [spawn, LeaseMachine.new, CommandLedger.new, EventHub.new, hd, ne_eq,
    not_true_eq_false, if_false]
  rfl

/-- A new actor is coupled. -/
theorem coupled_spawn {settings eventMapper clock}
    (h : spawn settings eventMapper clock = .ok s) : Coupled s := by
  rw [spawn_eq] at h
  cases h
  exact
    { leaseToken := rfl
      leaseDesktop := rfl
      ledgerToken := rfl
      eventsToken := rfl
      eventsDesktop := rfl
      ledger := ⟨rfl, Nat.zero_le _, fun hk => by simp [initial] at hk⟩
      reads := Nat.one_pos
      clock := nofun
      active := fun h => by simp [initial] at h
      epoch := fun h => by simp [initial] at h
      recorded := fun h => by simp [initial] at h
      tracked := fun h => by simp [initial] at h
      retired := fun h => by simp [initial] at h
      queue := List.nodup_nil
      queued := nofun
      spawned := List.nodup_nil
      executing := nofun
      capacity := Nat.zero_le _
      share := fun _ => Nat.zero_le _ }

end CoordinatorTask

end Xenoteer
