/-
The actor's task accounting and its exit. `running` counts the execution
tasks in the set and `active_reset` names the one reset task, as long as no
backend call panics before it returns its future: such a task leaves the set
without the completion that does the counting (`unwound_call_hangs_shutdown`).
-/
import Xenoteer.Coordinator.Coupling

namespace Xenoteer.CoordinatorTask

open Lib.TreeMapKeys Lib.Run

variable {C R E : Type} {s s' : CoordinatorTask C R E} {key : ActiveKey}

/-! ## Counting tasks -/

def isExecution : SpawnedTask → Bool
  | .execution _ => true
  | .reset _ => false

def isReset : SpawnedTask → Bool
  | .execution _ => false
  | .reset _ => true

/-- The counters agree with the set of tasks. -/
structure Accounts (s : CoordinatorTask C R E) : Prop where
  executions : s.running = s.tasks.countP isExecution
  bound : s.running ≤ s.settings.maximumConcurrentExecutions
  resets : s.tasks.countP isReset = s.activeReset.toList.length
  epoch : ∀ epoch, .reset epoch ∈ s.tasks → s.activeReset = some epoch

theorem countP_erase {t : List SpawnedTask} {ts : SpawnedTask} (p : SpawnedTask → Bool)
    (h : ts ∈ t) : t.countP p = (t.erase ts).countP p + if p ts then 1 else 0 := by
  rw [(List.perm_cons_erase h).countP_eq, List.countP_cons]

/-- An execution joined is one less to count. -/
theorem Accounts.executed (hs : Accounts s) (h : .execution key ∈ s.tasks) :
    s.running - 1 = (s.tasks.erase (.execution key)).countP isExecution ∧
    s.running - 1 ≤ s.settings.maximumConcurrentExecutions ∧
    (s.tasks.erase (.execution key)).countP isReset = s.activeReset.toList.length ∧
    ∀ e, .reset e ∈ s.tasks.erase (.execution key) → s.activeReset = some e := by
  have he := countP_erase isExecution h
  have hr := countP_erase isReset h
  simp only [isExecution, isReset, if_true, Bool.false_eq_true, if_false, Nat.add_zero] at he hr
  have hru := hs.executions
  have hb := hs.bound
  refine ⟨by omega, by omega, hr.symm.trans hs.resets, fun e hm => ?_⟩
  exact hs.epoch e (List.mem_of_mem_erase hm)

theorem Move.accounts (h : Move o s s') (hs : Accounts s) : Accounts s' := by
  cases h with
  | joined _ hm | orphaned hm =>
    obtain ⟨he, hb, hr, hep⟩ := hs.executed hm
    exact ⟨he, hb, hr, hep⟩
  | resetSpawned hn =>
    refine ⟨?_, hs.bound, ?_, ?_⟩
    · simpa [List.countP_append, isExecution] using hs.executions
    · have hr := hs.resets
      rw [hn] at hr
      simpa [List.countP_append, isReset] using hr
    · intro e hm
      obtain hm | hm := List.mem_append.mp hm
      · cases hn.symm.trans (hs.epoch e hm)
      · cases List.mem_singleton.mp hm
        rfl
  | _ => exact { hs with }

theorem Begins.accounts (h : Begins s key s') (hs : Accounts s) : Accounts s' := by
  obtain ⟨hq, hr⟩ := h
  refine ⟨?_, hr, ?_, ?_⟩
  · simpa [List.countP_append, isExecution] using hs.executions
  · simpa [List.countP_append, isReset] using hs.resets
  · intro e hm
    exact hs.epoch e (by simpa using hm)

theorem Rotated.accounts (h : Rotated s s') (hs : Accounts s) : Accounts s' := by
  refine ⟨?_, ?_, ?_, ?_⟩
  · rw [h.running, h.tasks]
    exact hs.executions
  · rw [h.running, h.settings]
    exact hs.bound
  · rw [h.tasks, h.activeReset]
    exact hs.resets
  · rw [h.tasks, h.activeReset]
    exact hs.epoch

/-- The end of the reset task clears `active_reset`. -/
theorem Accounts.resetJoined (hs : Accounts s) {e : Nat} {m : LeaseMachine} (h : .reset e ∈ s.tasks) :
    Accounts
      { s with
        tasks := s.tasks.erase (.reset e)
        activeReset := if s.activeReset = some e then none else s.activeReset
        lease := m } := by
  have ha := hs.epoch e h
  have he := countP_erase isExecution h
  have hre := countP_erase isReset h
  have hr := hs.resets
  simp only [isExecution, isReset, if_true, Bool.false_eq_true, if_false, Nat.add_zero] at he hre
  rw [ha] at hr
  simp only [Option.toList_some, List.length_singleton] at hr
  have hn : (s.tasks.erase (.reset e)).countP isReset = 0 := by omega
  refine ⟨hs.executions.trans he, hs.bound, ?_, ?_⟩
  · simp [ha, hn]
  · intro o hm
    have := List.countP_eq_zero.mp hn _ hm
    simp [isReset] at this

/-! ## Running commands have a task -/

/-- Every running command has a task that will end it, unless the ledger ran
out of access ordinals. -/
def Tasked (s : CoordinatorTask C R E) : Prop :=
  ∀ (key : ActiveKey) (active), s.active[key]? = some active → active.phase = .running →
    .execution key ∈ s.tasks ∨ s.ledger.Exhausted

theorem Move.tasked (h : Move o s s') (hs : s.Tasked) : s'.Tasked := by
  have he : s.ledger.Exhausted → s'.ledger.Exhausted := h.exhausted
  intro k a hk hr
  cases h with
  | stopped ha hru =>
    obtain ⟨rfl, rfl⟩ | ⟨-, hk⟩ := insert_cases hk
    · exact hs _ _ ha hru
    · exact hs _ _ hk hr
  | finished => exact (hs _ _ (erase_cases hk).2 hr).imp_right he
  | joined =>
    obtain ⟨hne, hk⟩ := erase_cases hk
    refine (hs _ _ hk hr).imp (fun hm => ?_) he
    exact (List.mem_erase_of_ne (by simpa using hne)).mpr hm
  | orphaned _ hex => exact .inr hex
  | resetSpawned => exact (hs _ _ hk hr).imp_left (List.mem_append_left _)
  | ledger => exact (hs _ _ hk hr).imp_right he
  | _ => exact hs _ _ hk hr

theorem Begins.tasked (h : Begins s key s') (hs : s.Tasked) : s'.Tasked := by
  cases h
  intro k a hk hr
  obtain ⟨rfl, -⟩ | ⟨-, hk⟩ := insert_cases hk
  · exact .inl (by simp)
  · exact (hs _ _ hk hr).imp (List.mem_append_left _) Nat.le_succ_of_le

theorem Admits.tasked {a} (h : Admits s a s') (hs : s.Tasked) : s'.Tasked := by
  obtain @⟨d, r, l, ho, hsi, hsh, hl, ha⟩ := h
  obtain ⟨-, -, rfl, b, hb, -, rfl⟩ := admitted_refreshed ha
  intro k act hk hr
  obtain ⟨-, rfl⟩ | ⟨-, hk⟩ := insert_cases hk
  · cases hr
  · exact (hs _ _ hk hr).imp_right fun hex => Nat.le_succ_of_le (Nat.le_trans hex hb.counter)

/-- A rotation keeps the tasks; it makes every ordinal available again, so
there must have been one left. -/
theorem Rotated.tasked (h : Rotated s s') (hex : ¬ s.ledger.Exhausted) (hs : s.Tasked) : s'.Tasked := by
  intro k a hk hr
  obtain ⟨b, st, hb, hru, -, rfl⟩ := h.active hk
  rw [h.tasks]
  exact .inl ((hs _ _ hb hru).resolve_right hex)

/-! ## Shutdown -/

/-- A closed actor has no queued command left. -/
def Closed (s : CoordinatorTask C R E) : Prop := s.shuttingDown = true → s.Drained

theorem Moved.closed (h : Moved o s s') (hs : s.Closed) : s'.Closed := by
  intro hd
  obtain hd | hdr := h.closes hd
  · exact fun k => h.stopped (hs hd k)
  · exact hdr

theorem Begins.closed (h : Begins s key s') (hs : s.Closed) : s'.Closed := by
  cases h
  intro hd k
  obtain hst | hex := hs hd k
  · refine .inl fun a ha => ?_
    obtain ⟨-, rfl⟩ | ⟨-, ha⟩ := insert_cases ha
    · rfl
    · exact hst a ha
  · exact .inr (Nat.le_succ_of_le hex)

/-! ## The effects -/

/-- No backend call panics before it returns its future. -/
def CallsReturn (a : Step C R E) : Prop := ∀ task, a ≠ .select (.completion task .callPanicked)

variable {a : Step C R E}

theorem Effect.accounts {replies} (h : Effect s a replies s') (ha : CallsReturn a)
    (hs : Accounts s) : Accounts s' := by
  have hmo : ∀ {o} {t t' : CoordinatorTask C R E}, Moved o t t' → Accounts t → Accounts t' := fun hm ht =>
    moves_induction (fun hm ht => hm.accounts ht) hm.moves ht
  cases h with
  | quiet hm => exact hmo hm hs
  | admitted hm had hm' =>
    refine hmo hm' ?_
    cases had
    exact { hmo hm hs with }
  | rotated _ hr hm => exact hmo hm (hr.accounts hs)
  | begun hn hb hm => exact hmo hm (hb.accounts { hs with })
  | unwound => exact absurd rfl (ha _)
  | resetJoined hme _ hm => exact hmo hm (hs.resetJoined hme)

theorem Effect.tasked {replies} (h : Effect s a replies s') (ha : CallsReturn a)
    (hex : ¬ s.ledger.Exhausted) (hs : s.Tasked) : s'.Tasked := by
  have hmo : ∀ {o} {t t' : CoordinatorTask C R E}, Moved o t t' → t.Tasked → t'.Tasked := fun hm ht =>
    moves_induction (fun hm ht => hm.tasked ht) hm.moves ht
  cases h with
  | quiet hm => exact hmo hm hs
  | admitted hm had hm' => exact hmo hm' (had.tasked (hmo hm hs))
  | rotated _ hr hm => exact hmo hm (hr.tasked hex hs)
  | begun hn hb hm => exact hmo hm (hb.tasked hs)
  | unwound => exact absurd rfl (ha _)
  | resetJoined hme _ hm =>
    refine hmo hm fun k act hk hr => ?_
    exact (hs k act hk hr).imp_left (List.mem_erase_of_ne (by simp)).mpr

theorem Effect.closed {replies} (h : Effect s a replies s') (hs : s.Closed) : s'.Closed := by
  cases h with
  | quiet hm => exact hm.closed hs
  | admitted _ ha hm' =>
    refine hm'.closed fun hd => ?_
    obtain ⟨_, ho⟩ := ha
    cases ho.symm.trans hd
  | rotated ho hr hm =>
    refine hm.closed fun hd => ?_
    rw [hr.shuttingDown, ho] at hd
    cases hd
  | begun hn hb hm => exact hm.closed (hb.closed hs)
  | unwound _ hm | resetJoined _ _ hm => exact hm.closed hs

/-! ## Runs -/

/-- What holds of every state of a run without a panicking call. -/
structure Balanced (s : CoordinatorTask C R E) : Prop where
  coupled : Coupled s
  accounts : Accounts s
  closed : s.Closed

theorem Balanced.step (hs : Balanced s) (ha : CallsReturn a) : Balanced (s.step a).2 := by
  obtain ⟨r, s', he, heq⟩ := step_effect hs.coupled a
  have hac : Accounts s' := he.accounts ha { hs.accounts with }
  have hcl : s'.Closed := he.closed hs.closed
  have hc := hs.coupled.step a
  rw [heq] at hc ⊢
  exact ⟨hc, { hac with }, hcl⟩

variable {settings : CoordinatorSettings}

theorem balanced_spawn {eventMapper clock} (h : spawn settings eventMapper clock = .ok s) : Balanced s := by
  refine ⟨coupled_spawn h, ?_, ?_⟩ <;> rw [spawn_eq] at h <;> cases h
  · exact ⟨rfl, Nat.zero_le _, rfl, nofun⟩
  · exact nofun

theorem tasked_spawn {eventMapper clock} (h : spawn settings eventMapper clock = .ok s) : s.Tasked := by
  rw [spawn_eq] at h
  cases h
  exact fun key ac hk => by simp [initial] at hk

theorem Tasked.step (hc : Coupled s) (ha : CallsReturn a) (hex : ¬ s.ledger.Exhausted)
    (hs : s.Tasked) : (s.step a).2.Tasked := by
  obtain ⟨r, s', he, heq⟩ := step_effect hc a
  have hs' : s'.Tasked := he.tasked ha hex hs
  rw [heq]
  exact hs'

/-- **Task accounting and quiescence.** In a run in which every backend call
returns its future, the counters are exact; so once the closed actor joined
its tasks it exits, and if the ledger kept access ordinals it leaves no
command behind. -/
theorem task_accounting {eventMapper clock} {s₀ : CoordinatorTask C R E}
    (hspawn : spawn settings eventMapper clock = .ok s₀) (steps : List (Step C R E))
    (hcalls : ∀ a ∈ steps, CallsReturn a) :
    let s := final step s₀ steps
    s.running = s.tasks.countP isExecution ∧
    (s.activeReset.isSome = true ↔ s.tasks.countP isReset = 1) ∧
    (s.activeReset = none ↔ s.tasks.countP isReset = 0) ∧
    s.running ≤ s.settings.maximumConcurrentExecutions ∧
    (s.shuttingDown = true → s.tasks = [] → s.Quiescent) ∧
    (along step (fun s a => ¬ (step s a).2.ledger.Exhausted) s₀ steps →
      s.shuttingDown = true → s.tasks = [] → ∀ key : ActiveKey, s.active[key]? = none) := by
  intro s
  have hrt := along_of_forall step hcalls s₀
  have hb : Balanced s := run_induction_along (P := fun t _ => Balanced t) (balanced_spawn hspawn)
      (fun t _ a ht ha => ht.step ha) steps hrt
  obtain ⟨hc, hac, hcl⟩ := hb
  have hrs := hac.resets
  refine ⟨hac.executions, ?_, ?_, hac.bound, ?_, ?_⟩
  · cases hre : s.activeReset <;> simp [hrs, hre]
  · cases hre : s.activeReset <;> simp [hrs, hre]
  · intro hd hta
    have hru := hac.executions
    rw [hta] at hru hrs
    refine ⟨hd, hru, ?_⟩
    cases hre : s.activeReset with
    | none => rfl
    | some e => simp [hre] at hrs
  · intro hco hd hta key
    obtain ⟨hts, hex⟩ : s.Tasked ∧ ¬ s.ledger.Exhausted := by
      refine (run_induction_along (P := fun t _ => Coupled t ∧ t.Tasked ∧ ¬ t.ledger.Exhausted) ?_ ?_ steps
        (hrt.and hco)).2
      · exact ⟨coupled_spawn hspawn, tasked_spawn hspawn, (waiting_spawn hspawn).2⟩
      · rintro t _ a ⟨hc, hts, hex⟩ ⟨ha, hex'⟩
        exact ⟨hc.step a, hts.step hc ha hex, hex'⟩
    cases hk : s.active[key]? with
    | none => rfl
    | some ac =>
      -- a closed actor has only running commands, and those have tasks
      have hr := ((hcl hd key).resolve_right hex) ac hk
      have hm := (hts key ac hk hr).resolve_right hex
      rw [hta] at hm
      cases hm

/-- A command that runs at shutdown is stopped and joined, and the actor exits. -/
theorem shutdown_drains :
    let steps : List (Step Unit Unit Unit) :=
      [.select (.message (.submit .sample)), .advance, .drive, .drive, .select (.message .shutdown),
        .advance, .drive,
        .select (.completion (.execution CommandAdmission.sample.key) (.executed (.stopped .beforeEffect)))]
    spawn .small (fun _ _ => []) .ticking = .ok small ∧ (final step small steps).Quiescent ∧
      ∀ key : ActiveKey, (final step small steps).active[key]? = none := by
  intro steps
  obtain ⟨-, -, -, -, he, hem⟩ := task_accounting spawn_small steps (by
    intro a ha t
    simp only [steps, List.mem_cons, List.not_mem_nil, or_false] at ha
    rcases ha with rfl | rfl | rfl | rfl | rfl | rfl | rfl | rfl <;> simp)
  have hd : (final step small steps).shuttingDown = true := by decide +kernel
  have ht : (final step small steps).tasks = [] := by decide +kernel
  refine ⟨spawn_small, he hd ht, hem ?_ hd ht⟩
  refine ⟨?_, ?_, ?_, ?_, ?_, ?_, ?_, ?_, trivial⟩ <;> decide +kernel

/-- The call of `execute` panics before there is a future to guard: its task
is joined as an error, `running` still counts it, its command stays in the
active map, and the exit test of the closed actor stays false. -/
theorem unwound_call_hangs_shutdown :
    let steps : List (Step Unit Unit Unit) :=
      [.select (.message (.submit .sample)), .advance, .drive, .drive,
        .select (.completion (.execution CommandAdmission.sample.key) .callPanicked)]
    let s := final step small steps
    spawn .small (fun _ _ => []) .ticking = .ok small ∧ s.shuttingDown = true ∧ s.tasks = [] ∧
      s.running = 1 ∧
      s.running ≠ s.tasks.countP isExecution ∧ ¬ s.Quiescent ∧ s.active.size = 1 :=
  ⟨spawn_small, by decide +kernel, by decide +kernel, by decide +kernel, by decide +kernel,
    by decide +kernel,
    by decide +kernel⟩

end Xenoteer.CoordinatorTask
