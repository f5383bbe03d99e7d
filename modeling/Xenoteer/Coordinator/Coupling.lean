/-
How the actor's structures fit together in every reachable state: one
generation token in the fence, the lease, the ledger and the event hub; the
active map, the ledger and the queue agree on every command of the current
generation; commands of earlier generations run out with a stop signal; and
the capacities hold.
-/
import Xenoteer.Coordinator.RuntimeHistory
import Mathlib.Data.List.Nodup

namespace Xenoteer.CoordinatorTask

open Lib.TreeMapKeys Lib.Run

variable {C R E : Type} {s s' : CoordinatorTask C R E} {key : ActiveKey}

/-! ## Queued commands are in the queue -/

/-- Every command in its pending phase waits in the queue, unless the ledger
ran out of access ordinals. -/
def Waiting (s : CoordinatorTask C R E) : Prop :=
  ∀ (key : ActiveKey) (active), s.active[key]? = some active → active.phase = .pending →
    key ∈ s.pending ∨ s.ledger.Exhausted

theorem Move.waiting (h : Move o s s') (hs : s.Waiting) : s'.Waiting := by
  have he : s.ledger.Exhausted → s'.ledger.Exhausted := h.exhausted
  intro k a hk hp
  cases h with
  | stopped ha hr =>
    obtain ⟨rfl, rfl⟩ | ⟨-, hk⟩ := insert_cases hk
    · rw [show _ = ActivePhase.running from hr] at hp
      cases hp
    · exact hs _ _ hk hp
  | finished =>
    obtain ⟨hne, hk⟩ := erase_cases hk
    refine (hs _ _ hk hp).imp (fun hm => ?_) he
    exact List.mem_filter.mpr ⟨hm, by simpa using hne⟩
  | joined => exact (hs _ _ (erase_cases hk).2 hp).imp_right he
  | popped _ hex => exact .inr hex
  | ledger => exact (hs _ _ hk hp).imp_right he
  | _ => exact hs _ _ hk hp

theorem Begins.waiting (h : Begins s key s') (hs : s.Waiting) : s'.Waiting := by
  intro k a hk hp
  have hc : s.ledger.Exhausted → s'.ledger.Exhausted := by
    intro hex
    cases h
    exact Nat.le_succ_of_le hex
  obtain ⟨hq⟩ := h
  obtain ⟨rfl, rfl⟩ | ⟨hne, hk⟩ := insert_cases hk
  · cases hp
  · refine (hs _ _ hk hp).imp (fun hm => ?_) hc
    rw [hq] at hm
    exact (List.mem_cons.mp hm).resolve_left hne

theorem Admits.waiting {a} (h : Admits s a s') (hs : s.Waiting) : s'.Waiting := by
  obtain @⟨d, r, l, ho, hsi, hsh, hl, ha⟩ := h
  obtain ⟨-, -, rfl, b, hb, -, rfl⟩ := admitted_refreshed ha
  intro k act hk hp
  obtain ⟨rfl, -⟩ | ⟨-, hk⟩ := insert_cases hk
  · exact .inl (by simp)
  · refine (hs _ _ hk hp).imp (fun hm => List.mem_append_left _ hm) fun hex => ?_
    exact Nat.le_succ_of_le (Nat.le_trans hex hb.counter)

theorem Rotated.waiting (h : Rotated s s') : s'.Waiting := by
  intro k a hk hp
  obtain ⟨b, st, -, hr, -, rfl⟩ := h.active hk
  rw [show b.phase = .pending from hp] at hr
  cases hr

theorem Effect.waiting {a replies} (hc : Coupled s) (h : Effect s a replies s')
    (hs : s.Waiting) : s'.Waiting :=
  h.keeps hc (fun _ hm ht => hm.waiting ht) (fun _ _ _ ha ht => ha.waiting ht)
    (fun hr _ => hr.waiting) (fun hb ht => hb.waiting ht) (fun _ _ _ ht => ht) hs

/-- A step that leaves access ordinals finds every queued command in the queue. -/
theorem Waiting.step (hc : Coupled s) (a : Step C R E) (hs : s.Waiting) : (s.step a).2.Waiting := by
  obtain ⟨r, s', he, heq⟩ := step_effect hc a
  have hc' : Coupled { s with outbox := [] } := { hc with }
  have hs' : s'.Waiting := he.waiting hc' hs
  rw [heq]
  exact hs'

/-- A new actor has no command and all its access ordinals. -/
theorem waiting_spawn {st eventMapper clock}
    (h : spawn st eventMapper clock = .ok s) : s.Waiting ∧ ¬ s.ledger.Exhausted := by
  rw [spawn_eq] at h
  cases h
  refine ⟨fun key a hk => ?_, ?_⟩
  · simp [initial] at hk
  · change ¬ u64Max ≤ 1
    decide

/-! ## The coupling -/

/-- The active map and the ledger agree on the commands of the current
generation, phase by phase. -/
theorem Coupled.phase_iff (hc : Coupled s) (hg : key.generation = s.token) : ((∃ a, s.active[key]? = some a) ↔
      ∃ st, s.ledger.records[key.command]? = some st ∧ st.record.state.isTerminal = false) ∧
    ((∃ a, s.active[key]? = some a ∧ a.phase = .pending) ↔
      ∃ st, s.ledger.records[key.command]? = some st ∧ st.record.state = .accepted) ∧
    ((∃ a, s.active[key]? = some a ∧ a.phase = .running) ↔
      ∃ st, s.ledger.records[key.command]? = some st ∧ st.record.state = .running) := by
  -- from the ledger to the active map, with the record it shares
  have hb : ∀ st, s.ledger.records[key.command]? = some st → st.record.state.isTerminal = false →
      ∃ a, s.active[key]? = some a ∧ a.record = st.record := by
    intro st hst ho
    obtain ⟨a, hac⟩ := hc.tracked hst ho
    rw [show ⟨s.token, key.command.principal,
      key.command.commandId⟩ = key by rw [← hg]; rfl] at hac
    obtain ⟨st', hst', hre⟩ := hc.recorded hac hg
    cases hst.symm.trans hst'
    exact ⟨a, hac, hre.symm⟩
  refine ⟨⟨?_, ?_⟩, ⟨?_, ?_⟩, ⟨?_, ?_⟩⟩
  · rintro ⟨a, hac⟩
    obtain ⟨st, hst, hre⟩ := hc.recorded hac hg
    exact ⟨st, hst, hre ▸ (hc.active hac).open⟩
  · rintro ⟨st, hst, ho⟩
    obtain ⟨a, hac, -⟩ := hb st hst ho
    exact ⟨a, hac⟩
  · rintro ⟨a, hac, hp⟩
    obtain ⟨st, hst, hre⟩ := hc.recorded hac hg
    obtain ⟨-, hs, -⟩ | ⟨hr, -⟩ := (hc.active hac).phase
    · exact ⟨st, hst, hre ▸ hs⟩
    · rw [hp] at hr
      cases hr
  · rintro ⟨st, hst, hs⟩
    obtain ⟨a, hac, hre⟩ := hb st hst (by rw [hs]; rfl)
    obtain ⟨hp, -⟩ | ⟨-, hr⟩ := (hc.active hac).phase
    · exact ⟨a, hac, hp⟩
    · rw [hre, hs] at hr
      cases hr
  · rintro ⟨a, hac, hr⟩
    obtain ⟨st, hst, hre⟩ := hc.recorded hac hg
    obtain ⟨hp, -⟩ | ⟨-, hs⟩ := (hc.active hac).phase
    · rw [hr] at hp
      cases hp
    · exact ⟨st, hst, hre ▸ hs⟩
  · rintro ⟨st, hst, hs⟩
    obtain ⟨a, hac, hre⟩ := hb st hst (by rw [hs]; rfl)
    obtain ⟨-, ha, -⟩ | ⟨hr, -⟩ := (hc.active hac).phase
    · rw [hre, hs] at ha
      cases ha
    · exact ⟨a, hac, hr⟩

/-- With access ordinals left, the queue holds the pending commands, each once. -/
theorem Waiting.pending_iff (hs : s.Waiting) (hc : Coupled s) (hex : ¬ s.ledger.Exhausted) (key : ActiveKey) :
    (∃ a, s.active[key]? = some a ∧ a.phase = .pending) ↔ s.pending.count key = 1 := by
  constructor
  · rintro ⟨a, ha, hp⟩
    exact List.nodup_iff_count_eq_one.mp hc.queue key ((hs _ _ ha hp).resolve_right hex)
  · intro hco
    exact hc.queued (List.one_le_count_iff.mp hco.ge)

/-- **The coupling of the actor's state**, in every state of a run whose ledger
keeps access ordinals. -/
theorem state_coupling {settings : CoordinatorSettings} {eventMapper clock} {s₀ : CoordinatorTask C R E}
    (hspawn : spawn settings eventMapper clock = .ok s₀) (steps : List (Step C R E))
    (hcounter : along step (fun s a => ¬ (step s a).2.ledger.Exhausted) s₀ steps) :
    let s := final step s₀ steps
    (s.lease.generation = s.token ∧ s.ledger.generation = s.token ∧ s.events.generation = s.token) ∧
    (∀ key : ActiveKey, key.generation = s.token → ((∃ ac, s.active[key]? = some ac) ↔
        ∃ st, s.ledger.records[key.command]? = some st ∧ st.record.state.isTerminal = false) ∧
      ((∃ ac, s.active[key]? = some ac ∧ ac.phase = .pending) ↔
        ∃ st, s.ledger.records[key.command]? = some st ∧ st.record.state = .accepted) ∧
      ((∃ ac, s.active[key]? = some ac ∧ ac.phase = .pending) ↔ s.pending.count key = 1) ∧
      ((∃ ac, s.active[key]? = some ac ∧ ac.phase = .running) ↔
        ∃ st, s.ledger.records[key.command]? = some st ∧ st.record.state = .running)) ∧
    (∀ (key : ActiveKey) (ac), s.active[key]? = some ac → key.generation ≠ s.token →
      key.generation.epoch ≤ s.token.epoch ∧ ac.phase = .running ∧ ac.stop ≠ .continue) ∧
    s.active.size ≤ s.settings.maximumActiveCommands ∧
    ∀ p, s.activeOf p ≤ s.settings.maximumActivePerPrincipal := by
  intro s
  obtain ⟨hc, hw, hex⟩ : Coupled s ∧ s.Waiting ∧ ¬ s.ledger.Exhausted := by
    refine run_induction_along
      (P := fun t _ => Coupled t ∧ t.Waiting ∧ ¬ t.ledger.Exhausted) ?_ ?_ steps hcounter
    · exact ⟨coupled_spawn hspawn, waiting_spawn hspawn⟩
    · rintro t log a ⟨hc, hw, -⟩ hex
      exact ⟨hc.step a, hw.step hc a, hex⟩
  refine ⟨⟨hc.leaseToken, hc.ledgerToken, hc.eventsToken⟩, ?_, ?_, hc.capacity, hc.share⟩
  · intro key hg
    obtain ⟨ha, hp, hr⟩ := hc.phase_iff hg
    exact ⟨ha, hp, hw.pending_iff hc hex key, hr⟩
  · intro key ac hk hg
    exact ⟨hc.epoch hk, hc.retired hk hg⟩

/-- With one execution slot, the first of two commands runs and the second waits. -/
theorem second_command_waits :
    let second : CommandAdmission Unit := { CommandAdmission.sample with commandId := ⟨2⟩ }
    let st : List (Step Unit Unit Unit) :=
      [.select (.message (.submit .sample)), .advance, .drive, .drive,
        .select (.message (.submit second)), .advance, .drive]
    spawn .small (fun _ _ => []) .ticking = .ok small ∧ (final step small st).running = 1 ∧
      (final step small st).pending.count second.key = 1 ∧
      ∃ sr, (final step small st).ledger.records[second.key.command]? = some sr ∧
        sr.record.state = .accepted := by
  intro second st
  obtain ⟨-, hk, -⟩ := state_coupling spawn_small st (by
    refine ⟨?_, ?_, ?_, ?_, ?_, ?_, ?_, trivial⟩ <;> decide +kernel)
  obtain ⟨-, ha, hq, -⟩ := hk second.key (by decide +kernel)
  have hc : (final step small st).pending.count second.key = 1 := by decide +kernel
  exact ⟨spawn_small, by decide +kernel, hc, ha.mp (hq.mpr hc)⟩

end Xenoteer.CoordinatorTask
