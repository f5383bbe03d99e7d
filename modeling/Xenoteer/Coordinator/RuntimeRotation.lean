/-
The rotation of the desktop generation: the fence, the lease, the ledger and
the event hub move to the new token together, queued commands are gone and
running ones are asked to stop (`Rotated`).
-/
import Xenoteer.Coordinator.RuntimeSteps

namespace Xenoteer.CoordinatorTask

open Lib.TreeMapKeys

variable {C R E : Type} {s s' : CoordinatorTask C R E} {key : ActiveKey} {active : ActiveCommand C R}
  {now : MonotonicMillis}

/-- What becomes of a command of a retired generation. -/
def retire (active : ActiveCommand C R) : Option (ActiveCommand C R) :=
  if active.phase = .pending then none else some (requestStop active .generationChanged)

theorem running_of_not_pending (h : active.phase ≠ .pending) : active.phase = .running := by
  cases hp : active.phase with
  | pending => exact absurd hp h
  | running => rfl

theorem retire_requestStop (hr : active.phase = .running) :
    retire (requestStop active .generationChanged) = some (requestStop active .generationChanged) := by
  have hp : (requestStop active .generationChanged).phase = .running := by
    unfold requestStop
    split <;> exact hr
  rw [retire, if_neg (by rw [hp]; decide)]
  unfold requestStop
  split
  · split <;> rfl
  · rfl

/-- The commands of retired generations are gone from the queue and asked to
stop where they run; neither the ledger nor the events are touched. -/
structure Retires (s : CoordinatorTask C R E) (keys : List ActiveKey) (s' : CoordinatorTask C R E) :
    Prop where
  frame : ∃ active pending out, s' = { s with active, pending, outbox := s.outbox ++ out } ∧
    ∀ x ∈ out, Sent.IsNotice x = true ∧ x.Tells (Ends none)
  active : ∀ k : ActiveKey, s'.active[k]? = if k ∈ keys then s.active[k]?.bind retire else s.active[k]?
  queue : s'.pending.Sublist s.pending
  queued : ∀ k ∈ s'.pending, k ∈ keys → ∀ a, s.active[k]? = some a → a.phase = .running

theorem Retires.cons {t keys} (h : Retires t keys s')
    (hf : ∃ active pending out, t = { s with active, pending, outbox := s.outbox ++ out } ∧
      ∀ x ∈ out, Sent.IsNotice x = true ∧ x.Tells (Ends none))
    (hke : t.active[key]? = s.active[key]?.bind retire)
    (hr : ∀ k, k ≠ key → t.active[k]? = s.active[k]?)
    (hq : t.pending.Sublist s.pending)
    (hqu : key ∈ t.pending → ∀ a, s.active[key]? = some a → a.phase = .running) :
    Retires s (key :: keys) s' where
  frame := by
    obtain ⟨active, pending, out, rfl, ho⟩ := hf
    obtain ⟨active', pending', out', rfl, ho'⟩ := h.frame
    refine ⟨active', pending', out ++ out', by simp, ?_⟩
    intro x hx
    obtain hx | hx := List.mem_append.mp hx
    · exact ho x hx
    · exact ho' x hx
  active k := by
    rw [h.active k]
    by_cases hk : k = key
    · subst hk
      rw [hke, if_pos List.mem_cons_self]
      -- retiring a command twice is retiring it once
      split
      · cases ha : s.active[k]? with
        | none => rfl
        | some a =>
          simp only [Option.bind_some, retire]
          split
          · rfl
          next hp => exact retire_requestStop (running_of_not_pending hp)
      · rfl
    · rw [hr k hk]
      simp [hk]
  queue := h.queue.trans hq
  queued k hk hm a ha := by
    by_cases heq : k = key
    · subst heq
      exact hqu (h.queue.subset hk) a ha
    · obtain hm | hm := List.mem_cons.mp hm
      · exact absurd hm heq
      · exact h.queued k hk hm a (by rw [hr k heq]; exact ha)

theorem stopEachOrFail_retires {now keys} (hke : ∀ key ∈ keys, key.generation ≠ s.token)
    (hs : ∀ {key : ActiveKey} {active}, s.active[key]? = some active → ActiveSound key active) :
    ∃ s', stopEachOrFail .generationChanged .generationChanged now keys s = (.ok (), s') ∧
      Retires s keys s' := by
  induction keys generalizing s with
  | nil =>
    exact ⟨s, rfl, ⟨s.active, s.pending, [], by simp, by simp⟩, by simp, List.Sublist.refl _, by simp⟩
  | cons key keys ih =>
    have hg := hke key List.mem_cons_self
    have hre : ∀ k ∈ keys, k.generation ≠ s.token := fun k hk => hke k (List.mem_cons_of_mem _ hk)
    simp only [stopEachOrFail, stopActive]
    cases hk : s.active[key]? with
    | none =>
      obtain ⟨s', heq, hr⟩ := ih hre hs
      refine ⟨s', heq, hr.cons ⟨s.active, s.pending, [], by simp, by simp⟩ ?_ (fun _ _ => rfl)
        (List.Sublist.refl _) (fun _ a ha => ?_)⟩
      · rw [hk]; rfl
      · rw [hk] at ha; cases ha
    | some active =>
      cases hp : active.phase with
      | pending =>
        simp only [hp, completeActive_retired hk (hs hk) hg, if_true]
        let t : CoordinatorTask C R E :=
          { s with
            active := s.active.erase key
            pending := s.pending.filter (· ≠ key)
            outbox := s.outbox ++ [.update key
              { active.record with
                state := .terminal (.stopped .generationChanged .beforeEffect)
                updatedAt := now }] }
        obtain ⟨s', heq, hr⟩ := ih (s := t) hre fun h => hs (erase_cases h).2
        refine ⟨s', heq, hr.cons ⟨_, _, _, rfl, ?_⟩ ?_ ?_ List.filter_sublist ?_⟩
        · simp only [List.mem_singleton, forall_eq]
          exact ⟨rfl, Sent.tells_update (.of_terminal rfl (.stopped (by decide)))⟩
        · rw [hk, Option.bind_some, retire, if_pos hp]
          exact getElem?_erase_eq.trans (if_pos rfl)
        · exact fun k hne => getElem?_erase_ne hne
        · intro hm
          simp [t] at hm
      | running =>
        simp only [hp]
        let t : CoordinatorTask C R E :=
          { s with active := s.active.insert key (requestStop active .generationChanged) }
        obtain ⟨s', heq, hr⟩ := ih (s := t) hre (by
          intro k a h
          obtain ⟨rfl, rfl⟩ | ⟨-, h⟩ := insert_cases h
          · obtain ⟨stop, -, heq⟩ := requestStop_eq active
              (show ExecutionStop.generationChanged ≠ .continue by decide)
            rw [heq]
            exact { hs hk with }
          · exact hs h)
        refine ⟨s', heq, hr.cons ⟨t.active, s.pending, [], by simp [t], by simp⟩ ?_ ?_
          (List.Sublist.refl _) ?_⟩
        · rw [hk, Option.bind_some, retire, if_neg (by rw [hp]; decide)]
          exact getElem?_insert_eq.trans (if_pos rfl)
        · exact fun k hne => getElem?_insert_ne hne
        · intro _ a ha
          rw [hk] at ha
          cases ha
          exact hp

/-- The actor after a rotation: every fenced machine carries the new token,
no command is queued, and those that run are asked to stop. -/
structure Rotated (s s' : CoordinatorTask C R E) : Prop where
  epoch : s.token.epoch < s'.token.epoch
  leaseToken : s'.lease.generation = s'.token
  leaseDesktop : s'.lease.desktopId = s'.token.desktopId
  ledgerToken : s'.ledger.generation = s'.token
  ledgerDesktop : s'.ledger.desktopId = s'.token.desktopId
  eventsToken : s'.events.generation = s'.token
  eventsDesktop : s'.events.desktopId = s'.token.desktopId
  records : s'.ledger.records = ∅
  unseen : s'.ledger.lastObservedAt = none
  reads : s.reads ≤ s'.reads
  active : ∀ {key : ActiveKey} {active'}, s'.active[key]? = some active' →
    ∃ active stop, s.active[key]? = some active ∧ active.phase = .running ∧ stop ≠ .continue ∧
      active' = { active with stop }
  kept : ∀ {key : ActiveKey} {active}, s.active[key]? = some active → active.phase = .running →
    ∃ active', s'.active[key]? = some active'
  pending : s'.pending = []
  settings : s'.settings = s.settings
  tasks : s'.tasks = s.tasks
  running : s'.running = s.running
  activeReset : s'.activeReset = s.activeReset
  shuttingDown : s'.shuttingDown = s.shuttingDown
  outbox : ∃ out, s'.outbox = s.outbox ++ out ∧ (∀ x ∈ out, Sent.IsNotice x = true) ∧ ∀ x ∈ out, x.Tells (Ends none)

theorem Rotated.keys_subset (h : Rotated s s') : s'.active.keys ⊆ s.active.keys := by
  intro k hk
  obtain ⟨a', ha'⟩ := mem_keys_iff.mp hk
  obtain ⟨a, st, ha, -⟩ := h.active ha'
  exact mem_keys_iff.mpr ⟨a, ha⟩

theorem Coupled.rotated (hc : Coupled s) (h : Rotated s s') : Coupled s' where
  __ := h
  ledger := ⟨by rw [h.ledgerToken, h.ledgerDesktop], by rw [h.records]; exact Nat.zero_le _,
    fun hk => by rw [h.records] at hk; simp at hk⟩
  reads := Nat.lt_of_lt_of_le hc.reads h.reads
  clock hl := by
    rw [h.unseen] at hl
    cases hl
  active hk := by
    obtain ⟨a, st, ha, -, -, rfl⟩ := h.active hk
    exact { hc.active ha with }
  epoch hk := by
    obtain ⟨a, st, ha, -⟩ := h.active hk
    exact (hc.epoch ha).trans h.epoch.le
  recorded hk hg := by
    -- the commands left are of earlier generations
    obtain ⟨a, st, ha, -⟩ := h.active hk
    have := hc.epoch ha
    rw [hg] at this
    exact absurd h.epoch (Nat.not_lt.mpr this)
  tracked hk := by
    rw [h.records] at hk
    simp at hk
  retired hk _ := by
    obtain ⟨a, st, ha, hr, hs, rfl⟩ := h.active hk
    exact ⟨hr, hs⟩
  queue := by
    rw [h.pending]
    exact List.nodup_nil
  queued hk := by
    rw [h.pending] at hk
    cases hk
  spawned := by
    rw [h.tasks]
    exact hc.spawned
  executing hk := by
    rw [h.tasks] at hk
    obtain ⟨a, ha, hr⟩ := hc.executing hk
    obtain ⟨a', ha'⟩ := h.kept ha hr
    obtain ⟨b, st, hb, hbr, -, rfl⟩ := h.active ha'
    exact ⟨_, ha', hbr⟩
  capacity := by
    rw [h.settings]
    exact (size_le h.keys_subset).trans hc.capacity
  share p := by
    rw [h.settings]
    exact (countP_keys_le h.keys_subset).trans (hc.share p)

/-- The actor once the four fenced machines carry a new token and the time was read. -/
def fenced (s : CoordinatorTask C R E) (t : GenerationToken) : CoordinatorTask C R E :=
  { s with
    generationFence := ⟨t⟩
    lease := ({ s.lease with generation := t }.revoke .generationChanged).2
    ledger :=
      { s.ledger with records := ∅, generation := t, nextAccessOrdinal := 1, lastObservedAt := none }
    events :=
      { s.events with
        retained := [], retainedBytes := 0, latestSequence := 0, droppedThrough := 0, generation := t }
    reads := s.reads + 1 }

/-- The commands to retire in a rotation. -/
def retirees (s : CoordinatorTask C R E) (t : GenerationToken) : List ActiveKey :=
  s.active.keys.filter (·.generation ≠ t)

variable {t : GenerationToken}

/-- None of the three machines refuses a token the fence accepted, and no
retired command fails to stop. -/
theorem rotateGeneration_eq (hc : Coupled s) {gn}
    (hf : s.generationFence.rotate gn = (.ok t, ⟨t⟩)) (hd : t.desktopId = s.token.desktopId)
    (hne : t.generation ≠ s.token.generation) (he : s.token.epoch < t.epoch)
    (hs' : stopEachOrFail .generationChanged .generationChanged (s.fenced t).latest (s.retirees t) (s.fenced t) =
      (.ok (), s')) : s.rotateGeneration gn = (.ok t, s'.ensureReset) := by
  have hn : ∀ g : GenerationToken, g = s.token → ¬ (t.epoch ≤ g.epoch ∨ t.generation = g.generation) := by
    rintro g rfl (h | h)
    · exact Nat.not_le.mpr he h
    · exact hne h
  have hl : s.lease.rotateGeneration t = (.ok (), (s.fenced t).lease) := by
    rw [LeaseMachine.rotateGeneration, if_neg (not_not.mpr (hd.trans hc.leaseDesktop.symm)),
      if_neg (hn _ hc.leaseToken)]
    rfl
  have hle : s.ledger.rotateGeneration t = (.ok s.ledger.records.size, (s.fenced t).ledger) := by
    rw [CommandLedger.rotateGeneration, if_neg (not_not.mpr (hd.trans hc.accepts.desktop)),
      if_neg (hn _ hc.ledgerToken)]
    rfl
  have hev : s.events.rotateGeneration t = (.ok s.events.retained.length, (s.fenced t).events) := by
    rw [EventHub.rotateGeneration, if_neg (not_not.mpr (hd.trans hc.eventsDesktop.symm)),
      if_neg (hn _ hc.eventsToken)]
    rfl
  simp only [rotateGeneration, hf, hl, hle, hev]
  split
  next hm => cases hm.symm.trans hs'
  next hm =>
    cases hm.symm.trans hs'
    rfl

/-- The active commands are retired by a token with a later epoch. -/
theorem Coupled.mem_retirees (hc : Coupled s) (he : s.token.epoch < t.epoch)
    (hk : s.active[key]? = some active) : key ∈ s.retirees t := by
  refine List.mem_filter.mpr ⟨mem_keys_iff.mpr ⟨_, hk⟩, ?_⟩
  have hold := hc.epoch hk
  simp only [ne_eq, decide_not, Bool.not_eq_eq_eq_not, Bool.not_true, decide_eq_false_iff_not]
  rintro rfl
  exact Nat.not_le.mpr he hold

theorem Coupled.retires_rotated (hc : Coupled s) (hd : t.desktopId = s.token.desktopId)
    (he : s.token.epoch < t.epoch) (hre : Retires (s.fenced t) (s.retirees t) s') : Rotated s s' := by
  have hm : ∀ {key : ActiveKey} {active}, s.active[key]? = some active → key ∈ s.retirees t :=
    hc.mem_retirees he
  have hac : ∀ key : ActiveKey, s'.active[key]? = s.active[key]?.bind retire := by
    intro key
    rw [hre.active key]
    change (if _ then s.active[key]?.bind retire else s.active[key]?) = _
    cases hk : s.active[key]? with
    | none => simp
    | some active => rw [if_pos (hm hk)]
  have hrv := revoke_change { s.lease with generation := t } .generationChanged
  obtain ⟨active, p, out, rfl, ho⟩ := hre.frame
  exact
    { epoch := he
      leaseToken := hrv.generation
      leaseDesktop := hrv.desktop.trans (hc.leaseDesktop.trans hd.symm)
      ledgerToken := rfl
      ledgerDesktop := hc.accepts.desktop.symm.trans hd.symm
      eventsToken := rfl
      eventsDesktop := hc.eventsDesktop.trans hd.symm
      records := rfl
      unseen := rfl
      reads := Nat.le_succ _
      active := by
        intro key active' hk
        rw [hac key] at hk
        obtain ⟨a, ha, hrt⟩ := Option.bind_eq_some_iff.mp hk
        obtain ⟨st, hs, heq⟩ := requestStop_eq a
          (show ExecutionStop.generationChanged ≠ .continue by decide)
        simp only [retire, heq] at hrt
        split at hrt
        · cases hrt
        next hp =>
          cases hrt
          exact ⟨a, st, ha, running_of_not_pending hp, hs, rfl⟩
      kept := by
        intro key a ha hr
        refine ⟨requestStop a .generationChanged, ?_⟩
        rw [hac key, ha, Option.bind_some, retire, if_neg (by rw [hr]; decide)]
      pending := by
        refine List.eq_nil_iff_forall_not_mem.mpr fun key hke => ?_
        obtain ⟨a, ha, hp⟩ := hc.queued (hre.queue.subset hke)
        have hr := hre.queued key hke (hm ha) a ha
        rw [hp] at hr
        cases hr
      settings := rfl
      tasks := rfl
      running := rfl
      activeReset := rfl
      shuttingDown := rfl
      outbox := ⟨out, rfl, fun x hx => (ho x hx).1, fun x hx => (ho x hx).2⟩ }

/-- A rotation is refused by the fence and changes nothing, or moves the four
fenced machines together. -/
theorem rotateGeneration_cases (hc : Coupled s) (generation : DesktopGeneration) :
    (∃ e, s.rotateGeneration generation = (.error (.generation e), s)) ∨
      ∃ t s₁, Rotated s s₁ ∧ s.rotateGeneration generation = (.ok t, s₁.ensureReset) := by
  cases hf : s.generationFence.rotate generation with | mk r fence =>
  obtain ⟨e, rfl, rfl⟩ | ⟨t, rfl, rfl, hd, hg, hne, he⟩ := GenerationFence.rotate_cases hf
  · exact .inl ⟨e, by simp only [rotateGeneration, hf]⟩
  have hlt : s.token.epoch < t.epoch := Nat.lt_of_lt_of_eq (Nat.lt_succ_self _) he.symm
  have hk : ∀ key ∈ s.retirees t, key.generation ≠ (s.fenced t).token := by
    intro key hke
    change key.generation ≠ t
    simpa using (List.mem_filter.mp hke).2
  obtain ⟨s₁, heq, hr⟩ := stopEachOrFail_retires hk hc.active
  exact .inr ⟨t, s₁, hc.retires_rotated hd hlt hr,
    rotateGeneration_eq hc hf hd (fun h => hne (hg.symm.trans h)) hlt heq⟩

end Xenoteer.CoordinatorTask
