/-
What the actor's methods can do to its state. `Coupled` is the invariant that
ties the fence, the lease, the ledger, the event hub, the active map and the
queue together; `Move` lists the few changes a coupled state goes through,
and `Moved` is a run of them. Every method of `Coordinator.Runtime` other
than a rotation and an admission is a `Moved` (see `RuntimeSteps`), so an
invariant of the actor is proved once per move.
-/
import Xenoteer.Coordinator.LeaseFacts
import Xenoteer.Coordinator.LedgerFacts
import Xenoteer.Coordinator.Runtime
import Xenoteer.Lib.TreeMapKeys
import Mathlib.Logic.Relation

namespace Xenoteer

/-! ## Ledger and lease changes that leave the commands alone -/

/-- The ledger was read or refused: no unfinished record is touched, none is
added, and terminal ones may only leave. -/
structure CommandLedger.Refreshed {R : Type} (l l' : CommandLedger R) (now : MonotonicMillis) : Prop where
  desktop : l'.desktopId = l.desktopId
  generation : l'.generation = l.generation
  sound : l.Sound → l'.Sound
  counter : l.nextAccessOrdinal ≤ l'.nextAccessOrdinal
  clock : l'.lastObservedAt = l.lastObservedAt ∨ l'.lastObservedAt = some now
  kept : l.Sound → ∀ {k : CommandKey} {stored}, l.records[k]? = some stored →
    stored.record.state.isTerminal = false → ∃ stored', l'.records[k]? = some stored' ∧
      stored'.record = stored.record
  back : ∀ {k : CommandKey} {stored'}, l'.records[k]? = some stored' →
    ∃ stored, l.records[k]? = some stored ∧ stored'.record = stored.record

namespace CommandLedger.Refreshed

variable {R : Type} {l l' : CommandLedger R} {now : MonotonicMillis}

theorem refl (l : CommandLedger R) (now : MonotonicMillis) : Refreshed l l now :=
  ⟨rfl, rfl, id, le_rfl, .inl rfl, fun _ _ st hk _ => ⟨st, hk, rfl⟩, fun hk => ⟨_, hk, rfl⟩⟩

theorem observed {generation} (ha : l.Accepts now generation) : Refreshed l (l.observed now) now :=
  ⟨rfl, rfl, Sound.observed ha, le_rfl, .inr rfl, fun _ _ st hk _ => ⟨st, hk, rfl⟩, fun hk => ⟨_, hk, rfl⟩⟩

theorem purged {generation} (ha : l.Accepts now generation) : Refreshed l (l.purged now) now where
  desktop := rfl
  generation := rfl
  sound := Sound.purged ha
  counter := le_rfl
  clock := .inr rfl
  kept hs k stored hk ho := by
    refine ⟨stored, ?_, rfl⟩
    have hn := (hs.record hk).unfinished ho
    rw [purged_getElem?, hk]
    simp [unexpired, hn]
  back hk := ⟨_, purged_sub hk, rfl⟩

/-- A read takes an ordinal and stores the record again. -/
theorem read {generation key stored} (ha : l.Accepts now generation)
    (hke : (l.purged now).records[key]? = some stored) : Refreshed l ((l.purged now).put key stored) now where
  desktop := rfl
  generation := rfl
  sound hs := hs.transition (show Transition l (.lookup key.principal key.commandId now generation)
    (.found (.ok (some stored.record))) _ from .read ha hke rfl rfl)
  counter := Nat.le_succ _
  clock := .inr rfl
  kept hs k st hk ho := by
    obtain ⟨st', hk', hr⟩ := (purged ha).kept hs hk ho
    rw [put_getElem?]
    split
    next heq =>
      subst heq
      rw [hke] at hk'
      cases hk'
      exact ⟨_, rfl, hr⟩
    · exact ⟨st', hk', hr⟩
  back {k st'} hk := by
    rw [put_getElem?] at hk
    split at hk
    next heq =>
      subst heq
      cases hk
      obtain ⟨st, hst, hr⟩ := (purged ha).back hke
      exact ⟨st, hst, hr⟩
    · exact (purged ha).back hk

theorem trans {l''} (h : Refreshed l l' now) (h' : Refreshed l' l'' now) : Refreshed l l'' now where
  desktop := h'.desktop.trans h.desktop
  generation := h'.generation.trans h.generation
  sound := h'.sound ∘ h.sound
  counter := h.counter.trans h'.counter
  clock := by
    obtain hsa | hn := h'.clock
    · rw [hsa]
      exact h.clock
    · exact .inr hn
  kept hs k stored hk ho := by
    obtain ⟨st, hst, hr⟩ := h.kept hs hk ho
    obtain ⟨st', hst', hr'⟩ := h'.kept (h.sound hs) hst (hr ▸ ho)
    exact ⟨st', hst', hr'.trans hr⟩
  back {k stored'} hk := by
    obtain ⟨st, hst, hr⟩ := h'.back hk
    obtain ⟨st', hst', hr'⟩ := h.back hst
    exact ⟨st', hst', hr.trans hr'⟩

theorem spend (l : CommandLedger R) (now : MonotonicMillis) : Refreshed l l.spend now :=
  { refl l now with
    sound := Sound.spend
    counter := Nat.le_succ _ }

/-- Only a terminal record is evicted. -/
theorem without {v} (hv : l.lruTerminal = some v) : Refreshed l (l.without v) now where
  desktop := rfl
  generation := rfl
  sound := Sound.without
  counter := le_rfl
  clock := .inl rfl
  kept hs k stored hk ho := by
    obtain ⟨st', hvi, ht, -⟩ := lruTerminal_some hv
    refine ⟨stored, ?_, rfl⟩
    rw [without_getElem?, if_neg, hk]
    rintro rfl
    rw [hk] at hvi
    cases hvi
    rw [ho] at ht
    cases ht
  back {k st'} hk := by
    rw [without_getElem?] at hk
    split at hk
    · cases hk
    · exact ⟨st', hk, rfl⟩

theorem lookup (l : CommandLedger R) (principal commandId now generation) :
    Refreshed l (l.lookup principal commandId now generation).2 now := by
  obtain ⟨e, -, he⟩ | ⟨ha, ⟨he, -⟩ | ⟨he, -⟩ | ⟨st, hk, he⟩⟩ :=
      lookup_cases l principal commandId now generation <;> rw [he]
  · exact refl l now
  · exact purged ha
  · exact purged ha
  · exact read ha hk

end CommandLedger.Refreshed

/-- The changes of a lease within a step, other than the end of its reset. -/
inductive LeaseState.Change : LeaseState → LeaseState → Prop
  | same (st) : Change st st
  | granted {g} : Change .vacant (.held g)
  | held {g g'} : g'.owner = g.owner → g'.leaseId = g.leaseId → Change (.held g) (.held g')
  | revoked {g reason} : Change (.held g) (.revoking g reason)
  | resetting {g reason} : Change (.revoking g reason) (.resetting g reason)

structure LeaseMachine.Change (m m' : LeaseMachine) : Prop where
  desktop : m'.desktopId = m.desktopId
  generation : m'.generation = m.generation
  state : LeaseState.Change m.state m'.state

variable {C R E : Type}

/-- What the actor sends beside its replies and its calls of the executor. -/
def Sent.IsNotice : Sent C R E → Bool
  | .live _ | .update .. | .reset _ => true
  | .reply _ | .execute .. => false

theorem Sent.isNotice_of_live {x : Sent C R E} (h : ∃ sq, x = .live sq) : x.IsNotice = true := by
  obtain ⟨_, rfl⟩ := h
  rfl

/-- A terminal record's result has the property. -/
def CommandRecord.Holds {R : Type} (T : R → Prop) (record : CommandRecord R) : Prop :=
  ∀ result, record.state = .terminal result → T result

theorem CommandRecord.Holds.of_open {T : R → Prop} {r : CommandRecord R}
    (h : r.state.isTerminal = false) : r.Holds T := by
  intro rs hr
  rw [hr] at h
  cases h

def Reply.records : Reply R E → List (CommandRecord (CommandTerminal R))
  | .submitted (.ok submission) => [submission.record, submission.updates]
  | .found (.ok (some record)) | .watched (.ok (some record)) => [record]
  | _ => []

/-- The records that leave the actor with a reply or a watch update. -/
def Sent.records : Sent C R E → List (CommandRecord (CommandTerminal R))
  | .reply r => r.records
  | .update _ record => [record]
  | _ => []

def Sent.Tells (T : CommandTerminal R → Prop) (x : Sent C R E) : Prop := ∀ record ∈ x.records, record.Holds T

theorem Sent.tells_update {T key r} (h : r.Holds T) :
    (Sent.update key r : Sent C R E).Tells T := fun _ hr => List.mem_singleton.mp hr ▸ h

theorem CommandRecord.Holds.of_terminal {T : R → Prop} {r : CommandRecord R} {tr : R}
    (h : r.state = .terminal tr) (hT : T tr) : r.Holds T := by
  intro rs hr
  cases h.symm.trans hr
  exact hT

namespace CoordinatorTask

open Lib.TreeMapKeys

/-! ## The invariant -/

/-- The authoritative generation. -/
abbrev token (s : CoordinatorTask C R E) : GenerationToken := s.generationFence.current

/-- The last clock reading. -/
def latest (s : CoordinatorTask C R E) : MonotonicMillis := s.nowMillisAt (s.clock.reading (s.reads - 1))

/-- A queued command is accepted and still has its payload; one whose
execution began is running. -/
structure ActiveSound (key : ActiveKey) (active : ActiveCommand C R) : Prop where
  generation : active.record.generation = key.generation
  updates : active.updates = active.record
  phase : active.phase = .pending ∧ active.record.state = .accepted ∧ active.command.isSome ∨
    active.phase = .running ∧ active.record.state = .running

def executionKey : SpawnedTask → Option ActiveKey
  | .execution key => some key
  | .reset _ => none

/-- The invariant of the actor's state. -/
structure Coupled (s : CoordinatorTask C R E) : Prop where
  leaseToken : s.lease.generation = s.token
  leaseDesktop : s.lease.desktopId = s.token.desktopId
  ledgerToken : s.ledger.generation = s.token
  eventsToken : s.events.generation = s.token
  eventsDesktop : s.events.desktopId = s.token.desktopId
  ledger : s.ledger.Sound
  reads : 0 < s.reads
  clock : ∀ {last}, s.ledger.lastObservedAt = some last → last ≤ s.latest
  active : ∀ {key : ActiveKey} {active}, s.active[key]? = some active → ActiveSound key active
  epoch : ∀ {key : ActiveKey} {active}, s.active[key]? = some active → key.generation.epoch ≤ s.token.epoch
  recorded : ∀ {key : ActiveKey} {active}, s.active[key]? = some active → key.generation = s.token →
    ∃ stored, s.ledger.records[key.command]? = some stored ∧ stored.record = active.record
  tracked : ∀ {k : CommandKey} {stored}, s.ledger.records[k]? = some stored →
    stored.record.state.isTerminal = false →
    ∃ active, s.active[(⟨s.token, k.principal, k.commandId⟩ : ActiveKey)]? = some active
  retired : ∀ {key : ActiveKey} {active}, s.active[key]? = some active → key.generation ≠ s.token →
    active.phase = .running ∧ active.stop ≠ .continue
  queue : s.pending.Nodup
  queued : ∀ {key : ActiveKey}, key ∈ s.pending → ∃ active, s.active[key]? = some active ∧
    active.phase = .pending
  spawned : (s.tasks.filterMap executionKey).Nodup
  executing : ∀ {key : ActiveKey}, .execution key ∈ s.tasks →
    ∃ active, s.active[key]? = some active ∧ active.phase = .running
  capacity : s.active.size ≤ s.settings.maximumActiveCommands
  share : ∀ principal, s.activeOf principal ≤ s.settings.maximumActivePerPrincipal

/-! ## The moves -/

/-- What a terminal transition of `key` does to the ledger: it completes the
record of the current generation, and has none to complete for a retired one. -/
inductive Finishes (s : CoordinatorTask C R E) (key : ActiveKey) (terminal : CommandTerminal R) :
    CommandLedger (CommandTerminal R) → Prop
  | current {stored} : key.generation = s.token → s.ledger.Accepts s.latest s.token →
      ¬ s.ledger.Exhausted → s.ledger.records[key.command]? = some stored →
      stored.record.state.isTerminal = false →
      Finishes s key terminal ((s.ledger.observed s.latest).put key.command (stored.completed terminal s.latest))
  | retired : key.generation ≠ s.token → Finishes s key terminal s.ledger

/-- The terminal results a step stores: stops without a retained result, and
that of the execution which ended in the step, if one did. -/
inductive Ends (o : Option (ExecutionOutcome R)) : CommandTerminal R → Prop
  | stopped {cause effect} : cause ≠ .returned → Ends o (.stopped cause effect)
  | returned {outcome} (stop) : o = some outcome → Ends o (terminalOf stop (some outcome))

/-- What the actor's methods do to a coupled state, in a step in which an
execution ended with the outcome `o`. A command leaves the active
map with a terminal update; it leaves the queue without a trace (`popped`), or
its task without a terminal record (`orphaned`), only when the ledger has no
access ordinal left. -/
inductive Move (o : Option (ExecutionOutcome R)) : CoordinatorTask C R E → CoordinatorTask C R E → Prop
  | clock {s n} : s.reads ≤ n → Move o s { s with reads := n }
  | sent {s out} : (∀ x ∈ out, ∃ sequence, x = .live sequence) → Move o s { s with outbox := s.outbox ++ out }
  | events {s hub} : hub.desktopId = s.events.desktopId → hub.generation = s.events.generation →
      Move o s { s with events := hub }
  | lease {s m} : s.lease.Change m → Move o s { s with lease := m }
  | ledger {s l} : s.ledger.Refreshed l s.latest → Move o s { s with ledger := l }
  | loop {s point resetFailed shutdownReply} : Move o s { s with point, resetFailed, shutdownReply }
  | closed {s} : Move o s { s with shuttingDown := true }
  | stopped {s stop} {key : ActiveKey} {active} : s.active[key]? = some active → active.phase = .running →
      stop ≠ .continue → Move o s { s with active := s.active.insert key { active with stop } }
  | finished {s l} {key : ActiveKey} {active terminal} (record) : s.active[key]? = some active →
      active.phase = .pending → Finishes s key terminal l → Ends o terminal → record.state = .terminal terminal →
      Move o s
        { s with
          ledger := l
          active := s.active.erase key
          pending := s.pending.filter (· ≠ key)
          outbox := s.outbox ++ [.update key record] }
  | joined {s l} {key : ActiveKey} {active terminal} (record) : .execution key ∈ s.tasks →
      s.active[key]? = some active → Finishes s key terminal l → Ends o terminal → record.state = .terminal terminal →
      Move o s
        { s with
          tasks := s.tasks.erase (.execution key)
          running := s.running - 1
          ledger := l
          active := s.active.erase key
          outbox := s.outbox ++ [.update key record] }
  | orphaned {s key} : .execution key ∈ s.tasks → s.ledger.Exhausted →
      Move o s { s with tasks := s.tasks.erase (.execution key), running := s.running - 1 }
  | popped {s key rest} : s.pending = key :: rest → s.ledger.Exhausted → Move o s { s with pending := rest }
  | resetSpawned {s next request} : s.activeReset = none →
      Move o s
        { s with
          nextResetEpoch := next
          activeReset := some s.nextResetEpoch
          resetFailed := false
          tasks := s.tasks ++ [.reset s.nextResetEpoch]
          outbox := s.outbox ++ [.reset request] }

/-- The execution of the first queued command starts. -/
inductive Begins (s : CoordinatorTask C R E) (key : ActiveKey) : CoordinatorTask C R E → Prop
  | mk {rest stored command active} : s.pending = key :: rest →
      s.running < s.settings.maximumConcurrentExecutions → s.active[key]? = some active →
      active.command = some command → key.generation = s.token → ¬ s.ledger.Exhausted →
      s.ledger.records[key.command]? = some stored → stored.record.state = .accepted →
      Begins s key
        { s with
          pending := rest
          ledger := (s.ledger.observed s.latest).put key.command (stored.begun s.latest)
          active := s.active.insert key
            { active with
              command := none
              phase := .running
              record := (stored.begun s.latest).record
              updates := (stored.begun s.latest).record }
          tasks := s.tasks ++ [.execution key]
          running := s.running + 1
          outbox := s.outbox ++
            [.update key (stored.begun s.latest).record, .execute key command active.deadline] }

/-! ## The moves keep the invariant -/

section Coupled

variable {s s' : CoordinatorTask C R E} {key : ActiveKey} {active : ActiveCommand C R} {tasks : List SpawnedTask}
  {l : CommandLedger (CommandTerminal R)} {tr : CommandTerminal R} {o : Option (ExecutionOutcome R)}

theorem nowMillisAt_le (s : CoordinatorTask C R E) {a b} (h : a ≤ b) : s.nowMillisAt a ≤ s.nowMillisAt b :=
  min_le_min_right _ (Nat.div_le_div_right (Nat.sub_le_sub_right h _))

/-- Two commands of one generation with one ledger key are one command. -/
theorem command_ne {k} (hne : k ≠ key) (hg : k.generation = key.generation) : key.command ≠ k.command := by
  intro h
  apply hne
  cases k; cases key
  simp only [ActiveKey.command, CommandKey.mk.injEq] at h
  simp_all

theorem Coupled.accepts (hc : Coupled s) : s.ledger.Accepts s.latest s.token :=
  ⟨by rw [← hc.ledgerToken]; exact hc.ledger.desktop, hc.ledgerToken.symm, fun _ => hc.clock⟩

theorem ActiveSound.open (h : ActiveSound key active) : active.record.state.isTerminal = false := by
  obtain ⟨-, hs, -⟩ | ⟨-, hs⟩ := h.phase <;> rw [hs] <;> rfl

section

variable (hc : Coupled s)
include hc

theorem Coupled.running_not_queued (hk : s.active[key]? = some active)
    (hr : active.phase = .running) : key ∉ s.pending := by
  intro hm
  obtain ⟨active', hk', hp⟩ := hc.queued hm
  rw [hk] at hk'
  cases hk'
  rw [hr] at hp
  cases hp

theorem Coupled.pending_not_executing (hk : s.active[key]? = some active)
    (hp : active.phase = .pending) : SpawnedTask.execution key ∉ s.tasks := by
  intro hm
  obtain ⟨active', hk', hr⟩ := hc.executing hm
  rw [hk] at hk'
  cases hk'
  rw [hr] at hp
  cases hp

/-! A terminal transition -/

theorem Finishes.sound (h : Finishes s key tr l) :
    l.Sound ∧ l.generation = s.ledger.generation ∧ ∀ {ls}, l.lastObservedAt = some ls →
      ls ≤ s.latest := by
  cases h with
  | @current st hg ha hex hk ho =>
    refine ⟨hc.ledger.transition (show CommandLedger.Transition s.ledger
      (.complete key.principal key.commandId tr s.latest s.token) _ _ from .completed ha hk ho), rfl, ?_⟩
    intro ls hl
    cases hl
    exact le_rfl
  | retired => exact ⟨hc.ledger, rfl, hc.clock⟩

theorem Finishes.recorded (h : Finishes s key tr l) {k} (hk : s.active[k]? = some active)
    (hne : k ≠ key) (hg : k.generation = s.token) :
    ∃ st, l.records[k.command]? = some st ∧ st.record = active.record := by
  obtain ⟨st, hs, hr⟩ := hc.recorded hk hg
  cases h with
  | current hke =>
    refine ⟨st, ?_, hr⟩
    rw [CommandLedger.put_getElem?, if_neg (command_ne hne (hg.trans hke.symm))]
    exact hs
  | retired => exact ⟨st, hs, hr⟩

theorem Finishes.tracked (h : Finishes s key tr l) {k : CommandKey} {stored}
    (hk : l.records[k]? = some stored) (ho : stored.record.state.isTerminal = false) :
    ∃ active, (s.active.erase key)[(⟨s.token, k.principal, k.commandId⟩ : ActiveKey)]? = some active := by
  cases h with
  | @current st' hke =>
    rw [CommandLedger.put_getElem?] at hk
    split at hk
    · -- the completed record is terminal
      cases hk
      cases ho
    next hne =>
      obtain ⟨active, ha⟩ := hc.tracked hk ho
      refine ⟨active, ?_⟩
      rw [getElem?_erase_ne, ha]
      rintro rfl
      exact hne rfl
  | retired hg =>
    obtain ⟨active, ha⟩ := hc.tracked hk ho
    refine ⟨active, ?_⟩
    rw [getElem?_erase_ne, ha]
    rintro rfl
    exact hg rfl

/-! The moves, one by one where there is something to show -/

theorem Coupled.clockMove {n} (hn : s.reads ≤ n) : Coupled { s with reads := n } :=
  { hc with
    reads := Nat.lt_of_lt_of_le hc.reads hn
    clock := fun hl => (hc.clock hl).trans
      (s.nowMillisAt_le (s.clock.monotone (Nat.sub_le_sub_right hn 1))) }

/-- Tasks may leave the set at any time. -/
theorem Coupled.joined (h : tasks.Sublist s.tasks) : Coupled { s with tasks } :=
  { hc with
    spawned := hc.spawned.sublist (h.filterMap _)
    executing := fun hk => hc.executing (h.subset hk) }

theorem Coupled.ledgerMove (h : s.ledger.Refreshed l s.latest) : Coupled { s with ledger := l } :=
  { hc with
    ledgerToken := h.generation.trans hc.ledgerToken
    ledger := h.sound hc.ledger
    clock := by
      intro ls hl
      obtain hsa | hn := h.clock
      · exact hc.clock (hsa ▸ hl)
      · cases hn.symm.trans hl
        exact le_rfl
    recorded := by
      intro key active hk hg
      obtain ⟨st, hs, hr⟩ := hc.recorded hk hg
      obtain ⟨st', hs', hr'⟩ := h.kept hc.ledger hs (hr ▸ (hc.active hk).open)
      exact ⟨st', hs', hr'.trans hr⟩
    tracked := by
      intro k st' hk ho
      obtain ⟨st, hs, hr⟩ := h.back hk
      exact hc.tracked hs (hr ▸ ho) }

theorem Coupled.stoppedMove {stop} (hk : s.active[key]? = some active)
    (hr : active.phase = .running) (hs : stop ≠ .continue) :
    Coupled { s with active := s.active.insert key { active with stop } } where
  __ := hc
  active := by
    intro k a h
    obtain ⟨rfl, rfl⟩ | ⟨-, h⟩ := insert_cases h
    · exact { hc.active hk with }
    · exact hc.active h
  epoch := by
    intro k a h
    obtain ⟨rfl, -⟩ | ⟨-, h⟩ := insert_cases h
    · exact hc.epoch hk
    · exact hc.epoch h
  recorded := by
    intro k a h hg
    obtain ⟨rfl, rfl⟩ | ⟨-, h⟩ := insert_cases h
    · obtain ⟨st, hst, hr⟩ := hc.recorded hk hg
      exact ⟨st, hst, hr⟩
    · exact hc.recorded h hg
  tracked := by
    intro k st h ho
    obtain ⟨a, ha⟩ := hc.tracked h ho
    by_cases hke : ⟨s.token, k.principal, k.commandId⟩ = key
    · exact ⟨_, getElem?_insert_eq.trans (if_pos hke.symm)⟩
    · exact ⟨a, by rw [getElem?_insert_ne hke, ha]⟩
  retired := by
    intro k a h hg
    obtain ⟨rfl, rfl⟩ | ⟨-, h⟩ := insert_cases h
    · exact ⟨hr, hs⟩
    · exact hc.retired h hg
  queued := by
    intro k hm
    obtain ⟨a, ha, hp⟩ := hc.queued hm
    refine ⟨a, ?_, hp⟩
    rw [getElem?_insert_ne, ha]
    rintro rfl
    exact hc.running_not_queued hk hr hm
  executing := by
    intro k hm
    by_cases hke : k = key
    · exact ⟨_, getElem?_insert_eq.trans (if_pos hke.symm), hr⟩
    · obtain ⟨a, ha, hru⟩ := hc.executing hm
      exact ⟨a, by rw [getElem?_insert_ne hke, ha], hru⟩
  capacity := (size_le (keys_insert_subset hk)).trans hc.capacity
  share p := (countP_keys_le (keys_insert_subset hk)).trans (hc.share p)

/-- The parts of the invariant that a terminal transition concerns, whatever
becomes of the queue and the tasks. -/
theorem Coupled.finish (h : Finishes s key tr l) {pending : List ActiveKey}
    {running : Nat} (hq : pending.Sublist s.pending)
    {outbox : List (Sent C R E)} (hk : key ∉ pending) (ht : tasks.Sublist s.tasks)
    (he : SpawnedTask.execution key ∉ tasks) :
    Coupled { s with ledger := l, active := s.active.erase key, pending, tasks, running, outbox } where
  __ := hc
  ledgerToken := (h.sound hc).2.1.trans hc.ledgerToken
  ledger := (h.sound hc).1
  clock := (h.sound hc).2.2
  active h' := hc.active (erase_cases h').2
  epoch h' := hc.epoch (erase_cases h').2
  recorded h' hg := h.recorded hc (erase_cases h').2 (erase_cases h').1 hg
  tracked h' ho := h.tracked hc h' ho
  retired h' hg := hc.retired (erase_cases h').2 hg
  queue := hc.queue.sublist hq
  queued := by
    intro k hm
    obtain ⟨a, ha, hp⟩ := hc.queued (hq.subset hm)
    refine ⟨a, ?_, hp⟩
    rw [getElem?_erase_ne, ha]
    rintro rfl
    exact hk hm
  spawned := hc.spawned.sublist (ht.filterMap _)
  executing := by
    intro k hm
    obtain ⟨a, ha, hr⟩ := hc.executing (ht.subset hm)
    refine ⟨a, ?_, hr⟩
    rw [getElem?_erase_ne, ha]
    rintro rfl
    exact he hm
  capacity := (size_le keys_erase_subset).trans hc.capacity
  share p := (countP_keys_le keys_erase_subset).trans (hc.share p)

end

/-- A command has one task at most. -/
theorem execution_not_mem_erase (h : (tasks.filterMap executionKey).Nodup) :
    SpawnedTask.execution key ∉ tasks.erase (.execution key) := by
  induction tasks with
  | nil => simp
  | cons t tasks ih =>
    by_cases ht : t = .execution key
    · subst ht
      simp only [List.filterMap_cons, executionKey, List.nodup_cons, List.mem_filterMap, not_exists,
        not_and] at h
      simp only [List.erase_cons_head]
      exact fun hm => h.1 _ hm rfl
    · rw [List.erase_cons_tail (by simpa using ht), List.mem_cons, not_or]
      exact ⟨Ne.symm ht, ih (h.sublist ((List.sublist_cons_self _ _).filterMap _))⟩

/-- A command of the generation takes its place, with its record. -/
theorem Coupled.put (hc : Coupled s) {base} (h : s.ledger.Refreshed base s.latest)
    (sr : StoredCommand (CommandTerminal R)) (active : ActiveCommand C R) (hg : key.generation = s.token)
    (hac : ActiveSound key active) (hre : sr.record = active.record) :
    (∀ {k : ActiveKey} {a}, (s.active.insert key active)[k]? = some a → ActiveSound k a ∧
      k.generation.epoch ≤ s.token.epoch ∧
      (k.generation = s.token → ∃ st, (base.put key.command sr).records[k.command]? = some st ∧
        st.record = a.record) ∧
      (k.generation ≠ s.token → a.phase = .running ∧ a.stop ≠ .continue)) ∧
    ∀ {k : CommandKey} {st}, (base.put key.command sr).records[k]? = some st →
      st.record.state.isTerminal = false →
      ∃ a, (s.active.insert key active)[(⟨s.token, k.principal, k.commandId⟩ : ActiveKey)]? = some a := by
  have hcb := hc.ledgerMove h
  constructor
  · intro k a h
    obtain ⟨rfl, rfl⟩ | ⟨hne, h⟩ := insert_cases h
    · exact ⟨hac, (congrArg GenerationToken.epoch hg).le,
        fun _ => ⟨_, CommandLedger.put_getElem?.trans (if_pos rfl), hre⟩, fun hne => absurd hg hne⟩
    · refine ⟨hc.active h, hc.epoch h, fun hgk => ?_, hc.retired h⟩
      obtain ⟨st, hst, hr⟩ := hcb.recorded h hgk
      refine ⟨st, ?_, hr⟩
      rw [CommandLedger.put_getElem?, if_neg (command_ne hne (hgk.trans hg.symm))]
      exact hst
  · intro k st h ho
    by_cases hk : ⟨s.token, k.principal, k.commandId⟩ = key
    · exact ⟨_, getElem?_insert_eq.trans (if_pos hk.symm)⟩
    rw [CommandLedger.put_getElem?, if_neg] at h
    · obtain ⟨a, ha⟩ := hcb.tracked h ho
      exact ⟨a, by rw [getElem?_insert_ne hk]; exact ha⟩
    · rintro rfl
      apply hk
      rw [← hg]
      rfl

/-- The start of an execution keeps the invariant. -/
theorem Coupled.begins (hc : Coupled s) (h : Begins s key s') : Coupled s' := by
  obtain @⟨rest, st, c, active, hq, hru, hk, hcm, hg, hex, hs, hst⟩ := h
  have ha := hc.accepts
  obtain ⟨hac, ht⟩ := hc.put (.observed ha) (st.begun s.latest)
    { active with
      command := none
      phase := .running
      record := (st.begun s.latest).record
      updates := (st.begun s.latest).record } hg
    ⟨(hc.ledger.record hs).generation.trans (hc.ledgerToken.trans hg.symm), rfl, .inr ⟨rfl, rfl⟩⟩ rfl
  exact
    { hc with
      ledger := hc.ledger.transition (show CommandLedger.Transition s.ledger
        (.markRunning key.principal key.commandId s.latest s.token) _ _ from .begun ha hs hst)
      clock := by
        intro ls hl
        cases hl
        exact le_rfl
      active := fun h => (hac h).1
      epoch := fun h => (hac h).2.1
      recorded := fun h => (hac h).2.2.1
      tracked := ht
      retired := fun h => (hac h).2.2.2
      queue := (hq ▸ hc.queue : (key :: rest).Nodup).of_cons
      queued := by
        intro k hm
        obtain ⟨a, ha', hp⟩ := hc.queued (show k ∈ s.pending from hq ▸ List.mem_cons_of_mem _ hm)
        refine ⟨a, ?_, hp⟩
        rw [getElem?_insert_ne, ha']
        rintro rfl
        exact (List.nodup_cons.mp (hq ▸ hc.queue : (k :: rest).Nodup)).1 hm
      spawned := by
        have hn : SpawnedTask.execution key ∉ s.tasks := by
          obtain ⟨a, ha', hp⟩ := hc.queued (show key ∈ s.pending from hq ▸ List.mem_cons_self)
          exact hc.pending_not_executing ha' hp
        rw [List.filterMap_append, List.nodup_append]
        refine ⟨hc.spawned, by simp [executionKey], ?_⟩
        intro a ha' b hb hab
        simp only [List.filterMap_cons, executionKey, List.filterMap_nil, List.mem_singleton] at hb
        subst hab hb
        obtain ⟨t, hta, hke⟩ := List.mem_filterMap.mp ha'
        cases t with
        | execution k => cases hke; exact hn hta
        | reset => cases hke
      executing := by
        intro k hm
        by_cases hke : k = key
        · exact ⟨_, getElem?_insert_eq.trans (if_pos hke.symm), rfl⟩
        rw [List.mem_append, List.mem_singleton] at hm
        obtain hm | hm := hm
        · obtain ⟨a, ha', hr⟩ := hc.executing hm
          exact ⟨a, by rw [getElem?_insert_ne hke, ha'], hr⟩
        · cases hm
          exact absurd rfl hke
      capacity := (size_le (keys_insert_subset hk)).trans hc.capacity
      share p := (countP_keys_le (keys_insert_subset hk)).trans (hc.share p) }

/-- **Every move keeps the invariant.** -/
theorem Coupled.move (hc : Coupled s) (h : Move o s s') : Coupled s' := by
  cases h with
  | clock hn => exact hc.clockMove hn
  | sent => exact { hc with }
  | events hd hg =>
    exact { hc with eventsToken := hg.trans hc.eventsToken, eventsDesktop := hd.trans hc.eventsDesktop }
  | lease h =>
    exact { hc with
      leaseToken := h.generation.trans hc.leaseToken, leaseDesktop := h.desktop.trans hc.leaseDesktop }
  | ledger h => exact hc.ledgerMove h
  | loop | closed => exact { hc with }
  | stopped hk hr hs => exact hc.stoppedMove hk hr hs
  | finished _ hk hp h =>
    exact hc.finish h List.filter_sublist (by simp) (List.Sublist.refl _) (hc.pending_not_executing hk hp)
  | joined _ hm hk h =>
    obtain ⟨a, ha, hr⟩ := hc.executing hm
    exact hc.finish h (List.Sublist.refl _) (hc.running_not_queued ha hr) List.erase_sublist
      (execution_not_mem_erase hc.spawned)
  | orphaned hm =>
    exact { hc with
      spawned := hc.spawned.sublist (List.erase_sublist.filterMap _)
      executing := fun h => hc.executing (List.mem_of_mem_erase h) }
  | popped hq =>
    exact { hc with
      queue := (hq ▸ hc.queue : (_ :: _).Nodup).of_cons
      queued := fun h => hc.queued (hq ▸ List.mem_cons_of_mem _ h) }
  | resetSpawned =>
    exact { hc with
      spawned := by simpa [List.filterMap_append, List.filterMap_cons, executionKey] using hc.spawned
      executing := fun h => hc.executing (by simpa using h) }

end Coupled

/-! ## Runs of moves -/

/-- The command waits in no queue: it is gone or running, or no access ordinal
is left to make it terminal with. -/
def Stopped (s : CoordinatorTask C R E) (key : ActiveKey) : Prop :=
  (∀ active, s.active[key]? = some active → active.phase = .running) ∨ s.ledger.Exhausted

def Drained (s : CoordinatorTask C R E) : Prop := ∀ key, s.Stopped key

/-- A run of moves; where it closes admission, no queued command is left. -/
structure Moved (o : Option (ExecutionOutcome R)) (s s' : CoordinatorTask C R E) : Prop where
  moves : Relation.ReflTransGen (Move o) s s'
  closes : s'.shuttingDown = true → s.shuttingDown = true ∨ s'.Drained

section Moved

variable {s s' s'' : CoordinatorTask C R E} {key : ActiveKey} {o : Option (ExecutionOutcome R)}

theorem Move.counter (h : Move o s s') : s.ledger.nextAccessOrdinal ≤ s'.ledger.nextAccessOrdinal := by
  cases h with
  | ledger h => exact h.counter
  | finished _ _ _ h | joined _ _ _ h =>
    cases h with
    | current => exact Nat.le_succ _
    | retired => exact le_rfl
  | _ => exact le_rfl

theorem Move.exhausted (h : Move o s s') (hex : s.ledger.Exhausted) : s'.ledger.Exhausted :=
  Nat.le_trans hex h.counter

theorem Move.keepsStopped (h : Move o s s') (hs : s.Stopped key) : s'.Stopped key := by
  obtain hs | hex := hs
  · cases h with
    | stopped hk hr =>
      refine .inl fun a ha => ?_
      obtain ⟨rfl, rfl⟩ | ⟨-, ha⟩ := insert_cases ha
      · exact hr
      · exact hs a ha
    | finished | joined => exact .inl fun a ha => hs a (erase_cases ha).2
    | _ => exact .inl hs
  · exact .inr (h.exhausted hex)

theorem moves_induction {P : CoordinatorTask C R E → Prop} (hst : ∀ {s s'}, Move o s s' → P s → P s')
    (h : Relation.ReflTransGen (Move o) s s') (hs : P s) : P s' := by
  induction h with
  | refl => exact hs
  | tail _ hm ih => exact hst hm ih

theorem Moved.stopped (h : Moved o s s') (hs : s.Stopped key) : s'.Stopped key :=
  moves_induction (fun hm => hm.keepsStopped) h.moves hs

theorem Moved.counter (h : Moved o s s') : s.ledger.nextAccessOrdinal ≤ s'.ledger.nextAccessOrdinal :=
  moves_induction (P := fun t => s.ledger.nextAccessOrdinal ≤ t.ledger.nextAccessOrdinal)
    (fun hm ih => ih.trans hm.counter) h.moves le_rfl

/-- Admission never opens again. -/
theorem Moved.down (h : Moved o s s') (hs : s.shuttingDown = true) : s'.shuttingDown = true := by
  refine moves_induction (P := fun t => t.shuttingDown = true) (fun hm hs => ?_) h.moves hs
  cases hm <;> first | exact hs | rfl

theorem Coupled.moved (hc : Coupled s) (h : Moved o s s') : Coupled s' :=
  moves_induction (fun hm hc => hc.move hm) h.moves hc

theorem Moved.refl (s : CoordinatorTask C R E) : Moved o s s := ⟨.refl, .inl⟩

theorem Moved.trans (h : Moved o s s') (h' : Moved o s' s'') : Moved o s s'' where
  moves := h.moves.trans h'.moves
  closes hd := by
    obtain hd | hdr := h'.closes hd
    · obtain hd | hdr := h.closes hd
      · exact .inl hd
      · exact .inr fun key => h'.stopped (hdr key)
    · exact .inr hdr

/-- A move that does not close admission. -/
theorem Moved.of_move (h : Move o s s') (hd : s'.shuttingDown = s.shuttingDown) : Moved o s s' :=
  ⟨.single h, fun h => .inl (hd ▸ h)⟩

end Moved

end CoordinatorTask

end Xenoteer
