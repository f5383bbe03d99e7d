/-
The coordinator actor (`coordinator/runtime.rs`): one task owns the
generation fence, the lease machine, the command ledger and the event hub,
and runs a loop of `select!`, `advance_timers` and `drive_pending`.

A method that takes `&mut self` is a function that returns the new task. What
the actor sends out (oneshot replies, watch updates, live notifications,
spawned backend calls) goes to `outbox`. The clock is a non-decreasing
sequence of instants, of which each `Instant::now()` takes the next.
-/
import Xenoteer.Coordinator.Messages

namespace Xenoteer

/-- Where the loop of `run` stands. -/
inductive LoopPoint where
  | select
  | timers
  | drive
  | exited
deriving DecidableEq

structure CoordinatorTask (C R E : Type) where
  settings : CoordinatorSettings
  eventMapper : PrincipalId → CommandRecord (CommandTerminal R) → List (CoordinatorEvent E)
  clock : Clock
  reads : Nat
  generationFence : GenerationFence
  lease : LeaseMachine
  ledger : CommandLedger (CommandTerminal R)
  events : EventHub E
  origin : Instant
  active : Std.TreeMap ActiveKey (ActiveCommand C R)
  pending : List ActiveKey
  running : Nat
  tasks : List SpawnedTask
  nextResetEpoch : Nat
  activeReset : Option Nat
  resetFailed : Bool
  shuttingDown : Bool
  shutdownReply : Bool
  point : LoopPoint
  outbox : List (Sent C R E)

namespace CoordinatorTask

variable {C R E : Type}

/-- `spawn_coordinator_with_event_mapper`: the first clock reading is the origin. -/
def spawn (settings : CoordinatorSettings)
    (eventMapper : PrincipalId → CommandRecord (CommandTerminal R) → List (CoordinatorEvent E))
    (clock : Clock) : Except CoordinatorError (CoordinatorTask C R E) :=
  let generationFence := GenerationFence.new settings.desktopId settings.initialGeneration
  let generation := generationFence.capture
  match LeaseMachine.new settings.desktopId generation settings.leasePolicy with
  | .error e => .error (.lease e)
  | .ok lease => match CommandLedger.new settings.desktopId generation settings.ledgerLimits with
    | .error e => .error (.ledger e)
    | .ok ledger => match EventHub.new settings.desktopId generation settings.eventLimits with
      | .error e => .error (.event e)
      | .ok events => .ok
        { settings, eventMapper, clock
          reads := 1
          generationFence, lease, ledger, events
          origin := clock.reading 0
          active := ∅
          pending := []
          running := 0
          tasks := []
          nextResetEpoch := 1
          activeReset := none
          resetFailed := false
          shuttingDown := false
          shutdownReply := false
          point := .select
          outbox := [] }

/-! ## Clock -/

section

variable (s : CoordinatorTask C R E)

def instantNow : Instant × CoordinatorTask C R E :=
  (s.clock.reading s.reads, { s with reads := s.reads + 1 })

def nowMillisAt (instant : Instant) : MonotonicMillis :=
  min ((instant - s.origin) / 10 ^ 6) u64Max

def nowMillis : MonotonicMillis × CoordinatorTask C R E :=
  let (instant, s) := s.instantNow
  (s.nowMillisAt instant, s)

def send (sent : Sent C R E) : CoordinatorTask C R E :=
  { s with outbox := s.outbox ++ [sent] }

/-! ## Events -/

/-- Publishes one event and notifies the live receivers of its sequence. -/
def publishEvent (event : E) (encodedSize : Nat) (generation : GenerationToken) :
    Except CoordinatorError PublishOutcome × CoordinatorTask C R E :=
  if s.events.limits.maximumEncodedBytes < encodedSize then (.error (.event .liveEventTooLarge), s)
  else match s.events.publish event encodedSize generation with
    | (.error e, events) => (.error (.event e), { s with events })
    | (.ok outcome, events) => (.ok outcome, { s with events }.send (.live outcome.sequence))

end

/-- The loop of `publish_command_transition`. -/
def publishAll (generation : GenerationToken) : List (CoordinatorEvent E) → CoordinatorTask C R E →
    Except CoordinatorError Unit × CoordinatorTask C R E
  | [], s => (.ok (), s)
  | normalized :: rest, s => match s.publishEvent normalized.event normalized.encodedSize generation with
    | (.error e, s) => (.error e, s)
    | (.ok _, s) => publishAll generation rest s

section

variable (s : CoordinatorTask C R E)

def publishCommandTransition (principal : PrincipalId)
    (record : CommandRecord (CommandTerminal R)) : Except CoordinatorError Unit × CoordinatorTask C R E :=
  publishAll record.generation (s.eventMapper principal record) s

/-! ## Lease reset -/

def spawnReset : CoordinatorTask C R E :=
  match s.lease.snapshot with
  | .resetting lease reason => match checkedAdd s.nextResetEpoch 1 with
    | none => { s with resetFailed := true }
    | some next =>
      let request : ResetRequest := ⟨s.nextResetEpoch, lease, reason, s.generationFence.capture⟩
      { s with
        nextResetEpoch := next
        activeReset := some s.nextResetEpoch
        resetFailed := false
        tasks := s.tasks ++ [.reset s.nextResetEpoch]
        outbox := s.outbox ++ [.reset request] }
  | _ => s

/-- Takes a revoked lease into its reset, and starts the reset unless one
runs or failed. -/
def ensureReset : CoordinatorTask C R E :=
  match if s.lease.phase = .revoking then
      match s.lease.beginReset with
      | (.error _, lease) => (false, { s with lease })
      | (.ok (), lease) => (true, { s with lease, resetFailed := false })
    else (true, s) with
  | (false, s) => s
  | (true, s) =>
    if s.lease.phase = .resetting ∧ s.activeReset = none ∧ s.resetFailed = false then s.spawnReset else s

/-! ## Terminal transitions -/

/-- The record a terminal transition stores: the ledger's for the current
generation, the active command's own for a retired one. -/
def terminalRecord (key : ActiveKey) (active : ActiveCommand C R)
    (terminal : CommandTerminal R) (now : MonotonicMillis) :
    Except CoordinatorError (CommandRecord (CommandTerminal R)) × CoordinatorTask C R E :=
  if key.generation = s.generationFence.capture then
    match s.ledger.complete key.principal key.commandId terminal now key.generation with
    | (.error e, ledger) => (.error (.ledger e), { s with ledger })
    | (.ok record, ledger) => (.ok record, { s with ledger })
  else if active.record.state.isTerminal then (.error (.ledger .terminalImmutable), s)
  else (.ok { active.record with state := .terminal terminal, updatedAt := now }, s)

def completeActive (key : ActiveKey) (terminal : CommandTerminal R)
    (now : MonotonicMillis) : Except CoordinatorError Unit × CoordinatorTask C R E :=
  match s.active[key]? with
  | none => (.error (.ledger .unknownCommand), s)
  | some active => match s.terminalRecord key active terminal now with
    | (.error e, s) => (.error e, s)
    | (.ok record, s) => match s.active[key]? with
      | none => (.error (.ledger .invariantViolation), s)
      | some active =>
        let s := { s with active := s.active.erase key }
        let s := if active.phase = .pending then { s with pending := s.pending.filter (· ≠ key) } else s
        let s := s.send (.update key record)
        if record.generation = s.generationFence.capture then
          s.publishCommandTransition key.principal record
        else (.ok (), s)

/-- `request_stop`: the first reason stays. -/
def requestStop (active : ActiveCommand C R) (reason : ExecutionStop) : ActiveCommand C R :=
  if active.stop = .continue then { active with stop := reason } else active

/-- The body the loops over active commands share: a queued command becomes
terminal before any effect, a running one is asked to stop. -/
def stopActive (key : ActiveKey) (cause : TerminalCause) (stop : ExecutionStop)
    (now : MonotonicMillis) : Except CoordinatorError Unit × CoordinatorTask C R E :=
  match s.active[key]? with
  | none => (.ok (), s)
  | some active => match active.phase with
    | .pending => s.completeActive key (.stopped cause .beforeEffect) now
    | .running => (.ok (), { s with active := s.active.insert key (requestStop active stop) })

end

/-- The loop of `begin_shutdown` and of `advance_timers`, which go on past an error. -/
def stopEach (cause : TerminalCause) (stop : ExecutionStop) (now : MonotonicMillis) :
    List ActiveKey → CoordinatorTask C R E → CoordinatorTask C R E
  | [], s => s
  | key :: keys, s => stopEach cause stop now keys (s.stopActive key cause stop now).2

/-- The loop of `rotate_generation`, which returns the first error. -/
def stopEachOrFail (cause : TerminalCause) (stop : ExecutionStop) (now : MonotonicMillis) :
    List ActiveKey → CoordinatorTask C R E → Except CoordinatorError Unit × CoordinatorTask C R E
  | [], s => (.ok (), s)
  | key :: keys, s => match s.stopActive key cause stop now with
    | (.error e, s) => (.error e, s)
    | (.ok (), s) => stopEachOrFail cause stop now keys s

section

variable (s : CoordinatorTask C R E)

/-- Closes admission, revokes the lease and stops all work. `reply` says
whether a caller waits for the end. -/
def beginShutdown (reply : Bool) : CoordinatorTask C R E :=
  if s.shuttingDown then
    if reply then s.send (.reply .shutdown) else s
  else
    let s :=
      { s with
        shuttingDown := true
        shutdownReply := reply
        lease := (s.lease.revoke .shutdown).2
        resetFailed := false }.ensureReset
    let (now, s) := s.nowMillis
    stopEach .shutdown .shutdown now s.active.keys s

/-! ## Messages -/

/-- The active commands of one principal. -/
def activeOf (principal : PrincipalId) : Nat :=
  s.active.keys.countP (·.principal = principal)

section

variable (a : CommandAdmission C)

/-- The lease proof of a submission; a lapsed lease starts its reset. -/
def authorizeSubmission (now : MonotonicMillis) : Except CoordinatorError Unit × CoordinatorTask C R E :=
  match a.lease with
  | .notRequired => (.ok (), s)
  | .required leaseId => match s.lease.authorize a.principal leaseId now a.generation with
    | (.error e, lease) => (.error (.lease e), { s with lease }.ensureReset)
    | (.ok _, lease) => (.ok (), { s with lease }.ensureReset)

/-- The end of a submission, for a command ID without a record. -/
def admitNew (deadline : Option Instant)
    (now : MonotonicMillis) : Except CoordinatorError (CommandSubmission R) × CoordinatorTask C R E :=
  match s.ledger.admitCommand a.principal a.commandId a.requestHash now a.generation with
  | (.error e, ledger) => (.error (.ledger e), { s with ledger })
  | (.ok (.existing _), ledger) => (.error (.ledger .invariantViolation), { s with ledger })
  | (.ok (.admitted record), ledger) =>
    let active := ⟨some a.command, deadline, .pending, .continue, record, record⟩
    let s :=
      { s with
        ledger
        active := s.active.insert a.key active
        pending := s.pending ++ [a.key] }
    let s := match s.publishCommandTransition a.principal record with
      | (.error _, s) => s.beginShutdown false
      | (.ok (), s) => s
    (.ok ⟨true, record, record⟩, s)

/-- The `execute_within` of a submission as a deadline; `none` when it overflows. -/
def deadlineOf (nowInstant : Instant) : Option Nat → Option (Option Instant)
  | none => some none
  | some duration => (Instant.checkedAdd nowInstant duration).map some

/-- A submission from its dedupe on: an exact retry gets its record back before
any lease is looked at. -/
def dedupeOrAdmit (deadline : Option Instant)
    (now : MonotonicMillis) : Except CoordinatorError (CommandSubmission R) × CoordinatorTask C R E :=
  match s.ledger.lookup a.principal a.commandId now a.generation with
  | (.error e, ledger) => (.error (.ledger e), { s with ledger })
  | (.ok (some record), ledger) =>
    let s := { s with ledger }
    if record.requestHash ≠ a.requestHash then (.error (.ledger .commandIdConflict), s)
    else match s.active[a.key]? with
      | some active => (.ok ⟨false, record, active.updates⟩, s)
      | none =>
        if record.state.isTerminal then (.ok ⟨false, record, record⟩, s)
        else (.error (.ledger .invariantViolation), s)
  | (.ok none, ledger) =>
    let s := { s with ledger }
    if s.settings.maximumActiveCommands ≤ s.active.size then (.error .commandCapacityExhausted, s)
    else if s.settings.maximumActivePerPrincipal ≤ s.activeOf a.principal then
      (.error .principalCommandCapacityExhausted, s)
    else match s.authorizeSubmission a now with
      | (.error e, s) => (.error e, s)
      | (.ok (), s) => s.admitNew a deadline now

def submitCommand : Except CoordinatorError (CommandSubmission R) × CoordinatorTask C R E :=
  let (nowInstant, s) := s.instantNow
  match deadlineOf nowInstant a.executeWithin with
  | none => (.error .deadlineOverflow, s)
  | some deadline => s.dedupeOrAdmit a deadline (s.nowMillisAt nowInstant)

end

def cancelCommand (principal : PrincipalId) (commandId : CommandId)
    (generation : GenerationToken) : Except CoordinatorError CancelCommandOutcome × CoordinatorTask C R E :=
  let (now, s) := s.nowMillis
  let key : ActiveKey := ⟨generation, principal, commandId⟩
  match s.active[key]? with
  | some active => match active.phase with
    | .pending => match s.completeActive key (.stopped .cancelled .beforeEffect) now with
      | (.error e, s) => (.error e, s)
      | (.ok (), s) => (.ok .accepted, s)
    | .running => (.ok .accepted, { s with active := s.active.insert key (requestStop active .cancelled) })
  | none => match s.ledger.lookup principal commandId now generation with
    | (.error e, ledger) => (.error (.ledger e), { s with ledger })
    | (.ok (some record), ledger) =>
      if record.state.isTerminal then (.ok .alreadyTerminal, { s with ledger })
      else (.error (.ledger .invariantViolation), { s with ledger })
    | (.ok none, ledger) => (.ok .notFound, { s with ledger })

def watchCommand (principal : PrincipalId) (commandId : CommandId) (generation : GenerationToken) :
    Except CoordinatorError (Option (CommandRecord (CommandTerminal R))) × CoordinatorTask C R E :=
  let (now, s) := s.nowMillis
  match s.ledger.lookup principal commandId now generation with
  | (.error e, ledger) => (.error (.ledger e), { s with ledger })
  | (.ok none, ledger) => (.ok none, { s with ledger })
  | (.ok (some record), ledger) =>
    let s := { s with ledger }
    match s.active[(⟨generation, principal, commandId⟩ : ActiveKey)]? with
    | some active => (.ok (some active.updates), s)
    | none =>
      if record.state.isTerminal then (.ok (some record), s)
      else (.error (.ledger .invariantViolation), s)

/-- Moves the four fenced machines to the new generation, then retires the
commands of the old one. -/
def rotateGeneration (s : CoordinatorTask C R E) (generation : DesktopGeneration) :
    Except CoordinatorError GenerationToken × CoordinatorTask C R E :=
  match s.generationFence.rotate generation with
  | (.error e, fence) => (.error (.generation e), { s with generationFence := fence })
  | (.ok current, fence) =>
    let s := { s with generationFence := fence }
    match s.lease.rotateGeneration current with
    | (.error e, lease) => (.error (.lease e), { s with lease })
    | (.ok (), lease) =>
      let s := { s with lease }
      match s.ledger.rotateGeneration current with
      | (.error e, ledger) => (.error (.ledger e), { s with ledger })
      | (.ok _, ledger) =>
        let s := { s with ledger }
        match s.events.rotateGeneration current with
        | (.error e, events) => (.error (.event e), { s with events })
        | (.ok _, events) =>
          let (now, s) := { s with events }.nowMillis
          let retired := s.active.keys.filter (·.generation ≠ current)
          match stopEachOrFail .generationChanged .generationChanged now retired s with
          | (.error e, s) => (.error e, s)
          | (.ok (), s) => (.ok current, s.ensureReset)

/-- Handles one message and sends its reply. -/
def handleMessage : Message C E → CoordinatorTask C R E
  | .generation => s.send (.reply (.generation s.generationFence.capture))
  | .leaseSnapshot => s.send (.reply (.leaseSnapshot s.lease.snapshot))
  | .acquireLease owner leaseId ttlMs generation =>
    let (now, s) := s.nowMillis
    let (result, lease) := s.lease.acquire owner leaseId ttlMs now generation
    { s with lease }.ensureReset.send (.reply (.lease (result.mapError .lease)))
  | .renewLease owner leaseId ttlMs generation =>
    let (now, s) := s.nowMillis
    let (result, lease) := s.lease.renew owner leaseId ttlMs now generation
    { s with lease }.ensureReset.send (.reply (.lease (result.mapError .lease)))
  | .releaseLease owner leaseId generation =>
    let (now, s) := s.nowMillis
    let (result, lease) := s.lease.release owner leaseId now generation
    { s with lease }.ensureReset.send (.reply (.released (result.mapError .lease)))
  | .revokeLease reason =>
    let (revoked, lease) := s.lease.revoke reason
    { s with lease }.ensureReset.send (.reply (.revoked revoked))
  | .retryReset =>
    if s.activeReset.isSome then s.send (.reply (.retried .alreadyRunning))
    else if s.lease.phase ≠ .resetting then s.send (.reply (.retried .notRequired))
    else s.spawnReset.send (.reply (.retried .started))
  | .submit admission =>
    let (result, s) := s.submitCommand admission
    s.send (.reply (.submitted result))
  | .lookup principal commandId generation =>
    let (now, s) := s.nowMillis
    let (result, ledger) := s.ledger.lookup principal commandId now generation
    { s with ledger }.send (.reply (.found (result.mapError .ledger)))
  | .watchLookup principal commandId generation =>
    let (result, s) := s.watchCommand principal commandId generation
    s.send (.reply (.watched result))
  | .cancel principal commandId generation =>
    let (result, s) := s.cancelCommand principal commandId generation
    s.send (.reply (.cancelled result))
  | .publishEvent event encodedSize generation =>
    let (result, s) := s.publishEvent event encodedSize generation
    s.send (.reply (.published result))
  | .replayEvents generation sinceSequence =>
    s.send (.reply (.replayed (s.events.replaySince generation sinceSequence)))
  | .subscribeEvents generation sinceSequence =>
    s.send (.reply (.subscribed
      (s.events.replaySince generation (sinceSequence.getD s.events.latestSequence))))
  | .rotateGeneration generation =>
    let (result, s) := s.rotateGeneration generation
    s.send (.reply (.rotated result))
  | .shutdown => s.beginShutdown true

/-! ## Completions, timers and the pending queue -/

def handleCompletion : TaskCompletion R → CoordinatorTask C R E
  | .execution key outcome =>
    let s := { s with running := s.running - 1 }
    match s.active[key]? with
    | none => s
    | some active =>
      let (now, s) := s.nowMillis
      (s.completeActive key (terminalOf active.stop outcome) now).2
  | .reset resetEpoch outcome =>
    if s.activeReset ≠ some resetEpoch then s
    else
      let s := { s with activeReset := none }
      if outcome = .complete then { s with resetFailed := false, lease := s.lease.finishReset.2 }
      else { s with resetFailed := true }

/-- The commands whose deadline has come. -/
def dueAt (instant : Instant) : List ActiveKey :=
  (s.active.toList.filter fun entry => entry.2.deadline.any (· ≤ instant)).map (·.1)

def advanceTimers : CoordinatorTask C R E :=
  let (nowInstant, s) := s.instantNow
  let now := s.nowMillisAt nowInstant
  let s := { s with lease := (s.lease.advanceTime now).2 }.ensureReset
  stopEach .deadlineExceeded .deadlineExceeded now (s.dueAt nowInstant) s

/-- The test of a queued command's deadline, which reads the clock only when
there is one. -/
def overdue (deadline : Option Instant) : Bool × CoordinatorTask C R E :=
  match deadline with
  | none => (false, s)
  | some deadline =>
    let (instant, s) := s.instantNow
    (decide (deadline ≤ instant), s)

/-- Starts the execution of a command whose record was marked running. -/
def startExecution (key : ActiveKey)
    (record : CommandRecord (CommandTerminal R)) : Bool × CoordinatorTask C R E :=
  match s.active[key]? with
  | none => (false, s.beginShutdown false)
  | some active => match active.command with
    | none => (false, s.beginShutdown false)
    | some command =>
      let s : CoordinatorTask C R E :=
        { s with
          active := s.active.insert key
            { active with command := none, phase := .running, record, updates := record }
          tasks := s.tasks ++ [.execution key]
          running := s.running + 1
          outbox := s.outbox ++ [.update key record, .execute key command active.deadline] }
      match s.publishCommandTransition key.principal record with
      | (.error _, s) => (false, s.beginShutdown false)
      | (.ok (), s) => (true, s)

/-- One turn of the loop of `drive_pending`; whether there is another. -/
def driveOne : Bool × CoordinatorTask C R E :=
  if s.running < s.settings.maximumConcurrentExecutions then
    match s.pending with
    | [] => (false, s)
    | key :: rest =>
      let s := { s with pending := rest }
      match s.active[key]? with
      | none => (true, s)
      | some active =>
        if active.phase ≠ .pending then (true, s)
        else match s.overdue active.deadline with
          | (true, s) =>
            let (now, s) := s.nowMillis
            (true, (s.completeActive key (.stopped .deadlineExceeded .beforeEffect) now).2)
          | (false, s) =>
            let (now, s) := s.nowMillis
            match s.ledger.markRunning key.principal key.commandId now key.generation with
            | (.error _, ledger) => (false, { s with ledger }.beginShutdown false)
            | (.ok record, ledger) => { s with ledger }.startExecution key record
  else (false, s)

/-- When the timer of `select!` is due. -/
def nextWakeAt : Option Instant :=
  let leaseDeadline := match s.lease.snapshot with
    | .held lease => Instant.checkedAdd s.origin (lease.expiresAt * 10 ^ 6)
    | _ => none
  (s.active.values.filterMap (·.deadline) ++ leaseDeadline.toList).min?

/-! ## The loop -/

/-- What `select!` can choose: a message, the end of the mailbox, a task that
ended, or the timer. -/
inductive Selected (C R E : Type) where
  | message (message : Message C E)
  | closed
  | completion (task : SpawnedTask) (ended : TaskEnd R)
  | timer

/-- The value a joined task yields (`none` for a `JoinError`), if it can end so. -/
def joinResult : SpawnedTask → TaskEnd R → Option (Option (TaskCompletion R))
  | _, .callPanicked => some none
  | .execution key, .pollPanicked => some (some (.execution key none))
  | .execution key, .executed outcome => some (some (.execution key (some outcome)))
  | .reset epoch, .pollPanicked => some (some (.reset epoch .failed))
  | .reset epoch, .reset outcome => some (some (.reset epoch outcome))
  | _, _ => none

/-- The exit test of `run`. -/
def Quiescent : Prop :=
  s.shuttingDown = true ∧ s.running = 0 ∧ s.activeReset = none

end

instance (s : CoordinatorTask C R E) : Decidable s.Quiescent := inferInstanceAs (Decidable (_ ∧ _ ∧ _))

/-- The `match selected` of `run`; `none` where the branch is disabled. -/
def handleSelected (s : CoordinatorTask C R E) : Selected C R E → Option (CoordinatorTask C R E)
  | .message message => if s.shuttingDown then none else some (s.handleMessage message)
  | .closed => if s.shuttingDown then none else some (s.beginShutdown false)
  | .completion task ended =>
    if task ∈ s.tasks then
      match joinResult task ended with
      | none => none
      | some joined =>
        let s := { s with tasks := s.tasks.erase task }
        match joined with
        | none => some (s.beginShutdown false)
        | some completion => some (s.handleCompletion completion)
    else none
  | .timer => match s.nextWakeAt with
    | none => none
    | some wakeAt => if wakeAt ≤ s.clock.reading s.reads then some s else none

/-- The actor's steps: the top of the loop with what `select!` chose,
`advance_timers`, and one turn of `drive_pending`. -/
inductive Step (C R E : Type) where
  | select (selected : Selected C R E)
  | advance
  | drive

/-- One step. A step that is not the loop's next, or that waits for an event
which cannot come, does nothing. -/
def run (s : CoordinatorTask C R E) : Step C R E → CoordinatorTask C R E
  | .select selected =>
    if s.point = .select then
      if s.Quiescent then
        if s.shutdownReply then { s with point := .exited, shutdownReply := false }.send (.reply .shutdown)
        else { s with point := .exited }
      else match s.handleSelected selected with
        | none => s
        | some s => { s with point := .timers }
    else s
  | .advance => if s.point = .timers then { s.advanceTimers with point := .drive } else s
  | .drive =>
    if s.point = .drive then
      match s.driveOne with
      | (true, s) => s
      | (false, s) => { s with point := .select }
    else s

/-- A step with what it sends out. -/
def step (s : CoordinatorTask C R E) (a : Step C R E) : List (Sent C R E) × CoordinatorTask C R E :=
  let s := { s with outbox := [] }.run a
  (s.outbox, s)

end CoordinatorTask

end Xenoteer
