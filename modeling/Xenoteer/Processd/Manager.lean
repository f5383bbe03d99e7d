/-
The process manager of the broker (`xenoteer-processd/src/process_manager.rs`):
the owner task that launches processes, collects their exits and answers for
them while they run or are kept in the exit history.

The manager handles one request at a time, each after `collect_finished`. When
that fails the task cancels and joins every process (`shutdown_all`) and ends;
every later request finds it unavailable. What the system answers is given to
each function: the outcome of a spawn after the profile, directory and `/proc`
checks (`Site`), the order in which the table of running processes is walked
and what the supervisors still to be joined return (`Turn`). Captured output is
left out.
-/
import Mathlib.Data.List.Sort
import Xenoteer.Protocol.Window

namespace Xenoteer.Processd

inductive ProcessManagerError where
  | invalidLimits
  | noApplicationProfiles
  | duplicateApplicationProfile
  | invalidApplicationId
  | invalidPrincipalId
  | executableMustBeAbsolute
  | executableIo
  | executablePolicyRejected
  | invalidArgumentSchema
  | invalidArgumentCount (minimum maximum actual : Nat)
  | invalidArgument (index : Nat) (reason : Text)
  | argumentBytesExceeded
  | invalidEnvironmentPolicy
  | environmentKeyNotAllowed
  | environmentKeyForbidden
  | invalidEnvironmentValue
  | environmentLimitExceeded
  | invalidWorkingRoots
  | workingDirectoryIo
  | workingDirectoryOutsideRoots
  | applicationNotRegistered
  | processLimitExceeded
  | managerUnavailable
  | managerTaskPanicked
  | processTaskPanicked
  | filesystemWorkerPanicked
  | spawn
  | processIdUnavailable
  | pipeUnavailable (name : Text)
  | invalidLaunchIdentity
  | procIdentityUnavailable
  | procIdentityMalformed
  | processIdentityChanged
  | wrongDesktopGeneration
  | invalidCorrelationBatch
  | ambiguousProcessGroup
  | processReferenceMismatch
  | processNotManaged
  | terminationAlreadyInProgress
  | terminationGraceExceeded
  | invalidProcessId
  | signalGroup
  | wait
  | observeExit
  | unexpectedWaitStatus
  | emergencyKill
  | launchIdCollision
  | profileEnvironmentMissing (name : Text)
  | invalidExitStatus
  | eventSequenceExhausted
  | eventHistoryInvariant
deriving DecidableEq

structure ProcessManagerLimits where
  maximumProcesses : Nat
  requestQueueCapacity : Nat
  exitHistoryCapacity : Nat
  eventCapacity : Nat
  processes_pos : 0 < maximumProcesses
  queue_pos : 0 < requestQueueCapacity
  history_pos : 0 < exitHistoryCapacity
  events_pos : 0 < eventCapacity

def ProcessManagerLimits.launchFailureCapacity (limits : ProcessManagerLimits) : Nat :=
  limits.requestQueueCapacity

/-- What a supervisor reports of its process. -/
structure ExitReport where
  exitCode : Option Int
  signal : Option Int
  coreDumped : Bool
  success : Bool
  terminationRequested : Bool
  forcedEscalation : Bool

structure ProcessExit where
  process : ProcessRef
  principalId : Text
  applicationId : Text
  report : ExitReport

structure SequencedProcessEvent where
  sequence : Nat
  exit : ProcessExit

inductive ProcessEventReplay where
  | events (latestSequence : Nat) (events : List SequencedProcessEvent)
  | resyncRequired (droppedThrough latestSequence : Nat)

/-- A process with its supervisor: `finished` is what its task returned. -/
structure ManagedProcess where
  process : ProcessRef
  principalId : Text
  applicationId : Text
  terminationRequested : Bool
  finished : Option (Except ProcessManagerError ExitReport)

def ManagedProcess.exitOf (p : ManagedProcess) (report : ExitReport) : ProcessExit :=
  ⟨p.process, p.principalId, p.applicationId, report⟩

/-- `ProcessManagerActor`. `events` is all that was sent on the broadcast
channel, and `stopped` that the task has ended. -/
structure Manager where
  generation : DesktopGeneration
  running : List ManagedProcess
  exited : List SequencedProcessEvent
  latestEventSequence : Nat
  droppedEventsThrough : Nat
  events : List SequencedProcessEvent
  stopped : Bool

/-- `spawn_process_manager` after the profiles were checked. -/
def Manager.new (generation : DesktopGeneration) : Manager := ⟨generation, [], [], 0, 0, [], false⟩

structure LaunchRequest where
  principalId : Text
  applicationId : Text
  arguments : List Text

/-- A process that was spawned and found to lead its group. -/
structure Spawned where
  pid : Nat
  procStartTicks : Nat
  launchId : LaunchId

abbrev Site := Except ProcessManagerError Spawned

/-- The choices of the system in one turn of the manager. -/
structure Turn where
  rank : LaunchId → Nat
  joins : LaunchId → Except ProcessManagerError ExitReport

inductive ProcessStatus where
  | running (process : ProcessRef) (applicationId : Text)
  | terminating (process : ProcessRef) (applicationId : Text)
  | exited (exit : ProcessExit)

/-- `valid_principal_id`, `validate_principal_id`. -/
def validPrincipalId (value : Text) : Bool :=
  !value.isEmpty && value.byteLen ≤ 128 &&
    value.all (fun c => isAsciiAlphanumeric c || "-_.:@".toList.contains c)

/-- The loop that keeps the exit history within its capacity. -/
def evict (capacity : Nat) : List SequencedProcessEvent → Nat → List SequencedProcessEvent × Nat
  | [], dropped => ([], dropped)
  | event :: rest, dropped =>
    if capacity < (event :: rest).length then evict capacity rest (max dropped event.sequence)
    else (event :: rest, dropped)

namespace Manager

def find (m : Manager) (launchId : LaunchId) : Option ManagedProcess :=
  m.running.find? fun p => p.process.launchId = launchId

/-- `self.running.remove(&launch_id)`. -/
def forget (m : Manager) (launchId : LaunchId) : Manager :=
  { m with running := m.running.filter fun p => p.process.launchId ≠ launchId }

section

variable (limits : ProcessManagerLimits)

def recordExit (m : Manager) (exit : ProcessExit) : Option ProcessManagerError × Manager :=
  if m.latestEventSequence + 1 < 2 ^ 64 then
    let sequence := m.latestEventSequence + 1
    let event : SequencedProcessEvent := ⟨sequence, exit⟩
    let (exited, dropped) := evict limits.exitHistoryCapacity (m.exited ++ [event]) m.droppedEventsThrough
    (none, { m with
      latestEventSequence := sequence, exited := exited, droppedEventsThrough := dropped,
      events := m.events ++ [event] })
  else (some .eventSequenceExhausted, m)

def replayEvents (m : Manager) : Option Nat → ProcessEventReplay
  | none => .events m.latestEventSequence []
  | some since =>
    if m.latestEventSequence < since ∨ since < m.droppedEventsThrough then
      .resyncRequired m.droppedEventsThrough m.latestEventSequence
    else .events m.latestEventSequence (m.exited.filter fun event => since < event.sequence)

/-- The loop of `collect_finished` over the processes it found finished. -/
def collectEach (limits : ProcessManagerLimits) :
    List (ManagedProcess × Except ProcessManagerError ExitReport) → Manager → Option ProcessManagerError × Manager
  | [], m => (none, m)
  | (p, result) :: rest, m =>
    let m := m.forget p.process.launchId
    match result with
    | .error error => (some error, m)
    | .ok report =>
      match m.recordExit limits (p.exitOf report) with
      | (some error, m) => (some error, m)
      | (none, m) => collectEach limits rest m

def finishedProcesses (m : Manager) (turn : Turn) : List (ManagedProcess × Except ProcessManagerError ExitReport) :=
  (m.running.filterMap fun p => p.finished.map fun result => (p, result)).insertionSort
    fun a b => turn.rank a.1.process.launchId ≤ turn.rank b.1.process.launchId

def collectFinished (turn : Turn) (m : Manager) : Option ProcessManagerError × Manager :=
  collectEach limits (m.finishedProcesses turn) m

/-- `shutdown_all`: every process is cancelled and joined, and the exits that
are returned are recorded. -/
def shutdownAll (turn : Turn) (m : Manager) : Manager :=
  let running := m.running.insertionSort fun a b =>
    turn.rank a.process.launchId ≤ turn.rank b.process.launchId
  running.foldl
    (fun m p =>
      match p.finished.getD (turn.joins p.process.launchId) with
      | .ok report => (m.recordExit limits (p.exitOf report)).2
      | .error _ => m)
    { m with running := [], stopped := true }

/-- What comes before each request, and of each tick. -/
def collect (turn : Turn) (m : Manager) : Manager :=
  if m.stopped then m
  else match m.collectFinished limits turn with
    | (none, m) => m
    | (some _, m) => m.shutdownAll limits turn

def status (m : Manager) (process : ProcessRef) : Except ProcessManagerError ProcessStatus :=
  if process.desktopGeneration ≠ m.generation then .error .wrongDesktopGeneration
  else match m.find process.launchId with
    | some managed =>
      if process ≠ managed.process then .error .processReferenceMismatch
      else if managed.terminationRequested then .ok (.terminating managed.process managed.applicationId)
      else .ok (.running managed.process managed.applicationId)
    | none =>
      match m.exited.find? fun event => event.exit.process.launchId = process.launchId with
      | some event =>
        if process ≠ event.exit.process then .error .processReferenceMismatch else .ok (.exited event.exit)
      | none => .error .processNotManaged

/-- `launch`; the request of a broker has no environment and no directory. -/
def launch (m : Manager) (request : LaunchRequest) (site : Site) :
    Except ProcessManagerError ProcessRef × Manager :=
  if limits.maximumProcesses ≤ m.running.length then (.error .processLimitExceeded, m)
  else if !validPrincipalId request.principalId then (.error .invalidPrincipalId, m)
  else match site with
    | .error error => (.error error, m)
    | .ok spawned =>
      let process : ProcessRef := ⟨m.generation, spawned.pid, spawned.procStartTicks, spawned.launchId⟩
      let managed : ManagedProcess := ⟨process, request.principalId, request.applicationId, false, none⟩
      let prior := m.find spawned.launchId
      let m := { m.forget spawned.launchId with running := managed :: (m.forget spawned.launchId).running }
      if prior.isSome then (.error .launchIdCollision, m) else (.ok process, m)

end

/-- The supervisor of a process returns. -/
def finish (m : Manager) (launchId : LaunchId) (result : Except ProcessManagerError ExitReport) : Manager :=
  { m with
    running := m.running.map fun p =>
      if p.process.launchId = launchId ∧ p.finished.isNone then { p with finished := some result } else p }

/-- `request_termination`, when the supervisor takes the request. -/
def requestTermination (m : Manager) (process : ProcessRef) : Manager :=
  { m with
    running := m.running.map fun p => if p.process = process then { p with terminationRequested := true } else p }

end Manager

/-! ## Requests to the task -/

section Requests

variable (limits : ProcessManagerLimits) (turn : Turn) (m : Manager)

/-- `ProcessManagerHandle::status`. -/
def Manager.askStatus (process : ProcessRef) : Except ProcessManagerError ProcessStatus × Manager :=
  let m := m.collect limits turn
  if m.stopped then (.error .managerUnavailable, m) else (m.status process, m)

/-- `ProcessManagerHandle::launch`. -/
def Manager.askLaunch (request : LaunchRequest) (site : Site) : Except ProcessManagerError ProcessRef × Manager :=
  let m := m.collect limits turn
  if m.stopped then (.error .managerUnavailable, m) else m.launch limits request site

end Requests

end Xenoteer.Processd
