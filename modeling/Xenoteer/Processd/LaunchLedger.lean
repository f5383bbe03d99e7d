/-
Launches by the broker (`launch` and `LaunchLedger` of
`xenoteer-processd/src/ipc.rs`).

`launch` holds the ledger's lock from the lookup to the publication, and
stops at each call of the manager and each lock of the active manager, between
which processes exit and other requests are served. It is a program over the
ledger that asks such questions (`Ask`); `Broker.step` is the interleaving.
-/
import Xenoteer.Lib.Dialogue
import Xenoteer.Lib.Run
import Xenoteer.Processd.Manager

namespace Xenoteer.Processd

open Lib

inductive BrokerErrorCode where
  | invalidRequest
  | operationIdConflict
  | applicationNotRegistered
  | processLimitExceeded
  | wrongDesktopGeneration
  | processNotManaged
  | processReferenceMismatch
  | terminationInProgress
  | managerUnavailable
  | spawnFailed
  | internal

/-- `BrokerErrorCode::from`. -/
def BrokerErrorCode.ofManager : ProcessManagerError → BrokerErrorCode
  | .applicationNotRegistered => .applicationNotRegistered
  | .processLimitExceeded => .processLimitExceeded
  | .wrongDesktopGeneration => .wrongDesktopGeneration
  | .processNotManaged => .processNotManaged
  | .processReferenceMismatch => .processReferenceMismatch
  | .terminationAlreadyInProgress => .terminationInProgress
  | .managerUnavailable => .managerUnavailable
  | .spawn => .spawnFailed
  | .invalidPrincipalId | .invalidCorrelationBatch | .invalidArgumentSchema | .invalidArgumentCount ..
  | .invalidArgument .. | .argumentBytesExceeded | .environmentKeyNotAllowed | .environmentKeyForbidden
  | .invalidEnvironmentValue | .environmentLimitExceeded | .workingDirectoryIo | .workingDirectoryOutsideRoots
  | .terminationGraceExceeded => .invalidRequest
  | _ => .internal

def maxApplicationArguments : Nat := 64

structure ApplicationLaunchCommand where
  application : Text
  arguments : List Text
deriving DecidableEq

/-- `ApplicationLaunchCommand::validate`. -/
def ApplicationLaunchCommand.valid (command : ApplicationLaunchCommand) : Bool :=
  command.arguments.length ≤ maxApplicationArguments

/-! ## The ledger -/

structure LaunchOperation where
  generation : DesktopGeneration
  command : ApplicationLaunchCommand
deriving DecidableEq

inductive LaunchOutcome where
  | process (process : ProcessRef)
  | rejected (code : BrokerErrorCode)

/-- A principal and its operation identifier. -/
structure LaunchKey where
  principalId : Text
  operationId : CommandId
deriving DecidableEq

structure LaunchLedgerEntry where
  key : LaunchKey
  operation : LaunchOperation
  outcome : LaunchOutcome

inductive LaunchLookup where
  | process (process : ProcessRef)
  | rejected (code : BrokerErrorCode)
  | conflict

abbrev LaunchLedger := List LaunchLedgerEntry

def LaunchOutcome.isRejected : LaunchOutcome → Bool
  | .rejected _ => true
  | .process _ => false

/-- The process of a successful entry. -/
def LaunchLedgerEntry.success? (entry : LaunchLedgerEntry) : Option (LaunchKey × ProcessRef) :=
  match entry.outcome with
  | .process process => some (entry.key, process)
  | .rejected _ => none

namespace LaunchLedger

section

variable (ledger : LaunchLedger)

def entryOf (key : LaunchKey) : Option LaunchLedgerEntry :=
  ledger.find? fun entry => entry.key = key

def lookup (key : LaunchKey) (operation : LaunchOperation) : Option LaunchLookup :=
  (ledger.entryOf key).map fun entry =>
    if entry.operation ≠ operation then .conflict
    else match entry.outcome with
      | .process process => .process process
      | .rejected code => .rejected code

def remove (key : LaunchKey) : LaunchLedger := ledger.filter fun entry => entry.key ≠ key

def successes : List (LaunchKey × ProcessRef) :=
  ledger.filterMap LaunchLedgerEntry.success?

def rejections : Nat := ledger.countP fun entry => entry.outcome.isRejected

def recordProcess (key : LaunchKey) (operation : LaunchOperation) (process : ProcessRef) : LaunchLedger :=
  ledger ++ [⟨key, operation, .process process⟩]

end

/-- `entries.remove(index)` of the oldest rejection. -/
def dropOldest : LaunchLedger → LaunchLedger
  | [] => []
  | entry :: rest => if entry.outcome.isRejected then rest else entry :: dropOldest rest

/-- The loop that makes room; it removes one rejection in each turn, so there
are at most as many turns as rejections. -/
def makeRoom (failureCapacity : Nat) : Nat → LaunchLedger → LaunchLedger
  | 0, ledger => ledger
  | turns + 1, ledger =>
    if failureCapacity ≤ ledger.rejections then makeRoom failureCapacity turns (dropOldest ledger) else ledger

def recordRejection (failureCapacity : Nat) (ledger : LaunchLedger) (key : LaunchKey) (operation : LaunchOperation)
    (code : BrokerErrorCode) : LaunchLedger :=
  makeRoom failureCapacity ledger.rejections ledger ++ [⟨key, operation, .rejected code⟩]

end LaunchLedger

/-! ## The program -/

structure LaunchCall where
  key : LaunchKey
  operation : LaunchOperation

/-- The checks before the lock. -/
def LaunchCall.valid (call : LaunchCall) : Bool :=
  call.key.operationId.uuid ≠ 0 && validPrincipalId call.key.principalId && call.operation.command.valid

def LaunchCall.request (call : LaunchCall) : LaunchRequest where
  principalId := call.key.principalId
  applicationId := call.operation.command.application
  arguments := call.operation.command.arguments

inductive Ask where
  | currentManager (process : ProcessRef)
  | managerFor (generation : DesktopGeneration)
  | status (process : ProcessRef)
  | launch (request : LaunchRequest)

/-- What an answer carries: a manager, nothing that is used of a status, or
the process. -/
abbrev Ask.Answer : Ask → Type
  | .currentManager _ => Except ProcessManagerError Unit
  | .managerFor _ => Except ProcessManagerError Unit
  | .status _ => Except ProcessManagerError ProcessStatus
  | .launch _ => Except ProcessManagerError ProcessRef

abbrev LaunchResult := Except BrokerErrorCode ProcessRef

abbrev LaunchTalk := Talk LaunchLedger Ask Ask.Answer

abbrev LaunchDialogue := Dialogue LaunchLedger Ask Ask.Answer LaunchResult

def askCurrentManager (process : ProcessRef) : LaunchTalk (Except ProcessManagerError Unit) :=
  Talk.ask (Ask.currentManager process)

def askManagerFor (generation : DesktopGeneration) : LaunchTalk (Except ProcessManagerError Unit) :=
  Talk.ask (Ask.managerFor generation)

def askStatus (process : ProcessRef) : LaunchTalk (Except ProcessManagerError ProcessStatus) :=
  Talk.ask (Ask.status process)

def askLaunch (request : LaunchRequest) : LaunchTalk (Except ProcessManagerError ProcessRef) :=
  Talk.ask (Ask.launch request)

/-- The loop of `reconcile_successes`. -/
def reconcileEach : List (LaunchKey × ProcessRef) → LaunchTalk Unit
  | [] => pure ()
  | (key, process) :: rest => do
    match ← askStatus process with
    | .error .processNotManaged => Talk.update fun ledger => ledger.remove key
    | _ => pure ()
    reconcileEach rest

def reconcileSuccesses : LaunchTalk Unit := do
  let ledger ← Talk.read
  reconcileEach ledger.successes

def LaunchCall.record (call : LaunchCall) (process : ProcessRef) : LaunchTalk LaunchResult := do
  Talk.update fun ledger => ledger.recordProcess call.key call.operation process
  return .ok process

section

variable (failureCapacity : Nat)

section

variable (call : LaunchCall)

/-- From `manager.launch` on. -/
def LaunchCall.execute : LaunchTalk LaunchResult := do
  match ← askLaunch call.request with
  | .ok process =>
    reconcileSuccesses
    call.record process
  | .error error =>
    let code := BrokerErrorCode.ofManager error
    Talk.update fun ledger => ledger.recordRejection failureCapacity call.key call.operation code
    return .error code

/-- From `manager_for` on. -/
def LaunchCall.admission : LaunchTalk LaunchResult := do
  match ← askManagerFor call.operation.generation with
  | .error error => return .error (.ofManager error)
  | .ok _ =>
    reconcileSuccesses
    call.execute failureCapacity

/-- What follows when the process of the entry turned out to be gone. -/
def LaunchCall.startOver : LaunchTalk LaunchResult := do
  Talk.update fun ledger => ledger.remove call.key
  call.admission failureCapacity

/-- The status of the process of an entry decides whether it is retained. -/
def LaunchCall.checkStatus (process : ProcessRef) : LaunchTalk LaunchResult := do
  match ← askStatus process with
  | .ok _ => return .ok process
  | .error .processNotManaged => call.startOver failureCapacity
  | .error error => return .error (.ofManager error)

def LaunchCall.checkRetained (process : ProcessRef) : LaunchTalk LaunchResult := do
  match ← askCurrentManager process with
  | .ok _ => call.checkStatus failureCapacity process
  | .error .processNotManaged => call.startOver failureCapacity
  | .error error => return .error (.ofManager error)

/-- `launch`, with the ledger locked. -/
def LaunchCall.launch : LaunchTalk LaunchResult := do
  let ledger ← Talk.read
  match ledger.lookup call.key call.operation with
  | some .conflict => return .error .operationIdConflict
  | some (.rejected code) => return .error code
  | some (.process process) => call.checkRetained failureCapacity process
  | none => call.admission failureCapacity

end

end

/-! ## The broker -/

structure BrokerConfig where
  limits : ProcessManagerLimits
  profileIds : List Text

/-- `holder` is the call that has the ledger's lock, at the question it waits
for. -/
structure Broker where
  ledger : LaunchLedger
  active : Option Manager
  holder : Option (LaunchCall × LaunchDialogue)

def Broker.initial : Broker := ⟨[], none, none⟩

inductive BrokerAction where
  /-- A call is refused by its checks, or gets the lock when it is free. -/
  | call (call : LaunchCall)
  /-- The question of the holder is answered. -/
  | answer (turn : Turn) (site : Site)
  /-- The supervisor of a process returns. -/
  | finish (launchId : LaunchId) (result : Except ProcessManagerError ExitReport)
  /-- The manager's timer, or a request of another connection. -/
  | collect (turn : Turn)
  | terminate (process : ProcessRef)
  /-- `manager_for` of an event stream. -/
  | subscribe (generation : DesktopGeneration)

structure BrokerReply where
  /-- `manager.launch` was called for the call, with this result. -/
  launched : Option (LaunchCall × LaunchResult)
  answered : Option (LaunchCall × LaunchResult)
  /-- The keys whose entry was taken away. -/
  removed : List LaunchKey

/-- The keys of the ledger that are not in the other. -/
def LaunchLedger.removedIn (ledger ledger' : LaunchLedger) : List LaunchKey :=
  (ledger.map LaunchLedgerEntry.key).filter fun key => key ∉ ledger'.map LaunchLedgerEntry.key

section

variable (config : BrokerConfig)

/-- `spawn_process_manager`'s check of the profiles. -/
def BrokerConfig.spawn (generation : DesktopGeneration) : Except ProcessManagerError Manager :=
  if hasDuplicates config.profileIds then .error .duplicateApplicationProfile
  else if config.profileIds.isEmpty then .error .noApplicationProfiles
  else .ok (.new generation)

/-- `manager_for`, with the manager that is active then. -/
def BrokerConfig.managerFor (active : Option Manager) (generation : DesktopGeneration) :
    Except ProcessManagerError Unit × Option Manager :=
  match active with
  | some m => (if m.generation ≠ generation then .error .wrongDesktopGeneration else .ok (), some m)
  | none =>
    match config.spawn generation with
    | .ok m => (.ok (), some m)
    | .error error => (.error error, none)

def currentManager (active : Option Manager) (process : ProcessRef) : Except ProcessManagerError Unit :=
  match active with
  | none => .error .processNotManaged
  | some m => if m.generation ≠ process.desktopGeneration then .error .wrongDesktopGeneration else .ok ()

/-- The answer to a question, and the manager after it. -/
def BrokerConfig.respond (active : Option Manager) (turn : Turn) (site : Site) :
    (q : Ask) → q.Answer × Option Manager
  | .currentManager process => (currentManager active process, active)
  | .managerFor generation => config.managerFor active generation
  | .status process =>
    match active with
    | none => (.error .managerUnavailable, none)
    | some m => let (answer, m) := m.askStatus config.limits turn process; (answer, some m)
  | .launch request =>
    match active with
    | none => (.error .managerUnavailable, none)
    | some m => let (answer, m) := m.askLaunch config.limits turn request site; (answer, some m)

/-- Where the call is after it went on until it stopped or returned. -/
def Broker.proceed (active : Option Manager) (call : LaunchCall) : LaunchDialogue → Option LaunchResult × Broker
  | .done ledger result => (some result, ⟨ledger, active, none⟩)
  | .fault ledger => (none, ⟨ledger, active, none⟩)
  | .ask ledger q next => (none, ⟨ledger, active, some (call, .ask ledger q next)⟩)

/-- What `manager.launch` returned to the call. -/
def launchedBy (call : LaunchCall) : (q : Ask) → q.Answer → Option (LaunchCall × LaunchResult)
  | .launch _, answer => some (call, answer.mapError .ofManager)
  | _, _ => none

/-- The reply for a call that went on. -/
def Broker.advance (s : Broker) (active : Option Manager) (call : LaunchCall)
    (launched : Option (LaunchCall × LaunchResult)) (d : LaunchDialogue) : BrokerReply × Broker :=
  let (result, s') := proceed active call d
  (⟨launched, result.map fun result => (call, result), s.ledger.removedIn s'.ledger⟩, s')

def BrokerReply.quiet : BrokerReply := ⟨none, none, []⟩

def Broker.step (s : Broker) : BrokerAction → BrokerReply × Broker
  | .call call =>
    if !call.valid then (⟨none, some (call, .error .invalidRequest), []⟩, s)
    else match s.holder with
      | some _ => (.quiet, s)
      | none => s.advance s.active call none ((call.launch config.limits.launchFailureCapacity).start s.ledger)
  | .answer turn site =>
    match s.holder with
    | some (call, .ask _ q next) =>
      let (answer, active) := config.respond s.active turn site q
      s.advance active call (launchedBy call q answer) (next answer)
    | _ => (.quiet, s)
  | .finish launchId result => (.quiet, { s with active := s.active.map fun m => m.finish launchId result })
  | .collect turn => (.quiet, { s with active := s.active.map fun m => m.collect config.limits turn })
  | .terminate process => (.quiet, { s with active := s.active.map fun m => m.requestTermination process })
  | .subscribe generation => (.quiet, { s with active := (config.managerFor s.active generation).2 })

end

end Xenoteer.Processd
