/-
The reads of windows with their processes (`list_for_principal`,
`snapshot_for_principal`, `query_for_principal`, `resolve_for_principal` and
`wait_for_principal`): each asks for a refresh of the process correlations, reads the
model through its owner, and returns the processes it read only if the authority, the
sequence of model changes and the model revision are still those of the refresh.

A task stops wherever it touches what others share. Its own call of
`refresh_process_correlations` is the caller of the plane with the same name.
-/
import Xenoteer.Daemon.ProcessRefresh

namespace Xenoteer.ProcessRefresh

def processCorrelationRefreshAttempts : Nat := 3

/-- Where `refresh_for_operation` is. -/
inductive Refreshing where
  | checking
  | clearing (ticket : Nat)
  /-- A call of `refresh_process_correlations`, with how many may still be made. -/
  | attempting (left : Nat)

/-- What the refresh is for. `requires` is whether the selector names a managed process. -/
inductive Purpose where
  | read (requires : Bool) (attempt : Nat)
  | wait (requires : Bool) (ticket : Nat)

def Purpose.requires : Purpose → Bool
  | .read requires _ | .wait requires _ => requires

/-- The windows returned, with their stamps. The steps before the read and before the last look
at the authority are history. -/
structure Returned where
  windows : List (WindowSnapshot × ProcessLifecycleAuthorityFence)
  readAt : Nat
  checkedAt : Nat

abbrev LatestFence := Option (ProcessCorrelationFence × Nat)

inductive Task where
  | idle
  | refreshing (purpose : Purpose) (stage : Refreshing)
  /- a read, behind its refresh -/
  | observing (requires : Bool) (attempt : Nat) (fence : Option ProcessCorrelationFence)
  | submitting (requires : Bool) (attempt : Nat) (fence : Option ProcessCorrelationFence) (observedSequence : Nat)
  | reading (requires : Bool) (attempt : Nat) (fence : Option ProcessCorrelationFence)
      (observedSequence ticket : Nat)
  | comparing (requires : Bool) (attempt : Nat) (fence : ProcessCorrelationFence) (observedSequence : Nat)
      (view : View)
  | authorizing (requires : Bool) (attempt : Nat) (fence : ProcessCorrelationFence) (view : View)
  /- a wait -/
  | waitSubmitting (requires : Bool)
  | sampling (requires : Bool) (ticket : Nat) (fence : ProcessCorrelationFence)
  | waiting (requires : Bool) (ticket : Nat) (latest : LatestFence)
  | cancelling (requires : Bool) (ticket : Nat)
  | settling (requires : Bool) (ticket : Nat) (latest : LatestFence)
  | waitAuthorizing (requires expired : Bool) (fence : ProcessCorrelationFence) (sequence : Nat) (view : View)
  | waitComparing (requires expired : Bool) (fence : ProcessCorrelationFence) (sequence : Nat) (view : View)
      (checkedAt : Nat)
  | unstable (requires expired : Bool) (latest : LatestFence) (view : View)
  | returned (result : Except ControlPlaneError Returned)
  | dropped

inductive Call where
  | list
  | snapshot
  | query (requires : Bool)
  | resolve (requires : Bool)
  | wait (requires : Bool)

def Call.task : Call → Task
  | .list | .snapshot => .refreshing (.read false 0) .checking
  | .query requires | .resolve requires => .refreshing (.read requires 0) .checking
  | .wait requires => .waitSubmitting requires

/-- What happens where a wait looks at its deadline and its channels. -/
inductive Arm where
  | expired
  | changed
  | answered
deriving DecidableEq

structure World (τ : Type) where
  plane : Plane τ
  tasks : τ → Task

namespace World

variable {τ : Type} [DecidableEq τ]

def new (owner : ModelState) : World τ := ⟨.new owner, fun _ => .idle⟩

section

variable (w : World τ)

section

variable (t : τ)

def put (task : Task) : World τ := { w with tasks := Function.update w.tasks t task }

def fail (error : ControlPlaneError) : World τ := w.put t (.returned (.error error))

/-- `submit`, going on with the ticket or returning the error. -/
def submit (w : World τ) (t : τ) (request : Request) (send : TrySend) (next : Nat → Task) : World τ :=
  match send with
  | .sent => { w with plane := w.plane.submit request }.put t (next w.plane.nextTicket)
  | .full => w.fail t .resourceExhausted
  | .disconnected => w.fail t .capabilityUnavailable

/-- The processes of the view are replaced by what the windows report themselves. -/
def stripped (view : View) (clock : Nat) : Returned where
  windows := view.windows.map fun (window, stamp) =>
    ({ window with process := baselineProcessCorrelation window.process.reportedPid }, stamp)
  readAt := view.readAt
  checkedAt := clock

def strip (view : View) : World τ := w.put t (.returned (.ok (stripped view w.plane.clock)))

/-- The result without processes, or an error if the selector asks for one. -/
def degrade (requires : Bool) (view : View) : World τ :=
  if requires then w.fail t .capabilityUnavailable else w.strip t view

/-! ## `refresh_for_operation` -/

def refreshed (fence : Option ProcessCorrelationFence) : Purpose → World τ
  | .read requires attempt => w.put t (.observing requires attempt fence)
  | .wait requires ticket =>
    match fence with
    | none => w.put t (.waiting requires ticket none)
    | some fence => w.put t (.sampling requires ticket fence)

section

variable (purpose : Purpose)

/-- It goes on without a fence, which is an error if the selector asks for one. -/
def unrefreshed : World τ :=
  if purpose.requires then w.fail t .capabilityUnavailable else w.refreshed t none purpose

def clear (send : TrySend) : World τ :=
  w.submit t (.invalidateProcessCorrelations w.plane.authority) send fun ticket =>
    .refreshing purpose (.clearing ticket)

/-- Another call of `refresh_process_correlations`. -/
def attempt (left : Nat) : World τ :=
  { w with plane := w.plane.goto t .top }.put t (.refreshing purpose (.attempting left))

/-- What `refresh_process_correlations` returned. -/
def attempted (left : Nat) (send : TrySend) : RefreshResult → World τ
  | .ok fence => w.refreshed t (some fence) purpose
  | .error (.staleReference _) => if left ≤ 1 then w.unrefreshed t purpose else w.attempt t purpose (left - 1)
  | .error .capabilityUnavailable =>
    if purpose.requires then w.fail t .capabilityUnavailable else w.clear t purpose send
  | .error error => w.fail t error

def refresh (send : TrySend) : Refreshing → World τ
  | .checking =>
    if available w.plane.authority then w.attempt t purpose processCorrelationRefreshAttempts
    else w.clear t purpose send
  | .clearing ticket =>
    match w.plane.replies ticket with
    | some (.fence _) => w.unrefreshed t purpose
    | some (.failed error) => w.fail t error
    | _ => w
  | .attempting left =>
    match w.plane.callers t with
    | .returned result => { w with plane := w.plane.goto t .idle }.attempted t purpose left send result
    | _ => w

end

/-! ## Reads -/

/-- The result may not be the refresh's: once more, or without processes. -/
def retry (requires : Bool) (attempt : Nat) (view : View) : World τ :=
  if attempt + 1 = processCorrelationRefreshAttempts then w.degrade t requires view
  else w.put t (.refreshing (.read requires (attempt + 1)) .checking)

/-! ## Waits -/

/-- A result has come, in time or after the deadline. -/
def settle (requires expired : Bool) (latest : LatestFence) (view : View) : World τ :=
  match latest with
  | none => if requires || expired then w.put t (.unstable requires expired none view) else w.strip t view
  | some (fence, sequence) =>
    if fence.revision = view.revision then
      w.put t (.waitAuthorizing requires expired fence sequence view)
    else w.put t (.unstable requires expired latest view)

/-- The deadline passes during a refresh: it is dropped where it waits. -/
def expire (requires : Bool) (ticket : Nat) : Refreshing → World τ
  | .checking => w
  | .clearing _ => w.put t (.waiting requires ticket none)
  | .attempting _ =>
    if (w.plane.callers t).droppable then { w with plane := w.plane.drop t }.put t (.cancelling requires ticket)
    else w

/-! ## Tasks -/

def go (send : TrySend) (arm : Arm) : World τ :=
  match w.tasks t with
  | .idle | .returned _ | .dropped => w
  | .refreshing (.read requires attempt) stage => w.refresh t (.read requires attempt) send stage
  | .refreshing (.wait requires ticket) stage =>
    if arm = .expired then w.expire t requires ticket stage else w.refresh t (.wait requires ticket) send stage
  | .observing requires attempt fence => w.put t (.submitting requires attempt fence w.plane.sequence)
  | .submitting requires attempt fence observedSequence =>
    w.submit t .read send (.reading requires attempt fence observedSequence)
  | .reading requires attempt fence observedSequence ticket =>
    match w.plane.replies ticket with
    | some (.view view) =>
      match fence with
      | none => w.strip t view
      | some fence => w.put t (.comparing requires attempt fence observedSequence view)
    | some (.failed error) => w.fail t error
    | _ => w
  | .comparing requires attempt fence observedSequence view =>
    if w.plane.sequence = observedSequence ∧ fence.revision = view.revision then
      w.put t (.authorizing requires attempt fence view)
    else w.retry t requires attempt view
  | .authorizing requires attempt fence view =>
    if accepts w.plane.authority fence.lifecycleAuthority then
      w.put t (.returned (.ok ⟨view.windows, view.readAt, w.plane.clock⟩))
    else w.retry t requires attempt view
  | .waitSubmitting requires =>
    w.submit t .wait send fun ticket => .refreshing (.wait requires ticket) .checking
  | .sampling requires ticket fence => w.put t (.waiting requires ticket (some (fence, w.plane.sequence)))
  | .waiting requires ticket latest =>
    match arm with
    | .expired => w.put t (.settling requires ticket latest)
    | .changed => w.put t (.refreshing (.wait requires ticket) .checking)
    | .answered =>
      match w.plane.replies ticket with
      | some (.view view) => w.settle t requires false latest view
      | some (.failed error) => w.fail t error
      | _ => w
  | .cancelling requires ticket =>
    match w.plane.callers t with
    | .dropped => { w with plane := w.plane.goto t .idle }.put t (.waiting requires ticket none)
    | _ => w
  | .settling requires ticket latest =>
    match arm, w.plane.replies ticket with
    | .expired, _ => w.fail t .capabilityUnavailable
    | _, some (.view view) => w.settle t requires true latest view
    | _, some (.failed error) => w.fail t error
    | _, _ => w
  | .waitAuthorizing requires expired fence sequence view =>
    if accepts w.plane.authority fence.lifecycleAuthority then
      w.put t (.waitComparing requires expired fence sequence view w.plane.clock)
    else w.put t (.unstable requires expired (some (fence, sequence)) view)
  | .waitComparing requires expired fence sequence view checkedAt =>
    if w.plane.sequence = sequence then w.put t (.returned (.ok ⟨view.windows, view.readAt, checkedAt⟩))
    else w.put t (.unstable requires expired (some (fence, sequence)) view)
  | .unstable requires expired latest view =>
    if expired || arm = .expired then w.degrade t requires view
    else w.submit t .wait send fun ticket => .waiting requires ticket latest

end

end

/-- The future of a task is dropped where it waits. -/
def drop (w : World τ) (t : τ) : World τ :=
  match w.tasks t with
  | .refreshing _ (.attempting _) =>
    if (w.plane.callers t).droppable then { w with plane := w.plane.drop t }.put t .dropped else w
  | .refreshing _ (.clearing _) | .reading .. | .waiting .. | .settling .. => w.put t .dropped
  | _ => w

inductive Act (τ : Type) where
  | call (t : τ) (call : Call)
  | go (t : τ) (send : TrySend) (arm : Arm)
  | drop (t : τ)
  /-- A step of the plane; the calls and drops there are those of the tasks. -/
  | plane (act : Plane.Act τ)

def perform (host : ModelHost) (w : World τ) : Act τ → World τ
  | .call t call =>
    match w.tasks t with
    | .idle => w.put t call.task
    | _ => w
  | .go t send arm => w.go t send arm
  | .drop t => w.drop t
  | .plane (.call _) | .plane (.drop _) => w
  | .plane act => { w with plane := w.plane.perform host act }

def step (host : ModelHost) (w : World τ) (act : Act τ) : World τ :=
  let w := w.perform host act
  { w with plane := w.plane.tick }

/-- The world before each of the steps. -/
def run (host : ModelHost) (owner : ModelState) (acts : Nat → Act τ) : Nat → World τ
  | 0 => .new owner
  | n + 1 => (run host owner acts n).step host (acts n)

end World

end Xenoteer.ProcessRefresh
