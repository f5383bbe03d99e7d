/-
The supervisor of one process group (`supervise_process`, `terminate_and_reap`
and `kill_owned_group_and_reap` of `process_manager.rs`): which signals go to
the group, and when its leader is reaped.

What the system answers is given, call by call, and may be anything. A reaped
leader's identifier can be taken by another group, so the order of the two
kinds of event is what matters.
-/
import Xenoteer.Processd.Manager

namespace Xenoteer.Processd

structure ExitStatus where
  exitCode : Option Int
  signal : Option Int
  coreDumped : Bool
  success : Bool

inductive Signal where
  | sigterm
  | sigkill
deriving DecidableEq

/-- `killpg` on the group, and a `wait` that takes the leader's status. -/
inductive GroupEvent where
  | signalled (signal : Signal)
  | reaped
deriving DecidableEq

/-- The events of a part of the supervision, and what it returns. -/
abbrev Supervised (α : Type) := List GroupEvent × Except ProcessManagerError α

section Calls

variable {α : Type}

/-- A call that is no event of the group. -/
@[simp] def failing (answer : Except ProcessManagerError Unit) (rest : Supervised α) : Supervised α :=
  match answer with
  | .ok () => rest
  | .error error => ([], .error error)

/-- `signal_group`, `signal_group_present`. -/
@[simp] def signalGroup (signal : Signal) (answer : Except ProcessManagerError Unit) (rest : Supervised α) :
    Supervised α :=
  (.signalled signal :: (failing answer rest).1, (failing answer rest).2)

/-- `child.wait()`. -/
@[simp] def reap (answer : Except ProcessManagerError ExitStatus) (result : ExitStatus → α) : Supervised α :=
  match answer with
  | .ok status => ([.reaped], .ok (result status))
  | .error error => ([], .error error)

/-- What `verify_live_process_group` and a `try_wait` after it answer. -/
structure Verification where
  verify : Except ProcessManagerError Unit
  tryWait : Except ProcessManagerError (Option ExitStatus)

/-- A leader that cannot be read may have ended: its status is then the result. -/
def Verification.run (v : Verification) (result : ExitStatus → α) (rest : Supervised α) : Supervised α :=
  match v.verify, v.tryWait with
  | .ok (), _ => rest
  | .error .procIdentityUnavailable, .ok (some status) => ([.reaped], .ok (result status))
  | .error .procIdentityUnavailable, .error error => ([], .error error)
  | .error error, _ => ([], .error error)

end Calls

/-- A termination reaps unkilled, or it fails before it reaps, or it reaps last. -/
def Ends (reaps kills : Prop) : Supervised (ExitStatus × Bool) → Prop
  | (events, .ok _) =>
    (reaps ∧ ¬ kills ∧ events ∈ [[.reaped], [.signalled .sigterm, .reaped]]) ∨
    (¬ reaps ∧ kills ∧ events = [.signalled .sigterm, .signalled .sigkill, .reaped])
  | (events, .error _) => ¬ reaps ∧
    (kills ∧ events = [.signalled .sigterm, .signalled .sigkill] ∨
      ¬ kills ∧ events ∈ [[], [.signalled .sigterm]])

end Xenoteer.Processd
