/-
The exclusive physical-input lease (`coordinator/lease.rs`): one holder at
a time, and a reset transaction between two holders.

As everywhere, a fallible `&mut self` method is a function to its result
and the machine it leaves. Expiry is lazy: the operations that read the
clock step it themselves (`expireIfDue`).
-/
import Xenoteer.Coordinator.Types

namespace Xenoteer

/-- Public phase of the lease transaction. -/
inductive LeasePhase where
  | vacant
  | held
  | revoking
  | resetting
deriving DecidableEq

inductive RevocationReason where
  | released
  | expired
  | revoked
  | generationChanged
  | shutdown
deriving DecidableEq

/-- The operations that `InvalidTransition` names. -/
inductive ResetOperation where
  | beginReset
  | finishReset
deriving DecidableEq

inductive LeaseError where
  | invalidPolicy
  | ttlOutOfRange (maximumMs suppliedMs : Nat)
  | occupied (expiresAt : MonotonicMillis)
  | wrongOwner
  | wrongLease
  | notHeld
  | expired
  | resetRequired
  | wrongDesktop
  | staleGeneration
  | clockRegressed
  | timeOverflow
  | invalidTransition (phase : LeasePhase) (operation : ResetOperation)
deriving DecidableEq

/-- Default and maximum TTL, both non-zero. -/
structure LeasePolicy where
  defaultTtlMs : Nat
  maximumTtlMs : Nat
  default_pos : 0 < defaultTtlMs
  default_le : defaultTtlMs ≤ maximumTtlMs

namespace LeasePolicy

/-- `LeasePolicy::default`: one minute. -/
def default : LeasePolicy := ⟨60000, 60000, by decide, by decide⟩

def resolveTtl (p : LeasePolicy) (requestedTtlMs : Option Nat) : Except LeaseError Nat :=
  let ttlMs := requestedTtlMs.getD p.defaultTtlMs
  if ttlMs = 0 ∨ p.maximumTtlMs < ttlMs then .error (.ttlOutOfRange p.maximumTtlMs ttlMs)
  else .ok ttlMs

end LeasePolicy

/-- A lease capability. `lastActivityAt` never extends `expiresAt`. -/
structure LeaseGrant where
  leaseId : ControlLeaseId
  owner : PrincipalId
  generation : GenerationToken
  expiresAt : MonotonicMillis
  lastActivityAt : MonotonicMillis
deriving DecidableEq

inductive LeaseState where
  | vacant
  | held (lease : LeaseGrant)
  | revoking (lease : LeaseGrant) (reason : RevocationReason)
  | resetting (lease : LeaseGrant) (reason : RevocationReason)
deriving DecidableEq

/-- `LeaseSnapshot`: the published view, which adds the fence to `Vacant`. -/
inductive LeaseSnapshot where
  | vacant (generation : GenerationToken)
  | held (lease : LeaseGrant)
  | revoking (lease : LeaseGrant) (reason : RevocationReason)
  | resetting (lease : LeaseGrant) (reason : RevocationReason)
deriving DecidableEq

structure LeaseMachine where
  desktopId : DesktopId
  generation : GenerationToken
  policy : LeasePolicy
  lastObservedAt : Option MonotonicMillis
  state : LeaseState

def LeaseState.phase : LeaseState → LeasePhase
  | .vacant => .vacant
  | .held _ => .held
  | .revoking _ _ => .revoking
  | .resetting _ _ => .resetting

namespace LeaseMachine

def new (desktopId : DesktopId) (generation : GenerationToken) (policy : LeasePolicy) :
    Except LeaseError LeaseMachine :=
  if generation.desktopId ≠ desktopId then .error .wrongDesktop
  else .ok ⟨desktopId, generation, policy, none, .vacant⟩

def phase (m : LeaseMachine) : LeasePhase := m.state.phase

section

variable (m : LeaseMachine)

def snapshot : LeaseSnapshot :=
  match m.state with
  | .vacant => .vacant m.generation
  | .held lease => .held lease
  | .revoking lease reason => .revoking lease reason
  | .resetting lease reason => .resetting lease reason

def validateGeneration (generation : GenerationToken) : Except LeaseError Unit :=
  if generation.desktopId ≠ m.desktopId then .error .wrongDesktop
  else if generation ≠ m.generation then .error .staleGeneration
  else .ok ()

/-- Records a clock reading, refusing one before the last. -/
def observe (now : MonotonicMillis) : Except LeaseError LeaseMachine :=
  if m.lastObservedAt.any (now < ·) then .error .clockRegressed
  else .ok { m with lastObservedAt := some now }

/-- Revokes a held lease whose expiry has come. -/
def expireIfDue (now : MonotonicMillis) : Bool × LeaseMachine :=
  match m.state with
  | .held lease =>
    if now < lease.expiresAt then (false, m)
    else (true, { m with state := .revoking lease .expired })
  | _ => (false, m)

def validateCapability (lease : LeaseGrant) (owner : PrincipalId) (leaseId : ControlLeaseId) :
    Except LeaseError Unit :=
  if lease.owner ≠ owner then .error .wrongOwner
  else if lease.leaseId ≠ leaseId then .error .wrongLease
  else .ok ()

def acquire (owner : PrincipalId) (leaseId : ControlLeaseId)
    (requestedTtlMs : Option Nat) (now : MonotonicMillis) (generation : GenerationToken) :
    Except LeaseError LeaseGrant × LeaseMachine :=
  match m.validateGeneration generation with
  | .error e => (.error e, m)
  | .ok () => match m.observe now with
    | .error e => (.error e, m)
    | .ok m =>
      let m := (m.expireIfDue now).2
      match m.state with
      | .held lease => (.error (.occupied lease.expiresAt), m)
      | .revoking _ _ | .resetting _ _ => (.error .resetRequired, m)
      | .vacant => match m.policy.resolveTtl requestedTtlMs with
        | .error e => (.error e, m)
        | .ok ttlMs => match checkedAdd now ttlMs with
          | none => (.error .timeOverflow, m)
          | some expiresAt =>
            let grant := ⟨leaseId, owner, generation, expiresAt, now⟩
            (.ok grant, { m with state := .held grant })

/-- A call under a lease looks at the generation, the clock and expiry first. -/
def unexpired {α : Type} (now : MonotonicMillis) (generation : GenerationToken)
    (call : LeaseMachine → Except LeaseError α × LeaseMachine) : Except LeaseError α × LeaseMachine :=
  match m.validateGeneration generation with
  | .error e => (.error e, m)
  | .ok () => match m.observe now with
    | .error e => (.error e, m)
    | .ok m => match m.expireIfDue now with
      | (true, m) => (.error .expired, m)
      | (false, m) => call m

/-- It goes on with the lease that is held, if the capability is that of the lease. -/
def underLease {α : Type} (owner : PrincipalId) (leaseId : ControlLeaseId)
    (call : LeaseGrant → Except LeaseError α × LeaseMachine) : Except LeaseError α × LeaseMachine :=
  match m.state with
  | .vacant => (.error .notHeld, m)
  | .revoking _ _ | .resetting _ _ => (.error .resetRequired, m)
  | .held lease => match validateCapability lease owner leaseId with
    | .error e => (.error e, m)
    | .ok () => call lease

/-- Renews an unexpired lease. The TTL is resolved before the phase is
looked at. -/
def renew (owner : PrincipalId) (leaseId : ControlLeaseId)
    (requestedTtlMs : Option Nat) (now : MonotonicMillis) (generation : GenerationToken) :
    Except LeaseError LeaseGrant × LeaseMachine :=
  m.unexpired now generation fun m => match m.policy.resolveTtl requestedTtlMs with
    | .error e => (.error e, m)
    | .ok ttlMs => match checkedAdd now ttlMs with
      | none => (.error .timeOverflow, m)
      | some expiresAt => m.underLease owner leaseId fun lease =>
        let lease := { lease with expiresAt := expiresAt, lastActivityAt := now }
        (.ok lease, { m with state := .held lease })

/-- Authorizes activity without extending the lease. -/
def authorize (owner : PrincipalId) (leaseId : ControlLeaseId)
    (now : MonotonicMillis) (generation : GenerationToken) : Except LeaseError LeaseGrant × LeaseMachine :=
  m.unexpired now generation fun m => m.underLease owner leaseId fun lease =>
    let lease := { lease with lastActivityAt := now }
    (.ok lease, { m with state := .held lease })

def release (owner : PrincipalId) (leaseId : ControlLeaseId)
    (now : MonotonicMillis) (generation : GenerationToken) : Except LeaseError Unit × LeaseMachine :=
  m.unexpired now generation fun m => m.underLease owner leaseId fun lease =>
    (.ok (), { m with state := .revoking lease .released })

/-- Revokes a held lease; whether there was one. -/
def revoke (reason : RevocationReason) : Bool × LeaseMachine :=
  match m.state with
  | .held lease => (true, { m with state := .revoking lease reason })
  | _ => (false, m)

/-- Applies expiry, if due. -/
def advanceTime (now : MonotonicMillis) : Except LeaseError Bool × LeaseMachine :=
  match m.observe now with
  | .error e => (.error e, m)
  | .ok m =>
    let (expired, m) := m.expireIfDue now
    (.ok expired, m)

def beginReset (m : LeaseMachine) : Except LeaseError Unit × LeaseMachine :=
  match m.state with
  | .revoking lease reason => (.ok (), { m with state := .resetting lease reason })
  | _ => (.error (.invalidTransition m.phase .beginReset), m)

def finishReset (m : LeaseMachine) : Except LeaseError Unit × LeaseMachine :=
  match m.state with
  | .resetting _ _ => (.ok (), { m with state := .vacant })
  | _ => (.error (.invalidTransition m.phase .finishReset), m)

/-- Applies a new generation fence; a held lease is revoked, a cleanup in
progress stays mandatory. -/
def rotateGeneration (generation : GenerationToken) : Except LeaseError Unit × LeaseMachine :=
  if generation.desktopId ≠ m.desktopId then (.error .wrongDesktop, m)
  else if generation.epoch ≤ m.generation.epoch ∨ generation.generation = m.generation.generation then
    (.error .staleGeneration, m)
  else
    let m := { m with generation := generation }
    (.ok (), (m.revoke .generationChanged).2)

end

end LeaseMachine

end Xenoteer
