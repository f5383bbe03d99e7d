/-
The command ledger (`coordinator/ledger.rs`): one record per principal and
command identifier of the current generation, bounded in number, with
terminal records kept for a TTL and evictable in least-recently-touched
order.

`BTreeMap` is `Std.TreeMap`: both iterate in key order.
-/
import Xenoteer.Coordinator.Types
import Mathlib.Data.List.MinMax

namespace Xenoteer

inductive CommandLedgerError where
  | invalidLimits
  | wrongDesktop
  | staleGeneration
  | commandIdConflict
  | capacityExhausted
  | unknownCommand
  | invalidTransition
  | terminalImmutable
  | clockRegressed
  | accessCounterExhausted
  | invariantViolation
deriving DecidableEq

structure CommandLedgerLimits where
  maximumEntries : Nat
  terminalTtlMs : Nat
  entries_pos : 0 < maximumEntries
  ttl_pos : 0 < terminalTtlMs

structure CommandKey where
  principal : PrincipalId
  commandId : CommandId
deriving DecidableEq

instance : Ord CommandKey := ⟨compareLex (compareOn CommandKey.principal) (compareOn CommandKey.commandId)⟩

instance : Std.TransOrd CommandKey := inferInstanceAs (Std.TransCmp (compareLex _ _))

instance : Std.LawfulEqOrd CommandKey where
  compare_self := Std.ReflCmp.compare_self
  eq_of_compare {a b} h := by
    obtain ⟨hp, hc⟩ := compareLex_eq_eq.mp h
    cases a; cases b
    simp only [CommandKey.mk.injEq]
    exact ⟨Std.LawfulEqOrd.eq_of_compare hp, Std.LawfulEqOrd.eq_of_compare hc⟩

inductive CommandRecordState (R : Type) where
  | accepted
  | running
  | terminal (result : R)
deriving DecidableEq

def CommandRecordState.isTerminal {R : Type} : CommandRecordState R → Bool
  | .terminal _ => true
  | _ => false

structure CommandRecord (R : Type) where
  principal : PrincipalId
  commandId : CommandId
  generation : GenerationToken
  requestHash : CanonicalCommandHash
  state : CommandRecordState R
  acceptedAt : MonotonicMillis
  updatedAt : MonotonicMillis
deriving DecidableEq

structure StoredCommand (R : Type) where
  record : CommandRecord R
  terminalAt : Option MonotonicMillis
  accessOrdinal : Nat
deriving DecidableEq

/-- What `mark_running` stores. -/
def StoredCommand.begun {R : Type} (stored : StoredCommand R) (now : MonotonicMillis) : StoredCommand R :=
  { stored with record := { stored.record with state := .running, updatedAt := now } }

/-- What `complete` stores. -/
def StoredCommand.completed {R : Type} (stored : StoredCommand R) (result : R) (now : MonotonicMillis) :
    StoredCommand R :=
  { stored with
    record := { stored.record with state := .terminal result, updatedAt := now }
    terminalAt := some now }

/-- Outcome of command-ID admission. -/
inductive IdempotencyDecision (R : Type) where
  | admitted (record : CommandRecord R)
  | existing (record : CommandRecord R)

structure CommandLedger (R : Type) where
  desktopId : DesktopId
  generation : GenerationToken
  limits : CommandLedgerLimits
  records : Std.TreeMap CommandKey (StoredCommand R)
  nextAccessOrdinal : Nat
  lastObservedAt : Option MonotonicMillis

namespace CommandLedger

variable {R : Type}

def new (desktopId : DesktopId) (generation : GenerationToken) (limits : CommandLedgerLimits) :
    Except CommandLedgerError (CommandLedger R) :=
  if generation.desktopId ≠ desktopId then .error .wrongDesktop
  else .ok ⟨desktopId, generation, limits, ∅, 1, none⟩

section

variable (l : CommandLedger R)

def validateGeneration (generation : GenerationToken) : Except CommandLedgerError Unit :=
  if generation.desktopId ≠ l.desktopId then .error .wrongDesktop
  else if generation ≠ l.generation then .error .staleGeneration
  else .ok ()

def observe (now : MonotonicMillis) : Except CommandLedgerError (CommandLedger R) :=
  if l.lastObservedAt.any (now < ·) then .error .clockRegressed
  else .ok { l with lastObservedAt := some now }

def takeAccessOrdinal : Except CommandLedgerError (Nat × CommandLedger R) :=
  match checkedAdd l.nextAccessOrdinal 1 with
  | none => .error .accessCounterExhausted
  | some next => .ok (l.nextAccessOrdinal, { l with nextAccessOrdinal := next })

/-- Whether `retain` keeps a record at `now`: it is not terminal, or its age
is below the TTL (a terminal time in the future has no age). -/
def unexpired (ttlMs : Nat) (now : MonotonicMillis) (stored : StoredCommand R) : Bool :=
  match stored.terminalAt with
  | none => true
  | some terminalAt => match checkedSub now terminalAt with
    | none => true
    | some ageMs => ageMs < ttlMs

/-- Drops the terminal records past their TTL; how many there were. -/
def purgeExpiredTerminal (now : MonotonicMillis) : Nat × CommandLedger R :=
  let records := l.records.filter fun _ stored => unexpired l.limits.terminalTtlMs now stored
  (l.records.size - records.size, { l with records := records })

/-- The terminal record with the smallest access ordinal; of equal ones the
first in key order, as the iteration is. -/
def lruTerminal : Option CommandKey :=
  ((l.records.toList.filter fun entry => entry.2.record.state.isTerminal).argmin
    fun entry => entry.2.accessOrdinal).map (·.1)

def evictLruTerminal : Except CommandLedgerError Unit × CommandLedger R :=
  match l.lruTerminal with
  | none => (.error .capacityExhausted, l)
  | some victim => (.ok (), { l with records := l.records.erase victim })

/-- The end the four operations on an existing record share: a fresh access
ordinal, then `get_mut` and the update. -/
def touch (key : CommandKey) (update : StoredCommand R → StoredCommand R) :
    Except CommandLedgerError (CommandRecord R) × CommandLedger R :=
  match l.takeAccessOrdinal with
  | .error e => (.error e, l)
  | .ok (ordinal, l) => match l.records[key]? with
    | none => (.error .invariantViolation, l)
    | some stored =>
      let stored := { update stored with accessOrdinal := ordinal }
      (.ok stored.record, { l with records := l.records.insert key stored })

section

variable (principal : PrincipalId)

/-- Reserves a command ID or returns its existing record. -/
def admitCommand (commandId : CommandId)
    (requestHash : CanonicalCommandHash) (now : MonotonicMillis) (generation : GenerationToken) :
    Except CommandLedgerError (IdempotencyDecision R) × CommandLedger R :=
  match l.validateGeneration generation with
  | .error e => (.error e, l)
  | .ok () => match l.observe now with
    | .error e => (.error e, l)
    | .ok l =>
      let l := (l.purgeExpiredTerminal now).2
      let key : CommandKey := ⟨principal, commandId⟩
      match l.records[key]? with
      | some existing =>
        if existing.record.requestHash ≠ requestHash then (.error .commandIdConflict, l)
        else match l.touch key id with
          | (.error e, l) => (.error e, l)
          | (.ok record, l) => (.ok (.existing record), l)
      | none => match l.takeAccessOrdinal with
        | .error e => (.error e, l)
        | .ok (ordinal, l) =>
          match if l.limits.maximumEntries ≤ l.records.size then l.evictLruTerminal else (.ok (), l) with
          | (.error e, l) => (.error e, l)
          | (.ok (), l) =>
            let record := ⟨principal, commandId, generation, requestHash, .accepted, now, now⟩
            (.ok (.admitted record), { l with records := l.records.insert key ⟨record, none, ordinal⟩ })

/-- Looks up and touches a record. -/
def lookup (commandId : CommandId) (now : MonotonicMillis) (generation : GenerationToken) :
    Except CommandLedgerError (Option (CommandRecord R)) × CommandLedger R :=
  match l.validateGeneration generation with
  | .error e => (.error e, l)
  | .ok () => match l.observe now with
    | .error e => (.error e, l)
    | .ok l =>
      let l := (l.purgeExpiredTerminal now).2
      let key : CommandKey := ⟨principal, commandId⟩
      if !l.records.contains key then (.ok none, l)
      else match l.touch key id with
        | (.error e, l) => (.error e, l)
        | (.ok record, l) => (.ok (some record), l)

/-- `Accepted` to `Running`, once. -/
def markRunning (commandId : CommandId) (now : MonotonicMillis) (generation : GenerationToken) :
    Except CommandLedgerError (CommandRecord R) × CommandLedger R :=
  match l.validateGeneration generation with
  | .error e => (.error e, l)
  | .ok () => match l.observe now with
    | .error e => (.error e, l)
    | .ok l =>
      let key : CommandKey := ⟨principal, commandId⟩
      match l.records[key]? with
      | none => (.error .unknownCommand, l)
      | some existing => match existing.record.state with
        | .accepted => l.touch key (·.begun now)
        | _ => (.error .invalidTransition, l)

/-- Stores the one terminal outcome, from `Accepted` or `Running`. -/
def complete (commandId : CommandId) (result : R) (now : MonotonicMillis) (generation : GenerationToken) :
    Except CommandLedgerError (CommandRecord R) × CommandLedger R :=
  match l.validateGeneration generation with
  | .error e => (.error e, l)
  | .ok () => match l.observe now with
    | .error e => (.error e, l)
    | .ok l =>
      let key : CommandKey := ⟨principal, commandId⟩
      match l.records[key]? with
      | none => (.error .unknownCommand, l)
      | some existing =>
        if existing.record.state.isTerminal then (.error .terminalImmutable, l)
        else l.touch key (·.completed result now)

end

/-- Clears all records and moves to a new generation; how many there were. -/
def rotateGeneration (generation : GenerationToken) : Except CommandLedgerError Nat × CommandLedger R :=
  if generation.desktopId ≠ l.desktopId then (.error .wrongDesktop, l)
  else if generation.epoch ≤ l.generation.epoch ∨ generation.generation = l.generation.generation then
    (.error .staleGeneration, l)
  else
    (.ok l.records.size,
      { l with
        records := ∅
        generation := generation
        nextAccessOrdinal := 1
        lastObservedAt := none })

end

end CommandLedger

end Xenoteer
