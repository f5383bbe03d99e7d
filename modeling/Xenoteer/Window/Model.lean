/-
The authoritative window identity model (`xenoteer-core/src/window.rs`):
one live birth per XID, a global birth serial, bounded tombstones and exact
revalidation.

The `while` loops that pop tombstones from the front are `dropWhile` for
expiry and `drop` for the capacity. A fallible `&mut self` method is a
function to its result and the model it leaves.
-/
import Xenoteer.Protocol.Window
import Xenoteer.Lib.Run
import Xenoteer.Lib.TreeMapKeys

namespace Xenoteer

inductive WindowModelError where
  | nilIdentifier
  | invalidLimits
  | invalidSnapshot (error : WindowValidationError)
  | invalidReference (error : WindowValidationError)
  | wrongDesktopLifetime
  | xidAlreadyLive
  | unexpectedBirthGeneration (expected actual : Nat)
  | liveCapacityExhausted
  | birthGenerationExhausted
  | revisionExhausted
  | clockOverflow
  | clockMovedBackwards
  | notFound
  | staleReference
  | destroyedReference
  | alreadyDestroyed
deriving DecidableEq

/-! ## Limits -/

structure WindowModelLimits where
  maxLiveWindows : Nat
  maxTombstones : Nat
  tombstoneTtlMs : Nat

namespace WindowModelLimits

def default : WindowModelLimits := ⟨4096, 8192, 15 * 60 * 1000⟩

/-- Non-zero capacities and retention. -/
def Positive (l : WindowModelLimits) : Prop :=
  0 < l.maxLiveWindows ∧ 0 < l.maxTombstones ∧ 0 < l.tombstoneTtlMs

instance (l : WindowModelLimits) : Decidable l.Positive := inferInstanceAs (Decidable (_ ∧ _ ∧ _))

def validate (l : WindowModelLimits) : Except WindowModelError WindowModelLimits :=
  if l.maxLiveWindows = 0 ∨ l.maxTombstones = 0 ∨ l.tombstoneTtlMs = 0 then .error .invalidLimits else .ok l

theorem eq_of_validate {l l' : WindowModelLimits} (h : l.validate = .ok l') : l' = l := by
  unfold validate at h
  split at h
  · cases h
  · cases h
    rfl

theorem positive_of_validate {l l' : WindowModelLimits} (h : l.validate = .ok l') : l'.Positive := by
  unfold validate at h
  split at h
  · cases h
  rename_i hp
  cases h
  unfold Positive
  omega

end WindowModelLimits

/-! ## State -/

/-- Evidence that one exact birth was destroyed. -/
structure WindowTombstone where
  window : WindowRef
  destroyedRevision : WindowModelRevision
  expiresAt : MonotonicMillis
deriving DecidableEq

structure ResolvedWindow where
  revision : WindowModelRevision
  snapshot : WindowSnapshot
deriving DecidableEq

inductive WindowModelChange where
  | created (snapshot : WindowSnapshot)
  | updated (snapshot : WindowSnapshot)
deriving DecidableEq

structure LiveWindow where
  snapshot : WindowSnapshot
  createdRevision : WindowModelRevision

/-- One window of an atomic query view (`window_query.rs`). -/
structure WindowQueryRecord where
  snapshot : WindowSnapshot
  createdRevision : WindowModelRevision
deriving DecidableEq

/-- The state owned by one observation actor. Its limits were validated when
it was created and never change. -/
structure WindowModel where
  desktopId : DesktopId
  desktopGeneration : DesktopGeneration
  revision : WindowModelRevision
  limits : WindowModelLimits
  limits_pos : limits.Positive
  live : Std.TreeMap UInt32 LiveWindow compare
  tombstones : List WindowTombstone
  lastBirthSerial : Nat
  lastNow : MonotonicMillis

def projectSnapshot (window : LiveWindow) (revision : WindowModelRevision) : WindowSnapshot :=
  { window.snapshot with modelRevision := revision }

namespace WindowModel

def new (desktopId : DesktopId) (desktopGeneration : DesktopGeneration) (limits : WindowModelLimits) :
    Except WindowModelError WindowModel :=
  if desktopId.uuid = 0 ∨ desktopGeneration.uuid = 0 then .error .nilIdentifier
  else match WindowModelRevision.new 1 with
    | .error e => .error (.invalidSnapshot e)
    | .ok revision =>
      match h : limits.validate with
      | .error e => .error e
      | .ok limits =>
        .ok ⟨desktopId, desktopGeneration, revision, limits, WindowModelLimits.positive_of_validate h,
          ∅, [], 0, 0⟩

section

variable (m : WindowModel)

/-- The next birth serial. It is global rather than per XID, so that evicting
tombstones never lets an old reference collide with a later birth. -/
def nextBirthSerial : Except WindowModelError Nat :=
  match checkedAdd m.lastBirthSerial 1 with
  | some serial => .ok serial
  | none => .error .birthGenerationExhausted

def liveReference (xid : UInt32) : Option WindowRef :=
  m.live[xid]?.map fun window => window.snapshot.window

def requireScope (reference : WindowRef) : Except WindowModelError Unit :=
  if reference.desktopId ≠ m.desktopId ∨ reference.desktopGeneration ≠ m.desktopGeneration then
    .error .wrongDesktopLifetime
  else .ok ()

def nextRevision : Except WindowModelError WindowModelRevision × WindowModel :=
  match checkedAdd m.revision.value 1 with
  | none => (.error .revisionExhausted, m)
  | some next =>
    match WindowModelRevision.new next with
    | .error e => (.error (.invalidSnapshot e), m)
    | .ok revision => (.ok revision, { m with revision := revision })

section

variable (now : MonotonicMillis)

/-- The clock moves to `now` and the expired tombstones at the front go. -/
def expire : WindowModel :=
  { m with lastNow := now, tombstones := m.tombstones.dropWhile fun entry => entry.expiresAt ≤ now }

def advanceTime : Except WindowModelError Unit × WindowModel :=
  if now < m.lastNow then (.error .clockMovedBackwards, m) else (.ok (), m.expire now)

/-- The creation revision of the window that a snapshot refreshes, or `none`
for the next birth. -/
def existingCreationRevision (window : WindowRef) : Except WindowModelError (Option WindowModelRevision) :=
  match m.live[window.xid]? with
  | some current =>
    if current.snapshot.window ≠ window then .error .xidAlreadyLive else .ok (some current.createdRevision)
  | none =>
    if m.limits.maxLiveWindows ≤ m.live.size then .error .liveCapacityExhausted
    else match m.nextBirthSerial with
      | .error e => .error e
      | .ok expected =>
        if window.observedGeneration ≠ expected then
          .error (.unexpectedBirthGeneration expected window.observedGeneration)
        else .ok none

/-- Inserts a new birth or refreshes the exact live identity. -/
def observe (snapshot : WindowSnapshot) (now : MonotonicMillis) :
    Except WindowModelError WindowModelChange × WindowModel :=
  match m.advanceTime now with
  | (.error e, m) => (.error e, m)
  | (.ok (), m) =>
  match snapshot.validate with
  | .error e => (.error (.invalidSnapshot e), m)
  | .ok () =>
  match m.requireScope snapshot.window with
  | .error e => (.error e, m)
  | .ok () =>
  match m.existingCreationRevision snapshot.window with
  | .error e => (.error e, m)
  | .ok existing =>
  match m.nextRevision with
  | (.error e, m) => (.error e, m)
  | (.ok revision, m) =>
    let snapshot := { snapshot with modelRevision := revision }
    let entry : LiveWindow := ⟨snapshot, existing.getD revision⟩
    let live := m.live.insert snapshot.window.xid entry
    match existing with
    | none =>
      (.ok (.created snapshot),
        { m with lastBirthSerial := snapshot.window.observedGeneration, live := live })
    | some _ => (.ok (.updated snapshot), { m with live := live })

/-- The tombstone is the last one, and the oldest go when there are too many. -/
def pushTombstone (tombstone : WindowTombstone) : WindowModel :=
  let tombstones := m.tombstones ++ [tombstone]
  { m with tombstones := tombstones.drop (tombstones.length - m.limits.maxTombstones) }

/-- Removes exactly one live identity. The window leaves the map before the
expiry of its tombstone is computed. -/
def destroy (reference : WindowRef) (now : MonotonicMillis) :
    Except WindowModelError WindowTombstone × WindowModel :=
  match m.advanceTime now with
  | (.error e, m) => (.error e, m)
  | (.ok (), m) =>
  match reference.validate with
  | .error e => (.error (.invalidReference e), m)
  | .ok () =>
  match m.requireScope reference with
  | .error e => (.error e, m)
  | .ok () =>
  match m.live[reference.xid]? with
  | none =>
    if m.tombstones.any fun entry => entry.window = reference then (.error .alreadyDestroyed, m)
    else (.error .notFound, m)
  | some current =>
  if current.snapshot.window ≠ reference then (.error .staleReference, m)
  else match m.nextRevision with
  | (.error e, m) => (.error e, m)
  | (.ok destroyedRevision, m) =>
    let m := { m with live := m.live.erase reference.xid }
    match checkedAdd now m.limits.tombstoneTtlMs with
    | none => (.error .clockOverflow, m)
    | some expiresAt =>
      let tombstone : WindowTombstone := ⟨reference, destroyedRevision, expiresAt⟩
      (.ok tombstone, m.pushTombstone tombstone)

/-- Resolves an exact identity against the live windows. -/
def resolveExact (reference : WindowRef) (now : MonotonicMillis) :
    Except WindowModelError ResolvedWindow × WindowModel :=
  match m.advanceTime now with
  | (.error e, m) => (.error e, m)
  | (.ok (), m) =>
  match reference.validate with
  | .error e => (.error (.invalidReference e), m)
  | .ok () =>
  match m.requireScope reference with
  | .error e => (.error e, m)
  | .ok () =>
  match m.live[reference.xid]? with
  | some current =>
    if current.snapshot.window ≠ reference then (.error .staleReference, m)
    else (.ok ⟨m.revision, projectSnapshot current m.revision⟩, m)
  | none =>
    if m.tombstones.any fun entry => entry.window = reference then (.error .destroyedReference, m)
    else (.error .notFound, m)

/-- `self.live.values()`: the live windows in XID order. -/
def liveWindows : List LiveWindow := m.live.toList.map Prod.snd

/-- All live windows under one revision, in XID order. -/
def snapshotAll : Except WindowModelError (WindowModelRevision × List WindowSnapshot) × WindowModel :=
  match m.advanceTime now with
  | (.error e, m) => (.error e, m)
  | (.ok (), m) => (.ok (m.revision, m.liveWindows.map (projectSnapshot · m.revision)), m)

/-- The same view with the creation revision of every window. -/
def snapshotQueryRecords :
    Except WindowModelError (WindowModelRevision × List WindowQueryRecord) × WindowModel :=
  match m.advanceTime now with
  | (.error e, m) => (.error e, m)
  | (.ok (), m) =>
    (.ok (m.revision, m.liveWindows.map fun window =>
      ⟨projectSnapshot window m.revision, window.createdRevision⟩), m)

end

end

end WindowModel

/-! ## Operations -/

inductive WindowOp where
  | observe (snapshot : WindowSnapshot) (now : MonotonicMillis)
  | destroy (reference : WindowRef) (now : MonotonicMillis)
  | resolveExact (reference : WindowRef) (now : MonotonicMillis)
  | snapshotAll (now : MonotonicMillis)
  | snapshotQueryRecords (now : MonotonicMillis)

def WindowOp.now : WindowOp → MonotonicMillis
  | .observe _ now | .destroy _ now | .resolveExact _ now | .snapshotAll now | .snapshotQueryRecords now => now

inductive WindowReply where
  | observed (change : WindowModelChange)
  | destroyed (tombstone : WindowTombstone)
  | resolved (window : ResolvedWindow)
  | snapshots (revision : WindowModelRevision) (snapshots : List WindowSnapshot)
  | records (revision : WindowModelRevision) (records : List WindowQueryRecord)
deriving DecidableEq

namespace WindowModel

/-- One call: what it returned and the model it left. -/
def step (m : WindowModel) : WindowOp → Except WindowModelError WindowReply × WindowModel
  | .observe snapshot now => (m.observe snapshot now).map (·.map .observed) id
  | .destroy reference now => (m.destroy reference now).map (·.map .destroyed) id
  | .resolveExact reference now => (m.resolveExact reference now).map (·.map .resolved) id
  | .snapshotAll now => (m.snapshotAll now).map (·.map fun view => .snapshots view.1 view.2) id
  | .snapshotQueryRecords now => (m.snapshotQueryRecords now).map
      (·.map fun view => .records view.1 view.2) id

/-- The empty model of the first desktop with the default limits. -/
def empty : WindowModel := ⟨⟨1⟩, ⟨1⟩, ⟨1, Nat.one_ne_zero⟩, .default, by decide, ∅, [], 0, 0⟩

theorem new_empty : WindowModel.new ⟨1⟩ ⟨1⟩ .default = .ok empty := rfl

end WindowModel

end Xenoteer
