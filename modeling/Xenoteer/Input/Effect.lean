/-
Physical input details (`input/action.rs`, `domain/geometry.rs`) and the
journal of their effects (`input/effect.rs`): what was submitted to the X
server in one action, in order, and whether the barrier confirmed it.
-/
import Xenoteer.Coordinator.Types

namespace Xenoteer

def minPhysicalKeycode : UInt8 := 8

/-- A non-zero X11 physical button detail. -/
structure PhysicalButton where
  detail : UInt8
  detail_ne_zero : detail ≠ 0
deriving DecidableEq

/-- A core X11 physical keycode. -/
structure PhysicalKey where
  keycode : UInt8
  min_le_keycode : minPhysicalKeycode ≤ keycode
deriving DecidableEq

/-- A point in root-window pixels that fits an XTEST request (an `i16` each
way). -/
structure RootPoint where
  x : Int
  y : Int
  x_range : -2 ^ 15 ≤ x ∧ x < 2 ^ 15
  y_range : -2 ^ 15 ≤ y ∧ y < 2 ^ 15
deriving DecidableEq

inductive InputActionError where
  | invalidPhysicalButton
  | invalidPhysicalKey (keycode : UInt8)

def PhysicalButton.new (detail : UInt8) : Except InputActionError PhysicalButton :=
  if h : detail = 0 then .error .invalidPhysicalButton else .ok ⟨detail, h⟩

def PhysicalKey.new (keycode : UInt8) : Except InputActionError PhysicalKey :=
  if h : keycode < minPhysicalKeycode then .error (.invalidPhysicalKey keycode)
  else .ok ⟨keycode, UInt8.not_lt.mp h⟩

/-- A physical side effect, as submitted. -/
inductive Effect where
  | pointerMoved (point : RootPoint)
  | buttonPressed (button : PhysicalButton)
  | buttonReleased (button : PhysicalButton)
  | keyPressed (key : PhysicalKey) (modifier : Bool)
  | keyReleased (key : PhysicalKey) (modifier : Bool)
deriving DecidableEq

inductive EffectCertainty where
  | provisional
  | confirmed
deriving DecidableEq

structure EffectRecord where
  sequence : Nat
  effect : Effect
  certainty : EffectCertainty
deriving DecidableEq

def EffectRecord.confirm (record : EffectRecord) : EffectRecord := { record with certainty := .confirmed }

inductive EffectJournalError where
  | capacityExceeded
  | sequenceExhausted
  | invalidCheckpoint
deriving DecidableEq

def maxEffectRecords : Nat := 4608

/-- A bounded append-only journal for one action. A checkpoint is a length of
its records. -/
structure EffectJournal where
  records : List EffectRecord
  nextSequence : Nat
deriving DecidableEq

namespace EffectJournal

def new : EffectJournal := ⟨[], 0⟩

section

variable (j : EffectJournal)

def recordProvisional (effect : Effect) : Except EffectJournalError Nat × EffectJournal :=
  if maxEffectRecords ≤ j.records.length then (.error .capacityExceeded, j)
  else match checkedAdd j.nextSequence 1 with
    | none => (.error .sequenceExhausted, j)
    | some next =>
      (.ok j.nextSequence,
        { records := j.records ++ [⟨j.nextSequence, effect, .provisional⟩], nextSequence := next })

def checkpoint : Nat := j.records.length

/-- Marks what was recorded since the checkpoint as confirmed. -/
def confirmSince (checkpoint : Nat) : Except EffectJournalError Unit × EffectJournal :=
  if checkpoint ≤ j.records.length then
    let records := j.records.take checkpoint ++ (j.records.drop checkpoint).map EffectRecord.confirm
    (.ok (), { j with records })
  else (.error .invalidCheckpoint, j)

def hasProvisional : Bool := j.records.any (·.certainty = .provisional)

theorem recordProvisional_cases (ef : Effect) : (∃ e, j.recordProvisional ef = (.error e, j)) ∨
      ∃ n, j.recordProvisional ef = (.ok j.nextSequence,
        ⟨j.records ++ [⟨j.nextSequence, ef, .provisional⟩], n⟩) := by
  unfold recordProvisional
  split
  · exact .inl ⟨_, rfl⟩
  · split
    · exact .inl ⟨_, rfl⟩
    · exact .inr ⟨_, rfl⟩

end

end EffectJournal

end Xenoteer
