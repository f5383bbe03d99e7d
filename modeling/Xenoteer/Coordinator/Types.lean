/-
The values the coordinator's state machines share: identifiers, monotonic
time, the generation fence (`coordinator/generation.rs`, `time.rs`,
`mod.rs`), and the fixed-width arithmetic they use.

Identifiers are 128-bit UUIDs in the source; the machines only compare
them, so here they are numbers of any size.
-/
import Mathlib.Algebra.Order.Ring.Int
import Std.Data.TreeMap.Lemmas

namespace Xenoteer

/-! ## Fixed-width arithmetic -/

/-- `u64::MAX`, also `usize::MAX` (the daemon's targets are 64-bit). -/
def u64Max : Nat := 18446744073709551615

def u32Max : Nat := 4294967295

def checkedAdd (a b : Nat) : Option Nat := if a + b ≤ u64Max then some (a + b) else none

def checkedSub (a b : Nat) : Option Nat := if b ≤ a then some (a - b) else none

theorem checkedAdd_eq_some {a b c} : checkedAdd a b = some c ↔ a + b ≤ u64Max ∧ a + b = c := by
  simp [checkedAdd]

theorem checkedAdd_eq_none {a b} : checkedAdd a b = none ↔ u64Max < a + b := by
  simp [checkedAdd]

/-- `MonotonicMillis`: milliseconds from an arbitrary monotonic epoch. -/
abbrev MonotonicMillis := Nat

/-- Nanoseconds of the monotonic clock. -/
abbrev Instant := Nat

/-- The largest instant: seconds are an `i64`. -/
def instantMax : Instant := (2 ^ 63 - 1) * 10 ^ 9 + 999999999

def Instant.checkedAdd (instant duration : Nat) : Option Instant :=
  if instant + duration ≤ instantMax then some (instant + duration) else none

/-- What the successive `Instant::now()` return. -/
structure Clock where
  reading : Nat → Instant
  monotone : Monotone reading

/-! ## Identifiers -/

structure DesktopId where
  uuid : Nat
deriving DecidableEq

structure DesktopGeneration where
  uuid : Nat
deriving DecidableEq

structure CommandId where
  uuid : Nat
deriving DecidableEq

structure ControlLeaseId where
  uuid : Nat
deriving DecidableEq

/-- A 256-bit digest of the canonical command request. -/
structure CanonicalCommandHash where
  bytes : Vector UInt8 32
deriving DecidableEq

def maxPrincipalIdBytes : Nat := 128

def isAsciiGraphic (b : UInt8) : Bool := 0x21 ≤ b && b ≤ 0x7e

/-- An authenticated principal: one to 128 visible ASCII characters. The
string is kept as its bytes, whose lexicographic order is `String`'s. -/
structure PrincipalId where
  bytes : List UInt8
  nonempty : bytes ≠ []
  bounded : bytes.length ≤ maxPrincipalIdBytes
  visible : bytes.all isAsciiGraphic = true
deriving DecidableEq

/-! ## Desktop generations -/

/-- A snapshot of the current desktop lifetime: the external UUID and the
process-local epoch that fences a reused one. -/
structure GenerationToken where
  desktopId : DesktopId
  generation : DesktopGeneration
  epoch : Nat
deriving DecidableEq

structure GenerationFence where
  current : GenerationToken

inductive GenerationFenceError where
  | wrongDesktop
  | stale (expected supplied : GenerationToken)
  | reusedGeneration
  | epochExhausted
deriving DecidableEq

namespace GenerationFence

def new (desktopId : DesktopId) (generation : DesktopGeneration) : GenerationFence :=
  ⟨⟨desktopId, generation, 1⟩⟩

def capture (f : GenerationFence) : GenerationToken := f.current

/-- Advances to a new desktop generation: its UUID differs from the current
one's and the epoch never wraps. -/
def rotate (f : GenerationFence) (generation : DesktopGeneration) :
    Except GenerationFenceError GenerationToken × GenerationFence :=
  if generation = f.current.generation then (.error .reusedGeneration, f)
  else match checkedAdd f.current.epoch 1 with
    | none => (.error .epochExhausted, f)
    | some epoch =>
      let current := { f.current with generation := generation, epoch := epoch }
      (.ok current, ⟨current⟩)

/-- A rotation is refused and changes nothing, or it keeps the desktop,
advances the epoch and changes the UUID. -/
theorem rotate_cases {f f' : GenerationFence} {g r} (h : f.rotate g = (r, f')) :
    (∃ e, r = .error e ∧ f' = f) ∨
    (∃ t : GenerationToken, r = .ok t ∧ f' = ⟨t⟩ ∧ t.desktopId = f.current.desktopId ∧ t.generation = g ∧
      g ≠ f.current.generation ∧ t.epoch = f.current.epoch + 1) := by
  simp only [rotate] at h
  split at h
  · cases h; exact .inl ⟨_, rfl, rfl⟩
  next hg =>
  split at h
  · cases h; exact .inl ⟨_, rfl, rfl⟩
  next ep he =>
  cases h
  exact .inr ⟨_, rfl, rfl, rfl, rfl, hg, (checkedAdd_eq_some.mp he).2.symm⟩

end GenerationFence

/-! ## Orders of the map keys

The source derives `Ord`: field by field, in declaration order. -/

instance : Ord DesktopId := ⟨compareOn DesktopId.uuid⟩
instance : Ord DesktopGeneration := ⟨compareOn DesktopGeneration.uuid⟩
instance : Ord CommandId := ⟨compareOn CommandId.uuid⟩
instance : Ord PrincipalId := ⟨compareOn PrincipalId.bytes⟩
instance : Ord GenerationToken := ⟨compareLex (compareOn GenerationToken.desktopId)
  (compareLex (compareOn GenerationToken.generation) (compareOn GenerationToken.epoch))⟩

instance : Std.TransOrd DesktopId := inferInstanceAs (Std.TransCmp (compareOn DesktopId.uuid))
instance : Std.TransOrd DesktopGeneration := inferInstanceAs
  (Std.TransCmp (compareOn DesktopGeneration.uuid))
instance : Std.TransOrd CommandId := inferInstanceAs (Std.TransCmp (compareOn CommandId.uuid))
instance : Std.TransOrd PrincipalId := inferInstanceAs (Std.TransCmp (compareOn PrincipalId.bytes))
instance : Std.TransOrd GenerationToken := inferInstanceAs (Std.TransCmp (compareLex _ (compareLex _ _)))

/-- Comparing by `f` is lawful when `f` is injective. -/
theorem lawfulEqCmp_compareOn {α β} [Ord β] [Std.LawfulEqOrd β] {f : α → β}
    (hf : ∀ a b, f a = f b → a = b) : Std.LawfulEqCmp (compareOn f) where
  compare_self := Std.compare_self
  eq_of_compare h := hf _ _ (Std.LawfulEqOrd.eq_of_compare h)

instance : Std.LawfulEqOrd DesktopId := lawfulEqCmp_compareOn fun a b h => by cases a; cases b; simp_all
instance : Std.LawfulEqOrd DesktopGeneration :=
  lawfulEqCmp_compareOn fun a b h => by cases a; cases b; simp_all
instance : Std.LawfulEqOrd CommandId := lawfulEqCmp_compareOn fun a b h => by cases a; cases b; simp_all
instance : Std.LawfulEqOrd PrincipalId := lawfulEqCmp_compareOn fun a b h => by cases a; cases b; simp_all

instance : Std.LawfulEqOrd GenerationToken where
  compare_self := Std.ReflCmp.compare_self
  eq_of_compare {a b} h := by
    obtain ⟨hd, hge⟩ := compareLex_eq_eq.mp h
    obtain ⟨hg, he⟩ := compareLex_eq_eq.mp hge
    cases a; cases b
    simp only [GenerationToken.mk.injEq]
    exact ⟨Std.LawfulEqOrd.eq_of_compare hd, Std.LawfulEqOrd.eq_of_compare hg,
      Std.LawfulEqOrd.eq_of_compare he⟩

/-! ## Values of the runs on fixed inputs -/

def PrincipalId.operator : PrincipalId := ⟨[0x6f], by decide, by decide, by decide⟩
def PrincipalId.agent : PrincipalId := ⟨[0x61], by decide, by decide, by decide⟩

def GenerationToken.first : GenerationToken := ⟨⟨1⟩, ⟨1⟩, 1⟩
def GenerationToken.second : GenerationToken := ⟨⟨1⟩, ⟨2⟩, 2⟩

def CanonicalCommandHash.zero : CanonicalCommandHash := ⟨.replicate 32 0⟩

end Xenoteer
