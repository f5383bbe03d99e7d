/-
What the X11 observation actor sees and says (`xenoteer-x11/src/observe.rs`,
`observe/events.rs` and `observe/damage.rs`): the normalized X events, the
reconciliation each of them asks for, and root damage coalesced into frames.

Rectangles are integers with the range of their machine types as a field.
-/
import Mathlib.Data.Int.Notation
import Xenoteer.Observe.Atoms

namespace Xenoteer.Observe

/-! ## Root damage -/

/-- `DAMAGE_COALESCE_INTERVAL`, in nanoseconds. -/
def damageCoalesceInterval : Nat := 16000000

def maxDamageRegions : Nat := 64

/-- A non-empty rectangle that ends inside the `i32` plane. -/
structure RootDamageRect where
  x : Int
  y : Int
  width : Nat
  height : Nat
  origin : -2 ^ 31 ≤ x ∧ -2 ^ 31 ≤ y
  size : 0 < width ∧ width < 2 ^ 32 ∧ 0 < height ∧ height < 2 ^ 32
  inside : x + width ≤ 2 ^ 31 ∧ y + height ≤ 2 ^ 31
deriving DecidableEq

namespace RootDamageRect

def new (x y : Int) (width height : Nat) : Option RootDamageRect :=
  if h : (-2 ^ 31 ≤ x ∧ -2 ^ 31 ≤ y) ∧ (0 < width ∧ width < 2 ^ 32 ∧ 0 < height ∧ height < 2 ^ 32) ∧
      x + width ≤ 2 ^ 31 ∧ y + height ≤ 2 ^ 31 then
    some ⟨x, y, width, height, h.1, h.2.1, h.2.2⟩
  else none

def endX (r : RootDamageRect) : Int := r.x + r.width

def endY (r : RootDamageRect) : Int := r.y + r.height

def intersect (r other : RootDamageRect) : Option RootDamageRect :=
  let x := max r.x other.x
  let y := max r.y other.y
  let endX := min r.endX other.endX
  let endY := min r.endY other.endY
  if endX < x ∨ endY < y then none else new x y (endX - x).toNat (endY - y).toNat

def overlaps (r other : RootDamageRect) : Bool :=
  r.x < other.endX && other.x < r.endX && r.y < other.endY && other.y < r.endY

/-- The extent of two, which one too wide for its type is cut down to. -/
def bounding (r other : RootDamageRect) : RootDamageRect where
  x := min r.x other.x
  y := min r.y other.y
  width := min (max r.endX other.endX - min r.x other.x).toNat (2 ^ 32 - 1)
  height := min (max r.endY other.endY - min r.y other.y).toNat (2 ^ 32 - 1)
  origin := by have := r.origin; have := other.origin; omega
  size := by
    have := r.size; have := other.size
    simp only [endX, endY]
    omega
  inside := by
    have := r.inside; have := other.inside; have := r.size; have := other.size
    simp only [endX, endY]
    omega

end RootDamageRect

structure RootDamageHint where
  area : RootDamageRect
  rootRegion : RootDamageRect
deriving DecidableEq

inductive RootDamageCoverage where
  | regions
  | boundingBox
  | fullScreen
deriving DecidableEq

structure RootDamageBatch where
  rootRegion : RootDamageRect
  regions : List RootDamageRect
  coverage : RootDamageCoverage
  notifications : Nat
deriving DecidableEq

/-- Damage waiting for its frame; it covers something. -/
structure PendingDamage where
  deadline : Instant
  rootRegion : RootDamageRect
  regions : List RootDamageRect
  coverage : RootDamageCoverage
  notifications : Nat
  covers : regions ≠ []

namespace PendingDamage

/-- `set_collapsed_region`. -/
def collapse (p : PendingDamage) (region : RootDamageRect) : PendingDamage :=
  if region = p.rootRegion then
    { p with regions := [p.rootRegion], coverage := .fullScreen, covers := List.cons_ne_nil _ _ }
  else { p with regions := [region], coverage := .boundingBox, covers := List.cons_ne_nil _ _ }

/-- The regions that do not touch what has been merged so far, and the merger of the
others. -/
def merge (regions : List RootDamageRect) (area : RootDamageRect) :
    List RootDamageRect × RootDamageRect :=
  regions.foldl (fun (kept, merged) region =>
    if region.overlaps merged then (kept, merged.bounding region) else (kept ++ [region], merged)) ([], area)

def add (p : PendingDamage) (hint : RootDamageHint) (area : RootDamageRect) : PendingDamage :=
  let p := { p with notifications := min (p.notifications + 1) (2 ^ 32 - 1) }
  if p.rootRegion ≠ hint.rootRegion then
    { p with
      rootRegion := hint.rootRegion
      regions := [hint.rootRegion]
      coverage := .fullScreen
      covers := List.cons_ne_nil _ _ }
  else match p.coverage with
    | .fullScreen => p
    | .boundingBox => p.collapse ((p.regions.head p.covers).bounding area)
    | .regions =>
      let (kept, merged) := merge p.regions area
      if kept.length < maxDamageRegions then
        { p with regions := kept ++ [merged], covers := List.append_ne_nil_of_right_ne_nil _ (List.cons_ne_nil _ _) }
      else p.collapse (kept.foldl RootDamageRect.bounding merged)

end PendingDamage

structure DamageAccumulator where
  pending : Option PendingDamage

namespace DamageAccumulator

def empty : DamageAccumulator := ⟨none⟩

def offer (d : DamageAccumulator) (hint : RootDamageHint) (now : Instant) : DamageAccumulator :=
  match hint.area.intersect hint.rootRegion with
  | none => d
  | some area =>
    match d.pending with
    | some pending => ⟨some (pending.add hint area)⟩
    | none =>
      ⟨some ⟨now + damageCoalesceInterval, hint.rootRegion, [area], .regions, 1, List.cons_ne_nil _ _⟩⟩

def takeDue (d : DamageAccumulator) (now : Instant) : Option RootDamageBatch × DamageAccumulator :=
  match d.pending with
  | none => (none, d)
  | some p =>
    if now < p.deadline then (none, d)
    else (some ⟨p.rootRegion, p.regions, p.coverage, p.notifications⟩, empty)

end DamageAccumulator

/-! ## Events and their classification -/

inductive PollThreadEvent where
  | create (window : Window)
  | map (window : Window)
  | unmap (window : Window)
  | destroy (window : Window)
  | property (window : Window) (atom : Atom) (deleted : Bool)
  | configure (window aboveSibling : Window)
  | focus (window : Window) (focused : Bool)
  | motion (window : Window) (rootX rootY : Int)
  | rootDamage (hint : RootDamageHint)
  | other (responseType : Nat)
  | resyncRequired
  | failed (message : Text)
deriving DecidableEq

inductive WindowRefresh where
  | attributes
  | geometry
  | metadata
  | state
  | processEvidence
  | relations
  | workspace
deriving DecidableEq

inductive ReconcileDecision where
  | observeWindow (window : Window)
  | removeWindow (window : Window)
  | refreshWindow (window : Window) (refresh : WindowRefresh)
  | refreshFocus
  | rebuildInventory
  | fullResync
  | connectionFailed
  | ignore
deriving DecidableEq

def classifyProperty (window : Window) (atom : Atom) (root : Window) (atoms : KnownAtoms) :
    ReconcileDecision :=
  let isOneOf (known : List KnownAtom) : Bool := known.any fun k => atoms k == atom
  if window = root then
    if isOneOf [.netClientListStacking, .netClientList] then .rebuildInventory
    else if atom = atoms .netActiveWindow then .refreshFocus
    else .ignore
  else if isOneOf [.netWmName, .netWmVisibleName, .netWmIconName, .netWmVisibleIconName, .netWmWindowType,
      .netWmAllowedActions, .wmName, .wmIconName, .wmClass, .wmClientMachine, .wmProtocols] then
    .refreshWindow window .metadata
  else if isOneOf [.netWmState, .wmHints] then .refreshWindow window .state
  else if isOneOf [.netWmPid, .wmClientLeader] then .refreshWindow window .processEvidence
  else if atom = atoms .netFrameExtents then .refreshWindow window .geometry
  else if atom = atoms .wmTransientFor then .refreshWindow window .relations
  else if atom = atoms .netWmDesktop then .refreshWindow window .workspace
  else .ignore

def classifyReconcile (event : PollThreadEvent) (root : Window) (atoms : KnownAtoms) : ReconcileDecision :=
  match event with
  | .create window | .map window => .observeWindow window
  | .unmap window => .refreshWindow window .attributes
  | .destroy window => .removeWindow window
  | .configure window _ => if window = root then .fullResync else .refreshWindow window .geometry
  | .focus .. => .refreshFocus
  | .property window atom _ => classifyProperty window atom root atoms
  | .resyncRequired => .fullResync
  | .failed _ => .connectionFailed
  | .motion .. | .rootDamage _ | .other _ => .ignore

/-! ## What the actor emits -/

inductive ObservationActorFailureKind where
  | requestFailed
  | backendUnavailable
  | actorPoisoned
  | actorStopped
  | actorPanicked
  | controlQueueFull
deriving DecidableEq

inductive ObservationActorEvent where
  | reconcile (decision : ReconcileDecision)
  | rootDamaged (damage : RootDamageBatch)
  | resyncRequired
  | failed (kind : ObservationActorFailureKind)
deriving DecidableEq

/-- The root region an event carries. -/
def ObservationActorEvent.rootRegion : ObservationActorEvent → Option RootDamageRect
  | .rootDamaged damage => some damage.rootRegion
  | _ => none

end Xenoteer.Observe
