/-
Window geometry in root coordinates (`core/window_geometry.rs`): one sample of
the root rectangle and a window's geometry, and the translation of a
window-local point. The arithmetic is that of the source's `i64`, wide enough
for every sum of an `i32` and a `u32`.
-/
import Xenoteer.Protocol.Window

namespace Xenoteer

inductive WindowGeometryResolveError where
  | invalidGeometry
  | frameGeometryUnavailable
  | inconsistentFrameGeometry
  | frameTooSmall
  | outsideRootBounds
  | arithmeticOverflow
  | unsupportedCoordinateSpace

inductive WindowScreenBoundsPolicy where
  | requireInsideRoot
  | clampToRoot
  | allowOffscreen

/-- `i32::try_from`. -/
def i32From (value : Int) : Except WindowGeometryResolveError Int32 :=
  if -2 ^ 31 ≤ value ∧ value ≤ i32Max then .ok (Int32.ofInt value) else .error .arithmeticOverflow

/-- `u32::try_from`. -/
def u32From (value : Nat) : Except WindowGeometryResolveError UInt32 :=
  if value ≤ u32Max then .ok (UInt32.ofNat value) else .error .arithmeticOverflow

def windowRect (x y : Int32) (width height : UInt32) : Except WindowGeometryResolveError WindowRect := do
  let rect : Rect := ⟨x, y, width, height⟩
  rect.validate.mapError fun _ => .arithmeticOverflow
  let value : WindowRect := ⟨.rootPhysical, rect⟩
  value.validate.mapError fun _ => .invalidGeometry
  return value

/-- The frame rectangle of a client rectangle and its extents. -/
def deriveFrameRect (client : WindowRect) (extents : WindowFrameExtents) :
    Except WindowGeometryResolveError WindowRect := do
  let size ← client.rect.size.mapError fun _ => .invalidGeometry
  let x ← i32From (client.rect.x.toInt - extents.left.toNat)
  let y ← i32From (client.rect.y.toInt - extents.top.toNat)
  let width ← u32From (size.width.toNat + extents.left.toNat + extents.right.toNat)
  let height ← u32From (size.height.toNat + extents.top.toNat + extents.bottom.toNat)
  windowRect x y width height

/-- Live geometry inputs. -/
structure WindowGeometryContext where
  root : WindowRect
  window : WindowGeometry
  root_valid : root.validate = .ok ()
  window_valid : window.validate = .ok ()
  root_space : root.coordinateSpace = .rootPhysical
  frame_consistent : ∀ frame extents, window.frameRect = some frame → window.frameExtents = some extents →
    deriveFrameRect window.clientRect extents = .ok frame

namespace WindowGeometryContext

def containsPoint (root : WindowRect) (point : Point) : Bool :=
  root.rect.x.toInt ≤ point.x.toInt && root.rect.y.toInt ≤ point.y.toInt &&
    point.x.toInt < root.rect.x.toInt + root.rect.width.toNat &&
    point.y.toInt < root.rect.y.toInt + root.rect.height.toNat

def clampPoint (root : WindowRect) (point : Point) : Except WindowGeometryResolveError Point := do
  let maxX := root.rect.x.toInt + root.rect.width.toNat - 1
  let maxY := root.rect.y.toInt + root.rect.height.toNat - 1
  let x ← i32From (max root.rect.x.toInt (min point.x.toInt maxX))
  let y ← i32From (max root.rect.y.toInt (min point.y.toInt maxY))
  return ⟨x, y⟩

/-- Translates a window-local point and applies the root policy. -/
def resolveLocalPoint (context : WindowGeometryContext) (relativeTo : CoordinateSpace) (point : Point)
    (boundsPolicy : WindowScreenBoundsPolicy) : Except WindowGeometryResolveError Point := do
  let origin ← match relativeTo with
    | .windowClient => pure context.window.clientRect.rect.origin
    | .windowFrame => match context.window.frameRect with
      | some frame => pure frame.rect.origin
      | none => throw .frameGeometryUnavailable
    | .rootPhysical | .atspiScreen => throw .unsupportedCoordinateSpace
  let x ← i32From (origin.x.toInt + point.x.toInt)
  let y ← i32From (origin.y.toInt + point.y.toInt)
  match boundsPolicy with
  | .allowOffscreen => return ⟨x, y⟩
  | .requireInsideRoot =>
    if containsPoint context.root ⟨x, y⟩ then return ⟨x, y⟩ else throw .outsideRootBounds
  | .clampToRoot => clampPoint context.root ⟨x, y⟩

end WindowGeometryContext

end Xenoteer
