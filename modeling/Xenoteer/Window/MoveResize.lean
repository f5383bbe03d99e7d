/-
Move and resize (`core/window_geometry.rs`): a partial request is completed
from the window's client or frame rectangle, bounded by the root, and turned
into the client fields that realise it.
-/
import Xenoteer.Lib.Checks
import Xenoteer.Window.Geometry

namespace Xenoteer

open Lib Checks

structure WindowGeometryRequest where
  x : Option Int32
  y : Option Int32
  width : Option UInt32
  height : Option UInt32

/-- The rectangle with the fields that are present. -/
def WindowGeometryRequest.overwrite (request : WindowGeometryRequest) (rect : Rect) : Rect :=
  ⟨request.x.getD rect.x, request.y.getD rect.y, request.width.getD rect.width, request.height.getD rect.height⟩

inductive WindowControlValidationError where
  | emptyGeometry
  | geometryDimension

def WindowGeometryRequest.validate (r : WindowGeometryRequest) : Except WindowControlValidationError Unit :=
  let refused (value : UInt32) : Bool := value = 0 ∨ maxWindowDimension < value.toNat
  if r.x.isNone ∧ r.y.isNone ∧ r.width.isNone ∧ r.height.isNone then .error .emptyGeometry
  else if r.width.any refused ∨ r.height.any refused then .error .geometryDimension
  else .ok ()

inductive WindowGeometryTarget where
  | client
  | frame

structure ResolvedWindowGeometry where
  effective : WindowRect
  clientRect : WindowRect
  clientRequest : WindowGeometryRequest
  boundsConstrained : Bool

/-- `rect.size()` with the resolver's error. -/
def sizeOf (value : WindowRect) : Except WindowGeometryResolveError Size :=
  value.rect.size.mapError fun _ => .invalidGeometry

def applyPartial (current : WindowRect) (desired : WindowGeometryRequest) :
    Except WindowGeometryResolveError WindowRect := do
  let size ← sizeOf current
  windowRect (desired.x.getD current.rect.x) (desired.y.getD current.rect.y) (desired.width.getD size.width)
    (desired.height.getD size.height)

def containsRect (outer inner : WindowRect) : Except WindowGeometryResolveError Bool := do
  let outerSize ← sizeOf outer
  let innerSize ← sizeOf inner
  return outer.rect.x.toInt ≤ inner.rect.x.toInt && outer.rect.y.toInt ≤ inner.rect.y.toInt &&
    inner.rect.x.toInt + innerSize.width.toNat ≤ outer.rect.x.toInt + outerSize.width.toNat &&
    inner.rect.y.toInt + innerSize.height.toNat ≤ outer.rect.y.toInt + outerSize.height.toNat

def clampRect (root candidate : WindowRect) : Except WindowGeometryResolveError WindowRect := do
  let rootSize ← sizeOf root
  let candidateSize ← sizeOf candidate
  let width := if candidateSize.width ≤ rootSize.width then candidateSize.width else rootSize.width
  let height := if candidateSize.height ≤ rootSize.height then candidateSize.height else rootSize.height
  let maxX := root.rect.x.toInt + (rootSize.width - width).toNat
  let maxY := root.rect.y.toInt + (rootSize.height - height).toNat
  let x ← i32From (max root.rect.x.toInt (min candidate.rect.x.toInt maxX))
  let y ← i32From (max root.rect.y.toInt (min candidate.rect.y.toInt maxY))
  windowRect x y width height

def applyBounds (candidate root : WindowRect) : WindowScreenBoundsPolicy → Except WindowGeometryResolveError WindowRect
  | .allowOffscreen => return candidate
  | .requireInsideRoot => do
    if ← containsRect root candidate then return candidate
    else throw .outsideRootBounds
  | .clampToRoot => clampRect root candidate

def frameToClient (frame : WindowRect) (extents : WindowFrameExtents) :
    Except WindowGeometryResolveError WindowRect := do
  let size ← sizeOf frame
  let horizontal ← u32From (extents.left.toNat + extents.right.toNat)
  let vertical ← u32From (extents.top.toNat + extents.bottom.toNat)
  if size.width ≤ horizontal ∨ size.height ≤ vertical then throw .frameTooSmall
  let x ← i32From (frame.rect.x.toInt + extents.left.toNat)
  let y ← i32From (frame.rect.y.toInt + extents.top.toNat)
  windowRect x y (size.width - horizontal) (size.height - vertical)

/-- A field is sent when it was asked for or has to change. -/
def changedClientFields (current effective : WindowRect) (desired : WindowGeometryRequest) :
    Except WindowGeometryResolveError WindowGeometryRequest := do
  let currentSize ← sizeOf current
  let effectiveSize ← sizeOf effective
  let sent {α : Type} [DecidableEq α] (asked : Option α) (before after : α) : Option α :=
    if asked.isSome ∨ before ≠ after then some after else none
  return ⟨sent desired.x current.rect.x effective.rect.x, sent desired.y current.rect.y effective.rect.y,
    sent desired.width currentSize.width effectiveSize.width,
    sent desired.height currentSize.height effectiveSize.height⟩

namespace WindowGeometryContext

/-- The rectangle a request is completed from. -/
def targetRect (context : WindowGeometryContext) : WindowGeometryTarget → Except WindowGeometryResolveError WindowRect
  | .client => .ok context.window.clientRect
  | .frame => match context.window.frameExtents, context.window.frameRect with
    | some _, some frame => .ok frame
    | _, _ => .error .frameGeometryUnavailable

def clientOf (context : WindowGeometryContext) (effective : WindowRect) :
    WindowGeometryTarget → Except WindowGeometryResolveError WindowRect
  | .client => .ok effective
  | .frame => match context.window.frameExtents with
    | some extents => frameToClient effective extents
    | none => .error .frameGeometryUnavailable

def resolveMoveResize (context : WindowGeometryContext) (relativeTo : WindowGeometryTarget)
    (desired : WindowGeometryRequest) (boundsPolicy : WindowScreenBoundsPolicy) :
    Except WindowGeometryResolveError ResolvedWindowGeometry := do
  desired.validate.mapError fun _ => .invalidGeometry
  let current ← context.targetRect relativeTo
  let candidate ← applyPartial current desired
  let effective ← applyBounds candidate context.root boundsPolicy
  let clientRect ← context.clientOf effective relativeTo
  let clientRequest ← changedClientFields context.window.clientRect clientRect desired
  return ⟨effective, clientRect, clientRequest, candidate ≠ effective⟩

end WindowGeometryContext

/-! ## Rectangles -/

variable {r r' : WindowRect} {x y : Int32} {w h : UInt32}

theorem sizeOf_eq_ok {s} (hs : sizeOf r = .ok s) : s = ⟨r.rect.width, r.rect.height⟩ := by
  simp only [sizeOf, Rect.size, Size.new, Size.validate] at hs
  split_ifs at hs <;> cases hs
  rfl

theorem i32From_eq_ok {v : Int} (hx : i32From v = .ok x) : x.toInt = v := by
  rw [i32From] at hx
  split_ifs at hx with hv
  cases hx
  exact Int32.toInt_ofInt_of_le hv.1 (by have := hv.2; simp only [i32Max] at this; omega)

theorem i32From_toInt (x : Int32) : i32From x.toInt = .ok x := by
  have hx := x.toInt_lt
  rw [i32From, if_pos ⟨x.le_toInt, by simp only [i32Max]; omega⟩, Int32.ofInt_toInt]

theorem u32From_eq_ok {n : Nat} (hw : u32From n = .ok w) : w.toNat = n := by
  rw [u32From] at hw
  split_ifs at hw with hn
  cases hw
  exact UInt32.toNat_ofNat_of_lt' (Nat.lt_succ_of_le hn)

theorem u32From_toNat (w : UInt32) : u32From w.toNat = .ok w := by
  rw [u32From, if_pos (show w.toNat ≤ u32Max from Nat.le_of_lt_succ w.toNat_lt), UInt32.ofNat_toNat]

/-- The rectangle passes the checks it was made with. -/
def WindowRect.Checked (r : WindowRect) : Prop :=
  windowRect r.rect.x r.rect.y r.rect.width r.rect.height = .ok r

theorem windowRect_eq_ok (hr : windowRect x y w h = .ok r) : r.Checked ∧ r = ⟨.rootPhysical, ⟨x, y, w, h⟩⟩ := by
  have hr' := hr
  simp only [windowRect, andThen_eq_ok] at hr'
  cases hr'.2.2
  exact ⟨hr, rfl⟩

theorem WindowRect.Checked.sizeOf (hr : r.Checked) : sizeOf r = .ok ⟨r.rect.width, r.rect.height⟩ := by
  simp only [WindowRect.Checked, windowRect, andThen_eq_ok, wrapped_eq_ok] at hr
  obtain ⟨s, hs, -⟩ := bind_eq_ok.1 hr.1
  have hn : Size.new r.rect.width r.rect.height = .ok ⟨r.rect.width, r.rect.height⟩ := by
    simp only [Size.new, Size.validate] at hs ⊢
    split_ifs at hs ⊢
    · cases hs
    · rfl
  simp [Xenoteer.sizeOf, Rect.size, hn, Except.mapError]

/-- Taking the frame off and putting it on again. -/
theorem deriveFrameRect_frameToClient {e} (hr : r.Checked) (hc : frameToClient r e = .ok r') :
    deriveFrameRect r' e = .ok r := by
  simp only [frameToClient, hr.sizeOf, bind_eq_ok, guard_eq_ok, Except.ok.injEq, exists_eq_left'] at hc
  obtain ⟨hz, hhz, vt, hvt, hs, x, hx, y, hy, hc⟩ := hc
  obtain ⟨hck, rfl⟩ := windowRect_eq_ok hc
  rw [not_or, UInt32.not_le, UInt32.not_le] at hs
  have hw := UInt32.toNat_sub_of_le _ _ (UInt32.le_of_lt hs.1)
  have hh := UInt32.toNat_sub_of_le _ _ (UInt32.le_of_lt hs.2)
  have hlw := UInt32.lt_iff_toNat_lt.1 hs.1
  have hlh := UInt32.lt_iff_toNat_lt.1 hs.2
  rw [u32From_eq_ok hhz] at hw hlw
  rw [u32From_eq_ok hvt] at hh hlh
  have hx' : x.toInt - e.left.toNat = r.rect.x.toInt := by rw [i32From_eq_ok hx]; omega
  have hy' : y.toInt - e.top.toNat = r.rect.y.toInt := by rw [i32From_eq_ok hy]; omega
  have hw' : (r.rect.width - hz).toNat + e.left.toNat + e.right.toNat = r.rect.width.toNat := by omega
  have hh' : (r.rect.height - vt).toNat + e.top.toNat + e.bottom.toNat = r.rect.height.toNat := by omega
  have hsz := hck.sizeOf
  simp only [sizeOf] at hsz
  simp only [deriveFrameRect, hsz, bind, Except.bind, hx', hy', hw', hh', i32From_toInt, u32From_toNat]
  exact hr

/-! ## Bounds -/

/-- The inner rectangle lies inside the outer. -/
def Inside (outer inner : Rect) : Prop :=
  outer.x.toInt ≤ inner.x.toInt ∧ outer.y.toInt ≤ inner.y.toInt ∧
    inner.x.toInt + inner.width.toNat ≤ outer.x.toInt + outer.width.toNat ∧
    inner.y.toInt + inner.height.toNat ≤ outer.y.toInt + outer.height.toNat

/-- Of the places of `extent` pixels on `[low, low + room)`, `x` is the nearest to `wanted`. -/
def Nearest (low room extent wanted x : Int) : Prop :=
  ∀ other, low ≤ other → other + extent ≤ low + room → (x - wanted).natAbs ≤ (other - wanted).natAbs

/-- One axis of the clamped rectangle. -/
structure ClampedAxis (low : Int) (room wantedExtent extent : UInt32) (wanted x : Int) : Prop where
  extent_eq : extent.toNat = min wantedExtent.toNat room.toNat
  low_le : low ≤ x
  le_high : x + extent.toNat ≤ low + room.toNat
  nearest : Nearest low room.toNat extent.toNat wanted x
  eq_iff : (x = wanted ∧ extent = wantedExtent) ↔ low ≤ wanted ∧ wanted + wantedExtent.toNat ≤ low + room.toNat

theorem clampedAxis (low wn : Int) (rm v : UInt32) :
    let e := if v ≤ rm then v else rm
    ClampedAxis low rm v e wn (max low (min wn (low + (rm - e).toNat))) := by
  intro e
  have hm : e.toNat = min v.toNat rm.toNat := by
    simp only [e, UInt32.le_iff_toNat_le]
    split_ifs <;> omega
  have hs : (rm - e).toNat = rm.toNat - e.toNat :=
    UInt32.toNat_sub_of_le _ _ (UInt32.le_iff_toNat_le.2 (by omega))
  refine ⟨hm, by omega, by omega, fun o hl hh => by omega, ?_⟩
  rw [← UInt32.toNat_inj]
  omega

theorem containsRect_eq_ok {b : Bool} (hb : containsRect r r' = .ok b) : b = true ↔ Inside r.rect r'.rect := by
  simp only [containsRect, bind_eq_ok] at hb
  obtain ⟨s, hs, s', hs', hb⟩ := hb
  cases hb
  rw [sizeOf_eq_ok hs, sizeOf_eq_ok hs']
  simp [Inside, and_assoc]

theorem clampRect_eq_ok {e} (he : clampRect r r' = .ok e) : e.Checked ∧ e.coordinateSpace = .rootPhysical ∧
    ClampedAxis r.rect.x.toInt r.rect.width r'.rect.width e.rect.width r'.rect.x.toInt e.rect.x.toInt ∧
    ClampedAxis r.rect.y.toInt r.rect.height r'.rect.height e.rect.height r'.rect.y.toInt e.rect.y.toInt := by
  simp only [clampRect, bind_eq_ok] at he
  obtain ⟨s, hs, s', hs', x, hx, y, hy, he⟩ := he
  rw [sizeOf_eq_ok hs, sizeOf_eq_ok hs'] at hx hy he
  obtain ⟨hc, rfl⟩ := windowRect_eq_ok he
  refine ⟨hc, rfl, ?_, ?_⟩
  · rw [i32From_eq_ok hx]
    exact clampedAxis ..
  · rw [i32From_eq_ok hy]
    exact clampedAxis ..

theorem changedClientFields_eq_ok {d f} (hf : changedClientFields r r' d = .ok f) :
    f.overwrite r.rect = r'.rect := by
  have hs : ∀ {α : Type} [DecidableEq α] (ak : Option α) (b a : α),
      (if ak.isSome ∨ b ≠ a then some a else none).getD b = a := by
    intro α _ ak b a
    split_ifs with h
    · rfl
    · exact not_not.1 (not_or.1 h).2
  simp only [changedClientFields, bind_eq_ok] at hf
  obtain ⟨s, hs1, s', hs2, hf⟩ := hf
  cases hf
  rw [sizeOf_eq_ok hs1, sizeOf_eq_ok hs2]
  simp only [WindowGeometryRequest.overwrite, hs]

/-- What is computed along one axis fits the source's integers: the ends and the frame's origin an
`i64`, the frame's extent a `u64`, and no `u32` difference goes below zero. -/
def AxisFits (x : Int32) (w v l r : UInt32) : Prop :=
  let extent := if v ≤ w then v else w
  x.toInt + w.toNat < 2 ^ 63 ∧ -2 ^ 63 ≤ x.toInt - l.toNat ∧ w.toNat + l.toNat + r.toNat < 2 ^ 64 ∧
    (w - extent).toNat = w.toNat - extent.toNat ∧ (¬ w ≤ v → (w - v).toNat = w.toNat - v.toNat)

theorem axisFits (x : Int32) (w v l r : UInt32) : AxisFits x w v l r := by
  have hx := x.toInt_lt
  have hx' := x.le_toInt
  have hw := w.toNat_lt
  have hl := l.toNat_lt
  have hr := r.toNat_lt
  refine ⟨by omega, by omega, by omega, ?_, fun h => ?_⟩
  · refine UInt32.toNat_sub_of_le _ _ ?_
    split_ifs with h
    · exact h
    · exact UInt32.le_refl w
  · exact UInt32.toNat_sub_of_le _ _ (UInt32.le_of_lt (UInt32.not_le.1 h))

namespace WindowGeometryContext

/-- **Move and resize resolution is exact.** -/
theorem resolveMoveResize_exact (context : WindowGeometryContext) (relativeTo : WindowGeometryTarget)
    (desired : WindowGeometryRequest) (boundsPolicy : WindowScreenBoundsPolicy) (resolved : ResolvedWindowGeometry)
    (h : context.resolveMoveResize relativeTo desired boundsPolicy = .ok resolved) :
    ∃ current, context.targetRect relativeTo = .ok current ∧ let root := context.root.rect
      let requested := desired.overwrite current.rect
      let effective := resolved.effective.rect
      resolved.clientRequest.overwrite context.window.clientRect.rect = resolved.clientRect.rect ∧
      (match relativeTo with
        | .client => resolved.clientRect = resolved.effective
        | .frame => ∃ extents, context.window.frameExtents = some extents ∧
          deriveFrameRect resolved.clientRect extents = .ok resolved.effective) ∧
      (match boundsPolicy with
        | .clampToRoot => Inside root effective ∧ effective.width.toNat = min requested.width.toNat root.width.toNat ∧
          effective.height.toNat = min requested.height.toNat root.height.toNat ∧
          Nearest root.x.toInt root.width.toNat effective.width.toNat requested.x.toInt effective.x.toInt ∧
          Nearest root.y.toInt root.height.toNat effective.height.toNat requested.y.toInt effective.y.toInt ∧
          (resolved.boundsConstrained = false ↔ Inside root requested)
        | .requireInsideRoot => Inside root requested
        | .allowOffscreen => True) ∧
      ∀ x w v l r, AxisFits x w v l r := by
  simp only [resolveMoveResize, bind_eq_ok] at h
  obtain ⟨-, -, current, hcur, cn, hcan, e, heff, c, hcl, f, hf, h⟩ := h
  cases h
  obtain ⟨s, hs, hcan⟩ := bind_eq_ok.1 hcan
  rw [sizeOf_eq_ok hs] at hcan
  obtain ⟨hck, rfl⟩ := windowRect_eq_ok hcan
  refine ⟨current, hcur, changedClientFields_eq_ok hf, ?_, ?_, axisFits⟩
  · cases relativeTo with
    | client => exact (Except.ok.inj hcl).symm
    | frame =>
      simp only [clientOf] at hcl
      split at hcl
      next et he =>
        refine ⟨et, he, deriveFrameRect_frameToClient ?_ hcl⟩
        cases boundsPolicy with
        | allowOffscreen => exact Except.ok.inj heff ▸ hck
        | requireInsideRoot =>
          obtain ⟨b, -, hb⟩ := bind_eq_ok.1 heff
          split_ifs at hb
          exact Except.ok.inj hb ▸ hck
        | clampToRoot => exact (clampRect_eq_ok heff).1
      · cases hcl
  · cases boundsPolicy with
    | allowOffscreen => trivial
    | requireInsideRoot =>
      obtain ⟨b, hb, hi⟩ := bind_eq_ok.1 heff
      split_ifs at hi with hbt
      exact (containsRect_eq_ok hb).1 hbt
    | clampToRoot =>
      obtain ⟨-, hsp, hx, hy⟩ := clampRect_eq_ok heff
      refine ⟨⟨hx.low_le, hy.low_le, hx.le_high, hy.le_high⟩, hx.extent_eq, hy.extent_eq, hx.nearest, hy.nearest, ?_⟩
      have hix := hx.eq_iff
      have hiy := hy.eq_iff
      rw [Int32.toInt_inj] at hix hiy
      obtain ⟨sp, ex, ey, ew, eh⟩ := e
      cases hsp
      simp only [ne_eq, decide_eq_false_iff_not, not_not, WindowRect.mk.injEq, Rect.mk.injEq, true_and]
      constructor
      · rintro ⟨rfl, rfl, rfl, rfl⟩
        exact ⟨(hix.1 ⟨rfl, rfl⟩).1, (hiy.1 ⟨rfl, rfl⟩).1, (hix.1 ⟨rfl, rfl⟩).2, (hiy.1 ⟨rfl, rfl⟩).2⟩
      · intro hi
        obtain ⟨rfl, rfl⟩ := hix.2 ⟨hi.1, hi.2.2.1⟩
        obtain ⟨rfl, rfl⟩ := hiy.2 ⟨hi.2.1, hi.2.2.2⟩
        exact ⟨rfl, rfl, rfl, rfl⟩

def rectAt (x : Int32) : WindowRect := ⟨.rootPhysical, ⟨x, 5, 10, 10⟩⟩

def smallRoot : WindowGeometryContext :=
  ⟨⟨.rootPhysical, ⟨0, 0, 100, 100⟩⟩, ⟨rectAt 5, none, rectAt 5, none⟩, rfl, rfl, rfl, nofun⟩

/-- A window of 10 by 10 pixels, asked to leave a root of 100 by 100, stops at its edge. -/
theorem resolveMoveResize_clamped :
    ∃ resolved, smallRoot.resolveMoveResize .client ⟨some 200, none, none, none⟩ .clampToRoot = .ok resolved ∧
      resolved.effective = rectAt 90 ∧ Inside smallRoot.root.rect resolved.effective.rect := by
  have h : smallRoot.resolveMoveResize .client ⟨some 200, none, none, none⟩ .clampToRoot =
      .ok ⟨rectAt 90, rectAt 90, ⟨some 90, none, none, none⟩, true⟩ := by rfl
  obtain ⟨_, -, -, -, hc, -⟩ := smallRoot.resolveMoveResize_exact _ _ _ _ h
  exact ⟨_, h, rfl, hc.1⟩

end WindowGeometryContext

end Xenoteer
