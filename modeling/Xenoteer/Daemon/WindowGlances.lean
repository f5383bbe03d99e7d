/-
What window events tell of a set of windows: which birth each XID has, and
which window is active and focused (`Glance`).

A model, a committed view and a list of snapshots are compared through their
glances. `Reports` relates the window a subscriber believes active to them, and
`Lowest` the one that `focus_projection` finds. A window refreshed by itself
moves the two alike unless another has the flag in its place (`Unshadowed`).
-/
import Mathlib.Logic.Function.Basic
import Xenoteer.Daemon.WindowEvents
import Xenoteer.Window.Identity

namespace Xenoteer

open Lib.TreeMapKeys

structure Glance where
  window : WindowRef
  active : Bool
  focused : Bool
deriving DecidableEq

def WindowSnapshot.glance (s : WindowSnapshot) : Glance := ⟨s.window, s.state.active, s.state.focused⟩

abbrev Glances := UInt32 → Option Glance

def WindowModel.glances (m : WindowModel) : Glances := fun xid => m.live[xid]?.map (·.snapshot.glance)

def CommittedView.glances (v : CommittedView) : Glances := fun xid => v.windows[xid]?.map (·.glance)

namespace Glances

/-- Each window is filed under its own XID. -/
def Keyed (g : Glances) : Prop := ∀ xid x, g xid = some x → x.window.xid = xid

/-- The window of the reference is there. -/
def Has (g : Glances) (window : WindowRef) : Prop := ∃ x, g window.xid = some x ∧ x.window = window

/-- The list has the windows of `g` and no others, in XID order. -/
structure Shows (snapshots : List WindowSnapshot) (g : Glances) : Prop where
  iff : ∀ xid x, g xid = some x ↔ ∃ s ∈ snapshots, s.window.xid = xid ∧ s.glance = x
  sorted : snapshots.Pairwise fun s t => compare s.window.xid t.window.xid = .lt

variable {g g' : Glances} {wn : WindowRef} {sn : List WindowSnapshot}

theorem Has.eq_of_xid {o} (h : g.Has wn) (h' : g.Has o) (hxi : wn.xid = o.xid) : wn = o := by
  obtain ⟨x, hx, rfl⟩ := h
  obtain ⟨y, hy, rfl⟩ := h'
  rw [hxi, hy] at hx
  cases hx
  rfl

theorem Shows.of_mem (h : Shows sn g) {s} (hs : s ∈ sn) : g s.window.xid = some s.glance :=
  (h.iff _ _).mpr ⟨s, hs, rfl, rfl⟩

theorem Shows.has_iff (h : Shows sn g) : g.Has wn ↔ ∃ s ∈ sn, s.window = wn := by
  constructor
  · rintro ⟨x, hx, rfl⟩
    obtain ⟨s, hs, -, rfl⟩ := (h.iff _ x).mp hx
    exact ⟨s, hs, rfl⟩
  · rintro ⟨s, hs, rfl⟩
    exact ⟨_, h.of_mem hs, rfl⟩

/-- The window of an XID is found by it. -/
theorem Shows.find_xid (h : Shows sn g) (xid : UInt32) :
    g xid = (sn.find? (·.window.xid = xid)).map (·.glance) := by
  cases hf : sn.find? (·.window.xid = xid) with
  | some s =>
    have hxi : s.window.xid = xid := by simpa using List.find?_some hf
    rw [← hxi]
    exact h.of_mem (List.mem_of_find?_eq_some hf)
  | none =>
    refine Option.eq_none_iff_forall_ne_some.mpr fun x hx => ?_
    obtain ⟨s, hs, hxi, -⟩ := (h.iff xid x).mp hx
    simpa [hxi] using List.find?_eq_none.mp hf s hs

theorem has_update_iff {x} : Has (Function.update g x.window.xid (some x)) wn ↔
      wn = x.window ∨ wn.xid ≠ x.window.xid ∧ g.Has wn := by
  by_cases hx : wn.xid = x.window.xid
  · simp only [Has, hx, Function.update_self, Option.some.injEq, exists_eq_left', ne_eq, not_true_eq_false,
      false_and, or_false]
    exact eq_comm
  · have hne : wn ≠ x.window := fun h => hx (h ▸ rfl)
    simp [Has, hne, hx]

theorem has_erase_iff {xid} : Has (Function.update g xid none) wn ↔ wn.xid ≠ xid ∧ g.Has wn := by
  by_cases hx : wn.xid = xid
  · simp [Has, hx]
  · simp [Has, hx]

/-- The windows seen one after the other, a later one in place of an earlier. -/
def overlay (g : Glances) (seen : List Glance) : Glances :=
  seen.foldl (fun g x => Function.update g x.window.xid (some x)) g

variable {seen : List Glance}

@[simp] theorem overlay_cons {x} :
    g.overlay (x :: seen) = overlay (Function.update g x.window.xid (some x)) seen := rfl

/-- Only what is not seen is as it was. -/
theorem overlay_congr (h : ∀ xid, (∀ x ∈ seen, x.window.xid ≠ xid) → g xid = g' xid) :
    g.overlay seen = g'.overlay seen := by
  induction seen generalizing g g' with
  | nil => exact funext fun xid => h xid (by simp)
  | cons x seen ih =>
    refine ih fun xid hx => ?_
    dsimp only
    by_cases heq : xid = x.window.xid
    · subst heq
      simp
    · rw [Function.update_of_ne heq, Function.update_of_ne heq]
      exact h xid (by simpa using ⟨Ne.symm heq, hx⟩)

theorem overlay_cases {xid x} (h : g.overlay seen xid = some x) :
    x ∈ seen ∧ x.window.xid = xid ∨ g xid = some x := by
  induction seen generalizing g with
  | nil => exact .inr h
  | cons y seen ih =>
    rcases ih h with ⟨hx, hxi⟩ | hx
    · exact .inl ⟨List.mem_cons_of_mem y hx, hxi⟩
    dsimp only at hx
    by_cases heq : xid = y.window.xid
    · subst heq
      rw [Function.update_self] at hx
      cases hx
      exact .inl ⟨List.mem_cons_self, rfl⟩
    · exact .inr (by rwa [Function.update_of_ne heq] at hx)

/-- Windows seen as they were change nothing. -/
theorem overlay_of_same (h : ∀ x ∈ seen, g x.window.xid = some x) : g.overlay seen = g := by
  induction seen with
  | nil => rfl
  | cons x seen ih =>
    rw [overlay_cons, Function.update_eq_self_iff.mpr (h x List.mem_cons_self).symm]
    exact ih fun y hy => h y (List.mem_cons_of_mem x hy)

/-! ## Active and focused windows -/

/-- The window reported to have the flag has it, and none is reported only when none has. -/
def Reports (flag : Glance → Bool) (reported : Option WindowRef) (g : Glances) : Prop :=
  (∀ window, reported = some window → ∃ x, g window.xid = some x ∧ x.window = window ∧ flag x) ∧
    (reported = none → ∀ xid x, g xid = some x → flag x = false)

variable {flag : Glance → Bool} {rp rp' : Option WindowRef}

theorem Reports.has (h : Reports flag rp g) (hw : rp = some wn) : g.Has wn := by
  obtain ⟨x, hx, hs, -⟩ := h.1 wn hw
  exact ⟨x, hx, hs⟩

/-- The first window with the flag. -/
theorem Shows.reports (h : Shows sn g) :
    Reports flag ((sn.find? fun s => flag s.glance).map (·.window)) g := by
  constructor
  · intro wn hw
    obtain ⟨s, hs, rfl⟩ := Option.map_eq_some_iff.mp hw
    have hf : flag s.glance := List.find?_some (p := fun s : WindowSnapshot => flag s.glance) hs
    exact ⟨s.glance, h.of_mem (List.mem_of_find?_eq_some hs), rfl, hf⟩
  · intro hn xid x hx
    obtain ⟨s, hs, -, rfl⟩ := (h.iff xid x).mp hx
    rw [Option.map_eq_none_iff] at hn
    simpa using List.find?_eq_none.mp hn s hs

/-- The reported window has the lowest XID of those with the flag. -/
def Lowest (flag : Glance → Bool) (reported : Option WindowRef) (g : Glances) : Prop :=
  Reports flag reported g ∧
    ∀ window, reported = some window → ∀ xid x, g xid = some x → flag x → window.xid ≤ xid

theorem Lowest.unique (h : Lowest flag rp g) (h' : Lowest flag rp' g) : rp = rp' := by
  cases rp with
  | none =>
    cases rp' with
    | none => rfl
    | some wn =>
      obtain ⟨x, hx, -, hf⟩ := h'.1.1 wn rfl
      rw [h.1.2 rfl _ x hx] at hf
      cases hf
  | some wn =>
    obtain ⟨x, hx, rfl, hf⟩ := h.1.1 wn rfl
    cases rp' with
    | none =>
      rw [h'.1.2 rfl _ x hx] at hf
      cases hf
    | some w' =>
      obtain ⟨x', hx', rfl, hf'⟩ := h'.1.1 w' rfl
      rw [UInt32.le_antisymm (h.2 _ rfl _ x' hx' hf') (h'.2 _ rfl _ x hx hf), hx'] at hx
      cases hx
      rfl

theorem Shows.lowest (h : Shows sn g) : Lowest flag ((sn.find? fun s => flag s.glance).map (·.window)) g := by
  refine ⟨h.reports, fun wn hw xid x hx hf => ?_⟩
  obtain ⟨first, hfi, rfl⟩ := Option.map_eq_some_iff.mp hw
  obtain ⟨-, before, after, rfl, hno⟩ := List.find?_eq_some_iff_append.mp hfi
  obtain ⟨s, hs, rfl, rfl⟩ := (h.iff xid x).mp hx
  rcases List.mem_append.mp hs with hs | hs
  · have hn := hno s hs
    rw [hf] at hn
    cases hn
  rcases List.mem_cons.mp hs with rfl | hs
  · exact UInt32.le_refl _
  · have hlt := List.rel_of_pairwise_cons (List.pairwise_append.mp h.sorted).2.1 hs
    exact UInt32.le_of_lt (Std.compare_eq_lt.mp hlt)

section Refresh

/-- The window of the XID takes the flag with no lower one that has it, or gives it up as the
lowest with no other. -/
def Unshadowed (flag : Glance → Bool) (snapshots : List WindowSnapshot) (xid : UInt32) : Bool → Prop
  | true => ∀ s ∈ snapshots, flag s.glance → xid ≤ s.window.xid
  | false => ∀ first ∈ snapshots.find? (flag ·.glance), first.window.xid = xid →
      ∀ s ∈ snapshots, flag s.glance → s.window.xid = xid

instance {xid} : DecidablePred (Unshadowed flag sn xid)
  | true => inferInstanceAs (Decidable (∀ _ ∈ _, _))
  | false => inferInstanceAs (Decidable (∀ _ ∈ _, _))

/-- A window that has not the flag, or is gone, takes the report with it. -/
theorem Shows.without (h : Shows sn g) (hu : Unshadowed flag sn wn.xid false) {c}
    (hc : ∀ y, c = some y → flag y = false) :
    Lowest flag (focusAfter false wn ((sn.find? (flag ·.glance)).map (·.window)))
      (Function.update g wn.xid c) := by
  have ho {xid y} (hy : Function.update g wn.xid c xid = some y) (hf : flag y) :
      xid ≠ wn.xid ∧ g xid = some y := by
    by_cases hx : xid = wn.xid
    · rw [hx, Function.update_self] at hy
      rw [hc y hy] at hf
      cases hf
    · exact ⟨hx, by rwa [Function.update_of_ne hx] at hy⟩
  have hl : Lowest flag _ g := h.lowest
  simp only [focusAfter, Bool.false_eq_true, if_false]
  refine ⟨⟨?_, ?_⟩, ?_⟩
  · intro w hw
    obtain ⟨hr, hne⟩ := Option.filter_eq_some_iff.mp hw
    obtain ⟨x, hx, hs, hf⟩ := hl.1.1 w hr
    have hne : w.xid ≠ wn.xid := by simpa using hne
    exact ⟨x, by rwa [Function.update_of_ne hne], hs, hf⟩
  · intro hn xid y hy
    by_contra hf
    obtain ⟨hne, hy⟩ := ho hy (by simpa using hf)
    obtain ⟨s, hs, rfl, rfl⟩ := (h.iff xid y).mp hy
    cases hfi : sn.find? (flag ·.glance) with
    | none => exact List.find?_eq_none.mp hfi s hs (by simpa using hf)
    | some first =>
      -- the window that was reported is this one, and no other has the flag
      have hx : first.window.xid = wn.xid := by simpa [hfi] using hn
      exact hne (hu first hfi hx s hs (by simpa using hf))
  · intro w hw xid y hy hf
    exact hl.2 w (Option.filter_eq_some_iff.mp hw).1 xid y (ho hy hf).2 hf

theorem Shows.refresh {x : Glance} (h : Shows sn g) (hu : Unshadowed flag sn x.window.xid (flag x)) :
    Lowest flag (focusAfter (flag x) x.window ((sn.find? (flag ·.glance)).map (·.window)))
      (Function.update g x.window.xid (some x)) := by
  cases hf : flag x with
  | false =>
    refine h.without (hf ▸ hu) ?_
    rintro y ⟨⟩
    exact hf
  | true =>
    rw [hf] at hu
    refine ⟨⟨?_, fun hn => by simp [focusAfter] at hn⟩, ?_⟩
    all_goals
      intro w hw
      simp only [focusAfter, if_true, Option.some.injEq] at hw
      subst hw
    · exact ⟨x, by simp, rfl, hf⟩
    · intro xid y hy hfy
      by_cases hx : xid = x.window.xid
      · exact hx ▸ UInt32.le_refl _
      rw [Function.update_of_ne hx] at hy
      obtain ⟨s, hs, rfl, rfl⟩ := (h.iff xid y).mp hy
      exact hu s hs hfy

end Refresh

end Glances

/-! ## Views and models -/

namespace CommittedView

open Glances

/-- The windows of a view are filed under their own XIDs. -/
theorem new_glances (r sn) :
    (CommittedView.new r sn).glances = overlay (fun _ => none) (sn.map (·.glance)) := by
  have hf : ∀ (sn : List WindowSnapshot) (w : Std.TreeMap UInt32 WindowSnapshot compare),
      (fun xid => (sn.foldl (fun w s => w.insert s.window.xid s) w)[xid]?.map
        (·.glance)) = overlay (fun xid => w[xid]?.map (·.glance)) (sn.map (·.glance)) := by
    intro sn
    induction sn with
    | nil => intro w; rfl
    | cons s sn ih =>
      intro w
      rw [List.foldl_cons, ih, List.map_cons, overlay_cons]
      congr 1
      funext xid
      by_cases hx : xid = s.window.xid
      · subst hx
        simp [WindowSnapshot.glance]
      · have hne : xid ≠ s.glance.window.xid := hx
        rw [Function.update_of_ne hne, getElem?_insert_ne hx]
  refine (hf sn ∅).trans ?_
  simp

theorem new_keyed {r sn} : (CommittedView.new r sn).glances.Keyed := by
  intro xid x hx
  rw [new_glances] at hx
  rcases overlay_cases hx with ⟨-, hxi⟩ | hx
  · exact hxi
  · cases hx

theorem shows_snapshots {v : CommittedView} (hk : v.glances.Keyed) : Shows v.snapshots v.glances := by
  refine ⟨fun xid x => ?_, pairwise_values fun xid s hs => hk xid s.glance (by simp [CommittedView.glances, hs])⟩
  simp only [CommittedView.glances, CommittedView.snapshots, Option.map_eq_some_iff, List.mem_map, Prod.exists,
    Std.TreeMap.mem_toList_iff_getElem?_eq_some]
  constructor
  · rintro ⟨s, hs, rfl⟩
    exact ⟨s, ⟨xid, s, hs, rfl⟩, hk xid s.glance (by simp [CommittedView.glances, hs]), rfl⟩
  · rintro ⟨_, ⟨xid', s, hs, rfl⟩, rfl, rfl⟩
    have hx : s.window.xid = xid' := hk xid' s.glance (by simp [CommittedView.glances, hs])
    exact ⟨s, by rw [hx, hs], rfl⟩

/-- A view of the snapshots that show `g` has the glances of `g`. -/
theorem glances_of_shows {g r sn} (h : Shows sn g) : (CommittedView.new r sn).glances = g := by
  have hse : overlay (fun _ => none) (sn.map (·.glance)) = g.overlay (sn.map (·.glance)) := by
    refine overlay_congr fun xid hxi => ?_
    refine (Option.eq_none_iff_forall_ne_some.mpr fun x hx => ?_).symm
    obtain ⟨s, hs, hsa, -⟩ := (h.iff xid x).mp hx
    exact hxi s.glance (List.mem_map_of_mem hs) hsa
  rw [new_glances, hse, overlay_of_same]
  intro x hx
  obtain ⟨s, hs, rfl⟩ := List.mem_map.mp hx
  exact h.of_mem hs

theorem same_isNone_iff {v : CommittedView} {s : WindowSnapshot} :
    (v.same s).isNone ↔ ¬ v.glances.Has s.window := by
  simp only [CommittedView.same, Has, CommittedView.glances, WindowSnapshot.glance]
  cases v.windows[s.window.xid]? <;> simp

end CommittedView

namespace WindowModel

open Glances

variable {m : WindowModel}

theorem has_glances_iff {wn} : m.glances.Has wn ↔ m.IsLive wn := by
  simp [Has, IsLive, glances, WindowSnapshot.glance]

theorem Sound.keyed_glances (hs : m.Sound) : m.glances.Keyed := by
  intro xid x hx
  obtain ⟨e, he, rfl⟩ := Option.map_eq_some_iff.mp hx
  exact hs.keyed he

/-- What `snapshot_all` returns shows the model. -/
theorem Sound.shows (hs : m.Sound) : Shows (m.liveWindows.map (projectSnapshot · m.revision)) m.glances := by
  refine ⟨fun xid x => ?_, List.pairwise_map.mpr (pairwise_values fun _ _ he => hs.keyed he)⟩
  simp only [glances, Option.map_eq_some_iff, liveWindows, List.mem_map, Prod.exists,
    Std.TreeMap.mem_toList_iff_getElem?_eq_some]
  constructor
  · rintro ⟨e, he, rfl⟩
    exact ⟨_, ⟨e, ⟨xid, e, he, rfl⟩, rfl⟩, hs.keyed he, rfl⟩
  · rintro ⟨_, ⟨_, ⟨xid', e, he, rfl⟩, rfl⟩, rfl, rfl⟩
    have hx : e.snapshot.window.xid = xid' := hs.keyed he
    exact ⟨e, by rw [← he, ← hx]; rfl, rfl⟩

end WindowModel

end Xenoteer
