/-
A subscriber that replays window events: lifecycle events keep a set of live
references, focus events keep the last reported active and focused window.

Both replays stop at an event that does not fit what was told before: a
creation under an XID that is still taken, a destruction of a window that is not
there, a focus change from a window that was not the last reported.
-/
import Mathlib.Data.Finset.Basic
import Xenoteer.Daemon.WindowGlances

namespace Xenoteer

open Glances Lib.Checks

/-- The live references after one more notice. -/
def replayLifecycle (live : Finset WindowRef) : Notice → Option (Finset WindowRef)
  | .event (.lifecycle window _ .created) =>
    if ∀ other ∈ live, other.xid ≠ window.xid then some (insert window live) else none
  | .event (.lifecycle window _ .destroyed) => if window ∈ live then some (live.erase window) else none
  | _ => some live

/-- The last reported windows after one more notice. -/
def replayFocus (last : FocusPair) : Notice → Option FocusPair
  | .event (.focus event) =>
    if last = ⟨event.previousActive, event.previousFocused⟩ then some ⟨event.active, event.focused⟩ else none
  | _ => some last

/-- Neither replay minds the notice. -/
def Notice.isQuiet : Notice → Bool
  | .event (.lifecycle _ _ .created) | .event (.lifecycle _ _ .destroyed) | .event (.focus _) => false
  | _ => true

section Replays

variable {α : Type} {f : α → Notice → Option α} {a : α} {nc : List Notice}

/-- A replay ignores notices that it does not mind. -/
theorem foldlM_ignored (h : ∀ nt ∈ nc, ∀ a, f a nt = some a) : nc.foldlM f a = some a := by
  induction nc with
  | nil => rfl
  | cons nt nc ih =>
    rw [List.foldlM_cons, h nt List.mem_cons_self]
    exact ih fun n hn => h n (List.mem_cons_of_mem nt hn)

theorem replayLifecycle_quiet {n} (h : n.isQuiet) (live) : replayLifecycle live n = some live := by
  unfold Notice.isQuiet at h
  unfold replayLifecycle
  split at h <;> simp_all

theorem replayFocus_quiet {n} (h : n.isQuiet) (l : FocusPair) : replayFocus l n = some l := by
  unfold Notice.isQuiet at h
  unfold replayFocus
  split at h <;> simp_all

theorem quiet_lifecycle (h : ∀ n ∈ nc, n.isQuiet) {live} : nc.foldlM replayLifecycle live = some live :=
  foldlM_ignored fun n hn => replayLifecycle_quiet (h n hn)

theorem quiet_focus (h : ∀ n ∈ nc, n.isQuiet) {last} : nc.foldlM replayFocus last = some last :=
  foldlM_ignored fun n hn => replayFocus_quiet (h n hn)

end Replays

/-! ## What each kind of event does -/

variable {fits : MetadataFits} {rv : WindowModelRevision}

theorem isQuiet_offer {e} (h : (Notice.event e).isQuiet) : (e.offer fits).isQuiet := by
  unfold WindowEvent.offer
  split
  · rfl
  split
  · split
    · rfl
    · rfl
  · exact h

theorem isQuiet_metadataNotices {previous current} :
    ∀ notice ∈ metadataNotices fits previous current rv, notice.isQuiet := by
  intro notice hn
  unfold metadataNotices at hn
  dsimp only at hn
  split at hn
  · cases hn
  · rw [List.mem_singleton.mp hn]
    exact isQuiet_offer rfl

theorem isQuiet_geometryNotices {previous current} :
    ∀ notice ∈ geometryNotices fits previous current rv, notice.isQuiet := by
  intro notice hn
  unfold geometryNotices at hn
  split at hn
  · cases hn
  split at hn
  · rw [List.mem_singleton.mp hn]
    rfl
  · rw [List.mem_singleton.mp hn]
    exact isQuiet_offer rfl

theorem isQuiet_rebuiltNotice {sc b af r i} : (rebuiltNotice fits sc b af r i).isQuiet := by
  unfold rebuiltNotice
  exact isQuiet_offer rfl

variable {wn : WindowRef}

theorem lifecycleNotice_eq (h : wn.validateShape = .ok ()) (k) :
    lifecycleNotice fits wn rv k = .event (.lifecycle wn rv k) := by
  simp [lifecycleNotice, WindowEvent.offer, WindowEvent.validate, h]

theorem replayFocus_lifecycleNotice {kind} (l : FocusPair) :
    replayFocus l (lifecycleNotice fits wn rv kind) = some l := by
  unfold lifecycleNotice WindowEvent.offer
  split <;> rfl

variable {p : FocusPair}

theorem replayLifecycle_focusNotices {sc q live} :
    (focusNotices fits sc p q).foldlM replayLifecycle live = some live := by
  refine foldlM_ignored fun n hn live => ?_
  unfold focusNotices at hn
  split at hn
  · cases hn
  · rw [List.mem_singleton.mp hn]
    unfold WindowEvent.offer
    split <;> rfl

/-- A reference that events of the scope may name. -/
def WindowEventScope.Accepts (scope : WindowEventScope) (window : WindowRef) : Prop :=
  window.validateShape = .ok () ∧ window.desktopId = scope.desktopId ∧
    window.desktopGeneration = scope.desktopGeneration

/-- References that pass the check have identifiers, so the scope has. -/
theorem WindowEventScope.Accepts.ids {sc : WindowEventScope} (h : sc.Accepts wn) :
    sc.desktopId.uuid ≠ 0 ∧ sc.desktopGeneration.uuid ≠ 0 := by
  obtain ⟨hv, hid, hg⟩ := h
  rw [← hid, ← hg]
  constructor <;> intro hn <;> simp [WindowRef.validateShape, hn] at hv <;> cases hv

def FocusPair.windows (p : FocusPair) : List (Option WindowRef) := [p.active, p.focused]

/-- A focus change is told as such. -/
theorem replayFocus_focusNotices (fits : MetadataFits) {sc : WindowEventScope} {q : FocusPair}
    (hp : ∀ wn, some wn ∈ p.windows → sc.Accepts wn) (hq : ∀ wn, some wn ∈ q.windows → sc.Accepts wn) :
    (focusNotices fits sc p q).foldlM replayFocus p = some q := by
  unfold focusNotices
  split
  next heq =>
    subst heq
    rfl
  next hne =>
  have hi : sc.desktopId.uuid ≠ 0 ∧ sc.desktopGeneration.uuid ≠ 0 := by
    by_contra hi
    have hn (r : FocusPair) (h : ∀ wn, some wn ∈ r.windows → sc.Accepts wn) :
        r = ⟨none, none⟩ := by
      obtain ⟨ac, fc⟩ := r
      cases ac with
      | some wn => exact absurd (h wn (by simp [FocusPair.windows])).ids hi
      | none =>
        cases fc with
        | some wn => exact absurd (h wn (by simp [FocusPair.windows])).ids hi
        | none => rfl
    exact hne ((hn p hp).trans (hn q hq).symm)
  have hv : WindowFocusEvent.validate ⟨sc.desktopId, sc.desktopGeneration, sc.modelRevision,
      p.active, q.active, p.focused, q.focused⟩ = .ok () := by
    simp only [WindowFocusEvent.validate, hi, false_or, if_false]
    refine each_eq_ok.mpr fun pr hpa => optional_eq_ok.mpr fun wn hw => ?_
    have ha : sc.Accepts wn := by
      subst hw
      simp only [List.mem_cons, List.not_mem_nil, or_false] at hpa
      rcases hpa with h | h | h | h
      · exact hp wn (by simp [FocusPair.windows, h])
      · exact hq wn (by simp [FocusPair.windows, h])
      · exact hp wn (by simp [FocusPair.windows, h])
      · exact hq wn (by simp [FocusPair.windows, h])
    obtain ⟨hs, hid, hg⟩ := ha
    refine andThen_eq_ok.mpr ⟨hs, ?_⟩
    simp [hid, hg]
  simp [WindowEvent.offer, WindowEvent.validate, hv, replayFocus]

/-! ## Lifecycle events of many windows -/

variable {live : Finset WindowRef} {wd : List WindowRef}

theorem replayLifecycle_destroyed (fits : MetadataFits) (rv : WindowModelRevision)
    (hva : ∀ w ∈ wd, w.validateShape = .ok ()) (hl : ∀ w ∈ wd, w ∈ live) (hn : wd.Nodup) :
    (wd.map fun w => lifecycleNotice fits w rv .destroyed).foldlM replayLifecycle live =
      some (live \ wd.toFinset) := by
  induction wd generalizing live with
  | nil => simp
  | cons w wd ih =>
    obtain ⟨hf, hn⟩ := List.nodup_cons.mp hn
    rw [List.map_cons, List.foldlM_cons, lifecycleNotice_eq (hva w List.mem_cons_self)]
    simp only [replayLifecycle, hl w List.mem_cons_self, if_true, Option.bind_eq_bind, Option.bind_some]
    rw [ih (fun v hv => hva v (List.mem_cons_of_mem w hv)) ?_ hn]
    · congr 1
      ext v
      simp only [Finset.mem_sdiff, Finset.mem_erase, List.mem_toFinset, List.mem_cons]
      tauto
    · intro v hv
      exact Finset.mem_erase.mpr ⟨fun h => hf (h ▸ hv), hl v (List.mem_cons_of_mem w hv)⟩

theorem replayLifecycle_created (fits : MetadataFits) (rv : WindowModelRevision)
    (hva : ∀ w ∈ wd, w.validateShape = .ok ())
    (hf : ∀ w ∈ wd, ∀ v ∈ live, v.xid ≠ w.xid) (hn : (wd.map (·.xid)).Nodup) :
    (wd.map fun w => lifecycleNotice fits w rv .created).foldlM replayLifecycle live =
      some (live ∪ wd.toFinset) := by
  induction wd generalizing live with
  | nil => simp
  | cons w wd ih =>
    obtain ⟨hfi, hn⟩ := List.nodup_cons.mp hn
    rw [List.map_cons, List.foldlM_cons, lifecycleNotice_eq (hva w List.mem_cons_self)]
    have hw : ∀ v ∈ live, v.xid ≠ w.xid := hf w List.mem_cons_self
    simp only [replayLifecycle, if_pos hw, Option.bind_eq_bind, Option.bind_some]
    rw [ih (fun v hv => hva v (List.mem_cons_of_mem w hv)) ?_ hn]
    · congr 1
      ext v
      simp only [Finset.mem_union, Finset.mem_insert, List.mem_toFinset, List.mem_cons]
      tauto
    · intro u hu v hv
      rcases Finset.mem_insert.mp hv with rfl | hv
      · intro h
        exact hfi (List.mem_map.mpr ⟨u, hu, h.symm⟩)
      · exact hf u (List.mem_cons_of_mem w hu) v hv

/-! ## Committed changes -/

/-- The references of the windows there. -/
def IsLiveSet (live : Finset WindowRef) (g : Glances) : Prop := ∀ window, window ∈ live ↔ g.Has window

theorem IsLiveSet.unique {live' g} (h : IsLiveSet live g) (h' : IsLiveSet live' g) : live = live' :=
  Finset.ext fun wn => (h wn).trans (h' wn).symm

/-- A window that is seen again has the reference it had. -/
theorem IsLiveSet.refresh {g x} (h : IsLiveSet live g) (hx : g.Has x.window) :
    IsLiveSet live (Function.update g x.window.xid (some x)) := by
  intro w
  refine (h w).trans (Iff.trans ?_ has_update_iff.symm)
  constructor
  · intro hw
    by_cases hxi : w.xid = x.window.xid
    · exact .inl (hw.eq_of_xid hx hxi)
    · exact .inr ⟨hxi, hw⟩
  · rintro (rfl | ⟨-, hw⟩)
    · exact hx
    · exact hw

theorem IsLiveSet.insert {g x} (h : IsLiveSet live g) (hx : ∀ v ∈ live, v.xid ≠ x.window.xid) :
    IsLiveSet (insert x.window live) (Function.update g x.window.xid (some x)) := by
  intro w
  rw [Finset.mem_insert, h w, has_update_iff]
  refine or_congr_right ⟨fun hw => ⟨?_, hw⟩, And.right⟩
  exact hx w ((h w).mpr hw)

theorem IsLiveSet.erase {g w} (h : IsLiveSet live g) (hw : g.Has w) :
    IsLiveSet (live.erase w) (Function.update g w.xid none) := by
  intro v
  rw [Finset.mem_erase, h v, has_erase_iff]
  refine and_congr_left fun hv => not_congr ⟨fun heq => heq ▸ rfl, fun hxi => ?_⟩
  exact hv.eq_of_xid hw hxi

/-- The windows there are ones the scope may tell of. -/
def WindowEventScope.Covers (scope : WindowEventScope) (g : Glances) : Prop :=
  ∀ window, g.Has window → scope.Accepts window

/-- What one view shows and another does not. -/
theorem mem_unmatched {v u : CommittedView} (hk : v.glances.Keyed) (w : WindowRef) :
    w ∈ (v.snapshots.filter fun s => (u.same s).isNone).map (·.window) ↔
      v.glances.Has w ∧ ¬ u.glances.Has w := by
  simp only [List.mem_map, List.mem_filter, CommittedView.same_isNone_iff,
    (CommittedView.shows_snapshots hk).has_iff]
  constructor
  · rintro ⟨s, ⟨hs, hn⟩, rfl⟩
    exact ⟨⟨s, hs, rfl⟩, hn⟩
  · rintro ⟨⟨s, hs, rfl⟩, hn⟩
    exact ⟨s, ⟨hs, hn⟩, rfl⟩

theorem nodup_unmatched {v u : CommittedView} (hk : v.glances.Keyed) :
    (((v.snapshots.filter fun s => (u.same s).isNone).map (·.window)).map (·.xid)).Nodup := by
  rw [List.map_map]
  refine List.pairwise_map.mpr (((CommittedView.shows_snapshots hk).sorted.filter _).imp fun hlt heq => ?_)
  exact UInt32.ne_of_lt (Std.compare_eq_lt.mp hlt) heq

/-- The last reported windows are an active and a focused one. -/
def FocusPair.Reported (p : FocusPair) (g : Glances) : Prop :=
  Reports Glance.active p.active g ∧ Reports Glance.focused p.focused g

/-- They are the ones that `focus_projection` finds. -/
def FocusPair.Projected (p : FocusPair) (g : Glances) : Prop :=
  Lowest Glance.active p.active g ∧ Lowest Glance.focused p.focused g

theorem FocusPair.Projected.unique {q g} (hp : p.Projected g) (hq : q.Projected g) : p = q := by
  obtain ⟨pa, pf⟩ := p
  obtain ⟨qa, qf⟩ := q
  obtain rfl := hp.1.unique hq.1
  obtain rfl := hp.2.unique hq.2
  rfl

theorem FocusPair.Projected.reported {g} (h : p.Projected g) : p.Reported g := ⟨h.1.1, h.2.1⟩

theorem Glances.Shows.projected {s g} (h : Shows s g) : (focusProjection s).Projected g :=
  ⟨h.lowest, h.lowest⟩

/-- One window told by itself, with the flags it is left with. -/
structure Refresh where
  xid : UInt32
  active : Bool
  focused : Bool

def Refresh.Unshadowed (r : Refresh) (snapshots : List WindowSnapshot) : Prop :=
  Glances.Unshadowed Glance.active snapshots r.xid r.active ∧
    Glances.Unshadowed Glance.focused snapshots r.xid r.focused

instance {sn} : DecidablePred (Refresh.Unshadowed · sn) := fun _ => inferInstanceAs (Decidable (_ ∧ _))

theorem FocusPair.Projected.accepts {sc : WindowEventScope} {g : Glances} (hp : p.Projected g)
    (hg : sc.Covers g) : ∀ wn, some wn ∈ p.windows → sc.Accepts wn := by
  intro wn hw
  simp only [FocusPair.windows, List.mem_cons, List.not_mem_nil, or_false] at hw
  rcases hw with hw | hw
  · exact hg wn (hp.1.1.has hw.symm)
  · exact hg wn (hp.2.1.has hw.symm)

section Transition

variable {sc : WindowEventScope} {b af : CommittedView} {pl : ReconcileEventPolicy}

/-- The notices of a transition, with those that no replay minds gathered. -/
theorem transitionNotices_eq {fits sc b af} (hp : pl ≠ .initialBaseline) :
    ∃ quiet quiet', (∀ notice ∈ quiet, notice.isQuiet) ∧ (∀ notice ∈ quiet', notice.isQuiet) ∧
      transitionNotices fits sc b af pl =
        ((b.snapshots.filter fun s => (af.same s).isNone).map (·.window)).map
            (fun w => lifecycleNotice fits w af.revision .destroyed) ++
          ((af.snapshots.filter fun s => (b.same s).isNone).map (·.window)).map
            (fun w => lifecycleNotice fits w af.revision .created) ++ quiet ++
          focusNotices fits sc (focusProjection b.snapshots) (focusProjection af.snapshots) ++
          quiet' := by
  rw [transitionNotices, if_neg hp]
  simp only [List.map_map]
  refine ⟨_, _, ?_, ?_, List.append_assoc _ _ _⟩
  · intro notice hn
    obtain ⟨s, -, hn⟩ := List.mem_flatMap.mp hn
    split at hn
    · exact isQuiet_metadataNotices notice hn
    · cases hn
  · intro notice hn
    rcases List.mem_append.mp hn with hn | hn
    · obtain ⟨s, -, hn⟩ := List.mem_flatMap.mp hn
      split at hn
      · exact isQuiet_geometryNotices notice hn
      · cases hn
    · cases pl with
      | rebuilt reason =>
        rw [List.mem_singleton.mp hn]
        exact isQuiet_rebuiltNotice
      | incremental | initialBaseline => cases hn

/-- The lifecycle events of a transition take the live set before to the one after. -/
theorem transition_lifecycle (hp : pl ≠ .initialBaseline) (hkb : b.glances.Keyed)
    (hka : af.glances.Keyed) (hb : sc.Covers b.glances) (ha : sc.Covers af.glances)
    (hl : IsLiveSet live b.glances) :
    ∃ live', (transitionNotices fits sc b af pl).foldlM replayLifecycle live = some live' ∧
      IsLiveSet live' af.glances := by
  obtain ⟨quiet, quiet', hq, hq', heq⟩ := transitionNotices_eq hp
  set gone := (b.snapshots.filter fun s => (af.same s).isNone).map (·.window)
  set new := (af.snapshots.filter fun s => (b.same s).isNone).map (·.window)
  have hm : ∀ w, w ∈ gone ↔ b.glances.Has w ∧ ¬ af.glances.Has w := mem_unmatched hkb
  have hme : ∀ w, w ∈ new ↔ af.glances.Has w ∧ ¬ b.glances.Has w := mem_unmatched hka
  have hnd : gone.Nodup := (nodup_unmatched hkb).of_map
  refine ⟨live \ gone.toFinset ∪ new.toFinset, ?_, ?_⟩
  · have hf : ∀ w ∈ new, ∀ v ∈ live \ gone.toFinset, v.xid ≠ w.xid := by
      -- a window that stays and a new one never share an XID
      intro w hw v hv hx
      obtain ⟨hv, hst⟩ := Finset.mem_sdiff.mp hv
      rw [List.mem_toFinset, hm] at hst
      have hvb := (hl v).mp hv
      have hva : af.glances.Has v := by
        by_contra h
        exact hst ⟨hvb, h⟩
      obtain ⟨hwa, hwb⟩ := (hme w).mp hw
      exact hwb (hva.eq_of_xid hwa hx ▸ hvb)
    have hd := replayLifecycle_destroyed fits af.revision
      (fun w hw => (hb w ((hm w).mp hw).1).1)
      (fun w hw => (hl w).mpr ((hm w).mp hw).1) hnd
    have hc := replayLifecycle_created fits af.revision
      (fun w hw => (ha w ((hme w).mp hw).1).1) hf (nodup_unmatched hka)
    rw [heq]
    simp only [List.foldlM_append, hd, hc, Option.bind_eq_bind, Option.bind_some,
      quiet_lifecycle hq, quiet_lifecycle hq', replayLifecycle_focusNotices]
  · intro w
    rw [Finset.mem_union, Finset.mem_sdiff, List.mem_toFinset, List.mem_toFinset, hm, hme, hl w]
    tauto

theorem transition_focus (hp : pl ≠ .initialBaseline) (hkb : b.glances.Keyed)
    (hka : af.glances.Keyed) (hb : sc.Covers b.glances) (ha : sc.Covers af.glances) :
    (transitionNotices fits sc b af pl).foldlM replayFocus (focusProjection b.snapshots) =
      some (focusProjection af.snapshots) := by
  obtain ⟨quiet, quiet', hq, hq', heq⟩ := transitionNotices_eq hp
  have hi (ws : List WindowRef) (kind : WindowLifecycleKind) (p : FocusPair) :
      (ws.map fun w => lifecycleNotice fits w af.revision kind).foldlM replayFocus p = some p := by
    refine foldlM_ignored fun notice hn last => ?_
    obtain ⟨w, -, rfl⟩ := List.mem_map.mp hn
    exact replayFocus_lifecycleNotice last
  have hf := replayFocus_focusNotices fits
    ((CommittedView.shows_snapshots hkb).projected.accepts hb)
    ((CommittedView.shows_snapshots hka).projected.accepts ha)
  rw [heq]
  simp only [List.foldlM_append, hi, Option.bind_eq_bind, Option.bind_some, quiet_focus hq,
    quiet_focus hq', hf]

end Transition

/-! ## Any committed change -/

/-- What a committed change from the windows `g` to the windows `g'` tells, where one window may
be told by itself. -/
inductive Tells (fits : MetadataFits) (scope : WindowEventScope) (refresh : Option Refresh) (g g' : Glances) :
    List Notice → Prop
  | nothing (hg : g' = g) : Tells fits scope refresh g g' []
  | transition {before after : CommittedView} {policy : ReconcileEventPolicy} (hpolicy : policy ≠ .initialBaseline)
      (hb : before.glances = g) (ha : after.glances = g') :
      Tells fits scope refresh g g' (transitionNotices fits scope before after policy)
  | observation {snapshots : List WindowSnapshot} {previous : Option WindowSnapshot} {current : WindowSnapshot}
      (hrefresh : ⟨current.window.xid, current.state.active, current.state.focused⟩ ∈ refresh)
      (hshow : Shows snapshots g) (habsent : previous = none → g current.window.xid = none)
      (hsame : ∀ p, previous = some p → g.Has current.window)
      (hg : g' = Function.update g current.window.xid (some current.glance)) :
      Tells fits scope refresh g g' (observationNotices fits scope (focusProjection snapshots) previous current)
  | removal {snapshots : List WindowSnapshot} {previous : WindowSnapshot}
      (hrefresh : ⟨previous.window.xid, false, false⟩ ∈ refresh) (hshow : Shows snapshots g)
      (hmem : previous ∈ snapshots) (hg : g' = Function.update g previous.window.xid none) :
      Tells fits scope refresh g g' (removalNotices fits scope (focusProjection snapshots) previous)
  | resync {notices : List Notice} (h : Tells fits scope refresh g g' notices) :
      Tells fits scope refresh g g' (.resync :: notices)

variable {sc : WindowEventScope} {rf : Option Refresh} {g g' : Glances} {nc : List Notice}

/-- Replaying what a change tells takes the live references before to those after. -/
theorem Tells.lifecycle (h : Tells fits sc rf g g' nc) (hk : g.Keyed) (hk' : g'.Keyed) (hg : sc.Covers g)
    (hg' : sc.Covers g') (hl : IsLiveSet live g) :
    ∃ live', nc.foldlM replayLifecycle live = some live' ∧ IsLiveSet live' g' := by
  induction h with
  | resync _ ih => exact ih
  | nothing heq => exact ⟨live, rfl, heq ▸ hl⟩
  | transition hpo hb ha =>
    subst hb ha
    exact transition_lifecycle hpo hk hk' hg hg' hl
  | @observation snapshots previous current _ hs hab hsa heq =>
    subst heq
    cases previous with
    | some p =>
      refine ⟨live, ?_, hl.refresh (x := current.glance) (hsa p rfl)⟩
      simp only [observationNotices, List.foldlM_append, quiet_lifecycle isQuiet_metadataNotices,
        quiet_lifecycle isQuiet_geometryNotices, replayLifecycle_focusNotices, Option.bind_eq_bind,
        Option.bind_some]
    | none =>
      have hf : ∀ v ∈ live, v.xid ≠ current.window.xid := by
        intro v hv hxi
        obtain ⟨x, hx, -⟩ := (hl v).mp hv
        rw [hxi, hab rfl] at hx
        cases hx
      have hc : sc.Accepts current.window := hg' _ ⟨current.glance, Function.update_self .., rfl⟩
      refine ⟨insert current.window live, ?_, hl.insert (x := current.glance) hf⟩
      simp only [observationNotices, List.foldlM_append, List.foldlM_cons, List.foldlM_nil,
        lifecycleNotice_eq hc.1, replayLifecycle, if_pos hf, replayLifecycle_focusNotices,
        Option.bind_eq_bind, Option.bind_some, Option.pure_def]
  | @removal snapshots previous _ hs hm heq =>
    subst heq
    have hp : g.Has previous.window := hs.has_iff.mpr ⟨previous, hm, rfl⟩
    refine ⟨live.erase previous.window, ?_, hl.erase hp⟩
    simp only [removalNotices, List.foldlM_cons, lifecycleNotice_eq (hg _ hp).1, replayLifecycle,
      (hl _).mpr hp, if_true, Option.bind_eq_bind, Option.bind_some, replayLifecycle_focusNotices]

/-- While a window told by itself is not shadowed, what a change tells starts from what
`focus_projection` finds before and ends in what it finds after. -/
theorem Tells.focus (h : Tells fits sc rf g g' nc) (hk : g.Keyed) (hk' : g'.Keyed) (hg : sc.Covers g)
    (hg' : sc.Covers g') {sn} (hsn : Shows sn g) (hu : ∀ r ∈ rf, r.Unshadowed sn) :
    ∃ last, nc.foldlM replayFocus (focusProjection sn) = some last ∧ last.Projected g' := by
  induction h with
  | resync _ ih => exact ih
  | nothing heq => exact ⟨_, rfl, heq ▸ hsn.projected⟩
  | @transition b af pl hp hb ha =>
    subst hb ha
    rw [hsn.projected.unique (CommittedView.shows_snapshots hk).projected]
    exact ⟨_, transition_focus hp hk hk' hg hg', (CommittedView.shows_snapshots hk').projected⟩
  | @observation snapshots previous current hr hs hab hsa heq =>
    subst heq
    obtain ⟨hua, huf⟩ := hu _ hr
    have hn : FocusPair.Projected ⟨focusAfter current.state.active current.window (focusProjection sn).active,
        focusAfter current.state.focused current.window (focusProjection sn).focused⟩
        (Function.update g current.window.xid (some current.glance)) :=
      ⟨hsn.refresh (x := current.glance) hua, hsn.refresh (x := current.glance) huf⟩
    have hf := replayFocus_focusNotices fits (hsn.projected.accepts hg) (hn.accepts hg')
    rw [hs.projected.unique hsn.projected]
    refine ⟨_, ?_, hn⟩
    cases previous with
    | some p =>
      simp only [observationNotices, List.foldlM_append, quiet_focus isQuiet_metadataNotices,
        quiet_focus isQuiet_geometryNotices, hf, Option.bind_eq_bind, Option.bind_some]
    | none =>
      simp only [observationNotices, List.foldlM_append, List.foldlM_cons, List.foldlM_nil,
        replayFocus_lifecycleNotice, hf, Option.bind_eq_bind, Option.bind_some, Option.pure_def]
  | @removal snapshots previous hr hs hm heq =>
    subst heq
    obtain ⟨hua, huf⟩ := hu _ hr
    have hn : FocusPair.Projected ⟨focusAfter false previous.window (focusProjection sn).active,
        focusAfter false previous.window (focusProjection sn).focused⟩
        (Function.update g previous.window.xid none) :=
      ⟨hsn.without hua (by simp), hsn.without huf (by simp)⟩
    have hf := replayFocus_focusNotices fits (hsn.projected.accepts hg) (hn.accepts hg')
    rw [hs.projected.unique hsn.projected]
    refine ⟨_, ?_, hn⟩
    simp only [removalNotices, List.foldlM_cons, replayFocus_lifecycleNotice, hf, Option.bind_eq_bind,
      Option.bind_some]

end Xenoteer
