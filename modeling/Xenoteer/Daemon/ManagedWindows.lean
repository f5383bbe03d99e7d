/-
Which windows carry a managed process, under the operations of the model: only
`replace_process_correlations` gives a window one, and an invalidation that returns
takes them all away.

The lemmas are about every exit of an operation, since what it stored before an
error stays stored.
-/
import Xenoteer.Daemon.WindowReplayRuns

namespace Xenoteer

open Lib Lib.Checks Lib.TreeMapKeys Prog

/-- The correlation names a process that the broker manages. -/
def WindowProcessCorrelation.managed (p : WindowProcessCorrelation) : Bool := p.managedProcess.isSome

theorem managed_baseline {pid} : (baselineProcessCorrelation pid).managed = false := by
  cases pid <;> rfl

/-- A set of assignments of processes to windows. -/
abbrev Assignments := WindowRef → WindowProcessCorrelation → Prop

namespace WindowModel

variable {m m' : WindowModel} {op : WindowOp} {reply : Except WindowModelError WindowReply}

/-- Every managed process of the model is one of these assignments. -/
def ManagedIn (M : Assignments) (m : WindowModel) : Prop :=
  ∀ (xid : UInt32) (entry : LiveWindow), m.live[xid]? = some entry → entry.snapshot.process.managed →
    M entry.snapshot.window entry.snapshot.process

/-- The managed processes of the model. -/
def managed (m : WindowModel) : Assignments := fun window process =>
  process.managed ∧ ∃ entry : LiveWindow, m.live[window.xid]? = some entry ∧ entry.snapshot.window = window ∧
    entry.snapshot.process = process

theorem Sound.managedIn (hs : m.Sound) : m.ManagedIn m.managed := by
  intro xid e he hm
  have hx := hs.keyed he
  exact ⟨hm, e, by rw [hx, he], rfl, rfl⟩

/-- A window that is live after a call was live before it, or the call stored it. -/
theorem Change.live_cases (h : Change m op reply m') {xid e} (he : m'.live[xid]? = some e) :
    m.live[xid]? = some e ∨ ∃ sn now, op = .observe sn now ∧ xid = sn.window.xid ∧
      e.snapshot = { sn with modelRevision := m'.revision } := by
  cases h with
  | regressed | refused | read => exact .inl he
  | @created sn now | @updated sn now =>
    obtain ⟨rfl, rfl⟩ | ⟨-, he⟩ := insert_cases he
    · exact .inr ⟨sn, now, rfl, rfl, rfl⟩
    · exact .inl he
  | destroyed | lost => exact .inl (erase_cases he).2

end WindowModel

namespace ModelState

variable {ε α : Type} {M : Assignments} {s : ModelState} {now : MonotonicMillis} {host : ModelHost}

/-- The managed processes of the state are among these assignments. -/
def Within (M : Assignments) (s : ModelState) : Prop := s.model.ManagedIn M

/-- The snapshot carries an assignment of these, or none. -/
def Stores (M : Assignments) (snapshot : WindowSnapshot) : Prop :=
  snapshot.process.managed → M snapshot.window snapshot.process

/-- What is stored decides which windows carry a managed process. -/
theorem within_of_calls {s'} (h : (calls (Stores M)).rel s s') (hs : Within M s) : Within M s' := by
  obtain ⟨-, ops, hP, ho⟩ := h
  unfold Within
  rw [ho]
  refine Run.final_induction_mem hs fun m op hop hm xid e he hma => ?_
  rcases (m.step_change op).live_cases he with he | ⟨sn, now, rfl, -, hsn⟩
  · exact hm xid e he hma
  · rw [hsn] at hma ⊢
    exact hP sn now hop hma

theorem always_within {x : Prog ModelState ε α} [hx : Framed (calls (Stores M)) x] (hs : Within M s) :
    Always x s (Within M) :=
  Keeps.always (hx.keeps.mono fun _ _ => within_of_calls) hs

/-! ## Operations that give no window a process -/

section Always

variable {β ε' : Type} {P : ModelState → Prop} {x : Except ε α} {f : α → Prog ModelState ε β}

theorem always_require (hs : P s) (h : ∀ a, x = .ok a → Always (f a) s P) : Always (require x >>= f) s P := by
  refine always_bind.mpr ?_
  cases x with
  | ok a => exact h a rfl
  | error e => exact hs

theorem always_mapError_require {e : ε → ε'} {f : α → Prog ModelState ε' β} (hs : P s)
    (h : ∀ a, x = .ok a → Always (f a) s P) : Always (mapError e (require x) >>= f) s P := by
  refine always_bind.mpr (ends_mapError.mpr ?_)
  cases x with
  | ok a => exact h a rfl
  | error e => exact hs

theorem always_failIf {c : Bool} {e : ε} {f : Unit → Prog ModelState ε β} (hs : P s)
    (h : Always (f ()) s P) : Always (failIf c e >>= f) s P := by
  refine always_bind.mpr (ends_failIf.mpr ⟨fun _ => hs, fun _ => h⟩)

/-- The view of the live windows is read, and the operation goes on with it. -/
theorem always_snapshotAll {e : WindowModelError → ε}
    {f : WindowModelRevision × List WindowSnapshot → Prog ModelState ε β} (hs : Within M s)
    (h : Within M { s with model := s.model.expire now } →
      Always (f (s.model.revision, s.model.liveWindows.map (projectSnapshot · s.model.revision)))
        { s with model := s.model.expire now } (Within M)) :
    Always (mapError e (call (·.snapshotAll now)) >>= f) s (Within M) := by
  refine always_bind.mpr (ends_mapError.mpr ?_)
  have hk : Within M ((call (·.snapshotAll now)).run s).2 := within_of_calls (Framed.keeps s) hs
  rcases hc : s.model.snapshotAll now with ⟨e' | ⟨revision, sn⟩, m⟩
  · simpa only [Ends, call, hc] using hk
  · obtain ⟨-, rfl, rfl, rfl⟩ := WindowModel.snapshotAll_ok hc
    simpa only [Ends, call, hc] using h hs

end Always

variable {revision : WindowModelRevision}

/-- What the view of the model shows is in the model. -/
theorem managed_of_mem (hs : s.model.Sound)
    (hm : snapshot ∈ s.model.liveWindows.map (projectSnapshot · s.model.revision))
    (hma : snapshot.process.managed) : s.model.managed snapshot.window snapshot.process := by
  obtain ⟨e, he, rfl⟩ := List.mem_map.mp hm
  obtain ⟨⟨xid, e⟩, hl, rfl⟩ := List.mem_map.mp he
  exact hs.managedIn xid e (Std.TreeMap.mem_toList_iff_getElem?_eq_some.mp hl) hma

theorem mem_of_view {xid : UInt32}
    (h : (CommittedView.new revision sn).windows[xid]? = some snapshot) : snapshot ∈ sn := by
  have hf : ∀ (sn : List WindowSnapshot) (w : Std.TreeMap UInt32 WindowSnapshot compare),
      (sn.foldl (fun w s => w.insert s.window.xid s) w)[xid]? = some snapshot →
      snapshot ∈ sn ∨ w[xid]? = some snapshot := by
    intro sn
    induction sn with
    | nil => exact fun w h => .inr h
    | cons fr sn ih =>
      intro w h
      rcases ih _ h with hm | h
      · exact .inl (List.mem_cons_of_mem fr hm)
      · obtain ⟨rfl, rfl⟩ | ⟨-, h⟩ := insert_cases h
        · exact .inl List.mem_cons_self
        · exact .inr h
  rcases hf sn ∅ h with h | h
  · exact h
  · simp at h

/-- A reconciled snapshot has the process its window had, or none that is managed. -/
theorem reconciledSnapshots_process {b : WindowModelRevision}
    {sr : InventorySource} {r : References} {i : Nat}
    {d : List (WindowSnapshotInput × WindowRef)} {n : List WindowSnapshot}
    (h : reconciledSnapshots (CommittedView.new b snapshots) revision sr r i d =
      .ok n) : ∀ sn ∈ n, sn.process.managed →
      ∃ p ∈ snapshots, p.window = sn.window ∧ p.process = sn.process := by
  induction d generalizing i n with
  | nil =>
    cases h
    simp
  | cons e d ih =>
    obtain ⟨ip, rf⟩ := e
    obtain ⟨st, -, h⟩ := bind_eq_ok.mp h
    obtain ⟨sd, hst, h⟩ := bind_eq_ok.mp h
    obtain ⟨rest, hr, h⟩ := bind_eq_ok.mp h
    cases h
    intro sn hs hm
    rcases List.mem_cons.mp hs with rfl | hs
    · obtain ⟨raw, hra, h⟩ := bind_eq_ok.mp hst
      cases h
      obtain ⟨-, -, pid, hp⟩ := normalizeSnapshot_ok hra
      have hb : raw.process.managed = false := by rw [hp, managed_baseline]
      dsimp only at hm ⊢
      cases hsa : (CommittedView.new b snapshots).same raw with
      | none =>
        rw [hsa] at hm
        rw [hb] at hm
        cases hm
      | some p =>
        rw [hsa] at hm
        obtain ⟨hpr, hw⟩ := Option.filter_eq_some_iff.mp hsa
        dsimp only at hm ⊢
        split at hm
        next hpi =>
          rw [if_pos hpi]
          exact ⟨p, mem_of_view hpr, by simpa using hw, rfl⟩
        next =>
          rw [hb] at hm
          cases hm
    · exact ih hr sn hs hm

/-- Nothing but a replacement gives a window a managed process. -/
theorem within_reconcileRaw (hs : s.model.Sound) (i : RootInventory) (it : List WindowSnapshotInput)
    (ip : ReconcileIdentityPolicy) (ep : ReconcileEventPolicy) :
    Always (reconcileRawWithEventPolicy host i it now ip ep) s
      (Within s.model.managed) := by
  have hw : Within s.model.managed s := hs.managedIn
  refine always_require hw fun _ _ => ?_
  refine always_bind.mpr (always_failIf hw (always_snapshotAll hw fun hw => ?_))
  refine always_bind.mpr (always_mapError_require hw fun _ _ => ?_)
  refine always_require hw fun d _ => always_require hw fun n hn => ?_
  have hst : ∀ sn ∈ n, sn.process.managed → s.model.managed sn.window sn.process := by
    intro sn hsn hm
    obtain ⟨p, hpr, hwi, hp⟩ := reconciledSnapshots_process hn sn hsn hm
    rw [← hwi, ← hp]
    exact managed_of_mem hs hpr (hp ▸ hm)
  have hf : Fact (∀ sn ∈ n, Stores s.model.managed sn) := ⟨hst⟩
  exact always_within hw

theorem within_invalidateForPendingResync (hs : s.model.Sound) :
    Always (invalidateForPendingResync host now) s (Within s.model.managed) := by
  refine ends_update_bind.mpr (always_bind.mpr ?_)
  exact (within_reconcileRaw (s := s.tell [.resync]) hs ..).mono (fun _ _ h => h) (fun _ _ h => h) fun _ h => h

/-- A refreshed window has a managed process only if it is the window that had it. -/
theorem refreshedSnapshot_process {pr raw}
    (hr : raw.process.managed = false) (hm : (refreshedSnapshot pr raw).process.managed) :
    ∃ p, pr = some p ∧ p.window = (refreshedSnapshot pr raw).window ∧
      (refreshedSnapshot pr raw).process = p.process := by
  cases hc : processUniverseChanged pr raw with
  | true =>
    simp only [refreshedSnapshot, hc, if_true] at hm
    rw [hr] at hm
    cases hm
  | false =>
    cases pr with
    | none => cases hc
    | some p =>
      refine ⟨p, rfl, ?_, by simp [refreshedSnapshot, hc]⟩
      simp only [processUniverseChanged, Option.all_some, Bool.or_eq_false_iff, decide_eq_false_iff_not,
        not_not] at hc
      exact hc.1

theorem within_observeRaw (hs : s.model.Sound) {i} :
    Always (observeRaw host i now) s (Within s.model.managed) := by
  have hw : Within s.model.managed s := hs.managedIn
  refine always_require hw fun _ _ => always_snapshotAll hw fun hw => ?_
  refine always_bind.mpr (always_require hw fun r _ => always_require hw fun raw hr => ?_)
  dsimp only
  split
  · exact hw
  generalize hf : List.find? _ _ = pr
  suffices hs : Fact (Stores s.model.managed (refreshedSnapshot pr raw)) from always_within hw
  refine ⟨fun hm => ?_⟩
  obtain ⟨-, -, pid, hb⟩ := normalizeSnapshot_ok hr
  obtain ⟨p, hp, hwi, hpr⟩ := refreshedSnapshot_process (by rw [hb, managed_baseline]) hm
  rw [hpr] at hm ⊢
  rw [← hwi]
  exact managed_of_mem hs (List.mem_of_find?_eq_some (hf.trans hp)) hm

theorem within_replaceAccessibilityCorrelations (hs : s.model.Sound) (er : WindowModelRevision)
    (w : List WindowRef) :
    Always (replaceAccessibilityCorrelations host er w now) s (Within s.model.managed) := by
  have hw : Within s.model.managed s := hs.managedIn
  refine always_bind.mpr (always_failIf hw (always_snapshotAll hw fun hw => ?_))
  refine always_bind.mpr (always_failIf hw (always_require hw fun d _ => ?_))
  have hst : ∀ sn ∈ withAccessibility d
      (s.model.liveWindows.map (projectSnapshot · s.model.revision)), sn.process.managed →
        s.model.managed sn.window sn.process := by
    intro sn hsn hm
    obtain ⟨p, hp, hsn⟩ := List.mem_filterMap.mp hsn
    dsimp only at hsn
    split at hsn
    · cases hsn
    · cases hsn
      have hwa := managed_of_mem hs hp hm
      exact hwa
  have hf : Fact (∀ sn ∈ withAccessibility d (s.model.liveWindows.map (projectSnapshot · s.model.revision)),
      Stores s.model.managed sn) := ⟨hst⟩
  exact always_within hw

theorem withBaseline_process {c} (h : snapshot ∈ withBaseline c) : snapshot.process.managed = false := by
  obtain ⟨p, -, hs⟩ := List.mem_filterMap.mp h
  dsimp only at hs
  split at hs
  · cases hs
  · cases hs
    exact managed_baseline

theorem within_returned {x : Prog ModelState ε α} {P : ModelState → Prop} (h : Always x s P) :
    P (returned x s).2 := by
  have hr := h.run
  rcases hx : x.run s with ⟨a | e | _, s'⟩ <;> rw [hx] at hr <;> simpa only [returned, hx] using hr

/-! ## Invalidation -/

/-- No window carries a managed process. -/
def NoneManaged (s : ModelState) : Prop := Within (fun _ _ => False) s

/-- Storing every window that carries a managed process without one leaves none. -/
theorem returns_observeAll_clears (hb : ∀ sn ∈ sp, sn.process.managed = false)
    (ha : ∀ (xid : UInt32) (e : LiveWindow), s.model.live[xid]? = some e →
      e.snapshot.process.managed → ∃ sn ∈ sp, sn.window.xid = xid) :
    Returns (observeAll now sp) s fun _ s' => NoneManaged s' := by
  induction sp generalizing s with
  | nil =>
    intro xid e he hm
    obtain ⟨sn, hs, -⟩ := ha xid e he hm
    cases hs
  | cons sn sp ih =>
    have hr := fun o ho => hb o (List.mem_cons_of_mem sn ho)
    refine returns_bind.mpr (returns_bind.mpr (returns_call fun c m hc => ?_))
    obtain ⟨hst, ⟨cr, hl⟩, -⟩ := WindowModel.observe_ok hc
    have haf := ih (s := { s with model := m }) hr fun xid e he hm => by
      rw [hl] at he
      obtain ⟨rfl, rfl⟩ | ⟨hne, he⟩ := insert_cases he
      · have hn := hb sn List.mem_cons_self
        simp only [hst, hn] at hm
        cases hm
      · obtain ⟨o, ho, hx⟩ := ha xid e he hm
        rcases List.mem_cons.mp ho with rfl | ho
        · exact absurd hx.symm hne
        · exact ⟨o, ho, hx⟩
    cases c <;> exact returns_bind.mpr (haf.mono fun _ _ h => h)

set_option synthInstance.maxSize 1000 in
theorem returns_invalidateProcessCorrelations_noneManaged (hs : s.model.Sound) :
    Returns (invalidateProcessCorrelations host now) s fun _ s' => NoneManaged s' := by
  refine returns_call_bind.mpr (returns_snapshotAll fun _ => ?_)
  refine returns_call_bind.mpr ((returns_observeAll_clears
    (fun _ => withBaseline_process) ?_).mono fun _ s₁ hn => ?_)
  · intro xid e he hm
    have hme : projectSnapshot e s.model.revision ∈
        s.model.liveWindows.map (projectSnapshot · s.model.revision) :=
      List.mem_map_of_mem (List.mem_map.mpr
        ⟨(xid, e), Std.TreeMap.mem_toList_iff_getElem?_eq_some.mpr he, rfl⟩)
    refine ⟨{ projectSnapshot e s.model.revision with
      process := baselineProcessCorrelation e.snapshot.process.reportedPid },
      List.mem_filterMap.mpr ⟨_, hme, ?_⟩, hs.keyed he⟩
    refine if_neg fun hsa => ?_
    have hp : e.snapshot.process = baselineProcessCorrelation e.snapshot.process.reportedPid := hsa
    rw [hp, managed_baseline] at hm
    cases hm
  · dsimp only
    refine Ends.mono (always_within hn)
      (fun _ _ h => h) (fun _ _ _ => trivial) fun _ _ => trivial

end ModelState

end Xenoteer
