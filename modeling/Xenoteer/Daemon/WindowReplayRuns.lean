/-
Window events replay to the window model, over every run of the operations after
the initial baseline.

The lifecycle part holds in every run (`window_events_replay`). The focus part needs
that no window told by itself is shadowed: a refresh reads one window, so the flag
of the window that was active before stays until that one is refreshed, and what
the next event starts from is the lowest XID among them (`active_window_report_lost`).
-/
import Xenoteer.Daemon.ModelStateFacts

namespace Xenoteer

open Lib Lib.Run Glances

/-- The references of the live windows. -/
def WindowModel.liveRefs (m : WindowModel) : Finset WindowRef :=
  (m.liveWindows.map (·.snapshot.window)).toFinset

/-- The operations after the baseline. A reconciliation tells the change, and that the model
was rebuilt if there is a reason to. -/
inductive ModelOp where
  | reconcileRaw (inventory : RootInventory) (inputs : List WindowSnapshotInput) (now : MonotonicMillis)
      (identityPolicy : ReconcileIdentityPolicy) (reason : Option WindowModelRebuildReason)
  | observeRaw (input : WindowSnapshotInput) (now : MonotonicMillis)
  | removeXid (xid : UInt32) (now : MonotonicMillis)
  | removeExact (window : WindowRef) (now : MonotonicMillis)
  | invalidateForPendingResync (now : MonotonicMillis)
  | replaceProcessCorrelations (expectedRevision : WindowModelRevision) (expectedCorrelationEpoch : Nat)
      (expectedGeneration : DesktopGeneration) (assignments : List ModelState.ProcessCorrelationAssignment)
      (now : MonotonicMillis)
  | invalidateProcessCorrelations (now : MonotonicMillis)
  | replaceAccessibilityCorrelations (expectedRevision : WindowModelRevision) (windows : List WindowRef)
      (now : MonotonicMillis)

/-- The window that the operation tells by itself, if any. -/
def ModelOp.refresh : ModelOp → Option Refresh
  | .observeRaw input _ => some ⟨input.window, input.isActive, input.isFocused⟩
  | .removeXid xid _ => some ⟨xid, false, false⟩
  | .removeExact window _ => some ⟨window.xid, false, false⟩
  | _ => none

namespace ModelState

def eventPolicy : Option WindowModelRebuildReason → ReconcileEventPolicy
  | none => .incremental
  | some reason => .rebuilt reason

/-- Whether a call returned, and the state it left. -/
def returned {ε α : Type} (x : Prog ModelState ε α) (s : ModelState) : Bool × ModelState :=
  match x.run s with
  | (.ok _, s') => (true, s')
  | (_, s') => (false, s')

def step (host : ModelHost) (s : ModelState) : ModelOp → Bool × ModelState
  | .reconcileRaw inventory inputs now identityPolicy reason =>
    returned (reconcileRawWithEventPolicy host inventory inputs now identityPolicy (eventPolicy reason)) s
  | .observeRaw input now => returned (observeRaw host input now) s
  | .removeXid xid now => returned (removeXid host xid now) s
  | .removeExact window now => returned (removeExact host window now) s
  | .invalidateForPendingResync now => returned (invalidateForPendingResync host now) s
  | .replaceProcessCorrelations expectedRevision expectedCorrelationEpoch expectedGeneration assignments now =>
    returned (replaceProcessCorrelations host expectedRevision expectedCorrelationEpoch expectedGeneration
      assignments now) s
  | .invalidateProcessCorrelations now => returned (invalidateProcessCorrelations host now) s
  | .replaceAccessibilityCorrelations expectedRevision windows now =>
    returned (replaceAccessibilityCorrelations host expectedRevision windows now) s

/-- What `focus_projection` reads. -/
def liveSnapshots (s : ModelState) : List WindowSnapshot :=
  s.model.liveWindows.map (projectSnapshot · s.model.revision)

/-- No window told by itself is shadowed by another that is stored as active, or focused. -/
def Orderly (s : ModelState) (op : ModelOp) : Prop := ∀ refresh ∈ op.refresh, refresh.Unshadowed s.liveSnapshots

instance (s : ModelState) : DecidablePred s.Orderly := fun op => Option.decidableForallMem op.refresh

variable {host : ModelHost} {s s' : ModelState} {op : ModelOp}

/-! ## One operation -/

section Step

variable {ε α : Type} {x : Prog ModelState ε α}

theorem of_returned {Q} (h : Prog.Returns x s Q) (hok : (returned x s).1) : ∃ a, Q a (returned x s).2 := by
  rcases hx : x.run s with ⟨a | e | _, s'⟩ <;> simp only [returned, hx] at hok ⊢
  · exact ⟨a, h.ok hx⟩
  · cases hok
  · cases hok

theorem evolves_returned [h : Prog.Framed (calls fun _ => True) x] : evolves.rel s (returned x s).2 := by
  have hs : evolves.rel s (x.run s).2 := h.keeps s
  rcases hx : x.run s with ⟨a | e | _, s'⟩ <;> simpa only [returned, hx] using hs

end Step

theorem evolves_step (host : ModelHost) (s : ModelState) (op : ModelOp) : evolves.rel s (s.step host op).2 := by
  have ht : ∀ cn, Fact (∀ sn ∈ withBaseline cn, True) := fun _ => ⟨fun _ _ => trivial⟩
  cases op <;> exact evolves_returned

theorem sound_of_evolves (hs : s.model.Sound) (h : evolves.rel s s') : s'.model.Sound := by
  obtain ⟨-, ops, -, ho⟩ := h
  rw [ho]
  exact hs.final ops

theorem eventPolicy_ne (r) : eventPolicy r ≠ .initialBaseline := by
  cases r <;> simp [eventPolicy]

/-- What an operation that returns tells is its change of the model. -/
theorem committed_step (hs : s.model.Sound) (hok : (s.step host op).1) :
    Committed host op.refresh s (s.step host op).2 := by
  cases op with
  | reconcileRaw _ _ _ _ r =>
    obtain ⟨-, hc⟩ := of_returned (returns_reconcileRaw hs _ _ _ (eventPolicy_ne r)) hok
    exact hc
  | observeRaw =>
    obtain ⟨-, hc⟩ := of_returned (returns_observeRaw hs) hok
    exact hc
  | removeXid =>
    obtain ⟨-, hc⟩ := of_returned (returns_removeXid hs) hok
    exact hc
  | removeExact =>
    obtain ⟨-, hc⟩ := of_returned (returns_removeExact hs) hok
    exact hc
  | invalidateForPendingResync =>
    obtain ⟨-, hc⟩ := of_returned (returns_invalidateForPendingResync hs) hok
    exact hc
  | replaceProcessCorrelations =>
    obtain ⟨-, hc, -⟩ := of_returned (returns_replaceProcessCorrelations hs ..) hok
    exact hc
  | invalidateProcessCorrelations =>
    obtain ⟨-, hc⟩ := of_returned (returns_invalidateProcessCorrelations hs) hok
    exact hc
  | replaceAccessibilityCorrelations =>
    obtain ⟨-, hc⟩ := of_returned (returns_replaceAccessibilityCorrelations hs ..) hok
    exact hc

/-! ## Replays -/

theorem isLiveSet_liveRefs (hs : s.model.Sound) : IsLiveSet s.model.liveRefs s.model.glances := by
  intro w
  rw [hs.shows.has_iff, WindowModel.liveRefs, List.mem_toFinset]
  simp [projectSnapshot]

/-- Events may tell of every live window. -/
theorem covers_glances (hs : s.model.Sound) (hid : s'.model.desktopId = s.model.desktopId)
    (hg : s'.model.desktopGeneration = s.model.desktopGeneration) (r) :
    (s'.scope r).Covers s.model.glances := by
  intro w hw
  obtain ⟨e, he, rfl⟩ := WindowModel.has_glances_iff.mp hw
  obtain ⟨hv, hsc⟩ := hs.accepted he
  unfold WindowModel.requireScope at hsc
  split at hsc
  · cases hsc
  next hsa =>
    rw [not_or, not_not, not_not] at hsa
    exact ⟨hv, hsa.1.trans hid.symm, hsa.2.trans hg.symm⟩

/-- What one operation tells takes a subscriber from the windows before to those after. -/
theorem tells_step (hs : s.model.Sound) (hok : (s.step host op).1) :
    ∃ n sc, (s.step host op).2.notices = s.notices ++ n ∧
      Tells host.fits sc op.refresh s.model.glances (s.step host op).2.model.glances n ∧
      sc.Covers s.model.glances ∧ sc.Covers (s.step host op).2.model.glances := by
  obtain ⟨n, r, hn, ht⟩ := committed_step hs hok
  have he := evolves_step host s op
  have hs' := sound_of_evolves hs he
  obtain ⟨-, ops, -, ho⟩ := he
  have hi := WindowModel.ids_final s.model ops
  rw [← ho] at hi
  exact ⟨n, _, hn, ht, covers_glances hs hi.1 hi.2 r, covers_glances hs' rfl rfl r⟩

def told (s s' : ModelState) : List Notice := s'.notices.drop s.notices.length

theorem told_eq {n} (h : s'.notices = s.notices ++ n) : told s s' = n := by
  rw [told, h, List.drop_left]

theorem lifecycle_step (hs : s.model.Sound) (hok : (s.step host op).1) :
    ∃ n, (s.step host op).2.notices = s.notices ++ n ∧
      n.foldlM replayLifecycle s.model.liveRefs = some (s.step host op).2.model.liveRefs := by
  have hs' := sound_of_evolves hs (evolves_step host s op)
  obtain ⟨n, sc, hn, ht, hc, hc'⟩ := tells_step hs hok
  obtain ⟨live, hl, hse⟩ := ht.lifecycle hs.keyed_glances hs'.keyed_glances hc hc' (isLiveSet_liveRefs hs)
  exact ⟨n, hn, hl.trans (congrArg some (hse.unique (isLiveSet_liveRefs hs')))⟩

/-- The windows that `focus_projection` finds. -/
def projectedFocus (s : ModelState) : FocusPair := focusProjection s.liveSnapshots

theorem focus_step (hs : s.model.Sound) (hok : (s.step host op).1) (hor : s.Orderly op) :
    ∃ n, (s.step host op).2.notices = s.notices ++ n ∧
      n.foldlM replayFocus s.projectedFocus = some (s.step host op).2.projectedFocus := by
  have hs' := sound_of_evolves hs (evolves_step host s op)
  obtain ⟨n, sc, hn, ht, hc, hc'⟩ := tells_step hs hok
  obtain ⟨last, hl, hp⟩ := ht.focus hs.keyed_glances hs'.keyed_glances hc hc' hs.shows hor
  exact ⟨n, hn, hl.trans (congrArg some (hp.unique hs'.shows.projected))⟩

/-- What the operations of a run tell replays from the view before it to the view after. -/
theorem replay_run {α : Type} {f : α → Notice → Option α} {view : ModelState → α} {C : ModelState → ModelOp → Prop}
    (hst : ∀ (s : ModelState) op, s.model.Sound → C s op → ∃ n, (s.step host op).2.notices = s.notices ++ n ∧
      n.foldlM f (view s) = some (view (s.step host op).2)) (hs : s.model.Sound) (ops)
    (hok : along (step host) C s ops) :
    (told s (final (step host) s ops)).foldlM f (view s) = some (view (final (step host) s ops)) := by
  have hru := run_induction_along (P := fun (s' : ModelState) _ => s'.model.Sound ∧ ∃ n,
    s'.notices = s.notices ++ n ∧ n.foldlM f (view s) = some (view s'))
    ⟨hs, [], (List.append_nil _).symm, rfl⟩ ?_ ops hok
  · obtain ⟨-, n, hn, hr⟩ := hru
    rw [told_eq hn, hr]
  intro s₁ _ op ⟨hs₁, n, hn, hr⟩ hop
  obtain ⟨m, hm, hr'⟩ := hst s₁ op hs₁ hop
  refine ⟨sound_of_evolves hs₁ (evolves_step host s₁ op), n ++ m, by rw [hm, hn, List.append_assoc], ?_⟩
  rw [List.foldlM_append, hr]
  exact hr'

/-- The initial reconciliation of the actor. -/
def baseline (host : ModelHost) (inventory : RootInventory) (inputs : List WindowSnapshotInput)
    (now : MonotonicMillis) (s : ModelState) : Bool × ModelState :=
  returned (reconcileRawWithEventPolicy host inventory inputs now .preserveContinuity .initialBaseline) s

theorem model_new {di dg l} (h : ModelState.new di dg l = .ok s) : WindowModel.new di dg l = .ok s.model := by
  obtain ⟨m, hm, h⟩ := Checks.bind_eq_ok.mp h
  cases h
  exact Checks.wrapped_eq_ok.mp hm

/-- Replaying the lifecycle events told since the baseline gives the live references, in every run
of operations that return; and while no window told by itself is shadowed, the focus events are
a chain that ends in a window that is active, and in one that is focused. -/
theorem window_events_replay {desktopId : DesktopId} {desktopGeneration : DesktopGeneration}
    {limits : WindowModelLimits} {s₀ : ModelState} (hnew : ModelState.new desktopId desktopGeneration limits = .ok s₀)
    (host : ModelHost) (inventory : RootInventory) (inputs : List WindowSnapshotInput) (now : MonotonicMillis)
    (ops : List ModelOp)
    (hok : along (step host) (fun s op => (s.step host op).1) (baseline host inventory inputs now s₀).2 ops) :
    let s := (baseline host inventory inputs now s₀).2
    let s' := final (step host) s ops
    (told s s').foldlM replayLifecycle s.model.liveRefs = some s'.model.liveRefs ∧
    (along (step host) Orderly s ops →
      ∃ last, (told s s').foldlM replayFocus s.projectedFocus = some last ∧ last.Reported s'.model.glances) := by
  intro s s'
  have hs : s.model.Sound := sound_of_evolves (WindowModel.Sound.new (model_new hnew)).1 evolves_returned
  have hs' : s'.model.Sound :=
    final_induction (P := (·.model.Sound)) hs (fun s op h => sound_of_evolves h (evolves_step host s op)) ops
  refine ⟨replay_run (fun _ _ => lifecycle_step) hs ops hok, fun hor => ?_⟩
  have hf := replay_run (fun _ _ hs h => focus_step hs h.1 h.2) hs ops (hok.and hor)
  exact ⟨_, hf, hs'.shows.projected.reported⟩

/-! ## Runs -/

/-- A window of the XID with nothing but a place. -/
def plainInput (xid : UInt32) (active : Option UInt32) : WindowSnapshotInput where
  window := xid
  attributes := ⟨.viewable, false, false, 1, 1⟩
  properties := ⟨none, none, none, none, none, [], [], [], [], none, none, none, none, none, none, false, [], false⟩
  geometry := ⟨⟨.rootPhysical, 0, 0, 10, 10⟩, 1⟩
  root := ⟨active, none, none, false, .noFocus⟩

def plainHost : ModelHost := ⟨fun _ => .allA, fun _ => true⟩

def plainStart : ModelState := ⟨WindowModelLimits.default.maxLiveWindows, .empty, 1, false, false, [], 0⟩

def twoWindows : RootInventory := ⟨[2, 3], .netClientList, []⟩

def plainInputs : List WindowSnapshotInput := [plainInput 2 none, plainInput 3 none]

def plainBaseline : ModelState := (baseline plainHost twoWindows plainInputs 0 plainStart).2

/-- The window manager makes the first window active, then the second; the first is seen
inactive in between, and the second goes away. -/
def inTurn : List ModelOp :=
  [.observeRaw (plainInput 2 (some 2)) 1, .observeRaw (plainInput 2 (some 3)) 2,
    .observeRaw (plainInput 3 (some 3)) 3, .removeXid 3 4]

theorem inTurn_replays : (baseline plainHost twoWindows plainInputs 0 plainStart).1 = true ∧
    (told plainBaseline (final (step plainHost) plainBaseline inTurn)).foldlM replayLifecycle
        plainBaseline.model.liveRefs =
      some (final (step plainHost) plainBaseline inTurn).model.liveRefs ∧
    ∃ last, (told plainBaseline (final (step plainHost) plainBaseline inTurn)).foldlM replayFocus
        plainBaseline.projectedFocus = some last ∧
      last.Reported (final (step plainHost) plainBaseline inTurn).model.glances := by
  have hn : ModelState.new ⟨1⟩ ⟨1⟩ .default = .ok plainStart := rfl
  have hr := window_events_replay hn plainHost twoWindows plainInputs 0 inTurn
    ⟨by decide +kernel, by decide +kernel, by decide +kernel, by decide +kernel, trivial⟩
  exact ⟨by decide +kernel, hr.1,
    hr.2 ⟨by decide +kernel, by decide +kernel, by decide +kernel, by decide +kernel, trivial⟩⟩

/-- The same two windows, with the first not seen again: the second is told active while the
first is still stored as active, and that it is not any more is told to nobody. When the
first is seen inactive, the event starts from a window that was not the last reported. -/
theorem active_window_report_lost :
    let ops : List ModelOp := [.observeRaw (plainInput 2 (some 2)) 1, .observeRaw (plainInput 3 (some 3)) 2,
      .observeRaw (plainInput 3 none) 3]
    let s := final (step plainHost) plainBaseline ops
    let sc : WindowRef := ⟨⟨1⟩, ⟨1⟩, 3, 2, .allA⟩
    (baseline plainHost twoWindows plainInputs 0 plainStart).1 = true ∧
    (answers (step plainHost) plainBaseline ops).map Prod.snd = [true, true, true] ∧
    (told plainBaseline s).foldlM replayFocus plainBaseline.projectedFocus = some ⟨some sc, none⟩ ∧
    s.model.glances 3 = some ⟨sc, false, false⟩ ∧
    let s' := s.step plainHost (.observeRaw (plainInput 2 none) 4)
    s'.1 = true ∧ (told plainBaseline s'.2).foldlM replayFocus plainBaseline.projectedFocus = none := by
  decide +kernel

end ModelState

end Xenoteer
