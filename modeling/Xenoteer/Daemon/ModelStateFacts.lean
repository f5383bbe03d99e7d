/-
What the operations of the daemon's window model do to the windows: every
operation is a run of the window model (`evolves`), and an operation that
returns tells the change it made (`Committed`).
-/
import Xenoteer.Daemon.ModelState
import Xenoteer.Daemon.WindowReplay

namespace Xenoteer

open Lib Lib.Checks Lib.TreeMapKeys Prog Glances

/-! ## Inputs -/

/-- The input says that its window is active. -/
def WindowSnapshotInput.isActive (input : WindowSnapshotInput) : Bool :=
  input.root.activeWindow = some input.window

def WindowSnapshotInput.isFocused (input : WindowSnapshotInput) : Bool :=
  (input.root.focusAncestryStatus = .resolved &&
      (input.root.targetContainsFocus || input.root.focusedWindow = some input.window)) ||
    input.properties.states.any fun atom => atom.known = some .netWmStateFocused

def WindowSnapshotInput.glance (input : WindowSnapshotInput) (reference : WindowRef) : Glance :=
  ⟨reference, input.isActive, input.isFocused⟩

theorem normalizeSnapshot_ok {i r rv st rf sp}
    (h : normalizeSnapshot i r rv st rf = .ok sp) : i.window = r.xid ∧ sp.glance = i.glance r ∧
      ∃ pid, sp.process = baselineProcessCorrelation pid := by
  unfold normalizeSnapshot at h
  obtain ⟨-, h⟩ := andThen_eq_ok.mp h
  split at h
  · cases h
  next hw =>
  refine ⟨not_not.mp hw, ?_⟩
  obtain ⟨_, -, h⟩ := bind_eq_ok.mp h
  obtain ⟨_, -, h⟩ := bind_eq_ok.mp h
  obtain ⟨⟨_, _⟩, -, h⟩ := bind_eq_ok.mp h
  obtain ⟨⟨_, _⟩, -, h⟩ := bind_eq_ok.mp h
  obtain ⟨⟨_, _⟩, -, h⟩ := bind_eq_ok.mp h
  obtain ⟨⟨_, _⟩, -, h⟩ := bind_eq_ok.mp h
  obtain ⟨-, h⟩ := andThen_eq_ok.mp h
  cases h
  exact ⟨rfl, _, rfl⟩

def WindowModelChange.snapshot : WindowModelChange → WindowSnapshot
  | .created snapshot => snapshot
  | .updated snapshot => snapshot

namespace WindowModel

variable {m m' : WindowModel} {now : MonotonicMillis}

/-! ## Calls that return -/

theorem advanceTime_ok (h : m.advanceTime now = (.ok (), m')) : m.lastNow ≤ now ∧ m' = m.expire now := by
  unfold advanceTime at h
  split at h
  · cases h
  next hn =>
    cases h
    exact ⟨Nat.le_of_not_lt hn, rfl⟩

theorem snapshotAll_ok {r sn} (h : m.snapshotAll now = (.ok (r, sn), m')) :
    m.lastNow ≤ now ∧ r = m.revision ∧ sn = m.liveWindows.map (projectSnapshot · m.revision) ∧
      m' = m.expire now := by
  unfold snapshotAll at h
  split at h
  · cases h
  rename_i ha
  cases h
  obtain ⟨hn, rfl⟩ := advanceTime_ok ha
  exact ⟨hn, rfl, rfl, rfl⟩

/-- A snapshot is stored under the reference its XID has, or under a new one. -/
theorem observe_ok {sp c}
    (h : m.observe sp now = (.ok c, m')) : c.snapshot = { sp with modelRevision := m'.revision } ∧
    (∃ cr, m'.live = m.live.insert sp.window.xid ⟨c.snapshot, cr⟩) ∧
    ∀ cn, m.live[sp.window.xid]? = some cn → cn.snapshot.window = sp.window := by
  unfold observe at h
  split at h
  · cases h
  next ha =>
  obtain ⟨-, rfl⟩ := advanceTime_ok ha
  split at h
  · cases h
  split at h
  · cases h
  split at h
  · cases h
  next e he =>
  obtain hn | ⟨r, hn, -⟩ := (m.expire now).nextRevision_cases
  · rw [hn] at h
    cases h
  rw [hn] at h
  obtain ⟨rfl, hab, -⟩ | ⟨cn, rfl, hc, hs⟩ := existingCreationRevision_ok he
  · cases h
    refine ⟨rfl, ⟨_, rfl⟩, fun cn hc => ?_⟩
    cases hab.symm.trans hc
  · cases h
    refine ⟨rfl, ⟨_, rfl⟩, fun o ho => ?_⟩
    cases hc.symm.trans ho
    exact hs

theorem destroy_ok {r t} (h : m.destroy r now = (.ok t, m')) : m.IsLive r ∧ m'.live = m.live.erase r.xid := by
  unfold destroy at h
  split at h
  · cases h
  next ha =>
  obtain ⟨-, rfl⟩ := advanceTime_ok ha
  split at h
  · cases h
  split at h
  · cases h
  split at h
  · split at h <;> cases h
  next cn hc =>
  split at h
  · cases h
  next hs =>
  obtain hn | ⟨rv, hn, -⟩ := (m.expire now).nextRevision_cases
  · rw [hn] at h
    cases h
  rw [hn] at h
  dsimp only at h
  split at h
  · cases h
  · cases h
    exact ⟨⟨cn, hc, not_not.mp hs⟩, rfl⟩

/-- The desktop of a model never changes. -/
theorem ids_final (m ops) : (Run.final step m ops).desktopId = m.desktopId ∧
      (Run.final step m ops).desktopGeneration = m.desktopGeneration := by
  refine Run.final_induction (P := fun m' : WindowModel => m'.desktopId = m.desktopId ∧
    m'.desktopGeneration = m.desktopGeneration) ⟨rfl, rfl⟩ ?_ ops
  intro m' op h
  have hs : (m'.step op).2.desktopId = m'.desktopId ∧
      (m'.step op).2.desktopGeneration = m'.desktopGeneration := by
    have hc := m'.step_change op
    generalize m'.step op = answer at hc ⊢
    obtain ⟨r, m''⟩ := answer
    cases hc <;> exact ⟨rfl, rfl⟩
  exact ⟨hs.1.trans h.1, hs.2.trans h.2⟩

end WindowModel

namespace ModelState

/-! ## Every operation is a run of the window model -/

/-- Whatever was done, the window model was only called, and the snapshots
that it was given have a property. -/
def calls (P : WindowSnapshot → Prop) : Frame ModelState where
  rel s s' := s'.maxLiveWindows = s.maxLiveWindows ∧ ∃ ops,
    (∀ snapshot now, WindowOp.observe snapshot now ∈ ops → P snapshot) ∧
      s'.model = Run.final WindowModel.step s.model ops
  refl _ := ⟨rfl, [], by simp, rfl⟩
  trans := by
    rintro s₁ s₂ s₃ ⟨hmax, ops, hP, hops⟩ ⟨hmax', ops', hP', hops'⟩
    refine ⟨hmax'.trans hmax, ops ++ ops', fun snapshot now hmem => ?_, by rw [hops', hops, Run.final_append]⟩
    exact (List.mem_append.mp hmem).elim (hP snapshot now) (hP' snapshot now)

def evolves : Frame ModelState := calls fun _ => True

section Evolves

set_option synthInstance.maxSize 1000

variable {ε α : Type} {P : WindowSnapshot → Prop}

/-- A change around the model. -/
theorem framed_update {g : ModelState → ModelState} (hm : ∀ s, (g s).maxLiveWindows = s.maxLiveWindows)
    (hmo : ∀ s, (g s).model = s.model) : Framed (calls P) (Prog.update g : Prog ModelState ε Unit) :=
  ⟨.update fun s => ⟨hm s, [], by simp, hmo s⟩⟩

instance {n : ModelState → List Notice} :
    Framed (calls P) (Prog.update fun s => s.tell (n s) : Prog ModelState ε Unit) :=
  framed_update (fun _ => rfl) fun _ => rfl

instance {n : ModelState → List Notice} :
    Framed (calls P) (Prog.update fun s => (s.tell (n s)).publish : Prog ModelState ε Unit) :=
  framed_update (fun _ => rfl) fun _ => rfl

instance : Framed (calls P) (Prog.update publish : Prog ModelState ε Unit) :=
  framed_update (fun _ => rfl) fun _ => rfl

theorem framed_call (f : WindowModel → Except WindowModelError α × WindowModel) (op : WindowOp)
    (h : ∀ m, (f m).2 = (m.step op).2) (hP : ∀ sp now, op = .observe sp now → P sp) :
    Framed (calls P) (call f) := by
  refine ⟨fun s => ?_⟩
  have hop := h s.model
  rcases hf : f s.model with ⟨a | e, m⟩ <;> rw [hf] at hop <;> simp only [call, hf] <;>
    exact ⟨rfl, [op], fun sp now hm => hP sp now (List.mem_singleton.mp hm).symm, hop⟩

instance {now : MonotonicMillis} : Framed (calls P) (call (·.snapshotAll now)) :=
  framed_call _ (.snapshotAll now) (fun _ => rfl) (by simp)

instance {r : WindowRef} {now : MonotonicMillis} : Framed (calls P) (call (·.destroy r now)) :=
  framed_call _ (.destroy r now) (fun _ => rfl) (by simp)

instance {r : WindowRef} {now : MonotonicMillis} : Framed (calls P) (call (·.resolveExact r now)) :=
  framed_call _ (.resolveExact r now) (fun _ => rfl) (by simp)

instance {x : Prog ModelState WindowModelError α} [Framed (calls P) x] : Framed (calls P) (adapt x) := by
  dsimp only [adapt]
  infer_instance

instance {x : Prog ModelState WindowModelError α} [Framed (calls P) x] : Framed (calls P) (asked x) := by
  dsimp only [asked]
  infer_instance

instance {x : Except ε α} : Framed (calls P) (require x) := by
  cases x <;> dsimp only [require] <;> infer_instance

instance {e : ε} : Framed (calls P) (advanceCorrelationEpoch e) := by
  refine .bind fun s => ?_
  cases checkedAdd s.correlationEpoch 1 with
  | none => exact ⟨.fail e⟩
  | some ep => exact framed_update (fun _ => rfl) fun _ => rfl

instance {available : Bool} : Framed (calls P) (setAvailable available : Prog ModelState ε Unit) :=
  framed_update (fun _ => rfl) fun _ => rfl

instance {uc : Bool} : Framed (calls P) (voidCorrelations uc) := by
  dsimp only [voidCorrelations]
  infer_instance

local instance : Fact True := ⟨trivial⟩

instance {sp : WindowSnapshot} {now : MonotonicMillis} [hP : Fact (P sp)] : Framed (calls P) (observe sp now) := by
  refine ⟨.bind (framed_call (·.observe sp now) (.observe sp now) (fun _ => rfl) ?_).keeps fun c => ?_⟩
  · rintro _ _ ⟨rfl, rfl⟩
    exact hP.out
  · cases c <;> exact .pure _

local instance {sn : List WindowSnapshot} : Fact (∀ sp ∈ sn, True) := ⟨fun _ _ => trivial⟩

instance {sn : List WindowSnapshot} {now : MonotonicMillis} [hP : Fact (∀ sp ∈ sn, P sp)] :
    Framed (calls P) (observeAll now sn) := by
  obtain ⟨hP⟩ := hP
  induction sn with
  | nil => exact ⟨.pure []⟩
  | cons sp sn ih =>
    have hsp : Fact (P sp) := ⟨hP sp List.mem_cons_self⟩
    have hsn := ih fun o ho => hP o (List.mem_cons_of_mem sp ho)
    dsimp only [observeAll]
    infer_instance

instance {now : MonotonicMillis} {r : List WindowRef} : Framed (calls P) (destroyAll now r) := by
  induction r <;> dsimp only [destroyAll] <;> infer_instance

variable {host : ModelHost} {now : MonotonicMillis}

instance {i it ip ep} : Framed (calls fun _ => True) (reconcileRawWithEventPolicy host i it now ip ep) := by
  dsimp only [reconcileRawWithEventPolicy]
  infer_instance

instance : Framed (calls fun _ => True) (invalidateForPendingResync host now) := by
  have hp : Framed (calls fun _ => True) (Prog.update fun s : ModelState => { s with rawResyncPending := true } :
      Prog ModelState ObservationAdapterError Unit) := framed_update (fun _ => rfl) fun _ => rfl
  dsimp only [invalidateForPendingResync]
  infer_instance

instance {xid : UInt32} : Framed (calls P) (removeXid host xid now) := by
  refine .bind fun (_, current) => ?_
  dsimp only
  split <;> infer_instance

instance {r : WindowRef} : Framed (calls P) (removeExact host r now) := by
  dsimp only [removeExact]
  infer_instance

instance {i} : Framed (calls fun _ => True) (observeRaw host i now) := by
  dsimp only [observeRaw]
  infer_instance

instance framed_replaceProcessCorrelations {er ece eg a} :
    Framed (calls fun _ => True) (replaceProcessCorrelations host er ece eg a now) := by
  dsimp only [replaceProcessCorrelations]
  repeat refine Framed.bind fun _ => ?_
  split <;> infer_instance

instance framed_invalidateProcessCorrelations [hP : ∀ cn, Fact (∀ sp ∈ withBaseline cn, P sp)] :
    Framed (calls P) (invalidateProcessCorrelations host now) := by
  dsimp only [invalidateProcessCorrelations]
  infer_instance

instance {er w} : Framed (calls fun _ => True) (replaceAccessibilityCorrelations host er w now) := by
  dsimp only [replaceAccessibilityCorrelations]
  infer_instance

end Evolves

/-! ## Operations that return -/

section Returns

variable {ε α : Type} {s : ModelState} {now : MonotonicMillis}

theorem returns_call {f : WindowModel → Except WindowModelError α × WindowModel} {Q : α → ModelState → Prop}
    (h : ∀ a m, f s.model = (.ok a, m) → Q a { s with model := m }) : Returns (call f) s Q := by
  rcases hf : f s.model with ⟨e | a, m⟩
  · simp [Returns, Ends, call, hf]
  · simpa [Returns, Ends, call, hf] using h a m hf

theorem returns_require {x : Except ε α} {Q : α → ModelState → Prop} (h : ∀ a, x = .ok a → Q a s) :
    Returns (require x) s Q := by
  cases x with
  | ok a => exact h a rfl
  | error e => trivial

theorem returns_snapshotAll {Q : WindowModelRevision × List WindowSnapshot → ModelState → Prop}
    (h : s.model.lastNow ≤ now → Q (s.model.revision, s.model.liveWindows.map (projectSnapshot · s.model.revision))
      { s with model := s.model.expire now }) : Returns (call (·.snapshotAll now)) s Q := by
  refine returns_call fun (revision, snapshots) m hc => ?_
  obtain ⟨hn, rfl, rfl, rfl⟩ := WindowModel.snapshotAll_ok hc
  exact h hn

/-- Only the window model changed. -/
def OnlyModel (s s' : ModelState) : Prop := s' = { s with model := s'.model }

theorem OnlyModel.trans {s₁ s₂} (h₁ : OnlyModel s s₁) (h₂ : OnlyModel s₁ s₂) : OnlyModel s s₂ := by
  unfold OnlyModel at *
  rw [h₂, h₁]

theorem OnlyModel.notices {s'} (h : OnlyModel s s') : s'.notices = s.notices := by
  rw [h]

theorem returns_observe {sp} :
    Returns (observe sp now) s fun st s' => st.glance = sp.glance ∧ OnlyModel s s' ∧
      (s.model.Sound → s'.model.Sound) ∧
      s'.model.glances = Function.update s.model.glances sp.window.xid (some sp.glance) ∧
      ∀ x, s.model.glances sp.window.xid = some x → x.window = sp.window := by
  have he : observe sp now = call (·.observe sp now) >>= fun c => pure c.snapshot :=
    congrArg _ (funext fun c => by cases c <;> rfl)
  rw [he]
  refine returns_bind.mpr (returns_call fun c m hc => ?_)
  obtain ⟨hst, ⟨cr, hl⟩, hsa⟩ := WindowModel.observe_ok hc
  have hg : c.snapshot.glance = sp.glance := by rw [hst]; rfl
  refine ⟨hg, rfl, fun hs => ?_, ?_, ?_⟩
  · have hm : m = (s.model.step (.observe sp now)).2 := by
      simp only [WindowModel.step, hc, Prod.map_apply, id_eq]
    rw [hm]
    exact hs.change (s.model.step_change _)
  · funext xid
    simp only [WindowModel.glances, hl, getElem?_insert_eq]
    by_cases hxi : sp.window.xid = xid
    · subst hxi
      simp [hg]
    · rw [Function.update_of_ne (Ne.symm hxi), if_neg hxi]
      rfl
  · intro x hx
    obtain ⟨cn, hcu, rfl⟩ := Option.map_eq_some_iff.mp hx
    exact hsa cn hcu

theorem returns_observeAll {sn} :
    Returns (observeAll now sn) s fun st s' => st.map (·.glance) = sn.map (·.glance) ∧ OnlyModel s s' ∧
      (s.model.Sound → s'.model.Sound) ∧
      s'.model.glances = s.model.glances.overlay (sn.map (·.glance)) := by
  induction sn generalizing s with
  | nil => exact ⟨rfl, rfl, id, rfl⟩
  | cons sp sn ih =>
    refine (returns_observe).seq fun st s₁ ⟨hst, hs₁, hso, hg, _⟩ =>
      Ends.seq ih fun rest s₂ ⟨hr, hs₂, hso', hg'⟩ => ?_
    refine ⟨by simp [hst, hr], hs₁.trans hs₂, fun hs => hso' (hso hs), ?_⟩
    rw [hg', hg]
    rfl

theorem returns_destroyAll {r} :
    Returns (destroyAll now r) s fun _ s' => OnlyModel s s' ∧ ∀ xid, s'.model.glances xid =
        if xid ∈ r.map (·.xid) then none else s.model.glances xid := by
  induction r generalizing s with
  | nil => exact ⟨rfl, fun xid => by simp⟩
  | cons rf r ih =>
    refine Ends.seq (Q := fun _ s' => OnlyModel s s' ∧
      ∀ xid, s'.model.glances xid = if xid = rf.xid then none else s.model.glances xid) ?_ ?_
    · refine returns_call fun t m hc => ⟨rfl, fun xid => ?_⟩
      obtain ⟨-, hl⟩ := WindowModel.destroy_ok hc
      simp only [WindowModel.glances, hl, getElem?_erase_eq, eq_comm]
      split <;> rfl
    · rintro _ s₁ ⟨hs₁, hf⟩
      refine Returns.mono ih fun _ s₂ hs₂ => ⟨hs₁.trans hs₂.1, fun xid => ?_⟩
      rw [hs₂.2, hf]
      by_cases hx : xid = rf.xid <;> simp [hx]

theorem returns_advanceCorrelationEpoch (e : ε) :
    Returns (advanceCorrelationEpoch e) s fun _ s' => s'.notices = s.notices ∧ s'.model = s.model := by
  refine ends_read_bind.mpr ?_
  split
  · trivial
  · exact ⟨rfl, rfl⟩

theorem returns_voidCorrelations {uc} :
    Returns (voidCorrelations uc) s fun _ s' => s'.notices = s.notices ∧ s'.model = s.model := by
  refine ends_when.mpr ⟨fun _ => ?_, fun _ => ⟨rfl, rfl⟩⟩
  refine (returns_advanceCorrelationEpoch _).seq fun _ s₁ h => ?_
  exact h

end Returns

/-! ## References -/

/-- An XID without a reference is one no reference has. -/
theorem references_of_eq_none {rf xid} : (References.of rf)[xid]? = none ↔ ∀ rr ∈ rf, rr.xid ≠ xid := by
  have hf : ∀ (rf : List WindowRef) (map : References),
      (rf.foldl (fun map r => map.insert r.xid r) map)[xid]? = none ↔
      (∀ rr ∈ rf, rr.xid ≠ xid) ∧ map[xid]? = none := by
    intro rf
    induction rf with
    | nil => simp
    | cons r rf ih =>
      intro map
      rw [List.foldl_cons, ih, getElem?_insert_eq]
      by_cases hx : r.xid = xid <;> simp [hx]
  refine (hf rf ∅).trans ?_
  simp

variable {d : List (WindowSnapshotInput × WindowRef)}

theorem reconciledSnapshots_ok {bf rv sr r i n} (h : reconciledSnapshots bf rv sr r i d = .ok n) :
    n.map (·.glance) = d.map fun e => e.1.glance e.2 := by
  induction d generalizing i n with
  | nil =>
    cases h
    rfl
  | cons e d ih =>
    obtain ⟨ip, rf⟩ := e
    obtain ⟨st, -, h⟩ := bind_eq_ok.mp h
    obtain ⟨sp, hs, h⟩ := bind_eq_ok.mp h
    obtain ⟨rest, hr, h⟩ := bind_eq_ok.mp h
    cases h
    obtain ⟨raw, hra, h⟩ := bind_eq_ok.mp hs
    cases h
    obtain ⟨-, hgl, -⟩ := normalizeSnapshot_ok hra
    rw [List.map_cons, List.map_cons, ih hr]
    congr 1

/-! ## Committed changes -/

/-- The operation told the change it made, at most one window by itself. -/
def Committed (host : ModelHost) (refresh : Option Refresh) (s s' : ModelState) : Prop :=
  ∃ notices revision, s'.notices = s.notices ++ notices ∧
    Tells host.fits (s'.scope revision) refresh s.model.glances s'.model.glances notices

theorem Committed.tell {host : ModelHost} {rf : Option Refresh} {s s' : ModelState} {n : List Notice}
    {r : WindowModelRevision} (hn : s'.notices = s.notices)
    (h : Tells host.fits (s'.scope r) rf s.model.glances s'.model.glances n) : Committed host rf s (s'.tell n) :=
  ⟨n, r, by simp [ModelState.tell, hn], h⟩

theorem Committed.nothing {host rf s s'} (hn : s'.notices = s.notices) (hg : s'.model.glances = s.model.glances) :
    Committed host rf s s' :=
  ⟨[], s.model.revision, by simpa using hn, .nothing hg⟩

variable {host : ModelHost} {s : ModelState} {now : MonotonicMillis}

/-- What the removals of a reconciliation leave is seen again. -/
theorem overlay_reconciled {b : CommittedView} (hk : b.glances.Keyed) {p : ReconcileIdentityPolicy}
    {g : Glances} (hg : ∀ xid, g xid = if xid ∈ ((b.snapshots.map (·.window)).filter fun r =>
        p = .invalidateAll || !(References.of (d.map (·.2))).contains r.xid).map (·.xid)
      then none else b.glances xid) : g.overlay (d.map fun e => e.1.glance e.2) =
      overlay (fun _ => none) (d.map fun e => e.1.glance e.2) := by
  refine overlay_congr fun xid hxi => ?_
  rw [hg]
  split
  · rfl
  next hke =>
  refine Option.eq_none_iff_forall_ne_some.mpr fun x hx => hke ?_
  -- its XID is not desired, so it is one of those removed
  obtain ⟨sp, hm, rfl, rfl⟩ := ((CommittedView.shows_snapshots hk).iff xid x).mp hx
  have ha : (References.of (d.map (·.2)))[sp.window.xid]? = none := by
    refine references_of_eq_none.mpr fun r hr => ?_
    obtain ⟨e, he, rfl⟩ := List.mem_map.mp hr
    exact hxi (e.1.glance e.2) (List.mem_map_of_mem he)
  refine List.mem_map.mpr ⟨sp.window, List.mem_filter.mpr ⟨List.mem_map_of_mem hm, ?_⟩, rfl⟩
  rw [Std.TreeMap.contains_eq_isSome_getElem?, ha]
  simp

/-- A reconciliation that returns tells the change. -/
theorem returns_reconcileRaw (hs : s.model.Sound) (iv : RootInventory) (i : List WindowSnapshotInput)
    (ip : ReconcileIdentityPolicy) {ep : ReconcileEventPolicy} (hp : ep ≠ .initialBaseline) :
    Returns (reconcileRawWithEventPolicy host iv i now ip ep) s fun _ s' => Committed host none s s' := by
  refine returns_bind.mpr (returns_require fun _ _ => ?_)
  refine returns_bind.mpr (returns_guard fun _ => ?_)
  refine returns_call_bind.mpr (returns_snapshotAll fun hnw => ?_)
  refine returns_bind.mpr (returns_call_bind.mpr (returns_require fun nb _ => ?_))
  refine returns_bind.mpr (returns_require fun d _ => ?_)
  refine returns_bind.mpr (returns_require fun n hn => ?_)
  refine returns_call_bind.mpr (returns_destroyAll.mono fun _ s₁ ⟨hs₁, hde⟩ => ?_)
  refine returns_call_bind.mpr (returns_observeAll.mono
    fun committed s₂ ⟨hc, hs₂, _, ho⟩ => ?_)
  refine returns_bind.mpr (returns_bind.mpr (returns_voidCorrelations.mono fun _ s₃ ⟨hno, hm⟩ => ?_))
  have hb : (CommittedView.new s.model.revision
      (s.model.liveWindows.map (projectSnapshot · s.model.revision))).glances = s.model.glances :=
    CommittedView.glances_of_shows hs.shows
  have hg := reconciledSnapshots_ok hn
  have ha : s₂.model.glances = overlay (fun _ => none) (d.map fun e => e.1.glance e.2) := by
    rw [ho, hg]
    have hk := fun xid => (hde xid).trans (if_congr Iff.rfl rfl (congrFun hb xid).symm)
    exact overlay_reconciled CommittedView.new_keyed hk
  refine .tell ?_ (.transition hp hb ?_)
  · rw [hno, hs₂.notices, hs₁.notices]
  · rw [CommittedView.new_glances, hc, hg, ← ha, hm]

/-- The windows are invalidated behind a demand to resynchronize. -/
theorem returns_invalidateForPendingResync (hs : s.model.Sound) :
    Returns (invalidateForPendingResync host now) s fun _ s' => Committed host none s s' := by
  refine ends_update_bind.mpr ?_
  refine (returns_reconcileRaw (s := s.tell [.resync]) hs _ _ _ (by simp)).seq fun _ s₁ ⟨n, r, hn, ht⟩ => ?_
  exact ⟨.resync :: n, r, by simp [hn, ModelState.tell], ht.resync⟩

/-- A raw observation that returns tells its window. -/
theorem returns_observeRaw (hs : s.model.Sound) {i} : Returns (observeRaw host i now) s fun _ s' =>
    Committed host (some ⟨i.window, i.isActive, i.isFocused⟩) s s' := by
  refine returns_bind.mpr (returns_require fun _ _ => ?_)
  refine returns_call_bind.mpr (returns_snapshotAll fun hnw => ?_)
  refine returns_bind.mpr (returns_bind.mpr (returns_require fun r hre => ?_))
  refine returns_bind.mpr (returns_require fun raw hr => ?_)
  obtain ⟨hw, hg, -⟩ := normalizeSnapshot_ok hr
  have hsh := hs.shows
  set snapshots := s.model.liveWindows.map (projectSnapshot · s.model.revision)
  have hf := hsh.find_xid i.window
  generalize snapshots.find? (·.window.xid = i.window) = previous at hf ⊢
  have hso : (refreshedSnapshot previous raw).glance = i.glance r := hg
  dsimp only
  split
  · exact .nothing rfl rfl
  next hc =>
    refine returns_call_bind.mpr (returns_observe.mono
      fun stored s₁ ⟨hg₁, hs₁, _, hgl, hsa⟩ => ?_)
    refine returns_voidCorrelations.seq fun _ s₂ ⟨hno, hm⟩ => ?_
    rw [hso] at hg₁ hgl
    have hst : stored.window = r := congrArg Glance.window hg₁
    have hsn : (refreshedSnapshot previous raw).window = r := congrArg Glance.window hso
    rw [hsn, ← hw] at hgl hsa
    have hn : s₂.model.glances = Function.update s.model.glances i.window (some (i.glance r)) := by
      rw [hm, hgl]
      rfl
    refine .tell (by rw [hno, hs₁.notices]) (.observation ?_ hsh ?_ ?_ ?_)
    · obtain ⟨hac, hfo⟩ : stored.state.active = i.isActive ∧ stored.state.focused = i.isFocused :=
        ⟨congrArg Glance.active hg₁, congrArg Glance.focused hg₁⟩
      rw [hst, ← hw, hac, hfo]
      exact rfl
    · intro hnn
      rw [hst, ← hw]
      rw [hf, hnn, Option.map_none]
    · intro p hp
      rw [hp, Option.map_some] at hf
      refine ⟨p.glance, ?_, ?_⟩
      · rw [hst, ← hw, hf]
      · rw [hst]
        exact hsa p.glance hf
    · rw [hn, hst, ← hw, hg₁]

/-- A removal that returns tells the window of its XID. -/
theorem returns_removeXid (hs : s.model.Sound) {xid} :
    Returns (removeXid host xid now) s fun _ s' => Committed host (some ⟨xid, false, false⟩) s s' := by
  refine returns_call_bind.mpr (returns_snapshotAll fun hnw => ?_)
  have hsh := hs.shows
  set snapshots := s.model.liveWindows.map (projectSnapshot · s.model.revision)
  dsimp only
  split
  · exact .nothing rfl rfl
  next p hp =>
    have hx : p.window.xid = xid := by simpa using List.find?_some hp
    refine returns_call_bind.mpr (returns_call fun _ m hc => ?_)
    refine returns_voidCorrelations.seq fun _ s₁ ⟨hnt, hm⟩ => ?_
    obtain ⟨-, hl⟩ := WindowModel.destroy_ok hc
    refine .tell hnt (.removal (hx ▸ rfl) hsh (List.mem_of_find?_eq_some hp) ?_)
    rw [hm]
    funext other
    simp only [WindowModel.glances, hl, getElem?_erase_eq]
    by_cases ho : p.window.xid = other
    · subst ho
      simp
    · rw [if_neg ho, Function.update_of_ne (Ne.symm ho)]
      rfl

theorem returns_removeExact (hs : s.model.Sound) {w} :
    Returns (removeExact host w now) s fun _ s' => Committed host (some ⟨w.xid, false, false⟩) s s' := by
  refine returns_call_bind.mpr (returns_call fun r m hc => ?_)
  -- a window that resolves leaves the model but for its clock
  have hm := s.model.resolveExact_change w now
  rw [hc] at hm
  cases hm with
  | read hn => exact returns_removeXid (s := { s with model := s.model.expire now }) (hs.expire hn)

/-! ## Correlations -/

/-- Windows stored again as they were seen change no glance. -/
theorem returns_observeAll_same (hs : s.model.Sound) (hn : s.model.lastNow ≤ now) (sn : List WindowSnapshot)
    (hsa : ∀ sp ∈ sn, ∃ p ∈ s.model.liveWindows.map (projectSnapshot · s.model.revision),
      sp.glance = p.glance) : Returns (observeAll now sn) { s with model := s.model.expire now } fun _ s' =>
      s'.notices = s.notices ∧ s'.model.Sound ∧ s'.model.glances = s.model.glances := by
  refine returns_observeAll.mono fun _ s' ⟨_, hs', hso, hgl⟩ =>
    ⟨hs'.notices, hso (hs.expire hn), ?_⟩
  rw [hgl, overlay_of_same]
  · rfl
  intro x hx
  obtain ⟨sp, hsn, rfl⟩ := List.mem_map.mp hx
  obtain ⟨p, hp, hg⟩ := hsa sp hsn
  have hw : sp.glance.window = p.window := congrArg Glance.window hg
  rw [hw, hg]
  exact hs.shows.of_mem hp

/-- A change that leaves the glances is told from the windows before and after. -/
theorem Committed.tell_same (s' : ModelState) (hs : s.model.Sound) (hs' : s'.model.Sound)
    (hn : s'.notices = s.notices) (r b a : WindowModelRevision) :
    Committed host none s (s'.tell (transitionNotices host.fits (s'.scope r)
      (CommittedView.new b (s.model.liveWindows.map (projectSnapshot · s.model.revision)))
      (CommittedView.new a (s'.model.liveWindows.map (projectSnapshot · s'.model.revision))) .incremental)) := by
  refine .tell hn (.transition (by simp) (CommittedView.glances_of_shows hs.shows) ?_)
  exact CommittedView.glances_of_shows hs'.shows

variable {sp : WindowSnapshot}

theorem assigned_glance {s₀ : ModelState}
    {a : Std.TreeMap UInt32 ProcessCorrelationAssignment compare} {d : WindowSnapshot}
    (h : s₀.assigned a sp = .ok d) : d.glance = sp.glance := by
  unfold assigned at h
  split at h
  · cases h
  split at h
  · cases h
  obtain ⟨p, -, h⟩ := bind_eq_ok.mp h
  obtain ⟨-, h⟩ := andThen_eq_ok.mp h
  cases h
  rfl

variable {cn : List WindowSnapshot}

theorem mem_mapM_assigned {s₀ : ModelState}
    {a : Std.TreeMap UInt32 ProcessCorrelationAssignment compare} {d : List WindowSnapshot}
    (h : cn.mapM (s₀.assigned a) = .ok d) : ∀ sp ∈ d, ∃ p ∈ cn, sp.glance = p.glance := by
  induction cn generalizing d with
  | nil =>
    cases h
    simp
  | cons f cn ih =>
    rw [List.mapM_cons] at h
    obtain ⟨st, hst, h⟩ := bind_eq_ok.mp h
    obtain ⟨rest, hr, h⟩ := bind_eq_ok.mp h
    cases h
    intro sp hs
    rcases List.mem_cons.mp hs with rfl | hs
    · exact ⟨f, List.mem_cons_self, assigned_glance hst⟩
    · obtain ⟨p, hp, hg⟩ := ih hr sp hs
      exact ⟨p, List.mem_cons_of_mem f hp, hg⟩

theorem returns_replaceProcessCorrelations (hs : s.model.Sound) (er : WindowModelRevision)
    (ece : Nat) (eg : DesktopGeneration) (a : List ProcessCorrelationAssignment) :
    Returns (replaceProcessCorrelations host er ece eg a now) s fun r s' =>
      Committed host none s s' ∧ r = s'.model.revision := by
  refine returns_bind.mpr (returns_guard fun _ => ?_)
  refine returns_bind.mpr (returns_guard fun _ => ?_)
  refine returns_call_bind.mpr (returns_snapshotAll fun hn => ?_)
  refine returns_bind.mpr (returns_guard fun _ => ?_)
  refine returns_guard fun _ => ?_
  refine returns_bind.mpr (returns_require fun bx _ => ?_)
  refine returns_bind.mpr (returns_require fun d hd => ?_)
  dsimp only
  split
  · exact ⟨.nothing rfl rfl, rfl⟩
  next hc =>
  -- the windows are stored with other processes, if at all
  have hst : ∀ c, Returns (Prog.when c do
        let _ ← asked (observeAll now d)
        pure ()) { s with model := s.model.expire now } fun _ s' =>
      s'.notices = s.notices ∧ s'.model.Sound := by
    intro c
    refine ends_when.mpr ⟨fun _ => ?_, fun _ => ⟨rfl, hs.expire hn⟩⟩
    have ho := returns_observeAll_same hs hn d (mem_mapM_assigned hd)
    exact returns_call_bind.mpr (ho.mono fun _ s' h => ⟨h.1, h.2.1⟩)
  refine (hst _).seq fun _ s₁ ⟨hno, hso⟩ => ?_
  refine returns_bind.mpr (returns_bind.mpr ((returns_advanceCorrelationEpoch _).mono
    fun _ s₂ ⟨hno₂, hm₂⟩ => ?_))
  refine returns_call_bind.mpr (returns_snapshotAll fun hn₂ => ?_)
  have hso₂ : s₂.model.Sound := by rw [hm₂]; exact hso
  refine ⟨Committed.tell_same { s₂ with model := s₂.model.expire now } hs (hso₂.expire hn₂) ?_ _ _ _, rfl⟩
  exact hno₂.trans hno

theorem mem_withBaseline (h : sp ∈ withBaseline cn) : ∃ p ∈ cn, sp.glance = p.glance := by
  obtain ⟨p, hp, hs⟩ := List.mem_filterMap.mp h
  dsimp only at hs
  split at hs
  · cases hs
  · cases hs
    exact ⟨p, hp, rfl⟩

theorem mem_withAccessibility (d) (h : sp ∈ withAccessibility d cn) : ∃ p ∈ cn, sp.glance = p.glance := by
  obtain ⟨p, hp, hs⟩ := List.mem_filterMap.mp h
  dsimp only at hs
  split at hs
  · cases hs
  · cases hs
    exact ⟨p, hp, rfl⟩

theorem returns_invalidateProcessCorrelations (hs : s.model.Sound) :
    Returns (invalidateProcessCorrelations host now) s fun _ s' => Committed host none s s' := by
  refine returns_call_bind.mpr (returns_snapshotAll fun hno => ?_)
  have ho := returns_observeAll_same hs hno _ fun _ => mem_withBaseline
  refine returns_call_bind.mpr (ho.mono fun _ s₁ ⟨hn, hso, hg⟩ => ?_)
  have ha : ∀ c, Returns (Prog.when c (advanceCorrelationEpoch ControlPlaneError.internal)) s₁
      fun _ s' => s'.notices = s₁.notices ∧ s'.model = s₁.model := fun c =>
    ends_when.mpr ⟨fun _ => returns_advanceCorrelationEpoch _, fun _ => ⟨rfl, rfl⟩⟩
  refine returns_bind.mpr (returns_bind.mpr ((ha _).mono fun _ s₂ ⟨hn₂, hm₂⟩ => ?_))
  refine returns_bind.mpr (returns_bind.mpr ?_)
  show Returns (_ : Prog ModelState ControlPlaneError WindowModelRevision)
    { s₂ with processCorrelationAvailable := false } _
  have hn₃ : s₂.notices = s.notices := hn₂.trans hn
  have hso₃ : s₂.model.Sound := by rw [hm₂]; exact hso
  have hg₃ : s₂.model.glances = s.model.glances := (congrArg WindowModel.glances hm₂).trans hg
  refine returns_bind.mpr (Returns.mono (Q := fun _ s' => Committed host none s s')
    (ends_when.mpr ⟨fun _ => ?_, fun _ => .nothing hn₃ hg₃⟩) fun _ s₄ h => ?_)
  · refine returns_call_bind.mpr (returns_snapshotAll fun hno₂ => ?_)
    exact Committed.tell_same ⟨_, s₂.model.expire now, _, _, _, _, _⟩ hs (hso₃.expire hno₂) hn₃ _ _ _
  · exact returns_bind.mpr (ends_when.mpr ⟨fun _ => h, fun _ => h⟩)

theorem returns_replaceAccessibilityCorrelations (hs : s.model.Sound) (er : WindowModelRevision)
    (w : List WindowRef) :
    Returns (replaceAccessibilityCorrelations host er w now) s fun _ s' => Committed host none s s' := by
  refine returns_bind.mpr (returns_guard fun _ => ?_)
  refine returns_call_bind.mpr (returns_snapshotAll fun hn => ?_)
  refine returns_bind.mpr (returns_guard fun _ => ?_)
  refine returns_bind.mpr (returns_require fun d _ => ?_)
  have ho := returns_observeAll_same hs hn _ fun _ => mem_withAccessibility d
  refine returns_call_bind.mpr (ho.mono fun _ s₁ ⟨hno, hso, hg⟩ => ?_)
  split
  · exact .nothing hno hg
  · refine returns_call_bind.mpr (returns_snapshotAll fun hn₁ => ?_)
    exact Committed.tell_same ⟨_, s₁.model.expire now, _, _, _, _, _⟩ hs (hso.expire hn₁) hno _ _ _

end ModelState

end Xenoteer
