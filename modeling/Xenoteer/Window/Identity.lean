/-
Window references over whole runs of the model: a reference is issued once,
resolves while its window stands and never names another window.

The one call that leaves the model between two states is a `destroy` whose
tombstone would expire past the end of the clock (`OverflowsAtRemoval`): it
returns an error after the window is gone.
-/
import Xenoteer.Window.ModelFacts

namespace Xenoteer.WindowModel

open Lib.Run Lib.TreeMapKeys Lib.Lifetimes Lib.Trace

variable {m m' : WindowModel} {op : WindowOp} {rp : Except WindowModelError WindowReply}

/-! ## A failed call -/

/-- Only tombstones that expired by `now` are gone. -/
def OnlyExpired (m m' : WindowModel) (now : MonotonicMillis) : Prop :=
  m'.live = m.live ∧ m'.revision = m.revision ∧ m'.lastBirthSerial = m.lastBirthSerial ∧
    ∃ expired, m.tombstones = expired ++ m'.tombstones ∧ ∀ entry ∈ expired, entry.expiresAt ≤ now

theorem onlyExpired_expire {m now} : OnlyExpired m (m.expire now) now := by
  refine ⟨rfl, rfl, rfl, m.tombstones.takeWhile fun e => e.expiresAt ≤ now, ?_, ?_⟩
  · exact List.takeWhile_append_dropWhile.symm
  · intro e he
    simpa using List.all_eq_true.mp List.all_takeWhile e he

theorem Change.onlyExpired {e} (h : Change m op (.error e) m')
    (hs : ¬ m.OverflowsAtRemoval op) : OnlyExpired m m' op.now := by
  cases h with
  | regressed => exact ⟨rfl, rfl, rfl, [], rfl, by simp⟩
  | refused => exact onlyExpired_expire
  | lost hl => exact absurd hl hs

/-- The removal whose tombstone could not expire fails with the revision
already taken and the window already gone. -/
theorem step_of_overflows (h : m.OverflowsAtRemoval op) :
    (m.step op).1 = .error .clockOverflow ∧ m.revision.value < (m.step op).2.revision.value := by
  cases op with
  | destroy rf now =>
    obtain ⟨hno, hv, hs, hl, hm, ho⟩ := h
    obtain ⟨c, hc, hsa⟩ := Option.map_eq_some_iff.mp hl
    have hc' : (m.expire now).live[rf.xid]? = some c := hc
    have hs' : (m.expire now).requireScope rf = .ok () := hs
    have he : checkedAdd now (m.expire now).limits.tombstoneTtlMs = none := checkedAdd_eq_none.mpr ho
    obtain hn | ⟨r, hn, hva, -⟩ := (m.expire now).nextRevision_cases
    · have ha : checkedAdd m.revision.value 1 = some (m.revision.value + 1) :=
        checkedAdd_eq_some.mpr ⟨hm, rfl⟩
      simp [nextRevision, WindowModel.expire, ha, WindowModelRevision.new] at hn
    · have hlt : m.revision.value < r.value := Nat.lt_of_lt_of_eq (Nat.lt_succ_self _) hva.symm
      simp only [step, destroy, advanceTime, Nat.not_lt.mpr hno, if_false, hv, hs', hc', hsa,
        ne_eq, not_true_eq_false, hn, he]
      exact ⟨rfl, hlt⟩
  | observe | resolveExact | snapshotAll | snapshotQueryRecords => exact h.elim

/-- A call that returns an error changes nothing but expired tombstones,
exactly when it is not a removal whose tombstone could not expire. -/
theorem failed_call_changes_nothing_iff (m : WindowModel) (op : WindowOp) :
    (∀ e, (m.step op).1 = .error e → OnlyExpired m (m.step op).2 op.now) ↔ ¬ m.OverflowsAtRemoval op := by
  constructor
  · intro h ho
    obtain ⟨he, hlt⟩ := step_of_overflows ho
    obtain ⟨-, hr, -⟩ := h _ he
    rw [hr] at hlt
    exact Nat.lt_irrefl _ hlt
  · intro hs e he
    have hc := m.step_change op
    rw [he] at hc
    exact hc.onlyExpired hs

/-- A window is observed and destroyed at the last instant of the clock: the
call fails, and the window is gone at a new revision. -/
theorem failed_destroy_removes_window :
    let m := final step empty [.observe (.bare (.nth 1)) 0]
    let a := m.step (.destroy (.nth 1) u64Max)
    a.1 = .error .clockOverflow ∧ m.liveReference 1 = some (.nth 1) ∧
      a.2.liveReference 1 = none ∧ a.2.tombstones = [] ∧ a.2.revision ≠ m.revision := by
  decide +kernel

/-! ## The windows that stand -/

/-- The references that the answered calls created, in order. -/
def created (log : List (WindowOp × Except WindowModelError WindowReply)) : List WindowRef :=
  log.filterMap fun answered => answered.2.toOption.bind WindowReply.born

/-- What an answered call says about a reference: that it was created, that
it was destroyed, or nothing. A refusal says nothing. -/
def mark (reference : WindowRef) (answered : WindowOp × Except WindowModelError WindowReply) : Mark :=
  match answered.2 with
  | .error _ => .other
  | .ok reply =>
    if reply.born = some reference then .seen else if reply.died = some reference then .ended else .other

/-- The birth serial of the reference is taken. -/
def IsIssued (m : WindowModel) (reference : WindowRef) :
    Prop := reference.observedGeneration ≤ m.lastBirthSerial

variable {rf : WindowRef}

theorem Change.lived (h : Change m op rp m') (hs : ¬ m.OverflowsAtRemoval op)
    {mr} (hl : Lived (m.IsLive rf) (m.IsIssued rf) mr) :
    Lived (m'.IsLive rf) (m'.IsIssued rf) (mr ++ [mark rf (op, rp)]) := by
  cases h with
  | regressed | refused => exact hl.other Iff.rfl id
  | read hn hb hd =>
    simp only [mark, hb, hd, reduceCtorEq, if_false]
    exact hl.other Iff.rfl id
  | @created s now r hn hv hsc ha hr hse =>
    have hi : m.IsIssued rf → rf.observedGeneration ≤ s.window.observedGeneration := by
      intro h
      unfold IsIssued at h
      omega
    by_cases heq : s.window = rf
    · -- the serial of a new birth is not taken
      subst heq
      have hf : ¬ m.IsIssued s.window := by
        unfold IsIssued
        omega
      simp only [mark, WindowReply.born, if_true]
      exact hl.seen (.inr hf) (isLive_put.mpr (.inl rfl)) (Nat.le_refl _)
    · simp only [mark, WindowReply.born, WindowReply.died, Option.some.injEq, heq, if_false, reduceCtorEq]
      refine hl.other (isLive_put.trans ?_) hi
      constructor
      · rintro (h | ⟨-, h⟩)
        · exact absurd h.symm heq
        · exact h
      · intro hli
        refine .inr ⟨?_, hli⟩
        -- nothing is live under the XID of a new birth
        intro hx
        obtain ⟨w, hw, -⟩ := hli
        rw [hx, ha] at hw
        cases hw
  | @updated s now r c hn hc hsa =>
    have hli : m.IsLive s.window := ⟨c, hc, hsa⟩
    refine hl.other (isLive_put.trans ?_) id
    constructor
    · rintro (rfl | ⟨-, h⟩)
      · exact hli
      · exact h
    · intro h
      by_cases hx : rf.xid = s.window.xid
      · exact .inl (h.eq_of_xid hli hx)
      · exact .inr ⟨hx, h⟩
  | @destroyed rm now r hn hli =>
    have ht : ((m.expire now).take rm r).IsLive rf ↔ rf.xid ≠ rm.xid ∧ m.IsLive rf := isLive_take
    simp only [mark, WindowReply.born, WindowReply.died, reduceCtorEq, if_false, Option.some.injEq]
    refine hl.ended_or_other (fun heq h => (ht.mp h).1 (by rw [heq])) (fun hne => ?_) id
    exact ht.trans ⟨And.right, fun h => ⟨fun hx => hne (hli.eq_of_xid h hx.symm), h⟩⟩
  | lost hlo => exact absurd hlo hs

variable {m₀ : WindowModel}

/-- In a run without such a removal, the live windows are those that were
created and not destroyed since. -/
theorem lived_final (h₀ : m₀.live = ∅) (ops : List WindowOp)
    (ho : along step (fun m op => ¬ m.OverflowsAtRemoval op) m₀ ops) (rf : WindowRef) :
    Lived ((final step m₀ ops).IsLive rf) ((final step m₀ ops).IsIssued rf)
      ((answers step m₀ ops).map (mark rf)) := by
  refine run_induction_along (P := fun m log =>
    Lived (m.IsLive rf) (m.IsIssued rf) (log.map (mark rf))) ?_ ?_ ops ho
  · refine .nil fun hli => ?_
    obtain ⟨w, hw, -⟩ := hli
    simp [h₀] at hw
  · intro m log op hl hs
    simpa using (m.step_change op).lived hs hl

theorem Change.isIssued (h : Change m op rp m') (hr : m.IsIssued rf) : m'.IsIssued rf := by
  cases h with
  | @created s now r hn hv hs ha hro hse =>
    show rf.observedGeneration ≤ s.window.observedGeneration
    unfold IsIssued at hr
    omega
  | _ => exact hr

/-- A creation takes the next serial. -/
theorem Change.born (h : Change m op rp m') (hb : rp.toOption.bind WindowReply.born = some rf) :
    m.lastBirthSerial < rf.observedGeneration ∧ m'.IsIssued rf := by
  cases h with
  | regressed | refused | updated | destroyed | lost => cases hb
  | read hn hno => cases hno.symm.trans hb
  | created hn hv hsc ha hr hs =>
    cases hb
    exact ⟨Nat.lt_of_lt_of_eq (Nat.lt_succ_self _) hs.symm, Nat.le_refl _⟩

/-- Each creation takes a serial above those of the creations before it. -/
theorem created_increasing {m₀ ops} :
    (created (answers step m₀ ops)).Pairwise (fun a b => a.observedGeneration < b.observedGeneration) := by
  suffices h : (created (answers step m₀ ops)).Pairwise
    (fun a b => a.observedGeneration < b.observedGeneration) ∧
      ∀ rf ∈ created (answers step m₀ ops), (final step m₀ ops).IsIssued rf from h.1
  refine run_induction (P := fun (m : WindowModel) log =>
    (created log).Pairwise (fun a b => a.observedGeneration < b.observedGeneration) ∧
      ∀ rf ∈ created log, m.IsIssued rf) (by simp [created]) ?_ ops
  intro m log op ⟨hp, hi⟩
  have hc := m.step_change op
  have hk (rf : WindowRef) (h : rf ∈ created log) : (m.step op).2.IsIssued rf := hc.isIssued (hi rf h)
  have hl : created (log ++ [(op, (m.step op).1)]) =
      created log ++ ((m.step op).1.toOption.bind WindowReply.born).toList := by
    simp only [created, List.filterMap_append, List.filterMap_cons, List.filterMap_nil]
    split
    next h => simp [h]
    next h => simp [h]
  rw [hl]
  cases hb : (m.step op).1.toOption.bind WindowReply.born with
  | none => simpa using ⟨hp, hk⟩
  | some new =>
    obtain ⟨hn, hne⟩ := hc.born hb
    simp only [Option.toList_some, List.pairwise_append, List.mem_singleton, List.mem_append]
    refine ⟨⟨hp, by simp, ?_⟩, ?_⟩
    · rintro a ha b rfl
      exact Nat.lt_of_le_of_lt (hi a ha) hn
    · rintro rf (h | rfl)
      · exact hk rf h
      · exact hne

/-! ## Resolution -/

/-- What resolves is the live window of the very reference, at the current
revision. -/
theorem resolveExact_ok {now r}
    (h : (m.resolveExact rf now).1 = .ok r) : m.lastNow ≤ now ∧ ∃ c, m.live[rf.xid]? = some c ∧
      c.snapshot.window = rf ∧ r = ⟨m.revision, projectSnapshot c m.revision⟩ := by
  unfold resolveExact advanceTime at h
  by_cases hn : now < m.lastNow
  · simp only [hn, if_true] at h
    cases h
  refine ⟨Nat.le_of_not_lt hn, ?_⟩
  simp only [hn, if_false] at h
  split at h
  · cases h
  split at h
  · cases h
  split at h
  next c hc =>
    split at h
    · cases h
    next hs =>
      cases h
      exact ⟨c, hc, not_not.mp hs, rfl⟩
  next => split at h <;> cases h

/-- A live window resolves at any time the clock accepts, and nothing else
does. -/
theorem resolveExact_ok_iff (hs : m.Sound) {now} :
    (∃ r, (m.resolveExact rf now).1 = .ok r) ↔ m.lastNow ≤ now ∧ m.IsLive rf := by
  constructor
  · intro ⟨r, h⟩
    obtain ⟨hn, c, hc, hsa, -⟩ := resolveExact_ok h
    exact ⟨hn, c, hc, hsa⟩
  · intro ⟨hn, c, hc, hsa⟩
    obtain ⟨hv, hsc⟩ := hs.accepted hc
    rw [hsa] at hv hsc
    have hc' : (m.expire now).live[rf.xid]? = some c := hc
    have hsc' : (m.expire now).requireScope rf = .ok () := hsc
    simp [resolveExact, advanceTime, Nat.not_lt.mpr hn, hv, hsc', hc', hsa]

/-! ## The clock and the revision -/

theorem Change.lastNow (h : Change m op rp m') : m'.lastNow = max m.lastNow op.now := by
  cases h with
  | regressed hn => exact (Nat.max_eq_left hn.le).symm
  | refused hn | read hn | created hn | updated hn | destroyed hn =>
    exact (Nat.max_eq_right hn).symm
  | lost hl => exact (Nat.max_eq_right hl.1).symm

/-- The clock is at the latest time of any call: a call at an earlier one
does not move it. -/
theorem lastNow_le_iff (h₀ : m₀.lastNow = 0) (ops : List WindowOp) (now : MonotonicMillis) :
    (final step m₀ ops).lastNow ≤ now ↔ ∀ op ∈ ops, op.now ≤ now := by
  induction ops using List.reverseRecOn with
  | nil => simp [h₀]
  | append_singleton ops op ih =>
    have hl := ((final step m₀ ops).step_change op).lastNow
    simp only [final_append, final_cons, final_nil, hl, Nat.max_le, ih, List.mem_append, List.mem_singleton]
    constructor
    · rintro ⟨ho, hop⟩ op' (hm | rfl)
      · exact ho op' hm
      · exact hop
    · intro h
      exact ⟨fun op' hm => h op' (.inl hm), h op (.inr rfl)⟩

/-- A call that leaves other live windows takes a new revision. -/
theorem Change.revision (h : Change m op rp m') :
    m.revision.value < m'.revision.value ∨ m'.revision = m.revision ∧ m'.live = m.live := by
  cases h with
  | regressed | refused | read => exact .inr ⟨rfl, rfl⟩
  | @created _ _ r _ _ _ _ _ _ hr | @updated _ _ r _ _ _ _ hr
  | @destroyed _ _ r _ _ hr | @lost _ _ r _ hr =>
    refine .inl ?_
    show m.revision.value < r.value
    omega

theorem revision_run (m : WindowModel) (ops : List WindowOp) :
    m.revision.value < (final step m ops).revision.value ∨
      (final step m ops).revision = m.revision ∧ (final step m ops).live = m.live := by
  refine final_induction (P := fun m' : WindowModel =>
    m.revision.value < m'.revision.value ∨ m'.revision = m.revision ∧ m'.live = m.live) (.inr
      ⟨rfl, rfl⟩) ?_ ops
  intro m' op h
  obtain hlt | ⟨hr, hl⟩ := (m'.step_change op).revision
  · refine .inl ?_
    rcases h with h | ⟨h, -⟩
    · exact h.trans hlt
    · rwa [h] at hlt
  · rw [hr, hl]
    exact h

/-! ## The creation revision -/

/-- While the window of a reference is live, its creation revision is the one
it was created with; once it is gone, its serial is taken. -/
theorem Change.createdRevision (h : Change m op rp m') {c} (hse : rf.observedGeneration ≤ m.lastBirthSerial)
    (hc : ∀ w, m.live[rf.xid]? = some w → w.snapshot.window = rf →
      w.createdRevision = c) : rf.observedGeneration ≤ m'.lastBirthSerial ∧
    ∀ w, m'.live[rf.xid]? = some w → w.snapshot.window = rf → w.createdRevision = c := by
  cases h with
  | regressed | refused | read => exact ⟨hse, hc⟩
  | @created s now r hn hv hsc ha hr hne =>
    refine ⟨?_, ?_⟩
    · show rf.observedGeneration ≤ s.window.observedGeneration
      omega
    · intro w hw hs
      obtain ⟨-, rfl⟩ | ⟨-, hw⟩ := insert_cases hw
      · -- the new birth has the next serial, so it is not this window's
        have : s.window.observedGeneration = rf.observedGeneration := by rw [← hs]
        omega
      · exact hc w hw hs
  | @updated s now r cr hn hcu hcr =>
    refine ⟨hse, ?_⟩
    intro w hw hs
    obtain ⟨hx, rfl⟩ | ⟨-, hw⟩ := insert_cases hw
    · exact hc cr (by rw [hx, hcu]) (hcr.trans hs)
    · exact hc w hw hs
  | destroyed | lost =>
    refine ⟨hse, ?_⟩
    intro w hw hs
    exact hc w (erase_cases hw).2 hs

theorem createdRevision_run (hs : m.Sound) {ops} {xid : UInt32} {b a : LiveWindow}
    (hb : m.live[xid]? = some b) (ha : (final step m ops).live[xid]? = some a)
    (hsa : a.snapshot.window = b.snapshot.window) : a.createdRevision = b.createdRevision := by
  obtain rfl : b.snapshot.window.xid = xid := hs.keyed hb
  suffices hr : b.snapshot.window.observedGeneration ≤ (final step m ops).lastBirthSerial ∧
      ∀ w, (final step m ops).live[b.snapshot.window.xid]? = some w →
        w.snapshot.window = b.snapshot.window → w.createdRevision = b.createdRevision by
    exact hr.2 a ha hsa
  refine final_induction (P := fun m' : WindowModel =>
    b.snapshot.window.observedGeneration ≤ m'.lastBirthSerial ∧
      ∀ w, m'.live[b.snapshot.window.xid]? = some w →
        w.snapshot.window = b.snapshot.window → w.createdRevision = b.createdRevision)
    ⟨hs.issued hb, ?_⟩ (fun m' op h => (m'.step_change op).createdRevision h.1 h.2) ops
  intro w hw _
  rw [hb] at hw
  cases hw
  rfl

/-! ## References over a run -/

theorem Sound.nodup_xids (hs : m.Sound) : (m.liveWindows.map fun w => w.snapshot.window.xid).Nodup := by
  have hk : (m.liveWindows.map fun w => w.snapshot.window.xid) = m.live.keys := by
    rw [← Std.TreeMap.map_fst_toList_eq_keys, liveWindows, List.map_map]
    refine List.map_congr_left ?_
    intro e he
    exact hs.keyed (Std.TreeMap.mem_toList_iff_getElem?_eq_some.mp he)
  rw [hk]
  exact Std.TreeMap.nodup_keys

theorem Change.lt_expiresAt (h : Change m op rp m') (hs : m.Sound) {a}
    (ha : rp = .ok a) {e} (he : e ∈ m'.tombstones) : op.now < e.expiresAt := by
  cases h with
  | regressed | refused | lost => cases ha
  | read hn | created hn | updated hn => exact hs.lt_expiresAt he
  | @destroyed rf now r hn hl hr =>
    rcases List.mem_append.mp (List.mem_of_mem_drop he) with he | he
    · exact hs.lt_expiresAt he
    · rw [List.mem_singleton.mp he]
      have hp := m.limits_pos.2.2
      exact Nat.lt_add_of_pos_right hp

/-- Window references are never retargeted, along every run in which no
removal overflows the clock. -/
theorem references_never_retargeted {desktopId : DesktopId} {desktopGeneration : DesktopGeneration}
    {limits : WindowModelLimits}
    (h₀ : WindowModel.new desktopId desktopGeneration limits = .ok m₀) (ops : List WindowOp)
    (hops : along step (fun m op => ¬ m.OverflowsAtRemoval op) m₀ ops) :
    let m := final step m₀ ops
    let log := answers step m₀ ops
    (created log).Pairwise (fun a b => a.observedGeneration < b.observedGeneration) ∧
    (∀ rf now, (∃ r, (m.resolveExact rf now).1 = .ok r) ↔
      (∀ op ∈ ops, op.now ≤ now) ∧ Stands .seen .ended (log.map (mark rf))) ∧
    (∀ rf now r, (m.resolveExact rf now).1 = .ok r → r.snapshot.window = rf) ∧
    (m.liveWindows.map fun w => w.snapshot.window.xid).Nodup ∧
    m.live.size ≤ limits.maxLiveWindows ∧
    m.tombstones.length ≤ limits.maxTombstones ∧
    m.tombstones.Pairwise (fun a b => a.expiresAt ≤ b.expiresAt) ∧
    (∀ op rp, (m.step op).1 = .ok rp → ∀ en ∈ (m.step op).2.tombstones, op.now < en.expiresAt) ∧
    (∀ e l, ops = e ++ l → let m₁ := final step m₀ e
      (∀ (xid : UInt32) (bf af : LiveWindow), m₁.live[xid]? = some bf → m.live[xid]? = some af →
        af.snapshot.window = bf.snapshot.window → af.createdRevision = bf.createdRevision) ∧
      m₁.revision.value ≤ m.revision.value ∧
      (m.live ≠ m₁.live → m₁.revision.value < m.revision.value)) := by
  intro m log
  obtain ⟨hs₀, hl, hli, hc⟩ := Sound.new h₀
  have hs : m.Sound := hs₀.final ops
  have hm : m.limits = limits := (limits_final m₀ ops).trans hl
  refine ⟨created_increasing, ?_, ?_, hs.nodup_xids, hm ▸ hs.live_bound, hm ▸ hs.tombstone_bound,
    hs.ordered, ?_, ?_⟩
  · intro rf now
    rw [resolveExact_ok_iff hs, lastNow_le_iff hc, (lived_final hli ops hops rf).live_iff]
  · intro rf now r h
    obtain ⟨-, c, -, hsa, rfl⟩ := resolveExact_ok h
    exact hsa
  · intro op rp hok en he
    exact (m.step_change op).lt_expiresAt hs hok he
  intro e l heq m₁
  have hm₁ : m = final step m₁ l := by
    show final step m₀ ops = final step (final step m₀ e) l
    rw [heq, final_append]
  rw [hm₁]
  have hr := m₁.revision_run l
  refine ⟨?_, ?_, ?_⟩
  · intro xid bf af hb ha hsa
    exact createdRevision_run (hs₀.final e) hb ha hsa
  · rcases hr with hlt | ⟨heq, -⟩
    · exact hlt.le
    · rw [heq]
  · intro hne
    rcases hr with hlt | ⟨-, heq⟩
    · exact hlt
    · exact absurd heq hne

/-- An XID that is reused after its window was destroyed names the new window. -/
theorem reused_xid_resolves_to_successor :
    let ops : List WindowOp :=
      [.observe (.bare (.nth 1)) 0, .destroy (.nth 1) 5, .observe (.bare (.nth 2)) 6]
    along step (fun m op => ¬ m.OverflowsAtRemoval op) empty ops ∧
      ∃ r, ((final step empty ops).resolveExact (.nth 2) 6).1 = .ok r := by
  intro ops
  have ho : along step (fun m op => ¬ m.OverflowsAtRemoval op) empty ops := by
    refine ⟨?_, ?_, ?_, trivial⟩ <;> decide +kernel
  have hm : (answers step empty ops).map (mark (.nth 2)) = [.other, .other] ++ [.seen] :=
    by decide +kernel
  have hs := stands_append_self Mark.seen .ended [.other, .other]
  rw [← hm] at hs
  exact ⟨ho, ((references_never_retargeted new_empty ops ho).2.1 (.nth 2) 6).mpr ⟨by decide, hs⟩⟩

/-- After the destruction that failed, the birth still stands and the window
does not resolve. -/
theorem standing_window_does_not_resolve :
    let ops : List WindowOp := [.observe (.bare (.nth 1)) 0, .destroy (.nth 1) u64Max]
    (∀ op ∈ ops, op.now ≤ u64Max) ∧ Stands .seen .ended ((answers step empty ops).map (mark (.nth 1))) ∧
      ((final step empty ops).resolveExact (.nth 1) u64Max).1 = .error .notFound := by
  intro ops
  have hm : (answers step empty ops).map (mark (.nth 1)) = [] ++ .seen :: [.other] := by decide +kernel
  refine ⟨by decide +kernel, ?_, by decide +kernel⟩
  exact ⟨[], [.other], hm, by decide⟩

end Xenoteer.WindowModel
