/-
What one call of the window model can do (`Change`), and the invariants that
every run keeps, read off it.
-/
import Xenoteer.Window.Model
import Xenoteer.Lib.Lifetimes

namespace Xenoteer

open Lib.Run Lib.TreeMapKeys Lib.Lifetimes

/-- The reference a reply says was created. -/
def WindowReply.born : WindowReply → Option WindowRef
  | .observed (.created snapshot) => some snapshot.window
  | _ => none

/-- The reference a reply says was destroyed. -/
def WindowReply.died : WindowReply → Option WindowRef
  | .destroyed tombstone => some tombstone.window
  | _ => none

namespace WindowModel

variable {m m' : WindowModel} {op : WindowOp} {reply : Except WindowModelError WindowReply}

/-- The window that exactly owns the reference is live. -/
def IsLive (m : WindowModel) (reference : WindowRef) : Prop :=
  ∃ window, m.live[reference.xid]? = some window ∧ window.snapshot.window = reference

/-! ## The steps -/

/-- The snapshot becomes the live one of its XID. -/
def put (m : WindowModel) (snapshot : WindowSnapshot) (created revision : WindowModelRevision) :
    WindowModel :=
  let entry : LiveWindow := ⟨{ snapshot with modelRevision := revision }, created⟩
  { m with revision := revision, live := m.live.insert snapshot.window.xid entry }

def take (m : WindowModel) (reference : WindowRef) (revision : WindowModelRevision) : WindowModel :=
  { m with revision := revision, live := m.live.erase reference.xid }

def setBirthSerial (m : WindowModel) (serial : Nat) : WindowModel := { m with lastBirthSerial := serial }

/-- The call is the removal of an exactly live window at a time at which its
tombstone's expiry is not representable. -/
def OverflowsAtRemoval (m : WindowModel) : WindowOp → Prop
  | .destroy reference now =>
    m.lastNow ≤ now ∧ reference.validate = .ok () ∧ m.requireScope reference = .ok () ∧
      m.liveReference reference.xid = some reference ∧ m.revision.value < u64Max ∧
      u64Max < now + m.limits.tombstoneTtlMs
  | _ => False

instance (m : WindowModel) : (op : WindowOp) → Decidable (m.OverflowsAtRemoval op)
  | .destroy _ _ => inferInstanceAs (Decidable (_ ∧ _ ∧ _ ∧ _ ∧ _ ∧ _))
  | .observe _ _ | .resolveExact _ _ | .snapshotAll _ | .snapshotQueryRecords _ =>
    inferInstanceAs (Decidable False)

/-- The cases of a call: the reply and the model it leaves. -/
inductive Change (m : WindowModel) : WindowOp → Except WindowModelError WindowReply → WindowModel → Prop
  | regressed {op : WindowOp} (hnow : op.now < m.lastNow) : Change m op (.error .clockMovedBackwards) m
  | refused {op : WindowOp} {e : WindowModelError} (hnow : m.lastNow ≤ op.now) :
      Change m op (.error e) (m.expire op.now)
  | read {op : WindowOp} {reply : WindowReply} (hnow : m.lastNow ≤ op.now) (hborn : reply.born = none)
      (hdied : reply.died = none) :
      Change m op (.ok reply) (m.expire op.now)
  | created {snapshot now revision} (hnow : m.lastNow ≤ now) (hvalid : snapshot.validate = .ok ())
      (hscope : m.requireScope snapshot.window = .ok ()) (habsent : m.live[snapshot.window.xid]? = none)
      (hroom : m.live.size < m.limits.maxLiveWindows)
      (hserial : snapshot.window.observedGeneration = m.lastBirthSerial + 1)
      (hrevision : revision.value = m.revision.value + 1) :
      Change m (.observe snapshot now)
        (.ok (.observed (.created { snapshot with modelRevision := revision })))
        (((m.expire now).put snapshot revision revision).setBirthSerial snapshot.window.observedGeneration)
  | updated {snapshot now revision current} (hnow : m.lastNow ≤ now)
      (hcurrent : m.live[snapshot.window.xid]? = some current)
      (hsame : current.snapshot.window = snapshot.window)
      (hrevision : revision.value = m.revision.value + 1) :
      Change m (.observe snapshot now)
        (.ok (.observed (.updated { snapshot with modelRevision := revision })))
        ((m.expire now).put snapshot current.createdRevision revision)
  | destroyed {reference now revision} (hnow : m.lastNow ≤ now) (hlive : m.IsLive reference)
      (hrevision : revision.value = m.revision.value + 1) :
      Change m (.destroy reference now)
        (.ok (.destroyed ⟨reference, revision, now + m.limits.tombstoneTtlMs⟩))
        (((m.expire now).take reference revision).pushTombstone
          ⟨reference, revision, now + m.limits.tombstoneTtlMs⟩)
  | lost {reference now revision} (hlost : m.OverflowsAtRemoval (.destroy reference now))
      (hrevision : revision.value = m.revision.value + 1) :
      Change m (.destroy reference now) (.error .clockOverflow) ((m.expire now).take reference revision)

theorem nextRevision_cases (m : WindowModel) : m.nextRevision = (.error .revisionExhausted, m) ∨
    ∃ rv : WindowModelRevision, m.nextRevision = (.ok rv, { m with revision := rv }) ∧
      rv.value = m.revision.value + 1 ∧ m.revision.value < u64Max := by
  unfold nextRevision
  cases ha : checkedAdd m.revision.value 1 with
  | none => exact .inl rfl
  | some n =>
    obtain ⟨hle, rfl⟩ := checkedAdd_eq_some.mp ha
    exact .inr ⟨⟨_, Nat.succ_ne_zero _⟩, by simp [WindowModelRevision.new], rfl, hle⟩

/-- What the checks of `observe` establish about a new or a refreshed window. -/
theorem existingCreationRevision_ok {w e} (h : m.existingCreationRevision w = .ok e) :
    (e = none ∧ m.live[w.xid]? = none ∧ m.live.size < m.limits.maxLiveWindows ∧
      w.observedGeneration = m.lastBirthSerial + 1) ∨
    (∃ c, e = some c.createdRevision ∧ m.live[w.xid]? = some c ∧ c.snapshot.window = w) := by
  unfold existingCreationRevision at h
  split at h
  next c hc =>
    split at h
    · cases h
    next hsa =>
      cases h
      exact .inr ⟨c, rfl, hc, not_not.mp hsa⟩
  next ha =>
    split at h
    · cases h
    rename_i hr
    split at h
    · cases h
    rename_i ex hse
    split at h
    · cases h
    rename_i he
    cases h
    refine .inl ⟨rfl, ha, Nat.lt_of_not_le hr, ?_⟩
    unfold nextBirthSerial at hse
    split at hse
    next s had =>
      cases hse
      rw [not_not.mp he, (checkedAdd_eq_some.mp had).2]
    · cases hse

theorem advanceTime_cases (m : WindowModel) (now : MonotonicMillis) :
    (now < m.lastNow ∧ m.advanceTime now = (.error .clockMovedBackwards, m)) ∨
      (m.lastNow ≤ now ∧ m.advanceTime now = (.ok (), m.expire now)) := by
  rw [advanceTime]
  obtain hn | hn := Nat.lt_or_ge now m.lastNow
  · exact .inl ⟨hn, if_pos hn⟩
  · exact .inr ⟨hn, if_neg (Nat.not_lt.mpr hn)⟩

theorem observe_change (m : WindowModel) (s : WindowSnapshot) (now : MonotonicMillis) :
    Change m (.observe s now) ((m.observe s now).1.map .observed)
      (m.observe s now).2 := by
  unfold observe
  obtain ⟨hn, ht⟩ | ⟨hn, ht⟩ := m.advanceTime_cases now <;> simp only [ht]
  · exact .regressed hn
  have hr (e : WindowModelError) : Change m (.observe s now) (.error e) (m.expire now) := .refused hn
  cases hva : s.validate with
  | error e => exact hr _
  | ok u =>
  cases hsc : (m.expire now).requireScope s.window with
  | error e => exact hr _
  | ok u =>
  cases he : (m.expire now).existingCreationRevision s.window with
  | error e => exact hr _
  | ok ex =>
  obtain hne | ⟨rv, hne, hv, -⟩ := (m.expire now).nextRevision_cases
  · simp only [hne]
    exact hr _
  · simp only [hne]
    obtain ⟨rfl, ha, hro, hse⟩ | ⟨c, rfl, hc, hsa⟩ := existingCreationRevision_ok he
    · exact .created hn hva hsc ha hro hse hv
    · exact .updated hn hc hsa hv

theorem destroy_change (m : WindowModel) (r : WindowRef) (now : MonotonicMillis) :
    Change m (.destroy r now) ((m.destroy r now).1.map .destroyed)
      (m.destroy r now).2 := by
  unfold destroy
  obtain ⟨hn, ht⟩ | ⟨hn, ht⟩ := m.advanceTime_cases now <;> simp only [ht]
  · exact .regressed hn
  have hr (e : WindowModelError) : Change m (.destroy r now) (.error e) (m.expire now) := .refused hn
  cases hva : r.validate with
  | error e => exact hr _
  | ok u =>
  cases hsc : (m.expire now).requireScope r with
  | error e => exact hr _
  | ok u =>
  cases hc : (m.expire now).live[r.xid]? with
  | none =>
    dsimp only
    split <;> exact hr _
  | some c =>
  dsimp only
  by_cases hsa : c.snapshot.window = r
  · simp only [hsa, ne_eq, not_true_eq_false, if_false]
    obtain hne | ⟨rv, hne, hv, hm⟩ := (m.expire now).nextRevision_cases
    · simp only [hne]
      exact hr _
    simp only [hne]
    have hl : m.live[r.xid]? = some c := hc
    cases he : checkedAdd now m.limits.tombstoneTtlMs with
    | none =>
      simp only [expire, he]
      refine .lost ⟨hn, hva, hsc, ?_, hm, checkedAdd_eq_none.mp he⟩ hv
      simp [liveReference, hl, hsa]
    | some ea =>
      simp only [expire, he]
      obtain rfl := (checkedAdd_eq_some.mp he).2
      exact .destroyed hn ⟨c, hl, hsa⟩ hv
  · simp only [hsa, ne_eq, not_false_eq_true, if_true]
    exact hr _

theorem resolveExact_change (m : WindowModel) (r : WindowRef) (now : MonotonicMillis) :
    Change m (.resolveExact r now) ((m.resolveExact r now).1.map .resolved)
      (m.resolveExact r now).2 := by
  unfold resolveExact
  obtain ⟨hn, ht⟩ | ⟨hn, ht⟩ := m.advanceTime_cases now <;> simp only [ht]
  · exact .regressed hn
  have hr (e : WindowModelError) : Change m (.resolveExact r now) (.error e)
    (m.expire now) := .refused hn
  cases r.validate with
  | error e => exact hr _
  | ok u =>
  cases (m.expire now).requireScope r with
  | error e => exact hr _
  | ok u =>
  dsimp only
  split
  · split
    · exact hr _
    have hre (rs : ResolvedWindow) :
        Change m (.resolveExact r now) (.ok (.resolved rs)) (m.expire now) :=
          .read hn rfl rfl
    exact hre _
  · split <;> exact hr _

theorem snapshot_change (m) {now} :
    Change m (.snapshotAll now) ((m.snapshotAll now).1.map fun v => .snapshots v.1 v.2)
      (m.snapshotAll now).2 ∧ Change m (.snapshotQueryRecords now)
      ((m.snapshotQueryRecords now).1.map fun v => .records v.1 v.2)
      (m.snapshotQueryRecords now).2 := by
  unfold snapshotAll snapshotQueryRecords advanceTime
  by_cases hn : now < m.lastNow
  · simp only [hn, if_true]
    exact ⟨.regressed hn, .regressed hn⟩
  · simp only [hn, if_false]
    have hr (op : WindowOp) (reply : WindowReply) (hop : op.now = now) (hb : reply.born = none)
        (hd : reply.died = none) : Change m op (.ok reply) (m.expire now) := by
      subst hop
      exact .read (Nat.le_of_not_lt hn) hb hd
    exact ⟨hr _ _ rfl rfl rfl, hr _ _ rfl rfl rfl⟩

/-- Every call is one of the cases. -/
theorem step_change (m : WindowModel) (op : WindowOp) : Change m op (m.step op).1 (m.step op).2 := by
  cases op with
  | observe s now => exact m.observe_change s now
  | destroy r now => exact m.destroy_change r now
  | resolveExact r now => exact m.resolveExact_change r now
  | snapshotAll now => exact (m.snapshot_change).1
  | snapshotQueryRecords now => exact (m.snapshot_change).2

/-! ## Live windows -/

variable {rv : WindowModelRevision}

theorem isLive_put {s c r} : (m.put s c rv).IsLive r ↔ r = s.window ∨ r.xid ≠ s.window.xid ∧ m.IsLive r := by
  unfold IsLive put
  simp only [getElem?_insert_eq]
  by_cases hx : s.window.xid = r.xid
  · simp only [hx, if_true, Option.some.injEq, exists_eq_left', ne_eq, not_true_eq_false,
      false_and, or_false]
    exact eq_comm
  · have hne : r ≠ s.window := fun h => hx (h ▸ rfl)
    simp [hx, hne, Ne.symm hx]

theorem isLive_take {r rm} : (m.take rm rv).IsLive r ↔ r.xid ≠ rm.xid ∧ m.IsLive r := by
  unfold IsLive take
  simp only [getElem?_erase_eq]
  by_cases hx : rm.xid = r.xid
  · simp [hx]
  · simp [hx, Ne.symm hx]

/-- Two live references of one XID are one. -/
theorem IsLive.eq_of_xid {a b} (ha : m.IsLive a) (hb : m.IsLive b) (hx : a.xid = b.xid) : a = b := by
  obtain ⟨wa, ha, rfl⟩ := ha
  obtain ⟨wb, hb, rfl⟩ := hb
  rw [hx, hb] at ha
  cases ha
  rfl

/-! ## The invariant -/

/-- What holds of every model a run reaches: live windows are filed under
their own XID with a reference the model accepts, the two capacities hold,
and the tombstones are in the order of their expiry. -/
structure Sound (m : WindowModel) : Prop where
  keyed : ∀ {xid : UInt32} {window : LiveWindow}, m.live[xid]? = some window →
    window.snapshot.window.xid = xid
  accepted : ∀ {xid : UInt32} {window : LiveWindow}, m.live[xid]? = some window →
    window.snapshot.window.validate = .ok () ∧ m.requireScope window.snapshot.window = .ok ()
  issued : ∀ {xid : UInt32} {window : LiveWindow}, m.live[xid]? = some window →
    window.snapshot.window.observedGeneration ≤ m.lastBirthSerial
  live_bound : m.live.size ≤ m.limits.maxLiveWindows
  tombstone_bound : m.tombstones.length ≤ m.limits.maxTombstones
  ordered : m.tombstones.Pairwise fun a b => a.expiresAt ≤ b.expiresAt
  recent : ∀ entry ∈ m.tombstones, entry.expiresAt ≤ m.lastNow + m.limits.tombstoneTtlMs

theorem Sound.new {di dg l}
    (h : WindowModel.new di dg l = .ok m) : m.Sound ∧ m.limits = l ∧ m.live = ∅ ∧ m.lastNow = 0 := by
  unfold WindowModel.new at h
  split at h
  · cases h
  split at h
  · cases h
  split at h
  · cases h
  rename_i hl
  cases h
  obtain rfl := WindowModelLimits.eq_of_validate hl
  refine ⟨⟨?_, ?_, ?_, ?_, ?_, ?_, ?_⟩, rfl, rfl, rfl⟩ <;> simp

section

variable (hs : m.Sound)
include hs

theorem Sound.expire {now} (hn : m.lastNow ≤ now) : (m.expire now).Sound where
  __ := hs
  tombstone_bound := ((List.dropWhile_sublist _).length_le).trans hs.tombstone_bound
  ordered := hs.ordered.sublist (List.dropWhile_sublist _)
  recent entry he := by
    have hold := hs.recent entry ((List.dropWhile_sublist _).subset he)
    exact hold.trans (Nat.add_le_add_right hn _)

/-- After the clock moved, no tombstone has expired: the first one left has
not, and the others expire no earlier. -/
theorem Sound.lt_expiresAt {now e} (he : e ∈ (m.expire now).tombstones) : now < e.expiresAt := by
  have ho := hs.ordered
  unfold WindowModel.expire at he
  generalize m.tombstones = tombstones at ho he
  induction tombstones with
  | nil => simp at he
  | cons f rest ih =>
    rw [List.pairwise_cons] at ho
    by_cases hf : f.expiresAt ≤ now
    · rw [List.dropWhile_cons_of_pos (by simpa using hf)] at he
      exact ih ho.2 he
    · rw [List.dropWhile_cons_of_neg (by simpa using hf), List.mem_cons] at he
      have hf : now < f.expiresAt := Nat.lt_of_not_le hf
      rcases he with rfl | he
      · exact hf
      · exact Nat.lt_of_lt_of_le hf (ho.1 e he)

theorem Sound.setBirthSerial {s} (h : m.lastBirthSerial ≤ s) : (m.setBirthSerial s).Sound :=
  { hs with issued := fun hw => (hs.issued hw).trans h }

theorem Sound.put {s c} (hv : s.window.validate = .ok ()) (hsc : m.requireScope s.window = .ok ())
    (hi : s.window.observedGeneration ≤ m.lastBirthSerial)
    (hr : (m.put s c rv).live.size ≤ m.limits.maxLiveWindows) : (m.put s c rv).Sound :=
  { hs with
    keyed := by
      intro xid w hw
      obtain ⟨rfl, rfl⟩ | ⟨-, hw⟩ := insert_cases hw
      · rfl
      · exact hs.keyed hw
    accepted := by
      intro xid w hw
      obtain ⟨rfl, rfl⟩ | ⟨-, hw⟩ := insert_cases hw
      · exact ⟨hv, hsc⟩
      · exact hs.accepted hw
    issued := by
      intro xid w hw
      obtain ⟨rfl, rfl⟩ | ⟨-, hw⟩ := insert_cases hw
      · exact hi
      · exact hs.issued hw
    live_bound := hr }

theorem Sound.take (r : WindowRef) (rv) : (m.take r rv).Sound :=
  { hs with
    keyed := fun hw => hs.keyed (erase_cases hw).2
    accepted := fun hw => hs.accepted (erase_cases hw).2
    issued := fun hw => hs.issued (erase_cases hw).2
    live_bound := (size_le keys_erase_subset).trans hs.live_bound }

/-- A tombstone of the current time expires last. -/
theorem Sound.pushTombstone {t}
    (hex : t.expiresAt = m.lastNow + m.limits.tombstoneTtlMs) : (m.pushTombstone t).Sound :=
  { hs with
    tombstone_bound := by
      simp only [WindowModel.pushTombstone, List.length_drop]
      omega
    ordered := by
      refine List.Pairwise.sublist (List.drop_sublist _ _) ?_
      rw [List.pairwise_append]
      refine ⟨hs.ordered, by simp, ?_⟩
      intro a ha b hb
      rw [List.mem_singleton.mp hb, hex]
      exact hs.recent a ha
    recent := by
      intro e he
      rcases List.mem_append.mp (List.mem_of_mem_drop he) with he | he
      · exact hs.recent e he
      · rw [List.mem_singleton.mp he]
        exact hex.le }

theorem Sound.change (h : Change m op reply m') : m'.Sound := by
  cases h with
  | regressed => exact hs
  | refused hn | read hn => exact hs.expire hn
  | @created s now rv hn hv hsc ha hr hse =>
    have hne : m.lastBirthSerial ≤ s.window.observedGeneration := hse ▸ Nat.le_succ _
    have hs' : ((m.expire now).setBirthSerial s.window.observedGeneration).Sound :=
      (hs.expire hn).setBirthSerial hne
    refine hs'.put (WindowSnapshot.validateShape_of_validate hv) hsc le_rfl ?_
    have hsi := Std.TreeMap.size_insert_le (t := m.live) (k := s.window.xid)
      (v := ⟨{ s with modelRevision := rv }, rv⟩)
    exact hsi.trans hr
  | @updated s now rv c hn hc hsa =>
    obtain ⟨hv, hsc⟩ := hs.accepted hc
    have hi := hs.issued hc
    rw [hsa] at hv hsc hi
    refine (hs.expire hn).put hv hsc hi ?_
    exact (size_le (keys_insert_subset hc)).trans hs.live_bound
  | destroyed hn => exact ((hs.expire hn).take _ _).pushTombstone rfl
  | lost hl => exact (hs.expire hl.1).take _ _

theorem Sound.final (ops : List WindowOp) : (final step m ops).Sound :=
  final_induction hs (fun m op hs => hs.change (m.step_change op)) ops

end

/-- The limits never change. -/
theorem Change.limits (h : Change m op reply m') : m'.limits = m.limits := by
  cases h <;> rfl

theorem limits_final (m : WindowModel) (ops : List WindowOp) : (final step m ops).limits = m.limits :=
  final_induction (P := fun m' : WindowModel => m'.limits = m.limits) rfl
    (fun m' op h => (m'.step_change op).limits.trans h) ops

end WindowModel

end Xenoteer
