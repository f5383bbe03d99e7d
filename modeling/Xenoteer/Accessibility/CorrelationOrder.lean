/-
The correlation does not depend on the order of its candidates, nor on those
that are not live: the checks ask the same of every sublist of a permutation,
and no two live candidates share an XID, so there is one way to sort them.
-/
import Mathlib.Algebra.Order.BigOperators.Group.List
import Mathlib.Algebra.Order.Ring.Nat
import Mathlib.Data.List.Pairwise
import Mathlib.Data.List.Perm.Subperm
import Xenoteer.Accessibility.CorrelationSoundness
import Xenoteer.Lib.Checks

namespace Xenoteer

open Lib Checks Correlation

variable {s : AccessibilityCorrelationSubject} {n : MonotonicMillis} {lm : AccessibilityCorrelationLimits}
  {cs cs' : List AccessibilityWindowCandidate}

/-- What is checked of a candidate on its own. -/
def AccessibilityWindowCandidate.IsValid (s : AccessibilityCorrelationSubject) (n : MonotonicMillis)
    (lm : AccessibilityCorrelationLimits) (c : AccessibilityWindowCandidate) : Prop :=
  c.window.validateShape.mapError (fun _ => AccessibilityCorrelationError.invalidReference) = .ok () ∧
    ¬ (c.window.desktopId ≠ s.application.desktopId ∨
      c.window.desktopGeneration ≠ s.application.desktopGeneration) ∧
    validateProcessPair c.processId c.managedProcessId = .ok () ∧ validateRect c.topLevelExtents = .ok () ∧
    validateTimeSet c.createdAt c.focusChangedAt c.observedAt n c.live lm = .ok () ∧
    validateOptionalWindow c.clientLeader s.application.desktopId s.application.desktopGeneration = .ok ()

/-- What is checked of two candidates. -/
def Apart (a b : AccessibilityWindowCandidate) : Prop :=
  b.window ≠ a.window ∧ (a.live = true → b.live = true → b.window.xid ≠ a.window.xid)

instance : Std.Symm Apart := ⟨fun _ _ h => ⟨h.1.symm, fun hb ha => (h.2 ha hb).symm⟩⟩

theorem validateCandidates_eq_ok {ew lx} : validateCandidates s n lm ew lx cs = .ok () ↔
    (∀ c ∈ cs, c.IsValid s n lm) ∧ cs.Pairwise Apart ∧ ∀ c ∈ cs, c.window ∉ ew ∧
      (c.live = true → ¬ (lx.lookup c.window.xid).any (· ≠ c.window)) := by
  induction cs generalizing ew lx with
  | nil => simp [validateCandidates]
  | cons c cs ih =>
    -- a later live candidate of this XID would have to be this window
    have hx : ∀ d : AccessibilityWindowCandidate, (d.window ∉ c.window :: ew ∧ (d.live = true →
          ¬ ((if c.live then (c.window.xid, c.window) :: lx else lx).lookup d.window.xid).any (· ≠ d.window))) ↔
        Apart c d ∧ d.window ∉ ew ∧ (d.live = true → ¬ (lx.lookup d.window.xid).any (· ≠ d.window)) := by
      intro d
      rw [List.mem_cons, not_or]
      cases hc : c.live with
      | false => simp [Apart, hc, and_assoc]
      | true =>
        by_cases hd : d.window.xid = c.window.xid
        · by_cases hw : d.window = c.window
          · simp [Apart, hw]
          · cases hl : d.live <;> simp [Apart, hc, hd, hw, hl, Ne.symm hw]
        · have hb : (d.window.xid == c.window.xid) = false := by simpa using hd
          simp [Apart, List.lookup_cons, hb, hd, and_assoc]
    simp only [validateCandidates, guard_eq_ok, andThen_eq_ok, ih, hx, List.forall_mem_cons, List.pairwise_cons,
      AccessibilityWindowCandidate.IsValid, forall_and]
    tauto

theorem stringBudget_eq_ok {t} (hm : lm.maxTotalStringBytes ≤ u64Max) :
    (do let t ← spendStringBudget lm t cs
        if lm.maxTotalStringBytes < t then throw .stringLimit : Except AccessibilityCorrelationError Unit) = .ok () ↔
      t + (cs.map candidateStringBytes).sum ≤ lm.maxTotalStringBytes := by
  induction cs generalizing t with
  | nil =>
    simp only [spendStringBudget, List.map_nil, List.sum_nil, Nat.add_zero]
    by_cases h : lm.maxTotalStringBytes < t
    · exact iff_of_false (by simp [h, bind, Except.bind, throw, throwThe, MonadExceptOf.throw]) (Nat.not_le.2 h)
    · exact iff_of_true (by simp [h, bind, Except.bind, pure, Except.pure]) (Nat.not_lt.1 h)
  | cons c cs ih =>
    rw [spendStringBudget, checkedAdd, List.map_cons, List.sum_cons, ← Nat.add_assoc]
    by_cases h : lm.maxTotalStringBytes < t + candidateStringBytes c
    · refine iff_of_false ?_ (by omega)
      split_ifs <;> simp [h, bind, Except.bind]
    · rw [← ih, if_pos (Nat.le_trans (Nat.not_lt.1 h) hm)]
      simp only [h, if_false]

/-- The checks hold of every part of the candidates, in any order. -/
theorem validateInputs_subperm (hs : List.Subperm cs' cs) (h : validateInputs s cs n lm = .ok ()) :
    validateInputs s cs' n lm = .ok () := by
  simp only [validateInputs, guard_eq_ok, andThen_eq_ok, validateStringBudget, validateCandidates_eq_ok] at h ⊢
  obtain ⟨hl, hn, h1, h2, h3, h4, h5, h6, h7, h8, ⟨hv, hp, -⟩, hb⟩ := h
  have hm : lm.maxTotalStringBytes ≤ u64Max := by
    simp only [AccessibilityCorrelationLimits.validate] at hl
    split_ifs at hl with h
    simp only [not_or, maxAccessibilityCorrelationTotalStringBytes, u64Max] at h ⊢
    omega
  rw [stringBudget_eq_ok hm] at hb ⊢
  obtain ⟨l, hl', hsub⟩ := hs
  refine ⟨hl, ?_, h1, h2, h3, h4, h5, h6, h7, h8, ⟨fun c hc => ?_, ?_, by simp⟩, ?_⟩
  · have hlen := hsub.length_le
    rw [hl'.length_eq] at hlen
    omega
  · exact hv c (hsub.subset (hl'.mem_iff.2 hc))
  · exact (hl'.pairwise_iff (Std.Symm.symm _ _)).1 (hp.sublist hsub)
  · have hsum := (hsub.map candidateStringBytes).sum_le_sum fun _ _ => Nat.zero_le _
    rw [(hl'.map candidateStringBytes).sum_eq] at hsum
    omega

theorem isLE_total {α : Type} (cmp : α → α → Ordering) [Std.OrientedCmp cmp] (a b : α) :
    (cmp a b).isLE = true ∨ (cmp b a).isLE = true := by
  have h : cmp b a = (cmp a b).swap := Std.OrientedCmp.eq_swap
  rw [h]
  cases cmp a b <;> simp

theorem windowKeyLe_xid {a b} (h : windowKeyLe a b = true) (h' : windowKeyLe b a = true) : a.xid = b.xid := by
  have he := Std.OrientedCmp.isLE_antisymm h h'
  have hx := (compareLex_eq_eq.1 he).1
  exact UInt32.toNat_inj.1 (Std.LawfulEqOrd.eq_of_compare hx)

instance : Std.Total fun a b : AccessibilityWindowCandidate => windowKeyLe a.window b.window = true where
  total a b := isLE_total _ a.window b.window

instance : IsTrans AccessibilityWindowCandidate fun a b => windowKeyLe a.window b.window = true :=
  ⟨fun _ _ _ => Std.TransCmp.isLE_trans⟩

/-- There is one way to sort live candidates of which no two share an XID. -/
theorem insertionSort_eq (hp : cs.Pairwise Apart) (hl : ∀ c ∈ cs, c.live = true) (h : cs'.Perm cs) :
    cs'.insertionSort (fun a b => windowKeyLe a.window b.window = true) =
      cs.insertionSort fun a b => windowKeyLe a.window b.window = true := by
  refine List.Perm.eq_of_pairwise (fun a b ha hb hab hba => ?_) (List.pairwise_insertionSort _ _)
    (List.pairwise_insertionSort _ _)
    ((List.perm_insertionSort _ _).trans (h.trans (List.perm_insertionSort _ _).symm))
  rw [List.mem_insertionSort] at ha hb
  by_contra hne
  have hap := hp.forall (h.mem_iff.1 ha) hb hne
  exact hap.2 (hl a (h.mem_iff.1 ha)) (hl b hb) (windowKeyLe_xid hba hab)

theorem correlate_subperm {r} (hs : List.Subperm cs' cs) (hf : (cs'.filter (·.live)).Perm (cs.filter (·.live)))
    (h : correlateAccessibilityWindow s cs n lm = .ok r) : correlateAccessibilityWindow s cs' n lm = .ok r := by
  rw [correlateAccessibilityWindow, andThen_eq_ok] at h ⊢
  have hv := h.1
  simp only [validateInputs, andThen_eq_ok, guard_eq_ok, validateCandidates_eq_ok] at hv
  obtain ⟨-, -, -, -, -, -, -, -, -, -, ⟨-, hp, -⟩, -⟩ := hv
  have he := insertionSort_eq (hp.sublist List.filter_sublist) (fun c hc => (List.mem_filter.1 hc).2) hf
  exact ⟨validateInputs_subperm hs h.1, by simpa only [he] using h.2⟩

/-- **Correlation does not depend on candidate order**, nor on candidates that are not live. -/
theorem correlation_order_independent (subject : AccessibilityCorrelationSubject)
    (candidates : List AccessibilityWindowCandidate) (now : MonotonicMillis) (limits : AccessibilityCorrelationLimits)
    (result : ElementWindowCorrelation) (h : correlateAccessibilityWindow subject candidates now limits = .ok result) :
    (∀ other, other.Perm candidates → correlateAccessibilityWindow subject other now limits = .ok result) ∧
      ∀ left candidate right, candidates = left ++ candidate :: right → candidate.live = false →
        correlateAccessibilityWindow subject (left ++ right) now limits = .ok result := by
  refine ⟨fun other ho => correlate_subperm ho.subperm (ho.filter _) h, ?_⟩
  rintro left candidate right rfl hl
  refine correlate_subperm (List.Sublist.subperm ?_) ?_ h
  · exact (List.append_sublist_append_left left).2 (List.sublist_cons_self ..)
  · simp [hl]

/-- The launcher's windows the other way round. -/
theorem correlation_order_independent_launcher :
    correlateAccessibilityWindow .launcher [.ofGroup 1 11 7, .ofGroup 2 12 8] 5 {} =
      correlateAccessibilityWindow .launcher [.ofGroup 2 12 8, .ofGroup 1 11 7] 5 {} := by
  obtain ⟨result, h, -⟩ := correlate_launcher_window
  rw [h]
  exact (correlation_order_independent _ _ _ _ _ h).1 _ (List.Perm.swap ..)

end Xenoteer
