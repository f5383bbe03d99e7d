/-
What a correlation that authorizes a physical effect has established: its
window is the one live candidate of greatest score, nothing the score looked
at contradicts it, and a signal other than the client's own title and process
id corroborates it.

The conflict flag of a score is the disjunction of seven contradictions
(`scoreCandidate_conflict`), and a matched piece of evidence says what its
signal names (`scoreCandidate_honest`); the verdict only picks a candidate
and copies its score (`verdict_winner`).
-/
import Xenoteer.Accessibility.Correlation

namespace Xenoteer.Correlation

section Signals

variable {subject : AccessibilityCorrelationSubject} {candidate : AccessibilityWindowCandidate}
  {limits : AccessibilityCorrelationLimits}

/-! ## When a score conflicts -/

variable (subject candidate) in
/-- The client's process ids differ and no managed process holds both. -/
def processConflict : Bool :=
  subject.processId.any fun expected => candidate.processId.any fun actual =>
    expected ≠ actual && !commonManagedGroup subject candidate

variable (subject candidate) in
def managedConflict : Bool :=
  subject.managedProcessId.any fun expected => candidate.managedProcessId.any (expected ≠ ·)

variable (subject candidate) in
def extentsConflict : Bool :=
  subject.topLevelExtents.any fun expected => candidate.topLevelExtents.any fun actual =>
    geometryComparison expected actual = .miss

variable (subject candidate limits) in
/-- The subject is focused, the candidate was not at about the same time. -/
def focusConflict : Bool :=
  subject.focused && !focusTransitionMatches subject candidate limits
    && observationsAreClose subject.observedAt candidate.observedAt limits && !candidate.focused

@[simp] theorem push_conflict {r : CandidateScore} {signal matched detail} :
    (r.push signal matched detail).conflict = r.conflict := rfl

section

variable (r : CandidateScore)

theorem noteExplicitReference_conflict : (noteExplicitReference subject candidate r).conflict =
      (r.conflict || subject.explicitWindow.any (candidate.window ≠ ·)) := by
  unfold noteExplicitReference
  cases subject.explicitWindow with
  | none => simp
  | some e => by_cases h : candidate.window = e <;> simp [h]

theorem noteProcessId_conflict :
    (noteProcessId subject candidate r).conflict = (r.conflict || processConflict subject candidate) := by
  unfold noteProcessId processConflict
  rcases subject.processId with _ | e <;> rcases candidate.processId with _ | a
  · simp
  · simp
  · simp
  by_cases h : e = a
  · simp [h]
  · by_cases hg : commonManagedGroup subject candidate = true <;> simp [h, hg]

theorem noteManagedProcess_conflict :
    (noteManagedProcess subject candidate r).conflict = (r.conflict || managedConflict subject candidate) := by
  unfold noteManagedProcess managedConflict
  rcases subject.managedProcessId with _ | e <;> rcases candidate.managedProcessId with _ | a
  · simp
  · simp
  · simp
  by_cases h : e = a <;> simp [h]

theorem noteTopLevelExtents_conflict : (noteTopLevelExtents subject candidate r).conflict =
      (r.conflict || extentsConflict subject candidate) := by
  unfold noteTopLevelExtents extentsConflict
  rcases subject.topLevelExtents with _ | e <;> rcases candidate.topLevelExtents with _ | a
  · simp
  · simp
  · simp
  cases h : geometryComparison e a <;> simp [h]

theorem noteTitle_conflict : (noteTitle subject candidate r).conflict = r.conflict := by
  unfold noteTitle
  rcases subject.title with _ | e <;> rcases candidate.title with _ | a
  · rfl
  · rfl
  · rfl
  by_cases h : e = a <;> simp [h]

theorem noteIdentity_conflict : (noteIdentity subject candidate r).conflict =
      (r.conflict || (identityComparison subject candidate).any (!·.matched)) := by
  unfold noteIdentity
  cases identityComparison subject candidate with
  | none => simp
  | some i => cases h : i.matched <;> simp [h]

theorem noteClientLeader_conflict : (noteClientLeader subject candidate r).conflict =
      (r.conflict || subject.clientLeader.any (!leaderMatches candidate ·)) := by
  unfold noteClientLeader
  cases subject.clientLeader with
  | none => simp
  | some e => cases h : leaderMatches candidate e <;> simp [h]

theorem noteFocusTransition_conflict : (noteFocusTransition subject candidate limits r).conflict =
      (r.conflict || focusConflict subject candidate limits) := by
  unfold noteFocusTransition focusConflict
  cases subject.focused
  · simp
  cases focusTransitionMatches subject candidate limits
  · by_cases h : (observationsAreClose subject.observedAt candidate.observedAt limits && !candidate.focused)
      = true <;> simp [h]
  · simp

theorem noteCreationProximity_conflict :
    (noteCreationProximity subject candidate limits r).conflict = r.conflict := by
  unfold noteCreationProximity
  rcases subject.createdAt with _ | left <;> rcases candidate.createdAt with _ | right
  · rfl
  · rfl
  · rfl
  by_cases h : absoluteTimeDelta left right ≤ limits.maxCreationDeltaMs <;> simp [h]

/-- A score conflicts exactly when one of the seven contradicting signals
does: a title or a creation time never conflicts. -/
theorem scoreCandidate_conflict : (scoreCandidate subject candidate limits).conflict =
    (subject.explicitWindow.any (candidate.window ≠ ·) || processConflict subject candidate
      || managedConflict subject candidate || extentsConflict subject candidate
      || (identityComparison subject candidate).any (!·.matched)
      || subject.clientLeader.any (!leaderMatches candidate ·) || focusConflict subject candidate limits) := by
  simp only [scoreCandidate, noteCreationProximity_conflict, noteFocusTransition_conflict,
    noteClientLeader_conflict, noteIdentity_conflict, noteTitle_conflict, noteTopLevelExtents_conflict,
    noteManagedProcess_conflict, noteProcessId_conflict, noteExplicitReference_conflict, Bool.false_or]

/-! ## What matched evidence says -/

variable (subject candidate limits) in
/-- What each independent signal establishes about the candidate. -/
inductive Corroborates : WindowCorrelationSignal → Prop
  | managedProcess {pid : UInt32} (expected : subject.managedProcessId = some pid)
      (actual : candidate.managedProcessId = some pid) : Corroborates .managedProcess
  | topLevelExtents {expected actual : Rect} (subjectExtents : subject.topLevelExtents = some expected)
      (extents : candidate.topLevelExtents = some actual)
      (overlap : geometryComparison expected actual = .exact ∨ geometryComparison expected actual = .strong) :
      Corroborates .topLevelExtents
  | clientLeader {leader : WindowRef} (expected : subject.clientLeader = some leader)
      (actual : leaderMatches candidate leader = true) : Corroborates .clientLeader
  | focusTransition (expected : subject.focused = true)
      (actual : focusTransitionMatches subject candidate limits = true) : Corroborates .focusTransition
  | explicitCallerReference (expected : subject.explicitWindow = some candidate.window) :
      Corroborates .explicitCallerReference

variable (subject candidate limits) in
/-- Every matched independent piece of evidence is true of the candidate. -/
def Honest : Prop :=
  ∀ e ∈ r.evidence, e.matched = true → e.signal.isIndependent = true →
    Corroborates subject candidate limits e.signal

end

variable {r : CandidateScore} {signal : WindowCorrelationSignal}

section

variable (h : Honest subject candidate limits r)

include h

theorem Honest.push {m d}
    (hp : m = true → signal.isIndependent = true → Corroborates subject candidate limits signal) :
    Honest subject candidate limits (r.push signal m d) := by
  intro e he
  rcases List.mem_append.mp he with he | he
  · exact h e he
  · rw [List.mem_singleton.mp he]
    exact hp

/-- Unmatched evidence needs no justification. -/
theorem Honest.miss {d} : Honest subject candidate limits (r.push signal false d) :=
  h.push fun hm => nomatch hm

/-- Nor does evidence the client itself reports. -/
theorem Honest.reported {m d} (hs : signal.isIndependent = false) :
    Honest subject candidate limits (r.push signal m d) :=
  h.push fun _ hi => absurd hi (by simp [hs])

end

section

variable (h : Honest subject candidate limits r)
include h

theorem noteExplicitReference_honest :
    Honest subject candidate limits (noteExplicitReference subject candidate r) := by
  unfold noteExplicitReference
  cases he : subject.explicitWindow with
  | none => exact h
  | some e =>
    by_cases hw : candidate.window = e
    · simp only [hw, if_true]
      exact h.push fun _ _ => .explicitCallerReference (hw ▸ he)
    · simp only [hw, if_false]
      exact h.miss

theorem noteProcessId_honest : Honest subject candidate limits (noteProcessId subject candidate r) := by
  unfold noteProcessId
  split
  · split
    · exact h.reported rfl
    · split <;> exact h.reported rfl
  · exact h

theorem noteManagedProcess_honest :
    Honest subject candidate limits (noteManagedProcess subject candidate r) := by
  unfold noteManagedProcess
  split
  next e a he ha =>
    split
    next heq => exact h.push fun _ _ => .managedProcess he (heq ▸ ha)
    next => exact h.miss
  next => exact h

theorem noteTopLevelExtents_honest :
    Honest subject candidate limits (noteTopLevelExtents subject candidate r) := by
  unfold noteTopLevelExtents
  split
  next e a he ha =>
    split
    next heq => exact h.push fun _ _ => .topLevelExtents he ha (.inl heq)
    next heq => exact h.push fun _ _ => .topLevelExtents he ha (.inr heq)
    next => exact h.miss
    next => exact h.miss
  next => exact h

theorem noteTitle_honest : Honest subject candidate limits (noteTitle subject candidate r) := by
  unfold noteTitle
  split
  · split <;> exact h.reported rfl
  · exact h

theorem noteIdentity_honest : Honest subject candidate limits (noteIdentity subject candidate r) := by
  unfold noteIdentity
  split
  · exact h
  · split <;> exact h.reported rfl

theorem noteClientLeader_honest : Honest subject candidate limits (noteClientLeader subject candidate r) := by
  unfold noteClientLeader
  split
  next => exact h
  rename_i l hl
  split
  next hm => exact h.push fun _ _ => .clientLeader hl hm
  next => exact h.miss

theorem noteFocusTransition_honest :
    Honest subject candidate limits (noteFocusTransition subject candidate limits r) := by
  unfold noteFocusTransition
  split
  next hf =>
    split
    next hm => exact h.push fun _ _ => .focusTransition hf hm
    next => split <;> exact h.miss
  next => exact h

theorem noteCreationProximity_honest :
    Honest subject candidate limits (noteCreationProximity subject candidate limits r) := by
  unfold noteCreationProximity
  split
  · split <;> exact h.reported rfl
  · exact h

end

theorem scoreCandidate_honest : Honest subject candidate limits (scoreCandidate subject candidate limits) := by
  have hem : Honest subject candidate limits {} := fun e he => absurd he (List.not_mem_nil)
  exact noteCreationProximity_honest (noteFocusTransition_honest (noteClientLeader_honest
    (noteIdentity_honest (noteTitle_honest (noteTopLevelExtents_honest (noteManagedProcess_honest
      (noteProcessId_honest (noteExplicitReference_honest hem))))))))

/-! ## What a score without conflict excludes -/

theorem explicit_of_no_conflict (h : (scoreCandidate subject candidate limits).conflict = false)
    {e} (he : subject.explicitWindow = some e) : candidate.window = e := by
  rw [scoreCandidate_conflict] at h
  simp only [Bool.or_eq_false_iff] at h
  simpa [he] using h.1.1.1.1.1.1

/-- Differing process ids are only tolerated inside one managed process. -/
theorem managed_of_no_conflict (h : (scoreCandidate subject candidate limits).conflict = false)
    {e a} (he : subject.processId = some e) (ha : candidate.processId = some a) (hne : e ≠ a) :
    ∃ pid, subject.managedProcessId = some pid ∧ candidate.managedProcessId = some pid := by
  rw [scoreCandidate_conflict] at h
  simp only [Bool.or_eq_false_iff] at h
  have hg : commonManagedGroup subject candidate = true := by
    simpa [processConflict, he, ha, hne] using h.1.1.1.1.1.2
  unfold commonManagedGroup at hg
  rw [Option.any_eq_true] at hg
  obtain ⟨pid, hs, hc⟩ := hg
  rw [Option.any_eq_true] at hc
  obtain ⟨pid', hc, heq⟩ := hc
  exact ⟨pid, hs, of_decide_eq_true heq ▸ hc⟩

end Signals

/-! ## The verdict -/

section Verdict

variable {subject : AccessibilityCorrelationSubject} {limits : AccessibilityCorrelationLimits}
  {od : List AccessibilityWindowCandidate}

variable (subject limits od) in
/-- Marking the scores changes neither a score nor its evidence, and never
takes a conflict back. -/
theorem scoreAll_eq_map : ∃ m : AccessibilityWindowCandidate → CandidateScore,
    scoreAll subject limits od = od.map m ∧ ∀ c, (m c).score = (scoreCandidate subject c limits).score ∧
      (m c).evidence = (scoreCandidate subject c limits).evidence ∧
      ((scoreCandidate subject c limits).conflict = true → (m c).conflict = true) := by
  simp only [scoreAll]
  split
  · exact ⟨fun c => { scoreCandidate subject c limits with conflict := true }, by simp,
      fun c => ⟨rfl, rfl, fun _ => rfl⟩⟩
  · exact ⟨(scoreCandidate subject · limits), rfl, fun c => ⟨rfl, rfl, id⟩⟩

/-- A filtered list of pairs with its own image that is a singleton. -/
theorem filter_zip_map_eq_singleton {α β : Type} {l : List α} {f : α → β} {p : β → Bool} {a : α} {b : β}
    (h : ((l.zip (l.map f)).filter fun e => p e.2) = [(a, b)]) :
    l.filter (fun x => p (f x)) = [a] ∧ b = f a := by
  have hz : l.zip (l.map f) = l.map fun x => (x, f x) := by
    have h : (l.map id).zip (l.map f) = l.map fun x => (id x, f x) := List.zip_map'
    rwa [List.map_id] at h
  rw [hz, List.filter_map, List.map_eq_singleton_iff] at h
  obtain ⟨x, hx, heq⟩ := h
  obtain ⟨rfl, rfl⟩ := Prod.mk.inj heq
  exact ⟨hx, rfl⟩

/-- A verdict that names a window names the only candidate of greatest score
and reports that candidate's evidence; a conflict of the candidate's own
score is always reported. -/
theorem verdict_winner {wn : WindowRef} (h : (verdict subject limits od).window = some wn) :
    ∃ w ∈ od, w.window = wn
      ∧ (∀ o ∈ od, o.window ≠ wn →
          (scoreCandidate subject o limits).score < (scoreCandidate subject w limits).score)
      ∧ (verdict subject limits od).evidence = (scoreCandidate subject w limits).evidence
      ∧ ((scoreCandidate subject w limits).conflict = true →
          (verdict subject limits od).conflictingEvidence = true) := by
  obtain ⟨m, hsc, hm⟩ := scoreAll_eq_map subject limits od
  unfold verdict at h ⊢
  simp only [hsc] at h ⊢
  split at h
  · cases h
  next b hb =>
  by_cases hp : b ≤ 0
  · simp [hp, noCorrelation] at h
  simp only [hp, if_false] at h ⊢
  split at h
  next w sc hf =>
    obtain ⟨hs, rfl⟩ := filter_zip_map_eq_singleton (p := fun s : CandidateScore => s.score = b) hf
    have hin : w ∈ od.filter fun x => decide ((m x).score = b) := by
      rw [hs]
      exact List.mem_singleton_self w
    have hme : w ∈ od ∧ (m w).score = b := by simpa using hin
    have hb := List.max?_eq_some_iff.mp hb
    refine ⟨w, hme.1, Option.some.inj h, fun o ho hne => ?_, (hm w).2.1, (hm w).2.2⟩
    -- another candidate of greatest score would be in the singleton as well
    have hle : (m o).score ≤ b := hb.2 _ (by simpa using ⟨o, ho, rfl⟩)
    have hlt : (m o).score ≠ b := by
      intro heq
      have hin : o ∈ od.filter fun x => decide ((m x).score = b) :=
        List.mem_filter.mpr ⟨ho, by simpa using heq⟩
      rw [hs, List.mem_singleton] at hin
      exact hne (hin ▸ Option.some.inj h)
    rw [← (hm o).1, ← (hm w).1, hme.2]
    omega
  next => simp [noCorrelation] at h

end Verdict

end Xenoteer.Correlation

namespace Xenoteer

open Correlation

variable {subject : AccessibilityCorrelationSubject} {candidates : List AccessibilityWindowCandidate}
  {now : MonotonicMillis} {limits : AccessibilityCorrelationLimits} {result : ElementWindowCorrelation}

/-- A correlation that names a window is the verdict over the live
candidates, in some order. -/
theorem correlate_eq_verdict (h : correlateAccessibilityWindow subject candidates now limits = .ok result)
    (hw : result.window.isSome) : ∃ od : List AccessibilityWindowCandidate,
      (∀ c, c ∈ od ↔ c ∈ candidates ∧ c.live = true) ∧ result = verdict subject limits od := by
  unfold correlateAccessibilityWindow at h
  cases hv : validateInputs subject candidates now limits with
  | error e => simp [hv, bind, Except.bind] at h
  | ok _ =>
    simp only [hv, bind, Except.bind, pure, Except.pure] at h
    split at h
    · cases h; simp [noCorrelation] at hw
    split at h
    · cases h; simp [noCorrelation] at hw
    · cases h
      exact ⟨_, fun c => by simp, rfl⟩

/-- **An authorizing correlation is sound.** Its window is a live candidate
whose score is strictly greatest among the live candidates; nothing
conflicts; a matched independent signal corroborates it and is true of it; an
explicit target is the reported one; and differing process ids share a
managed process. -/
theorem correlation_authority_sound
    (h : correlateAccessibilityWindow subject candidates now limits = .ok result)
    (hauthorized : correlationAuthorizesPhysicalEffect result = true) :
    ∃ winner ∈ candidates, winner.live = true ∧ result.window = some winner.window
      ∧ (∀ other ∈ candidates, other.live = true → other.window ≠ winner.window →
          (scoreCandidate subject other limits).score < (scoreCandidate subject winner limits).score)
      ∧ result.conflictingEvidence = false
      ∧ (∃ e ∈ (scoreCandidate subject winner limits).evidence, e.matched = true
          ∧ e.signal.isIndependent = true ∧ Corroborates subject winner limits e.signal)
      ∧ (∀ explicit, subject.explicitWindow = some explicit → result.window = some explicit)
      ∧ (∀ expected actual, subject.processId = some expected → winner.processId = some actual →
          expected ≠ actual →
            ∃ pid, subject.managedProcessId = some pid ∧ winner.managedProcessId = some pid) := by
  simp only [correlationAuthorizesPhysicalEffect, Bool.and_eq_true, Bool.not_eq_true', List.any_eq_true]
    at hauthorized
  obtain ⟨⟨⟨hw, hco⟩, e, he, hm, hi⟩, -⟩ := hauthorized
  obtain ⟨od, ho, rfl⟩ := correlate_eq_verdict h hw
  obtain ⟨w, hw⟩ := Option.isSome_iff_exists.mp hw
  obtain ⟨winner, hme, rfl, hb, hev, hk⟩ := verdict_winner hw
  have hcl : (scoreCandidate subject winner limits).conflict = false := by
    cases hc : (scoreCandidate subject winner limits).conflict with
    | false => rfl
    | true => rw [hk hc] at hco; cases hco
  rw [hev] at he
  have hl := (ho winner).mp hme
  refine ⟨winner, hl.1, hl.2, hw, fun other hot hl hne => ?_, hco,
    ⟨e, he, hm, hi, scoreCandidate_honest e he hm hi⟩,
    fun explicit hex => ?_, fun expected actual => managed_of_no_conflict hcl⟩
  · exact hb other ((ho other).mpr ⟨hot, hl⟩) hne
  · rw [hw, explicit_of_no_conflict hcl hex]

/-! A launcher of a managed group whose window belongs to another process of
the group, beside a window of an unrelated group. -/

def AccessibilityCorrelationSubject.launcher : AccessibilityCorrelationSubject :=
  ⟨.nth 1, .nth 1, some 10, some 7, some ⟨0, 0, 100, 100⟩, none, none, none, false, none, none, 5, none, none⟩

def AccessibilityWindowCandidate.ofGroup (xid processId managedProcessId : UInt32) :
    AccessibilityWindowCandidate :=
  ⟨{ WindowRef.nth 1 with xid := xid }, true, some processId, some managedProcessId,
    some ⟨0, 0, 100, 100⟩, none, none, none, false, none, none, 5, none⟩

theorem correlate_launcher_window : ∃ result,
    correlateAccessibilityWindow .launcher [.ofGroup 2 12 8, .ofGroup 1 11 7] 5 {} = .ok result
      ∧ correlationAuthorizesPhysicalEffect result = true
      ∧ result.window = some (AccessibilityWindowCandidate.ofGroup 1 11 7).window := by
  exact ⟨verdict .launcher {} [.ofGroup 1 11 7, .ofGroup 2 12 8], by decide +kernel, by decide +kernel,
    by decide +kernel⟩

theorem correlation_authority_sound_launcher : ∃ winner ∈ [AccessibilityWindowCandidate.ofGroup 2 12 8,
      .ofGroup 1 11 7], winner.processId ≠ AccessibilityCorrelationSubject.launcher.processId
        ∧ ∃ pid, AccessibilityCorrelationSubject.launcher.managedProcessId = some pid
          ∧ winner.managedProcessId = some pid := by
  obtain ⟨result, hre, ha, hw⟩ := correlate_launcher_window
  obtain ⟨winner, hm, -, hr, -, -, -, -, hma⟩ := correlation_authority_sound hre ha
  rw [hw] at hr
  simp only [List.mem_cons, List.not_mem_nil, or_false] at hm
  obtain rfl | rfl := hm
  · exact absurd hr (by decide +kernel)
  · exact ⟨_, by simp, by decide, hma 10 11 rfl rfl (by decide)⟩

end Xenoteer
