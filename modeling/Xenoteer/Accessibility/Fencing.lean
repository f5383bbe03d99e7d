/-
Identity fencing of the accessibility cache over whole runs. An application
instance and an object birth are each named by a reference that is issued
once: the AT-SPI generation grows at a resync, and within one generation the
instance generation and the cache sequence grow. So a reference has one life,
and it resolves exactly during that life.
-/
import Xenoteer.Accessibility.CacheFacts
import Xenoteer.Accessibility.Query
import Xenoteer.Lib.Lifetimes

namespace Xenoteer.AccessibilityCache

open Lib.Run Lib.TreeMapKeys Lib.Lifetimes Lib.Trace

variable {encodedBytes : ElementSnapshot → Option Nat} {c c' : AccessibilityCache} {op : AccessibilityOp}
  {reply : Except AccessibilityModelError AccessibilityReply}

/-! ## What an answered call says about a reference -/

def isResync : Except AccessibilityModelError AccessibilityReply → Bool
  | .error (.resyncRequired _) | .ok (.resynced _) => true
  | _ => false

/-- An application instance is seen when a call returns it. It ends when
another instance takes its place, when it is removed and at a resync. -/
def applicationMark (application : ApplicationRef)
    (answered : AccessibilityOp × Except AccessibilityModelError AccessibilityReply) : Mark :=
  if isResync answered.2 then .ended
  else match answered with
    | (_, .ok (.application current)) =>
      if current = application then .seen
      else if applicationKey current = applicationKey application then .ended else .other
    | (.removeApplication removed, .ok _) => if removed = application then .ended else .other
    | _ => .other

/-- A birth is seen when an observation of it is accepted. It ends when
another birth is accepted under its key, when it is removed, when its
application is removed or restarted or another instance takes its place, and
at a resync. -/
def elementMark (element : ElementRef)
    (answered : AccessibilityOp × Except AccessibilityModelError AccessibilityReply) : Mark :=
  if isResync answered.2 then .ended
  else match answered with
    | (.observe snapshot, .ok _) =>
      if snapshot.element = element then .seen
      else if objectKey snapshot.element = objectKey element then .ended else .other
    | (.remove removed, .ok _) => if removed = element then .ended else .other
    | (.removeApplication removed, .ok _) => if removed = element.application then .ended else .other
    | (.restartApplication _ _ _, .ok (.application current)) =>
      if applicationKey current = applicationKey element.application then .ended else .other
    | (_, .ok (.application current)) =>
      if current ≠ element.application ∧
        applicationKey current = applicationKey element.application then .ended
      else .other
    | _ => .other

variable {e : AccessibilityModelError}

theorem isResync_error (he : ∀ b, e ≠ .resyncRequired b) : isResync (.error e) = false := by
  cases e with
  | resyncRequired b => exact absurd rfl (he b)
  | _ => rfl

theorem isResync_of_barrier {b} (h : reply = .error (.resyncRequired b) ∨
    reply = .ok (.resynced b)) : isResync reply = true := by
  rcases h with rfl | rfl <;> rfl

/-! ## The life of an application instance -/

def IsRegistered (c : AccessibilityCache) (application : ApplicationRef) : Prop :=
  c.applications[applicationKey application]? = some application

/-- The instance generation was taken, in this AT-SPI generation or an
earlier one. -/
def IsIssuedInstance (c : AccessibilityCache) (application : ApplicationRef) : Prop :=
  application.atspiGeneration.value < c.atspiGeneration.value ∨
    application.atspiGeneration = c.atspiGeneration ∧
      application.appInstanceGeneration ≤ c.lastApplicationGeneration[applicationKey application]?.getD 0

variable {application : ApplicationRef} {rv : AccessibilityRevision}

theorem IsIssuedInstance.cleared (h : c.IsIssuedInstance application) {g}
    (hg : g.value = c.atspiGeneration.value + 1) : (c.cleared g rv).IsIssuedInstance application := by
  refine .inl ?_
  show application.atspiGeneration.value < g.value
  rcases h with h | ⟨h, -⟩
  · omega
  · rw [h]
    omega

section Install

variable {key : ApplicationKey} {g : Nat} {new application : ApplicationRef}
  {rm rv : AccessibilityRevision}

theorem isRegistered_install : ((c.retire key rm).installApplication key g new rv).IsRegistered application ↔
      if key = applicationKey application then new = application else c.IsRegistered application := by
  have hf := removeApplicationNodesAt_frame (c.applicationElements key) rm c
  simp only [IsRegistered, installApplication, retire, hf.applications, getElem?_insert_eq]
  split <;> simp

theorem IsIssuedInstance.install (h : c.IsIssuedInstance application)
    (hg : g = c.lastApplicationGeneration[key]?.getD 0 + 1) :
    ((c.retire key rm).installApplication key g new rv).IsIssuedInstance application := by
  have hf := removeApplicationNodesAt_frame (c.applicationElements key) rm c
  simp only [IsIssuedInstance, installApplication, retire, hf.atspiGeneration,
    hf.lastApplicationGeneration, getElem?_insert_eq]
  refine h.imp_right (And.imp_right fun hi => ?_)
  split
  next hk =>
    rw [← hk] at hi
    exact hi.trans (hg ▸ Nat.le_succ _)
  · exact hi

/-- The generation of a new instance is not taken before, and is after. -/
theorem not_isIssuedInstance_next {bus root hash}
    (hg : g = c.lastApplicationGeneration[(⟨bus, root⟩ : ApplicationKey)]?.getD 0 + 1) :
    ¬ c.IsIssuedInstance (c.nextApplicationRef bus root hash g) := by
  rintro (h | ⟨-, h⟩)
  · exact Nat.lt_irrefl _ h
  · have h' : g ≤ c.lastApplicationGeneration[(⟨bus, root⟩ : ApplicationKey)]?.getD 0 := h
    omega

theorem isIssuedInstance_install {bus root hash} :
    ((c.retire ⟨bus, root⟩ rm).installApplication ⟨bus, root⟩ g new rv).IsIssuedInstance
      (c.nextApplicationRef bus root hash g) := by
  have hf := removeApplicationNodesAt_frame (c.applicationElements ⟨bus, root⟩) rm c
  refine .inr ⟨hf.atspiGeneration.symm, ?_⟩
  simp [installApplication, nextApplicationRef, applicationKey]

end Install

theorem isRegistered_forget {key rm} : ((c.retire key rm).forget key rv).IsRegistered application ↔
      key ≠ applicationKey application ∧ c.IsRegistered application := by
  have hf := removeApplicationNodesAt_frame (c.applicationElements key) rm c
  simp only [IsRegistered, forget, retire, hf.applications, getElem?_erase_eq]
  split <;> simp [*]

variable {marks : List Mark}

theorem Change.livedInstance (h : Change c op reply c') (hs : c.Sound)
    (hl : Lived (c.IsRegistered application) (c.IsIssuedInstance application) marks) :
    Lived (c'.IsRegistered application) (c'.IsIssuedInstance application)
      (marks ++ [applicationMark application (op, reply)]) := by
  cases h with
  | refused he => simpa [applicationMark, isResync_error he] using hl.other Iff.rfl id
  | referenced | resolved => exact hl.other Iff.rfl id
  | @found bus rt hash ex hex =>
    have hk : applicationKey ex = ⟨bus, rt⟩ := hs.applicationKeyed hex
    rw [← hk] at hex
    simp only [applicationMark, isResync, Bool.false_eq_true, if_false]
    refine hl.takes ?_ id fun heq => ⟨.inl (heq ▸ hex), hl.issued_of_live (heq ▸ hex)⟩
    split
    next hsa => rw [IsRegistered, ← hsa, hex, Option.some.injEq]
    · rfl
  | resynced hre hg =>
    simp only [applicationMark, isResync_of_barrier hre, if_true]
    refine hl.ended ?_ fun hi => hi.cleared hg
    simp [IsRegistered, cleared]
  | @installed _ bus rt hash new g rm rv hop hn hv hg =>
    subst hn
    simp only [applicationMark, isResync, Bool.false_eq_true, if_false]
    refine hl.takes isRegistered_install (fun hi => hi.install hg) ?_
    rintro rfl
    exact ⟨.inr (not_isIssuedInstance_next hg), isIssuedInstance_install⟩
  | @retired r rm rv hrq =>
    have hf := removeApplicationNodesAt_frame (c.applicationElements (applicationKey r)) rm c
    have hi : c.IsIssuedInstance application →
        ((c.retire (applicationKey r) rm).forget (applicationKey r) rv).IsIssuedInstance
          application := by
      intro h
      simpa only [IsIssuedInstance, forget, retire, hf.atspiGeneration,
        hf.lastApplicationGeneration] using h
    have hr : c.IsRegistered r := (requireApplication_ok hrq).2.2.2.2
    simp only [applicationMark, isResync, Bool.false_eq_true, if_false]
    refine hl.ended_or_other (fun heq h => (isRegistered_forget.mp h).1 (by rw [heq])) (fun hne => ?_) hi
    refine isRegistered_forget.trans ⟨And.right, fun h => ⟨fun hsa => hne ?_, h⟩⟩
    -- two instances under one key are one
    rw [IsRegistered, hsa] at hr
    exact Option.some.inj (hr.symm.trans h)
  | @born s st rv ip =>
    have hsc := c.born_scope st rv ip
    refine hl.other ?_ ?_
    · rw [IsRegistered, hsc.applications, IsRegistered]
    · rw [IsIssuedInstance, IsIssuedInstance, hsc.atspiGeneration, hsc.lastApplicationGeneration]
      exact id
  | refreshed | removed => exact hl.other Iff.rfl id

/-- A restart takes an instance generation that was not taken. -/
theorem Change.not_isIssuedInstance {bus root hash}
    (h : Change c (.restartApplication bus root hash) (.ok (.application application)) c') :
    ¬ c.IsIssuedInstance application := by
  cases h with
  | installed _ hn _ hg => exact hn ▸ not_isIssuedInstance_next hg
  | resynced hre => rcases hre with h | h <;> cases h

/-! ## The life of a birth -/

def IsLive (c : AccessibilityCache) (element : ElementRef) : Prop :=
  ∃ node, c.nodes[objectKey element]? = some node ∧ node.element = element

/-- The cache sequence was taken, in this AT-SPI generation or an earlier
one. -/
def IsIssued (c : AccessibilityCache) (element : ElementRef) : Prop :=
  element.atspiGeneration.value < c.atspiGeneration.value ∨
    element.atspiGeneration = c.atspiGeneration ∧ element.cacheSequence ≤ c.lastCacheSequence

variable {el : ElementRef}

theorem IsIssued.cleared (h : c.IsIssued el) {g} (hg : g.value = c.atspiGeneration.value + 1) :
    (c.cleared g rv).IsIssued el := by
  refine .inl ?_
  show el.atspiGeneration.value < g.value
  rcases h with h | ⟨h, -⟩
  · omega
  · rw [h]
    omega

/-- The node that is live under a key is the only birth that is. -/
theorem IsLive.eq_of_key {a b} (ha : c.IsLive a) (hb : c.IsLive b)
    (hk : objectKey a = objectKey b) : a = b := by
  obtain ⟨n, hn, rfl⟩ := ha
  obtain ⟨n', hn', rfl⟩ := hb
  rw [hk, hn'] at hn
  cases hn
  rfl

theorem Sound.isRegistered (hs : c.Sound) (h : c.IsLive el) : c.IsRegistered el.application := by
  obtain ⟨n, hn, rfl⟩ := h
  exact (requireApplication_ok (requireElementScope_ok (hs.registered hn)).2.2.2.2).2.2.2.2

/-- Elements of a retired application end; the others go on. -/
theorem Sound.lived_retire (hs : c.Sound) {key} {en : Prop} [Decidable en]
    (hl : Lived (c.IsLive el) (c.IsIssued el) marks) (he : en → applicationKey el.application = key)
    (hk : ¬ en → c.IsLive el → applicationKey el.application ≠ key) :
    Lived ((c.retire key rv).IsLive el) ((c.retire key rv).IsIssued el)
      (marks ++ [if en then .ended else .other]) := by
  have hf := removeApplicationNodesAt_frame (c.applicationElements key) rv c
  have hi : c.IsIssued el → (c.retire key rv).IsIssued el := by
    rw [IsIssued, IsIssued, AccessibilityCache.retire, hf.atspiGeneration, hf.lastCacheSequence]
    exact id
  have hli : (c.retire key rv).IsLive el ↔ applicationKey el.application ≠ key ∧ c.IsLive el := by
    have hke : (objectKey el).application = applicationKey el.application := rfl
    simp only [IsLive, hs.keyed.retire_nodes, hke]
    split <;> simp [*]
  exact hl.ended_or_other (fun h hn => (hli.mp hn).1 (he h))
    (fun h => hli.trans ⟨And.right, fun hb => ⟨hk h hb, hb⟩⟩) hi

variable {st : ElementSnapshot} {ip : Bool}

theorem isLive_bury {r} : ((c.bury r rv).setRevision rv).IsLive el ↔
      objectKey r ≠ objectKey el ∧ c.IsLive el := by
  have hn : ((c.bury r rv).setRevision rv).nodes = (c.bury r rv).nodes := rfl
  simp only [IsLive, hn, bury_nodes]
  split <;> simp [*]

/-- A birth takes the next cache sequence, which was not taken. -/
theorem lived_born (hl : Lived (c.IsLive el) (c.IsIssued el) marks)
    (ha : st.element.atspiGeneration = c.atspiGeneration)
    (hs : st.element.cacheSequence = c.lastCacheSequence + 1) : Lived ((c.born st rv ip).IsLive el)
      ((c.born st rv ip).IsIssued el)
      (marks ++ [if st.element = el then .seen
        else if objectKey st.element = objectKey el then .ended else .other]) := by
  have hg := (c.born_scope st rv ip).atspiGeneration
  have hla : (c.born st rv ip).lastCacheSequence = st.element.cacheSequence := by
    unfold born clearBirth
    cases c.nodes[objectKey st.element]? <;> rfl
  refine hl.takes (by simp only [IsLive, born_nodes]; split <;> simp) ?_ ?_
  · rw [IsIssued, IsIssued, hg, hla, hs]
    exact Or.imp_right fun ⟨ha, h⟩ => ⟨ha, Nat.le_succ_of_le h⟩
  · rintro rfl
    refine ⟨.inr ?_, .inr ⟨ha.trans hg.symm, hla.ge⟩⟩
    rintro (h | ⟨-, h⟩)
    · rw [ha] at h
      exact Nat.lt_irrefl _ h
    · omega

theorem Change.lived (h : Change c op reply c') (hs : c.Sound) {apps}
    (ha : Lived (c.IsRegistered el.application) (c.IsIssuedInstance el.application) apps)
    (hl : Lived (c.IsLive el) (c.IsIssued el) marks) :
    Lived (c'.IsLive el) (c'.IsIssued el) (marks ++ [elementMark el (op, reply)]) := by
  cases h with
  | refused he => simpa [elementMark, isResync_error he] using hl.other Iff.rfl id
  | referenced | resolved => exact hl.other Iff.rfl id
  | @found bus rt hash ex hex =>
    have hk : applicationKey ex = ⟨bus, rt⟩ := hs.applicationKeyed hex
    simp only [elementMark, isResync, Bool.false_eq_true, if_false]
    refine hl.ended_or_other (fun hed hli => hed.1 ?_) (fun _ => Iff.rfl) id
    have hr := hs.isRegistered hli
    rw [IsRegistered, ← hed.2, hk, hex] at hr
    exact Option.some.inj hr
  | resynced hrp hg =>
    simp only [elementMark, isResync_of_barrier hrp, if_true]
    refine hl.ended ?_ fun hi => hi.cleared hg
    simp [IsLive, cleared]
  | @installed op bus rt hash new g rm rv hop hnw hv hg =>
    subst hnw
    rcases hop with rfl | rfl <;> simp only [elementMark, isResync, Bool.false_eq_true, if_false]
    · refine hs.lived_retire hl (fun hen => hen.2.symm) ?_
      -- the instance of a live element was issued before the new one
      intro hn hli hsa
      refine hn ⟨fun heq => ?_, hsa.symm⟩
      have hold := ha.issued_of_live (hs.isRegistered hli)
      rw [← heq] at hold
      exact not_isIssuedInstance_next hg hold
    · exact hs.lived_retire hl Eq.symm fun hn _ hsa => hn hsa.symm
  | @retired r rm rv hre =>
    have hr : c.IsRegistered r := (requireApplication_ok hre).2.2.2.2
    refine hs.lived_retire hl (fun hen => by rw [hen]) ?_
    intro hn hli hsa
    have ho := hs.isRegistered hli
    rw [IsRegistered, hsa] at ho
    exact hn (Option.some.inj (hr.symm.trans ho))
  | @born s st rv ip hre hst hp hnw hse =>
    have hel : st.element = s.element := by rw [hst, redactProtected_element]
    have hat := (requireElementScope_ok hre).2.2.2.1
    simp only [elementMark, isResync, Bool.false_eq_true, if_false]
    rw [← hel] at hat hse ⊢
    exact lived_born hl hat hse
  | @refreshed s st rv ip hre hst hp hrf =>
    have hel : st.element = s.element := by rw [hst, redactProtected_element]
    have hc : c.IsLive s.element := isRefresh_iff.mp hrf
    simp only [elementMark, isResync, Bool.false_eq_true, if_false]
    rw [← hel] at hc ⊢
    refine hl.takes (by simp only [IsLive, storeNode_nodes]; split <;> simp) id ?_
    rintro rfl
    exact ⟨.inl hc, hl.issued_of_live hc⟩
  | @removed r rv n hno hsa =>
    simp only [elementMark, isResync, Bool.false_eq_true, if_false]
    refine hl.ended_or_other (fun heq h => (isLive_bury.mp h).1 (by rw [heq])) (fun hne => ?_) id
    refine isLive_bury.trans ⟨And.right, fun h => ⟨fun hk => hne ?_, h⟩⟩
    exact IsLive.eq_of_key ⟨n, hno, hsa⟩ h hk

/-! ## Whole runs -/

variable {c₀ : AccessibilityCache}

theorem livedInstance_final {encodedBytes} (hs₀ : c₀.Sound) (h₀ : c₀.applications = ∅) {ops application} :
    let c := final (step encodedBytes) c₀ ops
    c.Sound ∧ Lived (c.IsRegistered application) (c.IsIssuedInstance application)
      ((answers (step encodedBytes) c₀ ops).map (applicationMark application)) := by
  refine run_induction (P := fun (c : AccessibilityCache) log => c.Sound ∧
    Lived (c.IsRegistered application) (c.IsIssuedInstance application)
      (log.map (applicationMark application)))
    ⟨hs₀, .nil (by simp [IsRegistered, h₀])⟩ ?_ ops
  intro c log op ⟨hs, hl⟩
  have hc := c.step_change encodedBytes op
  exact ⟨hs.change hc, by simpa using hc.livedInstance hs hl⟩

theorem lived_final (encodedBytes : ElementSnapshot → Option Nat) (hs₀ : c₀.Sound)
    (h₀ : c₀.applications = ∅) (hn : c₀.nodes = ∅) (ops : List AccessibilityOp) (el : ElementRef) :
    let c := final (step encodedBytes) c₀ ops
    Lived (c.IsLive el) (c.IsIssued el)
      ((answers (step encodedBytes) c₀ ops).map (elementMark el)) := by
  intro c
  induction ops using List.reverseRecOn with
  | nil => exact .nil (by simp [c, IsLive, hn])
  | append_singleton ops op ih =>
    obtain ⟨hs, ha⟩ := livedInstance_final hs₀ h₀
    simpa [c] using ((final (step encodedBytes) c₀ ops).step_change encodedBytes op).lived hs ha ih

/-- What resolves is the live birth of the very reference. -/
theorem Sound.resolveExact_ok_iff (hs : c.Sound) {snapshot} : c.resolveExact el = .ok snapshot ↔
      c.nodes[objectKey el]? = some snapshot ∧ snapshot.element = el := by
  constructor
  · intro h
    unfold resolveExact at h
    cases hsc : c.requireElementScope el with
    | error e =>
      rw [hsc] at h
      cases h
    | ok _ =>
      rw [hsc] at h
      simp only [bind, Except.bind, pure, Except.pure, throw, throwThe, MonadExceptOf.throw] at h
      split at h
      next node hn =>
        split at h
        next hsa =>
          cases h
          exact ⟨hn, hsa⟩
        · cases h
      · split at h <;> cases h
  · intro ⟨hn, hsa⟩
    have hsc := hs.registered hn
    rw [hsa] at hsc
    unfold resolveExact
    rw [hsc, hn]
    exact if_pos hsa

/-- A call that leaves another cache takes a new revision. -/
theorem Change.revision_lt (h : Change c op reply c') : c.revision.value < c'.revision.value ∨ c' = c := by
  cases h with
  | refused | referenced | resolved | found => exact .inr rfl
  | installed hop hn hv hg hro hr | retired hre hr => exact .inl hr
  | resynced _ _ hr | born _ _ _ _ _ _ hr | refreshed _ _ _ _ hr | removed _ _ hr =>
    exact .inl (Nat.lt_of_lt_of_eq (Nat.lt_succ_self _) hr.symm)

theorem revision_run (encodedBytes : ElementSnapshot → Option Nat) (c : AccessibilityCache)
    (ops : List AccessibilityOp) : c.revision.value < (final (step encodedBytes) c ops).revision.value ∨ final
      (step encodedBytes) c ops = c := by
  refine final_induction (P := fun c' : AccessibilityCache => c.revision.value < c'.revision.value ∨ c' = c)
    (.inr rfl) ?_ ops
  intro c' op h
  rcases (c'.step_change encodedBytes op).revision_lt with hlt | heq
  · refine .inl ?_
    rcases h with h | rfl
    · exact h.trans hlt
    · exact hlt
  · rwa [heq]

/-- Nothing is registered, live or buried. -/
structure IsEmpty (c : AccessibilityCache) : Prop where
  applications : c.applications = ∅
  lastApplicationGeneration : c.lastApplicationGeneration = ∅
  nodes : c.nodes = ∅
  protectedBirths : c.protectedBirths = ∅
  tombstones : c.tombstones = []

theorem Change.of_error (h : Change c op (.error e) c') : (∀ b, e ≠ .resyncRequired b) ∧ c' = c ∨
      c'.IsEmpty ∧ c.atspiGeneration.value < c'.atspiGeneration.value ∧
        c.revision.value < c'.revision.value ∧
        ∃ r, e = .resyncRequired ⟨c'.atspiGeneration, c'.revision, r⟩ := by
  cases h with
  | refused he => exact .inl ⟨he, rfl⟩
  | @resynced _ _ b hr hg hre =>
    refine .inr ⟨⟨rfl, rfl, rfl, rfl, rfl⟩, Nat.lt_of_lt_of_eq (Nat.lt_succ_self _) hg.symm,
      Nat.lt_of_lt_of_eq (Nat.lt_succ_self _) hre.symm, b.reason, ?_⟩
    rcases hr with h | h
    · exact Except.error.inj h
    · cases h

/-- Accessibility references are fenced along every run of the cache: each has
one life, and a restart answers one that no call answered before. -/
theorem identity_fencing (encodedBytes : ElementSnapshot → Option Nat) {desktopId : DesktopId}
    {desktopGeneration : DesktopGeneration} {atspiGeneration : AtspiGeneration}
    {limits : AccessibilityModelLimits}
    (h₀ : AccessibilityCache.new desktopId desktopGeneration atspiGeneration limits = .ok c₀)
    (ops : List AccessibilityOp) :
    let c := final (step encodedBytes) c₀ ops
    let log := answers (step encodedBytes) c₀ ops
    (∀ el, OneLife (log.map (elementMark el))) ∧
    (∀ application, OneLife (log.map (applicationMark application))) ∧
    (∀ el, (∃ snapshot, c.resolveExact el = .ok snapshot) ↔
      Stands .seen .ended (log.map (elementMark el))) ∧
    (∀ el snapshot, c.resolveExact el = .ok snapshot → snapshot.element = el) ∧
    (∀ (key : ObjectKey) (node : ElementSnapshot), c.nodes[key]? = some node →
      c.applications[applicationKey node.element.application]? = some node.element.application) ∧
    c.nodes.size ≤ limits.maxLiveNodes ∧
    c.tombstones.length ≤ limits.maxTombstones ∧
    c.lastApplicationGeneration.size ≤ limits.maxLiveNodes ∧
    (∀ earlier later, ops = earlier ++ later →
      (final (step encodedBytes) c₀ earlier).revision = c.revision → final
        (step encodedBytes) c₀ earlier = c) ∧
    (∀ op e, (c.step encodedBytes op).1 = .error e → let c' := (c.step encodedBytes op).2
      (∀ barrier, e ≠ .resyncRequired barrier) ∧ c' = c ∨
      c'.IsEmpty ∧ c.atspiGeneration.value < c'.atspiGeneration.value ∧
        c.revision.value < c'.revision.value ∧
        ∃ reason, e = .resyncRequired ⟨c'.atspiGeneration, c'.revision, reason⟩) ∧
    (∀ bus root hash application,
      (c.step encodedBytes (.restartApplication bus root hash)).1 = .ok (.application application) →
      ∀ answered ∈ log, answered.2 ≠ .ok (.application application)) := by
  intro c log
  obtain ⟨hs₀, hli, hn, ha⟩ := Sound.new h₀
  have hs : c.Sound := hs₀.final ops
  have hc : c.limits = limits := (limits_final c₀ ops).trans hli
  refine ⟨?_, ?_, ?_, ?_, ?_, hc ▸ hs.node_bound, hc ▸ hs.tombstone_bound,
    hc ▸ hs.application_bound, ?_, ?_, ?_⟩
  · exact fun el => (lived_final encodedBytes hs₀ ha hn ops el).oneLife
  · exact fun application => (livedInstance_final hs₀ ha).2.oneLife
  · intro el
    rw [← (lived_final encodedBytes hs₀ ha hn ops el).live_iff]
    exact exists_congr fun snapshot => hs.resolveExact_ok_iff
  · exact fun el snapshot h => (hs.resolveExact_ok_iff.mp h).2
  · exact fun key node hno => hs.isRegistered ⟨node, (hs.keyed key node hno).symm ▸ hno, rfl⟩
  · intro earlier later heq hr
    have hl : c = final (step encodedBytes) (final (step encodedBytes) c₀ earlier) later := by
      show final (step encodedBytes) c₀ ops = _
      rw [heq, final_append]
    rcases revision_run encodedBytes (final (step encodedBytes) c₀ earlier) later with hlt | hsa
    · rw [← hl, hr] at hlt
      exact absurd hlt (Nat.lt_irrefl _)
    · rw [hl, hsa]
  · intro op e he
    have hch := c.step_change encodedBytes op
    rw [he] at hch
    exact hch.of_error
  · rintro bus root hash application hre ⟨op, _⟩ hm rfl
    have hch := c.step_change encodedBytes (.restartApplication bus root hash)
    rw [hre] at hch
    have hse : .seen ∈ log.map (applicationMark application) :=
      List.mem_map.mpr ⟨_, hm, by simp [applicationMark, isResync]⟩
    exact hch.not_isIssuedInstance ((livedInstance_final hs₀ ha).2.issued_of_seen hse)

/-- A birth that was removed gives way to the next birth of its object, and
only that one resolves. -/
theorem successor_resolves_after_removal :
    let encodedBytes : ElementSnapshot → Option Nat := fun _ => some 0
    let ops : List AccessibilityOp := [.registerApplication .sample .sample .allA,
      .observe (.bare (.nth 1) .button), .remove (.nth 1), .observe (.bare (.nth 2) .button)]
    let c := final (step encodedBytes) empty ops
    (∃ snapshot, c.resolveExact (.nth 2) = .ok snapshot) ∧ ¬ ∃ snapshot, c.resolveExact
    (.nth 1) = .ok snapshot := by
  intro encodedBytes ops c
  have hr := (identity_fencing encodedBytes new_empty ops).2.2.1
  rw [hr, hr]
  have hs : (answers (step encodedBytes) empty ops).map (elementMark (.nth 2)) =
      [.other, .ended, .other] ++ [.seen] := by decide +kernel
  have hf : (answers (step encodedBytes) empty ops).map (elementMark (.nth 1)) =
      [.other, .seen, .ended, .ended] := by decide +kernel
  rw [hs, hf]
  refine ⟨stands_append_self _ _ _, fun h => ?_⟩
  have he := h.of_append (t := [Mark.other, .seen]) (by decide)
  exact he.2 (by decide)

/-! ## Waits -/

/-- A wait that was prepared before any calls of the cache and is checked
again after them fails in its first check, is refused because the cache was
cleared in between, or answers what an evaluation of the cache as it is now
answers, with the clock of one of the checks. -/
theorem recheckWait_current (env : QueryEnvironment) (c₀ : AccessibilityCache) (ops : List AccessibilityOp)
    (request : ElementWaitRequest) (first second : Nat) :
    let c := final (step encodedBytes) c₀ ops
    let answer := (do
      let prepared ← c₀.prepareWait env request
      set second
      c.recheckWait env prepared : Timed AccessibilityWaitEvaluation).run first
    (∃ e, answer = .error e ∧ (c₀.snapshot.evaluateWait env request).run first = .error e) ∨
    answer = .error .resyncRequired ∧ c.atspiGeneration ≠ c₀.atspiGeneration ∨
    ∃ reading ∈ [first, second],
      answer.map Prod.fst = ((c.snapshot.evaluateWait env request).run reading).map Prod.fst := by
  intro c answer
  cases he : (c₀.snapshot.evaluateWait env request).run first with
  | error e =>
    refine .inl ⟨e, ?_, rfl⟩
    simp only [answer, prepareWait, StateT.run_bind, he]
    rfl
  | ok evaluated =>
    have ha : answer = (c.recheckWait env
        ⟨request, c₀.revision, c₀.atspiGeneration, evaluated.1⟩).run second := by
      simp only [answer, prepareWait, StateT.run_bind, he]
      rfl
    rw [ha, recheckWait]
    split
    next hg => exact .inr (.inl ⟨rfl, Ne.symm hg⟩)
    split
    next hr =>
      -- the first answer is kept at the same revision, which is the same cache
      have hc : c = c₀ := (revision_run encodedBytes c₀ ops).resolve_left fun h => h.ne (congrArg _ hr)
      exact .inr (.inr ⟨first, by simp, by rw [hc, he]; rfl⟩)
    · exact .inr (.inr ⟨second, by simp, rfl⟩)

end Xenoteer.AccessibilityCache
