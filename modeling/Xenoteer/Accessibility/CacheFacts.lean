/-
What one call of the accessibility cache can do (`Change`), and the
invariants that every run keeps, read off it.
-/
import Xenoteer.Accessibility.Cache

namespace Xenoteer.AccessibilityCache

open Lib.Run Lib.TreeMapKeys

variable {eb : ElementSnapshot → Option Nat} {c c' : AccessibilityCache} {op : AccessibilityOp}
  {reply : Except AccessibilityModelError AccessibilityReply}

/-! ## Removing nodes -/

/-- The parts of the cache that say which references it accepts. -/
structure SameScope (c c' : AccessibilityCache) : Prop where
  desktopId : c'.desktopId = c.desktopId
  desktopGeneration : c'.desktopGeneration = c.desktopGeneration
  atspiGeneration : c'.atspiGeneration = c.atspiGeneration
  limits : c'.limits = c.limits
  applications : c'.applications = c.applications
  lastApplicationGeneration : c'.lastApplicationGeneration = c.lastApplicationGeneration

/-- The parts of the cache that removing nodes does not touch. -/
structure SameFrame (c c' : AccessibilityCache) : Prop extends SameScope c c' where
  revision : c'.revision = c.revision
  lastCacheSequence : c'.lastCacheSequence = c.lastCacheSequence

/-- One node goes, with its protection, and leaves a tombstone. -/
def bury (c : AccessibilityCache) (element : ElementRef) (revision : AccessibilityRevision) :
    AccessibilityCache :=
  (c.dropNode (objectKey element)).pushTombstone element revision

/-- All nodes of an application go. -/
def retire (c : AccessibilityCache) (key : ApplicationKey) (revision : AccessibilityRevision) :
    AccessibilityCache :=
  c.removeApplicationNodesAt (c.applicationElements key) revision

theorem removeApplicationNodesAt_cons (c : AccessibilityCache) (el : ElementRef)
    (r : List ElementRef) (rv : AccessibilityRevision) : c.removeApplicationNodesAt (el :: r) rv =
      (c.bury el rv).removeApplicationNodesAt r rv := rfl

theorem removeApplicationNodesAt_frame (r : List ElementRef) (rv : AccessibilityRevision) :
    ∀ c : AccessibilityCache, SameFrame c (c.removeApplicationNodesAt r rv) := by
  induction r with
  | nil => exact fun c => ⟨⟨rfl, rfl, rfl, rfl, rfl, rfl⟩, rfl, rfl⟩
  | cons el r ih =>
    intro c
    have h := ih (c.bury el rv)
    exact ⟨⟨h.desktopId, h.desktopGeneration, h.atspiGeneration, h.limits, h.applications,
      h.lastApplicationGeneration⟩, h.revision, h.lastCacheSequence⟩

theorem removeApplicationNodesAt_nodes (r : List ElementRef) (rv : AccessibilityRevision)
    (key : ObjectKey) : ∀ c : AccessibilityCache, (c.removeApplicationNodesAt r rv).nodes[key]? =
      if key ∈ r.map objectKey then none else c.nodes[key]? := by
  induction r with
  | nil => exact fun c => by simp [removeApplicationNodesAt]
  | cons el r ih =>
    intro c
    rw [removeApplicationNodesAt_cons, ih]
    simp only [bury, pushTombstone, dropNode, getElem?_erase_eq, List.map_cons, List.mem_cons]
    by_cases hh : key = objectKey el
    · simp [hh]
    · simp [hh, Ne.symm hh]

theorem pushTombstone_length (c : AccessibilityCache) (el : ElementRef) (rv : AccessibilityRevision) :
    (c.pushTombstone el rv).tombstones.length ≤ c.limits.maxTombstones := by
  simp only [pushTombstone, List.length_drop]
  omega

theorem removeApplicationNodesAt_tombstones (r : List ElementRef) (rv : AccessibilityRevision) :
    ∀ c : AccessibilityCache, c.tombstones.length ≤ c.limits.maxTombstones →
      (c.removeApplicationNodesAt r rv).tombstones.length ≤ c.limits.maxTombstones := by
  induction r with
  | nil => exact fun c h => h
  | cons el r ih =>
    intro c _
    exact ih (c.bury el rv) (pushTombstone_length _ _ _)

variable {key : ApplicationKey} {el : ElementRef}

theorem mem_applicationElements : el ∈ c.applicationElements key ↔
      ∃ (o : ObjectKey) (n : ElementSnapshot), c.nodes[o]? = some n ∧
        o.application = key ∧ n.element = el := by
  simp only [applicationElements, List.mem_map, List.mem_filter, decide_eq_true_eq]
  constructor
  · rintro ⟨⟨o, n⟩, ⟨hm, hk⟩, rfl⟩
    exact ⟨o, n, Std.TreeMap.mem_toList_iff_getElem?_eq_some.mp hm, hk, rfl⟩
  · rintro ⟨o, n, hn, hk, rfl⟩
    exact ⟨(o, n), ⟨Std.TreeMap.mem_toList_iff_getElem?_eq_some.mpr hn, hk⟩, rfl⟩

/-- Every node is filed under the key of its own element. -/
def Keyed (c : AccessibilityCache) : Prop :=
  ∀ (key : ObjectKey) (node : ElementSnapshot), c.nodes[key]? = some node → objectKey node.element = key

theorem Keyed.retire_nodes (hk : c.Keyed) (a) (rv) (key : ObjectKey) :
    (c.retire a rv).nodes[key]? = if key.application = a then none else c.nodes[key]? := by
  unfold retire
  rw [removeApplicationNodesAt_nodes]
  by_cases ha : key.application = a
  · rw [if_pos ha]
    split
    · rfl
    rename_i hno
    cases hn : c.nodes[key]? with
    | none => rfl
    | some n =>
      refine absurd ?_ hno
      refine List.mem_map.mpr ⟨n.element, ?_, hk _ _ hn⟩
      exact mem_applicationElements.mpr ⟨key, n, hn, ha, rfl⟩
  · rw [if_neg ha, if_neg]
    intro hm
    obtain ⟨el, he, rfl⟩ := List.mem_map.mp hm
    obtain ⟨o, n, hn, ho, rfl⟩ := mem_applicationElements.mp he
    exact ha (hk _ _ hn ▸ ho)

/-! ## The steps -/

@[simp] theorem redactProtected_element (s : ElementSnapshot) (ip : Bool) :
    (redactProtected s ip).element = s.element := by
  unfold redactProtected
  split <;> rfl

/-- The birth becomes the live one of its key. -/
def born (c : AccessibilityCache) (snapshot : ElementSnapshot) (revision : AccessibilityRevision)
    (isProtected : Bool) : AccessibilityCache :=
  (c.clearBirth (objectKey snapshot.element) revision snapshot.element.cacheSequence).storeNode
    (objectKey snapshot.element) snapshot revision isProtected

def setRevision (c : AccessibilityCache) (revision : AccessibilityRevision) : AccessibilityCache :=
  { c with revision := revision }

def forget (c : AccessibilityCache) (key : ApplicationKey) (revision : AccessibilityRevision) :
    AccessibilityCache :=
  { c with applications := c.applications.erase key, revision := revision }

/-- The cases of a call: the reply and the cache it leaves. -/
inductive Change (c : AccessibilityCache) :
    AccessibilityOp → Except AccessibilityModelError AccessibilityReply → AccessibilityCache → Prop
  | refused {op : AccessibilityOp} {e : AccessibilityModelError}
      (he : ∀ barrier, e ≠ .resyncRequired barrier) :
      Change c op (.error e) c
  | referenced {application path hash element} :
      Change c (.nextElementRef application path hash) (.ok (.reference element)) c
  | resolved {element snapshot} : Change c (.resolveExact element) (.ok (.resolved snapshot)) c
  | found {bus root hash existing}
      (hexisting : c.applications[(⟨bus, root⟩ : ApplicationKey)]? = some existing) :
      Change c (.registerApplication bus root hash) (.ok (.application existing)) c
  | resynced {op : AccessibilityOp} {reply : Except AccessibilityModelError AccessibilityReply}
      {barrier : AccessibilityResyncBarrier}
      (hreply : reply = .error (.resyncRequired barrier) ∨ reply = .ok (.resynced barrier))
      (hgeneration : barrier.atspiGeneration.value = c.atspiGeneration.value + 1)
      (hrevision : barrier.revision.value = c.revision.value + 1) :
      Change c op reply (c.cleared barrier.atspiGeneration barrier.revision)
  | installed {op : AccessibilityOp} {bus root hash application generation removal revision}
      (hop : op = .registerApplication bus root hash ∨ op = .restartApplication bus root hash)
      (happlication : application = c.nextApplicationRef bus root hash generation)
      (hvalid : application.validate = .ok ())
      (hgeneration : generation = c.lastApplicationGeneration[(⟨bus, root⟩ : ApplicationKey)]?.getD 0 + 1)
      (hroom : c.lastApplicationGeneration[(⟨bus, root⟩ : ApplicationKey)]? = none →
        c.lastApplicationGeneration.size < c.limits.maxLiveNodes)
      (hrevision : c.revision.value < revision.value) :
      Change c op (.ok (.application application))
        ((c.retire ⟨bus, root⟩ removal).installApplication ⟨bus, root⟩ generation application revision)
  | retired {application removal revision} (hrequired : c.requireApplication application = .ok ())
      (hrevision : c.revision.value < revision.value) :
      Change c (.removeApplication application) (.ok .applicationRemoved)
        ((c.retire (applicationKey application) removal).forget (applicationKey application) revision)
  | born {snapshot stored revision isProtected}
      (hrequired : c.requireElementScope snapshot.element = .ok ())
      (hstored : stored = redactProtected snapshot isProtected)
      (hprotected : isProtected = c.treatsAsProtected snapshot)
      (hnew : c.isRefresh snapshot.element = false)
      (hsequence : snapshot.element.cacheSequence = c.lastCacheSequence + 1)
      (hroom : c.nodes[objectKey snapshot.element]? = none → c.nodes.size < c.limits.maxLiveNodes)
      (hrevision : revision.value = c.revision.value + 1) :
      Change c (.observe snapshot) (.ok (.observed revision)) (c.born stored revision isProtected)
  | refreshed {snapshot stored revision isProtected}
      (hrequired : c.requireElementScope snapshot.element = .ok ())
      (hstored : stored = redactProtected snapshot isProtected)
      (hprotected : isProtected = c.treatsAsProtected snapshot)
      (hlive : c.isRefresh snapshot.element = true)
      (hrevision : revision.value = c.revision.value + 1) :
      Change c (.observe snapshot) (.ok (.observed revision))
        (c.storeNode (objectKey snapshot.element) stored revision isProtected)
  | removed {element revision node} (hnode : c.nodes[objectKey element]? = some node)
      (hsame : node.element = element) (hrevision : revision.value = c.revision.value + 1) :
      Change c (.remove element) (.ok (.removed ⟨element, revision⟩))
        ((c.bury element revision).setRevision revision)

theorem revisionAfter_cases (c : AccessibilityCache) (s : Nat) (hst : 0 < s) :
    c.revisionAfter s = .error .revisionExhausted ∨
    ∃ rv, c.revisionAfter s = .ok rv ∧ rv.value = c.revision.value + s := by
  unfold revisionAfter
  cases ha : checkedAdd c.revision.value s with
  | none => exact .inl rfl
  | some n =>
    obtain ⟨-, rfl⟩ := checkedAdd_eq_some.mp ha
    have hne : c.revision.value + s ≠ 0 := by omega
    exact .inr ⟨⟨_, hne⟩, by simp only [AccessibilityRevision.new, dif_neg hne]; rfl, rfl⟩

theorem forceResync_cases (c : AccessibilityCache) {r} :
    (∃ e, c.forceResync r = (.error e, c) ∧ ∀ b, e ≠ .resyncRequired b) ∨
    ∃ b, c.forceResync r = (.ok b, c.cleared b.atspiGeneration b.revision) ∧
      b.atspiGeneration.value = c.atspiGeneration.value + 1 ∧
      b.revision.value = c.revision.value + 1 := by
  unfold forceResync
  cases ha : checkedAdd c.atspiGeneration.value 1 with
  | none => exact .inl ⟨_, rfl, by simp⟩
  | some n =>
    obtain ⟨-, rfl⟩ := checkedAdd_eq_some.mp ha
    obtain hr | ⟨rv, hr, hv⟩ := c.revisionAfter_cases 1 Nat.one_pos
    · exact .inl ⟨.revisionExhausted, by simp [AtspiGeneration.new, nextRevision, hr], by simp⟩
    · exact .inr ⟨⟨⟨_, Nat.succ_ne_zero _⟩, rv, r⟩,
        by simp [AtspiGeneration.new, nextRevision, hr], rfl, hv⟩

variable {rv : AccessibilityRevision}

/-- Whether an application has nodes or not, they go and it takes a later
revision. -/
theorem retirementRevisions_ok {r} (h : c.retirementRevisions (c.applicationElements key) = .ok (r, rv)) :
    c.revision.value < rv.value ∧ c.removeApplicationNodes (c.applicationElements key) r = c.retire key
        (r.getD rv) := by
  unfold retirementRevisions at h
  unfold retire
  obtain hf | ⟨f, hf, hfi⟩ := c.revisionAfter_cases 1 (by omega)
  · rw [hf] at h
    split at h <;> cases h
  rw [hf] at h
  split at h
  next hn =>
    cases h
    exact ⟨by omega, by rw [hn]; rfl⟩
  next =>
    obtain hse | ⟨s, hse, hsc⟩ := c.revisionAfter_cases 2 (by omega)
    · rw [hse] at h
      cases h
    · rw [hse] at h
      cases h
      exact ⟨by omega, rfl⟩

variable {e : AccessibilityModelError}

theorem retirementRevisions_error {r}
    (h : c.retirementRevisions r = .error e) (b : AccessibilityResyncBarrier) : e ≠ .resyncRequired b := by
  unfold retirementRevisions at h
  obtain hf | ⟨f, hf, -⟩ := c.revisionAfter_cases 1 (by omega)
  · rw [hf] at h
    split at h <;> cases h <;> simp
  rw [hf] at h
  split at h
  · cases h
  obtain hse | ⟨s, hse, -⟩ := c.revisionAfter_cases 2 (by omega)
  · rw [hse] at h
    cases h
    simp
  · rw [hse] at h
    cases h

variable {a : ApplicationRef}

theorem requireApplication_ok (h : c.requireApplication a = .ok ()) :
    a.validate = .ok () ∧ a.desktopId = c.desktopId ∧ a.desktopGeneration = c.desktopGeneration ∧
        a.atspiGeneration = c.atspiGeneration ∧
      c.applications[applicationKey a]? = some a := by
  unfold requireApplication at h
  split at h
  · cases h
  rename_i hv
  split at h
  · cases h
  rename_i hsc
  split at h
  next cr hc =>
    split at h
    next hsa =>
      simp only [not_or, not_not, ne_eq] at hsc
      exact ⟨hv, hsc.1, hsc.2.1, hsc.2.2, by rw [hc, hsa]⟩
    · cases h
  · cases h

theorem requireApplication_error (h : c.requireApplication a = .error e) (barrier) :
    e ≠ .resyncRequired barrier := by
  rintro rfl
  unfold requireApplication at h
  repeat' split at h
  all_goals cases h

theorem requireElementScope_ok (h : c.requireElementScope el = .ok ()) :
    el.validate = .ok () ∧ el.desktopId = c.desktopId ∧
      el.desktopGeneration = c.desktopGeneration ∧ el.atspiGeneration = c.atspiGeneration ∧
      c.requireApplication el.application = .ok () := by
  unfold requireElementScope at h
  split at h
  · cases h
  rename_i hv
  split at h
  · cases h
  next hsc =>
    simp only [not_or, not_not, ne_eq] at hsc
    exact ⟨hv, hsc.1, hsc.2.1, hsc.2.2, h⟩

theorem requireElementScope_error (h : c.requireElementScope el = .error e) (b) : e ≠ .resyncRequired b := by
  unfold requireElementScope at h
  split at h
  · cases h
    simp
  · split at h
    · cases h
      simp
    · exact requireApplication_error h b

theorem nextRevision_cases (c : AccessibilityCache) : c.nextRevision = .error .revisionExhausted ∨
    ∃ rv, c.nextRevision = .ok rv ∧ rv.value = c.revision.value + 1 :=
  c.revisionAfter_cases 1 Nat.one_pos

theorem forceResync_change {op r} : Change c op ((c.forceResync r).1.map .resynced) (c.forceResync r).2 := by
  obtain ⟨e, hr, he⟩ | ⟨b, hr, hg, hre⟩ := c.forceResync_cases
  · rw [hr]
    exact .refused he
  · rw [hr]
    exact .resynced (.inr rfl) hg hre

theorem replaceApplication_change {bus : AtspiBusName} {rt : AtspiObjectPath}
    {hash : AccessibilityIdentityHash} {fr : Bool}
    (hop : op = if fr then .restartApplication bus rt hash else .registerApplication bus rt hash) :
    Change c op ((c.replaceApplication bus rt hash fr).1.map .application)
      (c.replaceApplication bus rt hash fr).2 := by
  unfold replaceApplication
  dsimp only
  split
  next ex hex =>
    obtain ⟨hex, hf⟩ := Option.filter_eq_some_iff.mp hex
    simp only [Bool.and_eq_true, Bool.not_eq_true'] at hf
    rw [hop, hf.1]
    exact .found hex
  next =>
  split
  · obtain ⟨e, hr, he⟩ | ⟨b, hr, hg, hrv⟩ := c.forceResync_cases
    · rw [hr]
      exact .refused he
    · rw [hr]
      exact .resynced (.inl rfl) hg hrv
  next hro =>
  split
  · exact .refused (by simp)
  next g hg =>
  split
  · exact .refused (by simp)
  next hv =>
  split
  next hre => exact .refused (retirementRevisions_error hre)
  rename_i r rv hre
  obtain ⟨hlt, hrt⟩ := retirementRevisions_ok hre
  simp only [hrt]
  have hop : op = .registerApplication bus rt hash ∨ op = .restartApplication bus rt hash := by
    cases fr
    · exact .inl hop
    · exact .inr hop
  refine .installed hop rfl hv (checkedAdd_eq_some.mp hg).2.symm ?_ hlt
  intro hn
  exact Nat.lt_of_not_le fun hfu => hro ⟨hn, hfu⟩

theorem removeApplication_change {a} : Change c (.removeApplication a)
      ((c.removeApplication a).1.map fun _ => .applicationRemoved)
      (c.removeApplication a).2 := by
  unfold removeApplication
  dsimp only
  split
  next hr => exact .refused (requireApplication_error hr)
  next hr =>
  split
  next hre => exact .refused (retirementRevisions_error hre)
  rename_i r rv hre
  obtain ⟨hlt, hrt⟩ := retirementRevisions_ok hre
  simp only [hrt]
  exact .retired hr hlt

theorem observe_change (s : ElementSnapshot) : Change c (.observe s) ((c.observe eb s).1.map .observed)
      (c.observe eb s).2 := by
  unfold observe
  dsimp only
  split
  next hre => exact .refused (requireApplication_error hre)
  next =>
  split
  next hre => exact .refused (requireElementScope_error hre)
  next hre =>
  split
  · exact .refused (by simp)
  next hva =>
  split
  next hl =>
    obtain hr | ⟨rv, hr, hv⟩ := c.nextRevision_cases
    · rw [hr]
      exact .refused (by simp)
    · rw [hr]
      exact .refreshed hre rfl rfl hl hv
  next hn =>
    unfold bear
    split
    · exact .refused (by simp)
    next ex hep =>
    split
    · exact .refused (by simp)
    next hse =>
    split
    · obtain ⟨e, hrs, he⟩ | ⟨b, hrs, hg, hr⟩ := c.forceResync_cases
      · rw [hrs]
        exact .refused he
      · rw [hrs]
        exact .resynced (.inl rfl) hg hr
    next hro =>
      obtain hr | ⟨rv, hr, hv⟩ := c.nextRevision_cases
      · rw [hr]
        exact .refused (by simp)
      rw [hr]
      have hse : s.element.cacheSequence = c.lastCacheSequence + 1 := by
        have hex := not_not.mp hse
        rw [redactProtected_element] at hex
        rw [hex, (checkedAdd_eq_some.mp hep).2]
      have hro (hno : c.nodes[objectKey s.element]? = none) : c.nodes.size < c.limits.maxLiveNodes :=
        Nat.lt_of_not_le fun hf => hro ⟨hf, hno⟩
      have hb := Change.born hre rfl rfl (by simpa using hn) hse hro hv
      simp only [AccessibilityCache.born, redactProtected_element] at hb ⊢
      exact hb

theorem remove_change {el : ElementRef} :
    Change c (.remove el) ((c.remove el).1.map .removed) (c.remove el).2 := by
  unfold remove
  split
  next hre => exact .refused (requireElementScope_error hre)
  next =>
  split
  · split <;> exact .refused (by simp)
  next cr hc =>
  split
  · exact .refused (by simp)
  rename_i hsa
  have hsa := not_not.mp hsa
  obtain hr | ⟨rv, hr, hv⟩ := c.nextRevision_cases
  · rw [hr]
    exact .refused (by simp)
  · rw [hr, hsa]
    exact .removed hc hsa hv

theorem nextElementRef_error {path hash} (h : c.nextElementRef a path hash = .error e) (b) :
    e ≠ .resyncRequired b := by
  unfold nextElementRef at h
  cases hr : c.requireApplication a with
  | error e' =>
    rw [hr] at h
    cases h
    exact requireApplication_error hr b
  | ok u =>
    rw [hr] at h
    cases ha : checkedAdd c.lastCacheSequence 1 with
    | none =>
      rw [ha] at h
      cases h
      simp
    | some n =>
      rw [ha] at h
      cases h

theorem resolveExact_error (h : c.resolveExact el = .error e) (b) : e ≠ .resyncRequired b := by
  unfold resolveExact at h
  cases hr : c.requireElementScope el with
  | error e' =>
    rw [hr] at h
    cases h
    exact requireElementScope_error hr b
  | ok u =>
    rintro rfl
    simp only [hr, bind, Except.bind] at h
    split at h <;> split at h <;> cases h

/-- Every call is one of the cases. -/
theorem step_change (eb : ElementSnapshot → Option Nat) (c : AccessibilityCache)
    (op : AccessibilityOp) : Change c op (c.step eb op).1 (c.step eb op).2 := by
  cases op with
  | registerApplication bus r hash | restartApplication bus r hash => exact replaceApplication_change rfl
  | removeApplication a => exact removeApplication_change
  | nextElementRef a p hash =>
    simp only [step]
    cases hr : c.nextElementRef a p hash with
    | ok el => exact .referenced
    | error e => exact .refused (nextElementRef_error hr)
  | observe s => exact observe_change s
  | remove el => exact remove_change
  | resolveExact el =>
    simp only [step]
    cases hre : c.resolveExact el with
    | ok s => exact .resolved
    | error e => exact .refused (resolveExact_error hre)
  | eventGap | resetBus | malformedGraph => exact forceResync_change

/-! ## The invariant -/

/-- What holds of every cache a run reaches. -/
structure Sound (c : AccessibilityCache) : Prop where
  keyed : c.Keyed
  registered : ∀ {key : ObjectKey} {node : ElementSnapshot}, c.nodes[key]? = some node →
    c.requireElementScope node.element = .ok ()
  applicationKeyed : ∀ {key : ApplicationKey} {application : ApplicationRef},
    c.applications[key]? = some application → applicationKey application = key
  node_bound : c.nodes.size ≤ c.limits.maxLiveNodes
  tombstone_bound : c.tombstones.length ≤ c.limits.maxTombstones
  application_bound : c.lastApplicationGeneration.size ≤ c.limits.maxLiveNodes

theorem Sound.new {di dg ag l} (h : AccessibilityCache.new di dg ag l = .ok c) :
    c.Sound ∧ c.limits = l ∧ c.nodes = ∅ ∧ c.applications = ∅ := by
  unfold AccessibilityCache.new at h
  split at h
  · cases h
  split at h
  · cases h
  split at h
  · cases h
  rename_i hl
  cases h
  obtain ⟨rfl, -⟩ := AccessibilityModelLimits.validate_ok hl
  refine ⟨⟨?_, ?_, ?_, ?_, ?_, ?_⟩, rfl, rfl, rfl⟩ <;> simp [Keyed]

/-- What the cache asks of a reference does not depend on the nodes. -/
theorem requireElementScope_transfer (hd : c'.desktopId = c.desktopId)
    (hg : c'.desktopGeneration = c.desktopGeneration) (ha : c'.atspiGeneration = c.atspiGeneration)
    (hap : c'.applications[applicationKey el.application]? = c.applications[applicationKey el.application]?)
    (h : c.requireElementScope el = .ok ()) : c'.requireElementScope el = .ok () := by
  rw [← h]
  unfold requireElementScope requireApplication
  rw [hd, hg, ha, hap]

theorem SameScope.requireElementScope (h : SameScope c c')
    (hr : c.requireElementScope el = .ok ()) : c'.requireElementScope el = .ok () :=
  requireElementScope_transfer h.desktopId h.desktopGeneration h.atspiGeneration
    (by rw [h.applications]) hr

variable {st : ElementSnapshot} {ip : Bool}

theorem born_nodes (key : ObjectKey) : (c.born st rv ip).nodes[key]? =
      if objectKey st.element = key then some
        { st with revision := rv } else c.nodes[key]? := by
  unfold born storeNode clearBirth
  cases c.nodes[objectKey st.element]? <;>
    simp only [dropNode, pushTombstone, getElem?_insert_eq, getElem?_erase_eq] <;>
    by_cases hk : objectKey st.element = key <;> simp [hk]

theorem storeNode_nodes (at_ key : ObjectKey) : (c.storeNode at_ st rv ip).nodes[key]? =
      if at_ = key then some { st with revision := rv } else c.nodes[key]? := by
  simp only [storeNode, getElem?_insert_eq]

theorem bury_nodes (key : ObjectKey) :
    (c.bury el rv).nodes[key]? = if objectKey el = key then none else c.nodes[key]? := by
  simp only [bury, pushTombstone, dropNode, getElem?_erase_eq]

section

variable (hs : c.Sound)
include hs

/-- The nodes may change to others that the cache accepts. -/
theorem Sound.nodes (hsc : SameScope c c')
    (hno : ∀ (key : ObjectKey) (n : ElementSnapshot), c'.nodes[key]? = some n →
      c.nodes[key]? = some n ∨ objectKey n.element = key ∧
        c.requireElementScope n.element = .ok ()) (hsi : c'.nodes.size ≤ c.limits.maxLiveNodes)
    (ht : c'.tombstones.length ≤ c.limits.maxTombstones) : c'.Sound where
  keyed key n hn := by
    rcases hno key n hn with hold | ⟨hk, -⟩
    · exact hs.keyed key n hold
    · exact hk
  registered {key n} hn := by
    rcases hno key n hn with hold | ⟨-, hr⟩
    · exact hsc.requireElementScope (hs.registered hold)
    · exact hsc.requireElementScope hr
  applicationKeyed h := hs.applicationKeyed (hsc.applications ▸ h)
  node_bound := hsc.limits ▸ hsi
  tombstone_bound := hsc.limits ▸ ht
  application_bound := by
    rw [hsc.limits, hsc.lastApplicationGeneration]
    exact hs.application_bound

/-- Nodes may go. -/
theorem Sound.fewer (hsc : SameScope c c')
    (hn : ∀ (key : ObjectKey) (n : ElementSnapshot), c'.nodes[key]? = some n →
    c.nodes[key]? = some n) (ht : c'.tombstones.length ≤ c.limits.maxTombstones) : c'.Sound := by
  refine hs.nodes hsc (fun key n h => .inl (hn key n h)) ?_ ht
  exact (size_le_of_getElem? fun key n h => ⟨n, hn key n h⟩).trans hs.node_bound

theorem Sound.retire (key : ApplicationKey) (rv : AccessibilityRevision) : (c.retire key rv).Sound := by
  refine hs.fewer (removeApplicationNodesAt_frame _ _ c).toSameScope ?_
    (removeApplicationNodesAt_tombstones _ _ c hs.tombstone_bound)
  intro o n hn
  rw [hs.keyed.retire_nodes] at hn
  split at hn
  · cases hn
  · exact hn

theorem Sound.bury (el : ElementRef) (rv : AccessibilityRevision) : (c.bury el rv).Sound := by
  refine hs.fewer ⟨rfl, rfl, rfl, rfl, rfl, rfl⟩ ?_ (pushTombstone_length _ _ _)
  intro o n hn
  rw [bury_nodes] at hn
  split at hn
  · cases hn
  · exact hn

section

variable (hno : ∀ (o : ObjectKey) (n : ElementSnapshot), c.nodes[o]? = some n → o.application ≠ key)

include hno

theorem Sound.application_ne {o : ObjectKey} {n : ElementSnapshot} (hn : c.nodes[o]? = some n) : applicationKey n.element.application ≠ key := by
  have ho := hno o n hn
  rwa [← hs.keyed _ _ hn] at ho

/-- The live nodes belong to registered instances, so none is of an
application without nodes. -/
theorem Sound.installApplication {g} (hk : applicationKey a = key)
    (hr : c.lastApplicationGeneration[key]? = none →
    c.lastApplicationGeneration.size < c.limits.maxLiveNodes) : (c.installApplication key g a rv).Sound where
  __ := hs
  registered hn := requireElementScope_transfer (c := c) rfl rfl rfl (getElem?_insert_ne (hs.application_ne hno hn))
    (hs.registered hn)
  applicationKeyed h := by
    obtain ⟨rfl, rfl⟩ | ⟨-, h⟩ := insert_cases h
    · exact hk
    · exact hs.applicationKeyed h
  application_bound := by
    show (c.lastApplicationGeneration.insert key g).size ≤ c.limits.maxLiveNodes
    cases hl : c.lastApplicationGeneration[key]? with
    | none => exact Std.TreeMap.size_insert_le.trans (hr hl)
    | some l => exact (size_le (keys_insert_subset hl)).trans hs.application_bound

theorem Sound.forget : (c.forget key rv).Sound where
  __ := hs
  registered hn := requireElementScope_transfer (c := c) rfl rfl rfl (getElem?_erase_ne (hs.application_ne hno hn))
    (hs.registered hn)
  applicationKeyed h := hs.applicationKeyed (erase_cases h).2

end

theorem Sound.none_of_retired (o : ObjectKey) (n : ElementSnapshot)
    (hn : (c.retire key rv).nodes[o]? = some n) : o.application ≠ key := by
  rw [hs.keyed.retire_nodes] at hn
  split at hn
  · cases hn
  next hne => exact hne

end

theorem born_scope (c : AccessibilityCache) (st : ElementSnapshot) (rv : AccessibilityRevision)
    (ip : Bool) : SameScope c (c.born st rv ip) := by
  unfold born clearBirth
  cases c.nodes[objectKey st.element]? <;> exact ⟨rfl, rfl, rfl, rfl, rfl, rfl⟩

theorem Sound.born (hs : c.Sound) (hr : c.requireElementScope st.element = .ok ())
    (hro : c.nodes[objectKey st.element]? = none → c.nodes.size < c.limits.maxLiveNodes) :
    (c.born st rv ip).Sound := by
  refine hs.nodes (c.born_scope _ _ _) ?_ ?_ ?_
  · intro key n hn
    rw [born_nodes] at hn
    split at hn
    next hk =>
      cases hn
      exact .inr ⟨hk, hr⟩
    · exact .inl hn
  · cases hn : c.nodes[objectKey st.element]? with
    | some r =>
      refine (size_le_of_getElem? ?_).trans hs.node_bound
      intro key n h
      rw [born_nodes] at h
      split at h
      next hk => exact ⟨r, hk ▸ hn⟩
      · exact ⟨n, h⟩
    | none =>
      have hno : (c.born st rv ip).nodes =
          (c.nodes.erase (objectKey st.element)).insert (objectKey st.element)
            { st with revision := rv } := by
        unfold AccessibilityCache.born clearBirth
        rw [hn]
        rfl
      rw [hno]
      have he : (c.nodes.erase (objectKey st.element)).size ≤ c.nodes.size := size_le keys_erase_subset
      exact Std.TreeMap.size_insert_le.trans (Nat.lt_of_le_of_lt he (hro hn))
  · unfold AccessibilityCache.born clearBirth
    cases c.nodes[objectKey st.element]? with
    | some r => exact pushTombstone_length _ _ _
    | none => exact hs.tombstone_bound

theorem isRefresh_iff : c.isRefresh el = true ↔ ∃ n, c.nodes[objectKey el]? = some n ∧ n.element = el := by
  simp [isRefresh, Option.any_eq_true]

theorem Sound.refreshed (hs : c.Sound) (hl : c.isRefresh st.element = true) :
    (c.storeNode (objectKey st.element) st rv ip).Sound := by
  obtain ⟨cr, hc, hsa⟩ := isRefresh_iff.mp hl
  refine hs.nodes ⟨rfl, rfl, rfl, rfl, rfl, rfl⟩ ?_ ?_ hs.tombstone_bound
  · intro key n hn
    rw [storeNode_nodes] at hn
    split at hn
    next hk =>
      cases hn
      exact .inr ⟨hk, hsa ▸ hs.registered hc⟩
    · exact .inl hn
  · exact (size_le (keys_insert_subset hc)).trans hs.node_bound

theorem Sound.cleared (c : AccessibilityCache) (g : AtspiGeneration)
    (rv : AccessibilityRevision) : (c.cleared g rv).Sound where
  keyed := by simp [Keyed, AccessibilityCache.cleared]
  registered := by simp [AccessibilityCache.cleared]
  applicationKeyed := by simp [AccessibilityCache.cleared]
  node_bound := by simp [AccessibilityCache.cleared]
  tombstone_bound := by simp [AccessibilityCache.cleared]
  application_bound := by simp [AccessibilityCache.cleared]

theorem Sound.change (hs : c.Sound) (h : Change c op reply c') : c'.Sound := by
  cases h with
  | refused | referenced | resolved | found => exact hs
  | resynced => exact .cleared c _ _
  | @installed _ bus rt _ _ _ r _ hop ha hv hg hr =>
    have hf := removeApplicationNodesAt_frame (c.applicationElements ⟨bus, rt⟩) r c
    refine (hs.retire _ _).installApplication hs.none_of_retired (by rw [ha]; rfl) ?_
    simp only [AccessibilityCache.retire, hf.lastApplicationGeneration, hf.limits]
    exact hr
  | retired => exact (hs.retire _ _).forget hs.none_of_retired
  | born hre hst hp hn hse hr =>
    subst hst
    exact hs.born (by simpa using hre) (by simpa using hr)
  | @refreshed s st _ _ hre hst hp hl =>
    have he : st.element = s.element := by rw [hst, redactProtected_element]
    rw [← he] at hl ⊢
    exact hs.refreshed hl
  | removed => exact { hs.bury _ _ with }

theorem Sound.final (hs : c.Sound) (ops : List AccessibilityOp) : (final (step eb) c ops).Sound :=
  final_induction hs (fun c op hs => hs.change (c.step_change eb op)) ops

theorem Change.limits (h : Change c op reply c') : c'.limits = c.limits := by
  cases h with
  | installed | retired => exact (removeApplicationNodesAt_frame _ _ c).limits
  | born => exact (c.born_scope _ _ _).limits
  | _ => rfl

theorem limits_final (c : AccessibilityCache) (ops : List AccessibilityOp) :
    (final (step eb) c ops).limits = c.limits :=
  final_induction (P := fun c' : AccessibilityCache => c'.limits = c.limits) rfl
    (fun c' op h => (c'.step_change eb op).limits.trans h) ops

end Xenoteer.AccessibilityCache
