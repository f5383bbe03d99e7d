/-
The accessibility cache (`xenoteer-core/src/accessibility.rs`,
`AccessibilityCache`): the single writer of application instances and object
births, fenced by the AT-SPI generation, the instance generation of the
application and the cache sequence.

A resync empties the cache and restarts the cache sequence and the instance
generations under the next AT-SPI generation. The size of a snapshot's
encoding (`encodedBytes`) is the serializer's.
-/
import Xenoteer.Protocol.Accessibility
import Xenoteer.Lib.Run
import Xenoteer.Lib.TreeMapKeys
import Std.Data.TreeSet.Lemmas

namespace Xenoteer

/-! ## Limits, keys and errors -/

structure AccessibilityModelLimits where
  maxLiveNodes : Nat
  maxTombstones : Nat

inductive AccessibilityResyncReason where
  | eventGap
  | liveCapacity
  | applicationCapacity
  | busReset
  | malformedGraph
deriving DecidableEq

structure AccessibilityResyncBarrier where
  atspiGeneration : AtspiGeneration
  revision : AccessibilityRevision
  reason : AccessibilityResyncReason
deriving DecidableEq

inductive AccessibilityModelError where
  | invalidLimits
  | nilIdentifier
  | invalidApplication (error : AccessibilityValidationError)
  | invalidSnapshot (error : AccessibilityValidationError)
  | invalidReference (error : AccessibilityValidationError)
  | staleGeneration
  | applicationNotFound
  | staleApplication
  | unexpectedCacheSequence
  | staleReference
  | notFound
  | alreadyRemoved
  | generationExhausted
  | sequenceExhausted
  | revisionExhausted
  | resyncRequired (barrier : AccessibilityResyncBarrier)
deriving DecidableEq

namespace AccessibilityModelLimits

def default : AccessibilityModelLimits := ⟨100000, 100000⟩

def Positive (l : AccessibilityModelLimits) : Prop := 0 < l.maxLiveNodes ∧ 0 < l.maxTombstones

instance (l : AccessibilityModelLimits) : Decidable l.Positive := inferInstanceAs (Decidable (_ ∧ _))

def validate (l : AccessibilityModelLimits) : Except AccessibilityModelError AccessibilityModelLimits :=
  if l.maxLiveNodes = 0 ∨ l.maxTombstones = 0 then .error .invalidLimits else .ok l

theorem validate_ok {l l' : AccessibilityModelLimits} (h : l.validate = .ok l') : l' = l ∧ l'.Positive := by
  unfold validate at h
  split at h
  · cases h
  next hp =>
    cases h
    exact ⟨rfl, by unfold Positive; omega⟩

end AccessibilityModelLimits

/-- Evidence that an exact birth is no longer live. -/
structure AccessibilityTombstone where
  element : ElementRef
  removedRevision : AccessibilityRevision
deriving DecidableEq

structure ApplicationKey where
  bus : AtspiBusName
  root : AtspiObjectPath
deriving DecidableEq

structure ObjectKey where
  application : ApplicationKey
  path : AtspiObjectPath
deriving DecidableEq

def applicationKey (application : ApplicationRef) : ApplicationKey :=
  ⟨application.uniqueBusName, application.rootObjectPath⟩

def objectKey (element : ElementRef) : ObjectKey := ⟨applicationKey element.application, element.objectPath⟩

instance : Ord ApplicationKey := ⟨compareLex (compareOn ApplicationKey.bus) (compareOn ApplicationKey.root)⟩
instance : Ord ObjectKey := ⟨compareLex (compareOn ObjectKey.application) (compareOn ObjectKey.path)⟩

instance : Std.TransOrd ApplicationKey := inferInstanceAs (Std.TransCmp (compareLex _ _))
instance : Std.TransOrd ObjectKey := inferInstanceAs (Std.TransCmp (compareLex _ _))

instance : Std.LawfulEqOrd ApplicationKey where
  compare_self := Std.ReflCmp.compare_self
  eq_of_compare {a b} h := by
    obtain ⟨hbus, hroot⟩ := compareLex_eq_eq.mp h
    cases a; cases b
    simp only [ApplicationKey.mk.injEq]
    exact ⟨Std.LawfulEqOrd.eq_of_compare hbus, Std.LawfulEqOrd.eq_of_compare hroot⟩

instance : Std.LawfulEqOrd ObjectKey where
  compare_self := Std.ReflCmp.compare_self
  eq_of_compare {a b} h := by
    obtain ⟨happlication, hpath⟩ := compareLex_eq_eq.mp h
    cases a; cases b
    simp only [ObjectKey.mk.injEq]
    exact ⟨Std.LawfulEqOrd.eq_of_compare happlication, Std.LawfulEqOrd.eq_of_compare hpath⟩

/-! ## Protected elements -/

/-- A warning unless there is one of its code or there are too many. -/
def pushWarning (warnings : List AccessibilityWarning) (code message : Text) : List AccessibilityWarning :=
  if warnings.any fun warning => warning.code = code then warnings
  else if warnings.length < maxAccessibilityWarnings then warnings ++ [⟨code, message⟩]
  else warnings

def protectedRedactedCode : Text := "accessibility.protected_redacted".toList

def protectedRedactedMessage : Text := "protected text, value metadata, and attributes were removed".toList

def snapshotDeclaresProtected (snapshot : ElementSnapshot) : Bool :=
  snapshot.role.role = .passwordText || snapshot.states.contains .protectedState ||
    snapshot.text.any ElementTextSnapshot.isProtected

def redactText (text : ElementTextSnapshot) : ElementTextSnapshot :=
  { text with isProtected := true, content := none }

def redactProtected (snapshot : ElementSnapshot) (isProtected : Bool) : ElementSnapshot :=
  if !isProtected then snapshot
  else
    { snapshot with
      text := snapshot.text.map redactText
      value := none
      attributes := []
      completeness := .dirty
      warnings := pushWarning snapshot.warnings protectedRedactedCode protectedRedactedMessage }

/-! ## The cache -/

structure AccessibilityCache where
  desktopId : DesktopId
  desktopGeneration : DesktopGeneration
  atspiGeneration : AtspiGeneration
  revision : AccessibilityRevision
  limits : AccessibilityModelLimits
  limits_pos : limits.Positive
  applications : Std.TreeMap ApplicationKey ApplicationRef compare
  lastApplicationGeneration : Std.TreeMap ApplicationKey Nat compare
  nodes : Std.TreeMap ObjectKey ElementSnapshot compare
  protectedBirths : Std.TreeSet ObjectKey compare
  tombstones : List AccessibilityTombstone
  lastCacheSequence : Nat

namespace AccessibilityCache

def new (desktopId : DesktopId) (desktopGeneration : DesktopGeneration) (atspiGeneration : AtspiGeneration)
    (limits : AccessibilityModelLimits) : Except AccessibilityModelError AccessibilityCache :=
  if desktopId.uuid = 0 ∨ desktopGeneration.uuid = 0 then .error .nilIdentifier
  else match AccessibilityRevision.new 1 with
    | .error e => .error (.invalidSnapshot e)
    | .ok revision =>
      match h : limits.validate with
      | .error e => .error e
      | .ok limits =>
        .ok ⟨desktopId, desktopGeneration, atspiGeneration, revision, limits,
          (AccessibilityModelLimits.validate_ok h).2, ∅, ∅, ∅, ∅, [], 0⟩

section

variable (c : AccessibilityCache)

def revisionAfter (steps : Nat) : Except AccessibilityModelError AccessibilityRevision :=
  match checkedAdd c.revision.value steps with
  | none => .error .revisionExhausted
  | some next => (AccessibilityRevision.new next).mapError .invalidSnapshot

def nextRevision : Except AccessibilityModelError AccessibilityRevision :=
  c.revisionAfter 1

/-- The empty cache of the next connection lifetime. -/
def cleared (atspiGeneration : AtspiGeneration) (revision : AccessibilityRevision) :
    AccessibilityCache :=
  { c with
    atspiGeneration := atspiGeneration, revision := revision
    nodes := ∅, protectedBirths := ∅, applications := ∅, lastApplicationGeneration := ∅
    tombstones := [], lastCacheSequence := 0 }

def forceResync (reason : AccessibilityResyncReason) :
    Except AccessibilityModelError AccessibilityResyncBarrier × AccessibilityCache :=
  match checkedAdd c.atspiGeneration.value 1 with
  | none => (.error .generationExhausted, c)
  | some next =>
    match AtspiGeneration.new next with
    | .error e => (.error (.invalidSnapshot e), c)
    | .ok atspiGeneration =>
      match c.nextRevision with
      | .error e => (.error e, c)
      | .ok revision => (.ok ⟨atspiGeneration, revision, reason⟩, c.cleared atspiGeneration revision)

def requireApplication (application : ApplicationRef) : Except AccessibilityModelError Unit :=
  match application.validate with
  | .error e => .error (.invalidApplication e)
  | .ok () =>
    if application.desktopId ≠ c.desktopId ∨ application.desktopGeneration ≠ c.desktopGeneration ∨
        application.atspiGeneration ≠ c.atspiGeneration then
      .error .staleGeneration
    else match c.applications[applicationKey application]? with
      | some current => if current = application then .ok () else .error .staleApplication
      | none => .error .applicationNotFound

def requireElementScope (element : ElementRef) : Except AccessibilityModelError Unit :=
  match element.validate with
  | .error e => .error (.invalidReference e)
  | .ok () =>
    if element.desktopId ≠ c.desktopId ∨ element.desktopGeneration ≠ c.desktopGeneration ∨
        element.atspiGeneration ≠ c.atspiGeneration then
      .error .staleGeneration
    else c.requireApplication element.application

/-- A tombstone is the last one, and the oldest go when there are too many. -/
def pushTombstone (element : ElementRef) (removedRevision : AccessibilityRevision) :
    AccessibilityCache :=
  let tombstones := c.tombstones ++ [⟨element, removedRevision⟩]
  { c with tombstones := tombstones.drop (tombstones.length - c.limits.maxTombstones) }

/-- The live elements of an application, in key order. -/
def applicationElements (key : ApplicationKey) : List ElementRef :=
  (c.nodes.toList.filter fun entry => entry.1.application = key).map fun entry => entry.2.element

def dropNode (key : ObjectKey) : AccessibilityCache :=
  { c with nodes := c.nodes.erase key, protectedBirths := c.protectedBirths.erase key }

def removeApplicationNodesAt (removed : List ElementRef)
    (revision : AccessibilityRevision) : AccessibilityCache :=
  removed.foldl (fun c element => (c.dropNode (objectKey element)).pushTombstone element revision) c

/-- The revision at which an application's nodes go (the next one, if there
are any), and the one after the application itself. -/
def retirementRevisions (removed : List ElementRef) :
    Except AccessibilityModelError (Option AccessibilityRevision × AccessibilityRevision) :=
  if removed = [] then (c.revisionAfter 1).map fun finalRevision => (none, finalRevision)
  else do
    let removalRevision ← c.revisionAfter 1
    let finalRevision ← c.revisionAfter 2
    return (some removalRevision, finalRevision)

def removeApplicationNodes (removed : List ElementRef) : Option AccessibilityRevision → AccessibilityCache
  | some revision => c.removeApplicationNodesAt removed revision
  | none => c

def removeApplication (application : ApplicationRef) :
    Except AccessibilityModelError Unit × AccessibilityCache :=
  match c.requireApplication application with
  | .error e => (.error e, c)
  | .ok () =>
    let key := applicationKey application
    let removed := c.applicationElements key
    match c.retirementRevisions removed with
    | .error e => (.error e, c)
    | .ok (removalRevision, finalRevision) =>
      let c := c.removeApplicationNodes removed removalRevision
      (.ok (), { c with applications := c.applications.erase key, revision := finalRevision })

section

variable (uniqueBusName : AtspiBusName)

/-- The reference to the next instance of an application. -/
def nextApplicationRef
    (rootObjectPath : AtspiObjectPath) (identityHash : AccessibilityIdentityHash) (generation : Nat) :
    ApplicationRef :=
  ⟨c.desktopId, c.desktopGeneration, c.atspiGeneration, uniqueBusName, rootObjectPath, generation,
    identityHash⟩

def installApplication (key : ApplicationKey) (generation : Nat)
    (application : ApplicationRef) (revision : AccessibilityRevision) : AccessibilityCache :=
  { c with
    lastApplicationGeneration := c.lastApplicationGeneration.insert key generation
    applications := c.applications.insert key application, revision := revision }

def replaceApplication
    (rootObjectPath : AtspiObjectPath) (identityHash : AccessibilityIdentityHash) (forceRestart : Bool) :
    Except AccessibilityModelError ApplicationRef × AccessibilityCache :=
  let key : ApplicationKey := ⟨uniqueBusName, rootObjectPath⟩
  -- the instance that a registration with the same evidence finds
  match c.applications[key]?.filter fun existing =>
    !forceRestart && existing.identityHash = identityHash with
  | some existing => (.ok existing, c)
  | none =>
    if c.lastApplicationGeneration[key]? = none ∧
      c.limits.maxLiveNodes ≤ c.lastApplicationGeneration.size then
      match c.forceResync .applicationCapacity with
      | (.error e, c) => (.error e, c)
      | (.ok barrier, c) => (.error (.resyncRequired barrier), c)
    else match checkedAdd (c.lastApplicationGeneration[key]?.getD 0) 1 with
    | none => (.error .generationExhausted, c)
    | some generation =>
    let application := c.nextApplicationRef uniqueBusName rootObjectPath identityHash generation
    match application.validate with
    | .error e => (.error (.invalidApplication e), c)
    | .ok () =>
    let removed := c.applicationElements key
    match c.retirementRevisions removed with
    | .error e => (.error e, c)
    | .ok (removalRevision, finalRevision) =>
      let c := c.removeApplicationNodes removed removalRevision
      (.ok application, c.installApplication key generation application finalRevision)

def registerApplication (rootObjectPath : AtspiObjectPath) (identityHash : AccessibilityIdentityHash) :
    Except AccessibilityModelError ApplicationRef × AccessibilityCache :=
  c.replaceApplication uniqueBusName rootObjectPath identityHash false

/-- A restart takes a new instance generation even for equal evidence. -/
def restartApplication (rootObjectPath : AtspiObjectPath) (identityHash : AccessibilityIdentityHash) :
    Except AccessibilityModelError ApplicationRef × AccessibilityCache :=
  c.replaceApplication uniqueBusName rootObjectPath identityHash true

end

/-- The only reference accepted for a new object birth. -/
def nextElementRef (application : ApplicationRef) (objectPath : AtspiObjectPath)
    (objectIdentityHash : AccessibilityIdentityHash) : Except AccessibilityModelError ElementRef := do
  c.requireApplication application
  match checkedAdd c.lastCacheSequence 1 with
  | none => throw .sequenceExhausted
  | some cacheSequence =>
    return ⟨c.desktopId, c.desktopGeneration, c.atspiGeneration, application, objectPath,
      objectIdentityHash,
      cacheSequence⟩

/-- The birth that a new one replaces leaves a tombstone. -/
def clearBirth (key : ObjectKey) (revision : AccessibilityRevision)
    (cacheSequence : Nat) : AccessibilityCache :=
  let c := match c.nodes[key]? with
    | some replaced => (c.dropNode key).pushTombstone replaced.element revision
    | none => c.dropNode key
  { c with lastCacheSequence := cacheSequence }

def storeNode (key : ObjectKey) (snapshot : ElementSnapshot)
    (revision : AccessibilityRevision) (isProtected : Bool) : AccessibilityCache :=
  { c with
    nodes := c.nodes.insert key { snapshot with revision := revision }
    protectedBirths := if isProtected then c.protectedBirths.insert key else c.protectedBirths
    revision := revision }

/-- The snapshot is of the birth that is live under its key. -/
def isRefresh (element : ElementRef) : Bool :=
  c.nodes[objectKey element]?.any fun current => current.element = element

/-- The observation is of a protected element: it says so, or it refreshes a
birth that was observed as protected. -/
def treatsAsProtected (snapshot : ElementSnapshot) : Bool :=
  snapshotDeclaresProtected snapshot ||
    (c.isRefresh snapshot.element && c.protectedBirths.contains (objectKey snapshot.element))

/-- The checks on a new birth, and what they leave. -/
def bear (key : ObjectKey) (snapshot : ElementSnapshot) (isProtected : Bool) :
    Except AccessibilityModelError AccessibilityRevision × AccessibilityCache :=
  match checkedAdd c.lastCacheSequence 1 with
  | none => (.error .sequenceExhausted, c)
  | some expected =>
    if snapshot.element.cacheSequence ≠ expected then (.error .unexpectedCacheSequence, c)
    else if c.limits.maxLiveNodes ≤ c.nodes.size ∧ c.nodes[key]? = none then
      match c.forceResync .liveCapacity with
      | (.error e, c) => (.error e, c)
      | (.ok barrier, c) => (.error (.resyncRequired barrier), c)
    else match c.nextRevision with
      | .error e => (.error e, c)
      | .ok revision =>
        (.ok revision, (c.clearBirth key revision snapshot.element.cacheSequence).storeNode key snapshot revision
          isProtected)

/-- Inserts a new exact birth or refreshes the live one. Protected text,
values and attributes are removed before validation. -/
def observe (encodedBytes : ElementSnapshot → Option Nat) (c : AccessibilityCache)
    (snapshot : ElementSnapshot) :
    Except AccessibilityModelError AccessibilityRevision × AccessibilityCache :=
  match c.requireApplication snapshot.element.application with
  | .error e => (.error e, c)
  | .ok () =>
  match c.requireElementScope snapshot.element with
  | .error e => (.error e, c)
  | .ok () =>
  let key := objectKey snapshot.element
  let isProtected := c.treatsAsProtected snapshot
  let redacted := redactProtected snapshot isProtected
  match redacted.validate encodedBytes with
  | .error e => (.error (.invalidSnapshot e), c)
  | .ok () =>
  if c.isRefresh snapshot.element then
    match c.nextRevision with
    | .error e => (.error e, c)
    | .ok revision => (.ok revision, c.storeNode key redacted revision isProtected)
  else c.bear key redacted isProtected

def hasTombstone (element : ElementRef) : Bool :=
  c.tombstones.any fun entry => entry.element = element

/-- Removes exactly one live birth. -/
def remove (element : ElementRef) :
    Except AccessibilityModelError AccessibilityTombstone × AccessibilityCache :=
  match c.requireElementScope element with
  | .error e => (.error e, c)
  | .ok () =>
  match c.nodes[objectKey element]? with
  | none => if c.hasTombstone element then (.error .alreadyRemoved, c) else (.error .notFound, c)
  | some current =>
    if current.element ≠ element then (.error .staleReference, c)
    else match c.nextRevision with
    | .error e => (.error e, c)
    | .ok revision =>
      let c := { c.dropNode (objectKey element) with revision := revision }
      (.ok ⟨current.element, revision⟩, c.pushTombstone current.element revision)

/-- Resolves only the exact live birth. -/
def resolveExact (element : ElementRef) : Except AccessibilityModelError ElementSnapshot := do
  c.requireElementScope element
  match c.nodes[objectKey element]? with
  | some snapshot => if snapshot.element = element then return snapshot else throw .staleReference
  | none => if c.hasTombstone element then throw .staleReference else throw .notFound

def eventGap := c.forceResync .eventGap
def resetBus := c.forceResync .busReset
def malformedGraph := c.forceResync .malformedGraph

end

end AccessibilityCache

/-! ## Operations -/

inductive AccessibilityOp where
  | registerApplication (bus : AtspiBusName) (root : AtspiObjectPath) (hash : AccessibilityIdentityHash)
  | restartApplication (bus : AtspiBusName) (root : AtspiObjectPath) (hash : AccessibilityIdentityHash)
  | removeApplication (application : ApplicationRef)
  | nextElementRef (application : ApplicationRef) (path : AtspiObjectPath)
      (hash : AccessibilityIdentityHash)
  | observe (snapshot : ElementSnapshot)
  | remove (element : ElementRef)
  | resolveExact (element : ElementRef)
  | eventGap
  | resetBus
  | malformedGraph
deriving DecidableEq

inductive AccessibilityReply where
  | application (application : ApplicationRef)
  | applicationRemoved
  | reference (element : ElementRef)
  | observed (revision : AccessibilityRevision)
  | removed (tombstone : AccessibilityTombstone)
  | resolved (snapshot : ElementSnapshot)
  | resynced (barrier : AccessibilityResyncBarrier)
deriving DecidableEq

namespace AccessibilityCache

/-- One call: what it returned and the cache it left. -/
def step (encodedBytes : ElementSnapshot → Option Nat) (c : AccessibilityCache) :
    AccessibilityOp → Except AccessibilityModelError AccessibilityReply × AccessibilityCache
  | .registerApplication bus root hash => (c.registerApplication bus root hash).map (·.map .application) id
  | .restartApplication bus root hash => (c.restartApplication bus root hash).map (·.map .application) id
  | .removeApplication application => (c.removeApplication application).map
      (·.map fun _ => .applicationRemoved) id
  | .nextElementRef application path hash => ((c.nextElementRef application path hash).map .reference, c)
  | .observe snapshot => (c.observe encodedBytes snapshot).map (·.map .observed) id
  | .remove element => (c.remove element).map (·.map .removed) id
  | .resolveExact element => ((c.resolveExact element).map .resolved, c)
  | .eventGap => c.eventGap.map (·.map .resynced) id
  | .resetBus => c.resetBus.map (·.map .resynced) id
  | .malformedGraph => c.malformedGraph.map (·.map .resynced) id

/-- An empty cache of the default limits. -/
def empty : AccessibilityCache :=
  ⟨⟨1⟩, ⟨1⟩, ⟨1, Nat.one_ne_zero⟩, ⟨1, Nat.one_ne_zero⟩, .default, by decide, ∅, ∅, ∅, ∅, [], 0⟩

theorem new_empty : new ⟨1⟩ ⟨1⟩ ⟨1, by decide⟩ .default = .ok empty := rfl

end AccessibilityCache

end Xenoteer
