/-
Queries, pages and wait evaluations over an immutable view
(`AccessibilitySnapshot` and `AccessibilityCache` in
`xenoteer-core/src/accessibility.rs`).

Outside the repository are the case folding of characters, regular
expressions, the selector fingerprint and the clock (`QueryEnvironment`). A
query reads the clock at every deadline check: `Timed` threads the number of
readings taken so far.
-/
import Xenoteer.Accessibility.Graph

namespace Xenoteer

inductive QueryLimit where
  | visitedNodes
  | depth
  | matches
  | timeout

inductive AccessibilityQueryError where
  | invalidRequest (error : AccessibilityValidationError)
  | regexBuild
  | fingerprint
  | invalidPageLimit
  | limitExceeded (limit : QueryLimit)
  | offset
  | continuationMismatch
  | staleReference
  | noMatch
  | ambiguous (matched : Nat)
  | futureRevision
  | resyncRequired

structure QueryEnvironment where
  /-- `char::to_lowercase`. -/
  toLowercase : Char → List Char
  /-- The matcher of a pattern, if it compiles within its size ceiling. -/
  regex : Text → Bool → Option (Text → Bool)
  /-- The digest of the selector's encoding, if it encodes. -/
  fingerprint : ElementSelector → Option (List UInt8)
  clock : Clock

/-- A computation that reads the clock. -/
abbrev Timed (α : Type) := StateT Nat (Except AccessibilityQueryError) α

/-! ## Matchers -/

variable (env : QueryEnvironment)

def fold (value : Text) (caseSensitive : Bool) : Text :=
  if caseSensitive then value else value.flatMap env.toLowercase

def ElementStringMatch.compile : ElementStringMatch → Except AccessibilityQueryError (Text → Bool)
  | .exact value caseSensitive =>
    .ok fun candidate => fold env candidate caseSensitive = fold env value caseSensitive
  | .contains value caseSensitive =>
    .ok fun candidate => Text.containsText (fold env value caseSensitive) (fold env candidate caseSensitive)
  | .startsWith value caseSensitive =>
    .ok fun candidate => (fold env value caseSensitive).isPrefixOf (fold env candidate caseSensitive)
  | .endsWith value caseSensitive =>
    .ok fun candidate => (fold env value caseSensitive).isSuffixOf (fold env candidate caseSensitive)
  | .regex pattern caseSensitive =>
    match env.regex pattern caseSensitive with
    | none => .error .regexBuild
    | some isMatch => .ok isMatch

def inF64Range (value : F64) (minimum maximum : Option F64) : Bool :=
  minimum.all (F64.le · value) && maximum.all (F64.le value)

def inU32Range (value : UInt32) (minimum maximum : Option UInt32) : Bool :=
  minimum.all (· ≤ value) && maximum.all (value ≤ ·)

/-- Half-open rectangles that share a point; an empty one shares none. -/
def rectanglesIntersect (left right : Rect) : Bool :=
  match left.size, right.size with
  | .ok leftSize, .ok rightSize =>
    left.x.toInt < right.x.toInt + rightSize.width.toNat && right.x.toInt < left.x.toInt + leftSize.width.toNat &&
      left.y.toInt < right.y.toInt + rightSize.height.toNat && right.y.toInt < left.y.toInt + leftSize.height.toNat
  | _, _ => false

def snapshotIntersects (snapshot : ElementSnapshot) (coordinateSpace : CoordinateSpace) (rect : Rect) :
    Bool :=
  ((snapshot.component.filter fun component => component.coordinateSpace = coordinateSpace).bind
    ElementComponentSnapshot.extents).any fun candidate => rectanglesIntersect candidate rect

def ElementPredicate.compile : ElementPredicate → Except AccessibilityQueryError (ElementSnapshot → Bool)
  | .role roles => .ok fun snapshot => roles.contains snapshot.role.role
  | .name matcher => (matcher.compile env).map fun isMatch snapshot => snapshot.name.any isMatch
  | .description matcher => (matcher.compile env).map fun isMatch snapshot =>
      snapshot.description.any isMatch
  | .accessibleId matcher => (matcher.compile env).map fun isMatch snapshot =>
      snapshot.accessibleId.any isMatch
  | .state wanted value => .ok fun snapshot => snapshot.states.contains wanted = value
  | .interface wanted => .ok fun snapshot => snapshot.interfaces.contains wanted
  | .attribute key matcher => (matcher.compile env).map fun isMatch snapshot =>
      snapshot.attributes.any fun entry => entry.name = key && isMatch entry.value
  | .action matcher => (matcher.compile env).map fun isMatch snapshot =>
      snapshot.actions.any fun offered => isMatch offered.name
  | .valueRange minimum maximum => .ok fun snapshot =>
      snapshot.value.any fun value => inF64Range value.current minimum maximum
  | .indexInParent index => .ok fun snapshot => snapshot.indexInParent = some index
  | .childCount minimum maximum => .ok fun snapshot =>
      snapshot.childCount.any fun count => inU32Range count minimum maximum
  | .relation kind target => .ok fun snapshot =>
      snapshot.relations.any fun candidate => candidate.relation = kind && candidate.targets.contains target
  | .componentIntersects coordinateSpace rect => .ok fun snapshot =>
      snapshotIntersects snapshot coordinateSpace rect

def ElementSelector.compile (selector : ElementSelector) :
    Except AccessibilityQueryError (ElementSnapshot → Bool) :=
  (selector.predicates.mapM (ElementPredicate.compile env)).map fun compiled snapshot =>
    compiled.all fun isMatch => isMatch snapshot

def waitPredicateMatches (snapshot : ElementSnapshot) :
    ElementWaitPredicate → Except AccessibilityQueryError Bool
  | .exists => .ok true
  | .gone | .selectorCount _ _ => .ok false
  | .state wanted value => .ok (snapshot.states.contains wanted = value)
  | .name matcher => (matcher.compile env).map fun isMatch => snapshot.name.any isMatch
  | .value minimum maximum => .ok (snapshot.value.any fun value => inF64Range value.current minimum maximum)
  | .text matcher => (matcher.compile env).map fun isMatch =>
      (snapshot.text.bind ElementTextSnapshot.content).any fun content => isMatch content.text
  | .childCount minimum maximum =>
    .ok (snapshot.childCount.any fun count => inU32Range count minimum maximum)
  | .geometry coordinateSpace intersects => .ok (snapshotIntersects snapshot coordinateSpace intersects)

/-! ## Projection and order -/

/-- The fields an answer carries. The warning of an earlier redaction keeps
the snapshot redacted. -/
def AccessibilitySnapshot.projectSnapshot (snapshot : ElementSnapshot)
    (expansion : ElementSnapshotExpansion) : ElementSnapshot :=
  let projected := { snapshot with
    actions := if expansion.actions then snapshot.actions else []
    value := if expansion.value then snapshot.value else none
    text :=
      if !expansion.textMetadata then none
      else if !expansion.textContent then snapshot.text.map fun text => { text with content := none }
      else snapshot.text
    attributes := if expansion.attributes then snapshot.attributes else []
    relations := if expansion.relations then snapshot.relations else []
    component := if expansion.component then snapshot.component else none }
  redactProtected projected (snapshotDeclaresProtected projected ||
    projected.warnings.any fun warning => warning.code = protectedRedactedCode)

def compareOptional (left right : Option Text) (reverse : Bool) : Ordering :=
  match left, right with
  | some left, some right => if reverse then compare right left else compare left right
  | some _, none => .lt
  | none, some _ => .gt
  | none, none => .eq

/-- The rank of each node in preorder; a node that no root reaches has the
largest. -/
def preorderRank (s : AccessibilitySnapshot) (index : Nat) :
    Nat := (s.preorderIndices.idxOf? index).getD u64Max

def compareBy (order : ElementOrder) (left right : ElementSnapshot) : Ordering :=
  let primary := match order with
    | .nameAscending => compareOptional left.name right.name false
    | .nameDescending => compareOptional left.name right.name true
    | .roleThenName => (compare left.role.role right.role.role).then
        (compareOptional left.name right.name false)
    | .objectPathAscending => compare left.element.objectPath right.element.objectPath
    | .preorder | .reversePreorder => .eq
  primary.then (compareRef left.element right.element)

def orderIndices (s : AccessibilitySnapshot) (order : ElementOrder) (indices : List Nat) : List Nat :=
  match order with
  | .preorder => sortBy (compareOn (preorderRank s)) indices
  | .reversePreorder => (sortBy (compareOn (preorderRank s)) indices).reverse
  | order => sortBy (fun left right =>
      match s.nodes[left]?, s.nodes[right]? with
      | some left, some right => compareBy order left right
      | _, _ => .eq) indices

/-! ## Deadlines -/

/-- `AccessibilityQueryDeadline::from_timeout_ms`. -/
def deadlineFromTimeoutMs (timeoutMs : UInt32) : Timed Instant := do
  let reading ← get
  set (reading + 1)
  match Instant.checkedAdd (env.clock.reading reading) (timeoutMs.toNat * 1000000) with
  | none => throw (.limitExceeded .timeout)
  | some deadline => return deadline

/-- `AccessibilityQueryDeadline::check`. -/
def checkDeadline (deadline : Instant) : Timed Unit := do
  let reading ← get
  set (reading + 1)
  if deadline ≤ env.clock.reading reading then throw (.limitExceeded .timeout)

def requireValid (validated : Except AccessibilityValidationError Unit) : Timed Unit :=
  match validated with
  | .ok () => return ()
  | .error e => throw (.invalidRequest e)

/-! ## Scopes -/

def u16Max : Nat := 65535

def isCorrelatedWithWindow (snapshot : ElementSnapshot) (window : WindowRef) : Bool :=
  snapshot.windowCorrelation.window = some window && snapshot.windowCorrelation.confidence ≠ .none

/-- The nodes that meet a condition, with a deadline check before each. -/
def filterTimed (deadline : Instant) (selects : Nat → Bool) : List Nat → Timed (List Nat)
  | [] => return []
  | index :: rest => do
    checkDeadline env deadline
    let selected ← filterTimed deadline selects rest
    return if selects index then index :: selected else selected

/-- Preorder from the stack with the distance from the scope's roots. -/
def visitScope (deadline : Instant) (children : Nat → List Nat) (maxDepth : Nat) :
    Nat → List (Nat × Nat) → List (Nat × Nat) → Timed (List (Nat × Nat))
  | 0, _, output | _ + 1, [], output => return output
  | fuel + 1, (index, depth) :: rest, output => do
    checkDeadline env deadline
    if index ∈ output.map Prod.fst then visitScope deadline children maxDepth fuel rest output
    else
      if maxDepth < depth then throw (.limitExceeded .depth)
      if u16Max < depth + 1 then throw (.limitExceeded .depth)
      visitScope deadline children maxDepth fuel ((children index).map (·, depth + 1) ++ rest)
        (output ++ [(index, depth)])

namespace AccessibilitySnapshot

variable (s : AccessibilitySnapshot)

/-- A correlated ancestor of the node whose parent is `parent`. In a view
whose graph is clean no walk is longer than the number of nodes. -/
def correlatedAncestor (window : WindowRef) : Nat → Option ElementRef → Bool
  | 0, _ | _ + 1, none => false
  | fuel + 1, some parent =>
    match (s.index parent).bind (s.nodes[·]?) with
    | none => false
    | some node => isCorrelatedWithWindow node window || correlatedAncestor window fuel node.parent

def isHighestWindowCorrelated (window : WindowRef) (index : Nat) : Bool :=
  match s.nodes[index]? with
  | none => false
  | some node => isCorrelatedWithWindow node window && !s.correlatedAncestor window s.nodes.length node.parent

def requireIndex (element : ElementRef) : Timed Nat :=
  match s.index element with
  | none => throw .staleReference
  | some index => return index

def scopeRoots (deadline : Instant) : ElementScope → Timed (List Nat)
  | .desktop => return s.roots
  | .application application =>
    filterTimed env deadline
      (fun index => s.nodes[index]?.any fun node => node.element.application = application) s.roots
  | .window window =>
    filterTimed env deadline (s.isHighestWindowCorrelated window) (List.range s.nodes.length)
  | .subtree root includeRoot => do
    let root ← s.requireIndex root
    return if includeRoot then [root] else s.childrenOf root
  | .children parent => return s.childrenOf (← s.requireIndex parent)

def scopeIndices (scope : ElementScope) (maxDepth : Nat) (deadline : Instant) :
    Timed (List (Nat × Nat)) := do
  checkDeadline env deadline
  let roots ← s.scopeRoots env deadline scope
  match scope with
  | .children _ =>
    checkDeadline env deadline
    return roots.map (·, 1)
  | _ =>
    visitScope env deadline s.childrenOf maxDepth (roots.length + edgeCount s.children)
      (roots.map (·, 0)) []

def requireCleanGraph : Timed Unit := do
  if s.graph.resyncRequired then throw .resyncRequired

def requireApplication (application : ApplicationRef) : Timed Unit :=
  if application.atspiGeneration = s.atspiGeneration ∧ application ∈ s.applications then return ()
  else throw .staleReference

def requireElement (element : ElementRef) : Timed Unit :=
  if element.atspiGeneration = s.atspiGeneration ∧ element.application.atspiGeneration = s.atspiGeneration ∧
      (s.index element).isSome then return ()
  else throw .staleReference

def requireSelectorGeneration (selector : ElementSelector) : Timed Unit := do
  match selector.scope with
  | .application application => s.requireApplication application
  | .subtree element _ | .children element => s.requireElement element
  | .desktop | .window _ => return ()
  selector.predicates.forM fun predicate =>
    match predicate with
    | .relation _ target => s.requireElement target
    | _ => return ()

end AccessibilitySnapshot

/-! ## Queries -/

def accessibilitySelectorFingerprint (selector : ElementSelector) : Timed (List UInt8) :=
  match env.fingerprint selector with
  | none => throw .fingerprint
  | some digest => return digest

structure AccessibilityContinuationDescriptor where
  desktopId : DesktopId
  desktopGeneration : DesktopGeneration
  atspiGeneration : AtspiGeneration
  snapshotRevision : AccessibilityRevision
  selectorFingerprint : List UInt8
  order : ElementOrder
  expansion : ElementSnapshotExpansion
  nextOffset : Nat

structure AccessibilityQueryProjection where
  desktopId : DesktopId
  desktopGeneration : DesktopGeneration
  atspiGeneration : AtspiGeneration
  snapshotRevision : AccessibilityRevision
  elements : List ElementSnapshotEntry
  visitedNodes : Nat
  totalMatches : Nat
  nextOffset : Option Nat
  continuation : Option AccessibilityContinuationDescriptor
  warnings : List AccessibilityWarning

structure AccessibilityWaitEvaluation where
  evaluatedRevision : AccessibilityRevision
  predicateSatisfied : Bool
  selectedCount : Nat
  satisfyingCount : Nat
  satisfyingElements : List ElementSnapshotEntry
  warnings : List AccessibilityWarning

namespace AccessibilitySnapshot

variable (s : AccessibilitySnapshot)

/-- The matching nodes of the scope, in scope order, within the budgets; and
how many were visited. -/
def scan (limits : AccessibilityQueryLimits) (deadline : Instant) (selects : ElementSnapshot → Bool) :
    List (Nat × Nat) → Nat → List Nat → Timed (Nat × List Nat)
  | [], visited, found => return (visited, found)
  | (index, depth) :: rest, visited, found => do
    checkDeadline env deadline
    if u32Max < visited + 1 then throw (.limitExceeded .visitedNodes)
    if limits.maxVisitedNodes.toNat < visited + 1 then throw (.limitExceeded .visitedNodes)
    if limits.maxDepth.toNat < depth then throw (.limitExceeded .depth)
    if s.nodes[index]?.any selects then
      if limits.maxMatches.toNat < found.length + 1 then throw (.limitExceeded .matches)
      scan limits deadline selects rest (visited + 1) (found ++ [index])
    else scan limits deadline selects rest (visited + 1) found

def project (expansion : ElementSnapshotExpansion) (indices : List Nat) : List ElementSnapshotEntry :=
  indices.filterMap fun index => s.nodes[index]?.map fun node => ⟨projectSnapshot node expansion⟩

section

variable (selector : ElementSelector)

section

variable (expansion : ElementSnapshotExpansion)

section

variable (limits : AccessibilityQueryLimits)

def queryWithDeadline (limit : UInt16) (offset : Nat) (deadline : Instant) :
    Timed AccessibilityQueryProjection := do
  checkDeadline env deadline
  requireValid (selector.validateFor s.desktopId s.desktopGeneration)
  requireValid expansion.validate
  requireValid limits.validate
  if limit = 0 ∨ limits.maxMatches < limit then throw .invalidPageLimit
  s.requireCleanGraph
  s.requireSelectorGeneration selector
  let selectorFingerprint ← accessibilitySelectorFingerprint env selector
  let compiled ← (selector.compile env : Except AccessibilityQueryError (ElementSnapshot → Bool))
  checkDeadline env deadline
  let inScope ← s.scopeIndices env selector.scope limits.maxDepth.toNat deadline
  let (visited, found) ← s.scan env limits deadline compiled inScope 0 []
  let ordered := orderIndices s selector.order found
  checkDeadline env deadline
  let selected := match selector.resultIndex with
    | some index => ordered[index.toNat]?.toList
    | none => ordered
  if selected.length < offset ∨ (offset = selected.length ∧ offset ≠ 0) then throw .offset
  let stop := min (offset + limit.toNat) selected.length
  let elements := s.project expansion ((selected.drop offset).take (stop - offset))
  if stop < selected.length ∧ u32Max < stop then throw (.limitExceeded .matches)
  let nextOffset := if stop < selected.length then some stop else none
  let continuation := nextOffset.map fun nextOffset =>
    (⟨s.desktopId, s.desktopGeneration, s.atspiGeneration, s.revision, selectorFingerprint, selector.order,
    expansion, nextOffset⟩ : AccessibilityContinuationDescriptor)
  checkDeadline env deadline
  if u32Max < selected.length then throw (.limitExceeded .matches)
  return ⟨s.desktopId, s.desktopGeneration, s.atspiGeneration, s.revision, elements, visited,
    selected.length, nextOffset,
    continuation, s.graph.warnings⟩

/-- The entry points without a deadline set one from the limits' timeout. -/
def withOwnDeadline {α} (limits : AccessibilityQueryLimits) (run : Instant → Timed α) : Timed α := do
  requireValid limits.validate
  run (← deadlineFromTimeoutMs env limits.timeoutMs)

def query (limit : UInt16) (offset : Nat) : Timed AccessibilityQueryProjection :=
  withOwnDeadline env limits (s.queryWithDeadline env selector expansion limits limit offset)

def listWithDeadline (scope : ElementScope) (order : ElementOrder) (expansion : ElementSnapshotExpansion)
    (limits : AccessibilityQueryLimits) (limit : UInt16) (offset : Nat) (deadline : Instant) :
    Timed AccessibilityQueryProjection :=
  s.queryWithDeadline env ⟨scope, [], order, none⟩ expansion limits limit offset deadline

def list (scope : ElementScope) (order : ElementOrder) (expansion : ElementSnapshotExpansion)
    (limits : AccessibilityQueryLimits) (limit : UInt16)
    (offset : Nat) : Timed AccessibilityQueryProjection :=
  withOwnDeadline env limits (s.listWithDeadline env scope order expansion limits limit offset)

def continueQueryWithDeadline (limit : UInt16)
    (continuation : AccessibilityContinuationDescriptor) (deadline : Instant) :
    Timed AccessibilityQueryProjection := do
  checkDeadline env deadline
  if continuation.desktopId ≠ s.desktopId ∨ continuation.desktopGeneration ≠ s.desktopGeneration ∨
      continuation.atspiGeneration ≠ s.atspiGeneration ∨ continuation.snapshotRevision ≠ s.revision then
    throw .continuationMismatch
  if continuation.selectorFingerprint ≠ (← accessibilitySelectorFingerprint env selector) ∨
      continuation.order ≠ selector.order then
    throw .continuationMismatch
  s.queryWithDeadline env selector continuation.expansion limits limit continuation.nextOffset deadline

def continueQuery (limit : UInt16)
    (continuation : AccessibilityContinuationDescriptor) : Timed AccessibilityQueryProjection :=
  withOwnDeadline env limits (s.continueQueryWithDeadline env selector limits limit continuation)

/-- Ambiguity is an error. -/
def resolveExactlyOneWithDeadline (deadline : Instant) : Timed ElementSnapshotEntry := do
  let projection ← s.queryWithDeadline env selector expansion limits limits.maxMatches 0 deadline
  match projection.totalMatches with
  | 0 => throw .noMatch
  | 1 => match projection.elements with
    | entry :: _ => return entry
    | [] => throw .noMatch
  | matched => throw (.ambiguous matched)

def resolveExactlyOne : Timed ElementSnapshotEntry :=
  withOwnDeadline env limits (s.resolveExactlyOneWithDeadline env selector expansion limits)

end

end

end

/-- Resolves an exact birth at the view's revision. -/
def resolveExact (element : ElementRef) (expansion : ElementSnapshotExpansion) :
    Timed ElementSnapshotEntry := do
  match s.nodes[(← s.requireIndex element)]? with
  | some node => return ⟨projectSnapshot node expansion⟩
  | none => throw .staleReference

/-! ## Waits -/

/-- The nodes a wait is about, and how many of them must satisfy it. -/
def waitSelection (request : ElementWaitRequest) (deadline : Instant) :
    Timed (List Nat × ElementWaitQuantifier) :=
  match request.target with
  | .reference element => return ((s.index element).toList, .any)
  | .selector selector quantifier => do
    let projection ←
      s.queryWithDeadline env selector request.expansion request.limits request.limits.maxMatches 0 deadline
    return (projection.elements.filterMap fun entry => s.index entry.snapshot.element, quantifier)

/-- The selected nodes that satisfy the predicate. -/
def satisfying (deadline : Instant) (predicate : ElementWaitPredicate) : List Nat → Timed (List Nat)
  | [] => return []
  | index :: rest => do
    checkDeadline env deadline
    let holds ← match s.nodes[index]? with
      | some node => (waitPredicateMatches env node predicate : Except AccessibilityQueryError Bool)
      | none => pure false
    let others ← satisfying deadline predicate rest
    return if holds then index :: others else others

def evaluateWaitWithDeadline (request : ElementWaitRequest) (deadline : Instant) :
    Timed AccessibilityWaitEvaluation := do
  checkDeadline env deadline
  requireValid request.validate
  s.requireCleanGraph
  if request.afterRevision.any fun revision => s.revision.value < revision.value then throw .futureRevision
  let (selected, quantifier) ← s.waitSelection env request deadline
  let selectedCount := selected.length % 2 ^ 32
  let countSatisfied := match request.predicate with
    | .selectorCount minimum maximum =>
      some (minimum.toNat ≤ selectedCount && maximum.all fun (maximum : UInt32) =>
        selectedCount ≤ maximum.toNat)
    | _ => none
  let satisfied ← if countSatisfied.isNone then s.satisfying env deadline request.predicate selected else pure []
  let satisfyingCount := satisfied.length % 2 ^ 32
  let predicateSatisfied := match request.target, request.predicate with
    | .reference _, .exists => selectedCount = 1
    | .reference _, .gone => selectedCount = 0
    | .reference _, _ => satisfyingCount = 1
    | .selector _ _, _ => countSatisfied.getD (match quantifier with
      | .any => 0 < satisfyingCount
      | .all => 0 < selectedCount && satisfyingCount = selectedCount
      | .exactlyOne => satisfyingCount = 1
      | .none => satisfyingCount = 0)
  let afterBoundaryMet := request.afterRevision.all fun revision => revision.value < s.revision.value
  checkDeadline env deadline
  return ⟨s.revision, predicateSatisfied && afterBoundaryMet, selectedCount, satisfyingCount,
    s.project request.expansion satisfied, s.graph.warnings⟩

def evaluateWait (request : ElementWaitRequest) : Timed AccessibilityWaitEvaluation := do
  requireValid request.validate
  s.evaluateWaitWithDeadline env request (← deadlineFromTimeoutMs env request.limits.timeoutMs)

end AccessibilitySnapshot

/-- A wait between its first check and its registration. -/
structure PreparedAccessibilityWait where
  request : ElementWaitRequest
  registeredAt : AccessibilityRevision
  atspiGeneration : AtspiGeneration
  initial : AccessibilityWaitEvaluation

namespace AccessibilityCache

variable (c : AccessibilityCache)

def prepareWait (request : ElementWaitRequest) : Timed PreparedAccessibilityWait := do
  let evaluation ← c.snapshot.evaluateWait env request
  return ⟨request, c.revision, c.atspiGeneration, evaluation⟩

/-- A change between the first check and the registration is seen. -/
def recheckWait (prepared : PreparedAccessibilityWait) : Timed AccessibilityWaitEvaluation :=
  if prepared.atspiGeneration ≠ c.atspiGeneration then throw .resyncRequired
  else if prepared.registeredAt = c.revision then return prepared.initial
  else c.snapshot.evaluateWait env prepared.request

end AccessibilityCache

/-! ## What a caller can read -/

inductive AccessibilityRead where
  | counts
  | snapshot
  | traverse (order : AccessibilityTraversalOrder)
  | resolveExact (element : ElementRef) (expansion : ElementSnapshotExpansion)
  | query (selector : ElementSelector) (expansion : ElementSnapshotExpansion)
      (limits : AccessibilityQueryLimits)
      (limit : UInt16) (offset : Nat)
  | queryWithDeadline (selector : ElementSelector) (expansion : ElementSnapshotExpansion)
      (limits : AccessibilityQueryLimits) (limit : UInt16) (offset : Nat) (deadline : Instant)
  | list (scope : ElementScope) (order : ElementOrder) (expansion : ElementSnapshotExpansion)
      (limits : AccessibilityQueryLimits) (limit : UInt16) (offset : Nat)
  | listWithDeadline (scope : ElementScope) (order : ElementOrder) (expansion : ElementSnapshotExpansion)
      (limits : AccessibilityQueryLimits) (limit : UInt16) (offset : Nat) (deadline : Instant)
  | continueQuery (selector : ElementSelector) (limits : AccessibilityQueryLimits) (limit : UInt16)
      (continuation : AccessibilityContinuationDescriptor)
  | continueQueryWithDeadline (selector : ElementSelector) (limits : AccessibilityQueryLimits)
      (limit : UInt16)
      (continuation : AccessibilityContinuationDescriptor) (deadline : Instant)
  | resolveExactlyOne (selector : ElementSelector) (expansion : ElementSnapshotExpansion)
      (limits : AccessibilityQueryLimits)
  | resolveExactlyOneWithDeadline (selector : ElementSelector) (expansion : ElementSnapshotExpansion)
      (limits : AccessibilityQueryLimits) (deadline : Instant)
  | evaluateWait (request : ElementWaitRequest)
  | evaluateWaitWithDeadline (request : ElementWaitRequest) (deadline : Instant)
  | prepareWait (request : ElementWaitRequest)
  | recheckWait (prepared : PreparedAccessibilityWait)

inductive AccessibilityReadAnswer where
  | counts (atspiGeneration : AtspiGeneration) (revision : AccessibilityRevision) (nodes tombstones : Nat)
  | snapshot (view : AccessibilitySnapshot)
  | traversal (nodes : List ElementSnapshot)
  | entry (entry : ElementSnapshotEntry)
  | projection (projection : AccessibilityQueryProjection)
  | evaluation (evaluation : AccessibilityWaitEvaluation)
  | prepared (prepared : PreparedAccessibilityWait)

/-- The answer to a read of the cache or of a view taken of it now. -/
def AccessibilityCache.read (c : AccessibilityCache) : AccessibilityRead → Timed AccessibilityReadAnswer
  | .counts => return .counts c.atspiGeneration c.revision c.nodes.size c.tombstones.length
  | .snapshot => return .snapshot c.snapshot
  | .traverse order => return .traversal (c.snapshot.traverse order)
  | .resolveExact element expansion => .entry <$> c.snapshot.resolveExact element expansion
  | .query selector expansion limits limit offset =>
    .projection <$> c.snapshot.query env selector expansion limits limit offset
  | .queryWithDeadline selector expansion limits limit offset deadline =>
    .projection <$> c.snapshot.queryWithDeadline env selector expansion limits limit offset deadline
  | .list scope order expansion limits limit offset =>
    .projection <$> c.snapshot.list env scope order expansion limits limit offset
  | .listWithDeadline scope order expansion limits limit offset deadline =>
    .projection <$> c.snapshot.listWithDeadline env scope order expansion limits limit offset deadline
  | .continueQuery selector limits limit continuation =>
    .projection <$> c.snapshot.continueQuery env selector limits limit continuation
  | .continueQueryWithDeadline selector limits limit continuation deadline =>
    .projection <$> c.snapshot.continueQueryWithDeadline env selector limits limit continuation deadline
  | .resolveExactlyOne selector expansion limits =>
    .entry <$> c.snapshot.resolveExactlyOne env selector expansion limits
  | .resolveExactlyOneWithDeadline selector expansion limits deadline =>
    .entry <$> c.snapshot.resolveExactlyOneWithDeadline env selector expansion limits deadline
  | .evaluateWait request => .evaluation <$> c.snapshot.evaluateWait env request
  | .evaluateWaitWithDeadline request deadline =>
    .evaluation <$> c.snapshot.evaluateWaitWithDeadline env request deadline
  | .prepareWait request => .prepared <$> c.prepareWait env request
  | .recheckWait prepared => .evaluation <$> c.recheckWait env prepared

end Xenoteer
