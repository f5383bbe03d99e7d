/-
The immutable view of the accessibility cache and its graph
(`AccessibilitySnapshot` in `xenoteer-core/src/accessibility.rs`).

Nodes are named by their position in the sorted list. The source's loops over
a stack or a queue are `visit` and `visitPostorder`: the head of the list is
the end the source pops. The fuel given to them covers every pop, since each
node's children are pushed once.
-/
import Xenoteer.Accessibility.Cache
import Xenoteer.Protocol.AccessibilityQuery
import Mathlib.Data.List.Sort

namespace Xenoteer

inductive AccessibilityTraversalOrder where
  | preorder
  | postorder
  | breadthFirst

structure AccessibilityGraphStatus where
  dirty : Bool
  resyncRequired : Bool
  warnings : List AccessibilityWarning

/-! ## Orders -/

/-- `sort_by`, which is stable. -/
def sortBy {α} (compare : α → α → Ordering) (l : List α) : List α :=
  l.insertionSort fun a b => compare a b ≠ .gt

def compareRef (left right : ElementRef) : Ordering :=
  (compare left.application.uniqueBusName right.application.uniqueBusName).then
    ((compare left.objectPath right.objectPath).then (compare left.cacheSequence right.cacheSequence))

def compareSnapshotIdentity (left right : ElementSnapshot) :
    Ordering := compareRef left.element right.element

def compareChild (left right : ElementSnapshot) : Ordering :=
  let position := fun (node : ElementSnapshot) => (node.indexInParent.map UInt32.toNat).getD u32Max
  (compare (position left) (position right)).then (compareSnapshotIdentity left right)

/-! ## Worklists -/

/-- The nodes in the order in which they are first popped, after those of
`seen`. -/
def visit (children : Nat → List Nat) (extend : List Nat → List Nat → List Nat) :
    Nat → List Nat → List Nat → List Nat
  | 0, _, seen | _ + 1, [], seen => seen
  | fuel + 1, index :: rest, seen =>
    if index ∈ seen then visit children extend fuel rest seen
    else visit children extend fuel (extend (children index) rest) (seen ++ [index])

/-- A popped node is pushed again behind its children, and listed when it is
popped the second time. -/
def visitPostorder (children : Nat → List Nat) : Nat → List (Nat × Bool) → List Nat → List Nat → List Nat
  | 0, _, _, output | _ + 1, [], _, output => output
  | fuel + 1, (index, true) :: rest, seen, output => visitPostorder children fuel rest seen
      (output ++ [index])
  | fuel + 1, (index, false) :: rest, seen, output =>
    if index ∈ seen then visitPostorder children fuel rest seen output
    else visitPostorder children fuel ((children index).map (·, false) ++ (index, true) :: rest)
      (index :: seen) output

/-! ## The view -/

structure AccessibilitySnapshot where
  desktopId : DesktopId
  desktopGeneration : DesktopGeneration
  atspiGeneration : AtspiGeneration
  revision : AccessibilityRevision
  applications : List ApplicationRef
  nodes : List ElementSnapshot
  children : List (List Nat)
  roots : List Nat
  graph : AccessibilityGraphStatus

/-- `indices.get(element)`: the map is built in node order, so the last node
of an element counts. -/
def indexOf (nodes : List ElementSnapshot) (element : ElementRef) : Option Nat :=
  ((nodes.zipIdx.filter fun entry => entry.1.element = element).getLast?).map Prod.snd

/-- The children of a node, of which every node is one entry of the list. -/
def childrenAt (children : List (List Nat)) (index : Nat) : List Nat := children[index]?.getD []

def edgeCount (children : List (List Nat)) : Nat := (children.map List.length).sum

/-- The position of an element in the view under its parent: a child, or a
root with or without a warning. -/
structure GraphLinks where
  children : List (List Nat)
  roots : List Nat
  warnings : List AccessibilityWarning

namespace GraphLinks

def link (nodes : List ElementSnapshot) (links : GraphLinks) (entry : ElementSnapshot × Nat) : GraphLinks :=
  let (node, index) := entry
  match node.parent.bind (indexOf nodes) with
  | some parent =>
    if parent ≠ index then { links with children := links.children.modify parent (· ++ [index]) }
    else
      { links with
        roots := links.roots ++ [index]
        warnings := pushWarning links.warnings "accessibility.self_parent".toList
          "element names itself as parent".toList }
  | none =>
    if node.parent.isSome then
      { links with
        roots := links.roots ++ [index]
        warnings := pushWarning links.warnings "accessibility.orphan".toList
          "element parent is absent from the immutable snapshot".toList }
    else { links with roots := links.roots ++ [index] }

end GraphLinks

def metadataConflicts (nodes : List ElementSnapshot) (parent : ElementSnapshot) (siblings : List Nat) :
    Bool :=
  let positions := siblings.filterMap fun child => nodes[child]?.bind ElementSnapshot.indexInParent
  hasDuplicates positions || parent.childCount.any fun declared =>
    declared.toNat < siblings.length || positions.any fun index => declared ≤ index

/-- `mark_reachable`: the last child pushed is popped first. -/
def markReachable (children : List (List Nat)) (reached : List Nat) (index : Nat) : List Nat :=
  visit (childrenAt children) (fun pushed rest => pushed.reverse ++ rest) (1 + edgeCount children)
    [index] reached

/-- A node that no root reaches becomes a root. -/
def adoptUnreached (children : List (List Nat)) (state : List Nat × List Nat) (index : Nat) :
    List Nat × List Nat :=
  let (roots, reached) := state
  if index ∈ reached then (roots, reached) else (roots ++ [index], markReachable children reached index)

namespace AccessibilitySnapshot

def build (desktopId : DesktopId) (desktopGeneration : DesktopGeneration)
    (atspiGeneration : AtspiGeneration)
    (revision : AccessibilityRevision) (applications : List ApplicationRef) (nodes : List ElementSnapshot) :
    AccessibilitySnapshot :=
  let nodes := sortBy compareSnapshotIdentity nodes
  let byChild := fun (left right : Nat) =>
    match nodes[left]?, nodes[right]? with
    | some left, some right => compareChild left right
    | _, _ => .eq
  let links := nodes.zipIdx.foldl (GraphLinks.link nodes) ⟨nodes.map fun _ => [], [], []⟩
  let children := links.children.map (sortBy byChild)
  let warnings := (nodes.zip children).foldl (fun warnings (parent, siblings) =>
    if metadataConflicts nodes parent siblings then
      pushWarning warnings "accessibility.parent_metadata_conflict".toList
        "child indices or declared parent child count are contradictory".toList
    else warnings) links.warnings
  let roots := sortBy byChild links.roots
  let reached := roots.foldl (markReachable children) []
  let warnings :=
    if reached.length ≠ nodes.length then
      pushWarning warnings "accessibility.cycle".toList
        "cycle or parent-only component detached from all roots".toList
    else warnings
  let roots :=
    if reached.length ≠ nodes.length then
      ((List.range nodes.length).foldl (adoptUnreached children) (roots, reached)).1
    else roots
  let dirty := !warnings.isEmpty
  { desktopId, desktopGeneration, atspiGeneration, revision, applications, nodes, children, roots,
    graph := ⟨dirty, dirty, warnings⟩ }

variable (s : AccessibilitySnapshot)

def index (element : ElementRef) : Option Nat := indexOf s.nodes element

def childrenOf (index : Nat) : List Nat := childrenAt s.children index

/-- Parent before descendants: the children go on top of the stack, the first
one topmost. -/
def preorderIndices : List Nat :=
  visit s.childrenOf (fun pushed rest => pushed ++ rest) (s.roots.length + edgeCount s.children) s.roots []

def traversalIndices : AccessibilityTraversalOrder → List Nat
  | .breadthFirst =>
    visit s.childrenOf (fun pushed rest => rest ++ pushed)
      (s.roots.length + edgeCount s.children) s.roots []
  | .preorder => s.preorderIndices
  | .postorder =>
    visitPostorder s.childrenOf (s.roots.length + s.nodes.length + edgeCount s.children)
      (s.roots.map (·, false)) [] []

def traverse (order : AccessibilityTraversalOrder) : List ElementSnapshot :=
  (s.traversalIndices order).filterMap fun index => s.nodes[index]?

end AccessibilitySnapshot

/-- An immutable view at the current revision. -/
def AccessibilityCache.snapshot (c : AccessibilityCache) : AccessibilitySnapshot :=
  .build c.desktopId c.desktopGeneration c.atspiGeneration c.revision (c.applications.toList.map Prod.snd)
    (c.nodes.toList.map Prod.snd)

end Xenoteer
