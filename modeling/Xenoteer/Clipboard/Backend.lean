/-
The clipboard actor's X11 backend (`clipboard/x11.rs`, `clipboard/atoms.rs`):
taking, dropping and following the ownership of the two selections, and
reading them.

A handler is a program that stops at each X request and goes on with the
server's reply, or gives up when the request fails. What it answers to its
callers and observers goes to `outbox`, in order; a reply sender is named by
the request it belongs to. Serving the selections to other clients only touches
the outgoing transfers and the paste watchers, which are not modelled: it is one
request that may fail. The order of `incoming` stands for the map's.
-/
import Xenoteer.Clipboard.Receive
import Xenoteer.Lib.Dialogue

namespace Xenoteer.Clipboard

open Lib

abbrev Window := UInt32

abbrev Atom := UInt32

/-- `x11rb::NONE`. -/
def xNone : UInt32 := 0

/-- `AtomEnum::ANY`. -/
def anyType : Atom := 0

/-! ## One value for each selection -/

/-- An array indexed by `selection_index`. -/
structure PerSelection (α : Type) where
  clipboard : α
  primary : α

namespace PerSelection

variable {α : Type}

def get (p : PerSelection α) : SelectionName → α
  | .clipboard => p.clipboard
  | .primary => p.primary

def set (p : PerSelection α) (selection : SelectionName) (a : α) : PerSelection α :=
  match selection with
  | .clipboard => { p with clipboard := a }
  | .primary => { p with primary := a }

@[simp] theorem get_set_self (p : PerSelection α) (sl : SelectionName) (a : α) : (p.set sl a).get sl = a := by
  cases sl <;> rfl

theorem get_set_of_ne {p : PerSelection α} {sl o} {a : α} (h : o ≠ sl) : (p.set sl a).get o = p.get o := by
  cases sl <;> cases o <;> first | rfl | exact absurd rfl h

end PerSelection

/-! ## Atoms -/

def privatePropertyCount : Nat := 8

structure ClipboardAtoms where
  clipboard : Atom
  primary : Atom
  targets : Atom
  timestamp : Atom
  multiple : Atom
  incr : Atom
  utf8String : Atom
  textPlainUtf8 : Atom
  textPlain : Atom
  string : Atom
  atom : Atom
  imagePng : Atom
  applicationOctetStream : Atom
  timeProbe : Atom
  privateProperties : Vector Atom privatePropertyCount

namespace ClipboardAtoms

def selection (a : ClipboardAtoms) : SelectionName → Atom
  | .clipboard => a.clipboard
  | .primary => a.primary

def target (a : ClipboardAtoms) : RawClipboardTarget → Atom
  | .targets => a.targets
  | .timestamp => a.timestamp
  | .multiple => a.multiple
  | .utf8String => a.utf8String
  | .textPlainUtf8 => a.textPlainUtf8
  | .textPlain => a.textPlain
  | .string => a.string
  | .imagePng => a.imagePng
  | .applicationOctetStream => a.applicationOctetStream

def identifyTarget (a : ClipboardAtoms) (atom : Atom) : Option RawClipboardTarget :=
  [RawClipboardTarget.targets, .timestamp, .multiple, .utf8String, .textPlainUtf8, .textPlain, .string,
    .imagePng, .applicationOctetStream].find? (a.target · = atom)

end ClipboardAtoms

/-! ## The wire -/

inductive PropertyState where
  | newValue
  | deleted
deriving DecidableEq

structure SelectionNotifyEvent where
  time : UInt32
  requestor : Window
  selection : Atom
  target : Atom
  property : Atom

structure PropertyNotifyEvent where
  window : Window
  atom : Atom
  time : UInt32
  state : PropertyState

inductive XEvent where
  | selectionRequest
  | selectionNotify (event : SelectionNotifyEvent)
  | selectionClear (time : UInt32) (selection : Atom)
  | propertyNotify (event : PropertyNotifyEvent)
  | destroyNotify
  | xfixesSelectionNotify (selection : Atom) (owner : Window)
  | other

structure PropertyReply where
  type : Atom
  format : UInt8
  bytesAfter : UInt32
  valueLen : UInt32
  value : List UInt8

/-- 32-bit words in the connection's byte order, little-endian. -/
def words : List UInt8 → List UInt32
  | a :: b :: c :: d :: rest =>
    UInt32.ofNat (a.toNat + 256 * (b.toNat + 256 * (c.toNat + 256 * d.toNat))) :: words rest
  | _ => []

def PropertyReply.value32 (r : PropertyReply) : Option (List UInt32) :=
  if r.format = 32 then some (words r.value) else none

inductive XRequest where
  /-- `change_property8` of the time probe. -/
  | changeTimeProbe
  | getInputFocus
  | pollForEvent
  | setSelectionOwner (owner : Window) (selection : Atom) (time : UInt32)
  | getSelectionOwner (selection : Atom)
  | convertSelection (selection target property : Atom) (time : UInt32)
  | getProperty (delete : Bool) (property type : Atom) (longs : Nat)
  | deleteProperty (property : Atom)
  /-- Serving another client. -/
  | serve (event : XEvent)

abbrev XReply : XRequest → Type
  | .pollForEvent => Option XEvent
  | .getSelectionOwner _ => Window
  | .getProperty .. => PropertyReply
  | _ => Unit

inductive XQuery where
  | request (request : XRequest)
  | now

/-- No reply is a failed request. -/
abbrev XAnswer : XQuery → Type
  | .request r => Option (XReply r)
  | .now => Instant

/-! ## State -/

structure OwnedSelection where
  payload : ClipboardPayload
  acquiredTime : UInt32

structure PendingRead where
  transfer : IncomingTransfer
  preferredTargets : List RawClipboardTarget
  reply : ClipboardReadRawRequest

/-- What callers and observers are told. -/
inductive Output where
  | ownership (result : Except ClipboardActorFailureKind ClipboardOwnershipEvidence)
  | read (request : ClipboardReadRawRequest)
      (result : Except ClipboardActorFailureKind RawClipboardReadResult)
  | ownershipChanged (selection : SelectionName) (revision : UInt64) (owned : Bool)

structure Backend where
  deferredEvents : List XEvent
  owned : PerSelection (Option OwnedSelection)
  revisions : PerSelection UInt64
  knownOwners : PerSelection Window
  incoming : List (Atom × PendingRead)
  lastServerTime : UInt32
  outbox : List Output

namespace Backend

/-- The backend `open` returns. -/
def opened (knownOwners : PerSelection Window) (deferredEvents : List XEvent) (time : UInt32) :
    Backend where
  deferredEvents := deferredEvents
  owned := ⟨none, none⟩
  revisions := ⟨0, 0⟩
  knownOwners := knownOwners
  incoming := []
  lastServerTime := time
  outbox := []

section

variable (s : Backend)

def pendingAt (property : Atom) : Option PendingRead := s.incoming.lookup property

def remove (property : Atom) : Backend :=
  { s with incoming := s.incoming.filter (·.1 ≠ property) }

def insert (property : Atom) (pending : PendingRead) : Backend :=
  { s with incoming := (property, pending) :: s.incoming.filter (·.1 ≠ property) }

def send (output : Output) : Backend := { s with outbox := s.outbox ++ [output] }

def setOwned (selection : SelectionName) (value : Option OwnedSelection) : Backend :=
  { s with owned := s.owned.set selection value }

/-- `handle_set` once the server confirmed the ownership. -/
def acquire (request : ClipboardSetRequest) (owner : Window) (time : UInt32) : Backend :=
  let revision := s.revisions.get request.selection + 1
  { s with
    revisions := s.revisions.set request.selection revision
    knownOwners := s.knownOwners.set request.selection owner
    lastServerTime := time
    owned := s.owned.set request.selection (some ⟨request.payload, time⟩)
    outbox := s.outbox ++ [.ownership (.ok ⟨request.selection, revision, owner, time, true⟩),
      .ownershipChanged request.selection revision true] }

/-- `handle_clear` once the server confirmed that nobody owns the selection. -/
def release (selection : SelectionName) (owner : Window) (time : UInt32) : Backend :=
  let revision := s.revisions.get selection + 1
  { s with
    revisions := s.revisions.set selection revision
    knownOwners := s.knownOwners.set selection xNone
    lastServerTime := time
    owned := s.owned.set selection none
    outbox := s.outbox ++ [.ownership (.ok ⟨selection, revision, owner, time, true⟩),
      .ownershipChanged selection revision false] }

/-- What `shutdown` tells the pending reads. -/
def shutdown (kind : ClipboardActorFailureKind) : Backend :=
  { s with
    incoming := []
    outbox := s.outbox ++ s.incoming.map fun (_, pending) => .read pending.reply (.error kind) }

end

end Backend

inductive ClipboardCommand where
  | set (request : ClipboardSetRequest)
  | clear (selection : SelectionName)
  | read (request : ClipboardReadRawRequest)

/-- What stays the same while the actor runs. -/
structure Host where
  ownerWindow : Window
  atoms : ClipboardAtoms
  xfixesSelectionEvents : Bool
  sha256 : List UInt8 → ClipboardContentDigest

abbrev Act := Talk Backend XQuery XAnswer

def request (r : XRequest) : Act (XReply r) := do
  let reply : Option (XReply r) ← Talk.ask (A := XAnswer) (.request r)
  match reply with
  | some reply => pure reply
  | none => Talk.fail

def now : Act Instant := Talk.ask (A := XAnswer) .now

def send (output : Output) : Act Unit := Talk.update (·.send output)

def maxPendingReads : Nat := privatePropertyCount

def maxDeferredTimeEvents : Nat := 256

def targetPropertyLongs : Nat := maxClipboardTargets + 1

def incomingPropertyLongs : Nat := (maxIncomingDirectBytes + 3) / 4 + 1

def failureFromEvidence (evidence : RawSelectionTransferEvidence) : ClipboardActorFailureKind :=
  match evidence.terminal with
  | .failed .ownerChanged => .ownerChanged
  | .failed .selectionTooLarge => .selectionTooLarge
  | .failed .timeout => .transferTimeout
  | .failed .protocolViolation => .protocolViolation
  | .failed .requestorDestroyed => .requestorDestroyed
  | .failed .cancelled => .actorStopped
  | .completed => .protocolViolation

def completeIncoming (pending : PendingRead) : IncomingAction → Act Unit
  | .completed result => send (.read pending.reply (.ok result))
  | .failed evidence => send (.read pending.reply (.error (failureFromEvidence evidence)))
  | .deleteForNextChunk => send (.read pending.reply (.error .protocolViolation))

def deletePrivateProperty (property : Atom) : Act Unit := request (.deleteProperty property)

/-- A pending read ends with the action found for it. -/
def failRead (property : Atom) (action : IncomingAction) : Act Unit := do
  let s ← Talk.read
  match s.pendingAt property with
  | none => pure ()
  | some pending =>
    Talk.update (·.remove property)
    completeIncoming pending action
    deletePrivateProperty property

def failReads : List (Atom × IncomingAction) → Act Unit
  | [] => pure ()
  | (property, action) :: rest => do
    failRead property action
    failReads rest

namespace Host

variable (x : Host)

def selectionFromAtom (atom : Atom) : Option SelectionName :=
  if atom = x.atoms.clipboard then some .clipboard
  else if atom = x.atoms.primary then some .primary
  else none

/-! ## Server time -/

/-- The server's answer to the time probe. -/
def probeTime : XEvent → Option UInt32
  | .propertyNotify e =>
    if e.window = x.ownerWindow ∧ e.atom = x.atoms.timeProbe ∧ e.state = .newValue then some e.time
    else none
  | _ => none

/-- Events before the probe's are kept for later, in order. -/
def awaitProbe : Nat → Act UInt32
  | 0 => Talk.fail
  | n + 1 => do
    match ← request .pollForEvent with
    | none => Talk.fail
    | some event =>
      match x.probeTime event with
      | some time => pure time
      | none =>
        Talk.update fun s => { s with deferredEvents := s.deferredEvents ++ [event] }
        awaitProbe n

def queryServerTime : Act UInt32 := do
  request .changeTimeProbe
  request .getInputFocus
  x.awaitProbe maxDeferredTimeEvents

def currentOwner (selection : SelectionName) : Act Window :=
  request (.getSelectionOwner (x.atoms.selection selection))

/-! ## Commands -/

def handleSet (r : ClipboardSetRequest) : Act Unit := do
  let time ← x.queryServerTime
  request (.setSelectionOwner x.ownerWindow (x.atoms.selection r.selection) time)
  let owner ← x.currentOwner r.selection
  if owner ≠ x.ownerWindow then send (.ownership (.error .ownershipRace))
  else Talk.update (·.acquire r owner time)

def handleClear (selection : SelectionName) : Act Unit := do
  let current ← x.currentOwner selection
  if current ≠ x.ownerWindow then
    Talk.update (·.setOwned selection none)
    send (.ownership (.error .ownershipRace))
  else
    let time ← x.queryServerTime
    request (.setSelectionOwner xNone (x.atoms.selection selection) time)
    let owner ← x.currentOwner selection
    if owner ≠ xNone then send (.ownership (.error .ownershipRace))
    else Talk.update (·.release selection owner time)

/-- `read_owned`: the evidence describes the representation, the payload is the
whole value. -/
def ownedResult (s : Backend) (r : ClipboardReadRawRequest) :
    Except ClipboardActorFailureKind RawClipboardReadResult :=
  match s.owned.get r.selection with
  | none => .error .ownershipRace
  | some owned =>
    match chooseTarget owned.payload.advertisedTargets r.preferredTargets with
    | none => .error .targetUnsupported
    | some target =>
      match owned.payload.representation target with
      | none => .error .targetUnsupported
      | some bytes => .ok ⟨r.selection, s.revisions.get r.selection, owned.payload,
          ⟨target, .direct, bytes.length, x.sha256 bytes, false, false, .completed⟩⟩

def readOwned (r : ClipboardReadRawRequest) : Act Unit := do
  let s ← Talk.read
  send (.read r (x.ownedResult s r))

def freeProperty (s : Backend) : Option Atom :=
  x.atoms.privateProperties.toList.find? fun property => (s.pendingAt property).isNone

def beginRead (r : ClipboardReadRawRequest) (owner : Window) (property : Atom) : Act Unit := do
  let time ← x.queryServerTime
  deletePrivateProperty property
  request (.convertSelection (x.atoms.selection r.selection) x.atoms.targets property time)
  let instant ← now
  Talk.update fun s => s.insert property
    ⟨.new r.selection owner property (s.revisions.get r.selection) r.allowBinaryFallback instant,
      r.preferredTargets, r⟩

def handleRead (r : ClipboardReadRawRequest) : Act Unit := do
  let owner ← x.currentOwner r.selection
  if owner = xNone then send (.read r (.error .selectionHasNoOwner))
  else if owner = x.ownerWindow then x.readOwned r
  else
    let s ← Talk.read
    if maxPendingReads ≤ s.incoming.length then send (.read r (.error .backendUnavailable))
    else match x.freeProperty s with
      | none => send (.read r (.error .backendUnavailable))
      | some property => x.beginRead r owner property

/-! ## Conversions -/

def expectedTargetAtom (transfer : IncomingTransfer) : Option Atom :=
  match transfer.phase with
  | .awaitingTargets => some x.atoms.targets
  | .awaitingData target => some (x.atoms.target target)
  | .receivingIncr target _ => some (x.atoms.target target)
  | .terminal => none

section

variable (event : SelectionNotifyEvent)

def matchesNotify (pending : PendingRead) : Bool :=
  x.atoms.selection pending.transfer.selection = event.selection &&
    x.expectedTargetAtom pending.transfer = some event.target

/-- The pending read a notification is about. -/
def notifiedProperty (s : Backend) (event : SelectionNotifyEvent) : Option Atom :=
  if event.property ≠ xNone then some event.property
  else s.incoming.findSome? fun (property, pending) =>
    if x.matchesNotify event pending then some property else none

/-- The owner listed its targets. -/
def receiveTargets (pending : PendingRead) : Act Unit := do
  let reply ← request (.getProperty true event.property x.atoms.atom targetPropertyLongs)
  let advertised := ((reply.value32.getD []).filterMap x.atoms.identifyTarget).filter (·.isContent)
  if reply.type ≠ x.atoms.atom ∨ reply.format ≠ 32 ∨ reply.bytesAfter ≠ 0 ∨
      maxClipboardTargets < reply.valueLen.toNat then
    send (.read pending.reply (.error .protocolViolation))
  else match chooseTarget advertised pending.preferredTargets with
    | none => send (.read pending.reply (.error .targetUnsupported))
    | some target =>
      let (selected, transfer) := pending.transfer.selectTarget target
      if !selected then send (.read pending.reply (.error .protocolViolation))
      else
        request (.convertSelection event.selection (x.atoms.target target) event.property event.time)
        Talk.update (·.insert event.property { pending with transfer := transfer })

/-- The owner announced an INCR transfer. -/
def receiveAnnouncement (property : Atom) (pending : PendingRead) (target : RawClipboardTarget)
    (reply : PropertyReply) : Act Unit := do
  let (action, transfer) :=
    if reply.format = 32 ∧ reply.bytesAfter = 0 ∧ reply.valueLen = 1 then
      match reply.value32.bind List.head? with
      | some bytes => pending.transfer.beginIncr x.sha256 target bytes.toNat
      | none => pending.transfer.protocolFailure x.sha256
    else pending.transfer.protocolFailure x.sha256
  match action with
  | .deleteForNextChunk =>
    deletePrivateProperty property
    Talk.update (·.insert property { pending with transfer := transfer })
  | .failed evidence =>
    send (.read pending.reply (.error (failureFromEvidence evidence)))
    deletePrivateProperty property
  | .completed _ => send (.read pending.reply (.error .protocolViolation))

/-- The owner stored the content. -/
def receiveDirect (property : Atom) (pending : PendingRead) (target : RawClipboardTarget)
    (reply : PropertyReply) : Act Unit := do
  let actual := (x.atoms.identifyTarget reply.type).getD .applicationOctetStream
  let (action, _) :=
    if reply.bytesAfter = 0 then
      pending.transfer.finishDirect x.sha256 target actual reply.format reply.value
    else pending.transfer.protocolFailure x.sha256
  deletePrivateProperty property
  completeIncoming pending action

def receiveData (property : Atom) (pending : PendingRead) (target : RawClipboardTarget) : Act Unit := do
  let reply ← request (.getProperty false property anyType incomingPropertyLongs)
  if reply.type = x.atoms.incr then x.receiveAnnouncement property pending target reply
  else x.receiveDirect property pending target reply

def receiveNotify (property : Atom) (pending : PendingRead) : Act Unit := do
  if event.property = xNone ∨ !x.matchesNotify event pending then
    send (.read pending.reply
      (.error (if event.property = xNone then .targetUnsupported else .protocolViolation)))
    deletePrivateProperty property
  else
    let ownerNow ← x.currentOwner pending.transfer.selection
    if ownerNow ≠ pending.transfer.owner then
      completeIncoming pending (pending.transfer.ownerHasChanged x.sha256).1
      deletePrivateProperty property
    else match pending.transfer.phase with
      | .awaitingTargets => x.receiveTargets event pending
      | .awaitingData target => x.receiveData property pending target
      | .receivingIncr _ _ | .terminal =>
        send (.read pending.reply (.error .protocolViolation))
        deletePrivateProperty property

def handleSelectionNotify : Act Unit := do
  if event.requestor ≠ x.ownerWindow then pure ()
  else
    let s ← Talk.read
    match x.notifiedProperty s event with
    | none => pure ()
    | some property =>
      match s.pendingAt property with
      | none => pure ()
      | some pending =>
        Talk.update (·.remove property)
        x.receiveNotify event property pending

end

/-- The next INCR chunk of a pending read. -/
def receiveChunk (property : Atom) (pending : PendingRead) : Act Unit := do
  let owner ← x.currentOwner pending.transfer.selection
  let reply ← request (.getProperty true property anyType incomingPropertyLongs)
  let actual := (x.atoms.identifyTarget reply.type).getD .applicationOctetStream
  if reply.bytesAfter = 0 then
    let instant ← now
    let (action, transfer) :=
      pending.transfer.receiveIncrChunk x.sha256 actual reply.format reply.value owner instant
    match action with
    | .deleteForNextChunk => Talk.update (·.insert property { pending with transfer := transfer })
    | action => completeIncoming pending action
  else completeIncoming pending (pending.transfer.protocolFailure x.sha256).1

def handlePropertyNotify (event : PropertyNotifyEvent) : Act Unit := do
  if event.window = x.ownerWindow ∧ event.state = .newValue then
    if event.atom = x.atoms.timeProbe then Talk.update ({ · with lastServerTime := event.time })
    else
      let s ← Talk.read
      match s.pendingAt event.atom with
      | none => pure ()
      | some pending =>
        match pending.transfer.phase with
        | .receivingIncr _ _ =>
          Talk.update (·.remove event.atom)
          x.receiveChunk event.atom pending
        | _ => pure ()
  else if event.state = .deleted then request (.serve (.propertyNotify event))
  else pure ()

/-! ## Ownership events -/

def noteOwnerChange (s : Backend) (selection : SelectionName) (owner : Window) : Backend :=
  if s.knownOwners.get selection = owner then s
  else
    let revision := s.revisions.get selection + 1
    { s with
      knownOwners := s.knownOwners.set selection owner
      revisions := s.revisions.set selection revision
      outbox := s.outbox ++ [.ownershipChanged selection revision (owner = x.ownerWindow)] }

/-- Any such event drops the payload: its time is not compared with the time
of the acquisition. -/
def lostSelection (s : Backend) (time : UInt32) (atom : Atom) : Backend :=
  let s := { s with lastServerTime := time }
  match x.selectionFromAtom atom with
  | none => s
  | some selection =>
    if (s.owned.get selection).isSome then x.noteOwnerChange (s.setOwned selection none) selection xNone
    else s

def handleSelectionClear (time : UInt32) (atom : Atom) : Act Unit :=
  Talk.update fun s => x.lostSelection s time atom

def readsOfOtherOwners (s : Backend) (selection : SelectionName) (owner : Window) :
    List (Atom × IncomingAction) :=
  s.incoming.filterMap fun (property, pending) =>
    if pending.transfer.selection = selection ∧ pending.transfer.owner ≠ owner then
      some (property, (pending.transfer.ownerHasChanged x.sha256).1)
    else none

/-- The state once another owner is known. -/
def ownerSeen (s : Backend) (selection : SelectionName) (owner : Window) : Backend :=
  x.noteOwnerChange (if owner ≠ x.ownerWindow then s.setOwned selection none else s) selection owner

def handleXfixesSelectionNotify (atom : Atom) (owner : Window) : Act Unit :=
  match x.selectionFromAtom atom with
  | none => pure ()
  | some selection => do
    let s ← Talk.read
    if owner = s.knownOwners.get selection then pure ()
    else
      Talk.update fun s => x.ownerSeen s selection owner
      failReads (x.readsOfOtherOwners s selection owner)

/-! ## The actor's turns -/

def handleEvent : XEvent → Act Unit
  | .selectionRequest => request (.serve .selectionRequest)
  | .selectionNotify event => x.handleSelectionNotify event
  | .selectionClear time atom => x.handleSelectionClear time atom
  | .propertyNotify event => x.handlePropertyNotify event
  | .destroyNotify => pure ()
  | .xfixesSelectionNotify atom owner =>
    if x.xfixesSelectionEvents then x.handleXfixesSelectionNotify atom owner else pure ()
  | .other => pure ()

/-- Deferred events come before those of the connection. -/
def pollEvent : Act Unit := do
  let s ← Talk.read
  match s.deferredEvents with
  | event :: rest =>
    Talk.update ({ · with deferredEvents := rest })
    x.handleEvent event
  | [] =>
    match ← request .pollForEvent with
    | none => pure ()
    | some event => x.handleEvent event

def expireTransfers (instant : Instant) : Act Unit := do
  let s ← Talk.read
  failReads (s.incoming.filterMap fun (property, pending) =>
    (pending.transfer.expire x.sha256 instant).map fun (action, _) => (property, action))

def handleCommand : ClipboardCommand → Act Unit
  | .set r => x.handleSet r
  | .clear selection => x.handleClear selection
  | .read r => x.handleRead r

/-! ## Runs -/

/-- One piece of work of `run_actor`. -/
inductive Turn where
  | poll
  | expire
  | command (command : ClipboardCommand)

/-- `try_read` refuses a request that does not validate. -/
def Turn.admitted : Turn → Bool
  | .command (.read r) => r.validate.toBool
  | _ => true

def turn : Turn → Act Unit
  | .poll => x.pollEvent
  | .expire => do x.expireTransfers (← now)
  | .command command => x.handleCommand command

end Host

/-! ## A small setting -/

/-- The atoms and the window of a small server. -/
def Host.small : Host where
  ownerWindow := 50
  atoms :=
    { clipboard := 100, primary := 101, targets := 102, timestamp := 103, multiple := 104, incr := 105,
      utf8String := 107, textPlainUtf8 := 108, textPlain := 109, string := 110, atom := 111,
      imagePng := 113, applicationOctetStream := 114, timeProbe := 115,
      privateProperties := #v[200, 201, 202, 203, 204, 205, 206, 207] }
  xfixesSelectionEvents := true
  sha256 := fun _ => Vector.replicate 32 0

/-- A value to put on the clipboard. -/
def image : ClipboardPayload := ⟨.binary .imagePng, [1, 2, 3], by decide, by simp, by simp⟩

/-! ## Program rules -/

section Rules

variable {s : Backend} {P : Backend → Prop}

theorem leads_request {r R} (hP : P s) (hR : ∀ rp, R rp s) : ((request r).start s).Leads P R := by
  refine ⟨hP, fun rp => ?_⟩
  cases rp with
  | none => exact hP
  | some rp => exact hR rp

theorem leads_request_bind {r} {β : Type} {f : XReply r → Act β} {S : β → Backend → Prop}
    (hP : P s) (hf : ∀ rp, ((f rp).start s).Leads P S) : ((request r >>= f).start s).Leads P S :=
  Talk.leads_bind (leads_request hP fun _ => rfl) fun a _ hs' => hs' ▸ hf a

/-- Asking for the time only puts events aside. -/
theorem leads_queryServerTime {x : Host}
    (hd : ∀ s event, P s → P { s with deferredEvents := s.deferredEvents ++ [event] }) (h : P s) :
    (x.queryServerTime.start s).Leads P fun _ => P := by
  have ha : ∀ n s, P s → ((x.awaitProbe n).start s).Leads P fun _ => P := by
    intro n
    induction n with
    | zero => exact fun s h => h
    | succ n ih =>
      intro s h
      refine leads_request_bind h fun r => ?_
      cases r with
      | none => exact h
      | some event =>
        simp only
        split
        · exact h
        · exact ih _ (hd s event h)
  exact leads_request_bind h fun _ => leads_request_bind h fun _ => ha _ s h

end Rules

end Xenoteer.Clipboard
