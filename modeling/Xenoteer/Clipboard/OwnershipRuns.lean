/-
The backend and the X server together, in every interleaving.

The server has one owner for each selection. Any client may take or drop a
selection at any moment; the server queues the notices of each change for our
window, in its order. The actor runs its turns in any order; wherever one waits
for an answer, the world may go on, and the server answers from the state it has
then. `settled_ownership_iff` compares what the backend holds and knows with the
server once every queued event was handled.
-/
import Xenoteer.Clipboard.OwnershipMoves
import Xenoteer.Lib.Run

namespace Xenoteer.Clipboard

open Lib

/-! ## The system -/

structure Desk where
  owners : PerSelection Window
  /-- The events on the wire to our connection. -/
  queue : List XEvent
  actor : Dialogue Backend XQuery XAnswer Unit
  running : Option ClipboardCommand
  /-- The last set of each selection whose caller was told that it succeeded. -/
  lastSet : PerSelection (Option LastSet)

/-- What is left open about an answer of the server. -/
structure Choice where
  time : UInt32
  /-- The server ignores a change whose time is older than the last one's. -/
  effective : Bool
  other : (q : XQuery) → XAnswer q

inductive DeskOp where
  /-- Another client takes the selection, or drops it. -/
  | change (selection : SelectionName) (owner : Window) (time : UInt32)
  /-- An event that is not about ownership. -/
  | deliver (event : XEvent)
  | begin (turn : Host.Turn)
  | answer (choice : Choice)

namespace Desk

/-- Every event that was queued and not handled, in order. -/
def pendingEvents (d : Desk) : List XEvent := d.actor.state.deferredEvents ++ d.queue

def notices (d : Desk) (x : Host) (selection : SelectionName) : List Notice :=
  d.pendingEvents.filterMap (x.noticeOf selection)

def selectionState (d : Desk) (x : Host) (selection : SelectionName) : SelectionState :=
  ⟨d.owners.get selection, d.notices x selection, d.actor.state.view selection, d.lastSet.get selection⟩

/-- The backend holds a payload exactly when the server's owner is our window,
and the payload is that of the last successful set. -/
def Agrees (d : Desk) (x : Host) (selection : SelectionName) : Prop :=
  ((d.actor.state.owned.get selection).isSome = true ↔ d.owners.get selection = x.ownerWindow) ∧
    ∀ owned, d.actor.state.owned.get selection = some owned →
      ∃ last, d.lastSet.get selection = some last ∧ last.payload = owned.payload

/-- When the value of the current owner was set, no event announcing a loss of
the selection was queued. -/
def NoLossQueued (d : Desk) (x : Host) (selection : SelectionName) : Prop :=
  d.owners.get selection = x.ownerWindow →
    ∀ last, d.lastSet.get selection = some last → last.lossQueued = false

end Desk

namespace Host

variable (x : Host)

def changeEvents (selection : SelectionName) (before after : Window) (time : UInt32) : List XEvent :=
  (if before = x.ownerWindow ∧ after ≠ x.ownerWindow then
    [.selectionClear time (x.atoms.selection selection)] else []) ++
    [.xfixesSelectionNotify (x.atoms.selection selection) after]

def changeOwner (d : Desk) (selection : SelectionName) (owner : Window) (time : UInt32) : Desk :=
  { d with
    owners := d.owners.set selection owner
    queue := d.queue ++ x.changeEvents selection (d.owners.get selection) owner time }

def serverReply (d : Desk) (choice : Choice) : (q : XQuery) → XAnswer q
  | .request .pollForEvent => some d.queue.head?
  | .request (.getSelectionOwner atom) =>
    some ((x.selectionFromAtom atom).elim xNone d.owners.get)
  | .request (.setSelectionOwner ..) => some ()
  | .request .changeTimeProbe => some ()
  | .request .getInputFocus => some ()
  | q => choice.other q

def serverEffect (d : Desk) (choice : Choice) : XQuery → Desk
  | .request .pollForEvent => { d with queue := d.queue.tail }
  | .request .changeTimeProbe =>
    { d with queue := d.queue ++
        [.propertyNotify ⟨x.ownerWindow, x.atoms.timeProbe, choice.time, .newValue⟩] }
  | .request (.setSelectionOwner owner atom _) =>
    match x.selectionFromAtom atom with
    | some selection => if choice.effective then x.changeOwner d selection owner choice.time else d
    | none => d
  | _ => d

/-- The set whose caller is told of its success in this step. -/
def setNow (d : Desk) (before after : Backend) : Option ClipboardSetRequest :=
  match d.running with
  | some (.set r) => if !before.succeeded && after.succeeded then some r else none
  | _ => none

def recordSet (d : Desk) (set : Option ClipboardSetRequest) : PerSelection (Option LastSet) :=
  match set with
  | some r => d.lastSet.set r.selection
      (some ⟨r.payload, (d.notices x r.selection).any (Notice.isLoss x.ownerWindow)⟩)
  | none => d.lastSet

def deskStep (d : Desk) : DeskOp → Desk
  | .change selection owner time =>
    if owner = x.ownerWindow then d else x.changeOwner d selection owner time
  | .deliver event =>
    if x.noticeOf .clipboard event = none ∧ x.noticeOf .primary event = none then
      { d with queue := d.queue ++ [event] }
    else d
  | .begin turn =>
    match d.actor with
    | .done s _ =>
      { d with actor := (x.turn turn).start { s with outbox := [] }, running := turn.running }
    | _ => d
  | .answer choice =>
    match d.actor with
    | .ask s q next =>
      let actor := next (x.serverReply d choice q)
      { x.serverEffect d choice q with
        actor := actor, lastSet := x.recordSet d (setNow d s actor.state) }
    | _ => d

/-- The system after `open`: our window is new, and the notices of the changes
that `open` did not see are queued. -/
structure Opened (d : Desk) : Prop where
  actor : ∃ known deferred time, d.actor = .done (Backend.opened known deferred time) ()
  running : d.running = none
  lastSet : ∀ selection, d.lastSet.get selection = none
  notOurs : ∀ selection, d.owners.get selection ≠ x.ownerWindow
  notices : ∀ selection, (d.notices x selection = [] ∧
      d.actor.state.knownOwners.get selection = d.owners.get selection) ∨
    (d.notices x selection).getLast? = some (.owner (d.owners.get selection))

/-- The selections have different atoms, our window is a window, and the server
has XFixes. -/
structure Wired : Prop where
  atoms : x.atoms.clipboard ≠ x.atoms.primary
  window : x.ownerWindow ≠ xNone
  xfixes : x.xfixesSelectionEvents = true

end Host

/-! ## One step -/

section Step

variable {x : Host} {d : Desk}

theorem Host.Wired.selectionFromAtom (hx : x.Wired) (selection) :
    x.selectionFromAtom (x.atoms.selection selection) = some selection := by
  cases selection with
  | clipboard => simp [Host.selectionFromAtom, ClipboardAtoms.selection]
  | primary => simp [Host.selectionFromAtom, ClipboardAtoms.selection, hx.atoms.symm]

/-- A set of the selection is going on. -/
def Desk.Setting (d : Desk) (selection : SelectionName) : Prop :=
  ∃ r, d.running = some (.set r) ∧ r.selection = selection ∧ d.actor.isDone = false

/-- What the actor may still do, and what the backend knows of each selection. -/
structure Desk.Sound (x : Host) (d : Desk) : Prop where
  follows : d.actor.Follows (Move x d.running)
  fresh : ∀ r, d.running = some (.set r) → d.actor.Leads (fun s => s.succeeded = false) fun _ _ => True
  concludes : ∀ r, d.running = some (.set r) → d.actor.Concludes (SetEnds x r)
  tracked : ∀ selection, (d.selectionState x selection).Tracked x.ownerWindow (d.Setting selection)

theorem changeEvents_notices (hx : x.Wired) (selection) (b a : Window)
    (t : UInt32) : (x.changeEvents selection b a t).filterMap (x.noticeOf selection) =
      SelectionState.noticesOf x.ownerWindow b a := by
  have ha := hx.selectionFromAtom selection
  unfold Host.changeEvents SelectionState.noticesOf
  split <;> simp [Host.noticeOf, ha]

variable {selection : SelectionName}

theorem changeEvents_notices_other (hx : x.Wired) {o} (h : o ≠ selection)
    (b a : Window) (t : UInt32) : (x.changeEvents selection b a t).filterMap (x.noticeOf o) = [] := by
  have ha := hx.selectionFromAtom selection
  unfold Host.changeEvents
  split <;> simp [Host.noticeOf, ha, Ne.symm h]

theorem selectionState_changeOwner (hx : x.Wired) (d : Desk) (selection) (o : Window)
    (t : UInt32) : (x.changeOwner d selection o t).selectionState x selection =
      (d.selectionState x selection).change x.ownerWindow o := by
  simp [Desk.selectionState, Desk.notices, Desk.pendingEvents, Host.changeOwner, SelectionState.change,
    List.filterMap_append, changeEvents_notices hx]

theorem selectionState_changeOwner_other (hx : x.Wired) (d : Desk) {o}
    (h : o ≠ selection) (ow : Window) (t : UInt32) :
    (x.changeOwner d selection ow t).selectionState x o = d.selectionState x o := by
  simp [Desk.selectionState, Desk.notices, Desk.pendingEvents, Host.changeOwner,
    List.filterMap_append, changeEvents_notices_other hx h, PerSelection.get_set_of_ne h]

theorem setNow_of_succeeded_eq {b a} (h : a.succeeded = b.succeeded) : Host.setNow d b a = none := by
  unfold Host.setNow
  split
  · simp [h]
  · rfl

theorem setNow_of_running_ne {before after} (h : ∀ r, d.running ≠ some (.set r)) :
    Host.setNow d before after = none := by
  unfold Host.setNow
  split
  · rename_i r hr
    exact absurd hr (h r)
  · rfl

abbrev Desk.Tracked (d : Desk) (x : Host) (selection : SelectionName) (P : Prop) : Prop :=
  (d.selectionState x selection).Tracked x.ownerWindow P

/-- The first pending event is handled. -/
theorem tracked_observed {d' : Desk} (e : XEvent) (rest)
    {P : Prop} (hp : d.pendingEvents = e :: rest) (hp' : d'.pendingEvents = rest)
    (ho : d'.owners = d.owners) (hl : d'.lastSet = d.lastSet)
    (hv : d'.actor.state.view selection = (x.noticeOf selection e).elim (d.actor.state.view selection)
      ((d.actor.state.view selection).observe x.ownerWindow))
    (h : d.Tracked x selection P) : d'.Tracked x selection P := by
  cases hn : x.noticeOf selection e with
  | none =>
    rw [hn, Option.elim_none] at hv
    have heq : d'.selectionState x selection = d.selectionState x selection := by
      simp [Desk.selectionState, Desk.notices, hp, hp', ho, hl, hv, hn]
    rw [Desk.Tracked, heq]
    exact h
  | some n =>
    rw [hn, Option.elim_some] at hv
    have hno : (d.selectionState x selection).notices = n :: rest.filterMap (x.noticeOf selection) := by
      simp [Desk.selectionState, Desk.notices, hp, hn]
    have heq : d'.selectionState x selection = (d.selectionState x selection).observe x.ownerWindow n
        (rest.filterMap (x.noticeOf selection)) := by
      simp [Desk.selectionState, Desk.notices, hp', ho, hl, hv, SelectionState.observe]
    rw [Desk.Tracked, heq]
    exact h.observe hno

def Host.answered (x : Host) (d : Desk) (choice : Choice) (s : Backend) (q : XQuery)
    (actor : Dialogue Backend XQuery XAnswer Unit) : Desk :=
  { x.serverEffect d choice q with
    actor := actor, lastSet := x.recordSet d (Host.setNow d s actor.state) }

section Answer

variable {s : Backend} {q : XQuery} {next : XAnswer q → Dialogue Backend XQuery XAnswer Unit}
variable {ac : Dialogue Backend XQuery XAnswer Unit} {c : Choice} {selection : SelectionName}
variable {P : Prop} (h : d.Tracked x selection P) (hd : d.actor.state = s)

include h hd

/-- An answer that changes nothing about ownership. -/
theorem tracked_of_same (hs : Same s ac.state)
    (ho : (x.serverEffect d c q).owners = d.owners)
    (hq : (x.serverEffect d c q).queue.filterMap (x.noticeOf selection) =
      d.queue.filterMap (x.noticeOf selection)) :
    (x.answered d c s q ac).Tracked x selection P := by
  have heq : (x.answered d c s q ac).selectionState x selection = d.selectionState x selection := by
    simp only [Desk.selectionState, Desk.notices, Desk.pendingEvents, Host.answered, Host.recordSet,
      setNow_of_succeeded_eq hs.succeeded, ho, hs.view, hs.deferred, List.filterMap_append, hq, hd]
  rw [Desk.Tracked, heq]
  exact h

/-- The server takes the next event off the wire. -/
theorem tracked_poll {e rest} (hq : d.queue = e :: rest)
    (hm : Move x d.running s (.request .pollForEvent) (some (some e)) ac.state) :
    (x.answered d c s (.request .pollForEvent) ac).Tracked x selection P := by
  rcases hm with hm | ⟨hp, hm⟩ | ⟨hn, hm⟩
  · have heq : (x.answered d c s (.request .pollForEvent) ac).selectionState x selection =
        d.selectionState x selection := by
      simp [Desk.selectionState, Desk.notices, Desk.pendingEvents, Host.answered, Host.recordSet,
        Host.serverEffect, setNow_of_succeeded_eq hm.succeeded, hm.view, hm.deferred, hq, hd]
    rw [Desk.Tracked, heq]
    exact h
  · refine tracked_of_same h hd hm rfl ?_
    have hno : x.noticeOf selection e = none := by
      cases e <;> first | rfl | simp [Host.probeTime] at hp
    simp [Host.serverEffect, hq, hno]
  · refine tracked_observed (d := d) e rest ?_ ?_ rfl ?_ ?_ h
    · rw [Desk.pendingEvents, hd, hn, hq, List.nil_append]
    · simp [Desk.pendingEvents, Host.answered, Host.serverEffect, hm.deferred, hn, hq]
    · simp [Host.answered, Host.recordSet, setNow_of_succeeded_eq hm.succeeded]
    · rw [hd]
      exact hm.view selection

/-- The caller of a set is told: its selection is tracked from there on. -/
theorem tracked_acquired (hx : x.Wired) {a : Atom} {o}
    (ho : o = (x.selectionFromAtom a).elim xNone d.owners.get) {r}
    (hs : Host.setNow d s ac.state = some r) (hat : a = x.atoms.selection r.selection)
    (hus : o = x.ownerWindow) (hv : Viewed s r.selection ⟨some r.payload, x.ownerWindow⟩ ac.state)
    (hne : selection = r.selection) :
    (x.answered d c s (.request (.getSelectionOwner a)) ac).Tracked x selection False := by
  have hours : d.owners.get selection = x.ownerWindow := by
    rw [← hus, ho, hat, hx.selectionFromAtom, hne, Option.elim_some]
  have heq : (x.answered d c s (.request (.getSelectionOwner a)) ac).selectionState x selection =
      (d.selectionState x selection).acquire x.ownerWindow r.payload := by
    simp [Desk.selectionState, Desk.notices, Desk.pendingEvents, Host.answered, Host.serverEffect,
      Host.recordSet, hs, hne, hv.view, hv.deferred, hd, SelectionState.acquire]
  rw [Desk.Tracked, heq]
  exact h.acquire hours r.payload

/-- The server tells who owns a selection. -/
theorem tracked_owner (hx : x.Wired) {a : Atom} {o}
    (ho : o = (x.selectionFromAtom a).elim xNone d.owners.get)
    (hf : ∀ r, d.running = some (.set r) → s.succeeded = false)
    (hm : OwnerAnswered x d.running s a o ac.state) :
    (x.answered d c s (.request (.getSelectionOwner a)) ac).Tracked x selection P := by
  -- an answer about the other selection
  have hot : ∀ {of : SelectionName} {v : View}, selection ≠ of → Viewed s of v ac.state →
      (x.recordSet d (Host.setNow d s ac.state)).get selection = d.lastSet.get selection →
      (x.answered d c s (.request (.getSelectionOwner a)) ac).Tracked x selection P := by
    intro of v hne hv hl
    simpa [Desk.Tracked, Desk.selectionState, Desk.notices, Desk.pendingEvents, Host.answered, Host.serverEffect, hl,
      hv.other selection hne, hv.deferred, hd] using h
  -- a clear was answered: the view of its selection changes
  have hcl : ∀ {of : SelectionName} {v : View}, d.running = some (.clear of) → a = x.atoms.selection of →
      Viewed s of v ac.state → (of = selection → o = d.owners.get selection →
        SelectionState.Tracked x.ownerWindow P { d.selectionState x selection with view := v }) →
      (x.answered d c s (.request (.getSelectionOwner a)) ac).Tracked x selection P := by
    intro of v hr hat hv ht
    have hse : Host.setNow d s ac.state = none := setNow_of_running_ne (by simp [hr])
    by_cases hne : selection = of
    · have heq : (x.answered d c s (.request (.getSelectionOwner a)) ac).selectionState x selection =
          { d.selectionState x selection with view := v } := by
        simp [Desk.selectionState, Desk.notices, Desk.pendingEvents, Host.answered, Host.serverEffect,
          Host.recordSet, hse, hne, hv.view, hv.deferred, hd]
      rw [Desk.Tracked, heq]
      exact ht hne.symm (by rw [ho, hat, hx.selectionFromAtom, hne, Option.elim_some])
    · exact hot hne hv (by rw [hse]; rfl)
  cases hm with
  | same hs => exact tracked_of_same h hd hs rfl rfl
  | acquired r hr hat hus hv hsu =>
    have hse : Host.setNow d s ac.state = some r := by
      simp [Host.setNow, hr, hf r hr, hsu]
    by_cases hne : selection = r.selection
    · exact (tracked_acquired h hd hx ho hse hat hus hv hne).mono False.elim
    · exact hot hne hv (by rw [hse]; exact PerSelection.get_set_of_ne hne)
  | released of hr hat hno hv => exact hcl hr hat hv fun _ he => h.release hx.window (he.symm.trans hno)
  | forgotten of hr hat hn hv =>
    refine hcl hr hat hv ?_
    rintro rfl he
    subst hd
    exact h.forget (ne_of_eq_of_ne he.symm hn)

/-- The server carries out a change that the backend asked for. -/
theorem tracked_set (hx : x.Wired) {atom o time}
    (hs : Same s ac.state) (hse : o = x.ownerWindow →
      ∃ r, d.running = some (.set r) ∧ atom = x.atoms.selection r.selection)
    (hst : ∀ r, d.running = some (.set r) → r.selection = selection → P) :
    (x.answered d c s (.request (.setSelectionOwner o atom time)) ac).Tracked x selection P := by
  have hn : x.serverEffect d c (.request (.setSelectionOwner o atom time)) = d →
      (x.answered d c s (.request (.setSelectionOwner o atom time)) ac).Tracked x selection P :=
    fun he => tracked_of_same h hd hs (by rw [he]) (by rw [he])
  cases ha : x.selectionFromAtom atom with
  | none => exact hn (by simp [Host.serverEffect, ha])
  | some of =>
    cases hef : c.effective with
    | false => exact hn (by simp [Host.serverEffect, ha, hef])
    | true =>
      have heq : (x.answered d c s (.request (.setSelectionOwner o atom time)) ac).selectionState x
          selection = (x.changeOwner d of o c.time).selectionState x selection := by
        simp [Desk.selectionState, Desk.notices, Desk.pendingEvents, Host.answered, Host.serverEffect,
          Host.recordSet, setNow_of_succeeded_eq hs.succeeded, ha, hef, hs.view, hs.deferred,
          hd, Host.changeOwner]
      rw [Desk.Tracked, heq]
      by_cases hne : selection = of
      · rw [hne, selectionState_changeOwner hx, ← hne]
        by_cases hus : o = x.ownerWindow
        · obtain ⟨r, hru, hr⟩ := hse hus
          rw [hr, hx.selectionFromAtom, Option.some.injEq] at ha
          have hP : P := hst r hru (ha.trans hne.symm)
          rw [hus]
          exact h.take.mono fun _ => hP
        · exact h.change hus
      · rw [selectionState_changeOwner_other hx d hne]
        exact h

/-- Whatever is answered. -/
theorem tracked_answer (hx : x.Wired)
    (hf : ∀ r, d.running = some (.set r) → s.succeeded = false)
    (hm : Move x d.running s q (x.serverReply d c q) ac.state)
    (hse : ∀ r, d.running = some (.set r) → r.selection = selection → P) :
    (x.answered d c s q ac).Tracked x selection P := by
  have hqu : ∀ {r : XRequest}, Same s ac.state → x.serverEffect d c (.request r) = d →
      (x.answered d c s (.request r) ac).Tracked x selection P :=
    fun hs he => tracked_of_same h hd hs (by rw [he]) (by rw [he])
  cases q with
  | now => exact tracked_of_same h hd hm rfl rfl
  | request r =>
    cases r with
    | pollForEvent =>
      change Move x d.running s (.request .pollForEvent) (some d.queue.head?) ac.state at hm
      cases hq : d.queue with
      | nil =>
        rw [hq] at hm
        exact tracked_of_same h hd hm rfl (by simp [Host.serverEffect, hq])
      | cons e rest =>
        rw [hq] at hm
        exact tracked_poll h hd hq hm
    | getSelectionOwner a => exact tracked_owner h hd hx rfl hf hm
    | setSelectionOwner o a t => exact tracked_set h hd hx hm.1 hm.2 hse
    | changeTimeProbe =>
      exact tracked_of_same h hd hm rfl (by simp [Host.serverEffect, Host.noticeOf])
    | getInputFocus | convertSelection _ _ _ _ | getProperty _ _ _ _ | deleteProperty _ | serve _ =>
      exact hqu hm rfl

/-- A set that returns leaves its selection tracked. -/
theorem tracked_setEnds (hx : x.Wired) {r}
    (hr : d.running = some (.set r)) (hse : r.selection = selection)
    (hf : s.succeeded = false) (hm : Move x d.running s q (x.serverReply d c q) ac.state)
    (he : SetEnds x r q (x.serverReply d c q) ac.state) :
    (x.answered d c s q ac).Tracked x selection False := by
  have haf : (x.answered d c s q ac).Tracked x selection True :=
    tracked_answer (h.mono fun _ => trivial) hd hx (fun _ _ => hf) hm fun _ _ _ => trivial
  cases q with
  | now => exact he.elim
  | request rq =>
    cases rq with
    | getSelectionOwner a =>
      obtain ⟨ha, ht⟩ := he
      have ho : (x.selectionFromAtom a).elim xNone d.owners.get = d.owners.get selection := by
        rw [ha, hx.selectionFromAtom, Option.elim_some, hse]
      by_cases hus : d.owners.get selection = x.ownerWindow
      · have hsu := ht (ho.trans hus)
        cases hm with
        | same hs => rw [hs.succeeded, hf] at hsu; cases hsu
        | acquired r' hr' ha' hus' hv _ =>
          rw [hr] at hr'
          cases hr'
          have hst : Host.setNow d s ac.state = some r := by
            simp [Host.setNow, hr, hf, hsu]
          exact tracked_acquired h hd hx rfl hst ha' hus' hv hse.symm
        | released _ hr' | forgotten _ hr' => rw [hr] at hr'; cases hr'
      · exact haf.of_owner_ne hus
    | _ => exact he.elim

end Answer

theorem running_serverEffect (c : Choice) (q : XQuery) : (x.serverEffect d c q).running = d.running := by
  unfold Host.serverEffect
  split
  · rfl
  · rfl
  · split
    · split <;> rfl
    · rfl
  · rfl

theorem sound_answer (hx : x.Wired) (h : d.Sound x) {s q next} (ha : d.actor = .ask s q next)
    {c} : (x.answered d c s q (next (x.serverReply d c q))).Sound x := by
  have hfo := h.follows
  have hf := h.fresh
  have hc := h.concludes
  rw [ha] at hfo hf hc
  obtain ⟨hm, hne⟩ := hfo (x.serverReply d c q)
  have hru : (x.answered d c s q (next (x.serverReply d c q))).running = d.running :=
    running_serverEffect c q
  refine ⟨?_, ?_, ?_, fun selection => ?_⟩
  · rw [hru]
    exact hne
  · rw [hru]
    exact fun r hr => (hf r hr).2 _
  · rw [hru]
    exact fun r hr => (hc r hr _).2
  have ht := h.tracked selection
  have hst : d.actor.state = s := by rw [ha]; rfl
  have hn : d.actor.isDone = false := by rw [ha]; rfl
  have hsu : ∀ r, d.running = some (.set r) → s.succeeded = false := fun r hr => (hf r hr).1
  cases hd : (next (x.serverReply d c q)).isDone with
  | false =>
    refine (tracked_answer ht hst hx hsu hm ?_).mono ?_
    · exact fun r hr hs => ⟨r, hr, hs, hn⟩
    · intro ⟨r, hr, hs, _⟩
      exact ⟨r, hru.trans hr, hs, hd⟩
  | true =>
    by_cases hse : d.Setting selection
    · obtain ⟨r, hr, hs, _⟩ := hse
      have he := (hc r hr (x.serverReply d c q)).1 hd
      exact (tracked_setEnds ht hst hx hr hs (hsu r hr) hm he).mono False.elim
    · refine (tracked_answer (ht.mono hse) hst hx hsu hm ?_).mono False.elim
      exact fun r hr hs => hse ⟨r, hr, hs, hn⟩

theorem sound_begin (hx : x.Wired) (h : d.Sound x) {s} {u : Unit} (ha : d.actor = .done s u)
    {t} : Desk.Sound x { d with
      actor := (x.turn t).start { s with outbox := [] }, running := t.running } := by
  obtain ⟨hb, hf⟩ := begins_turn hx.window hx.xfixes t
  refine ⟨hf, fun r hr => ?_, fun r hr => ?_, fun selection => ?_⟩
  · cases t <;> simp only [Host.Turn.running, reduceCtorEq, Option.some.injEq] at hr
    rw [hr]
    exact fresh_handleSet r rfl
  · cases t <;> simp only [Host.Turn.running, reduceCtorEq, Option.some.injEq] at hr
    rw [hr]
    exact (concludes_handleSet r).2
  have hn : ¬ d.Setting selection := by
    intro ⟨r, _, _, hd⟩
    rw [ha] at hd
    cases hd
  have ht : (d.selectionState x selection).Tracked x.ownerWindow False := (h.tracked selection).mono hn
  have hs : d.actor.state = s := by rw [ha]; rfl
  refine SelectionState.Tracked.mono ?_ False.elim
  rcases hb with hsa | ⟨e, rest, hde, ho⟩
  · have heq : Desk.selectionState { d with
        actor := (x.turn t).start { s with outbox := [] }, running := t.running } x selection =
        d.selectionState x selection := by
      simp only [Desk.selectionState, Desk.notices, Desk.pendingEvents, hsa.view, hsa.deferred, ha]
      rfl
    rw [heq]
    exact ht
  · refine tracked_observed (d := d) e (rest ++ d.queue) ?_ ?_ rfl rfl ?_ ht
    · rw [Desk.pendingEvents, hs, hde, List.cons_append]
    · rw [Desk.pendingEvents, ho.deferred]
    · rw [hs]
      exact ho.view selection

theorem sound_deskStep (hx : x.Wired) (h : d.Sound x) {op} : (x.deskStep d op).Sound x := by
  cases op with
  | change selection ow tm =>
    simp only [Host.deskStep]
    split
    · exact h
    rename_i how
    refine ⟨h.follows, h.fresh, h.concludes, fun o => ?_⟩
    by_cases ho : o = selection
    · rw [ho, selectionState_changeOwner hx]
      exact (h.tracked selection).change how
    · rw [selectionState_changeOwner_other hx d ho]
      exact h.tracked o
  | deliver e =>
    simp only [Host.deskStep]
    split
    · rename_i hn
      refine ⟨h.follows, h.fresh, h.concludes, fun selection => ?_⟩
      have hno : x.noticeOf selection e = none := by
        cases selection with
        | clipboard => exact hn.1
        | primary => exact hn.2
      have heq : Desk.selectionState { d with queue := d.queue ++ [e] } x selection =
          d.selectionState x selection := by
        simp [Desk.selectionState, Desk.notices, Desk.pendingEvents, hno]
      rw [heq]
      exact h.tracked selection
    · exact h
  | begin t =>
    simp only [Host.deskStep]
    split
    · rename_i s u ha
      exact sound_begin hx h ha
    · exact h
  | answer c =>
    simp only [Host.deskStep]
    split
    · rename_i s q next ha
      exact sound_answer hx h ha
    · exact h

theorem sound_opened (h : x.Opened d) : d.Sound x := by
  obtain ⟨k, df, t, ha⟩ := h.actor
  refine ⟨by rw [ha]; trivial, ?_, ?_, fun selection => ?_⟩
  · rw [h.running]
    exact nofun
  · rw [h.running]
    exact nofun
  have hh : (d.selectionState x selection).view.held = none := by
    simp only [Desk.selectionState, ha]
    cases selection <;> rfl
  exact {
    known := h.notices selection
    held := fun hs => by simp [hh] at hs
    payload := fun p hs => by simp [hh] at hs
    clean := fun _ ho => absurd ho (h.notOurs selection)
    stale := fun _ ho => absurd ho (h.notOurs selection)
    owned := fun _ ho => absurd ho (h.notOurs selection) }

end Step

/-! ## Whole runs -/

def Host.desk (x : Host) (d : Desk) (ops : List DeskOp) : Desk := ops.foldl x.deskStep d

theorem sound_desk {x : Host} (hx : x.Wired) {d : Desk} (h : d.Sound x) (ops) : (x.desk d ops).Sound x :=
  List.foldlRecOn ops x.deskStep h fun _ h _ _ => sound_deskStep hx h

/-- Whatever the interleaving, once the actor is idle and every queued event was
handled, the backend knows the server's owner; and it holds a payload exactly
when it owns the selection, the one of the last successful set, if and only if
no loss was queued when that set succeeded. -/
theorem settled_ownership_iff (x : Host) (hx : x.Wired) (d₀ : Desk) (h₀ : x.Opened d₀) (ops : List DeskOp)
    (hidle : (x.desk d₀ ops).actor.isDone = true) (hhandled : (x.desk d₀ ops).pendingEvents = [])
    (selection : SelectionName) :
    (x.desk d₀ ops).actor.state.knownOwners.get selection = (x.desk d₀ ops).owners.get selection ∧
      ((x.desk d₀ ops).Agrees x selection ↔ (x.desk d₀ ops).NoLossQueued x selection) := by
  have hs := sound_desk hx (sound_opened h₀) ops
  generalize x.desk d₀ ops = d at hidle hhandled hs ⊢
  have hno : ¬ d.Setting selection := by
    intro ⟨r, _, _, hd⟩
    rw [hidle] at hd
    cases hd
  have ht : (d.selectionState x selection).Tracked x.ownerWindow False := (hs.tracked selection).mono hno
  have hn : (d.selectionState x selection).notices = [] := by
    simp [Desk.selectionState, Desk.notices, hhandled]
  refine ⟨ht.known_eq hn, ?_⟩
  have ha : d.Agrees x selection ↔ (d.selectionState x selection).Agrees x.ownerWindow := by
    simp [Desk.Agrees, SelectionState.Agrees, Desk.selectionState, Backend.view]
  rw [ha]
  exact SelectionState.settled_iff ht hn

/-- Nobody owns a selection and no event is queued. -/
def Desk.small : Desk where
  owners := ⟨xNone, xNone⟩
  queue := []
  actor := .done (Backend.opened ⟨xNone, xNone⟩ [] 0) ()
  running := none
  lastSet := ⟨none, none⟩

/-- The server's time is 9, and it carries out every change. -/
def Choice.plain : Choice where
  time := 9
  effective := true
  other
    | .now => (0 : Nat)
    | .request _ => none

theorem small_wired : Host.small.Wired := ⟨by decide, by decide, rfl⟩

theorem small_opened : Host.small.Opened Desk.small where
  actor := ⟨_, _, _, rfl⟩
  running := rfl
  lastSet := fun selection => by cases selection <;> rfl
  notOurs := fun selection => by cases selection <;> decide
  notices := fun selection => .inl (by cases selection <;> exact ⟨rfl, rfl⟩)

/-- A set of the clipboard while `n` events are on the wire, to its end. -/
def setImageOps (n : Nat) : List DeskOp :=
  .begin (.command (.set ⟨.clipboard, image⟩)) :: List.replicate (n + 5) (.answer Choice.plain)

def pollOps : List DeskOp := [.begin .poll, .answer Choice.plain]

theorem undisturbed_set_agrees :
    (Host.small.desk Desk.small (setImageOps 0 ++ pollOps)).Agrees Host.small .clipboard :=
  ((settled_ownership_iff Host.small small_wired Desk.small small_opened (setImageOps 0 ++ pollOps)
    rfl rfl .clipboard).2).2 fun _ l hl => by cases hl; rfl

/-- The actor holds an image and has handled every event. Another client takes
the clipboard; before the notices are handled, a new set succeeds. They are
handled after it: the server's owner is our window, and the payload is gone. -/
theorem stale_loss_drops_payload :
    let d := Host.small.desk Desk.small (setImageOps 0 ++ pollOps ++ [.change .clipboard 7 9] ++
      setImageOps 2 ++ [.begin .poll, .begin .poll] ++ pollOps)
    d.actor.isDone = true ∧ d.pendingEvents = [] ∧ d.owners.get .clipboard = Host.small.ownerWindow ∧
      d.actor.state.knownOwners.get .clipboard = Host.small.ownerWindow ∧
      d.lastSet.get .clipboard = some ⟨image, true⟩ ∧ d.actor.state.owned.get .clipboard = none ∧
      ¬ d.Agrees Host.small .clipboard := by
  refine ⟨rfl, rfl, rfl, rfl, rfl, rfl, fun ha => ?_⟩
  exact absurd (ha.1.2 rfl) (by exact Bool.false_ne_true)

end Xenoteer.Clipboard
