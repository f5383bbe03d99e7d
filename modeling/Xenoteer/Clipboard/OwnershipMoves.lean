/-
What the backend's programs do to the ownership of the two selections: which
moves an answer of the server can cause (`Move`), and that every turn of the
actor makes no others.
-/
import Xenoteer.Clipboard.Ownership

namespace Xenoteer.Clipboard

open Lib

/-! ## The ownership part of the backend -/

def Backend.view (s : Backend) (selection : SelectionName) : View :=
  ⟨(s.owned.get selection).map (·.payload), s.knownOwners.get selection⟩

/-- The caller of a set or clear was told that it succeeded. -/
def Output.isSuccess : Output → Bool
  | .ownership (.ok _) => true
  | _ => false

def Backend.succeeded (s : Backend) : Bool := s.outbox.any Output.isSuccess

def Host.Turn.running : Host.Turn → Option ClipboardCommand
  | .command c => some c
  | _ => none

/-- What an event says about a selection. -/
def Host.noticeOf (x : Host) (selection : SelectionName) : XEvent → Option Notice
  | .selectionClear _ atom => if x.selectionFromAtom atom = some selection then some .lost else none
  | .xfixesSelectionNotify atom owner =>
    if x.selectionFromAtom atom = some selection then some (.owner owner) else none
  | _ => none

/-- Nothing about ownership changed. -/
structure Same (s s' : Backend) : Prop where
  view : ∀ selection, s'.view selection = s.view selection
  deferred : s'.deferredEvents = s.deferredEvents
  succeeded : s'.succeeded = s.succeeded

theorem Same.refl (s : Backend) : Same s s := ⟨fun _ => rfl, rfl, rfl⟩

theorem Same.trans {s s' s''} (h : Same s s') (h' : Same s' s'') : Same s s'' :=
  ⟨fun sl => (h'.view sl).trans (h.view sl), h'.deferred.trans h.deferred, h'.succeeded.trans h.succeeded⟩

/-- An event was put aside. -/
structure SetAside (s : Backend) (event : XEvent) (s' : Backend) : Prop where
  view : ∀ selection, s'.view selection = s.view selection
  deferred : s'.deferredEvents = s.deferredEvents ++ [event]
  succeeded : s'.succeeded = s.succeeded

/-- An event was handled. -/
structure Observed (x : Host) (s : Backend) (event : XEvent) (s' : Backend) : Prop where
  view : ∀ selection, s'.view selection =
    (x.noticeOf selection event).elim (s.view selection) ((s.view selection).observe x.ownerWindow)
  deferred : s'.deferredEvents = s.deferredEvents
  succeeded : s'.succeeded = s.succeeded

/-- The selection of a command has a new view, and the other one its old. -/
structure Viewed (s : Backend) (selection : SelectionName) (view : View) (s' : Backend) : Prop where
  view : s'.view selection = view
  other : ∀ other, other ≠ selection → s'.view other = s.view other
  deferred : s'.deferredEvents = s.deferredEvents

/-- What the server's answer to `GetSelectionOwner` can cause. -/
inductive OwnerAnswered (x : Host) (running : Option ClipboardCommand) (s : Backend) (atom : Atom)
    (owner : Window) (s' : Backend) : Prop
  | same (h : Same s s')
  | acquired (r : ClipboardSetRequest) (hrunning : running = some (.set r))
      (hatom : atom = x.atoms.selection r.selection) (howner : owner = x.ownerWindow)
      (hview : Viewed s r.selection ⟨some r.payload, x.ownerWindow⟩ s') (hsucceeded : s'.succeeded = true)
  | released (selection : SelectionName) (hrunning : running = some (.clear selection))
      (hatom : atom = x.atoms.selection selection) (howner : owner = xNone)
      (hview : Viewed s selection ⟨none, xNone⟩ s')
  | forgotten (selection : SelectionName) (hrunning : running = some (.clear selection))
      (hatom : atom = x.atoms.selection selection) (howner : owner ≠ x.ownerWindow)
      (hview : Viewed s selection ⟨none, (s.view selection).known⟩ s')

/-- What an answer can cause. -/
def Move (x : Host) (running : Option ClipboardCommand) (s : Backend) :
    (q : XQuery) → XAnswer q → Backend → Prop
  | .request .pollForEvent, some (some event), s' =>
    SetAside s event s' ∨ ((x.probeTime event).isSome = true ∧ Same s s') ∨
      (s.deferredEvents = [] ∧ Observed x s event s')
  | .request (.getSelectionOwner atom), some owner, s' => OwnerAnswered x running s atom owner s'
  | .request (.setSelectionOwner owner atom _), _, s' =>
    Same s s' ∧ (owner = x.ownerWindow →
      ∃ r, running = some (.set r) ∧ atom = x.atoms.selection r.selection)
  | _, _, s' => Same s s'

/-- The questions whose answers cause nothing of their own. -/
def XRequest.isQuiet : XRequest → Bool
  | .pollForEvent | .setSelectionOwner .. => false
  | _ => true

section Moves

variable {x : Host} {rn : Option ClipboardCommand} {s s' s'' : Backend}

theorem SetAside.trans {e} (h : SetAside s e s') (h' : Same s' s'') : SetAside s e s'' :=
  ⟨fun sl => (h'.view sl).trans (h.view sl), h'.deferred.trans h.deferred, h'.succeeded.trans h.succeeded⟩

theorem Observed.trans {e} (h : Observed x s e s') (h' : Same s' s'') : Observed x s e s'' :=
  ⟨fun sl => (h'.view sl).trans (h.view sl), h'.deferred.trans h.deferred, h'.succeeded.trans h.succeeded⟩

variable {sl : SelectionName}

theorem Viewed.trans {view} (h : Viewed s sl view s') (h' : Same s' s'') : Viewed s sl view s'' :=
  ⟨(h'.view sl).trans h.view, fun o hne => (h'.view o).trans (h.other o hne), h'.deferred.trans h.deferred⟩

theorem OwnerAnswered.trans {atom o} (h : OwnerAnswered x rn s atom o s')
    (h' : Same s' s'') : OwnerAnswered x rn s atom o s'' := by
  cases h with
  | same h => exact .same (h.trans h')
  | acquired r hr ha ho hv hs =>
    exact .acquired r hr ha ho (hv.trans h') (h'.succeeded.trans hs)
  | released sl hr ha ho hv =>
    exact .released sl hr ha ho (hv.trans h')
  | forgotten sl hr ha ho hv =>
    exact .forgotten sl hr ha ho (hv.trans h')

theorem Move.trans {q a} (h : Move x rn s q a s') (h' : Same s' s'') : Move x rn s q a s'' := by
  unfold Move at h ⊢
  split at h
  · rcases h with h | ⟨hp, h⟩ | ⟨hn, h⟩
    · exact .inl (h.trans h')
    · exact .inr (.inl ⟨hp, h.trans h'⟩)
    · exact .inr (.inr ⟨hn, h.trans h'⟩)
  · exact OwnerAnswered.trans h h'
  · exact ⟨h.1.trans h', h.2⟩
  · exact Same.trans h h'

theorem move_of_same {r} (hr : r.isQuiet = true) {a} (h : Same s s') : Move x rn s (.request r) a s' := by
  cases r with
  | pollForEvent => cases hr
  | setSelectionOwner => cases hr
  | getSelectionOwner =>
    cases a with
    | none => exact h
    | some o => exact .same h
  | _ => exact h

/-! ## Rules -/

/-- From `s`, the program is quiet until its first question, and every answer
moves it as allowed. -/
def Goes (x : Host) (running : Option ClipboardCommand) {α : Type} (act : Act α) (s : Backend) : Prop :=
  (act.start s).Moves Same (Move x running) s

theorem goes_update {f} (h : Same s (f s)) : Goes x rn (Talk.update f) s :=
  ⟨h, trivial⟩

theorem Goes.bind {α β : Type} {act : Act α} {f : α → Act β} (h : Goes x rn act s)
    (hf : ∀ a s, Goes x rn (f a) s) : Goes x rn (act >>= f) s :=
  Dialogue.Moves.andThen (L := Same) (M := Move x rn) (fun _ _ _ => Same.trans)
    (fun _ _ _ _ _ => Move.trans) h Same.refl hf

theorem goes_setSelectionOwner {o atom t}
    (h : o = x.ownerWindow → ∃ r, rn = some (.set r) ∧ atom = x.atoms.selection r.selection) :
    Goes x rn (request (.setSelectionOwner o atom t)) s := by
  refine ⟨Same.refl s, fun a => ⟨?_, ?_⟩⟩
  · cases a <;> exact ⟨Same.refl s, h⟩
  · cases a <;> trivial

theorem same_send {o} (h : o.isSuccess = false) : Same s (s.send o) :=
  ⟨fun _ => rfl, rfl, by simp [Backend.succeeded, Backend.send, h]⟩

/-- `Goes` from every state: what a program is made of decides it. -/
class Quiet (x : Host) (running : Option ClipboardCommand) {α : Type} (act : Act α) : Prop where
  goes : ∀ s, Goes x running act s

section

variable {α β : Type} {act act' : Act α} {f : α → Act β}

instance {a : α} : Quiet x rn (pure a) := ⟨fun s => ⟨Same.refl s, trivial⟩⟩

theorem Quiet.bind [h : Quiet x rn act] (hf : ∀ a, Quiet x rn (f a)) : Quiet x rn (act >>= f) :=
  ⟨fun s => (h.goes s).bind fun a => (hf a).goes⟩

instance [Quiet x rn act] [hf : ∀ a, Quiet x rn (f a)] : Quiet x rn (act >>= f) := .bind hf

instance {c : Prop} [Decidable c] [Quiet x rn act] [Quiet x rn act'] : Quiet x rn (if c then act else act') := by
  split <;> assumption

end

instance : Quiet x rn Talk.read := ⟨fun s => ⟨Same.refl s, trivial⟩⟩

instance : Quiet x rn now := ⟨fun s => ⟨Same.refl s, fun _ => ⟨Same.refl s, trivial⟩⟩⟩

theorem quiet_request {r} (hr : r.isQuiet = true) : Quiet x rn (request r) := by
  refine ⟨fun s => ⟨Same.refl s, fun a => ⟨?_, ?_⟩⟩⟩
  · cases a <;> exact move_of_same hr (Same.refl s)
  · cases a <;> trivial

instance : Quiet x rn (request (.getSelectionOwner a)) := quiet_request rfl

instance : Quiet x rn (request (.convertSelection a t p tm)) := quiet_request rfl

instance : Quiet x rn (request (.getProperty d p t n)) := quiet_request rfl

instance : Quiet x rn (deletePrivateProperty p) := quiet_request rfl

instance : Quiet x rn (request .changeTimeProbe) := quiet_request rfl

instance : Quiet x rn (request .getInputFocus) := quiet_request rfl

instance : Quiet x rn (request (.serve e)) := quiet_request rfl

instance : Quiet x rn (send (.read r a)) := ⟨fun _ => goes_update (same_send rfl)⟩

instance {p : Backend → PendingRead} : Quiet x rn (Talk.update fun s => s.insert pr (p s)) :=
  ⟨fun _ => goes_update ⟨fun _ => rfl, rfl, rfl⟩⟩

instance : Quiet x rn (Talk.update (·.remove pr)) := ⟨fun _ => goes_update ⟨fun _ => rfl, rfl, rfl⟩⟩

/-! ## Reads -/

instance : Quiet x rn (completeIncoming p a) := by
  cases a <;> dsimp only [completeIncoming] <;> infer_instance

theorem goes_awaitProbe {n} : Goes x rn (x.awaitProbe n) s := by
  induction n generalizing s with
  | zero => exact ⟨Same.refl s, trivial⟩
  | succ n ih =>
    refine ⟨Same.refl s, fun a => ?_⟩
    rcases a with _ | _ | e
    · exact ⟨Same.refl s, trivial⟩
    · exact ⟨Same.refl s, trivial⟩
    cases hp : x.probeTime e with
    | some t =>
      simp only [Dialogue.andThen, hp, Talk.start_pure]
      exact ⟨.inr (.inl ⟨by rw [hp]; rfl, Same.refl s⟩), trivial⟩
    | none =>
      simp only [Dialogue.andThen, hp, Talk.start_pure, Talk.start_bind, Talk.start_update]
      have ha : SetAside s e { s with deferredEvents := s.deferredEvents ++ [e] } :=
        ⟨fun _ => rfl, rfl, rfl⟩
      exact ⟨.inl (ha.trans ih.1), ih.2⟩

instance : Quiet x rn x.queryServerTime :=
  .bind fun _ => .bind fun _ => ⟨fun _ => goes_awaitProbe⟩

instance : Quiet x rn (x.handleRead r) := by
  dsimp only [Host.handleRead, Host.currentOwner, Host.readOwned, Host.beginRead]
  repeat' first | infer_instance | split | refine .bind fun _ => ?_

instance : Quiet x rn (x.receiveTargets e p) := by
  dsimp only [Host.receiveTargets]
  repeat' first | infer_instance | split | refine .bind fun _ => ?_

instance : Quiet x rn (x.receiveData pr p t) := by
  dsimp only [Host.receiveData, Host.receiveAnnouncement, Host.receiveDirect]
  repeat' first | infer_instance | split | refine .bind fun _ => ?_

instance : Quiet x rn (x.receiveNotify e pr p) := by
  dsimp only [Host.receiveNotify, Host.currentOwner]
  repeat' first | infer_instance | split

instance : Quiet x rn (x.handleSelectionNotify e) := by
  dsimp only [Host.handleSelectionNotify]
  repeat' first | infer_instance | split | refine .bind fun _ => ?_

instance : Quiet x rn (x.receiveChunk pr p) := by
  dsimp only [Host.receiveChunk, Host.currentOwner]
  repeat' first | infer_instance | split | refine .bind fun _ => ?_

instance : Quiet x rn (Talk.update fun s => { s with lastServerTime := t }) :=
  ⟨fun _ => goes_update ⟨fun _ => rfl, rfl, rfl⟩⟩

instance : Quiet x rn (x.handlePropertyNotify e) := by
  dsimp only [Host.handlePropertyNotify]
  repeat' first | infer_instance | split | refine .bind fun _ => ?_

instance : Quiet x rn (failRead pr a) := by
  dsimp only [failRead]
  repeat' first | infer_instance | split | refine .bind fun _ => ?_

instance : Quiet x rn (failReads rd) := by
  induction rd <;> dsimp only [failReads] <;> infer_instance

instance : Quiet x rn (x.expireTransfers i) := by
  dsimp only [Host.expireTransfers]
  infer_instance

/-! ## Events -/

/-- The program handles the event at once, and then goes on quietly. -/
def Handles (x : Host) (running : Option ClipboardCommand) (event : XEvent) (act : Act Unit) (s : Backend) :
    Prop :=
  (act.start s).Moves (Observed x · event) (Move x running) s

/-- An event that says nothing about ownership. -/
theorem Goes.handles {act} (h : Goes x rn act s) {e}
    (hn : ∀ sl, x.noticeOf sl e = none) : Handles x rn e act s :=
  ⟨⟨fun sl => by rw [hn, Option.elim_none, h.1.view], h.1.deferred, h.1.succeeded⟩, h.2⟩

theorem view_noteOwnerChange (sl) (o : Window) :
    (x.noteOwnerChange s sl o).view sl = ⟨(s.view sl).held, o⟩ := by
  unfold Host.noteOwnerChange
  split
  · rename_i h
    rw [← h]
    rfl
  · simp [Backend.view]

theorem view_noteOwnerChange_of_ne {o} (h : o ≠ sl)
    (ow : Window) : (x.noteOwnerChange s sl ow).view o = s.view o := by
  unfold Host.noteOwnerChange
  split
  · rfl
  · simp [Backend.view, PerSelection.get_set_of_ne h]

theorem succeeded_noteOwnerChange {sl o} : (x.noteOwnerChange s sl o).succeeded = s.succeeded := by
  unfold Host.noteOwnerChange
  split
  · rfl
  · simp [Backend.succeeded, Output.isSuccess]

theorem deferred_noteOwnerChange {sl o} : (x.noteOwnerChange s sl o).deferredEvents = s.deferredEvents := by
  unfold Host.noteOwnerChange
  split <;> rfl

theorem view_setOwned {sl v} : (s.setOwned sl v).view sl = ⟨v.map (·.payload), (s.view sl).known⟩ := by
  simp [Backend.view, Backend.setOwned]

theorem view_setOwned_of_ne {o} (h : o ≠ sl) {v} : (s.setOwned sl v).view o = s.view o := by
  simp [Backend.view, Backend.setOwned, PerSelection.get_set_of_ne h]

theorem handles_selectionClear {t a} : Handles x rn (.selectionClear t a) (x.handleSelectionClear t a) s := by
  refine ⟨?_, trivial⟩
  change Observed x s _ (x.lostSelection s t a)
  unfold Host.lostSelection
  cases ha : x.selectionFromAtom a with
  | none => exact ⟨fun sl => by simp [Host.noticeOf, ha, Backend.view], rfl, rfl⟩
  | some sl =>
    simp only
    split
    · rename_i how
      refine ⟨fun o => ?_, deferred_noteOwnerChange, succeeded_noteOwnerChange⟩
      by_cases ho : o = sl
      · have hh : (s.view sl).held.isSome = true := by simpa [Backend.view] using how
        rw [ho, view_noteOwnerChange, view_setOwned]
        simp [Host.noticeOf, ha, View.observe, hh]
      · rw [view_noteOwnerChange_of_ne ho, view_setOwned_of_ne ho]
        simp [Host.noticeOf, ha, Ne.symm ho, Backend.view]
    · rename_i how
      refine ⟨fun o => ?_, rfl, rfl⟩
      by_cases ho : o = sl
      · have hh : ¬ (s.view sl).held.isSome = true := by simpa [Backend.view] using how
        simp only [ho, Host.noticeOf, ha, if_true, Option.elim_some, View.observe, hh]
        rfl
      · simp [Host.noticeOf, ha, Ne.symm ho, Backend.view]

theorem observed_ownerSeen {atom o}
    (ha : x.selectionFromAtom atom = some sl) (how : o ≠ s.knownOwners.get sl) :
    Observed x s (.xfixesSelectionNotify atom o) (x.ownerSeen s sl o) := by
  have hk : o ≠ (s.view sl).known := how
  unfold Host.ownerSeen
  refine ⟨fun ot => ?_, ?_, ?_⟩
  · by_cases ho : ot = sl
    · rw [ho, view_noteOwnerChange]
      simp only [Host.noticeOf, ha, if_true, Option.elim_some, View.observe, hk, if_false]
      split
      · rw [view_setOwned]
        rfl
      · rfl
    · rw [view_noteOwnerChange_of_ne ho]
      simp only [Host.noticeOf, ha, Option.some.injEq, Ne.symm ho, if_false, Option.elim_none]
      split
      · exact view_setOwned_of_ne ho
      · rfl
  · rw [deferred_noteOwnerChange]
    split <;> rfl
  · rw [succeeded_noteOwnerChange]
    split <;> rfl

theorem handles_xfixes (a : Atom) (o : Window) :
    Handles x rn (.xfixesSelectionNotify a o) (x.handleXfixesSelectionNotify a o) s := by
  unfold Host.handleXfixesSelectionNotify
  cases ha : x.selectionFromAtom a with
  | none => exact ⟨⟨fun sl => by simp [Host.noticeOf, ha, Dialogue.state], rfl, rfl⟩, trivial⟩
  | some sl =>
    change Dialogue.Moves _ _ s (Talk.start (if o = s.knownOwners.get sl then _ else _) s)
    split
    · rename_i ho
      refine ⟨⟨fun ot => ?_, rfl, rfl⟩, trivial⟩
      by_cases hot : ot = sl
      · simp [hot, Host.noticeOf, ha, View.observe, Backend.view, ho, Dialogue.state]
      · simp [Host.noticeOf, ha, Ne.symm hot, Dialogue.state]
    · rename_i ho
      have hr : Goes x rn (failReads (x.readsOfOtherOwners s sl o))
          (x.ownerSeen s sl o) := Quiet.goes _
      exact ⟨(observed_ownerSeen ha ho).trans hr.1, hr.2⟩

theorem handles_handleEvent (hx : x.xfixesSelectionEvents = true) {e} :
    Handles x rn e (x.handleEvent e) s := by
  cases e <;> dsimp only [Host.handleEvent]
  case selectionClear => exact handles_selectionClear
  case xfixesSelectionNotify a o =>
    rw [if_pos hx]
    exact handles_xfixes a o
  all_goals exact (Quiet.goes s).handles fun _ => rfl

/-! ## Commands -/

section

variable (r : ClipboardSetRequest)

theorem viewed_acquire {o t} : Viewed s r.selection ⟨some r.payload, o⟩ (s.acquire r o t) where
  view := by simp [Backend.view, Backend.acquire]
  other := fun ot h => by simp [Backend.view, Backend.acquire, PerSelection.get_set_of_ne h]
  deferred := rfl

theorem viewed_release {sl ow t} : Viewed s sl ⟨none, xNone⟩ (s.release sl ow t) where
  view := by simp [Backend.view, Backend.release]
  other := fun o h => by simp [Backend.view, Backend.release, PerSelection.get_set_of_ne h]
  deferred := rfl

theorem goes_handleSet : Goes x (some (.set r)) (x.handleSet r) s := by
  refine (Quiet.goes s).bind fun t s => ?_
  refine (goes_setSelectionOwner fun _ => ⟨r, rfl, rfl⟩).bind fun _ s => ?_
  refine ⟨Same.refl s, fun a => ?_⟩
  rcases a with _ | o
  · exact ⟨Same.refl s, trivial⟩
  change OwnerAnswered x _ s _ o (Talk.start (if o ≠ x.ownerWindow then _ else _) s).state ∧
    Dialogue.Follows _ (Talk.start (if o ≠ x.ownerWindow then _ else _) s)
  split
  · exact ⟨.same (same_send rfl), trivial⟩
  rename_i ho
  have hus : o = x.ownerWindow := not_not.1 ho
  refine ⟨.acquired r rfl rfl hus ?_ ?_, trivial⟩
  · rw [← hus]
    exact viewed_acquire r
  · simp [Dialogue.state, Backend.succeeded, Backend.acquire, Output.isSuccess]

theorem goes_handleClear (hus : x.ownerWindow ≠ xNone) {sl} :
    Goes x (some (.clear sl)) (x.handleClear sl) s := by
  refine ⟨Same.refl s, fun a => ?_⟩
  rcases a with _ | c
  · exact ⟨Same.refl s, trivial⟩
  change OwnerAnswered x _ s _ c (Talk.start (if c ≠ x.ownerWindow then _ else _) s).state ∧
    Dialogue.Follows _ (Talk.start (if c ≠ x.ownerWindow then _ else _) s)
  split
  · rename_i hc
    refine ⟨.forgotten sl rfl rfl hc ?_, trivial⟩
    exact ⟨view_setOwned, fun ot h => view_setOwned_of_ne h, rfl⟩
  have hr : Goes x (some (.clear sl)) (do
      let t ← x.queryServerTime
      request (.setSelectionOwner xNone (x.atoms.selection sl) t)
      let o ← x.currentOwner sl
      if o ≠ xNone then send (.ownership (.error .ownershipRace))
      else Talk.update (·.release sl o t)) s := by
    refine (Quiet.goes s).bind fun t s => ?_
    refine (goes_setSelectionOwner fun he => absurd he.symm hus).bind fun _ s => ?_
    refine ⟨Same.refl s, fun a => ?_⟩
    rcases a with _ | o
    · exact ⟨Same.refl s, trivial⟩
    change OwnerAnswered x _ s _ o (Talk.start (if o ≠ xNone then _ else _) s).state ∧
      Dialogue.Follows _ (Talk.start (if o ≠ xNone then _ else _) s)
    split
    · exact ⟨.same (same_send rfl), trivial⟩
    · rename_i ho
      exact ⟨.released sl rfl rfl (not_not.1 ho) viewed_release, trivial⟩
  exact ⟨.same hr.1, hr.2⟩

/-! ## Turns -/

/-- How a turn starts: quietly, or with the first deferred event. -/
def Begins (x : Host) (s s' : Backend) : Prop :=
  Same s s' ∨ ∃ event rest, s.deferredEvents = event :: rest ∧
    Observed x { s with deferredEvents := rest } event s'

theorem begins_turn (hus : x.ownerWindow ≠ xNone) (hx : x.xfixesSelectionEvents = true) (t : Host.Turn) :
    (x.turn t |>.start s).Moves (Begins x) (Move x t.running) s := by
  have hq : ∀ {act : Act Unit}, Goes x t.running act s →
      (act.start s).Moves (Begins x) (Move x t.running) s := fun h => ⟨.inl h.1, h.2⟩
  cases t with
  | expire =>
    dsimp only [Host.turn]
    exact hq (Quiet.goes s)
  | command c =>
    cases c with
    | set r => exact hq (goes_handleSet r)
    | clear sl => exact hq (goes_handleClear hus)
    | read r =>
      have hr : ∀ rn, Quiet x rn (x.handleRead r) := inferInstance
      exact hq ((hr _).goes s)
  | poll =>
    rw [Host.turn, Host.pollEvent, Talk.start_bind, Talk.start_read, Dialogue.andThen]
    split
    · rename_i e rest hd
      have he : Handles x (Host.Turn.poll).running e (x.handleEvent e)
        { s with deferredEvents := rest } := handles_handleEvent hx
      exact ⟨.inr ⟨e, rest, hd, he.1⟩, he.2⟩
    · rename_i hn
      refine ⟨.inl (Same.refl s), fun a => ?_⟩
      rcases a with _ | _ | e
      · exact ⟨Same.refl s, trivial⟩
      · exact ⟨Same.refl s, trivial⟩
      · have he : Handles x (Host.Turn.poll).running e (x.handleEvent e) s := handles_handleEvent hx
        exact ⟨.inr (.inr ⟨hn, he.1⟩), he.2⟩

/-! ## How a set ends -/

/-- A set returns after `GetSelectionOwner`; when it is answered with our window,
the caller is told. -/
def SetEnds (x : Host) (r : ClipboardSetRequest) : (q : XQuery) → XAnswer q → Backend → Prop
  | .request (.getSelectionOwner atom), some owner, s' =>
    atom = x.atoms.selection r.selection ∧ (owner = x.ownerWindow → s'.succeeded = true)
  | _, _, _ => False

theorem concludes_handleSet :
    ((x.handleSet r).start s).isDone = false ∧ ((x.handleSet r).start s).Concludes (SetEnds x r) := by
  refine Dialogue.concludes_andThen ?_
  intro t s
  refine ⟨rfl, fun a => ?_⟩
  rcases a with _ | _
  · exact ⟨fun hd => Bool.noConfusion hd, trivial⟩
  refine ⟨fun hd => Bool.noConfusion hd, fun a => ?_⟩
  rcases a with _ | o
  · exact ⟨fun hd => Bool.noConfusion hd, trivial⟩
  change (_ → SetEnds x r (.request (.getSelectionOwner (x.atoms.selection r.selection))) (some o)
      (Talk.start (if o ≠ x.ownerWindow then _ else _) s).state) ∧
    Dialogue.Concludes _ (Talk.start (if o ≠ x.ownerWindow then _ else _) s)
  split
  · rename_i ho
    exact ⟨fun _ => ⟨rfl, fun he => absurd he ho⟩, trivial⟩
  · refine ⟨fun _ => ⟨rfl, fun _ => ?_⟩, trivial⟩
    simp [Dialogue.state, Backend.succeeded, Backend.acquire, Output.isSuccess]

/-- Until then nobody is told. -/
theorem fresh_handleSet (h : s.succeeded = false) :
    ((x.handleSet r).start s).Leads (fun s => s.succeeded = false) fun _ _ => True := by
  refine Talk.leads_bind (leads_queryServerTime (fun _ _ h => h) h) fun t s h => ?_
  refine leads_request_bind h fun _ => leads_request_bind h fun o => ?_
  split <;> trivial

end

end Moves

end Xenoteer.Clipboard
