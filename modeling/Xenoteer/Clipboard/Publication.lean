/-
Every read the actor answers, against what the daemon publishes.

A run is a list of turns, each with the server's answers to its requests, which
are arbitrary: any targets, properties, chunks, owners and times, and a failed
request anywhere. Between two turns the outbox is empty. `read_accepted_iff`
says of every successful answer of every run whether the daemon accepts it, by
what was delivered.
-/
import Xenoteer.Clipboard.Deliveries
import Xenoteer.Lib.Run

namespace Xenoteer.Clipboard

open Lib

/-! ## Runs -/

inductive ActorState where
  | running (s : Backend)
  | stopped

abbrev Answers := Nat → (q : XQuery) → XAnswer q

/-- A turn and what it told callers and observers. A failed request poisons the
actor. -/
def Host.step (x : Host) : ActorState → Host.Turn × Answers → List Output × ActorState
  | .stopped, _ => ([], .stopped)
  | .running s, (turn, answers) =>
    if turn.admitted then
      match ((x.turn turn).start s).exec answers 0 with
      | (some _, s) => (s.outbox, .running { s with outbox := [] })
      | (none, s) => ((s.shutdown .actorPoisoned).outbox, .stopped)
    else ([], .running s)

/-! ## What is delivered -/

/-- Where a successful read takes its value from. -/
inductive Delivery where
  | own (revision : UInt64) (target : RawClipboardTarget) (payload : ClipboardPayload)
  | direct (revision : UInt64) (target : RawClipboardTarget) (property : List UInt8)
  | incr (revision : UInt64) (target : RawClipboardTarget) (announced : Nat) (received : List UInt8)

/-- The revision is not zero, what is read as `STRING` without INCR is ASCII,
and an INCR transfer announced no more than it delivers. -/
def Delivery.Publishable : Delivery → Prop
  | .own revision target payload => revision ≠ 0 ∧ (target = .string → Utf8.isAscii payload.bytes = true)
  | .direct revision target property => revision ≠ 0 ∧ (target = .string → Utf8.isAscii property = true)
  | .incr revision target announced received =>
    revision ≠ 0 ∧ announced ≤ (deliveredBytes target received).length

/-- The result of the read is what one of the three producers makes of the
state before the turn and of what the turn received. -/
inductive Delivers (x : Host) (s : Backend) (r : ClipboardReadRawRequest)
    (result : RawClipboardReadResult) : Delivery → Prop
  | own {owned : OwnedSelection} {target : RawClipboardTarget}
      (howned : s.owned.get r.selection = some owned)
      (htarget : chooseTarget owned.payload.advertisedTargets r.preferredTargets = some target)
      (h : x.ownedResult s r = .ok result) :
      Delivers x s r result (.own (s.revisions.get r.selection) target owned.payload)
  | direct {property : Atom} {pending : PendingRead} {target actual : RawClipboardTarget} {format : UInt8}
      {value : List UInt8} (hpending : s.pendingAt property = some pending) (hreply : pending.reply = r)
      (h : (pending.transfer.finishDirect x.sha256 target actual format value).1 = .completed result) :
      Delivers x s r result (.direct pending.transfer.revision target value)
  | incr {property : Atom} {pending : PendingRead} {target actual : RawClipboardTarget} {announced : Nat}
      {format : UInt8} {chunk : List UInt8} {owner : Window} {instant : Instant}
      (hpending : s.pendingAt property = some pending) (hreply : pending.reply = r)
      (hphase : pending.transfer.phase = .receivingIncr target announced)
      (h : (pending.transfer.receiveIncrChunk x.sha256 actual format chunk owner instant).1 =
        .completed result) :
      Delivers x s r result (.incr pending.transfer.revision target announced pending.transfer.bytes)

/-- Every pending read belongs to a validated request. -/
def Backend.Sound (s : Backend) : Prop := ∀ entry ∈ s.incoming, entry.2.Sound

theorem mem_of_lookup {α β : Type} [BEq α] [LawfulBEq α] {a : α} {b : β} {l : List (α × β)}
    (h : l.lookup a = some b) : (a, b) ∈ l := by
  induction l with
  | nil => cases h
  | cons e l ih =>
    obtain ⟨a', b'⟩ := e
    rw [List.lookup_cons] at h
    split at h
    · rename_i heq
      cases h
      rw [eq_of_beq heq]
      exact List.mem_cons_self
    · exact List.mem_cons_of_mem _ (ih h)

variable {s : Backend}

theorem Backend.Sound.pending (hs : s.Sound) {pr : Atom} {pn : PendingRead}
    (h : s.pendingAt pr = some pn) : pn.Sound :=
  hs _ (mem_of_lookup h)

/-- The iff of each producer. -/
theorem Delivers.accepted_iff {x} (hs : s.Sound) {r rs} (hv : r.validate = .ok ()) {d}
    (h : Delivers x s r rs d) : Accepted x.sha256 rs.toRaw r ↔ d.Publishable := by
  cases h with
  | @own o t ho ht h =>
    rw [ownedResult_accepted hv h]
    refine and_congr_right fun _ => ?_
    constructor
    · intro ha hst
      exact ha o ho (by rw [ht, hst])
    · intro ha own how hst
      cases ho.symm.trans how
      exact ha (Option.some.inj (ht.symm.trans hst))
  | direct hp hr h =>
    rw [← hr]
    exact finishDirect_accepted x.sha256 (hs.pending hp) h
  | incr hp hr hph h =>
    rw [← hr]
    exact receiveIncrChunk_accepted x.sha256 (hs.pending hp) hph h

/-! ## What a handler keeps -/

section Keeps

variable {x : Host} {s₀ s : Backend}

/-- Pending reads stay sound, and a read answered since `s₀` is one of the
deliveries of `s₀`. -/
structure Told (x : Host) (s₀ s : Backend) : Prop where
  sound : s.Sound
  told : ∀ r result, Output.read r (.ok result) ∈ s.outbox →
    r.validate = .ok () ∧ ∃ d, Delivers x s₀ r result d

/-- The handler keeps it wherever it stops. -/
def Keeps (x : Host) (s₀ : Backend) {α : Type} (act : Act α) (s : Backend) : Prop :=
  (act.start s).Leads (Told x s₀) fun _ => Told x s₀

section

variable (h : Told x s₀ s)
include h

theorem Told.send {o} (ho : ∀ r rs, o = .read r (.ok rs) →
      r.validate = .ok () ∧ ∃ d, Delivers x s₀ r rs d) : Told x s₀ (s.send o) := by
  refine ⟨h.sound, fun r rs hm => ?_⟩
  rcases List.mem_append.1 hm with hm | hm
  · exact h.told r rs hm
  · exact ho r rs (List.mem_singleton.1 hm).symm

theorem Told.remove (pr : Atom) : Told x s₀ (s.remove pr) :=
  ⟨fun e he => h.sound e (List.mem_of_mem_filter he), h.told⟩

variable {pn : PendingRead}

theorem Told.insert (pr : Atom) (hp : pn.Sound) : Told x s₀ (s.insert pr pn) := by
  refine ⟨fun e he => ?_, h.told⟩
  rcases List.mem_cons.1 he with rfl | he
  · exact hp
  · exact h.sound e (List.mem_of_mem_filter he)

/-- Nothing but the pending reads and the answered reads matters. -/
theorem Told.of_same {s'} (hi : s'.incoming = s.incoming)
    (ho : ∀ r rs, Output.read r (.ok rs) ∈ s'.outbox → Output.read r (.ok rs) ∈ s.outbox) : Told x s₀ s' :=
  ⟨fun e he => h.sound e (hi ▸ he), fun r rs hr => h.told r rs (ho r rs hr)⟩

theorem Told.setOwned (sl v) : Told x s₀ (s.setOwned sl v) :=
  h.of_same rfl fun _ _ hr => hr

end

theorem keeps_read {β : Type} {f : Backend → Act β} (h : Keeps x s₀ (f s) s) :
    Keeps x s₀ (Talk.read >>= f) s := h

theorem keeps_update {f} (h : Told x s₀ (f s)) : Keeps x s₀ (Talk.update f) s := h

theorem Keeps.then {α β : Type} {act : Act α} {f : α → Act β} (h : Keeps x s₀ act s)
    (hf : ∀ a s, Told x s₀ s → Keeps x s₀ (f a) s) : Keeps x s₀ (act >>= f) s :=
  Talk.leads_bind h fun a s hs => hf a s hs

section

variable (h : Told x s₀ s)
include h

theorem keeps_request_bind {r : XRequest} {β : Type} {f : XReply r → Act β}
    (hf : ∀ rp, Keeps x s₀ (f rp) s) : Keeps x s₀ (request r >>= f) s :=
  leads_request_bind h hf

theorem keeps_request {r} : Keeps x s₀ (request r) s :=
  leads_request h fun _ => h

theorem keeps_now_bind {β : Type} {f : Instant → Act β}
    (hf : ∀ i, Keeps x s₀ (f i) s) : Keeps x s₀ (now >>= f) s :=
  ⟨h, hf⟩

theorem keeps_sendError {r k} : Keeps x s₀ (send (.read r (.error k))) s :=
  keeps_update (h.send fun r' rs he => by simp at he)

theorem keeps_completeIncoming {a} (ha : ∀ rs, a = .completed rs →
      pn.reply.validate = .ok () ∧ ∃ d, Delivers x s₀ pn.reply rs d) :
    Keeps x s₀ (completeIncoming pn a) s := by
  cases a with
  | deleteForNextChunk | failed e => exact keeps_sendError h
  | completed rs =>
    refine keeps_update (h.send fun r' rs' he => ?_)
    simp only [Output.read.injEq, Except.ok.injEq] at he
    rw [← he.1, ← he.2]
    exact ha rs rfl

theorem keeps_queryServerTime : Keeps x s₀ x.queryServerTime s :=
  leads_queryServerTime (fun _ _ h => h.of_same rfl fun _ _ hr => hr) h

/-! ## Commands -/

theorem keeps_sendOwnership {k} : Keeps x s₀ (send (.ownership (.error k))) s :=
  keeps_update (h.send fun r' rs he => by simp at he)

theorem keeps_handleSet {r} : Keeps x s₀ (x.handleSet r) s := by
  refine (keeps_queryServerTime h).then fun t s h => ?_
  refine keeps_request_bind h fun _ => keeps_request_bind h fun o => ?_
  split
  · exact keeps_sendOwnership h
  · exact keeps_update (h.of_same rfl fun r rs hr => by simpa [Backend.acquire] using hr)

theorem keeps_handleClear {sl} : Keeps x s₀ (x.handleClear sl) s := by
  refine keeps_request_bind h fun c => ?_
  split
  · refine Keeps.then (keeps_update (h.setOwned _ _)) fun _ s h => ?_
    exact keeps_sendOwnership h
  · refine (keeps_queryServerTime h).then fun t s h => ?_
    refine keeps_request_bind h fun _ => keeps_request_bind h fun o => ?_
    split
    · exact keeps_sendOwnership h
    · exact keeps_update (h.of_same rfl fun r rs hr => by simpa [Backend.release] using hr)

end

variable {r : ClipboardReadRawRequest}

theorem PendingRead.sound_new (hv : r.validate = .ok ()) (o : Window)
    (pr : Atom) (rv : UInt64) (i : Instant) :
    PendingRead.Sound ⟨.new r.selection o pr rv r.allowBinaryFallback i, r.preferredTargets, r⟩ where
  valid := hv
  selection := rfl
  fallback := rfl
  preferred := rfl
  chosen := by
    intro t hp
    simp [IncomingTransfer.new] at hp
  chunks_le := Nat.zero_le _

/-- The own value is delivered from the state before the command. -/
theorem keeps_handleRead (h : Told x s s) (hv : r.validate = .ok ()) : Keeps x s (x.handleRead r) s := by
  refine keeps_request_bind h fun ow => ?_
  split
  · exact keeps_sendError h
  split
  · refine keeps_update (h.send fun r' rs he => ?_)
    simp only [Output.read.injEq] at he
    rw [← he.1]
    have hr := he.2
    refine ⟨hv, ?_⟩
    cases ho : s.owned.get r.selection with
    | none => simp [Host.ownedResult, ho] at hr
    | some o =>
      cases ht : chooseTarget o.payload.advertisedTargets r.preferredTargets with
      | none => simp [Host.ownedResult, ho, ht] at hr
      | some t => exact ⟨_, .own ho ht hr⟩
  · refine keeps_read ?_
    split
    · exact keeps_sendError h
    split
    · exact keeps_sendError h
    · refine (keeps_queryServerTime h).then fun tm s' h' => ?_
      refine keeps_request_bind h' fun _ => keeps_request_bind h' fun _ => keeps_now_bind h' fun i => ?_
      exact keeps_update (h'.insert _ (PendingRead.sound_new hv _ _ _ _))

/-! ## Events -/

theorem failure_not_completed (t : IncomingTransfer) (rn : SelectionTransferFailureReason)
    (oc : Bool) : ∀ rs, (t.failure x.sha256 rn oc).1 = .completed rs →
      r.validate = .ok () ∧ ∃ d, Delivers x s₀ r rs d :=
  fun _ h => absurd h failure_ne_completed

theorem keeps_sendError_delete (h : Told x s₀ s) {r k pr} :
    Keeps x s₀ (do send (.read r (.error k)); deletePrivateProperty pr) s :=
  (keeps_sendError h).then fun _ _ h => keeps_request h

/-- The listed target becomes the transfer's. -/
theorem PendingRead.Sound.selectTarget {p : PendingRead} (hp : p.Sound) {a : List RawClipboardTarget}
    {t : RawClipboardTarget} (h : chooseTarget a p.preferredTargets = some t) :
    PendingRead.Sound { p with transfer := (p.transfer.selectTarget t).2 } := by
  rw [hp.preferred] at h
  have ha := chooseTarget_allowed hp.valid h
  unfold IncomingTransfer.selectTarget
  split
  · exact hp
  refine ⟨hp.valid, hp.selection, hp.fallback, hp.preferred, fun t' hph => ?_, hp.chunks_le⟩
  simp only [IncomingPhase.awaitingData.injEq, reduceCtorEq, exists_false, or_false] at hph
  rw [← hph]
  exact ha

theorem keeps_receiveTargets (h : Told x s₀ s) (hp : pn.Sound)
    {e} : Keeps x s₀ (x.receiveTargets e pn) s := by
  refine keeps_request_bind h fun rp => ?_
  simp only
  split
  · exact keeps_sendError h
  split
  · exact keeps_sendError h
  rename_i t ht
  have hs := hp.selectTarget ht
  split
  · exact keeps_sendError h
  · exact keeps_request_bind h fun _ => keeps_update (h.insert _ hs)

theorem failure_ne_deleteForNextChunk (t : IncomingTransfer) {rs oc} :
    (t.failure x.sha256 rs oc).1 ≠ .deleteForNextChunk := by
  unfold IncomingTransfer.failure
  split
  simp

theorem PendingRead.Sound.beginIncr {p : PendingRead} (hp : p.Sound) {t : RawClipboardTarget}
    {a : Nat} (h : (p.transfer.beginIncr x.sha256 t a).1 = .deleteForNextChunk) :
    PendingRead.Sound { p with transfer := (p.transfer.beginIncr x.sha256 t a).2 } := by
  unfold IncomingTransfer.beginIncr IncomingTransfer.protocolFailure at h ⊢
  split at h
  · exact absurd h (failure_ne_deleteForNextChunk _)
  rename_i hph
  split at h
  · exact absurd h (failure_ne_deleteForNextChunk _)
  rename_i ha
  simp only [hph, ha, if_false]
  refine ⟨hp.valid, hp.selection, hp.fallback, hp.preferred, fun t' hph' => ?_, hp.chunks_le⟩
  simp only [reduceCtorEq, IncomingPhase.receivingIncr.injEq, exists_and_left, exists_eq', and_true,
    false_or] at hph'
  rw [← hph']
  exact hp.chosen t (.inl (not_not.1 hph))

section

variable (h : Told x s₀ s)
include h

theorem keeps_receiveAnnouncement (hp : pn.Sound) {pr tr rp} :
    Keeps x s₀ (x.receiveAnnouncement pr pn tr rp) s := by
  unfold Host.receiveAnnouncement
  split
  rename_i a t heq
  cases a with
  | completed rs => exact keeps_sendError h
  | failed e => exact keeps_sendError_delete h
  | deleteForNextChunk =>
    refine keeps_request_bind h fun _ => keeps_update (h.insert _ ?_)
    have hf : pn.transfer.protocolFailure x.sha256 ≠ (.deleteForNextChunk, t) := fun he =>
      failure_ne_deleteForNextChunk pn.transfer (congrArg Prod.fst he)
    split at heq
    · split at heq
      · have hs := hp.beginIncr (congrArg Prod.fst heq)
        rwa [heq] at hs
      · exact absurd heq hf
    · exact absurd heq hf

variable {pr : Atom}

theorem keeps_receiveDirect (hpe : s₀.pendingAt pr = some pn) (hp : pn.Sound)
    {t rp} : Keeps x s₀ (x.receiveDirect pr pn t rp) s := by
  unfold Host.receiveDirect
  simp only
  split
  · refine keeps_request_bind h fun _ => keeps_completeIncoming h fun rs hr => ?_
    exact ⟨hp.valid, _, .direct hpe rfl hr⟩
  · exact keeps_request_bind h fun _ => keeps_completeIncoming h (failure_not_completed _ _ _)

theorem keeps_receiveData (hpe : s₀.pendingAt pr = some pn) (hp : pn.Sound) {t} :
    Keeps x s₀ (x.receiveData pr pn t) s := by
  refine keeps_request_bind h fun rp => ?_
  split
  · exact keeps_receiveAnnouncement h hp
  · exact keeps_receiveDirect h hpe hp

theorem keeps_receiveNotify (hpe : s₀.pendingAt pr = some pn) (hp : pn.Sound) {e} :
    Keeps x s₀ (x.receiveNotify e pr pn) s := by
  unfold Host.receiveNotify
  split
  · exact keeps_sendError_delete h
  refine keeps_request_bind h fun o => ?_
  split
  · exact (keeps_completeIncoming h (failure_not_completed _ _ _)).then fun _ _ h => keeps_request h
  split
  · exact keeps_receiveTargets h hp
  · exact keeps_receiveData h hpe hp
  · exact keeps_sendError_delete h
  · exact keeps_sendError_delete h

theorem keeps_handleSelectionNotify (hs : s.incoming = s₀.incoming)
    {e} : Keeps x s₀ (x.handleSelectionNotify e) s := by
  unfold Host.handleSelectionNotify
  split
  · exact h
  refine keeps_read ?_
  split
  · exact h
  split
  · exact h
  rename_i pr _ pn hp
  refine Keeps.then (keeps_update (h.remove _)) fun _ s h' => ?_
  refine keeps_receiveNotify h' ?_ (h.sound.pending hp)
  rw [← hp, Backend.pendingAt, Backend.pendingAt, hs]

end

/-- A chunk is added to the transfer, within the limits. -/
theorem PendingRead.Sound.receiveIncrChunk {p : PendingRead} (hp : p.Sound) {a : RawClipboardTarget}
    {f : UInt8} {c : List UInt8} {o : Window} {i : Instant} {tr : IncomingTransfer}
    (h : p.transfer.receiveIncrChunk x.sha256 a f c o i =
      (.deleteForNextChunk, tr)) : PendingRead.Sound { p with transfer := tr } := by
  have hf : ∀ {t : IncomingTransfer} {rs : SelectionTransferFailureReason} {oc : Bool},
      t.failure x.sha256 rs oc ≠ (.deleteForNextChunk, tr) := fun he =>
    failure_ne_deleteForNextChunk _ (congrArg Prod.fst he)
  unfold IncomingTransfer.receiveIncrChunk at h
  split at h
  · split at h
    · exact absurd h hf
    split at h
    · exact absurd h hf
    split at h
    · exact absurd h hf
    split at h
    · split at h
      · exact absurd h hf
      · split at h
        · exact absurd h hf
        · simp at h
    split at h
    · exact absurd h hf
    rename_i hl
    simp only [Prod.mk.injEq, true_and] at h
    have hc := hp.chunks_le
    rw [← h]
    exact ⟨hp.valid, hp.selection, hp.fallback, hp.preferred, hp.chosen, by simp only; omega⟩
  · exact absurd h hf

theorem keeps_receiveChunk (h : Told x s₀ s) (hpe : s₀.pendingAt pr = some pn) (hp : pn.Sound) :
    Keeps x s₀ (x.receiveChunk pr pn) s := by
  refine keeps_request_bind h fun o => keeps_request_bind h fun rp => ?_
  simp only
  split
  · refine keeps_now_bind h fun i => ?_
    cases ha : pn.transfer.receiveIncrChunk x.sha256
        ((x.atoms.identifyTarget rp.type).getD .applicationOctetStream) rp.format rp.value o
        i with
    | mk a t =>
      simp only
      cases a with
      | deleteForNextChunk => exact keeps_update (h.insert _ (hp.receiveIncrChunk ha))
      | failed e => exact keeps_completeIncoming h (by simp)
      | completed rs =>
        refine keeps_completeIncoming h fun rs' hr => ?_
        cases hph : pn.transfer.phase with
        | receivingIncr tr an =>
          exact ⟨hp.valid, _, .incr hpe rfl hph (by rw [ha, hr])⟩
        | awaitingTargets | awaitingData _ | terminal =>
          have hc := congrArg Prod.fst ha
          simp only [IncomingTransfer.receiveIncrChunk, hph] at hc
          exact absurd hc failure_ne_completed
  · exact keeps_completeIncoming h (failure_not_completed _ _ _)

theorem keeps_handlePropertyNotify (h : Told x s₀ s) (hs : s.incoming = s₀.incoming)
    {e} : Keeps x s₀ (x.handlePropertyNotify e) s := by
  unfold Host.handlePropertyNotify
  split
  · split
    · exact keeps_update (h.of_same rfl fun _ _ hr => hr)
    refine keeps_read ?_
    split
    · exact h
    rename_i pn hp
    split
    · refine Keeps.then (keeps_update (h.remove _)) fun _ s h' => ?_
      refine keeps_receiveChunk h' ?_ (h.sound.pending hp)
      rw [← hp, Backend.pendingAt, Backend.pendingAt, hs]
    · exact h
  · split
    · exact keeps_request h
    · exact h

/-- Reads that fail answer nothing else. -/
theorem keeps_failReads {rd}
    (hr : ∀ re ∈ rd, ∀ rs, re.2 ≠ .completed rs) (h : Told x s₀ s) : Keeps x s₀ (failReads rd) s := by
  induction rd generalizing s with
  | nil => exact h
  | cons re rd ih =>
    obtain ⟨pr, a⟩ := re
    have ha := hr _ List.mem_cons_self
    have ho : Keeps x s₀ (failRead pr a) s := by
      refine keeps_read ?_
      split
      · exact h
      · refine Keeps.then (keeps_update (h.remove _)) fun _ s h => ?_
        refine (keeps_completeIncoming h fun rs hre => ?_).then fun _ _ h => keeps_request h
        exact absurd hre (ha rs)
    exact ho.then fun _ s h => ih (fun re hra => hr re (List.mem_cons_of_mem _ hra)) h

theorem told_noteOwnerChange (h : Told x s₀ s) {sl o} : Told x s₀ (x.noteOwnerChange s sl o) := by
  unfold Host.noteOwnerChange
  split
  · exact h
  · exact h.of_same rfl fun r rs hr => by simpa using hr

theorem keeps_handleSelectionClear (h : Told x s₀ s) {t a} : Keeps x s₀ (x.handleSelectionClear t a) s := by
  refine keeps_update ?_
  have ht : Told x s₀ { s with lastServerTime := t } := h.of_same rfl fun _ _ hr => hr
  unfold Host.lostSelection
  simp only
  split
  · exact ht
  · split
    · exact told_noteOwnerChange (ht.setOwned _ _)
    · exact ht

theorem keeps_handleXfixesSelectionNotify (h : Told x s₀ s) {atom owner} :
    Keeps x s₀ (x.handleXfixesSelectionNotify atom owner) s := by
  unfold Host.handleXfixesSelectionNotify
  split
  · exact h
  rename_i selection _
  change Keeps x s₀ (if owner = s.knownOwners.get selection then _ else _) s
  split
  · exact h
  refine Keeps.then (keeps_update ?_) fun _ s' h' => keeps_failReads ?_ h'
  · unfold Host.ownerSeen
    split
    · exact told_noteOwnerChange (h.setOwned _ _)
    · exact told_noteOwnerChange h
  · intro read hr
    simp only [Host.readsOfOtherOwners, List.mem_filterMap] at hr
    obtain ⟨entry, _, he⟩ := hr
    split at he
    · cases he
      exact fun _ => failure_ne_completed
    · cases he

theorem keeps_handleEvent (h : Told x s₀ s) (hs : s.incoming = s₀.incoming) {e} :
    Keeps x s₀ (x.handleEvent e) s := by
  cases e with
  | selectionRequest => exact keeps_request h
  | selectionNotify e => exact keeps_handleSelectionNotify h hs
  | selectionClear t a => exact keeps_handleSelectionClear h
  | propertyNotify e => exact keeps_handlePropertyNotify h hs
  | destroyNotify => exact h
  | xfixesSelectionNotify a o =>
    simp only [Host.handleEvent]
    split
    · exact keeps_handleXfixesSelectionNotify h
    · exact h
  | other => exact h

/-! ## Turns -/

theorem keeps_pollEvent (h : Told x s s) : Keeps x s x.pollEvent s := by
  refine keeps_read ?_
  split
  · have hre : Told x s { s with deferredEvents := ‹List XEvent› } := h.of_same rfl fun _ _ hr => hr
    exact keeps_handleEvent hre rfl
  · refine keeps_request_bind h fun e => ?_
    cases e with
    | none => exact h
    | some e => exact keeps_handleEvent h rfl

theorem keeps_turn (h : Told x s s) {tr} (ht : tr.admitted = true) : Keeps x s (x.turn tr) s := by
  cases tr with
  | poll => exact keeps_pollEvent h
  | expire =>
    refine keeps_now_bind h fun i => ?_
    refine keeps_failReads ?_ h
    intro rd hr
    simp only [List.mem_filterMap, Option.map_eq_some_iff] at hr
    obtain ⟨en, _, ⟨a, t⟩, he, rfl⟩ := hr
    unfold IncomingTransfer.expire at he
    split at he
    · have ha := congrArg Prod.fst (Option.some.inj he)
      intro rs hre
      exact failure_ne_completed (ha.trans hre)
    · cases he
  | command c =>
    cases c with
    | set r => exact keeps_handleSet h
    | clear sl => exact keeps_handleClear h
    | read r =>
      refine keeps_handleRead h ?_
      simp only [Host.Turn.admitted] at ht
      cases hv : r.validate with
      | ok u => rfl
      | error e => simp [hv, Except.toBool] at ht

end Keeps

/-! ## The reads of a run -/

theorem Told.refl {x} (hs : s.Sound) (ho : s.outbox = []) : Told x s s :=
  ⟨hs, fun r rs h => by simp [ho] at h⟩

/-- Between two turns. -/
def ActorState.Sound : ActorState → Prop
  | .running s => s.Sound ∧ s.outbox = []
  | .stopped => True

theorem told_turn {x} (hs : s.Sound) (ho : s.outbox = []) {turn}
    (ht : turn.admitted = true) (a : Answers) : Told x s (((x.turn turn).start s).exec a 0).2 :=
  (keeps_turn (Told.refl hs ho) ht).exec a 0

theorem sound_step {x : Host} {st} (h : st.Sound) {op} : (x.step st op).2.Sound := by
  obtain ⟨t, a⟩ := op
  cases st with
  | stopped => trivial
  | running s =>
    simp only [Host.step]
    split
    · rename_i htu
      have ht := told_turn (x := x) h.1 h.2 htu a
      split
      · rename_i heq
        rw [heq] at ht
        exact ⟨ht.sound, rfl⟩
      · trivial
    · exact h

theorem delivers_of_mem_step {x} (hs : s.Sound) (ho : s.outbox = []) {turn a r rs}
    (h : Output.read r (.ok rs) ∈ (x.step (.running s) (turn, a)).1) :
    r.validate = .ok () ∧ ∃ d, Delivers x s r rs d := by
  simp only [Host.step] at h
  split at h
  · rename_i htu
    have ht := told_turn (x := x) hs ho htu a
    split at h
    · rename_i heq
      rw [heq] at ht
      exact ht.told r rs h
    · rename_i heq
      rw [heq] at ht
      refine ht.told r rs ?_
      simpa [Backend.shutdown] using h
  · cases h

/-- Whatever the servers and clients do, a read that any run answers with a
result delivers a value of the state before the turn, and the daemon accepts
the result exactly when that delivery is publishable. -/
theorem read_accepted_iff (x : Host) (knownOwners : PerSelection Window) (deferredEvents : List XEvent)
    (time : UInt32) (turns : List (Host.Turn × Answers)) (turn : Host.Turn) (answers : Answers) (s : Backend)
    (hs : Run.final x.step (.running (.opened knownOwners deferredEvents time)) turns = .running s)
    (r : ClipboardReadRawRequest) (result : RawClipboardReadResult)
    (h : Output.read r (.ok result) ∈ (x.step (.running s) (turn, answers)).1) :
    (∃ d, Delivers x s r result d) ∧
      ∀ d, Delivers x s r result d → (Accepted x.sha256 result.toRaw r ↔ d.Publishable) := by
  have hso : ActorState.Sound (.running s) := by
    have ho : ActorState.Sound (.running (.opened knownOwners deferredEvents time)) :=
      ⟨fun e he => by simp [Backend.opened] at he, rfl⟩
    rw [← hs]
    exact Run.final_induction ho (fun st op h => sound_step h) turns
  obtain ⟨hv, hde⟩ := delivers_of_mem_step hso.1 hso.2 h
  exact ⟨hde, fun d hd => hd.accepted_iff hso.1 hv⟩

/-! ## Runs that deliver -/

/-- Every request succeeds; `owner` owns the selections, the next event is
`event`, and every property has the value `property`. -/
def answering (owner : Window) (event : XEvent) (property : PropertyReply) : Answers := fun _ query =>
  match query with
  | .now => (0 : Nat)
  | .request .pollForEvent => some (some event)
  | .request (.getSelectionOwner _) => some owner
  | .request (.getProperty ..) => some property
  | .request .changeTimeProbe => some ()
  | .request .getInputFocus => some ()
  | .request (.setSelectionOwner ..) => some ()
  | .request (.convertSelection ..) => some ()
  | .request (.deleteProperty _) => some ()
  | .request (.serve _) => some ()

def probeEvent : XEvent := .propertyNotify ⟨50, 115, 9, .newValue⟩

def noProperty : PropertyReply := ⟨0, 0, 0, 0, []⟩

/-- A request for an image, from the clipboard. -/
def imageRequest : ClipboardReadRawRequest := ⟨.clipboard, [.imagePng], false⟩

/-- The actor takes the clipboard for an image. -/
def setImage : Host.Turn × Answers :=
  (.command (.set ⟨.clipboard, image⟩), answering 50 probeEvent noProperty)

def holdingImage : Backend :=
  { Backend.opened ⟨0, 0⟩ [] 0 with
    owned := ⟨some ⟨image, 9⟩, none⟩, revisions := ⟨1, 0⟩, knownOwners := ⟨50, 0⟩, lastServerTime := 9 }

def imageRead : RawClipboardReadResult :=
  ⟨.clipboard, 1, image, ⟨.imagePng, .direct, 3, Vector.replicate 32 0, false, false, .completed⟩⟩

theorem image_read_accepted : Accepted Host.small.sha256 imageRead.toRaw imageRequest :=
  ((read_accepted_iff Host.small ⟨0, 0⟩ [] 0 [setImage] (.command (.read imageRequest))
    (answering 50 probeEvent noProperty) holdingImage rfl imageRequest imageRead
    List.mem_cons_self).2 (.own 1 .imagePng image)
    (@Delivers.own Host.small holdingImage imageRequest imageRead ⟨image, 9⟩ .imagePng rfl rfl rfl)).2
    ⟨by decide, by decide⟩

/-- Another client owns the clipboard from the start, lists the image and
stores it. -/
def readImage : List (Host.Turn × Answers) :=
  [(.command (.read imageRequest), answering 7 probeEvent noProperty),
    (.poll, answering 7 (.selectionNotify ⟨9, 50, 100, 102, 200⟩) ⟨111, 32, 0, 1, [113, 0, 0, 0]⟩)]

def storeImage : Host.Turn × Answers :=
  (.poll, answering 7 (.selectionNotify ⟨9, 50, 100, 113, 200⟩) ⟨113, 8, 0, 3, [1, 2, 3]⟩)

/-- A transfer of revision 1 of the text `é` as `STRING`. -/
def stringRead (phase : IncomingPhase) (bytes : List UInt8) (chunks : Nat) : PendingRead :=
  ⟨⟨.clipboard, 7, 200, 1, false, phase, bytes, chunks, 10⟩, [.string], ⟨.clipboard, [.string], false⟩⟩

theorem stringRead_sound {p b c} (hp : p = .awaitingData .string ∨ ∃ a, p = .receivingIncr .string a)
    (hc : c ≤ maxIncrChunks) : (stringRead p b c).Sound where
  valid := by rfl
  selection := rfl
  fallback := rfl
  preferred := rfl
  chosen := by
    intro t ht
    have hs : t = .string := by
      obtain rfl | ⟨a, rfl⟩ := hp <;> simpa [stringRead, eq_comm] using ht
    rw [hs]
    exact ⟨rfl, rfl⟩
  chunks_le := hc

/-- Three reads that are answered with a result and refused: one before the
first change of owner was seen, one of a `STRING` that is not ASCII, and one
whose INCR announcement was too high. -/
theorem reads_answered_and_refused : (∃ result, Output.read imageRequest (.ok result) ∈ (Host.small.step
        (Run.final Host.small.step (.running (.opened ⟨7, 0⟩ [] 0)) readImage) storeImage).1 ∧
      ¬ Accepted Host.small.sha256 result.toRaw imageRequest) ∧
    (∃ result, ((stringRead (.awaitingData .string) [] 0).transfer.finishDirect Host.small.sha256 .string
        .string 8 [0xe9]).1 = .completed result ∧
      ¬ Accepted Host.small.sha256 result.toRaw ⟨.clipboard, [.string], false⟩) ∧
    ∃ result, ((stringRead (.receivingIncr .string 2) [0x61] 1).transfer.receiveIncrChunk Host.small.sha256
        .string 8 [] 7 0).1 = .completed result ∧
      ¬ Accepted Host.small.sha256 result.toRaw ⟨.clipboard, [.string], false⟩ := by
  refine ⟨⟨{ imageRead with revision := 0 }, List.mem_cons_self, ?_⟩, ?_, ?_⟩
  · intro ⟨read, hre⟩
    cases hre
  · obtain ⟨result, hr⟩ : ∃ result, ((stringRead (.awaitingData .string) [] 0).transfer.finishDirect
        Host.small.sha256 .string .string 8 [0xe9]).1 = .completed result := ⟨_, rfl⟩
    refine ⟨result, hr, fun ha => ?_⟩
    have he := ((finishDirect_accepted Host.small.sha256
      (stringRead_sound (.inl rfl) (by decide)) hr).1 ha).2
    exact absurd (he rfl) (by decide)
  · obtain ⟨result, hr⟩ : ∃ result, ((stringRead (.receivingIncr .string 2) [0x61] 1).transfer.receiveIncrChunk
        Host.small.sha256 .string 8 [] 7 0).1 = .completed result := ⟨_, rfl⟩
    refine ⟨result, hr, fun ha => ?_⟩
    have han := ((receiveIncrChunk_accepted Host.small.sha256
      (stringRead_sound (.inr ⟨2, rfl⟩) (by decide)) rfl hr).1 ha).2
    exact absurd han (by decide)

end Xenoteer.Clipboard
