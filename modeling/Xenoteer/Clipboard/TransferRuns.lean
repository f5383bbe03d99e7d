/-
An incoming transfer over every sequence of calls: what it holds is what it
accepted, within its ceilings, and what a failure reports of it.

The one exit that reports something else is the refusal at the terminator: the
bytes are taken out of the transfer before they are decoded, so the failure that
follows describes no bytes at all (`failure_evidence_iff`).
-/
import Mathlib.Data.List.Chain
import Xenoteer.Clipboard.Send
import Xenoteer.Lib.Run

namespace Xenoteer.Clipboard

open Lib

inductive IncomingCall where
  | selectTarget (target : RawClipboardTarget)
  | beginIncr (target : RawClipboardTarget) (announced : Nat)
  | finishDirect (target actualType : RawClipboardTarget) (format : UInt8) (bytes : List UInt8)
  | receiveIncrChunk (actualType : RawClipboardTarget) (format : UInt8) (bytes : List UInt8) (ownerNow : UInt32)
      (now : Instant)
  | expire (now : Instant)
  | ownerChanged
  | protocolViolation

/-- The chunk a call was accepted with. -/
def acceptedChunk : IncomingCall × Option IncomingAction → Option (List UInt8)
  | (.receiveIncrChunk _ _ bytes _ _, some .deleteForNextChunk) => some bytes
  | _ => none

def accepted (log : List (IncomingCall × Option IncomingAction)) : List (List UInt8) :=
  log.filterMap acceptedChunk

namespace IncomingTransfer

/-- One call, with the action it returns. -/
def step (sha256 : List UInt8 → ClipboardContentDigest) (t : IncomingTransfer) :
    IncomingCall → Option IncomingAction × IncomingTransfer
  | .selectTarget target => (none, (t.selectTarget target).2)
  | .beginIncr target announced => (t.beginIncr sha256 target announced).map some id
  | .finishDirect target actualType format bytes =>
    (t.finishDirect sha256 target actualType format bytes).map some id
  | .receiveIncrChunk actualType format bytes ownerNow now =>
    (t.receiveIncrChunk sha256 actualType format bytes ownerNow now).map some id
  | .expire now => match t.expire sha256 now with
    | some answer => answer.map some id
    | none => (none, t)
  | .ownerChanged => (t.ownerHasChanged sha256).map some id
  | .protocolViolation => (t.protocolFailure sha256).map some id

/-- The call ends an INCR transfer whose bytes are not the payload of its target. -/
def RefusedAtEnd (t : IncomingTransfer) : IncomingCall → Prop
  | .receiveIncrChunk actualType format bytes ownerNow now =>
    (∃ announced, t.phase = .receivingIncr actualType announced) ∧ ownerNow = t.owner ∧ now < t.deadline ∧
      format = 8 ∧ bytes = [] ∧ t.chunks ≠ 0 ∧ payloadFromWire actualType t.bytes t.allowBinaryFallback = none
  | _ => False

/-- The transfer has not begun to receive chunks. -/
def Waiting (t : IncomingTransfer) : Prop := t.phase = .awaitingTargets ∨ ∃ target, t.phase = .awaitingData target

/-- Nothing is received, and only a transfer that ends loses what it has. -/
structure Idles (t t' : IncomingTransfer) : Prop where
  bytes : t'.phase ≠ .terminal → t.phase ≠ .terminal ∧ t'.bytes = t.bytes
  length_le : t'.bytes.length ≤ t.bytes.length
  chunks : t'.chunks = t.chunks
  waiting : t'.Waiting → t.Waiting

variable (sha256 : List UInt8 → ClipboardContentDigest)

/-- What one call can do. -/
inductive Outcome (t : IncomingTransfer) (call : IncomingCall) : Option IncomingAction → IncomingTransfer → Prop
  | idle (a : Option IncomingAction) (t' : IncomingTransfer) (ha : ∀ e, a ≠ some (.failed e))
      (hk : acceptedChunk (call, a) = none) (hi : Idles t t') : Outcome t call a t'
  | failed (reason : SelectionTransferFailureReason) (changed : Bool) (hr : ¬ t.RefusedAtEnd call) :
    Outcome t call (some (t.failure sha256 reason changed).1) (t.failure sha256 reason changed).2
  | refused (hr : t.RefusedAtEnd call) (hc : t.chunks ≠ 0) :
    Outcome t call (some ({ t with bytes := [] }.failure sha256 .protocolViolation false).1)
      ({ t with bytes := [] }.failure sha256 .protocolViolation false).2
  | accepted (c : List UInt8) (hk : acceptedChunk (call, some .deleteForNextChunk) = some c)
      (hp : t.phase ≠ .terminal) (hw : ¬ t.Waiting) (hn : c ≠ [])
      (hl : t.bytes.length + c.length ≤ maxSelectionBytes) (hc : t.chunks ≠ maxIncrChunks) :
    Outcome t call (some .deleteForNextChunk) { t with bytes := t.bytes ++ c, chunks := t.chunks + 1 }

section

variable {sha256} {t t' : IncomingTransfer}

theorem Idles.refl : Idles t t := ⟨fun h => ⟨h, rfl⟩, Nat.le_refl _, rfl, id⟩

theorem Idles.ends (hl : t'.bytes.length ≤ t.bytes.length) (hc : t'.chunks = t.chunks) (hp : t'.phase = .terminal) :
    Idles t t' :=
  ⟨fun h => absurd hp h, hl, hc, fun h => by simp [Waiting, hp] at h⟩

theorem acceptedChunk_failure (cl r) (c : Bool) :
    acceptedChunk (cl, some (t.failure sha256 r c).1) = none := by
  cases cl <;> rfl

theorem outcome_chunk {ty f b w n} :
    let r := t.receiveIncrChunk sha256 ty f b w n
    Outcome sha256 t (.receiveIncrChunk ty f b w n) (some r.1) r.2 := by
  intro r
  simp only [r, receiveIncrChunk]
  split
  next tr a hp =>
    split_ifs with ho hd ht hb hc hl
    · exact .failed .ownerChanged true fun h => ho h.2.1
    · exact .failed .timeout false fun h => Nat.not_le.2 h.2.2.1 hd
    · refine .failed .protocolViolation false fun h => ?_
      obtain ⟨⟨other, hi⟩, -, -, hf, -⟩ := h
      cases hp.symm.trans hi
      simp [hf] at ht
    · exact .failed .protocolViolation false fun h => h.2.2.2.2.2.1 hc
    · rw [not_or, not_not, not_not] at ht
      obtain ⟨rfl, hf⟩ := ht
      split
      next hw => exact .refused ⟨⟨a, hp⟩, not_not.1 ho, Nat.not_le.1 hd, hf, hb, hc, hw⟩ hc
      · exact .idle _ _ (by simp) rfl (.ends (Nat.zero_le _) rfl rfl)
    · exact .failed .selectionTooLarge false fun h => hb h.2.2.2.2.1
    · rw [not_or, Nat.not_lt] at hl
      exact .accepted b rfl (by simp [hp]) (by simp [Waiting, hp]) hb hl.1 hl.2
  next hp => exact .failed .protocolViolation false fun h => h.1.elim (hp _)

theorem step_outcome {c} : Outcome sha256 t c (t.step sha256 c).1 (t.step sha256 c).2 := by
  cases c with
  | selectTarget tr =>
    simp only [step, selectTarget]
    split_ifs with h
    · exact .idle _ _ (by simp) rfl .refl
    · rw [not_or, not_not] at h
      exact .idle _ _ (by simp) rfl ⟨fun _ => ⟨by simp [h.1], rfl⟩, Nat.le_refl _, rfl, fun _ => .inl h.1⟩
  | beginIncr tr a =>
    simp only [step, beginIncr]
    split_ifs with hp hl
    · exact .failed .protocolViolation false id
    · exact .failed .selectionTooLarge false id
    · rw [not_not] at hp
      exact .idle _ _ (by simp) rfl ⟨fun _ => ⟨by simp [hp], rfl⟩, Nat.le_refl _, rfl, fun _ => .inr ⟨tr, hp⟩⟩
  | finishDirect tr ty f b =>
    simp only [step, finishDirect]
    split_ifs with hp hl
    · exact .failed .protocolViolation false id
    · exact .failed .selectionTooLarge false id
    · split
      · exact .idle _ _ (by simp) rfl (.ends (Nat.le_refl _) rfl rfl)
      · exact .failed .protocolViolation false id
  | receiveIncrChunk ty f b w n => exact outcome_chunk
  | expire n =>
    simp only [step, expire]
    split
    next r hr =>
      split at hr
      · cases hr
        exact .failed .timeout false id
      · cases hr
    · exact .idle _ _ (by simp) rfl .refl
  | ownerChanged => exact .failed .ownerChanged true id
  | protocolViolation => exact .failed .protocolViolation false id

/-! ## What is held -/

/-- A transfer that is not over holds the chunks it accepted. -/
structure Holds (t : IncomingTransfer) (cs : List (List UInt8)) : Prop where
  bytes : t.phase ≠ .terminal → t.bytes = cs.flatten
  count : t.chunks = cs.length
  waiting : t.Waiting → cs = []
  nonempty : ∀ c ∈ cs, c ≠ []
  length_le : t.bytes.length ≤ maxSelectionBytes
  chunks_le : t.chunks ≤ maxIncrChunks

variable {cs : List (List UInt8)}

theorem Holds.idles (h : Holds t cs) (hi : Idles t t') : Holds t' cs where
  bytes hp := (hi.bytes hp).2.trans (h.bytes (hi.bytes hp).1)
  count := hi.chunks.trans h.count
  waiting hw := h.waiting (hi.waiting hw)
  nonempty := h.nonempty
  length_le := Nat.le_trans hi.length_le h.length_le
  chunks_le := hi.chunks ▸ h.chunks_le

theorem Holds.outcome {call a} (h : Holds t cs)
    (ho : Outcome sha256 t call a t') : Holds t' (cs ++ (acceptedChunk (call, a)).toList) := by
  cases ho with
  | idle _ _ _ hk hi => simpa [hk] using h.idles hi
  | failed r ch hr =>
    have hi : Idles t (t.failure sha256 r ch).2 := .ends (Nat.le_refl _) rfl rfl
    simpa [acceptedChunk_failure] using h.idles hi
  | refused hr hc =>
    have hi : Idles t ({ t with bytes := [] }.failure sha256 .protocolViolation false).2 :=
      .ends (Nat.zero_le _) rfl rfl
    simpa [acceptedChunk_failure] using h.idles hi
  | accepted c hk hp hw hn hl hc =>
    rw [hk]
    refine ⟨fun _ => ?_, ?_, fun hn => absurd hn hw, ?_, by simpa using hl, Nat.lt_of_le_of_ne h.chunks_le hc⟩
    · simp [h.bytes hp]
    · simp [h.count]
    · simpa [or_imp, forall_and, hn] using h.nonempty

theorem holds_run {sel w p rev fb n c} : Holds (Run.final (step sha256) (new sel w p rev fb n) c)
      (accepted (Run.answers (step sha256) (new sel w p rev fb n) c)) := by
  refine Run.run_induction (P := fun t log => Holds t (accepted log)) ?_ ?_ c
  · exact ⟨fun _ => rfl, rfl, fun _ => rfl, nofun, Nat.zero_le _, Nat.zero_le _⟩
  intro t log cl h
  have ho := h.outcome (step_outcome : Outcome sha256 t cl _ _)
  rw [accepted, List.filterMap_append]
  cases ha : acceptedChunk (cl, (t.step sha256 cl).1) <;> simpa [ha, accepted] using ho

/-! ## What a failure reports -/

/-- The evidence describes the accepted chunks. -/
def ReportsReceived (sha256 : List UInt8 → ClipboardContentDigest) (phase : IncomingPhase) (chunks : List (List UInt8))
    (evidence : RawSelectionTransferEvidence) : Prop :=
  evidence.contentLength = chunks.flatten.length ∧ evidence.sha256 = sha256 chunks.flatten ∧
    ∀ target announced, phase = .receivingIncr target announced → evidence.transfer = .incr announced chunks.length

variable {e : RawSelectionTransferEvidence}

theorem reports_failure (h : Holds t cs) (hp : t.phase ≠ .terminal) {r c}
    (he : (t.failure sha256 r c).1 = .failed e) : ReportsReceived sha256 t.phase cs e := by
  cases he
  refine ⟨congrArg List.length (h.bytes hp), congrArg sha256 (h.bytes hp), ?_⟩
  intro tr a hi
  simp [hi, h.count]

/-- At the terminator the failure describes no bytes. -/
theorem not_reports_refused (h : Holds t cs) (hc : t.chunks ≠ 0)
    (he : ({ t with bytes := [] }.protocolFailure sha256).1 = .failed e) : ¬ ReportsReceived sha256 t.phase cs e := by
  cases he
  rintro ⟨hl, -⟩
  cases cs with
  | nil => exact hc h.count
  | cons c cs =>
    have hn := List.length_pos_iff.2 (h.nonempty c List.mem_cons_self)
    simp only [List.flatten_cons, List.length_append, List.length_nil] at hl
    omega

theorem Holds.reports_iff {call a} (h : Holds t cs) (hp : t.phase ≠ .terminal)
    (ho : Outcome sha256 t call a t') (he : a = some (.failed e)) :
    ReportsReceived sha256 t.phase cs e ↔ ¬ t.RefusedAtEnd call := by
  cases ho with
  | idle _ _ ha => exact absurd he (ha e)
  | failed r c hr => exact iff_of_true (reports_failure h hp (Option.some.inj he)) hr
  | refused hr hc => exact iff_of_false (not_reports_refused h hc (Option.some.inj he)) (not_not.2 hr)
  | accepted => cases he

end

/-- **A failure reports what was received**, whatever calls led to it, unless it refuses the
bytes of an INCR transfer at its terminator. -/
theorem failure_evidence_iff (selection : SelectionName) (owner property : UInt32) (revision : UInt64)
    (allowBinaryFallback : Bool) (now : Instant) (calls : List IncomingCall) (call : IncomingCall)
    (evidence : RawSelectionTransferEvidence) :
    let s := new selection owner property revision allowBinaryFallback now
    let t := Run.final (step sha256) s calls
    t.phase ≠ .terminal → (t.step sha256 call).1 = some (.failed evidence) →
      (ReportsReceived sha256 t.phase (accepted (Run.answers (step sha256) s calls)) evidence ↔
        ¬ t.RefusedAtEnd call) := by
  intro s t hp he
  exact (holds_run ..).reports_iff hp step_outcome he

/-- A transfer owned by window 1, asked for one byte of UTF-8 in pieces. -/
def oneByteCalls : List IncomingCall :=
  [.selectTarget .utf8String, .beginIncr .utf8String 1, .receiveIncrChunk .utf8String 8 [0xff] 1 0]

/-- The byte 0xff is no UTF-8: refused at the terminator, it is reported as no bytes. -/
theorem refused_terminator_reports_nothing :
    let sha256 := fun b : List UInt8 => Vector.replicate 32 (UInt8.ofNat b.length)
    let s := new .clipboard 1 2 3 false 0
    let t := Run.final (step sha256) s oneByteCalls
    t.phase ≠ .terminal ∧ ∃ ev,
      (t.step sha256 (.receiveIncrChunk .utf8String 8 [] 1 0)).1 = some (.failed ev) ∧
        ev.contentLength = 0 ∧ ev.sha256 = sha256 [] ∧
        accepted (Run.answers (step sha256) s oneByteCalls) = [[0xff]] := by
  refine ⟨by decide, _, rfl, rfl, rfl, by decide⟩

/-- When the owner changes after the byte was accepted, the byte is reported. -/
theorem failure_evidence_owner_changed :
    let sha256 := fun b : List UInt8 => Vector.replicate 32 (UInt8.ofNat b.length)
    let t := Run.final (step sha256) (new .clipboard 1 2 3 false 0) oneByteCalls
    ∃ ev, (t.step sha256 .ownerChanged).1 = some (.failed ev) ∧ ev.contentLength = 1 ∧
      ev.sha256 = sha256 [0xff] := by
  intro sha256 t
  have h := failure_evidence_iff sha256 .clipboard 1 2 3 false 0 oneByteCalls .ownerChanged _ (by decide) rfl
  exact ⟨_, rfl, (h.2 id).1, (h.2 id).2.1⟩

/-! ## Sender and receiver -/

/-- One deletion of the property: its sequence number, and the time at which the
sender sees it and the receiver sees what the sender then wrote. -/
structure Deletion where
  sequence : UInt16
  sentAt : Instant
  receivedAt : Instant

/-- What the sender writes is what the receiver reads, from the owner it asked. -/
def exchange (s : OutgoingIncr × IncomingTransfer) (d : Deletion) :
    (OutgoingAction × Option IncomingAction) × (OutgoingIncr × IncomingTransfer) :=
  let (action, o) := s.1.onPropertyDeleted d.sequence d.sentAt
  let receive (target : RawClipboardTarget) (bytes : List UInt8) :=
    let (answer, t) := s.2.receiveIncrChunk sha256 target 8 bytes s.2.owner d.receivedAt
    ((action, some answer), (o, t))
  match action with
  | .writeChunk target bytes => receive target bytes
  | .writeTerminator evidence => receive evidence.target []
  | .duplicateIgnored | .failed _ => ((action, none), (o, s.2))

/-- The number of chunks of `length` bytes. -/
def chunkCount (length : Nat) : Nat := (length + clipboardIncrChunkBytes - 1) / clipboardIncrChunkBytes

/-- The receiver has what the sender has sent. -/
structure Synced (o : OutgoingIncr) (t : IncomingTransfer) : Prop where
  phase : ∃ announced, t.phase = .receivingIncr o.target announced
  bytes : t.bytes = o.bytes.take o.offset
  offset : o.offset = min (t.chunks * clipboardIncrChunkBytes) o.bytes.length
  large : 0 < o.bytes.length
  small : o.bytes.length ≤ maxSelectionBytes

/-- What the receiver answers to the terminator. -/
def Decodes (t : IncomingTransfer) (target : RawClipboardTarget) (bytes : List UInt8) (answer : IncomingAction) : Prop :=
  match payloadFromWire target bytes t.allowBinaryFallback with
  | some payload => ∃ evidence, answer = .completed ⟨t.selection, t.revision, payload, evidence⟩
  | none => ∃ evidence, answer = .failed evidence ∧ evidence.terminal = .failed .protocolViolation

variable {o : OutgoingIncr} {t : IncomingTransfer} {d : Deletion}

section

variable (h : Synced o t)

include h

theorem Synced.chunks_lt (ho : o.offset < o.bytes.length) : t.chunks < maxIncrChunks := by
  have ho' := h.offset
  have hl := h.small
  simp only [clipboardIncrChunkBytes, maxSelectionBytes, maxIncrChunks] at *
  omega

theorem Synced.chunks_ne (ho : ¬ o.offset < o.bytes.length) : t.chunks ≠ 0 := by
  intro hc
  have ho' := h.offset
  have hl := h.large
  rw [hc] at ho'
  omega

/-- While bytes are left, the next chunk is sent and accepted. -/
theorem exchange_chunk (hs : d.sentAt < o.deadline) (hr : d.receivedAt < t.deadline)
    (hd : o.lastDeleteSequence ≠ some d.sequence) (ho : o.offset < o.bytes.length) :
    ∃ c o', exchange sha256 (o, t) d = ((.writeChunk o.target c, some .deleteForNextChunk),
        (o', { t with bytes := t.bytes ++ c, chunks := t.chunks + 1 })) ∧
      Synced o' { t with bytes := t.bytes ++ c, chunks := t.chunks + 1 } ∧
      (o'.target = o.target ∧ o'.bytes = o.bytes ∧ o'.deadline = o.deadline) ∧
      o'.lastDeleteSequence = some d.sequence := by
  obtain ⟨a, hp⟩ := h.phase
  let s := min (o.offset + clipboardIncrChunkBytes) o.bytes.length
  have hlt : o.offset < s := by simp only [s, clipboardIncrChunkBytes]; omega
  have hle : s ≤ o.bytes.length := Nat.min_le_right ..
  have ht : t.bytes ++ o.bytes.extract o.offset s = o.bytes.take s := by
    rw [h.bytes, List.extract_eq_take_drop, ← List.take_add, Nat.add_sub_cancel' (Nat.le_of_lt hlt)]
  have hl : t.bytes.length + (o.bytes.extract o.offset s).length = s := by
    rw [← List.length_append, ht, List.length_take, Nat.min_eq_left hle]
  have hne : o.bytes.extract o.offset s ≠ [] := by
    intro he
    rw [he, h.bytes, List.length_take] at hl
    simp only [List.length_nil] at hl
    omega
  have hm : ¬ (maxSelectionBytes < t.bytes.length + (o.bytes.extract o.offset s).length ∨
      t.chunks = maxIncrChunks) := by
    rw [hl]
    exact not_or.2 ⟨Nat.not_lt.2 (Nat.le_trans hle h.small), Nat.ne_of_lt (h.chunks_lt ho)⟩
  refine ⟨o.bytes.extract o.offset s,
    { o with
      offset := s
      chunks := min (o.chunks + 1) maxIncrChunks
      lastDeleteSequence := some d.sequence }, ?_, ⟨⟨a, hp⟩, ht, ?_, h.large, h.small⟩, ⟨rfl, rfl, rfl⟩, rfl⟩
  · have ha : o.onPropertyDeleted d.sequence d.sentAt = (.writeChunk o.target (o.bytes.extract o.offset s),
        { o with
          offset := s
          chunks := min (o.chunks + 1) maxIncrChunks
          lastDeleteSequence := some d.sequence }) := by
      simp only [OutgoingIncr.onPropertyDeleted, Nat.not_le.2 hs, hd, ho, if_false, if_true, s]
    have hr' : t.receiveIncrChunk sha256 o.target 8 (o.bytes.extract o.offset s) t.owner d.receivedAt =
        (.deleteForNextChunk, { t with
          bytes := t.bytes ++ o.bytes.extract o.offset s
          chunks := t.chunks + 1 }) := by
      simp only [receiveIncrChunk, hp, Nat.not_le.2 hr, hne, hm, ne_eq, not_true_eq_false, or_self, if_false]
    simp only [exchange, ha, hr']
  · have hoff := h.offset
    simp only [s, clipboardIncrChunkBytes] at *
    omega

/-- After the last one the terminator is sent, and the receiver decodes what it has. -/
theorem exchange_terminator (hs : d.sentAt < o.deadline) (hr : d.receivedAt < t.deadline)
    (hd : o.lastDeleteSequence ≠ some d.sequence) (ho : ¬ o.offset < o.bytes.length) :
    ∃ ev a, (exchange sha256 (o, t) d).1 = (.writeTerminator ev, some a) ∧
      Decodes t o.target o.bytes a := by
  obtain ⟨an, hp⟩ := h.phase
  have hb : t.bytes = o.bytes := by rw [h.bytes, List.take_of_length_le (Nat.not_lt.1 ho)]
  refine ⟨o.completed, (t.receiveIncrChunk sha256 o.target 8 [] t.owner d.receivedAt).1, ?_, ?_⟩
  · simp only [exchange, OutgoingIncr.onPropertyDeleted, Nat.not_le.2 hs, hd, ho, if_false]
    rfl
  · simp only [receiveIncrChunk, hp, Nat.not_le.2 hr, h.chunks_ne ho, Decodes, ← hb, ne_eq, not_true_eq_false, or_self,
      if_false, if_true]
    cases payloadFromWire o.target t.bytes t.allowBinaryFallback with
    | none => exact ⟨_, rfl, rfl⟩
    | some p => exact ⟨_, rfl⟩

theorem Synced.lt_chunkCount : t.chunks < chunkCount o.bytes.length ↔ o.offset < o.bytes.length := by
  have hoff := h.offset
  simp only [chunkCount, clipboardIncrChunkBytes] at *
  omega

/-- The rest of an exchange, by induction on the deletions that are left. -/
theorem exchange_rest {ds} (ht : ∀ d ∈ ds, d.sentAt < o.deadline ∧ d.receivedAt < t.deadline)
    (hd : (o.lastDeleteSequence :: ds.map fun d => some d.sequence).IsChain (· ≠ ·))
    (hc : t.chunks ≤ chunkCount o.bytes.length) (hl : t.chunks + ds.length = chunkCount o.bytes.length + 1) :
    ∃ (c : List (List UInt8)) (ev : _) (a : _), (Run.answers (exchange sha256) (o, t) ds).map Prod.snd =
        c.map (fun ch => (.writeChunk o.target ch, some .deleteForNextChunk)) ++
          [(.writeTerminator ev, some a)] ∧
      t.chunks + c.length = chunkCount o.bytes.length ∧ Decodes t o.target o.bytes a := by
  induction ds generalizing o t with
  | nil => exact absurd hl (Nat.ne_of_lt (Nat.lt_succ_of_le hc))
  | cons d ds ih =>
    obtain ⟨hs, hr⟩ := ht d List.mem_cons_self
    rw [List.map_cons, List.isChain_cons_cons] at hd
    by_cases ho : o.offset < o.bytes.length
    · obtain ⟨ch, o', he, hsy, ⟨htg, hby, hdl⟩, hlast⟩ := exchange_chunk sha256 h hs hr hd.1 ho
      have hlt := h.lt_chunkCount.2 ho
      obtain ⟨c, ev, a, ha, hn, hdec⟩ := ih hsy
        (fun d hm => hdl ▸ ht d (List.mem_cons_of_mem _ hm)) (hlast ▸ hd.2) (by rw [hby]; exact hlt)
        (by simp only [hby, List.length_cons] at *; omega)
      refine ⟨ch :: c, ev, a, ?_, ?_, ?_⟩
      · rw [Run.answers_cons, he, List.map_cons, ha, htg]
        rfl
      · simp only [hby, List.length_cons] at *
        omega
      · rwa [htg, hby] at hdec
    · obtain ⟨ev, a, he, hdec⟩ := exchange_terminator sha256 h hs hr hd.1 ho
      have hge := mt h.lt_chunkCount.1 ho
      have hnil : ds = [] := List.length_eq_zero_iff.1 (by simp only [List.length_cons] at hl; omega)
      refine ⟨[], ev, a, ?_, by simp; omega, hdec⟩
      simp [hnil, he]

end

/-- **Sender and receiver compose to the identity**: each deletion, numbered unlike the
one before and in time, moves one chunk; `chunkCount` chunks and one terminator later the
receiver answers as decoding all the bytes at once does. A repeated number leaves the
sender as it was, and no calls take a receiver over its ceilings. -/
theorem exchange_decodes (selection : SelectionName) (owner property : UInt32) (revision : UInt64)
    (allowBinaryFallback : Bool) (now : Instant) (calls : List IncomingCall) :
    let t := Run.final (step sha256) (new selection owner property revision allowBinaryFallback now) calls
    (∀ (key : OutgoingKey) (target : RawClipboardTarget) (bytes : List UInt8) (digest : ClipboardContentDigest)
        (at' : Instant) (sender : OutgoingIncr) (deletions : List Deletion),
      OutgoingIncr.new key target bytes digest at' = some sender →
      (t.step sha256 (.beginIncr target bytes.length)).1 = some .deleteForNextChunk →
      (∀ deletion ∈ deletions, deletion.sentAt < sender.deadline ∧ deletion.receivedAt < t.deadline) →
      (deletions.map Deletion.sequence).IsChain (· ≠ ·) → deletions.length = chunkCount bytes.length + 1 →
      ∃ (chunks : List (List UInt8)) (evidence : _) (answer : _),
        (Run.answers (exchange sha256) (sender, (t.step sha256 (.beginIncr target bytes.length)).2)
            deletions).map Prod.snd =
          chunks.map (fun chunk => (.writeChunk target chunk, some .deleteForNextChunk)) ++
            [(.writeTerminator evidence, some answer)] ∧
        chunks.length = chunkCount bytes.length ∧ Decodes t target bytes answer) ∧
    (∀ (sender : OutgoingIncr) (sequence : UInt16) (at' : Instant), sender.lastDeleteSequence = some sequence →
      (sender.onPropertyDeleted sequence at').2 = sender) ∧
    t.bytes.length ≤ maxSelectionBytes ∧ t.chunks ≤ maxIncrChunks := by
  intro t
  have h : Holds t _ := holds_run
  refine ⟨?_, ?_, h.length_le, h.chunks_le⟩
  · intro key tr b dg at' o ds hn hb ht hd hl
    obtain ⟨hlarge, rfl⟩ := OutgoingIncr.new_eq_some hn
    simp only [step, beginIncr] at hb ⊢
    split_ifs at hb ⊢ with hp hs
    · cases hb
    · cases hb
    rw [not_not] at hp
    have hcs := h.waiting (.inr ⟨tr, hp⟩)
    have hnil : t.bytes = [] := by rw [h.bytes (by simp [hp]), hcs, List.flatten_nil]
    have hzero : t.chunks = 0 := by rw [h.count, hcs, List.length_nil]
    have hsy : Synced ⟨key, tr, b, dg, 0, 0, none, at' + clipboardTransferTimeout⟩
        { t with phase := .receivingIncr tr b.length } :=
      ⟨⟨_, rfl⟩, hnil, by simp [hzero], Nat.zero_lt_of_lt hlarge, Nat.not_lt.1 hs⟩
    have hch : (none :: ds.map fun d => some d.sequence).IsChain (· ≠ ·) := by
      cases ds with
      | nil => exact .singleton _
      | cons d ds =>
        refine .cons_cons nofun ((List.isChain_map (fun d : Deletion => some d.sequence) (l := d :: ds)).2 ?_)
        exact ((List.isChain_map _).1 hd).imp fun _ _ hne he => hne (Option.some.inj he)
    obtain ⟨c, ev, a, ha, hn, hdec⟩ := exchange_rest sha256 hsy ht hch
      (by simp [hzero]) (by simp [hzero, hl])
    exact ⟨c, ev, a, ha, by simpa [hzero] using hn, hdec⟩
  · intro o s at' hs
    simp only [OutgoingIncr.onPropertyDeleted, hs, if_true]
    split_ifs <;> rfl

/-- One byte over four chunks takes five. -/
theorem exchange_decodes_five :
    let sha256 := fun _ : List UInt8 => Vector.replicate 32 (0 : UInt8)
    let t := Run.final (step sha256) (new .clipboard 1 2 3 false 0) [.selectTarget .imagePng]
    let b := List.replicate 262145 (0 : UInt8)
    let ds := [1, 2, 3, 4, 5, 6].map fun i => Deletion.mk i 0 0
    ∃ o, OutgoingIncr.new ⟨1, 2⟩ .imagePng b (sha256 b) 0 = some o ∧
      ∃ (c : List (List UInt8)) (ev : _) (a : _),
        (Run.answers (exchange sha256) (o, (t.step sha256 (.beginIncr .imagePng b.length)).2) ds).map Prod.snd =
          c.map (fun ch => (.writeChunk .imagePng ch, some .deleteForNextChunk)) ++
            [(.writeTerminator ev, some a)] ∧
        c.length = 5 := by
  intro sha256 t b ds
  have hl : b.length = 262145 := List.length_replicate
  have hn : OutgoingIncr.new ⟨1, 2⟩ .imagePng b (sha256 b) 0 = some _ :=
    if_pos (by rw [transferWireMode, hl]; rfl)
  obtain ⟨c, ev, a, ha, hc, -⟩ := (exchange_decodes sha256 .clipboard 1 2 3 false 0
    [.selectTarget .imagePng]).1 ⟨1, 2⟩ .imagePng b (sha256 b) 0 _ ds hn (by rw [hl]; rfl)
      (by decide) (by decide) (by rw [hl]; rfl)
  exact ⟨_, hn, c, ev, a, ha, by rw [hc, hl]; rfl⟩

end IncomingTransfer

end Xenoteer.Clipboard
