/-
What the three ways of completing a read deliver, against what the daemon
accepts: one direct property (`finishDirect`), the end of an INCR transfer
(`receiveIncrChunk`), and the actor's own payload (`ownedResult`).

All three are deliverable; they differ in the bytes their evidence describes.
A `STRING` is transcoded to UTF-8, so the evidence of the property or of the
Latin-1 representation describes other bytes than the payload, unless they are
ASCII.
-/
import Xenoteer.Clipboard.Backend
import Xenoteer.Daemon.ClipboardReads

namespace Xenoteer.Clipboard

open Lib

/-- The payload bytes that the wire bytes of a target become. -/
def deliveredBytes (target : RawClipboardTarget) (wire : List UInt8) : List UInt8 :=
  if target = .string then Utf8.encode (Utf8.ofLatin1 wire) else wire

/-- The wire bytes describe the delivered ones. -/
def WireExact (target : RawClipboardTarget) (wire : List UInt8) : Prop :=
  target = .string → Utf8.isAscii wire = true

variable {tr : RawClipboardTarget} {wire : List UInt8}

theorem wireExact_iff {d : List UInt8 → ClipboardContentDigest} :
    (wire.length = (deliveredBytes tr wire).length ∧ d wire = d (deliveredBytes tr wire)) ↔
      WireExact tr wire := by
  unfold deliveredBytes WireExact
  by_cases h : tr = .string
  · simp only [h, if_true, forall_const]
    constructor
    · intro ⟨hl, _⟩
      exact Utf8.isAscii_of_length hl.symm
    · intro ha
      rw [Utf8.encode_ofLatin1_of_isAscii ha]
      exact ⟨rfl, rfl⟩
  · simp [h]

theorem length_le_deliveredBytes (tr wire) : wire.length ≤ (deliveredBytes tr wire).length := by
  unfold deliveredBytes
  split
  · exact Utf8.length_le_encode_ofLatin1 wire
  · exact Nat.le_refl _

/-! ## Targets -/

theorem isContent_of_isTextTarget (h : isTextTarget tr = true) : tr.isContent = true := by
  revert h
  cases tr <;> simp [isTextTarget, RawClipboardTarget.isContent]

variable {r : ClipboardReadRawRequest}

/-- The requests of the theorem: those `validate` lets through. -/
theorem isContent_of_validate (h : r.validate = .ok ())
    (hm : tr ∈ r.preferredTargets) : tr.isContent = true := by
  unfold ClipboardReadRawRequest.validate at h
  split at h
  · cases h
  split at h
  · rename_i ha
    exact List.all_eq_true.1 (Bool.and_eq_true_iff.1 ha).1 tr hm
  · cases h

/-- A chosen target is one the request allows. -/
theorem chooseTarget_allowed (hv : r.validate = .ok ()) {a}
    (h : chooseTarget a r.preferredTargets = some tr) : targetAllowed r tr = true ∧ tr.isContent = true := by
  unfold chooseTarget at h
  have hm := List.mem_of_find?_eq_some h
  unfold targetAllowed
  by_cases he : r.preferredTargets.isEmpty
  · have ht : isTextTarget tr = true := by
      simp only [he, if_true] at hm
      revert hm
      cases tr <;> simp [defaultTextPreference, isTextTarget]
    simp only [he, if_true]
    exact ⟨ht, isContent_of_isTextTarget ht⟩
  · simp only [he, if_false, Bool.false_eq_true] at hm ⊢
    exact ⟨by simpa using hm, isContent_of_validate hv hm⟩

/-! ## Payloads -/

theorem toOption_eq_some {ε α : Type} {rs : Except ε α} {a : α} (h : rs.toOption = some a) : rs = .ok a := by
  cases rs with
  | error e => cases h
  | ok b => cases h; rfl

variable {p : ClipboardPayload}

theorem payloadFromWire_bytes {f : Bool} (h : payloadFromWire tr wire f = some p) :
    p.bytes = deliveredBytes tr wire := by
  have hu : ∀ {t : List Char}, Utf8.decode? wire = some t →
      (ClipboardPayload.utf8Text t).toOption = some p → p.bytes = wire := by
    intro t ht hp
    rw [(ClipboardPayload.utf8Text_eq_ok (toOption_eq_some hp)).2, Utf8.decode?_eq_some.1 ht]
  have hb : ∀ {own : RawClipboardTarget}, (ClipboardPayload.binary own wire).toOption = some p →
      p.bytes = wire := fun hp => (ClipboardPayload.binary_eq_ok (toOption_eq_some hp)).2
  cases tr with
  | targets | timestamp | multiple => cases h
  | string =>
    rw [deliveredBytes, if_pos rfl]
    exact (ClipboardPayload.utf8Text_eq_ok (toOption_eq_some h)).2
  | imagePng | applicationOctetStream => exact hb h
  | utf8String | textPlainUtf8 | textPlain =>
    simp only [payloadFromWire] at h
    split at h
    · rename_i t ht
      exact hu ht h
    · split at h
      · exact hb h
      · cases h

/-- The kind of the payload is one the daemon knows for the target. -/
theorem payloadFromWire_kind
    (h : payloadFromWire tr wire r.allowBinaryFallback = some p) {raw : RawClipboardRead}
    (hki : raw.payloadKind = p.kind) (hby : raw.bytes = p.bytes) (hta : raw.evidence.target = tr) :
    (validatedKind raw r).isSome = true := by
  have hu : ∀ {t : List Char}, (ClipboardPayload.utf8Text t).toOption = some p →
      isTextTarget tr = true → (validatedKind raw r).isSome = true := by
    intro t hp ht
    obtain ⟨hk, hb⟩ := ClipboardPayload.utf8Text_eq_ok (toOption_eq_some hp)
    simp [validatedKind, hki, hk, hby, hb, hta, ht, Utf8.decode?_encode]
  have hbi : (ClipboardPayload.binary tr wire).toOption = some p → isBinaryTarget tr = true →
      (validatedKind raw r).isSome = true := by
    intro hp ht
    have hk := (ClipboardPayload.binary_eq_ok (toOption_eq_some hp)).1
    simp [validatedKind, hki, hk, hta, ht]
  cases tr with
  | targets | timestamp | multiple => cases h
  | string => exact hu h rfl
  | imagePng | applicationOctetStream => exact hbi h rfl
  | utf8String | textPlainUtf8 | textPlain =>
    simp only [payloadFromWire] at h
    split at h
    · exact hu h rfl
    rename_i hn
    split at h
    · rename_i ha
      obtain ⟨hk, hb⟩ := ClipboardPayload.binary_eq_ok (toOption_eq_some h)
      simp [validatedKind, hki, hk, hby, hb, hta, isBinaryTarget, isTextTarget, ha, hn]
    · cases h

theorem representation_bytes (h : p.representation tr = some wire) : p.bytes = deliveredBytes tr wire := by
  unfold ClipboardPayload.representation at h
  split at h
  · split at h
    · rename_i hu
      have hne : tr ≠ .string := by
        intro he
        simp [he, RawClipboardTarget.isUtf8] at hu
      simp only [deliveredBytes, hne, if_false]
      exact Option.some.inj h
    · split at h
      · rename_i hs
        obtain ⟨t, ht, hl⟩ := Option.bind_eq_some_iff.1 h
        rw [deliveredBytes, if_pos hs, ← Utf8.toLatin1?_eq_some.1 hl]
        exact Utf8.decode?_eq_some.1 ht
      · cases h
  · rename_i own hk
    split at h
    · rename_i ho
      have hne : tr ≠ .string := by
        intro he
        cases p.isBinary own hk <;> simp_all
      simp only [deliveredBytes, hne, if_false]
      exact Option.some.inj h
    · cases h

theorem representation_kind (h : p.representation tr = some wire) (r) {raw}
    (hki : raw.payloadKind = p.kind) (hb : raw.bytes = p.bytes) (ht : raw.evidence.target = tr) :
    (validatedKind raw r).isSome = true := by
  unfold ClipboardPayload.representation at h
  split at h
  · rename_i hk
    have hte : isTextTarget tr = true := by
      revert h
      cases tr <;> simp [RawClipboardTarget.isUtf8, isTextTarget]
    simp [validatedKind, hki, hk, hb, ht, hte, p.isText hk]
  · rename_i own hk
    split at h
    · rename_i how
      have hbi : isBinaryTarget tr = true := by
        obtain ho | ho := p.isBinary own hk <;> simp [← how, ho, isBinaryTarget]
      simp [validatedKind, hki, hk, ht, hbi, how]
    · cases h

/-! ## Pending reads -/

/-- A pending read belongs to a validated request, its target is one the request
allows, and what came so far is within the limits. -/
structure PendingRead.Sound (p : PendingRead) : Prop where
  valid : p.reply.validate = .ok ()
  selection : p.transfer.selection = p.reply.selection
  fallback : p.transfer.allowBinaryFallback = p.reply.allowBinaryFallback
  preferred : p.preferredTargets = p.reply.preferredTargets
  chosen : ∀ target, (p.transfer.phase = .awaitingData target ∨
      ∃ announced, p.transfer.phase = .receivingIncr target announced) →
    targetAllowed p.reply target = true ∧ target.isContent = true
  chunks_le : p.transfer.chunks ≤ maxIncrChunks

section Digest

variable (d : List UInt8 → ClipboardContentDigest)

theorem failure_ne_completed {d rs oc rl} {t : IncomingTransfer} : (t.failure d rs oc).1 ≠ .completed rl := by
  unfold IncomingTransfer.failure
  split
  simp

/-- A direct transfer is published exactly when the revision is not zero and the
property of a `STRING` is ASCII. -/
theorem finishDirect_accepted {p : PendingRead} (hp : p.Sound) {tr a : RawClipboardTarget}
    {f : UInt8} {wire : List UInt8} {rs : RawClipboardReadResult}
    (h : (p.transfer.finishDirect d tr a f wire).1 = .completed rs) :
    Accepted d rs.toRaw p.reply ↔ p.transfer.revision ≠ 0 ∧ WireExact tr wire := by
  unfold IncomingTransfer.finishDirect at h
  split at h
  · exact absurd h failure_ne_completed
  rename_i hph
  simp only [not_or, ne_eq, not_not] at hph
  split at h
  · exact absurd h failure_ne_completed
  rename_i hl
  split at h
  · rename_i py hpa
    rw [hp.fallback] at hpa
    injection h with h
    obtain ⟨ha, hc⟩ := hp.chosen tr (.inl hph.1)
    have hb := payloadFromWire_bytes hpa
    have hd : Deliverable p.reply rs.toRaw := by
      rw [← h]
      exact ⟨hp.selection, hc, ha, payloadFromWire_kind hpa rfl rfl rfl,
        Nat.le_of_not_lt hl, rfl, rfl, rfl⟩
    rw [accepted_iff d hd, ← h]
    simp only [RawClipboardReadResult.toRaw, hb, reduceCtorEq, false_implies, implies_true, and_true]
    rw [wireExact_iff]
  · exact absurd h failure_ne_completed

/-- The end of an INCR transfer is published exactly when the revision is not
zero and no more was announced than is delivered. -/
theorem receiveIncrChunk_accepted {p : PendingRead} (hp : p.Sound) {ac : RawClipboardTarget}
    {f : UInt8} {c : List UInt8} {o : Window} {i : Instant}
    {rs : RawClipboardReadResult} {tr : RawClipboardTarget} {a : Nat}
    (hph : p.transfer.phase = .receivingIncr tr a)
    (h : (p.transfer.receiveIncrChunk d ac f c o i).1 = .completed rs) : Accepted d rs.toRaw p.reply ↔
      p.transfer.revision ≠ 0 ∧ a ≤ (deliveredBytes tr p.transfer.bytes).length := by
  unfold IncomingTransfer.receiveIncrChunk at h
  simp only [hph] at h
  split at h
  · exact absurd h failure_ne_completed
  split at h
  · exact absurd h failure_ne_completed
  split at h
  · exact absurd h failure_ne_completed
  split at h
  · split at h
    · exact absurd h failure_ne_completed
    rename_i hc
    split at h
    · exact absurd h failure_ne_completed
    rename_i py hpa
    rw [hp.fallback] at hpa
    injection h with h
    obtain ⟨ha, hco⟩ := hp.chosen tr (.inr ⟨a, hph⟩)
    have hb := payloadFromWire_bytes hpa
    have hd : Deliverable p.reply rs.toRaw := by
      rw [← h]
      exact ⟨hp.selection, hco, ha, payloadFromWire_kind hpa rfl rfl rfl,
        py.length_le, rfl, rfl, ⟨Nat.pos_of_ne_zero hc, hp.chunks_le, rfl⟩⟩
    rw [accepted_iff d hd, ← h]
    simp [RawClipboardReadResult.toRaw, hb]
  · split at h
    · exact absurd h failure_ne_completed
    · cases h

end Digest

/-- The actor's own value is published exactly when the revision is not zero and
a text read as `STRING` is ASCII. -/
theorem ownedResult_accepted {x : Host} {s}
    (hv : r.validate = .ok ()) {result} (h : x.ownedResult s r = .ok result) :
    Accepted x.sha256 result.toRaw r ↔ s.revisions.get r.selection ≠ 0 ∧
      ∀ owned, s.owned.get r.selection = some owned →
        chooseTarget owned.payload.advertisedTargets r.preferredTargets = some .string →
        Utf8.isAscii owned.payload.bytes = true := by
  unfold Host.ownedResult at h
  split at h
  · cases h
  rename_i owned ho
  split at h
  · cases h
  rename_i tr ht
  split at h
  · cases h
  rename_i wire hw
  injection h with h
  obtain ⟨ha, hc⟩ := chooseTarget_allowed hv ht
  have hb := representation_bytes hw
  have hl : wire.length ≤ maxSelectionBytes := by
    have hle := length_le_deliveredBytes tr wire
    rw [← hb] at hle
    exact hle.trans owned.payload.length_le
  have hd : Deliverable r result.toRaw := by
    rw [← h]
    exact ⟨rfl, hc, ha, representation_kind hw r rfl rfl rfl, hl, rfl, rfl, rfl⟩
  rw [accepted_iff x.sha256 hd, ← h]
  simp only [RawClipboardReadResult.toRaw, hb, reduceCtorEq, false_implies, implies_true,
    and_true, wireExact_iff]
  refine and_congr_right fun _ => ?_
  constructor
  · intro he own how hs
    cases ho.symm.trans how
    cases ht.symm.trans hs
    rw [hb, deliveredBytes, if_pos rfl, Utf8.isAscii_encode_ofLatin1]
    exact he rfl
  · intro has hs
    have ho' := has owned ho (by rw [ht, hs])
    rwa [hb, deliveredBytes, if_pos hs, Utf8.isAscii_encode_ofLatin1] at ho'

end Xenoteer.Clipboard
