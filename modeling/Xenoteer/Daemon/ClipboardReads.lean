/-
What the daemon accepts of a clipboard read (`validate_raw_read` of
`xenoteerd/src/clipboard_service.rs`) before it publishes it.
-/
import Xenoteer.Clipboard.Receive
import Xenoteer.Daemon.CommandResults

namespace Xenoteer.Clipboard

open Lib Lib.Checks

/-- The actor's result as the daemon takes it over. -/
structure RawClipboardRead where
  selection : SelectionName
  revision : UInt64
  payloadKind : ClipboardPayloadKind
  bytes : List UInt8
  evidence : RawSelectionTransferEvidence

/-- `RawClipboardRead::from`. -/
def RawClipboardReadResult.toRaw (raw : RawClipboardReadResult) : RawClipboardRead where
  selection := raw.selection
  revision := raw.revision
  payloadKind := raw.payload.kind
  bytes := raw.payload.bytes
  evidence := raw.evidence

inductive ValidatedPayloadKind where
  | text
  | binary (target : RawClipboardTarget)

structure ValidatedClipboardRead where
  selection : SelectionName
  revision : UInt64
  payloadKind : ValidatedPayloadKind
  bytes : List UInt8
  evidence : SelectionTransferEvidence
  sha256 : Sha256Digest

def isTextTarget : RawClipboardTarget → Bool
  | .utf8String | .textPlainUtf8 | .textPlain | .string => true
  | _ => false

def isBinaryTarget : RawClipboardTarget → Bool
  | .imagePng | .applicationOctetStream => true
  | _ => false

/-- `{byte:02x}`. -/
def lowerHex2 (byte : UInt8) : Text := [lowerHexDigit (byte.toNat / 16), lowerHexDigit (byte.toNat % 16)]

def digestToProtocol (bytes : ClipboardContentDigest) : Except ControlPlaneError Sha256Digest :=
  internally (Sha256Digest.new (bytes.toList.flatMap lowerHex2))

/-- The public name of a content target. -/
def publicName : RawClipboardTarget → Option Text
  | .utf8String => some "UTF8_STRING".toList
  | .textPlainUtf8 => some "text/plain;charset=utf-8".toList
  | .textPlain => some "text/plain".toList
  | .string => some "STRING".toList
  | .imagePng => some "image/png".toList
  | .applicationOctetStream => some "application/octet-stream".toList
  | .targets | .timestamp | .multiple => none

def rawToPublicTarget (target : RawClipboardTarget) : Except ControlPlaneError ClipboardTarget := do
  let name ← orInternal (publicName target)
  internally (ClipboardTarget.new name)

/-- The kind of payload the target may have. -/
def validatedKind (raw : RawClipboardRead) (request : ClipboardReadRawRequest) :
    Option ValidatedPayloadKind :=
  let target := raw.evidence.target
  match raw.payloadKind with
  | .utf8Text => if isTextTarget target && (Utf8.decode? raw.bytes).isSome then some .text else none
  | .binary own =>
    if isBinaryTarget target && own = target then some (.binary own)
    else if own = .applicationOctetStream && isTextTarget target && request.allowBinaryFallback &&
        (Utf8.decode? raw.bytes).isNone then
      some (.binary .applicationOctetStream)
    else none

def targetAllowed (request : ClipboardReadRawRequest) (target : RawClipboardTarget) : Bool :=
  if request.preferredTargets.isEmpty then isTextTarget target else request.preferredTargets.contains target

section Digest

variable (digest : List UInt8 → ClipboardContentDigest)

def validateRawRead (raw : RawClipboardRead) (request : ClipboardReadRawRequest) :
    Except ControlPlaneError ValidatedClipboardRead := do
  let payloadKind ← orInternal (validatedKind raw request)
  ensure (raw.selection = request.selection && raw.revision ≠ 0 &&
    targetAllowed request raw.evidence.target && raw.evidence.contentLength = raw.bytes.length &&
    raw.evidence.sha256 = digest raw.bytes) .internal
  let sha256 ← digestToProtocol raw.evidence.sha256
  let target ← rawToPublicTarget raw.evidence.target
  let evidence : SelectionTransferEvidence :=
    ⟨target, raw.evidence.transfer, raw.evidence.contentLength, sha256, raw.evidence.ownerChanged,
      raw.evidence.terminalChunkObserved, raw.evidence.terminal⟩
  internally evidence.validate
  ensure evidence.completed .internal
  return ⟨raw.selection, raw.revision, payloadKind, raw.bytes, evidence, sha256⟩

/-! ## Exactly the reads it accepts -/

theorem lowerHex2_ok {b} : Text.byteLen (lowerHex2 b) = 2 ∧ (lowerHex2 b).all isLowerHexDigit = true := by
  have hd : ∀ n < 16, (lowerHexDigit n).utf8Size = 1 ∧ isLowerHexDigit (lowerHexDigit n) = true := by
    decide
  have hlt := b.toNat_lt
  have hh := hd (b.toNat / 16) (by omega)
  have hl := hd (b.toNat % 16) (by omega)
  simp [lowerHex2, Text.byteLen, hh, hl]

theorem lowerHex_ok (b : List UInt8) : Text.byteLen (b.flatMap lowerHex2) = 2 * b.length ∧
    (b.flatMap lowerHex2).all isLowerHexDigit = true := by
  induction b with
  | nil => simp [Text.byteLen]
  | cons bt b ih =>
    obtain ⟨hl, hh⟩ := lowerHex2_ok
    rw [List.flatMap_cons]
    constructor
    · unfold Text.byteLen at hl ih ⊢
      rw [List.map_append, List.sum_append, hl, ih.1, List.length_cons]
      omega
    · rw [List.all_append, hh, ih.2]
      rfl

/-- Every digest has a canonical text. -/
theorem digestToProtocol_ok (b : ClipboardContentDigest) : ∃ s, digestToProtocol b = .ok s := by
  obtain ⟨hl, hh⟩ := lowerHex_ok b.toList
  have hs : b.toList.length = 32 := by simp
  rw [hs] at hl
  exact ⟨⟨_, hl, hh⟩, by simp only [digestToProtocol, Sha256Digest.new, hl, hh]; rfl⟩

theorem publicName_of_isContent {t} (h : t.isContent = true) :
    ∃ n ∈ supportedClipboardTargets, publicName t = some n := by
  revert h
  cases t <;> simp [RawClipboardTarget.isContent, publicName, supportedClipboardTargets]

theorem rawToPublicTarget_ok {t} (h : t.isContent = true) : ∃ n, rawToPublicTarget t = .ok n := by
  obtain ⟨v, hm, hv⟩ := publicName_of_isContent h
  have hl : ∀ v ∈ supportedClipboardTargets, Text.byteLen v ≤ maxClipboardTargetBytes := by
    decide
  refine ⟨⟨v, hl v hm, hm⟩, ?_⟩
  simp [rawToPublicTarget, hv, orInternal, internally, ClipboardTarget.new, hl v hm, hm,
    bind, Except.bind, Except.mapError]

/-- What the actor's results have in common with what is accepted. -/
structure Deliverable (request : ClipboardReadRawRequest) (raw : RawClipboardRead) : Prop where
  selection : raw.selection = request.selection
  content : raw.evidence.target.isContent = true
  allowed : targetAllowed request raw.evidence.target = true
  kind : (validatedKind raw request).isSome = true
  length_le : raw.evidence.contentLength ≤ maxSelectionBytes
  completed : raw.evidence.terminal = .completed
  ownerKept : raw.evidence.ownerChanged = false
  framed : match raw.evidence.transfer with
    | .direct => raw.evidence.terminalChunkObserved = false
    | .incr _ chunks => 0 < chunks ∧ chunks ≤ maxIncrChunks ∧ raw.evidence.terminalChunkObserved = true

/-- The daemon publishes the read. -/
def Accepted (raw : RawClipboardRead) (request : ClipboardReadRawRequest) : Prop :=
  ∃ read, validateRawRead digest raw request = .ok read

/-- Such a result is accepted exactly when its revision is not zero, its
evidence describes the delivered bytes, and no more was announced than came. -/
theorem accepted_iff {r raw} (h : Deliverable r raw) :
    Accepted digest raw r ↔ raw.revision ≠ 0 ∧ raw.evidence.contentLength = raw.bytes.length ∧
      raw.evidence.sha256 = digest raw.bytes ∧
      ∀ a c, raw.evidence.transfer = .incr a c → a ≤ raw.evidence.contentLength := by
  obtain ⟨k, hk⟩ := Option.isSome_iff_exists.1 h.kind
  obtain ⟨sha, hs⟩ := digestToProtocol_ok raw.evidence.sha256
  obtain ⟨t, hta⟩ := rawToPublicTarget_ok h.content
  have hf := h.framed
  simp only [Accepted, validateRawRead, hk, orInternal, Option.elim_some, hs, hta, bind_eq_ok,
    ensure_eq_ok, internally, wrapped_eq_ok, SelectionTransferEvidence.validate_eq_ok,
    SelectionTransferEvidence.modeIsConsistent, SelectionTransferEvidence.ownershipIsConsistent,
    SelectionTransferEvidence.completed, h.selection, h.allowed, h.completed, h.ownerKept]
  cases ht : raw.evidence.transfer with
  | direct | incr a c =>
    simp only [ht] at hf
    simp [hf, h.length_le, pure, Except.pure, and_assoc]

end Digest

end Xenoteer.Clipboard
