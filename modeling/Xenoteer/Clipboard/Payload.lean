/-
What the clipboard actor holds and answers (`xenoteer-x11/src/clipboard.rs`):
targets, secret payloads, requests and results.

A payload carries what its constructors check: it is within the selection
ceiling, text is UTF-8, and bytes have a reviewed binary target. SHA-256 is any
fixed function of the bytes.
-/
import Xenoteer.Lib.Utf8
import Xenoteer.Protocol.Clipboard

namespace Xenoteer.Clipboard

open Lib

inductive RawClipboardTarget where
  | targets
  | timestamp
  | multiple
  | utf8String
  | textPlainUtf8
  | textPlain
  | string
  | imagePng
  | applicationOctetStream
deriving DecidableEq

namespace RawClipboardTarget

def isContent : RawClipboardTarget → Bool
  | .targets | .timestamp | .multiple => false
  | _ => true

/-- The targets whose bytes are the text in UTF-8. -/
def isUtf8 : RawClipboardTarget → Bool
  | .utf8String | .textPlainUtf8 | .textPlain => true
  | _ => false

end RawClipboardTarget

inductive ClipboardRequestError where
  | payloadTooLarge
  | invalidTarget
  | tooManyTargets

/-! ## Payloads -/

inductive ClipboardPayloadKind where
  | utf8Text
  | binary (target : RawClipboardTarget)

/-- Secret selection body. -/
structure ClipboardPayload where
  kind : ClipboardPayloadKind
  bytes : List UInt8
  length_le : bytes.length ≤ maxSelectionBytes
  isText : kind = .utf8Text → (Utf8.decode? bytes).isSome = true
  isBinary : ∀ target, kind = .binary target → target = .imagePng ∨ target = .applicationOctetStream

/-- An exact SHA-256 content identity. -/
abbrev ClipboardContentDigest := Vector UInt8 32

/-- `latin1`: the ISO-8859-1 bytes of a UTF-8 text. -/
def latin1 (utf8 : List UInt8) : Option (List UInt8) := (Utf8.decode? utf8).bind Utf8.toLatin1?

namespace ClipboardPayload

def utf8Text (value : Text) : Except ClipboardRequestError ClipboardPayload :=
  if h : (Utf8.encode value).length ≤ maxSelectionBytes then
    .ok ⟨.utf8Text, Utf8.encode value, h, by simp [Utf8.decode?_encode], by simp⟩
  else .error .payloadTooLarge

def binary (target : RawClipboardTarget) (bytes : List UInt8) :
    Except ClipboardRequestError ClipboardPayload :=
  if ht : target = .imagePng ∨ target = .applicationOctetStream then
    if h : bytes.length ≤ maxSelectionBytes then
      .ok ⟨.binary target, bytes, h, by simp, by rintro _ ⟨⟩; exact ht⟩
    else .error .payloadTooLarge
  else .error .invalidTarget

def representation (p : ClipboardPayload) (target : RawClipboardTarget) : Option (List UInt8) :=
  match p.kind with
  | .utf8Text =>
    if target.isUtf8 then some p.bytes else if target = .string then latin1 p.bytes else none
  | .binary own => if own = target then some p.bytes else none

def advertisedTargets (p : ClipboardPayload) : List RawClipboardTarget :=
  [.targets, .timestamp, .multiple] ++ match p.kind with
    | .utf8Text =>
      [.utf8String, .textPlainUtf8, .textPlain] ++ if (latin1 p.bytes).isSome then [.string] else []
    | .binary target => [target]

theorem utf8Text_eq_ok {v p} (h : utf8Text v = .ok p) : p.kind = .utf8Text ∧ p.bytes = Utf8.encode v := by
  unfold utf8Text at h
  split at h <;> cases h
  exact ⟨rfl, rfl⟩

theorem binary_eq_ok {t b p} (h : binary t b = .ok p) : p.kind = .binary t ∧ p.bytes = b := by
  unfold binary at h
  split at h
  · split at h <;> cases h
    exact ⟨rfl, rfl⟩
  · cases h

end ClipboardPayload

/-! ## Requests -/

structure ClipboardSetRequest where
  selection : SelectionName
  payload : ClipboardPayload

structure ClipboardReadRawRequest where
  selection : SelectionName
  /-- Ordered unique content targets; empty uses the documented text preference. -/
  preferredTargets : List RawClipboardTarget
  allowBinaryFallback : Bool

def ClipboardReadRawRequest.validate (r : ClipboardReadRawRequest) : Except ClipboardRequestError Unit :=
  if maxClipboardTargets < r.preferredTargets.length then .error .tooManyTargets
  else if r.preferredTargets.all RawClipboardTarget.isContent && !hasDuplicates r.preferredTargets then
    .ok ()
  else .error .invalidTarget

/-! ## Results -/

/-- Verified selection ownership evidence. -/
structure ClipboardOwnershipEvidence where
  selection : SelectionName
  revision : UInt64
  owner : UInt32
  serverTime : UInt32
  verified : Bool

structure RawSelectionTransferEvidence where
  target : RawClipboardTarget
  transfer : SelectionTransferMode
  contentLength : Nat
  sha256 : ClipboardContentDigest
  ownerChanged : Bool
  terminalChunkObserved : Bool
  terminal : SelectionTransferTerminal

structure RawClipboardReadResult where
  selection : SelectionName
  revision : UInt64
  payload : ClipboardPayload
  evidence : RawSelectionTransferEvidence

inductive ClipboardActorFailureKind where
  | selectionHasNoOwner
  | targetUnsupported
  | ownerChanged
  | selectionTooLarge
  | transferTimeout
  | protocolViolation
  | requestorDestroyed
  | ownershipRace
  | backendUnavailable
  | actorPoisoned
  | actorStopped
  | actorPanicked
  | controlQueueFull

end Xenoteer.Clipboard
