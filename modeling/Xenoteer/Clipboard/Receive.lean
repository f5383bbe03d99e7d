/-
Receiving a selection from another client (`clipboard/receive.rs`): the
transfer's phases, from the owner's list of targets to one direct property or
a sequence of INCR chunks, and what each delivers.
-/
import Xenoteer.Clipboard.Payload

namespace Xenoteer.Clipboard

open Lib

def defaultTextPreference : List RawClipboardTarget := [.utf8String, .textPlainUtf8, .textPlain, .string]

def maxIncomingDirectBytes : Nat := maxSelectionBytes

/-- `CLIPBOARD_TRANSFER_TIMEOUT`, 10 s. -/
def clipboardTransferTimeout : Nat := 10000000000

def chooseTarget (advertised preferred : List RawClipboardTarget) : Option RawClipboardTarget :=
  let order := if preferred.isEmpty then defaultTextPreference else preferred
  order.find? (advertised.contains ·)

inductive IncomingPhase where
  | awaitingTargets
  | awaitingData (target : RawClipboardTarget)
  | receivingIncr (target : RawClipboardTarget) (announcedMinimumBytes : Nat)
  | terminal
deriving DecidableEq

structure IncomingTransfer where
  selection : SelectionName
  owner : UInt32
  property : UInt32
  revision : UInt64
  allowBinaryFallback : Bool
  phase : IncomingPhase
  bytes : List UInt8
  chunks : Nat
  deadline : Instant

inductive IncomingAction where
  | deleteForNextChunk
  | completed (result : RawClipboardReadResult)
  | failed (evidence : RawSelectionTransferEvidence)

/-- The payload that the bytes of a target are. -/
def payloadFromWire (target : RawClipboardTarget) (bytes : List UInt8) (allowBinaryFallback : Bool) :
    Option ClipboardPayload :=
  match target with
  | .utf8String | .textPlainUtf8 | .textPlain =>
    match Utf8.decode? bytes with
    | some text => (ClipboardPayload.utf8Text text).toOption
    | none =>
      if allowBinaryFallback then (ClipboardPayload.binary .applicationOctetStream bytes).toOption else none
  | .string => (ClipboardPayload.utf8Text (Utf8.ofLatin1 bytes)).toOption
  | .imagePng | .applicationOctetStream => (ClipboardPayload.binary target bytes).toOption
  | _ => none

namespace IncomingTransfer

def new (selection : SelectionName) (owner property : UInt32) (revision : UInt64)
    (allowBinaryFallback : Bool) (now : Instant) : IncomingTransfer where
  selection := selection
  owner := owner
  property := property
  revision := revision
  allowBinaryFallback := allowBinaryFallback
  phase := .awaitingTargets
  bytes := []
  chunks := 0
  deadline := now + clipboardTransferTimeout

def selectTarget (t : IncomingTransfer) (target : RawClipboardTarget) : Bool × IncomingTransfer :=
  if t.phase ≠ .awaitingTargets ∨ !target.isContent then (false, t)
  else (true, { t with phase := .awaitingData target })

section Digest

variable (sha256 : List UInt8 → ClipboardContentDigest)

section

variable (t : IncomingTransfer)

def failure (reason : SelectionTransferFailureReason) (ownerChanged : Bool) :
    IncomingAction × IncomingTransfer :=
  let (target, transfer) := match t.phase with
    | .awaitingData target => (target, SelectionTransferMode.direct)
    | .receivingIncr target announced => (target, .incr announced t.chunks)
    | .awaitingTargets | .terminal => (.applicationOctetStream, .direct)
  (.failed ⟨target, transfer, t.bytes.length, sha256 t.bytes, ownerChanged, false, .failed reason⟩,
    { t with phase := .terminal })

def protocolFailure : IncomingAction × IncomingTransfer :=
  t.failure sha256 .protocolViolation false

/-- `owner_changed`. -/
def ownerHasChanged : IncomingAction × IncomingTransfer :=
  t.failure sha256 .ownerChanged true

def expire (now : Instant) : Option (IncomingAction × IncomingTransfer) :=
  if t.phase ≠ .terminal ∧ t.deadline ≤ now then some (t.failure sha256 .timeout false) else none

def beginIncr (target : RawClipboardTarget) (announced : Nat) : IncomingAction × IncomingTransfer :=
  if t.phase ≠ .awaitingData target then t.protocolFailure sha256
  else if maxSelectionBytes < announced then t.failure sha256 .selectionTooLarge false
  else (.deleteForNextChunk, { t with phase := .receivingIncr target announced })

/-- The evidence describes the bytes of the property. -/
def finishDirect (target actualType : RawClipboardTarget) (format : UInt8)
    (bytes : List UInt8) : IncomingAction × IncomingTransfer :=
  if t.phase ≠ .awaitingData target ∨ actualType ≠ target ∨ format ≠ 8 then t.protocolFailure sha256
  else if maxIncomingDirectBytes < bytes.length then t.failure sha256 .selectionTooLarge false
  else match payloadFromWire target bytes t.allowBinaryFallback with
    | some payload =>
      (.completed ⟨t.selection, t.revision, payload,
        ⟨target, .direct, bytes.length, sha256 bytes, false, false, .completed⟩⟩,
        { t with phase := .terminal })
    | none => t.protocolFailure sha256

/-- An empty chunk ends the transfer. The evidence describes the bytes of the
payload. -/
def receiveIncrChunk (actualType : RawClipboardTarget) (format : UInt8)
    (bytes : List UInt8) (ownerNow : UInt32) (now : Instant) : IncomingAction × IncomingTransfer :=
  match t.phase with
  | .receivingIncr target announced =>
    if ownerNow ≠ t.owner then t.failure sha256 .ownerChanged true
    else if t.deadline ≤ now then t.failure sha256 .timeout false
    else if actualType ≠ target ∨ format ≠ 8 then t.protocolFailure sha256
    else if bytes = [] then
      if t.chunks = 0 then t.protocolFailure sha256
      else match payloadFromWire target t.bytes t.allowBinaryFallback with
        | none => { t with bytes := [] }.protocolFailure sha256
        | some payload =>
          (.completed ⟨t.selection, t.revision, payload,
            ⟨target, .incr announced t.chunks, payload.bytes.length, sha256 payload.bytes, false, true,
              .completed⟩⟩,
            { t with bytes := [], phase := .terminal })
    else if maxSelectionBytes < t.bytes.length + bytes.length ∨ t.chunks = maxIncrChunks then
      t.failure sha256 .selectionTooLarge false
    else (.deleteForNextChunk, { t with bytes := t.bytes ++ bytes, chunks := t.chunks + 1 })
  | _ => t.protocolFailure sha256

end

end Digest

end IncomingTransfer

end Xenoteer.Clipboard
