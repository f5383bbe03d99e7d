/-
The clipboard part of the wire contract (`xenoteer-protocol/src/clipboard.rs`)
and the content digest of `artifact.rs`: what a transfer's evidence says, and
the check every reader of it repeats.
-/
import Xenoteer.Lib.Checks
import Xenoteer.Protocol.Values

namespace Xenoteer

open Lib.Checks

/-- Largest clipboard selection body: 16 MiB. -/
def maxSelectionBytes : Nat := 16777216

def maxClipboardTargetBytes : Nat := 128

def maxClipboardTargets : Nat := 32

def maxIncrChunks : Nat := 4096

inductive ClipboardValidationError where
  | target
  | selectionTooLarge
  | transferEvidence

/-- Independently owned X11 selections. -/
inductive SelectionName where
  | clipboard
  | primary
deriving DecidableEq

/-! ## Targets and digests -/

def supportedClipboardTargets : List Text :=
  ["UTF8_STRING".toList, "text/plain;charset=utf-8".toList, "text/plain".toList, "STRING".toList,
    "application/octet-stream".toList, "image/png".toList]

/-- A bounded X11 target atom name. -/
structure ClipboardTarget where
  text : Text
  length : text.byteLen ≤ maxClipboardTargetBytes
  supported : text ∈ supportedClipboardTargets

def ClipboardTarget.new (value : Text) : Except ClipboardValidationError ClipboardTarget :=
  if h : value.byteLen ≤ maxClipboardTargetBytes ∧ value ∈ supportedClipboardTargets then
    .ok ⟨value, h.1, h.2⟩
  else .error .target

theorem ClipboardTarget.new_text (t : ClipboardTarget) : ClipboardTarget.new t.text = .ok t := by
  simp [ClipboardTarget.new, t.length, t.supported]

inductive ArtifactValidationError where
  | sha256

/-- Canonical lowercase hexadecimal SHA-256 content identity. -/
structure Sha256Digest where
  text : Text
  length : text.byteLen = 64
  lowerHex : text.all isLowerHexDigit = true

def Sha256Digest.new (value : Text) : Except ArtifactValidationError Sha256Digest :=
  if h : value.byteLen = 64 ∧ value.all isLowerHexDigit = true then .ok ⟨value, h.1, h.2⟩
  else .error .sha256

theorem Sha256Digest.new_text (d : Sha256Digest) : Sha256Digest.new d.text = .ok d := by
  simp [Sha256Digest.new, d.length, d.lowerHex]

/-! ## Transfers -/

inductive SelectionTransferMode where
  | direct
  | incr (announcedMinimumBytes : Nat) (chunks : Nat)

inductive SelectionTransferFailureReason where
  | timeout
  | ownerChanged
  | requestorDestroyed
  | protocolViolation
  | selectionTooLarge
  | cancelled
deriving DecidableEq

inductive SelectionTransferTerminal where
  | completed
  | failed (reason : SelectionTransferFailureReason)
deriving DecidableEq

/-- Content-free evidence that a selection transfer reached a terminal state. -/
structure SelectionTransferEvidence where
  target : ClipboardTarget
  transfer : SelectionTransferMode
  contentLength : Nat
  sha256 : Sha256Digest
  ownerChanged : Bool
  terminalChunkObserved : Bool
  terminal : SelectionTransferTerminal

namespace SelectionTransferEvidence

def modeIsConsistent (e : SelectionTransferEvidence) : Bool :=
  match e.transfer, e.terminal with
  | .direct, .completed => !e.terminalChunkObserved
  | .incr announced chunks, .completed =>
    0 < chunks && chunks ≤ maxIncrChunks && e.terminalChunkObserved && announced ≤ e.contentLength
  | .direct, .failed _ => !e.terminalChunkObserved
  | .incr _ chunks, .failed _ => chunks ≤ maxIncrChunks && !e.terminalChunkObserved

def ownershipIsConsistent (e : SelectionTransferEvidence) : Bool :=
  match e.terminal with
  | .completed => !e.ownerChanged
  | .failed .ownerChanged => e.ownerChanged
  | .failed _ => true

def validate (e : SelectionTransferEvidence) : Except ClipboardValidationError Unit := do
  let _ ← ClipboardTarget.new e.target.text
  let _ ← (Sha256Digest.new e.sha256.text).mapError fun _ => ClipboardValidationError.transferEvidence
  ensure (e.contentLength ≤ maxSelectionBytes) .selectionTooLarge
  ensure (e.modeIsConsistent && e.ownershipIsConsistent) .transferEvidence

def completed (e : SelectionTransferEvidence) : Bool := e.terminal = .completed

theorem validate_eq_ok {e : SelectionTransferEvidence} {u : Unit} :
    e.validate = .ok u ↔ e.contentLength ≤ maxSelectionBytes ∧ e.modeIsConsistent = true ∧
      e.ownershipIsConsistent = true := by
  have hs : (Sha256Digest.new e.sha256.text).mapError
      (fun _ => ClipboardValidationError.transferEvidence) = .ok e.sha256 := by
    rw [Sha256Digest.new_text]; rfl
  simp [validate, ClipboardTarget.new_text, hs, bind_eq_ok]

end SelectionTransferEvidence

end Xenoteer
