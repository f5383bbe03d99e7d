/-
Sending a selection in pieces (`clipboard/send.rs`): an INCR transfer writes its
next chunk each time the requestor deletes the property, and an empty chunk at
the end.
-/
import Xenoteer.Clipboard.Receive

namespace Xenoteer.Clipboard

def clipboardDirectLimitBytes : Nat := 256 * 1024

def clipboardIncrChunkBytes : Nat := 64 * 1024

inductive TransferWireMode where
  | direct
  | incr
deriving DecidableEq

def transferWireMode (bytes : Nat) : TransferWireMode :=
  if bytes ≤ clipboardDirectLimitBytes then .direct else .incr

structure OutgoingKey where
  requestor : UInt32
  property : UInt32

structure OutgoingIncr where
  key : OutgoingKey
  target : RawClipboardTarget
  bytes : List UInt8
  digest : ClipboardContentDigest
  offset : Nat
  chunks : Nat
  lastDeleteSequence : Option UInt16
  deadline : Instant

inductive OutgoingAction where
  | writeChunk (target : RawClipboardTarget) (bytes : List UInt8)
  | writeTerminator (evidence : RawSelectionTransferEvidence)
  | duplicateIgnored
  | failed (evidence : RawSelectionTransferEvidence)

namespace OutgoingIncr

def new (key : OutgoingKey) (target : RawClipboardTarget) (bytes : List UInt8) (digest : ClipboardContentDigest)
    (now : Instant) : Option OutgoingIncr :=
  if transferWireMode bytes.length = .incr then
    some ⟨key, target, bytes, digest, 0, 0, none, now + clipboardTransferTimeout⟩
  else none

theorem new_eq_some {key t b d now o} (h : new key t b d now = some o) :
    clipboardDirectLimitBytes < b.length ∧
      o = ⟨key, t, b, d, 0, 0, none, now + clipboardTransferTimeout⟩ := by
  simp only [new, transferWireMode] at h
  by_cases hl : b.length ≤ clipboardDirectLimitBytes
  · simp [hl] at h
  · simp only [hl, if_false, if_true, Option.some.injEq] at h
    exact ⟨Nat.not_le.1 hl, h.symm⟩

variable (o : OutgoingIncr)

def completed : RawSelectionTransferEvidence :=
  ⟨o.target, .incr o.bytes.length o.chunks, o.bytes.length, o.digest, false, true, .completed⟩

def failed (reason : SelectionTransferFailureReason) : RawSelectionTransferEvidence :=
  ⟨o.target, .incr o.bytes.length o.chunks, o.offset, o.digest, reason = .ownerChanged, false, .failed reason⟩

def onPropertyDeleted (sequence : UInt16) (now : Instant) : OutgoingAction × OutgoingIncr :=
  if o.deadline ≤ now then (.failed (o.failed .timeout), o)
  else if o.lastDeleteSequence = some sequence then (.duplicateIgnored, o)
  else
    let o := { o with lastDeleteSequence := some sequence }
    if o.offset < o.bytes.length then
      let stop := min (o.offset + clipboardIncrChunkBytes) o.bytes.length
      (.writeChunk o.target (o.bytes.extract o.offset stop),
        { o with offset := stop, chunks := min (o.chunks + 1) maxIncrChunks })
    else (.writeTerminator o.completed, o)

end OutgoingIncr

end Xenoteer.Clipboard
