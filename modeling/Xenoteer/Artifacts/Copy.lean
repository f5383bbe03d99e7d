/-
Copying an artifact body of a declared size, and checking a stored one.

A reader hands out its content in pieces of its own choosing. The loop asks
for one byte more than is still expected, so a reader that goes on is noticed
before anything of the surplus is kept.
-/
import Mathlib.Tactic.Common

namespace Xenoteer.Artifacts

def streamBufferBytes : Nat := 64 * 1024

inductive ArtifactCorruption where
  | bodySize | bodyDigest

inductive StoreError where
  | tooLarge
  | sizeMismatch
  | corrupt (id : Nat) (corruption : ArtifactCorruption)

structure ArtifactMetadata (Digest : Type) where
  id : Nat
  size : UInt64
  sha256 : Digest

/-- How far a loop over a reader got: what it kept, how much it read, and
whether it stopped because the reader went on. -/
structure Streamed where
  kept : List UInt8
  read : Nat
  overran : Bool

def Streamed.isSize (s : Streamed) (size : UInt64) : Bool :=
  !s.overran && s.kept.length == size.toNat

def readLimit (remaining : Nat) : Nat :=
  min (min (remaining + 1) (UInt64.size - 1)) streamBufferBytes

/-- The loop of both functions. Every read shortens the content, so the piece
that is handed out next may be any function of what is left. -/
def stream (piece : Nat → Nat) (size : UInt64) (content kept : List UInt8) : Streamed :=
  let remaining := size.toNat - kept.length
  let count := min (min (readLimit remaining) (max 1 (piece content.length))) content.length
  if count = 0 then ⟨kept, kept.length, false⟩
  else if count > remaining then ⟨kept, kept.length + count, true⟩
  else stream piece size (content.drop count) (kept ++ content.take count)
termination_by content.length
decreasing_by
  rw [List.length_drop]
  exact Nat.sub_lt_self (Nat.pos_of_ne_zero ‹_›) (Nat.min_le_right ..)

/-- What a copy answers, what it wrote and how much it read. -/
structure Copied (Digest : Type) where
  answer : Except StoreError Digest
  destination : List UInt8
  read : Nat

variable {Digest : Type} (sha256 : List UInt8 → Digest) (piece : Nat → Nat) (content : List UInt8)

def copyBounded (expectedSize maximumSize : UInt64) : Copied Digest :=
  if expectedSize > maximumSize then ⟨.error .tooLarge, [], 0⟩
  else
    let s := stream piece expectedSize content []
    ⟨if s.isSize expectedSize then .ok (sha256 s.kept) else .error .sizeMismatch, s.kept, s.read⟩

def verifyBodyDigest [DecidableEq Digest] (metadata : ArtifactMetadata Digest) : Except StoreError Unit :=
  let s := stream piece metadata.size content []
  if s.isSize metadata.size then
    if sha256 s.kept = metadata.sha256 then .ok () else .error (.corrupt metadata.id .bodyDigest)
  else .error (.corrupt metadata.id .bodySize)

/-- A loop that was not overrun kept all there is; one that was has seen that
it is too much. -/
structure Streamed.Sound (s : Streamed) (size : UInt64) (all : List UInt8) : Prop where
  kept : s.kept.length ≤ size.toNat
  read : s.read ≤ size.toNat + 1
  all : if s.overran then size.toNat < all.length else s.kept = all

theorem readLimit_bounds (remaining) : 1 ≤ readLimit remaining ∧ readLimit remaining ≤ remaining + 1 := by
  unfold readLimit streamBufferBytes UInt64.size
  omega

theorem stream_sound (size kept) (h : kept.length ≤ size.toNat) :
    (stream piece size content kept).Sound size (kept ++ content) := by
  fun_induction stream piece size content kept with
  | case1 content kept remaining count hc =>
    have hr := readLimit_bounds remaining
    have hn : content = [] := by
      rw [← List.length_eq_zero_iff]
      omega
    exact ⟨h, Nat.le_succ_of_le h, by simp [hn]⟩
  | case2 content kept remaining count hc hlt =>
    have hr := readLimit_bounds remaining
    have hl : size.toNat < (kept ++ content).length := by
      rw [List.length_append]
      omega
    exact ⟨h, by dsimp only; omega, hl⟩
  | case3 content kept remaining count hc hlt ih =>
    have hl : (kept ++ content.take count).length ≤ size.toNat := by
      rw [List.length_append, List.length_take]
      omega
    simpa using ih hl

theorem Streamed.Sound.cases {s size all} (h : Sound s size all) :
    s.isSize size = true ∧ s.kept = all ∧ all.length = size.toNat ∨
      s.isSize size = false ∧ all.length ≠ size.toNat := by
  have ha := h.all
  split at ha
  · exact .inr ⟨by simp [isSize, *], Nat.ne_of_gt ha⟩
  · by_cases hl : all.length = size.toNat
    · exact .inl ⟨by simp [isSize, *], ha, hl⟩
    · exact .inr ⟨by simp [isSize, *], hl⟩

/-- **A bounded copy is exact**: it succeeds when the reader has exactly what
was declared and that is allowed. -/
theorem copyBounded_exact [DecidableEq Digest] (expectedSize maximumSize : UInt64)
    (metadata : ArtifactMetadata Digest) :
    let copied := copyBounded sha256 piece content expectedSize maximumSize
    ((∃ digest, copied.answer = .ok digest) ↔
        expectedSize ≤ maximumSize ∧ content.length = expectedSize.toNat) ∧
      (∀ digest, copied.answer = .ok digest → copied.destination = content ∧ digest = sha256 content) ∧
      copied.read ≤ expectedSize.toNat + 1 ∧ copied.destination.length ≤ expectedSize.toNat ∧
      (verifyBodyDigest sha256 piece content metadata = .ok () ↔
        content.length = metadata.size.toNat ∧ sha256 content = metadata.sha256) := by
  have hs (size) : (stream piece size content []).Sound size content :=
    stream_sound piece content size [] (Nat.zero_le _)
  have hv : verifyBodyDigest sha256 piece content metadata = .ok () ↔
      content.length = metadata.size.toNat ∧ sha256 content = metadata.sha256 := by
    obtain ⟨hi, hk, hc⟩ | ⟨hi, hc⟩ := (hs metadata.size).cases
    · simp [verifyBodyDigest, hi, hk, hc]
    · simp [verifyBodyDigest, hi, hc]
  unfold copyBounded
  split
  · simp [hv, UInt64.not_le.mpr ‹_›]
  have hm : expectedSize ≤ maximumSize := UInt64.not_lt.mp ‹_›
  refine ⟨?_, ?_, (hs _).read, (hs _).kept, hv⟩
  all_goals
    obtain ⟨hi, hk, hc⟩ | ⟨hi, hc⟩ := (hs expectedSize).cases <;> simp [*, eq_comm]

/-- A reader with exactly what was declared is refused when that is more than
the store takes. -/
theorem copyBounded_over_maximum : (copyBounded id id [7] 1 0).answer = .error .tooLarge := rfl

end Xenoteer.Artifacts
