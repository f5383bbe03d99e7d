/-
The life of one identity, told by a log. Each entry of the log says that the
identity was seen (born, or found alive), that it ended, or nothing about it.

`Lived live issued marks` ties the log to a state of the component: the
identity is live exactly when a sighting stands, a sighting takes the
identity's serial (`issued`), and it has one life: after it ended it is never
seen again. A component keeps it when it bears only identities whose serial
is not taken.
-/
import Xenoteer.Lib.Trace

namespace Lib.Lifetimes

open Lib.Trace

/-- What an entry says about the identity. -/
inductive Mark where
  | seen
  | ended
  | other
deriving DecidableEq

/-- No sighting comes after an end that comes after a sighting. -/
def OneLife (marks : List Mark) : Prop :=
  ∀ before between after, marks = before ++ .seen :: between ++ .ended :: after → .seen ∉ after

structure Lived (live issued : Prop) (marks : List Mark) : Prop where
  live_iff : live ↔ Stands .seen .ended marks
  issued_of_seen : .seen ∈ marks → issued
  oneLife : OneLife marks

variable {m : List Mark}

/-- Anything but a sighting may follow. -/
theorem OneLife.append_other {o} (h : OneLife m) (ho : o ≠ .seen) : OneLife (m ++ [o]) := by
  intro bf b a heq hs
  obtain ⟨-, -, rfl⟩ | ⟨rest, rfl, hm⟩ := snoc_cases heq
  · simp at hs
  · refine h bf b rest hm ?_
    simpa [Ne.symm ho] using hs

/-- A log with one life in which a sighting stands has no end yet. -/
theorem OneLife.not_ended {bf b a} (h : OneLife m)
    (hs : Stands .seen .ended m) : m ≠ bf ++ .seen :: b ++ .ended :: a := by
  intro heq
  have hl := h bf b a heq
  rw [heq] at hs
  exact (hs.of_append (by simpa using hl)).2 (by simp)

theorem OneLife.append_seen (h : OneLife m)
    (hf : Stands .seen .ended m ∨ .seen ∉ m) : OneLife (m ++ [.seen]) := by
  intro bf b a heq _
  obtain ⟨-, hx, -⟩ | ⟨rest, -, hm⟩ := snoc_cases heq
  · cases hx
  · rcases hf with hs | hn
    · exact h.not_ended hs hm
    · exact hn (by simp [hm])

namespace Lived

variable {live live' i i' : Prop} {m : List Mark}

theorem nil (hl : ¬ live) : Lived live i [] where
  live_iff := by simp [hl, Stands]
  issued_of_seen h := by simp at h
  oneLife := by
    intro bf b a heq
    simp at heq

section

variable (h : Lived live i m)
include h

theorem issued_of_live (hl : live) : i :=
  h.issued_of_seen (h.live_iff.mp hl).mem

/-- An entry that says nothing. -/
theorem other (hl : live' ↔ live) (hi : i → i') : Lived live' i' (m ++ [.other]) where
  live_iff := by
    rw [hl, h.live_iff]
    exact ⟨fun hs => hs.append (by simp), fun hs => (hs.of_append (by simp)).1⟩
  issued_of_seen hs := hi (h.issued_of_seen (by simpa using hs))
  oneLife := h.oneLife.append_other (by decide)

/-- A birth of an identity that was not issued, or a sighting of a live one. -/
theorem seen (hf : live ∨ ¬ i) (hl : live') (hi : i') : Lived live' i' (m ++ [.seen]) where
  live_iff := ⟨fun _ => stands_append_self _ _ _, fun _ => hl⟩
  issued_of_seen _ := hi
  oneLife := h.oneLife.append_seen (hf.imp h.live_iff.mp (mt h.issued_of_seen))

theorem ended (hli : ¬ live') (hi : i → i') : Lived live' i' (m ++ [.ended]) where
  live_iff := by
    refine ⟨fun hl => absurd hl hli, fun hs => ?_⟩
    exact absurd rfl (hs.of_append_singleton (by decide)).2
  issued_of_seen hs := hi (h.issued_of_seen (by simpa using hs))
  oneLife := h.oneLife.append_other (by decide)

/-- An end, or nothing. -/
theorem ended_or_other {e : Prop} [Decidable e] (he : e → ¬ live') (ho : ¬ e → (live' ↔ live)) (hi : i → i') :
    Lived live' i' (m ++ [if e then .ended else .other]) := by
  split
  · exact h.ended (he ‹_›) hi
  · exact h.other (ho ‹_›) hi

/-- An identity that takes its key ends the one that had it. -/
theorem takes {ι κ : Type} [DecidableEq ι] [DecidableEq κ] {key : ι → κ} {a b : ι}
    (hl : live' ↔ if key a = key b then a = b else live) (hi : i → i') (ha : a = b → (live ∨ ¬ i) ∧ i') :
    Lived live' i' (m ++ [if a = b then .seen else if key a = key b then .ended else .other]) := by
  by_cases hab : a = b
  · rw [if_pos hab]
    exact h.seen (ha hab).1 (hl.mpr (by simp [hab])) (ha hab).2
  · rw [if_neg hab]
    refine h.ended_or_other (fun hk => ?_) (fun hk => ?_) hi
    · rwa [hl, if_pos hk]
    · rw [hl, if_neg hk]

end

end Lived

end Lib.Lifetimes
