/-
Recency by a counter: every live key carries the value a counter had when
the key was last touched, and each touch takes a fresh value. `touches`
lists the touches of a run, latest first; `Stamped` says that the stamps
order the live keys exactly as that list does, so the least stamp is the
key whose last touch is oldest.
-/
import Mathlib.Data.List.Basic

namespace Lib.Recency

variable {K : Type*} [DecidableEq K]

/-- `a` was last touched before `b` was. -/
def Older (touches : List K) (a b : K) : Prop := touches.idxOf b < touches.idxOf a

instance (touches : List K) (a b : K) : Decidable (Older touches a b) := Nat.decLt _ _

structure Stamped (stamp : K → Option Nat) (next : Nat) (touches : List K) : Prop where
  lt_next : ∀ {k n}, stamp k = some n → n < next
  mem : ∀ {k n}, stamp k = some n → k ∈ touches
  order : ∀ {a b m n}, stamp a = some m → stamp b = some n → (m < n ↔ Older touches a b)

namespace Stamped

variable {s s' : K → Option Nat} {next next' : Nat} {t : List K}

theorem empty (h : ∀ k, s k = none) : Stamped s next t where
  lt_next hk := by simp [h] at hk
  mem hk := by simp [h] at hk
  order hk := by simp [h] at hk

section

variable (h : Stamped s next t)
include h

/-- Keys may be forgotten and counter values skipped. -/
theorem forget (hs : ∀ {k n}, s' k = some n → s k = some n) (hn : next ≤ next') : Stamped s' next' t where
  lt_next hk := Nat.lt_of_lt_of_le (h.lt_next (hs hk)) hn
  mem hk := h.mem (hs hk)
  order ha hb := h.order (hs ha) (hs hb)

/-- A touch takes the counter's value and comes first in the list. -/
theorem touch {key} (hke : s' key = some next)
    (hr : ∀ {k}, k ≠ key → s' k = s k) : Stamped s' (next + 1) (key :: t) where
  lt_next := by
    intro k n hk
    by_cases hkk : k = key
    · subst hkk
      rw [hke] at hk
      cases hk
      exact Nat.lt_succ_self _
    · rw [hr hkk] at hk
      exact Nat.lt_succ_of_lt (h.lt_next hk)
  mem := by
    intro k n hk
    by_cases hkk : k = key
    · simp [hkk]
    · rw [hr hkk] at hk
      exact List.mem_cons_of_mem _ (h.mem hk)
  order := by
    intro a b m n ha hb
    by_cases haa : a = key <;> by_cases hbb : b = key
    · subst haa hbb
      rw [ha] at hb
      cases hb
      simp [Older]
    · -- the touched key is the latest: not older, and its stamp is the largest
      subst haa
      rw [hke] at ha
      rw [hr hbb] at hb
      cases ha
      have hn := h.lt_next hb
      simp only [Older, List.idxOf_cons_self, Nat.not_lt_zero, iff_false]
      omega
    · subst hbb
      rw [hke] at hb
      rw [hr haa] at ha
      cases hb
      have hm := h.lt_next ha
      simp [Older, hm, List.idxOf_cons_ne t (Ne.symm haa)]
    · rw [hr haa] at ha
      rw [hr hbb] at hb
      have ho := h.order ha hb
      simp only [Older] at ho ⊢
      rw [List.idxOf_cons_ne t (Ne.symm haa), List.idxOf_cons_ne t (Ne.symm hbb), ho]
      omega

/-- No two live keys carry one stamp. -/
theorem key_eq {a b n} (ha : s a = some n) (hb : s b = some n) : a = b := by
  have hab := h.order ha hb
  have hba := h.order hb ha
  simp only [Older, Nat.lt_irrefl, false_iff] at hab hba
  exact (List.idxOf_inj (h.mem ha)).mp (by omega)

/-- A key with the least stamp of a set of live keys is older than the rest of it. -/
theorem older_of_le {a b m n} (ha : s a = some m)
    (hb : s b = some n) (hle : m ≤ n) (hne : a ≠ b) : Older t a b := by
  refine (h.order ha hb).mp (Nat.lt_of_le_of_ne hle ?_)
  rintro rfl
  exact hne (h.key_eq ha hb)

end

end Stamped

end Lib.Recency
