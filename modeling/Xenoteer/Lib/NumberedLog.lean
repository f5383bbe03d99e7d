/-
Logs whose entries carry their own position, counted from one: the tail
after position `n` is the entries numbered above `n`, whether they are
taken from the whole log or from a suffix that starts no later.
-/
import Mathlib.Data.List.Basic
import Mathlib.Data.List.Range

namespace Lib.NumberedLog

variable {α : Type*} (number : α → Nat)

/-- The entries are numbered `start`, `start + 1`, ... in order. -/
def NumberedFrom (start : Nat) (log : List α) : Prop :=
  log.map number = List.range' start log.length

variable {number}

variable {start : Nat}

theorem NumberedFrom.nil : NumberedFrom number start [] := by simp [NumberedFrom]

variable {log : List α}

theorem NumberedFrom.cons_iff {a} :
    NumberedFrom number start (a :: log) ↔ number a = start ∧ NumberedFrom number (start + 1) log := by
  simp [NumberedFrom, List.range'_succ]

section

variable (h : NumberedFrom number start log)

include h

theorem NumberedFrom.append_singleton {a} (ha : number a = start + log.length) :
    NumberedFrom number start (log ++ [a]) := by
  simp only [NumberedFrom] at h ⊢
  rw [List.map_append, h, List.length_append, List.length_singleton, List.range'_concat]
  simp [ha]

theorem NumberedFrom.drop (k : Nat) :
    NumberedFrom number (start + k) (log.drop k) := by
  simp only [NumberedFrom] at h ⊢
  rw [List.map_drop, h, List.drop_range', List.length_drop]
  simp

theorem NumberedFrom.le_number {a} (ha : a ∈ log) : start ≤ number a := by
  have hm : number a ∈ log.map number := List.mem_map_of_mem ha
  rw [h, List.mem_range'_1] at hm
  exact hm.1

end

/-- The entries numbered above `n` are the tail after them. -/
theorem NumberedFrom.filter_lt {n} : ∀ {start : Nat} {log : List α}, NumberedFrom number start log →
    log.filter (fun a => n < number a) = log.drop (n + 1 - start)
  | _, [], _ => by simp
  | start, a :: log, h => by
    obtain ⟨ha, hl⟩ := cons_iff.mp h
    by_cases hn : n < start
    · have hal : ∀ b ∈ a :: log, n < number b := fun b hb => Nat.lt_of_lt_of_le hn (h.le_number hb)
      have hk : n + 1 - start = 0 := by omega
      rw [hk, List.drop_zero, List.filter_eq_self]
      intro b hb
      simpa using hal b hb
    · have hk : n + 1 - start = (n + 1 - (start + 1)) + 1 := by omega
      have hne : ¬ n < number a := by omega
      rw [hk, List.drop_succ_cons, ← hl.filter_lt, List.filter_cons]
      simp [hne]

/-- A suffix that starts no later than `n` answers for the whole log. -/
theorem NumberedFrom.filter_lt_drop (h : NumberedFrom number 1 log) {cut n} (hc : cut ≤ n) :
    (log.drop cut).filter (fun a => n < number a) = log.filter (fun a => n < number a) := by
  rw [(h.drop cut).filter_lt, h.filter_lt, List.drop_drop]
  congr 1
  omega

end Lib.NumberedLog
