/-
Traces: what a system showed so far, in order. A trace is justified when each
of its entries is explained by the entries before it; what holds of every
justified trace is proved by appending one entry at a time. `Since a b` says
that `b` was shown after `a`, and `Stands a b` that `a` was shown with no `b`
after it.
-/
import Mathlib.Data.List.Induction

namespace Lib.Trace

variable {ω : Type*} {J : List ω → ω → Prop} {t u : List ω} {a b o : ω}

/-- Every entry is justified by those before it. -/
def Justified (J : List ω → ω → Prop) (t : List ω) : Prop := ∀ t₁ o t₂, t = t₁ ++ o :: t₂ → J t₁ o

/-- A trace with one more entry, cut at an entry. -/
theorem snoc_cases {t₁ t₂} (h : t ++ [o] = t₁ ++ a :: t₂) :
    t = t₁ ∧ o = a ∧ t₂ = [] ∨ ∃ t₃, t₂ = t₃ ++ [o] ∧ t = t₁ ++ a :: t₃ := by
  obtain rfl | ⟨t₃, x, rfl⟩ := List.eq_nil_or_concat t₂
  · obtain ⟨rfl, hx⟩ := List.append_inj' h rfl
    exact .inl ⟨rfl, List.singleton_inj.mp hx, rfl⟩
  · have h' : t ++ [o] = (t₁ ++ a :: t₃) ++ [x] := by simpa using h
    obtain ⟨rfl, hx⟩ := List.append_inj' h' rfl
    obtain rfl := List.singleton_inj.mp hx
    exact .inr ⟨t₃, List.concat_eq_append, rfl⟩

theorem justified_nil : Justified J [] := by
  intro t₁ o t₂ h
  simp at h

theorem Justified.of_append (h : Justified J (t ++ u)) : Justified J t := by
  intro t₁ o t₂ heq
  exact h t₁ o (t₂ ++ u) (by simp [heq])

theorem Justified.append_singleton (h : Justified J t) (ho : J t o) : Justified J (t ++ [o]) := by
  intro t₁ o' t₂ heq
  obtain ⟨rfl, rfl, -⟩ | ⟨t₃, -, rfl⟩ := snoc_cases heq
  · exact ho
  · exact h t₁ o' t₃ rfl

/-- A property of justified traces, one entry at a time. -/
theorem Justified.induction {P : List ω → Prop} (h₀ : P []) (hs : ∀ t o, J t o → P t → P (t ++ [o]))
    (h : Justified J t) : P t := by
  induction t using List.reverseRecOn with
  | nil => exact h₀
  | append_singleton t o ih => exact hs t o (h t o [] rfl) (ih h.of_append)

/-- `b` comes after `a`. -/
def Since (a b : ω) (t : List ω) : Prop := ∃ t₀ t₁, t = t₀ ++ a :: t₁ ∧ b ∈ t₁

theorem Since.append (h : Since a b t) (u : List ω) : Since a b (t ++ u) := by
  obtain ⟨t₀, t₁, rfl, hb⟩ := h
  exact ⟨t₀, t₁ ++ u, by simp, List.mem_append_left _ hb⟩

/-- What is appended comes after everything that is there. -/
theorem since_append (ha : a ∈ t) (hb : b ∈ u) : Since a b (t ++ u) := by
  obtain ⟨t₀, t₁, rfl⟩ := List.append_of_mem ha
  exact ⟨t₀, t₁ ++ u, by simp, List.mem_append_right _ hb⟩

/-- Some `a` has no `b` after it. -/
def Stands (a b : ω) (t : List ω) : Prop := ∃ t₁ t₂, t = t₁ ++ a :: t₂ ∧ b ∉ t₂

theorem stands_append_self (a b : ω) (t : List ω) : Stands a b (t ++ [a]) := ⟨t, [], rfl, List.not_mem_nil⟩

theorem Stands.append (h : Stands a b t) (hb : b ∉ u) : Stands a b (t ++ u) := by
  obtain ⟨t₁, t₂, rfl, hno⟩ := h
  exact ⟨t₁, t₂ ++ u, by simp, by simp [hno, hb]⟩

theorem Stands.prepend (h : Stands a b t) {u} : Stands a b (u ++ t) := by
  obtain ⟨t₁, t₂, rfl, hno⟩ := h
  exact ⟨u ++ t₁, t₂, by simp, hno⟩

theorem Stands.of_append_singleton (h : Stands a b (t ++ [o])) (ho : o ≠ a) : Stands a b t ∧ o ≠ b := by
  obtain ⟨t₁, t₂, heq, hno⟩ := h
  obtain ⟨-, hx, -⟩ | ⟨t₃, rfl, rfl⟩ := snoc_cases heq
  · exact absurd hx ho
  · simp only [List.mem_append, List.mem_singleton, not_or] at hno
    exact ⟨⟨t₁, t₃, rfl, hno.1⟩, Ne.symm hno.2⟩

theorem Stands.of_append (h : Stands a b (t ++ u)) (ha : a ∉ u) : Stands a b t ∧ b ∉ u := by
  induction u using List.reverseRecOn with
  | nil => simpa using h
  | append_singleton u o ih =>
    simp only [List.mem_append, List.mem_singleton, not_or] at ha
    rw [← List.append_assoc] at h
    obtain ⟨h, hob⟩ := h.of_append_singleton (Ne.symm ha.2)
    obtain ⟨ht, hu⟩ := ih h ha.1
    exact ⟨ht, by simp [hu, Ne.symm hob]⟩

theorem Stands.mem (h : Stands a b t) : a ∈ t := by
  obtain ⟨t₁, t₂, rfl, -⟩ := h
  simp

/-- Of two entries only one can stand. -/
theorem Stands.asymm (hab : a ≠ b) (h : Stands a b t) : ¬ Stands b a t := by
  induction t using List.reverseRecOn with
  | nil =>
    obtain ⟨t₁, t₂, heq, -⟩ := h
    simp at heq
  | append_singleton t o ih =>
    intro h'
    by_cases ho : o = a
    · exact (h'.of_append_singleton (ho ▸ hab)).2 ho
    · obtain ⟨h, hob⟩ := h.of_append_singleton ho
      exact ih h (h'.of_append_singleton hob).1

end Lib.Trace
