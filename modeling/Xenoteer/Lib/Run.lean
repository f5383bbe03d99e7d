/-
Runs of a component that answers one operation at a time: `step s op` is
the reply and the next state. A run is a list of operations; what a caller
can see of it is the list of operations with their replies (`answers`), and
every history variable of the development is a function of that list.

`run_induction` is the rule the invariants are proved with, `along` and
`alongLog` state a condition on every step of a run, and `exists_leave` finds the step at
which a run leaves a set of states.
-/
import Mathlib.Data.List.Induction

namespace Lib.Run

variable {σ ι ρ : Type*} (step : σ → ι → ρ × σ)

/-- The state after the operations, in order. -/
def final (s : σ) (ops : List ι) : σ := ops.foldl (fun s op => (step s op).2) s

/-- The operations with their replies, in order. -/
def answers : σ → List ι → List (ι × ρ)
  | _, [] => []
  | s, op :: ops => (op, (step s op).1) :: answers (step s op).2 ops

/-- `C` holds of the state before each step of the run and its operation. -/
def along (C : σ → ι → Prop) : σ → List ι → Prop
  | _, [] => True
  | s, op :: ops => C s op ∧ along C (step s op).2 ops

/-- The same for a condition that also looks at what was answered before. -/
def alongLog (C : σ → List (ι × ρ) → ι → Prop) : σ → List (ι × ρ) → List ι → Prop
  | _, _, [] => True
  | s, log, op :: ops => C s log op ∧ alongLog C (step s op).2 (log ++ [(op, (step s op).1)]) ops

@[simp] theorem final_nil (s : σ) : final step s [] = s := rfl

@[simp] theorem final_cons (s : σ) (op : ι) (ops : List ι) :
    final step s (op :: ops) = final step (step s op).2 ops := rfl

@[simp] theorem final_append (s : σ) (ops₁ ops₂ : List ι) :
    final step s (ops₁ ++ ops₂) = final step (final step s ops₁) ops₂ := by
  simp [final]

@[simp] theorem answers_nil (s : σ) : answers step s [] = [] := rfl

@[simp] theorem answers_cons (s : σ) (op : ι) (ops : List ι) :
    answers step s (op :: ops) = (op, (step s op).1) :: answers step (step s op).2 ops := rfl

@[simp] theorem answers_append (s : σ) (ops₁ ops₂ : List ι) :
    answers step s (ops₁ ++ ops₂) = answers step s ops₁ ++ answers step (final step s ops₁) ops₂ := by
  induction ops₁ generalizing s with
  | nil => rfl
  | cons op ops₁ ih => simp [ih]

/-- The log names the operations. -/
theorem answers_map_fst (s : σ) (ops : List ι) : (answers step s ops).map Prod.fst = ops := by
  induction ops generalizing s with
  | nil => rfl
  | cons op ops ih => simp [ih]

variable {C : σ → ι → Prop}

theorem along_append {s ops₁ ops₂} :
    along step C s (ops₁ ++ ops₂) ↔ along step C s ops₁ ∧ along step C (final step s ops₁) ops₂ := by
  induction ops₁ generalizing s with
  | nil => simp [along]
  | cons op ops₁ ih => simp [along, ih, and_assoc]

/-- A condition on the operations alone holds along the run when every
operation meets it. -/
theorem along_of_forall {D : ι → Prop} {ops} (h : ∀ op ∈ ops, D op) (s : σ) :
    along step (fun _ op => D op) s ops := by
  induction ops generalizing s with
  | nil => trivial
  | cons op ops ih =>
    exact ⟨h op List.mem_cons_self, ih (fun op hop => h op (List.mem_cons_of_mem _ hop)) _⟩

variable {step}

theorem along.and {D s ops} (hC : along step C s ops)
    (hD : along step D s ops) : along step (fun s op => C s op ∧ D s op) s ops := by
  induction ops generalizing s with
  | nil => trivial
  | cons op ops ih => exact ⟨⟨hC.1, hD.1⟩, ih hC.2 hD.2⟩

variable {P : σ → List (ι × ρ) → Prop}

/-- A relation between the state and what was answered so far holds at the
end of every run along which `C` holds, when it holds at the start and each
step that meets `C` keeps it. -/
theorem run_induction_along {s} (h₀ : P s [])
    (hs : ∀ s log op, P s log → C s op → P (step s op).2 (log ++ [(op, (step s op).1)])) :
    ∀ ops, along step C s ops → P (final step s ops) (answers step s ops) := by
  intro ops
  induction ops using List.reverseRecOn with
  | nil => intro _; exact h₀
  | append_singleton ops op ih =>
    intro h
    simp only [along_append, along, and_true] at h
    simpa using hs _ _ op (ih h.1) h.2

/-- The same with no condition on the steps. -/
theorem run_induction {s : σ} (h₀ : P s [])
    (hs : ∀ s log op, P s log → P (step s op).2 (log ++ [(op, (step s op).1)])) (ops : List ι) :
    P (final step s ops) (answers step s ops) :=
  run_induction_along h₀ (fun s log op h _ => hs s log op h) ops
    (along_of_forall step (fun _ _ => trivial) s)

/-- The same for a condition on the steps and the answers before them. -/
theorem run_induction_log {C s} (h₀ : P s [])
    (hst : ∀ s log op, P s log → C s log op → P (step s op).2 (log ++ [(op, (step s op).1)])) (ops : List ι)
    (ho : alongLog step C s [] ops) : P (final step s ops) (answers step s ops) := by
  have hf : ∀ (ops : List ι) (s : σ) (log : List (ι × ρ)), P s log → alongLog step C s log ops →
      P (final step s ops) (log ++ answers step s ops) := by
    intro ops
    induction ops with
    | nil => intro s log hs _; simpa using hs
    | cons op ops ih =>
      intro s log hs h
      simpa using ih _ _ (hst s log op hs h.1) h.2
  simpa using hf ops s [] h₀ ho

/-- An invariant of the steps holds at the end of every run. -/
theorem final_induction {P : σ → Prop} {s : σ} (h₀ : P s) (hs : ∀ s op, P s → P (step s op).2)
    (ops : List ι) : P (final step s ops) :=
  run_induction h₀ (fun s _ op h => hs s op h) ops

theorem final_induction_mem {P : σ → Prop} {s : σ} {ops} (h₀ : P s)
    (hs : ∀ s, ∀ op ∈ ops, P s → P (step s op).2) : P (final step s ops) := by
  induction ops generalizing s with
  | nil => exact h₀
  | cons op ops ih =>
    rw [final_cons]
    exact ih (hs s op List.mem_cons_self h₀) fun s o ho => hs s o (List.mem_cons_of_mem op ho)

/-- A run that starts in `P` and ends outside it has a step that leaves `P`,
before which it was in `P`. -/
theorem exists_leave {P : σ → Prop} {s : σ} {ops} (hs : P s) (he : ¬ P (final step s ops)) :
    ∃ ops₁ op ops₂, ops = ops₁ ++ op :: ops₂ ∧ P (final step s ops₁) ∧
      ¬ P (step (final step s ops₁) op).2 := by
  induction ops generalizing s with
  | nil => exact absurd hs he
  | cons op ops ih =>
    by_cases h : P (step s op).2
    · obtain ⟨ops₁, op', ops₂, rfl, hp, hl⟩ := ih h he
      exact ⟨op :: ops₁, op', ops₂, rfl, hp, hl⟩
    · exact ⟨[], op, ops, rfl, hs, h⟩

end Lib.Run
