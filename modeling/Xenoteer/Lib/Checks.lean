/-
Validators that stop at their first failed check: a check is an
`Except ε Unit`, and a validator is a sequence of them.
-/
import Mathlib.Init

namespace Lib.Checks

variable {ε δ α β : Type}

def ensure (b : Bool) (e : ε) : Except ε Unit := if b then .ok () else .error e

@[simp] theorem ensure_eq_ok {b : Bool} {e : ε} {u : Unit} : ensure b e = .ok u ↔ b = true := by
  cases b <;> simp [ensure]

/-- A sequence succeeds when its first check does and the rest does. -/
theorem andThen_eq_ok {c} {rest : Unit → Except ε β} {b : β} :
    (c >>= rest) = .ok b ↔ c = .ok () ∧ rest () = .ok b := by
  cases c with
  | error e | ok _ => simp [bind, Except.bind]

theorem bind_eq_ok {f : Except ε α} {rest : α → Except ε β} {b : β} :
    (f >>= rest) = .ok b ↔ ∃ a, f = .ok a ∧ rest a = .ok b := by
  cases f with
  | error e | ok a => simp [bind, Except.bind]

/-- A guard throws, or the rest goes on. -/
theorem guard_eq_ok {p : Prop} [Decidable p] {e : ε} {f : α → Except ε β} {rest} {b : β} :
    (if p then (throw e : Except ε α) >>= f else rest) = .ok b ↔ ¬ p ∧ rest = .ok b := by
  by_cases h : p
  · simp [h, bind, Except.bind, throw, throwThe, MonadExceptOf.throw]
  · simp [h]

def optional (check : α → Except ε Unit) : Option α → Except ε Unit
  | none => .ok ()
  | some a => check a

@[simp] theorem optional_eq_ok {c : α → Except ε Unit} {p} {u : Unit} :
    optional c p = .ok u ↔ ∀ a, p = some a → c a = .ok () := by
  cases p <;> simp [optional]

/-- The checks of every element, in order. -/
def each (check : α → Except ε Unit) : List α → Except ε Unit
  | [] => .ok ()
  | a :: as => do
    check a
    each check as

@[simp] theorem each_eq_ok {c : α → Except ε Unit} {as} {u : Unit} :
    each c as = .ok u ↔ ∀ a ∈ as, c a = .ok () := by
  induction as with
  | nil => simp [each]
  | cons a as ih => simp [each, andThen_eq_ok, ih]

/-- A wrapped error does not change what is returned. -/
@[simp] theorem wrapped_eq_ok {c : Except ε α} {w : ε → δ} {a : α} : c.mapError w = .ok a ↔ c = .ok a := by
  cases c with
  | error _ | ok _ => constructor <;> intro h <;> cases h <;> rfl

end Lib.Checks
