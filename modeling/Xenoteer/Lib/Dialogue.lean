/-
Programs that talk to another process. A program runs over its own state and
stops at each question it asks; it goes on from there when it is answered, and
it may give up at any point, keeping the state it had. Where it stops, its
state is visible, so that what the other process does in between can be told
against it.

`exec` runs a program on answers chosen in advance. `Leads P Q` is the program
logic: `P` holds of the state wherever the program stops, whatever it is
answered, and `Q` of what it returns.
-/
import Mathlib.Init

namespace Lib

inductive Dialogue (σ Q : Type) (A : Q → Type) (α : Type) where
  | done (s : σ) (a : α)
  | fault (s : σ)
  | ask (s : σ) (q : Q) (next : A q → Dialogue σ Q A α)

namespace Dialogue

variable {σ Q : Type} {A : Q → Type} {α β : Type}

def state : Dialogue σ Q A α → σ
  | done s _ => s
  | fault s => s
  | ask s _ _ => s

def andThen : Dialogue σ Q A α → (α → σ → Dialogue σ Q A β) → Dialogue σ Q A β
  | done s a, f => f a s
  | fault s, _ => fault s
  | ask s q next, f => ask s q fun a => (next a).andThen f

/-- What comes of it when the `n`-th question and those after it are answered
by `answers`. -/
def exec (answers : Nat → (q : Q) → A q) : Nat → Dialogue σ Q A α → Option α × σ
  | _, done s a => (some a, s)
  | _, fault s => (none, s)
  | n, ask _ q next => (next (answers n q)).exec answers (n + 1)

/-- `P` holds wherever the program stops and `R` of what it returns. -/
def Leads (P : σ → Prop) (R : α → σ → Prop) : Dialogue σ Q A α → Prop
  | done s a => R a s
  | fault s => P s
  | ask s _ next => P s ∧ ∀ a, (next a).Leads P R

variable {P P' : σ → Prop} {R R' : α → σ → Prop} {S : β → σ → Prop} {d : Dialogue σ Q A α}

variable {f : α → σ → Dialogue σ Q A β}

theorem Leads.andThen (h : d.Leads P R)
    (hf : ∀ a s, R a s → (f a s).Leads P S) : (d.andThen f).Leads P S := by
  induction d with
  | done s a => exact hf a s h
  | fault s => exact h
  | ask s q n ih => exact ⟨h.1, fun a => ih a (h.2 a)⟩

/-- A program that only ever stops in `P` ends in `P`. -/
theorem Leads.exec (h : d.Leads P fun _ => P) (an : Nat → (q : Q) → A q) (n : Nat) : P (d.exec an n).2 := by
  induction d generalizing n with
  | done s a | fault s => exact h
  | ask s q nx ih => exact ih _ (h.2 _) (n + 1)

def isDone : Dialogue σ Q A α → Bool
  | done _ _ => true
  | _ => false

/-- Every answer moves the state as `M` allows. -/
def Follows (M : σ → (q : Q) → A q → σ → Prop) : Dialogue σ Q A α → Prop
  | done _ _ => True
  | fault _ => True
  | ask s q next => ∀ a, M s q a (next a).state ∧ (next a).Follows M

/-- From `s`, the program first makes a local move of `L`, and then every answer
moves it as `M` allows. -/
def Moves (L : σ → σ → Prop) (M : σ → (q : Q) → A q → σ → Prop) (s : σ) (d : Dialogue σ Q A α) : Prop :=
  L s d.state ∧ d.Follows M

/-- Local moves may follow the answer they come after. -/
theorem Moves.andThen {L : σ → σ → Prop} {M : σ → (q : Q) → A q → σ → Prop}
    (hL : ∀ s s' s'', L s s' → L s' s'' → L s s'') (hM : ∀ s q a s' s'', M s q a s' → L s' s'' → M s q a s'')
    {s : σ} {d : Dialogue σ Q A α} (hd : d.Moves L M s)
    (hr : ∀ s, L s s) (hf : ∀ a s, (f a s).Moves L M s) : (d.andThen f).Moves L M s := by
  induction d generalizing s with
  | done s' a => exact ⟨hL _ _ _ hd.1 (hf a s').1, (hf a s').2⟩
  | fault s' => exact hd
  | ask s' q n ih =>
    refine ⟨hd.1, fun a => ?_⟩
    obtain ⟨hm, hfo⟩ := hd.2 a
    obtain ⟨hl, hre⟩ := ih a ⟨hr _, hfo⟩
    exact ⟨hM _ _ _ _ _ hm hl, hre⟩

/-- What holds of the answer after which the program returns. -/
def Concludes (E : (q : Q) → A q → σ → Prop) : Dialogue σ Q A α → Prop
  | done _ _ => True
  | fault _ => True
  | ask _ q next => ∀ a, ((next a).isDone = true → E q a (next a).state) ∧ (next a).Concludes E

/-- Only the continuation returns. -/
theorem concludes_andThen {E}
    (hf : ∀ a s, (f a s).isDone = false ∧ (f a s).Concludes E) {d : Dialogue σ Q A α} :
    (d.andThen f).isDone = false ∧ (d.andThen f).Concludes E := by
  induction d with
  | done s a => exact hf a s
  | fault s => exact ⟨rfl, trivial⟩
  | ask s q n ih =>
    refine ⟨rfl, fun a => ⟨fun hd => ?_, (ih a).2⟩⟩
    rw [(ih a).1] at hd
    cases hd

end Dialogue

/-- A program, from the state it is started in. -/
structure Talk (σ Q : Type) (A : Q → Type) (α : Type) where
  start : σ → Dialogue σ Q A α

namespace Talk

variable {σ Q : Type} {A : Q → Type} {α β : Type}

instance : Monad (Talk σ Q A) where
  pure a := ⟨fun s => .done s a⟩
  bind x f := ⟨fun s => (x.start s).andThen fun a s => (f a).start s⟩

def read : Talk σ Q A σ := ⟨fun s => .done s s⟩

def update (f : σ → σ) : Talk σ Q A Unit := ⟨fun s => .done (f s) ()⟩

def ask (q : Q) : Talk σ Q A (A q) := ⟨fun s => .ask s q fun a => .done s a⟩

def fail : Talk σ Q A α := ⟨fun s => .fault s⟩

@[simp] theorem start_pure (a : α) (s : σ) : (pure a : Talk σ Q A α).start s = .done s a := rfl

@[simp] theorem start_bind (x) (f : α → Talk σ Q A β) (s : σ) :
    (x >>= f).start s = (x.start s).andThen fun a s => (f a).start s := rfl

@[simp] theorem start_read (s : σ) : (read : Talk σ Q A σ).start s = .done s s := rfl

@[simp] theorem start_update (f : σ → σ) (s : σ) :
    (update f : Talk σ Q A Unit).start s = .done (f s) () := rfl

@[simp] theorem start_ask (q : Q) (s : σ) :
    (ask q : Talk σ Q A (A q)).start s = .ask s q fun a => .done s a := rfl

theorem leads_bind {P : σ → Prop} {R : α → σ → Prop} {S : β → σ → Prop} {x}
    {f : α → Talk σ Q A β} {s : σ} (hx : (x.start s).Leads P R)
    (hf : ∀ a s, R a s → ((f a).start s).Leads P S) : ((x >>= f).start s).Leads P S :=
  hx.andThen hf

end Talk

end Lib
