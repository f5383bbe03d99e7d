/-
Programs over a state that return, fail or unwind, and a Hoare logic for them.

A program changes its state up to the point where it stops, however it
stops: an error and an unwinding keep what was done before. `attempt` turns an
error into a value, as a `match` on a `Result` does, and `catchUnwind` does
the same for an unwinding. A postcondition (`Ends`) has a part for each of
the three exits; `Keeps` is for what holds between the states before and
after whatever the exit is.
-/
import Mathlib.Order.Defs.PartialOrder

namespace Lib

/-- How a call ended. -/
inductive Exit (ε α : Type) where
  | ok (value : α)
  | error (reason : ε)
  | unwound

structure Prog (σ ε α : Type) where
  run : σ → Exit ε α × σ

namespace Prog

variable {σ ε ε' α β : Type}

def ret (a : α) : Prog σ ε α := ⟨fun s => (.ok a, s)⟩

def andThen (x : Prog σ ε α) (f : α → Prog σ ε β) : Prog σ ε β := ⟨fun s =>
  match x.run s with
  | (.ok a, s) => (f a).run s
  | (.error e, s) => (.error e, s)
  | (.unwound, s) => (.unwound, s)⟩

instance : Monad (Prog σ ε) where
  pure := ret
  bind := andThen

def fail (e : ε) : Prog σ ε α := ⟨fun s => (.error e, s)⟩

def read : Prog σ ε σ := ⟨fun s => (.ok s, s)⟩

def update (f : σ → σ) : Prog σ ε Unit := ⟨fun s => (.ok (), f s)⟩

/-- An error becomes a value of the caller, whose own errors may differ. -/
def attempt (x : Prog σ ε α) : Prog σ ε' (Except ε α) := ⟨fun s =>
  match x.run s with
  | (.ok a, s) => (.ok (.ok a), s)
  | (.error e, s) => (.ok (.error e), s)
  | (.unwound, s) => (.unwound, s)⟩

/-- An unwinding becomes a value as well. -/
def catchUnwind (x : Prog σ ε α) : Prog σ ε' (Option (Except ε α)) := ⟨fun s =>
  match x.run s with
  | (.ok a, s) => (.ok (some (.ok a)), s)
  | (.error e, s) => (.ok (some (.error e)), s)
  | (.unwound, s) => (.ok none, s)⟩

/-- The error of a caller in place of the callee's. -/
def mapError (f : ε → ε') (x : Prog σ ε α) : Prog σ ε' α := ⟨fun s =>
  match x.run s with
  | (.ok a, s) => (.ok a, s)
  | (.error e, s) => (.error (f e), s)
  | (.unwound, s) => (.unwound, s)⟩

def failIf (condition : Bool) (e : ε) : Prog σ ε Unit := if condition then fail e else ret ()

def when (condition : Bool) (x : Prog σ ε Unit) : Prog σ ε Unit := if condition then x else ret ()

/-! ## Postconditions -/

variable {s : σ} {x : Prog σ ε α} {f : α → Prog σ ε β}
variable {Q Q' : α → σ → Prop} {E E' : ε → σ → Prop} {U U' : σ → Prop}

theorem bind_run (x) (f : α → Prog σ ε β) (s : σ) : (x >>= f).run s = match x.run s with
      | (.ok a, s) => (f a).run s
      | (.error e, s) => (.error e, s)
      | (.unwound, s) => (.unwound, s) := rfl

/-- From `s` the program ends in `Q`, in `E` with an error, or unwinds in `U`. -/
def Ends (x : Prog σ ε α) (s : σ) (Q : α → σ → Prop) (E : ε → σ → Prop) (U : σ → Prop) : Prop :=
  match x.run s with
  | (.ok a, s') => Q a s'
  | (.error e, s') => E e s'
  | (.unwound, s') => U s'

theorem Ends.mono (h : Ends x s Q E U) (hQ : ∀ a s', Q a s' → Q' a s') (hE : ∀ e s', E e s' → E' e s')
    (hU : ∀ s', U s' → U' s') : Ends x s Q' E' U' := by
  rcases hx : x.run s with ⟨a | e | _, s'⟩ <;> simp only [Ends, hx] at h ⊢
  · exact hQ a s' h
  · exact hE e s' h
  · exact hU s' h

variable {R : β → σ → Prop}

theorem Ends.bind (hx : Ends x s Q E' U')
    (hf : ∀ a s', Q a s' → Ends (f a) s' R E U) (hE : ∀ e s', E' e s' → E e s')
    (hU : ∀ s', U' s' → U s') : Ends (x >>= f) s R E U := by
  rcases hr : x.run s with ⟨a | e | _, s'⟩ <;> simp only [Ends, bind_run, hr] at hx ⊢
  · exact hf a s' hx
  · exact hE e s' hx
  · exact hU s' hx

/-- The usual case: the first program's other exits are those of the whole. -/
theorem Ends.seq (hx : Ends x s Q E U) (hf : ∀ a s', Q a s' → Ends (f a) s' R E U) : Ends (x >>= f) s R E U :=
  hx.bind hf (fun _ _ h => h) (fun _ h => h)

/-- The postcondition of a sequence, read backwards. -/
theorem ends_bind : Ends (x >>= f) s R E U ↔ Ends x s (fun a s' => Ends (f a) s' R E U) E U := by
  rcases hr : x.run s with ⟨a | e | _, s'⟩ <;> simp only [Ends, bind_run, hr]

theorem Ends.and (h : Ends x s Q E U) (h' : Ends x s Q' E' U') :
    Ends x s (fun a s' => Q a s' ∧ Q' a s') (fun e s' => E e s' ∧ E' e s') fun s' => U s' ∧ U' s' := by
  rcases hx : x.run s with ⟨a | e | _, s'⟩ <;> simp only [Ends, hx] at h h' ⊢ <;> exact ⟨h, h'⟩

theorem Ends.trivial : Ends x s (fun _ _ => True) (fun _ _ => True) fun _ => True := by
  rcases hx : x.run s with ⟨a | e | _, s'⟩ <;> simp only [Ends, hx]

@[simp] theorem ends_ret {a} : Ends (ret a) s Q E U ↔ Q a s := Iff.rfl

@[simp] theorem ends_fail {e} : Ends (fail e : Prog σ ε α) s Q E U ↔ E e s := Iff.rfl

@[simp] theorem ends_read_bind {f} : Ends (read >>= f) s Q E U ↔ Ends (f s) s Q E U := Iff.rfl

@[simp] theorem ends_update_bind {g f} : Ends (update g >>= f) s Q E U ↔ Ends (f ()) (g s) Q E U := Iff.rfl

variable {E₀ : ε' → σ → Prop}

theorem ends_attempt {Q₀} : Ends (attempt x : Prog σ ε' (Except ε α)) s Q₀ E₀ U ↔
      Ends x s (fun a s' => Q₀ (.ok a) s') (fun e s' => Q₀ (.error e) s') U := by
  rcases hx : x.run s with ⟨a | e | _, s'⟩ <;> simp only [Ends, attempt, hx]

/-- A call whose error the caller answers itself. -/
theorem Ends.attempt_bind {f} (hx : Ends x s Q E U') (hok : ∀ a s', Q a s' → Ends (f (.ok a)) s' R E₀ U)
    (he : ∀ e s', E e s' → Ends (f (.error e)) s' R E₀ U) (hU : ∀ s', U' s' → U s') :
    Ends (attempt x >>= f) s R E₀ U := by
  rcases hr : x.run s with ⟨a | e | _, s'⟩ <;> simp only [Ends, bind_run, attempt, hr] at hx ⊢
  · exact hok a s' hx
  · exact he e s' hx
  · exact hU s' hx

theorem ends_mapError {g} : Ends (mapError g x) s Q E₀ U ↔ Ends x s Q (fun e s' => E₀ (g e) s') U := by
  rcases hx : x.run s with ⟨a | e | _, s'⟩ <;> simp only [Ends, mapError, hx]

theorem ends_failIf {c e Q} : Ends (failIf c e) s Q E U ↔ (c = true → E e s) ∧ (c = false → Q () s) := by
  cases c <;> simp [failIf]

theorem ends_when {c x Q} : Ends (when c x) s Q E U ↔ (c = true → Ends x s Q E U) ∧ (c = false → Q () s) := by
  cases c <;> simp [when]

/-- What a postcondition says of the outcome itself. -/
theorem Ends.ok {a s'} (h : Ends x s Q E U) (hx : x.run s = (.ok a, s')) : Q a s' := by
  simpa only [Ends, hx] using h

/-! ## Returns -/

/-- What holds when the program returns. -/
abbrev Returns (x : Prog σ ε α) (s : σ) (Q : α → σ → Prop) : Prop :=
  Ends x s Q (fun _ _ => True) fun _ => True

theorem Returns.mono (h : Returns x s Q) (hQ : ∀ a s', Q a s' → Q' a s') : Returns x s Q' :=
  Ends.mono h hQ (fun _ _ h => h) fun _ h => h

theorem returns_bind : Returns (x >>= f) s R ↔ Returns x s fun a s' => Returns (f a) s' R := ends_bind

theorem returns_guard {c e} {f : Unit → Prog σ ε β} (h : c = false → Returns (f ()) s R) :
    Returns (failIf c e >>= f) s R :=
  returns_bind.mpr (ends_failIf.mpr ⟨fun _ => trivial, h⟩)

theorem returns_mapError {g : ε → ε'} : Returns (mapError g x) s Q ↔ Returns x s Q := ends_mapError

theorem returns_call_bind {g : ε → ε'} {f : α → Prog σ ε' β} :
    Returns (mapError g x >>= f) s R ↔ Returns x s fun a s' => Returns (f a) s' R :=
  returns_bind.trans returns_mapError

/-! ## One condition at every exit -/

/-- `P` holds however the program ends. -/
abbrev Always (x : Prog σ ε α) (s : σ) (P : σ → Prop) : Prop := Ends x s (fun _ => P) (fun _ => P) P

theorem always_bind {P : σ → Prop} {f : α → Prog σ ε β} :
    Always (x >>= f) s P ↔ Ends x s (fun a s' => Always (f a) s' P) (fun _ => P) P := ends_bind

theorem Always.run {P} (h : Always x s P) : P (x.run s).2 := by
  rcases hx : x.run s with ⟨a | e | _, s'⟩ <;> simpa only [Always, Ends, hx] using h

/-! ## What every exit keeps -/

/-- A relation that holds between the states before and after a program. -/
structure Frame (σ : Type) where
  rel : σ → σ → Prop
  refl : ∀ s, rel s s
  trans : ∀ {s₁ s₂ s₃}, rel s₁ s₂ → rel s₂ s₃ → rel s₁ s₃

/-- An invariant as a frame. -/
def Frame.invariant (I : σ → Prop) : Frame σ :=
  ⟨fun s s' => I s → I s', fun _ h => h, fun h₁ h₂ h => h₂ (h₁ h)⟩

/-- Whatever a list of changes of one kind can do. -/
def Frame.changes {κ : Type} (apply : κ → σ → σ) (P : κ → Prop) : Frame σ where
  rel s s' := ∃ cs : List κ, (∀ c ∈ cs, P c) ∧ s' = cs.foldl (fun s c => apply c s) s
  refl _ := ⟨[], by simp, rfl⟩
  trans := by
    rintro s₁ s₂ s₃ ⟨cs, hcs, rfl⟩ ⟨ds, hds, rfl⟩
    refine ⟨cs ++ ds, ?_, by rw [List.foldl_append]⟩
    simpa [or_imp, forall_and] using ⟨hcs, hds⟩

theorem Frame.changes_one {κ : Type} {apply : κ → σ → σ} {P : κ → Prop} {c : κ} (hc : P c) :
    (Frame.changes apply P).rel s (apply c s) :=
  ⟨[c], by simpa using hc, rfl⟩

/-- Changes are within a frame that each single change is within. -/
theorem Frame.of_changes {κ : Type} {apply : κ → σ → σ} {P : κ → Prop} {F : Frame σ} {s' : σ}
    (hF : ∀ c s, P c → F.rel s (apply c s)) (h : (Frame.changes apply P).rel s s') : F.rel s s' := by
  obtain ⟨cs, hcs, rfl⟩ := h
  induction cs generalizing s with
  | nil => exact F.refl s
  | cons c cs ih =>
    have hc := hF c s (hcs c List.mem_cons_self)
    exact F.trans hc (ih fun d hd => hcs d (List.mem_cons_of_mem c hd))

theorem Frame.changes_mono {κ : Type} {apply : κ → σ → σ} {P P' : κ → Prop} (hP : ∀ c, P c → P' c) {s' : σ}
    (h : (Frame.changes apply P).rel s s') : (Frame.changes apply P').rel s s' :=
  Frame.of_changes (fun c _ hc => changes_one (hP c hc)) h

def Keeps (F : Frame σ) (x : Prog σ ε α) : Prop := ∀ s, F.rel s (x.run s).2

variable {F : Frame σ}

theorem Keeps.ret (a : α) : Keeps F (ret a : Prog σ ε α) := fun s => F.refl s

theorem Keeps.pure (a : α) : Keeps F (pure a : Prog σ ε α) := fun s => F.refl s

theorem Keeps.fail (e : ε) : Keeps F (fail e : Prog σ ε α) := fun s => F.refl s

theorem Keeps.mono {F'} (hx : Keeps F x) (hF : ∀ s s', F.rel s s' → F'.rel s s') : Keeps F' x :=
  fun s => hF s _ (hx s)

theorem Keeps.ends (hx : Keeps F x) (s : σ) :
    Ends x s (fun _ s' => F.rel s s') (fun _ s' => F.rel s s') (F.rel s) := by
  have hs := hx s
  rcases hr : x.run s with ⟨a | e | _, s'⟩ <;> simpa only [Ends, hr] using hs

/-- What every exit keeps of an invariant. -/
theorem Keeps.always {P} (hx : Keeps (Frame.invariant P) x) (hs : P s) : Always x s P :=
  (hx.ends s).mono (fun _ _ h => h hs) (fun _ _ h => h hs) fun _ h => h hs

theorem Keeps.update {g} (hg : ∀ s, F.rel s (g s)) : Keeps F (update g : Prog σ ε Unit) := hg

theorem Keeps.read : Keeps F (read : Prog σ ε σ) := fun s => F.refl s

theorem Keeps.bind (hx : Keeps F x) (hf : ∀ a, Keeps F (f a)) : Keeps F (x >>= f) := by
  intro s
  have hs := hx s
  rcases hr : x.run s with ⟨a | e | _, s'⟩ <;> simp only [bind_run, hr] at hs ⊢
  · exact F.trans hs (hf a s')
  · exact hs
  · exact hs

theorem Keeps.attempt (hx : Keeps F x) : Keeps F (attempt x : Prog σ ε' (Except ε α)) := by
  intro s
  have hs := hx s
  rcases hr : x.run s with ⟨a | e | _, s'⟩ <;> simpa only [Prog.attempt, hr] using hs

theorem Keeps.mapError {g : ε → ε'} (hx : Keeps F x) : Keeps F (mapError g x) := by
  intro s
  have hs := hx s
  rcases hr : x.run s with ⟨a | e | _, s'⟩ <;> simpa only [Prog.mapError, hr] using hs

theorem Keeps.when {x : Prog σ ε Unit} (c : Bool) (hx : Keeps F x) : Keeps F (when c x) := by
  cases c
  · exact Keeps.ret ()
  · exact hx

theorem Keeps.failIf (c : Bool) (e : ε) : Keeps F (failIf c e) := by
  cases c
  · exact Keeps.ret ()
  · exact Keeps.fail e

/-! ## What the parts keep, the whole keeps -/

/-- `Keeps` as a class: what a program is made of decides it. -/
class Framed (F : Frame σ) (x : Prog σ ε α) : Prop where
  keeps : Keeps F x

instance {a : α} : Framed F (pure a : Prog σ ε α) := ⟨.pure a⟩

instance {a : α} : Framed F (Prog.ret a : Prog σ ε α) := ⟨.ret a⟩

instance {e : ε} : Framed F (Prog.fail e : Prog σ ε α) := ⟨.fail e⟩

instance : Framed F (Prog.read : Prog σ ε σ) := ⟨.read⟩

instance {c : Bool} {e : ε} : Framed F (Prog.failIf c e) := ⟨.failIf c e⟩

instance {c : Bool} {x : Prog σ ε Unit} [hx : Framed F x] : Framed F (Prog.when c x) := ⟨.when c hx.keeps⟩

instance [hx : Framed F x] : Framed F (Prog.attempt x : Prog σ ε' (Except ε α)) := ⟨.attempt hx.keeps⟩

instance {g : ε → ε'} [hx : Framed F x] : Framed F (Prog.mapError g x) := ⟨.mapError hx.keeps⟩

instance {c : Prop} [Decidable c] {x y : Prog σ ε α} [hx : Framed F x] [hy : Framed F y] :
    Framed F (if c then x else y) := by
  split <;> assumption

theorem Framed.bind [hx : Framed F x] (hf : ∀ a, Framed F (f a)) : Framed F (x >>= f) :=
  ⟨.bind hx.keeps fun a => (hf a).keeps⟩

instance [Framed F x] [hf : ∀ a, Framed F (f a)] : Framed F (x >>= f) := .bind hf

section

variable {κ : Type} {x : Prog σ ε (Except κ α)} {f : Except κ α → Prog σ ε β}

theorem Framed.bindExcept [Framed F x] (he : ∀ e, Framed F (f (.error e))) (ho : ∀ a, Framed F (f (.ok a))) :
    Framed F (x >>= f) :=
  .bind fun
    | .error e => he e
    | .ok a => ho a

/-- A result that is matched on is split. -/
instance (priority := high) [Framed F x] [he : ∀ e, Framed F (f (.error e))] [ho : ∀ a, Framed F (f (.ok a))] :
    Framed F (x >>= f) := .bindExcept he ho

end

variable {x : Prog σ ε (Option α)} {f : Option α → Prog σ ε β}

theorem Framed.bindOption [Framed F x] (hs : ∀ a, Framed F (f (some a))) (hn : Framed F (f none)) :
    Framed F (x >>= f) :=
  .bind fun
    | none => hn
    | some a => hs a

instance (priority := high) [Framed F x] [hs : ∀ a, Framed F (f (some a))] [hn : Framed F (f none)] :
    Framed F (x >>= f) := .bindOption hs hn

end Prog

end Lib
