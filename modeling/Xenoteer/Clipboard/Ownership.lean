/-
One selection, its server and a client that follows it through a queue of
notices: the abstract model of the clipboard backend's ownership.

The server has one owner and queues, for every change, a `lost` notice when the
client loses the selection and an `owner` notice with the new owner. The client
holds a value and knows an owner; it takes the selection, drops it and observes
the notices one by one. A notice that was queued before the client took the
selection again is observed after it: `settled_iff` says that what the client
holds is then what it set exactly when no such notice announced a loss.
-/
import Xenoteer.Clipboard.Backend

namespace Xenoteer.Clipboard

/-! ## The model -/

inductive Notice where
  | lost
  | owner (window : Window)

/-- A notice that the selection belongs to somebody else. -/
def Notice.isLoss (us : Window) : Notice → Bool
  | .lost => true
  | .owner window => window ≠ us

/-- What the client holds and knows. -/
structure View where
  held : Option ClipboardPayload
  known : Window

def View.observe (us : Window) (v : View) : Notice → View
  | .lost => if v.held.isSome then ⟨none, xNone⟩ else v
  | .owner window =>
    if window = v.known then v else ⟨if window ≠ us then none else v.held, window⟩

/-- The last value the client was told it set, and whether a loss was queued at
that moment. -/
structure LastSet where
  payload : ClipboardPayload
  lossQueued : Bool

structure SelectionState where
  owner : Window
  notices : List Notice
  view : View
  lastSet : Option LastSet

namespace SelectionState

/-- The notices of a change of owner. -/
def noticesOf (us before after : Window) : List Notice :=
  (if before = us ∧ after ≠ us then [.lost] else []) ++ [.owner after]

/-- The selection goes to another window, or to none. -/
def change (us : Window) (a : SelectionState) (window : Window) : SelectionState :=
  { a with owner := window, notices := a.notices ++ noticesOf us a.owner window }

def observe (us : Window) (a : SelectionState) (notice : Notice) (rest : List Notice) : SelectionState :=
  { a with notices := rest, view := a.view.observe us notice }

/-- The client is told that it set `payload`. -/
def acquire (us : Window) (a : SelectionState) (payload : ClipboardPayload) : SelectionState :=
  { a with
    view := ⟨some payload, us⟩
    lastSet := some ⟨payload, a.notices.any (Notice.isLoss us)⟩ }

/-- The client is told that nobody owns the selection. -/
def release (a : SelectionState) : SelectionState := { a with view := ⟨none, xNone⟩ }

/-- The client finds that somebody else owns the selection. -/
def forget (a : SelectionState) : SelectionState := { a with view := ⟨none, a.view.known⟩ }

/-- The client holds a value exactly when it owns the selection, and the value
is the last one set. -/
def Agrees (us : Window) (a : SelectionState) : Prop :=
  (a.view.held.isSome = true ↔ a.owner = us) ∧
    ∀ payload, a.view.held = some payload → ∃ last, a.lastSet = some last ∧ last.payload = payload

/-- No loss was queued when the value of the current owner was set. -/
def NoLossQueued (us : Window) (a : SelectionState) : Prop :=
  a.owner = us → ∀ last, a.lastSet = some last → last.lossQueued = false

/-! ## Invariant -/

/-- A loss will still be observed. -/
def WillLose (us : Window) (a : SelectionState) : Prop :=
  .lost ∈ a.notices ∨ (a.view.known = us ∧ ∃ window ≠ us, .owner window ∈ a.notices)

/-- `setting`: the client has taken the selection and not yet been told. -/
structure Tracked (us : Window) (setting : Prop) (a : SelectionState) : Prop where
  known : (a.notices = [] ∧ a.view.known = a.owner) ∨ a.notices.getLast? = some (.owner a.owner)
  held : a.view.held.isSome = true → a.owner = us ∨ .lost ∈ a.notices
  payload : ∀ payload, a.view.held = some payload → ∃ last, a.lastSet = some last ∧ last.payload = payload
  clean : ¬ setting → a.owner = us → ∀ last, a.lastSet = some last → last.lossQueued = false →
    a.view.held = some last.payload ∧ ∀ notice ∈ a.notices, notice.isLoss us = false
  stale : ¬ setting → a.owner = us → ∀ last, a.lastSet = some last → last.lossQueued = true →
    a.view.held = none ∨ a.WillLose us
  owned : ¬ setting → a.owner = us → a.lastSet.isSome = true

variable {us : Window} {s : Prop} {a : SelectionState}

theorem noticesOf_getLast? {l b af} : (l ++ noticesOf us b af).getLast? = some (.owner af) := by
  simp [noticesOf, ← List.append_assoc]

theorem Tracked.change (h : Tracked us s a) {w} (hw : w ≠ us) : Tracked us s (a.change us w) where
  known := .inr (noticesOf_getLast?)
  held := by
    intro hh
    right
    simp only [SelectionState.change, List.mem_append]
    rcases h.held hh with ho | hl
    · exact .inr (by simp [noticesOf, ho, hw])
    · exact .inl hl
  payload := h.payload
  clean := fun _ ho => absurd ho hw
  stale := fun _ ho => absurd ho hw
  owned := fun _ ho => absurd ho hw

/-- The client itself takes the selection; until it is told, it is setting. -/
theorem Tracked.take (h : Tracked us s a) : Tracked us True (a.change us us) where
  known := .inr (noticesOf_getLast?)
  held := fun _ => .inl rfl
  payload := h.payload
  clean := fun hs => absurd trivial hs
  stale := fun hs => absurd trivial hs
  owned := fun hs => absurd trivial hs

theorem View.held_observe {v : View} {n p} (h : (v.observe us n).held = some p) : v.held = some p := by
  cases n with
  | lost =>
    simp only [View.observe] at h
    split at h
    · cases h
    · exact h
  | owner w =>
    simp only [View.observe] at h
    split at h
    · exact h
    simp only at h
    split at h
    · cases h
    · exact h

theorem View.observe_of_none {v : View} (h : v.held = none) (n : Notice) : (v.observe us n).held = none := by
  cases ha : (v.observe us n).held with
  | none => rfl
  | some p => rw [View.held_observe ha] at h; cases h

theorem WillLose.observe {n : Notice} {rest : List Notice} (h : a.WillLose us) (hn : a.notices = n :: rest) :
    (a.view.observe us n).held = none ∨ (a.observe us n rest).WillLose us := by
  cases hh : a.view.held with
  | none => exact .inl (View.observe_of_none hh n)
  | some p =>
    cases n with
    | lost => exact .inl (by simp [View.observe, hh])
    | owner w =>
      rcases h with hl | ⟨hk, o, ho, hm⟩
      · rw [hn] at hl
        have hr : .lost ∈ rest := by simpa using hl
        exact .inr (.inl hr)
      by_cases hus : w = us
      · rw [hn] at hm
        have hr : .owner o ∈ rest := by
          rcases List.mem_cons.1 hm with heq | hr
          · cases heq; exact absurd hus ho
          · exact hr
        refine .inr (.inr ⟨?_, o, ho, hr⟩)
        simp [SelectionState.observe, View.observe, hus, hk]
      · have hne : w ≠ a.view.known := fun he => hus (he.trans hk)
        exact .inl (by simp [View.observe, hne, hus])

section

variable (h : Tracked us s a)
include h

theorem Tracked.observe {nt : Notice} {rest : List Notice}
    (hnt : a.notices = nt :: rest) : Tracked us s (a.observe us nt rest) where
  known := by
    have hk := h.known
    simp only [hnt, reduceCtorEq, false_and, false_or] at hk
    cases rest with
    | nil =>
      simp only [List.getLast?_singleton, Option.some.injEq] at hk
      left
      simp only [SelectionState.observe, hk, View.observe, true_and]
      split
      · rename_i heq
        exact heq.symm
      · rfl
    | cons nx rest =>
      rw [List.getLast?_cons_cons] at hk
      exact .inr hk
  held := by
    intro hh
    obtain ⟨p, hp⟩ := Option.isSome_iff_exists.1 hh
    have hb := View.held_observe hp
    rcases h.held (by rw [hb]; rfl) with ho | hl
    · exact .inl ho
    right
    rw [hnt] at hl
    rcases List.mem_cons.1 hl with rfl | hl
    · simp [SelectionState.observe, View.observe, hb] at hp
    · exact hl
  payload := fun p hh => h.payload p (View.held_observe hh)
  clean := by
    intro hs ho l hla hq
    obtain ⟨hh, hno⟩ := h.clean hs ho l hla hq
    rw [hnt] at hno
    refine ⟨?_, fun n hn => hno n (List.mem_cons_of_mem _ hn)⟩
    have hf := hno nt List.mem_cons_self
    cases nt with
    | lost => simp [Notice.isLoss] at hf
    | owner w =>
      have hus : w = us := by simpa [Notice.isLoss] using hf
      simp only [SelectionState.observe, View.observe, hus, ne_eq, not_true_eq_false, if_false]
      split <;> exact hh
  stale := by
    intro hs ho l hla hq
    rcases h.stale hs ho l hla hq with hno | hlo
    · exact .inl (View.observe_of_none hno nt)
    · exact hlo.observe hnt
  owned := h.owned

/-- The client is told: whatever was queued before, it now holds what it set. -/
theorem Tracked.acquire (ho : a.owner = us) (p) : Tracked us False (a.acquire us p) where
  known := by
    rcases h.known with ⟨hni, _⟩ | hl
    · exact .inl ⟨hni, ho.symm⟩
    · exact .inr hl
  held := fun _ => .inl ho
  payload := by
    intro p' hh
    exact ⟨_, rfl, Option.some.inj hh⟩
  clean := by
    intro _ _ l hl hq
    cases hl
    refine ⟨rfl, fun n hn => ?_⟩
    have hno := List.any_eq_false.1 hq n hn
    simpa using hno
  stale := by
    intro _ _ l hl hq
    cases hl
    right
    obtain ⟨n, hn, hlo⟩ := List.any_eq_true.1 hq
    cases n with
    | lost => exact .inl hn
    | owner w => exact .inr ⟨rfl, w, by simpa [Notice.isLoss] using hlo, hn⟩
  owned := fun _ _ => rfl

theorem Tracked.of_owner_ne (ho : a.owner ≠ us) {st'} : Tracked us st' a where
  __ := h
  clean := fun _ he => absurd he ho
  stale := fun _ he => absurd he ho
  owned := fun _ he => absurd he ho

theorem Tracked.mono {st' : Prop} (hle : s → st') : Tracked us st' a where
  __ := h
  clean := fun hse => h.clean fun hs => hse (hle hs)
  stale := fun hse => h.stale fun hs => hse (hle hs)
  owned := fun hse => h.owned fun hs => hse (hle hs)

theorem Tracked.forget (ho : a.owner ≠ us) : Tracked us s a.forget where
  known := h.known
  held := fun hh => by simp [SelectionState.forget] at hh
  payload := fun p hh => by simp [SelectionState.forget] at hh
  clean := fun _ he => absurd he ho
  stale := fun _ he => absurd he ho
  owned := fun _ he => absurd he ho

theorem Tracked.release (hus : us ≠ xNone) (ho : a.owner = xNone) : Tracked us s a.release where
  known := by
    rcases h.known with ⟨hn, _⟩ | hl
    · exact .inl ⟨hn, ho.symm⟩
    · exact .inr hl
  held := fun hh => by simp [SelectionState.release] at hh
  payload := fun p hh => by simp [SelectionState.release] at hh
  clean := fun _ he => absurd (he.symm.trans ho) hus
  stale := fun _ he => absurd (he.symm.trans ho) hus
  owned := fun _ he => absurd (he.symm.trans ho) hus

/-! ## Once every notice was observed -/

theorem Tracked.known_eq (hn : a.notices = []) : a.view.known = a.owner := by
  rcases h.known with ⟨_, hk⟩ | hl
  · exact hk
  · simp [hn] at hl

end

theorem settled_iff (h : Tracked us False a) (hn : a.notices = []) : a.Agrees us ↔ a.NoLossQueued us := by
  have hh : a.view.held.isSome = true → a.owner = us := by
    intro hs
    simpa [hn] using h.held hs
  constructor
  · intro ha ho l hl
    cases hq : l.lossQueued with
    | false => rfl
    | true =>
      have hs := ha.1.2 ho
      rcases h.stale id ho l hl hq with hno | hlo
      · simp [hno] at hs
      · simp [WillLose, hn] at hlo
  · intro hc
    refine ⟨⟨hh, fun ho => ?_⟩, h.payload⟩
    obtain ⟨l, hl⟩ := Option.isSome_iff_exists.1 (h.owned id ho)
    rw [(h.clean id ho l hl (hc ho l hl)).1]
    rfl

end SelectionState

end Xenoteer.Clipboard
