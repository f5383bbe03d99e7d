/-
The startup bridge between the observation plane and the coordinator
(`DeferredWindowEventSink` of `event_sink.rs`), over every interleaving of its
callers with its one `bind`.

A step is what is done under one hold of the lock, or one call of the ingress;
a call begins with its lock. Before the ingress is installed only `bind` calls
it, so the history has two parts: `early`, up to the installation, and `late`.
-/
import Mathlib.Data.List.Induction
import Mathlib.Data.List.Perm.Basic

namespace Xenoteer

variable {Event : Type}

def prebindEventCapacity : Nat := 256

/-- `ingress` says whether it is installed. -/
structure DeferredState (Event : Type) where
  ingress : Bool
  binding : Bool
  pending : List Event
  resyncRequired : Bool

/-- What `try_emit` does after it gave the lock back. -/
inductive EmitAnswer where
  | queued
  | full
  | forward

namespace DeferredState

def new : DeferredState Event := ⟨false, false, [], false⟩

variable (s : DeferredState Event)

def tryEmit (event : Event) : EmitAnswer × DeferredState Event :=
  if s.ingress then (.forward, s)
  else if s.resyncRequired || decide (prebindEventCapacity ≤ s.pending.length) then
    (.full, { s with pending := [], resyncRequired := true })
  else (.queued, { s with pending := s.pending ++ [event] })

/-- Whether the ingress is called is told with it. -/
def requireResync : Bool × DeferredState Event := (s.ingress, { s with pending := [], resyncRequired := true })

/-- The first lock of `bind`: nothing is taken when there was a bind before. -/
def take : Option (List Event × Bool × DeferredState Event) :=
  if s.ingress || s.binding then none
  else some (s.pending, s.resyncRequired, { s with binding := true, pending := [], resyncRequired := false })

/-- The last lock of a round: the events of the next one, or the end. -/
def settle (resyncRequired : Bool) : List Event × DeferredState Event :=
  if resyncRequired || s.resyncRequired then ([], ⟨true, false, [], false⟩)
  else if s.pending.isEmpty then ([], { s with ingress := true, binding := false })
  else (s.pending, { s with pending := [] })

end DeferredState

/-- Where `bind` is: it hands a batch over, is about to demand a resync, has
demanded one, or has returned. -/
inductive BindPhase (Event : Type) where
  | idle
  | handing (batch : List Event)
  | demanding
  | demanded
  | bound

/-- What happened before the ingress was installed. -/
inductive EarlyEntry (Event : Type) where
  | queued (event : Event)
  | overflowed (event : Event)
  | resynced
  | took
  | handed (event : Event)
  | demanded

/-- What happened after it. -/
inductive LateEntry (Event : Type) where
  | forwarded (event : Event)
  | resynced
  | handed (event : Event)
  | demanded

/-- `calls` are those that found the ingress and have not called it yet: with
their event, or for a resync. -/
structure DeferredSink (Event : Type) where
  state : DeferredState Event := .new
  bind : BindPhase Event := .idle
  calls : List (Option Event) := []
  early : List (EarlyEntry Event) := []
  late : List (LateEntry Event) := []

inductive SinkAction (Event : Type) where
  | tryEmit (event : Event)
  | requireResync
  /-- `bind` goes on; the ingress refuses the event it is handed, or not. -/
  | bind (refused : Bool)
  /-- A call that found the ingress calls it; the answer is its caller's. -/
  | call (index : Nat)

namespace DeferredSink

variable (s : DeferredSink Event)

def settle (resyncRequired : Bool) : DeferredSink Event :=
  match s.state.settle resyncRequired with
  | ([], state) => { s with state, bind := .bound }
  | (batch, state) => { s with state, bind := .handing batch, early := s.early ++ [.took] }

def bindStep (refused : Bool) : DeferredSink Event :=
  match s.bind with
  | .idle =>
    match s.state.take with
    | none => s
    | some (batch, resyncRequired, state) =>
      { s with
        state
        bind := if resyncRequired then .demanding else .handing batch
        early := s.early ++ [.took] }
  | .handing (event :: batch) =>
    { s with bind := if refused then .demanding else .handing batch, early := s.early ++ [.handed event] }
  | .handing [] => s.settle false
  | .demanding => { s with bind := .demanded, early := s.early ++ [.demanded] }
  | .demanded => s.settle true
  | .bound => s

def step : SinkAction Event → DeferredSink Event
  | .tryEmit event =>
    match s.state.tryEmit event with
    | (.queued, state) => { s with state, early := s.early ++ [.queued event] }
    | (.full, state) => { s with state, early := s.early ++ [.overflowed event] }
    | (.forward, state) => { s with state, calls := s.calls ++ [some event], late := s.late ++ [.forwarded event] }
  | .requireResync =>
    match s.state.requireResync with
    | (false, state) => { s with state, early := s.early ++ [.resynced] }
    | (true, state) => { s with state, calls := s.calls ++ [none], late := s.late ++ [.resynced] }
  | .bind refused => s.bindStep refused
  | .call index =>
    match s.calls[index]? with
    | none => s
    | some (some event) => { s with calls := s.calls.eraseIdx index, late := s.late ++ [.handed event] }
    | some none => { s with calls := s.calls.eraseIdx index, late := s.late ++ [.demanded] }

def run (actions : List (SinkAction Event)) : DeferredSink Event := actions.foldl step {}

end DeferredSink

/-! ## What is promised -/

namespace BindPhase

/-- What is left of the batch. -/
@[simp] def todo : BindPhase Event → List Event
  | .handing batch => batch
  | _ => []

/-- No resync was demanded, and the ingress is not installed. -/
def drains : BindPhase Event → Bool
  | .idle | .handing _ => true
  | _ => false

end BindPhase

namespace EarlyEntry

@[simp] def queuedEvent : EarlyEntry Event → List Event
  | .queued event => [event]
  | _ => []

@[simp] def handedEvent : EarlyEntry Event → List Event
  | .handed event => [event]
  | _ => []

/-- Something was dropped: a resync is owed. -/
@[simp] def isDrop : EarlyEntry Event → Bool
  | .overflowed _ | .resynced => true
  | _ => false

/-- `bind` took the buffer, or told the ingress to resync. -/
@[simp] def isMark : EarlyEntry Event → Bool
  | .took | .demanded => true
  | _ => false

end EarlyEntry

@[simp] def LateEntry.forwardedEvent : LateEntry Event → List Event
  | .forwarded event => [event]
  | _ => []

@[simp] def LateEntry.handedEvent : LateEntry Event → List Event
  | .handed event => [event]
  | _ => []

namespace DeferredSink

abbrev queued (entries : List (EarlyEntry Event)) : List Event := entries.flatMap EarlyEntry.queuedEvent

abbrev handed (entries : List (EarlyEntry Event)) : List Event := entries.flatMap EarlyEntry.handedEvent

/-- No event is handed over more often than it was emitted. When `bind` has
returned, the n-th event queued is the n-th that it handed over, or a resync
was demanded after it; and every drop was followed by a demand before `bind`
returned. -/
structure LosesNothing [DecidableEq Event] (s : DeferredSink Event) : Prop where
  once : ∀ event, (handed s.early ++ s.late.flatMap LateEntry.handedEvent).count event ≤
    (queued s.early ++ s.late.flatMap LateEntry.forwardedEvent).count event
  delivered : s.bind = .bound → ∀ a event b, s.early = a ++ .queued event :: b →
    (handed s.early)[(queued a).length]? = some event ∨ .demanded ∈ b ∨ .demanded ∈ s.late
  covered : s.bind = .bound → ∀ a x b, s.early = a ++ x :: b → x.isDrop = true → .demanded ∈ b

/-- From its last take or demand until it installs the ingress, `bind` is not
disturbed: nothing is dropped, and after a demand nothing is queued, unless a
resync is demanded later. -/
def Undisturbed (s : DeferredSink Event) : Prop :=
  s.bind = .bound → ∀ a m b, s.early = a ++ m :: b → m.isMark = true → (∀ x ∈ b, x.isMark = false) →
    (∀ x ∈ b, x.isDrop = false) ∧ (m = .demanded → ∀ event, .queued event ∈ b → .demanded ∈ s.late)

/-! ## The invariant -/

/-- Two entries are one, or one of them comes first. -/
theorem split_cases {a b a' b' : List (EarlyEntry Event)} {m x} (h : a ++ m :: b = a' ++ x :: b') :
    (m = x ∧ b = b') ∨ m ∈ b' ∨ x ∈ b := by
  obtain ⟨c, rfl, hc⟩ | ⟨c, rfl, hc⟩ := List.append_eq_append_iff.1 h <;> cases c with
  | nil =>
    cases hc
    exact .inl ⟨rfl, rfl⟩
  | cons y c =>
    cases hc
    simp

/-- `m` is the last mark. -/
structure Since (early a : List (EarlyEntry Event)) (m : EarlyEntry Event) (b : List (EarlyEntry Event)) : Prop where
  split : early = a ++ m :: b
  quiet : ∀ x ∈ b, x.isMark = false

section Since

variable {early a b : List (EarlyEntry Event)} {m x : EarlyEntry Event} (h : Since early a m b)
include h

theorem Since.snoc (hx : x.isMark = false) : Since (early ++ [x]) a m (b ++ [x]) :=
  ⟨by simp [h.split], List.forall_mem_append.2 ⟨h.quiet, List.forall_mem_singleton.2 hx⟩⟩

/-- No demand follows an entry after the last mark. -/
theorem Since.entry (hx : x ∈ b) : ∃ c d, early = c ++ x :: d ∧ .demanded ∉ d ∧ a <+: c := by
  obtain ⟨b₁, b₂, rfl⟩ := List.append_of_mem hx
  refine ⟨a ++ m :: b₁, b₂, by simp [h.split], fun hd => ?_, List.prefix_append _ _⟩
  cases h.quiet .demanded (by simp [hd])

theorem Since.unique (hm : m.isMark = true) {a' m' b'} (he : early = a' ++ m' :: b') (hm' : m'.isMark = true)
    (hq : ∀ x ∈ b', x.isMark = false) : m = m' ∧ b = b' := by
  obtain heq | hin | hin := split_cases (h.split.symm.trans he)
  · exact heq
  · rw [hq m hin] at hm
    cases hm
  · rw [h.quiet m' hin] at hm'
    cases hm'

end Since

/-- Where `bind` is, as the history tells it. It ends with a demand; or without
one, and what was dropped after its last take is forgotten; or with everything
handed over. -/
inductive BindStage (owed : Bool) (early : List (EarlyEntry Event)) : BindPhase Event → Prop
  | idle : BindStage owed early .idle
  | handing {a b batch} : Since early a .took b → (owed = true → ∃ x ∈ b, x.isDrop = true) →
    BindStage owed early (.handing batch)
  | demanding : BindStage owed early .demanding
  | demanded {a b} : Since early a .demanded b → (handed early).length ≤ (queued a).length →
    BindStage owed early .demanded
  | resynced {a b} : Since early a .demanded b → (handed early).length ≤ (queued a).length →
    BindStage owed early .bound
  | forgot {a b} : Since early a .took b → (∃ x ∈ b, x.isDrop = true) → BindStage owed early .bound
  | drained {a b} : Since early a .took b → (∀ x ∈ early, x.isDrop = false) → queued early = handed early →
    BindStage owed early .bound

/-- Until a resync is demanded, `todo` and the buffer are what is left of the
queued events, unless some were dropped. -/
structure Sound (s : DeferredSink Event) : Prop where
  ingress : s.state.ingress = true ↔ s.bind = .bound
  handed : handed s.early ++ s.bind.todo <+: queued s.early
  kept : s.bind.drains = true → s.state.resyncRequired = false →
    queued s.early = DeferredSink.handed s.early ++ s.bind.todo ++ s.state.pending ∧ ∀ x ∈ s.early, x.isDrop = false
  calls : (s.late.flatMap LateEntry.forwardedEvent).Perm
    (s.late.flatMap LateEntry.handedEvent ++ s.calls.flatMap Option.toList)
  stage : BindStage s.state.resyncRequired s.early s.bind

section Steps

variable {s : DeferredSink Event} {x : EarlyEntry Event}

theorem clean_snoc (h : ∀ y ∈ s.early, y.isDrop = false) (hx : x.isDrop = false) :
    ∀ y ∈ s.early ++ [x], y.isDrop = false :=
  List.forall_mem_append.2 ⟨h, List.forall_mem_singleton.2 hx⟩

/-- A caller that does not find the ingress leaves an entry. -/
theorem Sound.note (h : s.Sound) (hi : s.state.ingress = false) {st : DeferredState Event}
    (hm : x.isMark = false) (hx : x.handedEvent = []) (his : st.ingress = s.state.ingress)
    (hr : st.resyncRequired = (s.state.resyncRequired || x.isDrop))
    (hp : st.resyncRequired = false → st.pending = s.state.pending ++ x.queuedEvent) :
    Sound { s with state := st, early := s.early ++ [x] } := by
  have hha : DeferredSink.handed (s.early ++ [x]) = DeferredSink.handed s.early := by
    simp [hx, -EarlyEntry.handedEvent]
  have hq : queued (s.early ++ [x]) = queued s.early ++ x.queuedEvent := by simp
  refine ⟨his ▸ h.ingress, ?_, fun hdr hre => ?_, h.calls, ?_⟩
  · rw [hha, hq]
    exact h.handed.trans (List.prefix_append _ _)
  · have hpe := hp hre
    rw [hr, Bool.or_eq_false_iff] at hre
    obtain ⟨hk, hc⟩ := h.kept hdr hre.1
    exact ⟨by simp only [hha, hq, hpe, hk, List.append_assoc], clean_snoc hc hre.2⟩
  · have hs := h.stage
    have hb : s.bind ≠ .bound := fun hb => by simp [h.ingress.2 hb] at hi
    generalize s.bind = phase at hb hs
    cases hs with
    | idle => exact .idle
    | demanding => exact .demanding
    | handing hs hd =>
      refine .handing (hs.snoc hm) fun hre => ?_
      rw [hr, Bool.or_eq_true] at hre
      obtain hre | hxd := hre
      · obtain ⟨y, hy, hyd⟩ := hd hre
        exact ⟨y, List.mem_append_left _ hy, hyd⟩
      · exact ⟨x, by simp, hxd⟩
    | demanded hs hle => exact .demanded (hs.snoc hm) (hha ▸ hle)
    | resynced | forgot | drained => exact absurd rfl hb

theorem Sound.tryEmit (h : s.Sound) (e : Event) : (s.step (.tryEmit e)).Sound := by
  simp only [step, DeferredState.tryEmit]
  cases hi : s.state.ingress with
  | true =>
    have hc := h.calls.append_right [e]
    exact { h with calls := by simpa using hc }
  | false =>
    by_cases hf : (s.state.resyncRequired || decide (prebindEventCapacity ≤ s.state.pending.length)) = true
    · simp only [hf, Bool.false_eq_true, if_false, if_true]
      exact h.note hi rfl rfl hi.symm (by simp) nofun
    · simp only [hf, Bool.false_eq_true, if_false]
      exact h.note hi rfl rfl hi.symm (by simp) fun _ => rfl

theorem Sound.requireResync (h : s.Sound) : (s.step .requireResync).Sound := by
  simp only [step, DeferredState.requireResync]
  cases hi : s.state.ingress with
  | true =>
    have hs := h.stage
    refine ⟨by simpa [hi] using h.ingress, h.handed, nofun, by simpa using h.calls, ?_⟩
    rw [h.ingress.1 hi] at hs ⊢
    cases hs with
    | resynced hs hle => exact .resynced hs hle
    | forgot hs hd => exact .forgot hs hd
    | drained hs hd hq => exact .drained hs hd hq
  | false => exact h.note hi rfl rfl hi.symm (by simp) nofun

theorem Sound.call (h : s.Sound) (i : Nat) : (s.step (.call i)).Sound := by
  have hp : ∀ {c}, s.calls[i]? = some c →
      (s.calls.flatMap Option.toList).Perm (c.toList ++ (s.calls.eraseIdx i).flatMap Option.toList) := by
    intro c hc
    obtain ⟨hi, rfl⟩ := List.getElem?_eq_some_iff.1 hc
    exact (List.getElem_cons_eraseIdx_perm hi).symm.flatMap_right _
  simp only [step]
  split
  · exact h
  all_goals
    next hc =>
    have hc := h.calls.trans ((hp hc).append_left _)
    exact { h with calls := by simpa using hc }

/-- A round ends: with a demand of its own, or without. -/
theorem Sound.settle (h : s.Sound) {r : Bool} (hr : s.bind = if r then .demanded else .handing []) :
    (s.settle r).Sound := by
  have hs := h.stage
  have hh := h.handed
  rw [hr] at hs hh
  cases r with
  | true =>
    cases hs with
    | demanded hs hle =>
      exact ⟨by simp [DeferredSink.settle, DeferredState.settle], hh, nofun, h.calls, .resynced hs hle⟩
  | false =>
    cases hs with
    | handing hs hd =>
      simp only [DeferredSink.settle, DeferredState.settle]
      cases hre : s.state.resyncRequired with
      | true => exact ⟨by simp, hh, nofun, h.calls, .forgot hs (hd hre)⟩
      | false =>
        obtain ⟨hk, hc⟩ := h.kept (by rw [hr]; rfl) hre
        simp only [hr, BindPhase.todo, Bool.false_eq_true, if_false, List.append_nil] at hk
        cases hp : s.state.pending with
        | nil => exact ⟨by simp, hh, nofun, h.calls, .drained hs hc (by simpa [hp] using hk)⟩
        | cons e rest =>
          rw [hp] at hk
          exact ⟨by simpa [hr] using h.ingress, by simp [hk],
            fun _ _ => ⟨by simp [hk], clean_snoc hc rfl⟩, h.calls, .handing ⟨rfl, nofun⟩ nofun⟩

theorem Sound.bind (h : s.Sound) (refused : Bool) : (s.step (.bind refused)).Sound := by
  have hs := h.stage
  have hh := h.handed
  simp only [step, bindStep]
  split
  next hb =>
    simp only [hb, BindPhase.todo, List.append_nil] at hh
    simp only [DeferredState.take]
    split
    · exact h
    rename_i hi
    split at hi
    · cases hi
    rename_i hf
    cases hi
    have hi : s.state.ingress = false := by
      simp only [Bool.or_eq_true, not_or, Bool.not_eq_true] at hf
      exact hf.1
    cases hr : s.state.resyncRequired with
    | true => exact ⟨by simp [hi], by simpa using hh, nofun, h.calls, .demanding⟩
    | false =>
      obtain ⟨hk, hc⟩ := h.kept (by rw [hb]; rfl) hr
      simp only [hb, BindPhase.todo, List.append_nil] at hk
      exact ⟨by simp [hi], by simp [hk], fun _ _ => ⟨by simp [hk], clean_snoc hc rfl⟩,
        h.calls, .handing ⟨rfl, nofun⟩ nofun⟩
  next e batch hb =>
    have hi : s.state.ingress = false := by simpa [hb] using h.ingress
    simp only [hb, BindPhase.todo] at hh
    rw [hb] at hs
    cases refused with
    | true =>
      have hp := ((List.prefix_append_right_inj _).2 (List.prefix_append [e] batch)).trans hh
      exact ⟨by simp [hi], by simpa using hp, nofun, h.calls, .demanding⟩
    | false =>
      cases hs with
      | handing hs hd =>
        refine ⟨by simp [hi], by simpa using hh, fun _ hr => ?_, h.calls,
          .handing (hs.snoc rfl) fun hr => ?_⟩
        · obtain ⟨hk, hc⟩ := h.kept (by rw [hb]; rfl) hr
          exact ⟨by simpa [hb] using hk, clean_snoc hc rfl⟩
        · obtain ⟨y, hy, hyd⟩ := hd hr
          exact ⟨y, List.mem_append_left _ hy, hyd⟩
  next hb => exact h.settle hb
  next hb =>
    simp only [hb, BindPhase.todo, List.append_nil] at hh
    exact ⟨by simpa [hb] using h.ingress, by simpa using hh, nofun, h.calls,
      .demanded ⟨rfl, nofun⟩ (by simpa using hh.length_le)⟩
  next hb => exact h.settle hb
  · exact h

theorem sound_run (actions : List (SinkAction Event)) : (run actions).Sound := by
  unfold run
  induction actions using List.reverseRecOn with
  | nil => exact ⟨by simp [DeferredState.new], List.nil_prefix, fun _ _ => ⟨rfl, nofun⟩, .refl _, .idle⟩
  | append_singleton actions action ih =>
    rw [List.foldl_append]
    cases action with
    | tryEmit e => exact ih.tryEmit e
    | requireResync => exact ih.requireResync
    | bind refused => exact ih.bind refused
    | call i => exact ih.call i

theorem Sound.once [DecidableEq Event] (h : s.Sound) (e : Event) :
    (DeferredSink.handed s.early ++ s.late.flatMap LateEntry.handedEvent).count e ≤
      (queued s.early ++ s.late.flatMap LateEntry.forwardedEvent).count e := by
  have hh := ((List.prefix_append _ _).trans h.handed).sublist.count_le e
  have hc := h.calls.count_eq e
  rw [List.count_append] at hc
  rw [List.count_append, List.count_append]
  omega

end Steps

/-- The bridge loses nothing silently exactly when its `bind` was not disturbed
at its end. -/
theorem loses_nothing_iff_undisturbed [DecidableEq Event] (actions : List (SinkAction Event)) :
    (run actions).LosesNothing ↔ (run actions).Undisturbed := by
  have h := sound_run actions
  generalize run actions = s at h
  by_cases hb : s.bind = .bound
  swap
  · exact ⟨fun _ hb' => absurd hb' hb, fun _ => ⟨h.once, fun hb' => absurd hb' hb, fun hb' => absurd hb' hb⟩⟩
  have hs := h.stage
  rw [hb] at hs
  cases hs with
  | @resynced a b hsi hle =>
    constructor
    · intro hl _ a' m' b' he hm' hq
      obtain ⟨rfl, rfl⟩ := hsi.unique rfl he hm' hq
      refine ⟨fun x hx => ?_, fun _ e hx => ?_⟩ <;> obtain ⟨c, d, hc, hnd, hp⟩ := hsi.entry hx
      · by_contra hd
        exact hnd (hl.covered hb c x d hc (by simpa using hd))
      obtain hi | hin | hin := hl.delivered hb c e d hc
      · -- what was queued after the demand is beyond what was handed over
        have hlt := (List.getElem?_eq_some_iff.1 hi).1
        have hpl : (queued a).length ≤ (queued c).length := by
          obtain ⟨t, rfl⟩ := hp
          simp
        omega
      · exact absurd hin hnd
      · exact hin
    · intro hd
      obtain ⟨hdr, hqu⟩ := hd hb a _ b hsi.split rfl hsi.quiet
      refine ⟨h.once, fun _ a' e b' he => ?_, fun _ a' x b' he hx => ?_⟩
      · obtain ⟨heq, -⟩ | hin | hin := split_cases (hsi.split.symm.trans he)
        · cases heq
        · exact .inr (.inl hin)
        · exact .inr (.inr (hqu rfl e hin))
      · obtain ⟨rfl, -⟩ | hin | hin := split_cases (hsi.split.symm.trans he)
        · cases hx
        · exact hin
        · rw [hdr x hin] at hx
          cases hx
  | @forgot a b hsi hdr =>
    obtain ⟨x, hx, hd⟩ := hdr
    refine iff_of_false (fun hl => ?_) fun hd' => ?_
    · obtain ⟨c, d, hc, hnd, -⟩ := hsi.entry hx
      exact hnd (hl.covered hb c x d hc hd)
    · have hf := (hd' hb a _ _ hsi.split rfl hsi.quiet).1 x hx
      rw [hd] at hf
      cases hf
  | @drained a b hsi hdr hq =>
    refine iff_of_true ⟨h.once, fun _ a' e b' he => .inl ?_, fun _ a' x b' he hx => ?_⟩ ?_
    · rw [← hq, he]
      simp
    · rw [hdr x (by simp [he])] at hx
      cases hx
    · intro _ a' m' b' he hm' hqt
      obtain ⟨rfl, rfl⟩ := hsi.unique rfl he hm' hqt
      exact ⟨fun x hx => hdr x (by simp [he, hx]), nofun⟩

/-- `bind` finds the buffer empty; before its last lock, a caller demands a
resync. The ingress is never told. -/
theorem resync_lost : ¬ (run [.bind false, .requireResync, .bind false] : DeferredSink Bool).LosesNothing := by
  intro h
  have hc := h.covered rfl [.took] .resynced [] rfl rfl
  cases hc

end DeferredSink

end Xenoteer
