/-
Which ledger records have a public result, and what that result says
(`mapRecord_eq_ok`). Each transition of `CommandResult` is described by when
it succeeds and what it then returns; `map_terminal` is their composition.
-/
import Xenoteer.Daemon.CommandResults

namespace Xenoteer

open Lib.Checks
open CommandResult (canFailAs codeMatches effectMatches expectedStatus inOrder_iff checked_eq_ok validate_eq_ok)

variable {O : Type}

/-! ## Time -/

theorem internally_eq_ok {ε α : Type} {x : Except ε α} {a : α} : internally x = .ok a ↔ x = .ok a :=
  wrapped_eq_ok

def FitsI128 (value : Int) : Prop := -i128Max - 1 ≤ value ∧ value ≤ i128Max

theorem checkedI128_eq_ok {v rs} : orInternal (checkedI128 v) = .ok rs ↔ FitsI128 v ∧ rs = v := by
  unfold FitsI128 checkedI128
  split_ifs with h
  · rw [orInternal, Option.elim_some, Except.ok.injEq, eq_comm]
    exact (and_iff_right h).symm
  · simp only [orInternal, Option.elim_none, reduceCtorEq, h, false_and]

theorem fromUnixTimestampNanos_eq_ok {v t} :
    Timestamp.fromUnixTimestampNanos v = .ok t ↔ t.unixNanos = v := by
  simp only [Timestamp.fromUnixTimestampNanos]
  split
  next h =>
    cases t
    simp only [Except.ok.injEq, Timestamp.mk.injEq]
    exact eq_comm
  next h =>
    simp only [reduceCtorEq, false_iff]
    intro heq
    exact h ⟨heq ▸ t.lower, heq ▸ t.upper⟩

namespace ClockProjection

/-- The instant a monotonic time stands for. -/
def instant (clock : ClockProjection) (monotonic : MonotonicMillis) : Int :=
  clock.unixOriginNs + monotonic * 1000000

variable {cl : ClockProjection} {t : Timestamp}

theorem timestamp_eq_ok {m : Nat} : cl.timestamp m = .ok t ↔
      FitsI128 (m * 1000000) ∧ FitsI128 (cl.instant m) ∧ t.unixNanos = cl.instant m := by
  simp only [timestamp, bind_eq_ok, checkedI128_eq_ok, internally_eq_ok, fromUnixTimestampNanos_eq_ok,
    and_assoc, exists_and_left, exists_eq_left, instant]

theorem timestamp_nanos {m : Nat} (h : cl.timestamp m = .ok t) : t.unixNanos = cl.instant m :=
  (timestamp_eq_ok.mp h).2.2

theorem instant_le (cl : ClockProjection) {m n : Nat} : cl.instant m ≤ cl.instant n ↔ m ≤ n := by
  simp only [instant]
  omega

/-- Two monotonic times never share a timestamp. -/
theorem timestamp_injective {m n : Nat} {u}
    (hm : cl.timestamp m = .ok t) (hn : cl.timestamp n = .ok u) : t = u ↔ m = n := by
  have ht := timestamp_nanos hm
  have hu := timestamp_nanos hn
  constructor
  · intro h
    rw [h, hu, instant, instant] at ht
    omega
  · intro h
    rw [h, hn] at hm
    exact (Except.ok.inj hm).symm

/-- A time between two that convert converts too. -/
theorem timestamp_between {l m n : Nat} {u : Timestamp}
    (hl : cl.timestamp l = .ok t) (hn : cl.timestamp n = .ok u) (hlm : l ≤ m) (hmn : m ≤ n) :
    ∃ v, cl.timestamp m = .ok v := by
  obtain ⟨hl₁, hl₂, ht⟩ := timestamp_eq_ok.mp hl
  obtain ⟨hn₁, hn₂, hu⟩ := timestamp_eq_ok.mp hn
  have hlo := (instant_le cl).mpr hlm
  have hh := (instant_le cl).mpr hmn
  refine ⟨⟨cl.instant m, by rw [← ht] at hlo; exact t.lower.trans hlo,
    by rw [← hu] at hh; exact hh.trans u.upper⟩, timestamp_eq_ok.mpr ⟨?_, ?_, rfl⟩⟩
  · unfold FitsI128 at hl₁ hn₁ ⊢
    omega
  · unfold FitsI128 at hl₂ hn₂ ⊢
    omega

end ClockProjection

/-! ## Problems and traces -/

def RuntimeFailure.problem (failure : RuntimeFailure) (generation : DesktopGeneration) : Problem :=
  { problemType := failure.code.typeUri
    title := failure.title
    status := failure.status
    code := failure.code
    detail := failure.detail
    instanceUri := none
    retry := failure.retry
    effectStage := failure.effectStage
    desktopGeneration := some generation
    details := [] }

/-- The parts of a failure make a problem. -/
def RuntimeFailure.Acceptable (failure : RuntimeFailure) : Prop :=
  Problem.Acceptable failure.status failure.title failure.detail failure.retry failure.effectStage

instance (failure : RuntimeFailure) : Decidable failure.Acceptable :=
  inferInstanceAs (Decidable (Problem.Acceptable ..))

theorem runtimeProblem_eq_ok {fl : RuntimeFailure} {g : DesktopGeneration} {p : Problem} :
    runtimeProblem fl g = .ok p ↔ fl.Acceptable ∧ p = fl.problem g := by
  simp only [runtimeProblem, internally_eq_ok]
  by_cases h : fl.Acceptable
  · rw [Problem.new_of_acceptable fl.code h]
    simp only [h, true_and, Except.map, Except.ok.injEq]
    exact eq_comm
  · obtain ⟨e, he⟩ := Problem.new_refused fl.code h
    simp [he, h, Except.map]

theorem RuntimeFailure.problem_validate {fl : RuntimeFailure} (h : fl.Acceptable)
    (g : DesktopGeneration) : (fl.problem g).validate = .ok () := by
  have hn := (Problem.new_ok (Problem.new_of_acceptable fl.code h)).1
  rw [← Problem.validate_withDesktopGeneration g] at hn
  exact hn

/-- A trace that can stand on a result whose last step has this status. -/
def CommandTrace.EndsWith (trace : CommandTrace) (status : CommandTraceStatus) : Prop :=
  trace.validate = .ok () ∧ trace.terminalStatus = some status

/-- An executor result that is valid in itself: its outcome or its problem
passes, its code fits its stage, and its trace ends as the result does. -/
def RuntimeResult.Valid [OutcomeValidation O] : RuntimeResult O → Prop
  | .success result => OutcomeValidation.validate result.outcome = .ok () ∧
      ∀ trace ∈ result.trace, trace.EndsWith .completed
  | .failure result => result.Acceptable ∧
      effectMatches (lifecycleForFailure result) result.effectStage = true ∧
      ∀ trace ∈ result.trace, trace.EndsWith .failed

/-! ## Transitions -/

section Transitions

variable [OutcomeValidation O] {id : CommandId} {a s f : Timestamp}

def runningResult (O : Type) (id : CommandId) (a s : Timestamp) : CommandResult O :=
  { CommandResult.accepted id a with lifecycle := .running, startedAt := some s }

def succeededResult (id : CommandId) (a s f : Timestamp) (success : RuntimeSuccess O) : CommandResult O :=
  { runningResult O id a s with
    lifecycle := .succeeded
    effectStage := success.effectStage
    finishedAt := some f
    outcome := some success.outcome }

/-- Whether a failed result reports a start. -/
def failureStarts (lifecycle : CommandLifecycle) (stage : EffectStage) : Bool :=
  stage.hasVisibleEffect || lifecycle = .failed

def failedResult (O : Type) (id : CommandId) (a f : Timestamp) (lifecycle : CommandLifecycle)
    (problem : Problem) : CommandResult O :=
  { CommandResult.accepted id a with
    lifecycle
    effectStage := problem.effectStage
    startedAt := if failureStarts lifecycle problem.effectStage then some a else none
    finishedAt := some f
    error := some problem }

theorem accepted_valid (id : CommandId) (a : Timestamp) :
    (CommandResult.accepted id a : CommandResult O).Valid where
  payload := rfl
  outcome _ h := nomatch h
  effect := rfl
  problem _ h := nomatch h
  trace _ h := nomatch h
  order := rfl
  warningCount := Nat.zero_le _
  warning _ h := nomatch h

theorem runningResult_valid (has : a.unixNanos ≤ s.unixNanos) : (runningResult O id a s).Valid :=
  { accepted_valid id a with
    payload := rfl
    effect := rfl
    order := by simpa [inOrder_iff, runningResult, CommandResult.accepted] using has }

variable {r : CommandResult O}

theorem start_eq_ok : (CommandResult.accepted id a).start s = .ok r ↔
      a.unixNanos ≤ s.unixNanos ∧ r = runningResult O id a s := by
  simp only [CommandResult.start, CommandResult.accepted, ne_eq, not_true_eq_false, if_false,
    checked_eq_ok, validate_eq_ok]
  exact and_congr_left fun _ =>
    ⟨fun h => (inOrder_iff.mp h.order).1 s rfl, runningResult_valid⟩

theorem succeededResult_valid (has : a.unixNanos ≤ s.unixNanos) (hsf : s.unixNanos ≤ f.unixNanos)
    {sc : RuntimeSuccess O} (hou : OutcomeValidation.validate sc.outcome = .ok ()) :
    (succeededResult id a s f sc).Valid where
  payload := rfl
  outcome o ho := by rwa [← Option.some.inj ho]
  effect := rfl
  problem _ h := nomatch h
  trace _ h := nomatch h
  order := by
    simpa [inOrder_iff, succeededResult, runningResult, CommandResult.accepted, has, hsf] using
      has.trans hsf
  warningCount := Nat.zero_le _
  warning _ h := nomatch h

theorem succeed_eq_ok (has : a.unixNanos ≤ s.unixNanos) (hsf : s.unixNanos ≤ f.unixNanos)
    {sc : RuntimeSuccess O} : (runningResult O id a s).succeed sc.effectStage sc.outcome f = .ok r ↔
      OutcomeValidation.validate sc.outcome = .ok () ∧ r = succeededResult id a s f sc := by
  simp only [CommandResult.succeed, runningResult, ne_eq, not_true_eq_false, if_false,
    checked_eq_ok, validate_eq_ok]
  exact and_congr_left fun _ => ⟨fun h => h.outcome _ rfl, succeededResult_valid has hsf⟩

/-- A failed result is valid when its lifecycle fits the effect. -/
theorem failedResult_valid (id : CommandId) (haf : a.unixNanos ≤ f.unixNanos) {lifecycle}
    (hl : canFailAs .running lifecycle = true) {problem}
    (hpr : problem.validate = .ok ()) (hc : codeMatches lifecycle problem.code = true)
    (he : effectMatches lifecycle problem.effectStage = true) :
    (failedResult O id a f lifecycle problem).Valid where
  payload := by
    cases lifecycle <;>
      simp_all [CommandResult.payloadMatches, failedResult, CommandResult.accepted, failureStarts,
        effectMatches, canFailAs]
  outcome _ h := nomatch h
  effect := he
  problem p hp := by
    rw [← Option.some.inj hp]
    exact ⟨hpr, rfl, hc⟩
  trace _ h := nomatch h
  order := by
    simp only [inOrder_iff, failedResult, CommandResult.accepted]
    split <;> simpa using haf
  warningCount := Nat.zero_le _
  warning _ h := nomatch h

/-- `fail` on the result that a failure of the command starts from. -/
theorem fail_eq_ok {id : CommandId} {lifecycle : CommandLifecycle} {problem : Problem} {r' : CommandResult O}
    (hr : (if failureStarts lifecycle problem.effectStage then runningResult O id a a else .accepted id a) = r) :
    r.fail lifecycle problem f = .ok r' ↔ canFailAs r.lifecycle lifecycle = true ∧
      (failedResult O id a f lifecycle problem).Valid ∧ r' = failedResult O id a f lifecycle problem := by
  have heq : { r with
      lifecycle
      effectStage := problem.effectStage
      finishedAt := some f
      error := some problem } = failedResult O id a f lifecycle problem := by
    rw [← hr, failedResult]
    split <;> rfl
  simp only [CommandResult.fail, heq]
  cases canFailAs r.lifecycle lifecycle <;>
    simp [checked_eq_ok, validate_eq_ok]

/-- `failFrom` fails exactly when the lifecycle does not fit the effect. -/
theorem failFrom_eq_ok (id : CommandId) (haf : a.unixNanos ≤ f.unixNanos) {lifecycle : CommandLifecycle}
    (hl : canFailAs .running lifecycle = true) {problem : Problem}
    (hp : problem.validate = .ok ()) (hc : codeMatches lifecycle problem.code = true) :
    failFrom (CommandResult.accepted id a) a f lifecycle problem.effectStage problem = .ok r ↔
      effectMatches lifecycle problem.effectStage = true ∧
        r = failedResult O id a f lifecycle problem := by
  have hv : (failedResult O id a f lifecycle problem).Valid ↔
      effectMatches lifecycle problem.effectStage = true :=
    ⟨fun h => h.effect, failedResult_valid id haf hl hp hc⟩
  simp only [failFrom, internally_eq_ok]
  cases hs : failureStarts lifecycle problem.effectStage with
  | true =>
    have he := hs
    simp only [failureStarts] at he
    simp only [he, if_true, bind_eq_ok, start_eq_ok, le_refl, true_and, exists_eq_left,
      fail_eq_ok (if_pos hs), hv]
    exact and_iff_right hl
  | false =>
    have he := hs
    simp only [failureStarts, Bool.or_eq_false_iff, decide_eq_false_iff_not] at he
    -- without a visible effect only the two lifecycles before an effect fit, and only they are legal
    have hle : canFailAs .accepted lifecycle =
        effectMatches lifecycle problem.effectStage := by
      cases lifecycle <;> simp_all [canFailAs, effectMatches]
    simp only [he, Bool.false_or, decide_false, Bool.false_eq_true, if_false,
      fail_eq_ok (if_neg (Bool.eq_false_iff.mp hs)), hv]
    rw [show (CommandResult.accepted id a : CommandResult O).lifecycle = .accepted from rfl, hle]
    exact and_self_left

/-- A trace is accepted when it is valid and ends as the result did. -/
theorem attachTrace_eq_ok {r' : CommandResult O} (hr : r.Valid) (hte : r.lifecycle.isTerminal = true)
    (hn : r.trace = none) {trace : Option CommandTrace} : attachTrace r trace = .ok r' ↔
      (∀ t ∈ trace, t.EndsWith (expectedStatus r.lifecycle)) ∧ r' = { r with trace } := by
  cases trace with
  | none =>
    have hs : { r with trace := none } = r := by rw [← hn]
    simp [attachTrace, hs, eq_comm]
  | some t =>
    simp only [attachTrace, internally_eq_ok, CommandResult.withTrace, hte, andThen_eq_ok,
      ensure_eq_ok, wrapped_eq_ok, checked_eq_ok, validate_eq_ok, true_and,
      Option.mem_some_iff, forall_eq', CommandTrace.EndsWith]
    constructor
    · rintro ⟨ht, hv, heq⟩
      exact ⟨⟨ht, (hv.trace t rfl).2.2⟩, heq⟩
    · rintro ⟨⟨ht, hst⟩, heq⟩
      refine ⟨ht, { hr with trace := ?_ }, heq⟩
      intro u hu
      rw [← Option.some.inj hu]
      exact ⟨hte, ht, hst⟩

end Transitions

/-! ## Terminal records -/

theorem lifecycleForFailure_fits {fl} : canFailAs .running (lifecycleForFailure fl) = true ∧
      codeMatches (lifecycleForFailure fl) fl.code = true := by
  unfold lifecycleForFailure
  cases fl.code <;> exact ⟨rfl, rfl⟩

/-- Stopped after an effect for a reason whose retry advice creates new work. -/
def CommandTerminal.AdvisesNewWork {R : Type} (terminal : CommandTerminal R) : Prop :=
  (terminal.cause = .generationChanged ∨ terminal.cause = .shutdown) ∧ terminal.effect = .afterEffect

instance {R : Type} (terminal : CommandTerminal R) : Decidable terminal.AdvisesNewWork :=
  inferInstanceAs (Decidable (_ ∧ _))

/-- A stopped command that is reported as never started. -/
def CommandTerminal.NeverStarted {R : Type} (terminal : CommandTerminal R) : Prop :=
  (terminal.cause = .cancelled ∨ terminal.cause = .deadlineExceeded) ∧ terminal.effect = .beforeEffect

section TerminalFailure

variable (tr : CommandTerminal (RuntimeResult O))

/-- The lifecycle of the failure fits its code and its effect. -/
theorem terminalFailure_fits : canFailAs .running (terminalFailure tr).1 = true ∧
      codeMatches (terminalFailure tr).1 (terminalFailure tr).2.code = true ∧
      effectMatches (terminalFailure tr).1 (terminalFailure tr).2.effectStage = true := by
  obtain ⟨c, e, o⟩ := tr
  cases c <;> cases e <;> exact ⟨rfl, rfl, rfl⟩

theorem terminalFailure_visible :
    (terminalFailure tr).2.effectStage.hasVisibleEffect = true ↔ tr.effect = .afterEffect := by
  obtain ⟨c, e, o⟩ := tr
  cases c <;> cases e <;> simp only [terminalFailure] <;>
    simp [EffectStage.hasVisibleEffect]

theorem terminalFailure_starts :
    failureStarts (terminalFailure tr).1 (terminalFailure tr).2.effectStage = true ↔ ¬ tr.NeverStarted := by
  obtain ⟨c, e, o⟩ := tr
  cases c <;> cases e <;> simp only [terminalFailure, CommandTerminal.NeverStarted] <;>
    simp [failureStarts, EffectStage.hasVisibleEffect]

theorem terminalFailure_retry :
    (terminalFailure tr).2.retry.isSafeAfter (terminalFailure tr).2.effectStage = true ↔
      ¬ tr.AdvisesNewWork := by
  obtain ⟨c, e, o⟩ := tr
  cases c <;> cases e <;> simp only [terminalFailure, CommandTerminal.AdvisesNewWork] <;>
    simp [RetryAdvice.isSafeAfter, EffectStage.hasVisibleEffect]

/-- What makes a problem of it unacceptable is its retry advice alone. -/
theorem terminalFailure_acceptable : (terminalFailure tr).2.Acceptable ↔ ¬ tr.AdvisesNewWork := by
  rw [← terminalFailure_retry]
  refine ⟨fun h => h.2.2.2.2, fun h => ⟨?_, ?_, ?_, ?_, h⟩⟩
  all_goals
    obtain ⟨c, e, o⟩ := tr
    cases c <;> simp only [terminalFailure] <;> decide +kernel

end TerminalFailure

section Terminal

variable [OutcomeValidation O] {id : CommandId} {a f : Timestamp} {g : DesktopGeneration}

/-- The public results of terminal records. -/
inductive PresentsTerminal (id : CommandId) (a f : Timestamp) (generation : DesktopGeneration) :
    CommandTerminal (RuntimeResult O) → CommandResult O → Prop
  | success {effect} {result : RuntimeSuccess O} : (RuntimeResult.success result).Valid →
      PresentsTerminal id a f generation ⟨.returned, effect, some (.success result)⟩
        { succeededResult id a a f result with trace := result.trace }
  | failure {effect result} : (RuntimeResult.failure result : RuntimeResult O).Valid →
      PresentsTerminal id a f generation ⟨.returned, effect, some (.failure result)⟩
        { failedResult O id a f (lifecycleForFailure result) (result.problem generation) with
          trace := result.trace }
  | stopped {terminal} : terminal.cause ≠ .returned → ¬ terminal.AdvisesNewWork →
      (∀ trace ∈ terminal.output.bind RuntimeResult.trace, trace.EndsWith .failed) →
      PresentsTerminal id a f generation terminal
        { failedResult O id a f (terminalFailure terminal).1
            ((terminalFailure terminal).2.problem generation) with
          trace := terminal.output.bind RuntimeResult.trace }

variable {r : CommandResult O}

/-- A failure with its trace, by the parts `map_terminal` takes it from. -/
theorem failure_eq_ok (id : CommandId) (g : DesktopGeneration) (haf : a.unixNanos ≤ f.unixNanos) {failure : RuntimeFailure}
    {lifecycle : CommandLifecycle} (hl : canFailAs .running lifecycle = true)
    (hc : codeMatches lifecycle failure.code = true) (trace : Option CommandTrace) : (do
      let problem ← runtimeProblem failure g
      let result ← failFrom (CommandResult.accepted id a) a f lifecycle failure.effectStage problem
      attachTrace result trace) = .ok r ↔
      failure.Acceptable ∧ effectMatches lifecycle failure.effectStage = true ∧
        (∀ t ∈ trace, t.EndsWith .failed) ∧
        r = { failedResult O id a f lifecycle (failure.problem g) with trace } := by
  have hs : expectedStatus lifecycle = .failed ∧ lifecycle.isTerminal = true := by
    cases lifecycle <;> simp_all [canFailAs, expectedStatus,
      CommandLifecycle.isTerminal]
  by_cases ha : failure.Acceptable
  · have hp := RuntimeFailure.problem_validate ha g
    have hf (result : CommandResult O) := failFrom_eq_ok (r := result) id haf hl hp hc
    have hv := failedResult_valid (O := O) id haf hl hp hc
    simp only [bind_eq_ok, runtimeProblem_eq_ok, ha, true_and, exists_eq_left]
    constructor
    · intro ⟨result, hre, htr⟩
      obtain ⟨he, rfl⟩ := (hf result).mp hre
      obtain ⟨ht, rfl⟩ := (attachTrace_eq_ok (hv he) hs.2 rfl).mp htr
      exact ⟨he, hs.1 ▸ ht, rfl⟩
    · intro ⟨he, ht, hr⟩
      refine ⟨_, (hf _).mpr ⟨he, rfl⟩, ?_⟩
      refine (attachTrace_eq_ok (hv he) hs.2 rfl).mpr ⟨?_, hr⟩
      rw [show (failedResult O id a f lifecycle (failure.problem g)).lifecycle = lifecycle from rfl, hs.1]
      exact ht
  · simp [bind_eq_ok, runtimeProblem_eq_ok, ha]

theorem mapTerminal_eq_ok (haf : a.unixNanos ≤ f.unixNanos) {tr : CommandTerminal (RuntimeResult O)} :
    mapTerminal (CommandResult.accepted id a) a f tr g = .ok r ↔ PresentsTerminal id a f g tr r := by
  obtain ⟨cause, effect, output⟩ := tr
  by_cases hc : cause = .returned
  · subst hc
    simp only [mapTerminal, if_true]
    match output with
    | none =>
      constructor
      · intro h
        cases h
      · intro h
        cases h with
        | stopped h _ _ => exact absurd rfl h
    | some (.success result) =>
      simp only [bind_eq_ok, internally_eq_ok, start_eq_ok, le_refl, true_and, exists_eq_left,
        succeed_eq_ok (le_refl a.unixNanos) haf]
      constructor
      · intro ⟨_, ⟨ho, heq⟩, htr⟩
        subst heq
        obtain ⟨ht, rfl⟩ :=
          (attachTrace_eq_ok (succeededResult_valid (le_refl a.unixNanos) haf ho) rfl rfl).mp htr
        exact .success ⟨ho, ht⟩
      · intro h
        cases h with
        | success h =>
          exact ⟨_, ⟨h.1, rfl⟩, (attachTrace_eq_ok
            (succeededResult_valid (le_refl a.unixNanos) haf h.1) rfl rfl).mpr ⟨h.2, rfl⟩⟩
        | stopped h _ _ => exact absurd rfl h
    | some (.failure result) =>
      obtain ⟨hl, hco⟩ := lifecycleForFailure_fits
      have hf := failure_eq_ok (r := r) id g haf hl hco result.trace
      simp only at hf ⊢
      refine hf.trans ⟨fun ⟨hac, he, ht, hr⟩ => ?_, fun h => ?_⟩
      · subst hr
        exact .failure ⟨hac, he, ht⟩
      · cases h with
        | failure h => exact ⟨h.1, h.2.1, h.2.2, rfl⟩
        | stopped h _ _ => exact absurd rfl h
  · simp only [mapTerminal, hc, if_false]
    obtain ⟨hl, hco, he⟩ := terminalFailure_fits ⟨cause, effect, output⟩
    refine (failure_eq_ok id g haf hl hco _).trans ?_
    rw [terminalFailure_acceptable]
    refine ⟨fun ⟨ha, _, ht, hr⟩ => ?_, fun h => ?_⟩
    · subst hr
      exact .stopped hc ha ht
    · cases h with
      | success | failure => exact absurd rfl hc
      | stopped _ ha ht => exact ⟨ha, he, ht, rfl⟩

theorem PresentsTerminal.valid (haf : a.unixNanos ≤ f.unixNanos) {tr : CommandTerminal (RuntimeResult O)}
    (h : PresentsTerminal id a f g tr r) : r.Valid := by
  -- a result with a trace is one without it, by the trace's own check
  have hta : ∀ {r₀ : CommandResult O} {trace : Option CommandTrace}, r₀.Valid →
      r₀.lifecycle.isTerminal = true →
      (∀ t ∈ trace, t.EndsWith (expectedStatus r₀.lifecycle)) →
      ({ r₀ with trace } : CommandResult O).Valid := by
    intro r₀ trace hr hte htr
    exact { hr with trace := fun t ht => ⟨hte, htr t ht⟩ }
  have hf : ∀ {failure : RuntimeFailure} {lifecycle trace},
      canFailAs .running lifecycle = true → failure.Acceptable →
      codeMatches lifecycle failure.code = true →
      effectMatches lifecycle failure.effectStage = true →
      (∀ t ∈ trace, CommandTrace.EndsWith t .failed) →
      ({ failedResult O id a f lifecycle (failure.problem g) with trace } :
        CommandResult O).Valid := by
    intro failure lifecycle trace hl ha hc he htr
    refine hta (failedResult_valid id haf hl (RuntimeFailure.problem_validate ha g)
      hc he) ?_ ?_
    · simp only [failedResult]
      cases lifecycle <;> simp_all [canFailAs, CommandLifecycle.isTerminal]
    · simp only [failedResult]
      cases lifecycle <;> simp_all [canFailAs, expectedStatus]
  cases h with
  | success h => exact hta (succeededResult_valid (le_refl a.unixNanos) haf h.1) rfl h.2
  | @failure _ result h =>
    obtain ⟨hl, hc⟩ := lifecycleForFailure_fits
    exact hf hl h.1 hc h.2.1 h.2.2
  | stopped _ had htr =>
    obtain ⟨hl, hc, he⟩ := terminalFailure_fits tr
    exact hf hl ((terminalFailure_acceptable tr).mpr had) hc he htr

end Terminal

/-! ## Records -/

section Records

variable [OutcomeValidation O] {cl : ClockProjection}
  {rc : CommandRecord (CommandTerminal (RuntimeResult O))} {r : CommandResult O}

/-- The public result of a record whose times are `a` and `u`. -/
def Presents (a u : Timestamp) (record : CommandRecord (CommandTerminal (RuntimeResult O)))
    (r : CommandResult O) : Prop :=
  match record.state with
  | .accepted => r = .accepted record.commandId a
  | .running => r = runningResult O record.commandId a u
  | .terminal terminal => PresentsTerminal record.commandId a u record.generation.generation terminal r

theorem Presents.valid {a u} (hau : a.unixNanos ≤ u.unixNanos) (h : Presents a u rc r) : r.Valid := by
  unfold Presents at h
  split at h
  · rw [h]; exact accepted_valid _ _
  · rw [h]; exact runningResult_valid hau
  · exact h.valid hau

theorem mapRecord_eq_ok (hle : rc.acceptedAt ≤ rc.updatedAt) : mapRecord cl rc = .ok r ↔
      ∃ a u, cl.timestamp rc.acceptedAt = .ok a ∧ cl.timestamp rc.updatedAt = .ok u ∧
        Presents a u rc r := by
  simp only [mapRecord, bind_eq_ok]
  refine exists_congr fun a => ?_
  rw [exists_and_left.symm]
  refine exists_congr fun u => and_congr_right fun ha => and_congr_right fun hu => ?_
  have hau : a.unixNanos ≤ u.unixNanos := by
    rw [ClockProjection.timestamp_nanos ha, ClockProjection.timestamp_nanos hu]
    exact (ClockProjection.instant_le cl).mpr hle
  -- the last `validate` passes whatever the state
  have hl : ∀ {st : Except ControlPlaneError (CommandResult O)},
      (∀ {r}, st = .ok r ↔ Presents a u rc r) →
      ((do let result ← st; internally result.validate; pure result) = .ok r ↔ Presents a u rc r) := by
    intro st hst
    simp only [bind_eq_ok, hst, internally_eq_ok]
    constructor
    · intro ⟨result, hre, _, _, heq⟩
      cases heq
      exact hre
    · intro hr
      exact ⟨r, hr, (), validate_eq_ok.mpr (hr.valid hau), rfl⟩
  split
  next hs => exact hl (by simp [Presents, hs, eq_comm])
  next hs => exact hl (by simp [Presents, hs, internally_eq_ok, start_eq_ok, hau])
  next tr hs => exact hl (by simp [Presents, hs, mapTerminal_eq_ok hau])

end Records

end Xenoteer
