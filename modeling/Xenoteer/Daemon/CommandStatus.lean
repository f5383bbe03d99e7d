/-
What a status query of a command returns over the command's life. A record
that the coordinator can hold maps to a public result unless its command was
stopped after an effect by a generation change or a shutdown (the failure
table then advises a retry that `Problem::new` refuses), or it retains the
trace of a success beside a stop. And the start time a terminal result
reports is the time of admission, not the one the running result reported.
-/
import Xenoteer.Coordinator.RuntimeHistory
import Xenoteer.Coordinator.StoredRecords
import Xenoteer.Daemon.CommandResultFacts

namespace Xenoteer

open Lib.Run

variable {C E O : Type} [OutcomeValidation O]

/-! ## What a terminal record presents -/

section Terminal

variable {id : CommandId} {a f : Timestamp} {g : DesktopGeneration}
  {terminal : CommandTerminal (RuntimeResult O)} {r : CommandResult O}

/-- The terminal records that have a public result. -/
structure CommandTerminal.Presentable (terminal : CommandTerminal (RuntimeResult O)) : Prop where
  returned : terminal.cause = .returned → ∃ output, terminal.output = some output ∧ output.Valid
  advice : ¬ terminal.AdvisesNewWork
  trace : terminal.cause ≠ .returned →
    ∀ trace ∈ terminal.output.bind RuntimeResult.trace, trace.EndsWith .failed

omit [OutcomeValidation O] in
theorem not_advises_of_returned (h : terminal.cause = .returned) : ¬ terminal.AdvisesNewWork := by
  intro ⟨hc, _⟩
  rw [h] at hc
  obtain hc | hc := hc <;> cases hc

theorem exists_presents_iff : (∃ r, PresentsTerminal id a f g terminal r) ↔ terminal.Presentable := by
  constructor
  · intro ⟨r, h⟩
    cases h with
    | success h | failure h =>
      exact ⟨fun _ => ⟨_, rfl, h⟩, not_advises_of_returned rfl, fun hne => absurd rfl hne⟩
    | stopped hne ha ht => exact ⟨fun h => absurd h hne, ha, fun _ => ht⟩
  · intro h
    by_cases hc : terminal.cause = .returned
    · obtain ⟨o, ho, hv⟩ := h.returned hc
      obtain ⟨c, e, o'⟩ := terminal
      cases hc
      cases ho
      cases o with
      | success rs => exact ⟨_, .success hv⟩
      | failure rs => exact ⟨_, .failure hv⟩
    · exact ⟨_, .stopped hc h.advice (h.trace hc)⟩

/-- Whether the result of a terminal record reports a start. -/
def CommandTerminal.ReportsStart (terminal : CommandTerminal (RuntimeResult O)) : Prop :=
  if terminal.cause = .returned then
    ∀ result, terminal.output = some (.failure result) →
      failureStarts (lifecycleForFailure result) result.effectStage = true
  else ¬ terminal.NeverStarted

/-- Every terminal result reports the time of admission as its start, if any. -/
theorem PresentsTerminal.times (h : PresentsTerminal id a f g terminal r) :
    r.acceptedAt = a ∧ (terminal.ReportsStart → r.startedAt = some a) ∧
      (¬ terminal.ReportsStart → r.startedAt = none) := by
  cases h with
  | success =>
    refine ⟨rfl, fun _ => rfl, fun h => absurd ?_ h⟩
    intro rs hr
    cases hr
  | @failure e rs =>
    have hi : CommandTerminal.ReportsStart (O := O) ⟨.returned, e, some (.failure rs)⟩ ↔
        failureStarts (lifecycleForFailure rs) rs.effectStage = true := by
      simp [CommandTerminal.ReportsStart]
    refine ⟨rfl, fun h => ?_, fun h => ?_⟩
    · simp only [failedResult]
      exact if_pos (hi.mp h)
    · simp only [failedResult]
      exact if_neg fun hs => h (hi.mpr hs)
  | stopped hne =>
    have hi : terminal.ReportsStart ↔
        failureStarts (terminalFailure terminal).1 (terminalFailure terminal).2.effectStage = true := by
      rw [terminalFailure_starts, CommandTerminal.ReportsStart, if_neg hne]
    refine ⟨rfl, fun h => ?_, fun h => ?_⟩
    · simp only [failedResult]
      exact if_pos (hi.mp h)
    · simp only [failedResult]
      exact if_neg fun hs => h (hi.mpr hs)

end Terminal

/-! ## Records of the coordinator -/

inductive ProcessOperation where
  | launch
  | status
  | terminate
deriving DecidableEq

def ProcessOperation.mutatesProcesses : ProcessOperation → Bool
  | .launch | .terminate => true
  | .status => false

/-- The effect of a result, read off its stage. -/
def RuntimeResult.effect (result : RuntimeResult O) : CommandEffect :=
  if result.effectStage.hasVisibleEffect then .afterEffect else .beforeEffect

def completed (result : RuntimeResult O) : ExecutionOutcome (RuntimeResult O) := .completed result result.effect

/-- A reply of the broker to an operation that mutates processes is kept even
when a stop came first. -/
def processCompletion {ε T : Type} (mapProcessResult : Except ε T → ProcessOperation → RuntimeResult O)
    (result : Except ε T) (operation : ProcessOperation) : ExecutionOutcome (RuntimeResult O) :=
  let output := mapProcessResult result operation
  if result.isOk && operation.mutatesProcesses then .atomicCompleted output output.effect else completed output

/-- What an execution may return, of results that are valid in themselves. -/
inductive ExecutionOutcome.Valid : ExecutionOutcome (RuntimeResult O) → Prop
  | completed {result : RuntimeResult O} (h : result.Valid) : Valid (Xenoteer.completed result)
  | process {ε T : Type} {mapProcessResult} {result : Except ε T} {operation}
      (h : (mapProcessResult result operation).Valid) : Valid (processCompletion mapProcessResult result operation)
  | stopped {effect} : Valid (.stopped effect)
  | stoppedWithEvidence {output effect} (h : output.Valid) : Valid (.stoppedWithEvidence output effect)

omit [OutcomeValidation O] in
theorem RuntimeResult.effect_eq_afterEffect {result : RuntimeResult O} :
    result.effect = .afterEffect ↔ result.effectStage.hasVisibleEffect = true := by
  unfold effect
  split <;> simp [*]

/-- The terminal results the coordinator stores of such executions. -/
structure StoredTerminal (terminal : CommandTerminal (RuntimeResult O)) : Prop where
  valid : ∀ output ∈ terminal.output, output.Valid
  returned : terminal.cause = .returned → ∃ output, terminal.output = some output ∧
    (terminal.effect = .afterEffect ↔ output.effectStage.hasVisibleEffect = true)

theorem stops_stored : CoordinatorTask.Stops (StoredTerminal (O := O)) :=
  fun _ _ hne => ⟨fun _ h => (nomatch h), fun h => absurd h hne⟩

theorem terminalCause_ne_returned (st) : terminalCause st ≠ .returned := by
  cases st <;> simp [terminalCause]

theorem terminalOf_stored {ot : ExecutionOutcome (RuntimeResult O)} (h : ot.Valid)
    (st : ExecutionStop) : StoredTerminal (terminalOf st (some ot)) := by
  have hre : ∀ {o : RuntimeResult O}, o.Valid → StoredTerminal (.returned o o.effect) :=
    fun h => ⟨fun _ ho => Option.mem_some_iff.mp ho ▸ h, fun _ => ⟨_, rfl, RuntimeResult.effect_eq_afterEffect⟩⟩
  have hco : ∀ {o : RuntimeResult O}, o.Valid → StoredTerminal (terminalOf st (some (completed o))) := by
    intro o h
    simp only [completed, terminalOf]
    split
    · exact hre h
    · exact stops_stored _ _ (terminalCause_ne_returned st)
  cases h with
  | completed h => exact hco h
  | process h =>
    unfold processCompletion
    split
    · exact hre h
    · exact hco h
  | stopped => exact stops_stored _ _ (terminalCause_ne_returned st)
  | stoppedWithEvidence h =>
    exact ⟨fun _ ho => Option.mem_some_iff.mp ho ▸ h, fun hr => absurd hr (terminalCause_ne_returned st)⟩

namespace CoordinatorTask

/-- The execution that ends in this step returned a valid result. -/
def Step.Valid : Step C (RuntimeResult O) E → Prop
  | .select (.completion _ (.executed outcome)) => outcome.Valid
  | _ => True

theorem Step.Valid.executes {a : Step C (RuntimeResult O) E} (h : a.Valid) : a.Executes StoredTerminal := by
  unfold Step.Executes
  split
  · exact terminalOf_stored h
  · trivial

/-- A record the actor keeps after these steps, or sent in one of them. -/
def Reaches {R : Type} (s : CoordinatorTask C R E) (steps : List (Step C R E))
    (record : CommandRecord (CommandTerminal R)) : Prop :=
  (∃ (key : CommandKey) (stored : _), (final step s steps).ledger.records[key]? = some stored ∧
      stored.record = record) ∨
    (∃ (key : ActiveKey) (active : _), (final step s steps).active[key]? = some active ∧
      (active.record = record ∨ active.updates = record)) ∨
    ∃ entry ∈ answers step s steps, ∃ x ∈ entry.2, record ∈ x.records

theorem Reaches.stored {sn : CoordinatorSettings} {eventMapper clock}
    {s : CoordinatorTask C (RuntimeResult O) E} (hsp : spawn sn eventMapper clock = .ok s)
    {st : List (Step C (RuntimeResult O) E)} (hv : ∀ a ∈ st, a.Valid)
    {record : CommandRecord (CommandTerminal (RuntimeResult O))} (h : s.Reaches st record) :
    record.Holds StoredTerminal := by
  obtain ⟨hs, hse⟩ := records_final stops_stored hsp fun a ha => (hv a ha).executes
  obtain ⟨key, sr, hk, rfl⟩ | ⟨key, ac, hk, rfl | rfl⟩ | ⟨e, he, x, hx, hr⟩ := h
  · exact hs.ledger key sr hk
  · exact (hs.active hk).1
  · exact (hs.active hk).2
  · exact hse e he x hx record hr

end CoordinatorTask

/-! ## Every record has a public result, with two exceptions -/

section Public

variable {record : CommandRecord (CommandTerminal (RuntimeResult O))}

def CommandRecord.CompletedAfterEffect {R : Type} (record : CommandRecord (CommandTerminal R)) : Prop :=
  ∃ terminal, record.state = .terminal terminal ∧ terminal.effect = .afterEffect

/-- `map_record` returns a result, which reports a visible effect exactly when
the record was completed after one. -/
def HasPublicResult (clock : ClockProjection) (record : CommandRecord (CommandTerminal (RuntimeResult O))) :
    Prop :=
  ∃ r, mapRecord clock record = .ok r ∧ (r.effectStage.hasVisibleEffect = true ↔ record.CompletedAfterEffect)

/-- Not stopped after an effect by a generation change or a shutdown, and no
trace of a success retained beside a stop. -/
def CommandTerminal.Mappable (terminal : CommandTerminal (RuntimeResult O)) : Prop :=
  ¬ terminal.AdvisesNewWork ∧
    (terminal.cause ≠ .returned → ∀ result, terminal.output = some (.success result) → result.trace = none)

theorem StoredTerminal.presentable_iff {terminal : CommandTerminal (RuntimeResult O)}
    (h : StoredTerminal terminal) : terminal.Presentable ↔ terminal.Mappable := by
  constructor
  · intro hp
    refine ⟨hp.advice, fun hne rs ho => ?_⟩
    by_contra ht
    obtain ⟨t, ht⟩ := Option.ne_none_iff_exists'.mp ht
    have hc := (h.valid _ ho).2 t ht
    have hf := hp.trace hne t (by rw [ho]; exact ht)
    cases hc.2.symm.trans hf.2
  · intro ⟨ha, hs⟩
    refine ⟨fun hca => ?_, ha, fun hne t ht => ?_⟩
    · obtain ⟨o, ho, _⟩ := h.returned hca
      exact ⟨o, ho, h.valid o ho⟩
    · obtain ⟨o, ho, ht⟩ := Option.bind_eq_some_iff.mp ht
      cases o with
      | success rs =>
        have hn := hs hne rs ho
        rw [RuntimeResult.trace, hn] at ht
        cases ht
      | failure rs => exact (h.valid _ ho).2.2 t ht

theorem PresentsTerminal.visible {id : CommandId} {a f : Timestamp} {g : DesktopGeneration}
    {terminal : CommandTerminal (RuntimeResult O)} {r : CommandResult O} (h : StoredTerminal terminal)
    (hp : PresentsTerminal id a f g terminal r) :
    r.effectStage.hasVisibleEffect = true ↔ terminal.effect = .afterEffect := by
  cases hp with
  | success | failure =>
    obtain ⟨o, ho, he⟩ := h.returned rfl
    cases ho
    exact he.symm
  | stopped => exact terminalFailure_visible terminal

/-- A record of the coordinator has its public result exactly when it is mappable. -/
theorem hasPublicResult_iff (hs : record.Holds StoredTerminal) {clock : ClockProjection}
    {a u : Timestamp} (ha : clock.timestamp record.acceptedAt = .ok a)
    (hu : clock.timestamp record.updatedAt = .ok u) (hle : record.acceptedAt ≤ record.updatedAt) :
    HasPublicResult clock record ↔ record.Holds CommandTerminal.Mappable := by
  have hok : ∀ r, mapRecord clock record = .ok r ↔ Presents a u record r := by
    intro r
    rw [mapRecord_eq_ok hle]
    constructor
    · rintro ⟨a', u', ha', hu', hr⟩
      cases ha.symm.trans ha'
      cases hu.symm.trans hu'
      exact hr
    · intro hr
      exact ⟨a, u, ha, hu, hr⟩
  simp only [HasPublicResult, hok, Presents, CommandRecord.CompletedAfterEffect, CommandRecord.Holds]
  cases hst : record.state with
  | accepted => simp [CommandResult.accepted, EffectStage.hasVisibleEffect]
  | running => simp [runningResult, CommandResult.accepted, EffectStage.hasVisibleEffect]
  | terminal terminal =>
    have ht := hs terminal hst
    simp only [CommandRecordState.terminal.injEq, exists_eq_left', forall_eq']
    rw [← ht.presentable_iff, ← exists_presents_iff]
    exact exists_congr fun r => and_iff_left_of_imp fun hr => hr.visible ht

/-- Every record the coordinator keeps or hands out in any run maps to a public
result whose effect stage tells whether it was completed after an effect,
exactly when it is mappable. -/
theorem reachable_record_public_iff {settings : CoordinatorSettings} {eventMapper}
    {monotonic : Clock} {s : CoordinatorTask C (RuntimeResult O) E}
    (hspawn : CoordinatorTask.spawn settings eventMapper monotonic = .ok s)
    {steps : List (CoordinatorTask.Step C (RuntimeResult O) E)} (hvalid : ∀ a ∈ steps, a.Valid)
    (hreach : s.Reaches steps record) {clock : ClockProjection} {a u : Timestamp}
    (ha : clock.timestamp record.acceptedAt = .ok a) (hu : clock.timestamp record.updatedAt = .ok u)
    (hle : record.acceptedAt ≤ record.updatedAt) :
    HasPublicResult clock record ↔ record.Holds CommandTerminal.Mappable :=
  hasPublicResult_iff (hreach.stored hspawn hvalid) ha hu hle

end Public

/-- The outcome `Acknowledged` carries nothing to validate. -/
instance : OutcomeValidation Unit := ⟨fun _ => .ok ()⟩

/-- The small actor, with the daemon's results. -/
def CoordinatorTask.smallDaemon : CoordinatorTask Unit (RuntimeResult Unit) Unit :=
  initial .small (fun _ _ => []) .ticking

/-- The steps that start the sample command. -/
def CoordinatorTask.startSample : List (CoordinatorTask.Step Unit (RuntimeResult Unit) Unit) :=
  [.select (.message (.submit .sample)), .advance, .drive, .drive]

/-- The record of the sample command in a state, admitted at 1 ms. -/
def sampleRecord (state : CommandRecordState (CommandTerminal (RuntimeResult Unit))) (updatedAt : Nat) :
    CommandRecord (CommandTerminal (RuntimeResult Unit)) :=
  ⟨.operator, ⟨1⟩, .first, .zero, state, 1, updatedAt⟩

def acknowledged : RuntimeResult Unit := .success ⟨(), .none, none⟩

/-- The record of an acknowledged command. -/
theorem acknowledged_record_public :
    let steps := CoordinatorTask.startSample ++ [.select (.completion (.execution CommandAdmission.sample.key)
      (.executed (.completed acknowledged .beforeEffect)))]
    let record := sampleRecord (.terminal (.returned acknowledged .beforeEffect)) 4
    (CoordinatorTask.smallDaemon).Reaches steps record ∧ HasPublicResult ⟨0⟩ record := by
  intro steps record
  have hr : (CoordinatorTask.smallDaemon).Reaches steps record :=
    .inl ⟨⟨.operator, ⟨1⟩⟩, ⟨record, some 4, 3⟩, by decide +kernel, rfl⟩
  have hv : ∀ a ∈ steps, a.Valid := by
    intro a ha
    simp only [steps, CoordinatorTask.startSample, List.cons_append, List.nil_append, List.mem_cons,
      List.not_mem_nil, or_false] at ha
    obtain rfl | rfl | rfl | rfl | rfl := ha
    · trivial
    · trivial
    · trivial
    · trivial
    · show ExecutionOutcome.Valid (completed acknowledged)
      exact .completed ⟨rfl, fun _ h => (nomatch h)⟩
  have ha : ClockProjection.timestamp ⟨0⟩ record.acceptedAt = .ok ⟨1000000, by decide, by decide⟩ := by
    decide +kernel
  have hu : ClockProjection.timestamp ⟨0⟩ record.updatedAt = .ok ⟨4000000, by decide, by decide⟩ := by
    decide +kernel
  refine ⟨hr, (reachable_record_public_iff (CoordinatorTask.spawn_eq _ _ _) hv hr ha hu
    (by decide)).mpr ?_⟩
  intro terminal ht
  cases ht
  exact ⟨by decide, fun h => absurd rfl h⟩

/-- A command that was stopped by the shutdown of the daemon after it had an
effect: its record is kept, and every query of it fails. -/
theorem shutdown_after_effect_not_public :
    let steps := CoordinatorTask.startSample ++ [.select (.message .shutdown), .advance, .drive,
      .select (.completion (.execution CommandAdmission.sample.key) (.executed (.stopped .afterEffect)))]
    let record := sampleRecord (.terminal (.stopped .shutdown .afterEffect)) 6
    (∀ a ∈ steps, a.Valid) ∧ (CoordinatorTask.smallDaemon).Reaches steps record ∧
      (∃ a, ClockProjection.timestamp ⟨0⟩ record.acceptedAt = .ok a) ∧
      (∃ u, ClockProjection.timestamp ⟨0⟩ record.updatedAt = .ok u) ∧
      record.acceptedAt ≤ record.updatedAt ∧ mapRecord ⟨0⟩ record = .error .internal := by
  intro steps record
  refine ⟨?_, .inl ⟨⟨.operator, ⟨1⟩⟩, ⟨record, some 6, 3⟩, by decide +kernel, rfl⟩,
    ⟨⟨1000000, by decide, by decide⟩, by decide +kernel⟩, ⟨⟨6000000, by decide, by decide⟩, by decide +kernel⟩,
    by decide, by decide +kernel⟩
  intro a ha
  simp only [steps, CoordinatorTask.startSample, List.cons_append, List.nil_append, List.mem_cons,
    List.not_mem_nil, or_false] at ha
  obtain rfl | rfl | rfl | rfl | rfl | rfl | rfl | rfl := ha
  all_goals first | trivial | exact .stopped

/-! ## Start times -/

section Times

variable {clock : ClockProjection} {a s f : Nat} {started : Option Nat}
  {record : CommandRecord (CommandTerminal (RuntimeResult O))} {terminal : CommandTerminal (RuntimeResult O)}
  {r : CommandResult O}

/-- A record in the given state, at the given times. -/
def CommandRecord.at (record : CommandRecord (CommandTerminal (RuntimeResult O)))
    (state : CommandRecordState (CommandTerminal (RuntimeResult O))) (acceptedAt updatedAt : Nat) :
    CommandRecord (CommandTerminal (RuntimeResult O)) :=
  { record with state, acceptedAt, updatedAt }

/-- The states a ledger record goes through: accepted, running if it ran, terminal. -/
def recordHistory (record : CommandRecord (CommandTerminal (RuntimeResult O))) (a : Nat)
    (started : Option Nat) (f : Nat) (terminal : CommandTerminal (RuntimeResult O)) :
    List (CommandRecord (CommandTerminal (RuntimeResult O))) :=
  record.at .accepted a a ::
    ((started.map fun s => record.at .running a s).toList ++ [record.at (.terminal terminal) a f])

/-- The second result reports the admission time of the first, and its start
time if it has one. -/
def SameTimes (r r' : CommandResult O) : Prop :=
  r'.acceptedAt = r.acceptedAt ∧ ∀ start, r.startedAt = some start → r'.startedAt = some start

/-- No result contradicts an earlier one of the same record. -/
def TimesAgree (clock : ClockProjection)
    (history : List (CommandRecord (CommandTerminal (RuntimeResult O)))) : Prop :=
  history.Pairwise fun earlier later => ∀ r r', mapRecord clock earlier = .ok r →
    mapRecord clock later = .ok r' → SameTimes r r'

/-- The start of a command that ran is kept: it has no terminal result, or it
started in the millisecond of its admission and its terminal result is not
that of a command that never started. -/
def StartKept (clock : ClockProjection) (a : Nat) (started : Option Nat) (f : Nat)
    (terminal : CommandTerminal (RuntimeResult O)) : Prop :=
  ∀ s, started = some s → terminal.Presentable → (∃ t, clock.timestamp a = .ok t) →
    (∃ t, clock.timestamp f = .ok t) → s = a ∧ terminal.ReportsStart

theorem mapRecord_ok {record}
    (hle : record.acceptedAt ≤ record.updatedAt) (h : mapRecord clock record = .ok r) :
    ∃ t u, clock.timestamp record.acceptedAt = .ok t ∧ clock.timestamp record.updatedAt = .ok u ∧
      Presents t u record r :=
  (mapRecord_eq_ok hle).mp h

theorem running_times (has : a ≤ s) (h : mapRecord clock (record.at .running a s) = .ok r) :
    clock.timestamp a = .ok r.acceptedAt ∧ ∃ u, clock.timestamp s = .ok u ∧ r.startedAt = some u := by
  obtain ⟨t, u, ht, hu, hr⟩ := mapRecord_ok has h
  cases hr
  exact ⟨ht, u, hu, rfl⟩

theorem terminal_times (haf : a ≤ f) (h : mapRecord clock (record.at (.terminal terminal) a f) = .ok r) :
    clock.timestamp a = .ok r.acceptedAt ∧ terminal.Presentable ∧
      (∃ u, clock.timestamp f = .ok u) ∧ (terminal.ReportsStart → r.startedAt = some r.acceptedAt) ∧
      (¬ terminal.ReportsStart → r.startedAt = none) := by
  obtain ⟨t, u, ht, hu, hr⟩ := mapRecord_ok haf h
  obtain ⟨ha, hs, hn⟩ := PresentsTerminal.times hr
  rw [ha]
  exact ⟨ht, exists_presents_iff.mp ⟨r, hr⟩, ⟨u, hu⟩, hs, hn⟩

/-- The terminal result of a command that ran. -/
theorem running_terminal_agree (record : CommandRecord (CommandTerminal (RuntimeResult O)))
    (has : a ≤ s) (hsf : s ≤ f) : (∀ r r', mapRecord clock (record.at .running a s) = .ok r →
      mapRecord clock (record.at (.terminal terminal) a f) = .ok r' → SameTimes r r') ↔
      StartKept clock a (some s) f terminal := by
  constructor
  · intro h s' hs' hp ⟨t, ht⟩ ⟨w, hw⟩
    cases hs'
    obtain ⟨u, hu⟩ := ClockProjection.timestamp_between ht hw has hsf
    have hte : ∃ r', Presents t w (record.at (.terminal terminal) a f) r' := exists_presents_iff.mpr hp
    obtain ⟨r', hr'⟩ := hte
    have hru : mapRecord clock (record.at .running a s) = .ok (runningResult O record.commandId t u) := by
      rw [mapRecord_eq_ok has]
      exact ⟨t, u, ht, hu, rfl⟩
    have he : mapRecord clock (record.at (.terminal terminal) a f) = .ok r' := by
      rw [mapRecord_eq_ok (has.trans hsf)]
      exact ⟨t, w, ht, hw, hr'⟩
    have hk := (h _ _ hru he).2 u rfl
    obtain ⟨hat, -, -, hst, hn⟩ := terminal_times (has.trans hsf) he
    by_cases hre : terminal.ReportsStart
    · rw [hst hre] at hk
      have hsa : r'.acceptedAt = u := Option.some.inj hk
      exact ⟨((ClockProjection.timestamp_injective hat hu).mp hsa).symm, hre⟩
    · rw [hn hre] at hk
      cases hk
  · intro h r r' hr hr'
    obtain ⟨hat, u, hu, hst⟩ := running_times has hr
    obtain ⟨hat', hp, hf, hrp, -⟩ := terminal_times (has.trans hsf) hr'
    have hsa : r'.acceptedAt = r.acceptedAt := Except.ok.inj (hat'.symm.trans hat)
    obtain ⟨heq, hre⟩ := h s rfl hp ⟨_, hat⟩ hf
    refine ⟨hsa, fun st hs => ?_⟩
    rw [hrp hre, hsa, ← hs, hst]
    rw [heq, hat] at hu
    exact congrArg some (Except.ok.inj hu)

/-- Nothing contradicts the result of an accepted command, which has no start. -/
theorem accepted_agree {record'}
    (h : ∀ r', mapRecord clock record' = .ok r' → clock.timestamp a = .ok r'.acceptedAt) (r r' : CommandResult O)
    (hr : mapRecord clock (record.at .accepted a a) = .ok r) (hr' : mapRecord clock record' = .ok r') :
    SameTimes r r' := by
  obtain ⟨t, u, hat, _, hn⟩ := mapRecord_ok le_rfl hr
  cases hn
  refine ⟨Except.ok.inj ((h r' hr').symm.trans hat), fun st hs => ?_⟩
  cases hs

theorem timesAgree_of_ran (has : a ≤ s) (hsf : s ≤ f) :
    TimesAgree clock (recordHistory record a (some s) f terminal) ↔ StartKept clock a (some s) f terminal := by
  rw [← running_terminal_agree record has hsf]
  simp only [TimesAgree, recordHistory, Option.map_some, Option.toList_some, List.cons_append,
    List.nil_append, List.pairwise_cons, List.mem_cons, List.not_mem_nil, or_false, forall_eq_or_imp,
    forall_eq, false_implies, implies_true, List.Pairwise.nil, and_true]
  refine and_iff_right ⟨?_, ?_⟩
  · exact accepted_agree fun r' hr' => (running_times has hr').1
  · exact accepted_agree fun r' hr' => (terminal_times (has.trans hsf) hr').1

/-- The results of one record never contradict each other exactly when the
start of a command that ran is kept. -/
theorem start_time_stable_iff (has : ∀ s, started = some s → a ≤ s ∧ s ≤ f) (haf : a ≤ f) :
    TimesAgree clock (recordHistory record a started f terminal) ↔ StartKept clock a started f terminal := by
  cases started with
  | none =>
    refine iff_of_true ?_ fun _ h => nomatch h
    simp only [TimesAgree, recordHistory, Option.map_none, Option.toList_none, List.nil_append,
      List.pairwise_cons, List.mem_singleton, forall_eq, List.not_mem_nil, false_implies, implies_true,
      List.Pairwise.nil, and_true]
    exact accepted_agree fun r' hr' => (terminal_times haf hr').1
  | some s =>
    obtain ⟨has, hsf⟩ := has s rfl
    exact timesAgree_of_ran has hsf

end Times

/-- A command admitted at 1 ms that starts at once keeps its start. -/
theorem immediate_start_kept : TimesAgree ⟨0⟩ (recordHistory (sampleRecord .accepted 1) 1 (some 1) 4
      (.returned acknowledged .beforeEffect)) := by
  refine (start_time_stable_iff (by simp) (by decide)).mpr ?_
  intro s hs _ _ _
  cases hs
  exact ⟨rfl, fun _ h => nomatch h⟩

/-- A command admitted at 1 ms and started at 3 ms: while it runs the start is
3 ms; once it succeeded the start is 1 ms, and when it was cancelled before an
effect there is none. -/
theorem start_time_changes :
    let history := recordHistory (sampleRecord .accepted 1) 1 (some 3) 4
    let sa := fun record => (mapRecord ⟨0⟩ record).map fun r => r.startedAt.map (·.unixNanos)
    (history (.returned acknowledged .beforeEffect)).map sa =
        [.ok none, .ok (some 3000000), .ok (some 1000000)] ∧
      (history (.stopped .cancelled .beforeEffect)).map sa = [.ok none, .ok (some 3000000), .ok none] ∧
      ¬ TimesAgree ⟨0⟩ (history (.returned acknowledged .beforeEffect)) ∧
      ¬ TimesAgree ⟨0⟩ (history (.stopped .cancelled .beforeEffect)) := by
  intro history sa
  have ha : ∃ t, ClockProjection.timestamp ⟨0⟩ 1 = .ok t := ⟨⟨1000000, by decide, by decide⟩, by decide +kernel⟩
  have hf : ∃ t, ClockProjection.timestamp ⟨0⟩ 4 = .ok t := ⟨⟨4000000, by decide, by decide⟩, by decide +kernel⟩
  have hb : ∀ terminal : CommandTerminal (RuntimeResult Unit), terminal.Presentable →
      ¬ TimesAgree ⟨0⟩ (history terminal) := by
    intro terminal hp h
    have hk := (timesAgree_of_ran (by decide) (by decide)).mp h 3 rfl hp ha hf
    cases hk.1
  refine ⟨by decide +kernel, by decide +kernel, hb _ ?_, hb _ ?_⟩
  · exact ⟨fun _ => ⟨_, rfl, rfl, fun _ h => (nomatch h)⟩, by decide, fun h => absurd rfl h⟩
  · exact ⟨fun h => (nomatch h), by decide, fun _ _ h => (nomatch h)⟩

end Xenoteer
