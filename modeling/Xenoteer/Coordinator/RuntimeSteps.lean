/-
The actor's methods as runs of moves. Each method gets one lemma: from a
coupled state it ends in a state reached by moves (`_moved`), and, where a
caller needs more, what exactly it computes. An admission and a rotation are
steps of their own (`Admits` in `RuntimeRequests`, `Rotated` in
`RuntimeRotation`); `RuntimeEffects` puts them together.
-/
import Xenoteer.Coordinator.EventHubFacts
import Xenoteer.Coordinator.RuntimeMoves

namespace Xenoteer.CoordinatorTask

open Lib.TreeMapKeys

variable {C R E : Type} {s s' : CoordinatorTask C R E} {key : ActiveKey} {ac : ActiveCommand C R}
  {now : MonotonicMillis} {o : Option (ExecutionOutcome R)}

/-! ## Sending and reading the clock -/

theorem clock_moved (s : CoordinatorTask C R E) : Moved o s { s with reads := s.reads + 1 } :=
  .of_move (.clock (Nat.le_succ _)) rfl

/-- What a method reads as the time is the last reading it leaves. -/
theorem nowMillis_eq (s : CoordinatorTask C R E) :
    s.nowMillis = (({ s with reads := s.reads + 1 } : CoordinatorTask C R E).latest,
      { s with reads := s.reads + 1 }) := rfl

theorem loop_moved (s : CoordinatorTask C R E) (point : LoopPoint) (resetFailed shutdownReply : Bool) :
    Moved o s { s with point, resetFailed, shutdownReply } :=
  .of_move .loop rfl

theorem lease_moved {m} (h : s.lease.Change m) : Moved o s { s with lease := m } :=
  .of_move (.lease h) rfl

theorem ledger_moved {l} (h : s.ledger.Refreshed l s.latest) : Moved o s { s with ledger := l } :=
  .of_move (.ledger h) rfl

/-! ## Events -/

/-- Publication changes the hub behind its fence and notifies live receivers. -/
structure Published (s s' : CoordinatorTask C R E) : Prop where
  frame : ∃ hub out, s' = { s with events := hub, outbox := s.outbox ++ out } ∧
    EventHub.SameFence s.events hub ∧ ∀ x ∈ out, ∃ sequence, x = .live sequence

theorem Published.refl (s : CoordinatorTask C R E) : Published s s :=
  ⟨s.events, [], by simp, ⟨rfl, rfl⟩, by simp⟩

theorem Published.trans {s''} (h : Published s s') (h' : Published s' s'') : Published s s'' := by
  obtain ⟨hub, out, rfl, hf, ho⟩ := h.frame
  obtain ⟨hub', out', rfl, hf', ho'⟩ := h'.frame
  refine ⟨hub', out ++ out', by simp,
    ⟨hf'.desktop.trans hf.desktop, hf'.generation.trans hf.generation⟩, ?_⟩
  intro x hx
  obtain hx | hx := List.mem_append.mp hx
  · exact ho x hx
  · exact ho' x hx

theorem Published.moved (h : Published s s') : Moved o s s' := by
  obtain ⟨hub, out, rfl, hf, ho⟩ := h.frame
  exact (Moved.of_move (.events hf.desktop hf.generation) rfl).trans (.of_move (.sent ho) rfl)

theorem Published.latest (h : Published s s') : s'.latest = s.latest := by
  obtain ⟨hub, out, rfl, -⟩ := h.frame
  rfl

theorem Published.lease (h : Published s s') : s'.lease = s.lease := by
  obtain ⟨hub, out, rfl, -⟩ := h.frame
  rfl

theorem publishEvent_published (s : CoordinatorTask C R E) (e : E) (es : Nat)
    (g : GenerationToken) : Published s (s.publishEvent e es g).2 := by
  have hf := s.events.publish_sameFence e es g
  simp only [publishEvent]
  split
  · exact .refl s
  split
  next hp =>
    rw [hp] at hf
    exact ⟨_, [], by simp, hf, by simp⟩
  next ot ev hp =>
    rw [hp] at hf
    exact ⟨ev, [.live ot.sequence], rfl, hf, by simp⟩

theorem publishAll_published (g : GenerationToken) (e : List (CoordinatorEvent E))
    (s : CoordinatorTask C R E) : Published s (publishAll g e s).2 := by
  induction e generalizing s with
  | nil => exact .refl s
  | cons n rest ih =>
    have ho := publishEvent_published s n.event n.encodedSize g
    simp only [publishAll]
    split
    next hp => rw [hp] at ho; exact ho
    next hp => rw [hp] at ho; exact ho.trans (ih _)

theorem publishCommandTransition_published (s : CoordinatorTask C R E) (p : PrincipalId)
    (r : CommandRecord (CommandTerminal R)) : Published s (s.publishCommandTransition p r).2 :=
  publishAll_published _ _ s

/-- The only errors of a publication are the hub's. -/
theorem publishAll_error {g : GenerationToken} {ev : List (CoordinatorEvent E)}
    {s : CoordinatorTask C R E} {e : CoordinatorError} (h : (publishAll g ev s).1 = .error e) :
    ∃ e', e = .event e' := by
  induction ev generalizing s with
  | nil => cases h
  | cons n rest ih =>
    simp only [publishAll] at h
    split at h
    next hp =>
      cases h
      simp only [publishEvent] at hp
      split at hp
      · cases hp; exact ⟨_, rfl⟩
      split at hp
      · cases hp; exact ⟨_, rfl⟩
      · cases hp
    · exact ih h

/-! ## Lease reset -/

theorem spawnReset_moved (h : s.activeReset = none) : Moved o s s.spawnReset := by
  simp only [spawnReset]
  split
  · split
    · exact loop_moved s s.point true s.shutdownReply
    · exact .of_move (.resetSpawned h) rfl
  · exact .refl s

theorem beginReset_change {m : LeaseMachine} : m.Change m.beginReset.2 := by
  simp only [LeaseMachine.beginReset]
  split
  next hs => exact ⟨rfl, rfl, hs ▸ .resetting⟩
  · exact ⟨rfl, rfl, .same _⟩

theorem ensureReset_moved (s : CoordinatorTask C R E) : Moved o s s.ensureReset := by
  have hs : ∀ t : CoordinatorTask C R E, Moved o s t →
      Moved o s (if t.lease.phase = .resetting ∧ t.activeReset = none ∧
        t.resetFailed = false then t.spawnReset
        else t) := by
    intro t ht
    split
    next h => exact ht.trans (spawnReset_moved h.2.1)
    · exact ht
  have hc := beginReset_change (m := s.lease)
  simp only [ensureReset]
  split
  next hb =>
    split at hb
    · split at hb
      next hm => cases hb; rw [hm] at hc; exact lease_moved hc
      · cases hb
    · cases hb
  next hb =>
    split at hb
    · split at hb
      · cases hb
      rename_i lease hm
      cases hb
      rw [hm] at hc
      exact hs _ ((lease_moved hc).trans (loop_moved _ s.point false s.shutdownReply))
    · cases hb
      exact hs s (.refl s)

/-- The parts of the state a reset does not concern. -/
structure SameCommands (s s' : CoordinatorTask C R E) : Prop where
  ledger : s'.ledger = s.ledger
  active : s'.active = s.active
  pending : s'.pending = s.pending
  settings : s'.settings = s.settings
  fence : s'.generationFence = s.generationFence
  latest : s'.latest = s.latest
  shuttingDown : s'.shuttingDown = s.shuttingDown

theorem SameCommands.refl (s : CoordinatorTask C R E) :
    SameCommands s s := ⟨rfl, rfl, rfl, rfl, rfl, rfl, rfl⟩

theorem ensureReset_same {s : CoordinatorTask C R E} : SameCommands s s.ensureReset := by
  have hs : ∀ t : CoordinatorTask C R E, SameCommands s t → SameCommands s t.spawnReset := by
    intro t ht
    simp only [spawnReset]
    split
    · split <;> exact { ht with }
    · exact ht
  simp only [ensureReset]
  split
  next hb =>
    split at hb
    · split at hb <;> cases hb
      exact { SameCommands.refl s with }
    · cases hb
  next hb =>
    split at hb
    · split at hb <;> cases hb
      split
      · exact hs _ { SameCommands.refl s with }
      · exact { SameCommands.refl s with }
    · cases hb
      split
      · exact hs s (.refl s)
      · exact .refl s

/-! ## Terminal transitions -/

/-- A terminal transition in the current generation: it fails for want of an
access ordinal, or stores the result, forgets the command and publishes. -/
theorem completeActive_current (hc : Coupled s) (hk : s.active[key]? = some ac)
    (hg : key.generation = s.token) (t : CommandTerminal R) (hn : now = s.latest) :
    ∃ st, s.ledger.records[key.command]? = some st ∧ st.record = ac.record ∧
      s.completeActive key t now = if s.ledger.Exhausted then
          (.error (.ledger .accessCounterExhausted), { s with ledger := s.ledger.observed s.latest })
        else
          ({ s with
            ledger := (s.ledger.observed s.latest).put key.command (st.completed t s.latest)
            active := s.active.erase key
            pending := if ac.phase = .pending then s.pending.filter (· ≠ key) else s.pending
            outbox := s.outbox ++ [.update key (st.completed t s.latest).record]
            } : CoordinatorTask C R E).publishCommandTransition key.principal
              (st.completed t s.latest).record := by
  obtain ⟨st, hs, hr⟩ := hc.recorded hk hg
  refine ⟨st, hs, hr, ?_⟩
  have ho : st.record.state.isTerminal = false := hr ▸ (hc.active hk).open
  have hco := CommandLedger.complete_of_open t hc.accepts hs ho
  subst hn
  rw [← hg] at hco
  have ht : key.generation = s.generationFence.capture := hg
  simp only [completeActive, hk, terminalRecord, if_pos ht, hco]
  by_cases hex : s.ledger.Exhausted
  · simp only [if_pos hex]
  have hpu : (st.completed t s.latest).record.generation = s.generationFence.capture :=
    (hc.ledger.record hs).generation.trans hc.ledgerToken
  simp only [if_neg hex, hk]
  by_cases hp : ac.phase = .pending
  · simp only [if_pos hp]
    exact if_pos hpu
  · simp only [if_neg hp]
    exact if_pos hpu

/-- A terminal transition of a retired generation leaves the ledger and the
event hub alone. -/
theorem completeActive_retired (hk : s.active[key]? = some ac) (hs : ActiveSound key ac)
    (hg : key.generation ≠ s.token) (t : CommandTerminal R) : s.completeActive key t now = (.ok (),
      { s with
        active := s.active.erase key
        pending := if ac.phase = .pending then s.pending.filter (· ≠ key) else s.pending
        outbox := s.outbox ++
          [.update key { ac.record with state := .terminal t, updatedAt := now }] }) := by
  have ht : key.generation ≠ s.generationFence.capture := hg
  have hr : ac.record.generation ≠ s.generationFence.capture := by rw [hs.generation]; exact ht
  simp only [completeActive, hk, terminalRecord, if_neg ht, hs.open, Bool.false_eq_true, if_false]
  by_cases hp : ac.phase = .pending
  · simp only [if_pos hp]
    exact if_neg hr
  · simp only [if_neg hp]
    exact if_neg hr

/-- The only error of a terminal transition of an active command, beside the
event hub's, is the exhausted counter. -/
theorem completeActive_error (hc : Coupled s) (hk : s.active[key]? = some ac)
    {t : CommandTerminal R} (hn : now = s.latest) {e : CoordinatorError}
    (h : (s.completeActive key t now).1 = .error e) :
    e = .ledger .accessCounterExhausted ∨ ∃ e', e = .event e' := by
  by_cases hg : key.generation = s.token
  · obtain ⟨st, -, -, heq⟩ := completeActive_current hc hk hg t hn
    rw [heq] at h
    split at h
    · cases h; exact .inl rfl
    · exact .inr (publishAll_error h)
  · rw [completeActive_retired hk (hc.active hk) hg] at h
    cases h

theorem Coupled.pending_current (hc : Coupled s) (hk : s.active[key]? = some ac)
    (hp : ac.phase = .pending) : key.generation = s.token := by
  by_contra hg
  have := (hc.retired hk hg).1
  rw [hp] at this
  cases this

/-- A queued command made terminal is gone, unless no ordinal was left. -/
theorem completeActive_pending (hc : Coupled s) (hk : s.active[key]? = some ac)
    (hp : ac.phase = .pending) {terminal} (he : Ends o terminal)
    (hn : now = s.latest) : Moved o s (s.completeActive key terminal now).2 ∧
      (s.completeActive key terminal now).2.latest = s.latest ∧
      (s.completeActive key terminal now).2.Stopped key := by
  have hg := hc.pending_current hk hp
  obtain ⟨stored, hs, hr, heq⟩ := completeActive_current hc hk hg terminal hn
  rw [heq, if_pos hp]
  split
  next hex => exact ⟨ledger_moved (.observed hc.accepts), rfl, .inr hex⟩
  rename_i hex
  have hpu := publishCommandTransition_published
    ({ s with
      ledger := (s.ledger.observed s.latest).put key.command (stored.completed terminal s.latest)
      active := s.active.erase key
      pending := s.pending.filter (· ≠ key)
      outbox := s.outbox ++ [.update key (stored.completed terminal s.latest).record]
      } : CoordinatorTask C R E) key.principal (stored.completed terminal s.latest).record
  have hf : Finishes s key terminal
      ((s.ledger.observed s.latest).put key.command (stored.completed terminal s.latest)) :=
    .current hg hc.accepts hex hs (hr ▸ (hc.active hk).open)
  have hm := Moved.of_move
    (.finished (stored.completed terminal s.latest).record hk hp hf he rfl) rfl
  refine ⟨hm.trans hpu.moved, hpu.latest, (hpu.moved (o := o)).stopped (.inl ?_)⟩
  intro a ha
  exact absurd rfl (erase_cases ha).1

theorem ends_terminalOf (st : ExecutionStop) (o : Option (ExecutionOutcome R)) : Ends o (terminalOf st o) := by
  cases o with
  | none => exact .stopped (by decide)
  | some ot => exact .returned st rfl

/-- The end of an execution: its task is gone, and the command with it unless
no ordinal was left. -/
theorem handleExecution_moved (hc : Coupled s) (hm : .execution key ∈ s.tasks) {o} :
    Moved o s (({ s with tasks := s.tasks.erase (.execution key) } : CoordinatorTask C R E).handleCompletion
      (.execution key o)) := by
  obtain ⟨ac, hk, hr⟩ := hc.executing hm
  -- `t` is the state whose command the method completes, `u` the same before the task was joined
  let u : CoordinatorTask C R E := { s with reads := s.reads + 1 }
  let t : CoordinatorTask C R E :=
    { u with tasks := s.tasks.erase (.execution key), running := s.running - 1 }
  have hcu : Coupled u := hc.clockMove (Nat.le_succ s.reads)
  have hct : Coupled t := { hcu.joined List.erase_sublist with }
  have hs : Moved o s u := clock_moved s
  simp only [handleCompletion, hk]
  change Moved o s (t.completeActive key (terminalOf ac.stop o) t.latest).2
  have hnp : ac.phase ≠ .pending := by rw [hr]; exact ActivePhase.noConfusion
  have he : Ends o (terminalOf ac.stop o) := ends_terminalOf ac.stop o
  by_cases hg : key.generation = s.token
  · obtain ⟨st, hst, hre, heq⟩ := completeActive_current hct (show t.active[key]? = some ac from hk) hg
        (terminalOf ac.stop o) rfl
    rw [heq, if_neg hnp]
    split
    next hex =>
      exact hs.trans ((Moved.of_move (.orphaned (s := u) hm hex) rfl).trans
        (ledger_moved (.observed hct.accepts)))
    next hex =>
      have hf : Finishes u key (terminalOf ac.stop o) ((u.ledger.observed u.latest).put key.command
          (st.completed (terminalOf ac.stop o) u.latest)) :=
        .current hg hcu.accepts hex hst (hre ▸ (hc.active hk).open)
      have hj := Moved.of_move (.joined (s := u)
        (st.completed (terminalOf ac.stop o) u.latest).record hm hk hf he rfl) rfl
      exact hs.trans (hj.trans (publishCommandTransition_published _ _ _).moved)
  · rw [completeActive_retired (s := t) hk (hc.active hk) hg, if_neg hnp]
    exact hs.trans (.of_move (.joined
      { ac.record with state := .terminal (terminalOf ac.stop o), updatedAt := t.latest }
      hm hk (.retired hg) he rfl) rfl)

/-! ## Stopping commands -/

theorem requestStop_eq (ac : ActiveCommand C R) {r} (h : r ≠ .continue) :
    ∃ stop, stop ≠ .continue ∧ requestStop ac r = { ac with stop } := by
  simp only [requestStop]
  split
  · exact ⟨r, h, rfl⟩
  next hs => exact ⟨ac.stop, hs, rfl⟩

theorem requestStop_moved (hk : s.active[key]? = some ac) (hr : ac.phase = .running) {r} (h : r ≠ .continue) :
    Moved o s { s with active := s.active.insert key (requestStop ac r) } := by
  obtain ⟨st, hs, heq⟩ := requestStop_eq ac h
  rw [heq]
  exact .of_move (.stopped hk hr hs) rfl

theorem stopActive_moved (hc : Coupled s) {c stop}
    (hca : c ≠ .returned) (hs : stop ≠ .continue) (hn : now = s.latest) {key} :
    Moved o s (s.stopActive key c stop now).2 ∧ (s.stopActive key c stop now).2.latest = s.latest ∧
      (s.stopActive key c stop now).2.Stopped key := by
  simp only [stopActive]
  split
  next hk => exact ⟨.refl s, rfl, .inl fun a ha => by rw [hk] at ha; cases ha⟩
  rename_i ac hk
  split
  next hp => exact completeActive_pending hc hk hp (.stopped hca) hn
  next hr =>
    have hm := requestStop_moved (o := o) hk hr hs
    exact ⟨hm, rfl, hm.stopped (.inl fun a ha => by rw [hk] at ha; cases ha; exact hr)⟩

theorem stopEach_moved (hc : Coupled s) {c stop}
    (hca : c ≠ .returned) (hs : stop ≠ .continue) (hn : now = s.latest) (ky : List ActiveKey) :
    Moved o s (stopEach c stop now ky s) ∧ ∀ key ∈ ky, (stopEach c stop now ky s).Stopped key := by
  induction ky generalizing s with
  | nil => exact ⟨.refl s, by simp⟩
  | cons key ky ih =>
    obtain ⟨ho, hl, hke⟩ := stopActive_moved hc hca hs hn
    obtain ⟨hr, hky⟩ := ih (hc.moved ho) (hn.trans hl.symm)
    refine ⟨ho.trans hr, ?_⟩
    intro k hk
    obtain rfl | hk := List.mem_cons.mp hk
    · exact hr.stopped hke
    · exact hky k hk

theorem revoke_change (m : LeaseMachine) (r : RevocationReason) : m.Change (m.revoke r).2 := by
  simp only [LeaseMachine.revoke]
  split
  next hs => exact ⟨rfl, rfl, hs ▸ .revoked⟩
  · exact ⟨rfl, rfl, .same _⟩

/-- Shutdown leaves no queued command. -/
theorem beginShutdown_moved (hc : Coupled s) {r} (hrp : r = true → s.shuttingDown = false) :
    Moved o s (s.beginShutdown r) ∧ (s.beginShutdown r).shuttingDown = true := by
  simp only [beginShutdown]
  split
  next hd =>
    split
    next hr =>
      rw [hrp hr] at hd
      cases hd
    · exact ⟨.refl s, hd⟩
  next hd =>
    -- closing admission is the one move that `Moved` has to answer for
    let t : CoordinatorTask C R E :=
      { s with
        shuttingDown := true
        shutdownReply := r
        lease := (s.lease.revoke .shutdown).2
        resetFailed := false }
    have hcl : Relation.ReflTransGen (Move o) s t := ((Relation.ReflTransGen.single Move.closed).tail
        (show Move o _
          { s with shuttingDown := true, resetFailed := false, shutdownReply := r } from .loop)).tail
        (.lease (revoke_change s.lease .shutdown))
    have hct : Coupled t := moves_induction (fun hm hc => hc.move hm) hcl hc
    have hre := (ensureReset_moved (o := o) t).trans (clock_moved t.ensureReset)
    obtain ⟨hs, hk⟩ := stopEach_moved (hct.moved hre)
      (show TerminalCause.shutdown ≠ .returned by decide) (show ExecutionStop.shutdown ≠ .continue by decide) rfl
      t.ensureReset.active.keys
    refine ⟨⟨hcl.trans (hre.trans hs).moves, fun _ => .inr fun key => ?_⟩, (hre.trans hs).down rfl⟩
    by_cases hme : key ∈ t.ensureReset.active.keys
    · exact hk key hme
    · refine hs.stopped (.inl fun a ha => ?_)
      exact absurd (mem_keys_iff.mpr ⟨a, ha⟩) hme

end Xenoteer.CoordinatorTask
