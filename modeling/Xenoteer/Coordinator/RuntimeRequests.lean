/-
Requests about commands: the admission of a submission, the dedupe of its
retries, cancellation and watching. No request ends with the invariant
violation, and only `Admits` adds a command.
-/
import Xenoteer.Coordinator.RuntimeSteps

namespace Xenoteer.CoordinatorTask

open Lib.TreeMapKeys

variable {C R E : Type} {s s' : CoordinatorTask C R E} {key : ActiveKey} {active : ActiveCommand C R}
  {now : MonotonicMillis} {o : Option (ExecutionOutcome R)}

/-! ## Lease operations -/

/-- Every lease operation but the end of a reset and a rotation is a change. -/
theorem lease_change {m m' op reply} (h : LeaseMachine.Transition m op reply m')
    (hf : op ≠ .finishReset) (hr : ∀ t, op ≠ .rotateGeneration t) : m.Change m' := by
  cases h with
  | kept => exact ⟨rfl, rfl, .same _⟩
  | acquired hs => exact ⟨rfl, rfl, hs ▸ .granted⟩
  | renewed hs | authorized hs => exact ⟨rfl, rfl, hs ▸ .held rfl rfl⟩
  | revoked hs => exact ⟨rfl, rfl, hs ▸ .revoked⟩
  | begun hs => exact ⟨rfl, rfl, hs ▸ .resetting⟩
  | finished => exact absurd rfl hf
  | fenced => exact absurd rfl (hr _)

/-- An authorization names the held lease. -/
theorem authorize_held {m : LeaseMachine} {owner leaseId generation grant}
    (h : (m.authorize owner leaseId now generation).1 = .ok grant) :
    ∃ g, (m.authorize owner leaseId now generation).2.state = .held g ∧ g.owner = owner ∧
      g.leaseId = leaseId := by
  have ht := m.authorize_transition owner leaseId now generation
  revert h ht
  generalize m.authorize owner leaseId now generation = p
  obtain ⟨r, m'⟩ := p
  rintro rfl ht
  cases ht with
  | kept hn | revoked _ hn => exact absurd rfl (hn grant)
  | authorized => exact ⟨_, rfl, rfl, rfl⟩

theorem ensureReset_held {g} (h : s.lease.state = .held g) : s.ensureReset = s := by
  simp [ensureReset, LeaseMachine.phase, h, LeaseState.phase]

variable {a : CommandAdmission C}

/-- The lease proof of a submission touches the lease only; where it succeeds,
the required lease is held. -/
theorem authorizeSubmission_cases {r} (h : s.authorizeSubmission a now = (r, s')) :
    Moved o s s' ∧ SameCommands s s' ∧ ((∃ e, r = .error (.lease e)) ∨
        r = .ok () ∧ ∀ li, a.lease = .required li →
          ∃ g, s'.lease.state = .held g ∧ g.owner = a.principal ∧ g.leaseId = li) := by
  simp only [authorizeSubmission] at h
  split at h
  next hl =>
    cases h
    exact ⟨.refl s, .refl s, .inr ⟨rfl, fun li h => by rw [hl] at h; cases h⟩⟩
  rename_i li hl
  have hc := lease_change (s.lease.authorize_transition a.principal li now a.generation)
    (by simp) (by simp)
  split at h
  next e m hm =>
    cases h
    rw [hm] at hc
    exact ⟨(lease_moved hc).trans (ensureReset_moved _), { ensureReset_same with }, .inl ⟨e, rfl⟩⟩
  next gr m hm =>
    cases h
    rw [hm] at hc
    refine ⟨(lease_moved hc).trans (ensureReset_moved _), { ensureReset_same with },
      .inr ⟨rfl, ?_⟩⟩
    intro li' h
    cases hl.symm.trans h
    obtain ⟨g, hg, ho, hid⟩ := authorize_held
      (show (s.lease.authorize a.principal li now a.generation).1 = .ok gr by rw [hm])
    rw [hm] at hg
    exact ⟨g, by rw [ensureReset_held hg]; exact hg, ho, hid⟩

theorem published_of_eq {principal record r} (h : s.publishCommandTransition principal record = (r, s')) :
    Published s s' := by
  have hp := publishCommandTransition_published s principal record
  rwa [h] at hp

/-! ## Admission -/

/-- A new record lands on a refreshed ledger that has none for its key. -/
theorem admitted_refreshed {l l' : CommandLedger R} {principal commandId requestHash generation record}
    (h : l.admitCommand principal commandId requestHash now generation = (.ok (.admitted record), l')) :
    l.Accepts now generation ∧ ¬ l.Exhausted ∧
      record = (CommandLedger.fresh principal commandId requestHash now generation : StoredCommand R).record ∧
      ∃ b, l.Refreshed b now ∧ b.records[(⟨principal, commandId⟩ : CommandKey)]? = none ∧
        l' = b.put ⟨principal, commandId⟩
          (CommandLedger.fresh principal commandId requestHash now generation) := by
  by_cases ha : l.Accepts now generation
  · cases hk : (l.purged now).records[(⟨principal, commandId⟩ : CommandKey)]? with
    | some st =>
      rw [CommandLedger.admit_of_some ha hk] at h
      split at h
      · cases h
      split at h <;> cases h
    | none =>
      obtain he | he | ⟨b, hb, hex, he⟩ :=
          CommandLedger.admit_of_none_cases ha hk <;> rw [he] at h <;> cases h
      refine ⟨ha, hex, rfl, b, ?_⟩
      obtain rfl | ⟨v, hv, rfl⟩ := hb
      · exact ⟨.purged ha, hk, rfl⟩
      · refine ⟨(CommandLedger.Refreshed.purged ha).trans (.without hv), ?_, rfl⟩
        rw [CommandLedger.without_getElem?, hk, ite_self]
  · obtain ⟨e, -, he, -⟩ := CommandLedger.refused ha
    rw [he] at h
    cases h

/-- A submission admits its command: there is room for it, its lease is held,
and the ledger accepts the new record. -/
inductive Admits (s : CoordinatorTask C R E) (a : CommandAdmission C) : CoordinatorTask C R E → Prop
  | mk (deadline : Option Instant) {record ledger} : s.shuttingDown = false →
      s.active.size < s.settings.maximumActiveCommands →
      s.activeOf a.principal < s.settings.maximumActivePerPrincipal →
      (∀ leaseId, a.lease = .required leaseId →
        ∃ g, s.lease.state = .held g ∧ g.owner = a.principal ∧ g.leaseId = leaseId) →
      s.ledger.admitCommand a.principal a.commandId a.requestHash s.latest a.generation =
        (.ok (.admitted record), ledger) →
      Admits s a
        { s with
          ledger
          active := s.active.insert a.key ⟨some a.command, deadline, .pending, .continue, record, record⟩
          pending := s.pending ++ [a.key] }

/-- The key of an admitted command was not active. -/
theorem Coupled.admits_new (hc : Coupled s) {base}
    (hg : key.generation = s.token) (hb : s.ledger.Refreshed base s.latest)
    (hn : base.records[key.command]? = none) : s.active[key]? = none := by
  cases hk : s.active[key]? with
  | none => rfl
  | some active =>
    obtain ⟨st, hs, hr⟩ := (hc.ledgerMove hb).recorded hk hg
    rw [show base.records[key.command]? = some st from hs] at hn
    cases hn

theorem Coupled.admits (hc : Coupled s) (h : Admits s a s') : Coupled s' := by
  obtain @⟨d, r, l, ho, hsi, hsh, hl, had⟩ := h
  obtain ⟨ha, hex, rfl, b, hb, hno, rfl⟩ := admitted_refreshed had
  have hg : a.generation = s.token := ha.token.trans hc.ledgerToken
  have hn : s.active[a.key]? = none := hc.admits_new hg hb hno
  have hcb := hc.ledgerMove hb
  have hs := hc.ledger.transition (CommandLedger.admit_transition s.ledger a.principal a.commandId
    a.requestHash s.latest a.generation)
  rw [had] at hs
  obtain ⟨hat, ht⟩ := hc.put hb
    (CommandLedger.fresh a.principal a.commandId a.requestHash s.latest a.generation)
    ⟨some a.command, d, .pending, .continue, _, _⟩ (show a.key.generation = s.token from hg)
    ⟨rfl, rfl, .inl ⟨rfl, rfl, rfl⟩⟩ rfl
  exact
    { hc with
      ledgerToken := hcb.ledgerToken
      ledger := hs
      clock := hcb.clock
      active := fun h => (hat h).1
      epoch := fun h => (hat h).2.1
      recorded := fun h => (hat h).2.2.1
      tracked := ht
      retired := fun h => (hat h).2.2.2
      queue := by
        rw [List.nodup_append]
        refine ⟨hc.queue, by simp, ?_⟩
        intro k hk k' hk' heq
        rw [List.mem_singleton] at hk'
        obtain ⟨act, hac, -⟩ := hc.queued hk
        rw [heq, hk', hn] at hac
        cases hac
      queued := by
        intro k hk
        obtain hk | hk := List.mem_append.mp hk
        · obtain ⟨act, hac, hp⟩ := hc.queued hk
          refine ⟨act, ?_, hp⟩
          rw [getElem?_insert_ne, hac]
          rintro rfl
          rw [hn] at hac
          cases hac
        · rw [List.mem_singleton] at hk
          exact ⟨_, getElem?_insert_eq.trans (if_pos hk.symm), rfl⟩
      executing := by
        intro k hk
        obtain ⟨act, hac, hr⟩ := hc.executing hk
        refine ⟨act, ?_, hr⟩
        rw [getElem?_insert_ne, hac]
        rintro rfl
        rw [hn] at hac
        cases hac
      capacity := Std.TreeMap.size_insert_le.trans hsi
      share := by
        intro p
        refine (countP_keys_insert_le).trans ?_
        have hp := hc.share p
        by_cases heq : a.principal = p
        · subst heq
          have : s.activeOf a.principal + 1 ≤ s.settings.maximumActivePerPrincipal := hsh
          simpa [CommandAdmission.key, activeOf] using this
        · simpa [CommandAdmission.key, heq, activeOf] using hp }

/-! ## Submission -/

/-- The record is unfinished, or one of the ledger. -/
def Knows (s : CoordinatorTask C R E) (record : CommandRecord (CommandTerminal R)) : Prop :=
  record.state.isTerminal = true → ∃ (k : CommandKey) (stored : _), s.ledger.records[k]? = some stored ∧
    stored.record = record

theorem Coupled.knows_updates (hc : Coupled s) (hk : s.active[key]? = some active) : s'.Knows active.updates := by
  intro h
  rw [(hc.active hk).updates, (hc.active hk).open] at h
  cases h

theorem knows_read {l : CommandLedger (CommandTerminal R)} {k : CommandKey} {stored} (s : CoordinatorTask C R E) :
    ({ s with ledger := l.put k stored } : CoordinatorTask C R E).Knows stored.record :=
  fun _ => ⟨k, _, CommandLedger.put_getElem?.trans (if_pos rfl), rfl⟩

/-- The record a lookup returns is stored again. -/
theorem lookup_knows {principal commandId generation record n}
    (h : (s.ledger.lookup principal commandId now generation).1 = .ok (some record)) :
    Knows { s with reads := n, ledger := (s.ledger.lookup principal commandId now generation).2 } record := by
  obtain ⟨e, -, he⟩ | ⟨-, ⟨he, -⟩ | ⟨he, -⟩ | ⟨st, -, he⟩⟩ :=
      s.ledger.lookup_cases principal commandId now generation <;> rw [he] at h ⊢ <;> cases h
  exact knows_read { s with reads := n }

/-- How a submission ends: with an answer that admits nothing, and never with
the invariant violation, or with the admission of the command. -/
inductive Submission (s : CoordinatorTask C R E) (a : CommandAdmission C) :
    Except CoordinatorError (CommandSubmission R) → CoordinatorTask C R E → Prop
  | answered {result s'} : Moved none s s' →
      (∀ submission, result = .ok submission → submission.admitted = false ∧
        s'.Knows submission.record ∧ s'.Knows submission.updates) →
      result ≠ .error (.ledger .invariantViolation) → Submission s a result s'
  | admitted {s₁ s₂ s' record} : Moved none s s₁ → Admits s₁ a s₂ → Moved none s₂ s' →
      (s'.lease = s₂.lease ∨ s'.shuttingDown = true) → record.state.isTerminal = false →
      Submission s a (.ok ⟨true, record, record⟩) s'

theorem Submission.of_error {e} (h : Moved none s s')
    (he : e ≠ .ledger .invariantViolation) : Submission s a (.error e) s' :=
  .answered h (fun _ h => by cases h) (fun h => he (Except.error.inj h))

theorem Submission.after {result s₀} (h : Moved none s₀ s)
    (hs : Submission s a result s') : Submission s₀ a result s' := by
  cases hs with
  | answered hm hok hv => exact .answered (h.trans hm) hok hv
  | admitted hm ha hm' hl ho => exact .admitted (h.trans hm) ha hm' hl ho

theorem admitNew_submission (hc : Coupled s) {d} (hn : now = s.latest) (hg : a.generation = s.token)
    (hno : s.ledger.records[a.key.command]? = none) (hd : s.shuttingDown = false)
    (hs : s.active.size < s.settings.maximumActiveCommands)
    (hsh : s.activeOf a.principal < s.settings.maximumActivePerPrincipal) (hl : ∀ li, a.lease = .required li →
      ∃ g, s.lease.state = .held g ∧ g.owner = a.principal ∧ g.leaseId = li) :
    Submission s a (s.admitNew a d now).1 (s.admitNew a d now).2 := by
  subst hn
  have ha : s.ledger.Accepts s.latest a.generation := hg ▸ hc.accepts
  have hpr : (s.ledger.purged s.latest).records[a.key.command]? = none := by
    rw [CommandLedger.purged_getElem?, hno]
    rfl
  obtain he | he | ⟨b, hb, hex, he⟩ := CommandLedger.admit_of_none_cases ha hpr
  all_goals
    have heq : s.ledger.admitCommand a.principal a.commandId a.requestHash s.latest a.generation = _ := he
    simp only [admitNew, heq]
  · exact .of_error (ledger_moved (.purged ha)) (by simp)
  · exact .of_error (ledger_moved ((CommandLedger.Refreshed.purged ha).trans (.spend _ _))) (by simp)
  have had : Admits s a _ := Admits.mk d hd hs hsh hl heq
  split
  next hp =>
    have hpu := (published_of_eq hp).moved (o := none)
    obtain ⟨hm, hd⟩ := beginShutdown_moved ((hc.admits had).moved hpu)
      (show false = true → _ by simp)
    exact .admitted (.refl s) had (hpu.trans hm) (.inr hd) rfl
  next hp =>
    exact .admitted (.refl s) had (published_of_eq hp).moved (.inl (published_of_eq hp).lease) rfl

theorem Refusal.ne_violation {e} (h : CommandLedger.Refusal e) : e ≠ .invariantViolation := by
  rintro rfl
  rcases h with h | h | h <;> cases h

/-- The stored record of a command that is not active is terminal. -/
theorem Coupled.terminal_of_inactive (hc : Coupled s) {stored} (hk : s.active[key]? = none)
    (hg : key.generation = s.token) (hs : s.ledger.records[key.command]? = some stored) :
    stored.record.state.isTerminal = true := by
  by_contra ho
  obtain ⟨active, ha⟩ := hc.tracked hs (by simpa using ho)
  rw [show ⟨s.token, key.command.principal, key.command.commandId⟩ = key by rw [← hg]; rfl,
    hk] at ha
  cases ha

theorem dedupeOrAdmit_submission (hc : Coupled s) (hd : s.shuttingDown = false) {a d} (hn : now = s.latest) :
    Submission s a (s.dedupeOrAdmit a d now).1 (s.dedupeOrAdmit a d now).2 := by
  subst hn
  simp only [dedupeOrAdmit]
  obtain ⟨e, hre, he⟩ | ⟨ha, ⟨he, -⟩ | ⟨he, hno⟩ | ⟨st, hst, he⟩⟩ :=
      s.ledger.lookup_cases a.principal a.commandId s.latest a.generation
  all_goals simp only [he]
  · exact .of_error (.refl s) (by simpa using Refusal.ne_violation hre)
  · exact .of_error (ledger_moved (.purged ha)) (by simp)
  · -- no record: capacity, lease, admission
    have hg : a.generation = s.token := ha.token.trans hc.ledgerToken
    have hp : Moved none s { s with ledger := s.ledger.purged s.latest } := ledger_moved (.purged ha)
    split
    · exact .of_error hp (by simp)
    rename_i hsi
    split
    · exact .of_error hp (by simp)
    rename_i hsh
    split
    next e t hm =>
      obtain ⟨hau, -, ⟨e', he'⟩ | ⟨hok, -⟩⟩ := authorizeSubmission_cases hm
      · cases he'
        exact .of_error (hp.trans hau) (by simp)
      · cases hok
    next t hm =>
      obtain ⟨hau, hs, ⟨e', he'⟩ | ⟨-, hl⟩⟩ := authorizeSubmission_cases hm
      · cases he'
      refine .after (hp.trans hau) ?_
      refine admitNew_submission
        (hc.moved (hp.trans hau)) hs.latest.symm ?_ ?_ ?_ ?_ ?_ hl
      · rw [token, hs.fence]
        exact hg
      · rw [hs.ledger]
        exact hno
      · exact hs.shuttingDown.trans hd
      · rw [hs.active, hs.settings]
        exact Nat.lt_of_not_le hsi
      · rw [activeOf, hs.active, hs.settings]
        exact Nat.lt_of_not_le hsh
  · -- a record: the retry gets it back
    have hr : Moved none s
        { s with ledger := (s.ledger.purged s.latest).put ⟨a.principal, a.commandId⟩ st } :=
      ledger_moved (.read ha hst)
    split
    · exact .of_error hr (by simp)
    split
    next hac =>
      refine .answered hr (fun _ h => ?_) (by simp)
      cases h
      exact ⟨rfl, knows_read s, hc.knows_updates hac⟩
    next hi =>
      have ht := hc.terminal_of_inactive hi (ha.token.trans hc.ledgerToken)
        (CommandLedger.purged_sub hst)
      simp only [ht, if_true]
      refine .answered hr (fun _ h => ?_) (by simp)
      cases h
      exact ⟨rfl, knows_read s, knows_read s⟩

theorem submitCommand_submission (hc : Coupled s) (hd : s.shuttingDown = false) (a : CommandAdmission C) :
    Submission s a (s.submitCommand a).1 (s.submitCommand a).2 := by
  simp only [submitCommand, instantNow]
  split
  · exact .of_error (clock_moved s) (by simp)
  next d _ =>
    exact .after (clock_moved s)
      (dedupeOrAdmit_submission (hc.clockMove (Nat.le_succ s.reads)) hd rfl)

/-! ## Cancellation and watching -/

theorem cancelCommand_moved (hc : Coupled s) {p ci g} : Moved o s (s.cancelCommand p ci g).2 ∧
      (s.cancelCommand p ci g).1 ≠ .error (.ledger .invariantViolation) := by
  have hre := clock_moved (o := o) s
  have hct := hc.clockMove (Nat.le_succ s.reads)
  simp only [cancelCommand, nowMillis_eq]
  split
  next active hk =>
    split
    next hp =>
      obtain ⟨hm, -⟩ := completeActive_pending hct hk hp
        (Ends.stopped (show TerminalCause.cancelled ≠ .returned by decide)) rfl
      split
      next e t heq =>
        rw [heq] at hm
        refine ⟨hre.trans hm, ?_⟩
        have her := completeActive_error hct hk rfl (show (_ : Except _ _ × _).1 = .error e by rw [heq])
        rcases her with rfl | ⟨e', rfl⟩ <;> simp
      next t heq =>
        rw [heq] at hm
        exact ⟨hre.trans hm, by simp⟩
    next hr =>
      exact ⟨hre.trans (requestStop_moved (s := { s with reads := s.reads + 1 }) hk hr (by decide)), by simp⟩
  next hk =>
    obtain ⟨e, hrf, he⟩ | ⟨ha, ⟨he, -⟩ | ⟨he, hn⟩ | ⟨st, hs, he⟩⟩ := s.ledger.lookup_cases p ci
          ({ s with reads := s.reads + 1 } : CoordinatorTask C R E).latest g
    all_goals simp only [he]
    · exact ⟨hre, by simpa using Refusal.ne_violation hrf⟩
    · exact ⟨hre.trans (ledger_moved (.purged ha)), by simp⟩
    · exact ⟨hre.trans (ledger_moved (.purged ha)), by simp⟩
    have ht := hc.terminal_of_inactive hk (ha.token.trans hc.ledgerToken)
      (CommandLedger.purged_sub hs)
    simp only [ht, if_true]
    exact ⟨hre.trans (ledger_moved (.read ha hs)), by simp⟩

theorem watchCommand_moved (hc : Coupled s) {p ci g} : Moved o s (s.watchCommand p ci g).2 ∧
      (s.watchCommand p ci g).1 ≠ .error (.ledger .invariantViolation) ∧
      ∀ r, (s.watchCommand p ci g).1 = .ok (some r) → (s.watchCommand p ci g).2.Knows r := by
  have hr := clock_moved (o := o) s
  simp only [watchCommand, nowMillis_eq]
  obtain ⟨e, hre, he⟩ | ⟨ha, ⟨he, -⟩ | ⟨he, hn⟩ | ⟨st, hs, he⟩⟩ := s.ledger.lookup_cases p ci
        ({ s with reads := s.reads + 1 } : CoordinatorTask C R E).latest g
  all_goals simp only [he]
  · exact ⟨hr, by simpa using Refusal.ne_violation hre, by simp⟩
  · exact ⟨hr.trans (ledger_moved (.purged ha)), by simp, by simp⟩
  · exact ⟨hr.trans (ledger_moved (.purged ha)), by simp, by simp⟩
  split
  next hac =>
    refine ⟨hr.trans (ledger_moved (.read ha hs)), by simp, fun _ h => ?_⟩
    cases h
    exact hc.knows_updates hac
  next hk =>
    have ht := hc.terminal_of_inactive hk (ha.token.trans hc.ledgerToken)
      (CommandLedger.purged_sub hs)
    simp only [ht, if_true]
    refine ⟨hr.trans (ledger_moved (.read ha hs)), by simp, fun _ h => ?_⟩
    cases h
    exact knows_read s

end Xenoteer.CoordinatorTask
