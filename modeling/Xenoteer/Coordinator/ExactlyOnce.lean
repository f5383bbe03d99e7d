/-
Exactly-once execution. An admitted command stands in the queue once; a start
takes it out of the queue and nothing but an admission puts it back, so
between two admissions of a command it is started at most once. Its record
keeps the request hash of the admission and stays in the ledger at least until
a terminal update, and a retry gets it back.
-/
import Xenoteer.Coordinator.RuntimeHistory
import Mathlib.Data.List.Nodup

namespace Xenoteer.CoordinatorTask

open Lib.TreeMapKeys Lib.Run

variable {C R E : Type} {s s' : CoordinatorTask C R E} {key : ActiveKey}

/-! ## Starts and the queue -/

/-- The starts of the command in what the actor sent, and those still queued. -/
def budget (key : ActiveKey) (s : CoordinatorTask C R E) : Nat :=
  s.outbox.countP (Sent.starts key) + s.pending.count key

theorem Move.budget_le (h : Move o s s') : budget key s' ≤ budget key s := by
  rw [budget, budget, h.starts_eq]
  exact Nat.add_le_add_left (h.pending_sublist.count_le _) _

variable {k : ActiveKey}

/-- A start takes the command out of the queue. -/
theorem Begins.budget_le (h : Begins s k s') : budget key s' ≤ budget key s := by
  obtain ⟨hq⟩ := h
  simp only [budget, hq, List.countP_append, List.countP_cons, List.countP_nil, Sent.starts,
    List.count_cons]
  by_cases hk : k = key
  · simp [hk, Nat.add_assoc, Nat.add_comm]
  · simp [hk]

theorem Rotated.budget_le (h : Rotated s s') : budget key s' ≤ budget key s := by
  obtain ⟨out, ho, hn, -⟩ := h.outbox
  rw [budget, budget, ho, h.pending, countP_starts_append _ hn]
  exact Nat.le_add_right _ _

variable {a : CommandAdmission C}

theorem Admits.budget_le (h : Admits s a s') (hk : a.key ≠ key) : budget key s' ≤ budget key s := by
  cases h
  simp [budget, List.count_append, hk]

/-! ## The record of the admission -/

/-- The retained record of the command carries the request hash. -/
def Hashed (key : ActiveKey) (hash : CanonicalCommandHash) (s : CoordinatorTask C R E) : Prop :=
  s.token = key.generation → ∀ {stored}, s.ledger.records[key.command]? = some stored →
    stored.record.requestHash = hash

/-- Until its terminal update is sent, the command is active. -/
def Accounted (key : ActiveKey) (s : CoordinatorTask C R E) : Prop :=
  s.token = key.generation → (∃ active, s.active[key]? = some active) ∨ ∃ x ∈ s.outbox, x.ends key = true

variable {hash : CanonicalCommandHash}

theorem Finishes.hashed {terminal l} (h : Finishes s k terminal l) (hs : Hashed key hash s) :
    s.token = key.generation → ∀ {sr}, l.records[key.command]? = some sr →
      sr.record.requestHash = hash := by
  intro ht sr hk
  cases h with
  | @current st hg ha hex hst =>
    rw [CommandLedger.put_getElem?] at hk
    split at hk
    next heq =>
      cases hk
      have hh := hs ht (show s.ledger.records[key.command]? = some st from heq ▸ hst)
      exact hh
    · exact hs ht hk
  | retired => exact hs ht hk

theorem Move.hashed (h : Move o s s') (hs : Hashed key hash s) : Hashed key hash s' := by
  cases h with
  | ledger h =>
    intro ht sr hk
    obtain ⟨st, hst, hr⟩ := h.back hk
    rw [hr]
    exact hs ht hst
  | finished _ _ _ h | joined _ _ _ h => exact h.hashed hs
  | _ => exact hs

theorem Begins.hashed (h : Begins s k s') (hs : Hashed key hash s) : Hashed key hash s' := by
  obtain @⟨rest, st, c, ac, hq, hr, hk, hc, hg, hex, hst, hsa⟩ := h
  intro ht sr hso
  rw [CommandLedger.put_getElem?] at hso
  split at hso
  next heq =>
    cases hso
    have hh := hs ht (show s.ledger.records[key.command]? = some st from heq ▸ hst)
    exact hh
  · exact hs ht hso

theorem Admits.hashed (hc : Coupled s) (h : Admits s a s') (hk : a.key ≠ key)
    (hs : Hashed key hash s) : Hashed key hash s' := by
  obtain @⟨d, r, l, ho, hsi, hsh, hl, had⟩ := h
  obtain ⟨ha, -, rfl, b, hb, hn, rfl⟩ := admitted_refreshed had
  intro ht sr hso
  have hg : a.key.generation = key.generation := (ha.token.trans hc.ledgerToken).trans ht
  have hne : ⟨a.principal, a.commandId⟩ ≠ key.command := (command_ne hk hg).symm
  rw [CommandLedger.put_getElem?, if_neg hne] at hso
  obtain ⟨st, hst, hr⟩ := hb.back hso
  rw [hr]
  exact hs ht hst

/-- The new record carries the hash of its admission. -/
theorem Admits.hashed_self (h : Admits s a s') : Hashed a.key a.requestHash s' := by
  obtain @⟨d, r, l, ho, hsi, hsh, hl, had⟩ := h
  obtain ⟨ha, -, rfl, b, hb, hn, rfl⟩ := admitted_refreshed had
  intro ht st hs
  have hse : ⟨a.principal, a.commandId⟩ = a.key.command := rfl
  rw [CommandLedger.put_getElem?, if_pos hse] at hs
  cases hs
  rfl

theorem Accounted.of_sub (hs : Accounted key s) (hto : s'.token = s.token)
    (hac : ∀ {a}, s.active[key]? = some a → ∃ a', s'.active[key]? = some a')
    (ho : s.outbox ⊆ s'.outbox) : Accounted key s' := by
  intro ht
  obtain ⟨a, ha⟩ | ⟨x, hx, he⟩ := hs (hto ▸ ht)
  · exact .inl (hac ha)
  · exact .inr ⟨x, ho hx, he⟩

theorem Move.accounted (h : Move o s s') (hs : Accounted key s) : Accounted key s' := by
  have hi : ∀ {k : ActiveKey} {v a}, s.active[key]? = some a →
      ∃ a', (s.active.insert k v)[key]? = some a' := by
    intro k v a ha
    by_cases hk : key = k
    · exact ⟨v, getElem?_insert_eq.trans (if_pos hk.symm)⟩
    · exact ⟨a, by rw [getElem?_insert_ne hk, ha]⟩
  have he : ∀ {k : ActiveKey} {s' : CoordinatorTask C R E} {r : CommandRecord (CommandTerminal R)} {t},
      s'.token = s.token → s'.active = s.active.erase k → s'.outbox = s.outbox ++ [.update k r] →
      r.state = .terminal t → Accounted key s' := by
    intro k s' r t ht ha ho hte
    by_cases hk : key = k
    · refine fun _ => .inr ⟨.update k r, by simp [ho], ?_⟩
      simp [Sent.ends, hk, hte, CommandRecordState.isTerminal]
    · refine hs.of_sub ht (fun {a} h => ⟨a, ?_⟩) (by simp [ho])
      rw [ha, getElem?_erase_ne hk, h]
  cases h with
  | sent | resetSpawned => exact hs.of_sub rfl (fun h => ⟨_, h⟩) (by simp)
  | stopped => exact hs.of_sub rfl hi (List.Subset.refl _)
  | finished _ _ _ _ _ hte | joined _ _ _ _ _ hte => exact he rfl rfl rfl hte
  | _ => exact hs.of_sub rfl (fun h => ⟨_, h⟩) (List.Subset.refl _)

theorem Begins.accounted (h : Begins s k s') (hs : Accounted key s) : Accounted key s' := by
  cases h
  refine hs.of_sub rfl (fun {a} ha => ?_) (by simp)
  by_cases hk : key = k
  · exact ⟨_, getElem?_insert_eq.trans (if_pos hk.symm)⟩
  · exact ⟨a, by rw [getElem?_insert_ne hk, ha]⟩

theorem Admits.accounted (h : Admits s a s') (hk : a.key ≠ key) (hs : Accounted key s) :
    Accounted key s' := by
  cases h
  exact hs.of_sub rfl (fun {a} ha => ⟨a, by rw [getElem?_insert_ne hk.symm, ha]⟩) (List.Subset.refl _)

theorem Admits.accounted_self (h : Admits s a s') : Accounted a.key s' := by
  cases h
  exact fun _ => .inl ⟨_, getElem?_insert_eq.trans (if_pos rfl)⟩

/-! ## Between two admissions -/

/-- What stays true of a command since its admission, `sent` being what was
sent before the current step. -/
structure Once (key : ActiveKey) (hash : CanonicalCommandHash) (sent : List (Sent C R E))
    (s : CoordinatorTask C R E) : Prop where
  epoch : key.generation.epoch ≤ s.token.epoch
  starts : sent.countP (Sent.starts key) + budget key s ≤ 1
  hash : Hashed key hash s
  ended : (∃ x ∈ sent, x.ends key = true) ∨ Accounted key s

variable {sent : List (Sent C R E)}

theorem Once.move (h : Move o s s') (hs : Once key hash sent s) : Once key hash sent s' := by
  have ht : s'.token = s.token := by cases h <;> rfl
  exact ⟨ht ▸ hs.epoch, (Nat.add_le_add_left h.budget_le _).trans hs.starts, h.hashed hs.hash,
    hs.ended.imp_right h.accounted⟩

theorem Once.rotated (hs : Once key hash sent s) (h : Rotated s s') : Once key hash sent s' where
  epoch := hs.epoch.trans h.epoch.le
  starts := (Nat.add_le_add_left h.budget_le _).trans hs.starts
  hash _ {stored} hk := by
    rw [h.records] at hk
    simp at hk
  ended := .inr fun ht => by
    -- the epoch passed that of the command
    have hlt := Nat.lt_of_le_of_lt hs.epoch h.epoch
    rw [ht] at hlt
    exact absurd hlt (Nat.lt_irrefl _)

theorem Once.effect {a replies} (hc : Coupled s)
    (h : Effect s a replies s') (hno : admits key (a, (s'.answered replies).outbox) = false)
    (hs : Once key hash sent s) : Once key hash sent s' := by
  refine h.keeps hc (fun _ hm ht => ht.move hm) ?_
    (fun hr hs => hs.rotated hr) ?_ ?_ hs
  · intro b r t t' ha hr hct had ht
    subst ha hr
    have hk : b.key ≠ key := by
      simpa [admits, admission_admitted] using hno
    have hto : t'.token = t.token := by cases had; rfl
    exact ⟨hto ▸ ht.epoch, (Nat.add_le_add_left (had.budget_le hk) _).trans ht.starts,
      had.hashed hct hk ht.hash, ht.ended.imp_right (had.accounted hk)⟩
  · intro n k t hb ht
    have hto : t.token = s.token := by cases hb; rfl
    exact ⟨hto ▸ hs.epoch, (Nat.add_le_add_left hb.budget_le _).trans ht.starts, hb.hashed ht.hash,
      ht.ended.imp_right hb.accounted⟩
  · intro ts ar l hs
    exact { hs with }

/-- What a step sent joins what was sent before. -/
theorem Once.replied (hs : Once key hash sent s) {r} :
    Once key hash (sent ++ (s.answered r).outbox) { s.answered r with outbox := [] } where
  __ := hs
  starts := by
    have hr : (r.map Sent.reply : List (Sent C R E)).countP (Sent.starts key) = 0 := by
      simp [List.countP_eq_zero, Sent.starts]
    have hst := hs.starts
    simp only [budget] at hst
    simp only [budget, answered, List.countP_append, hr, List.countP_nil]
    omega
  ended := by
    by_cases he : ∃ x ∈ sent ++ (s.answered r).outbox, x.ends key = true
    · exact .inl he
    refine .inr fun ht => ?_
    obtain ⟨x, hx, hxe⟩ | ha := hs.ended
    · exact absurd ⟨x, List.mem_append_left _ hx, hxe⟩ he
    · obtain hac | ⟨x, hx, hxe⟩ := ha ht
      · exact .inl hac
      · exact absurd ⟨x, List.mem_append_right _ (List.mem_append_left _ hx), hxe⟩ he

/-- **One step of a run in which the command is not admitted again.** -/
theorem Once.step (hc : Coupled s) {a}
    (hno : admits key (a, (s.step a).1) = false) (hs : Once key hash sent { s with outbox := [] }) :
    Once key hash (sent ++ (s.step a).1) { (s.step a).2 with outbox := [] } := by
  obtain ⟨r, s', he, heq⟩ := step_effect hc a
  rw [heq] at hno ⊢
  have hc' : Coupled { s with outbox := [] } := { hc with }
  exact (hs.effect hc' he hno).replied

/-- The admission itself. -/
theorem once_admission (hc : Coupled s) (had : admission (.select (.message (.submit a)),
    (s.step (.select (.message (.submit a)))).1) = some a) :
    Once a.key a.requestHash (s.step (.select (.message (.submit a)))).1
      { (s.step (.select (.message (.submit a)))).2 with outbox := [] } := by
  obtain ⟨r, s', he, heq⟩ := step_effect hc (.select (.message (.submit a)))
  rw [heq] at had ⊢
  have hc' : Coupled { s with outbox := [] } := { hc with }
  obtain ⟨s₁, s₂, -, hm, ha, hm', -⟩ := he.admitted_of (fun x hx => by cases hx) had
  have hc₁ := hc'.moved hm
  have hc₂ := hc₁.admits ha
  have hs : s₂.outbox.countP (Sent.starts a.key) = 0 := by
    have hs₁ := moves_induction (P := fun t => t.outbox.countP (Sent.starts a.key) = 0)
      (fun hm ht => hm.starts_eq.trans ht) hm.moves rfl
    cases ha
    exact hs₁
  have ho : Once a.key a.requestHash [] s₂ :=
    { epoch := by
        obtain @⟨d, rc, l, hop, hsi, hsh, hl, ham⟩ := ha
        have hto := (admitted_refreshed ham).1.token.trans hc₁.ledgerToken
        exact (congrArg GenerationToken.epoch hto).le
      starts := by
        simp only [budget, hs, List.countP_nil, Nat.zero_add]
        exact List.nodup_iff_count_le_one.mp hc₂.queue _
      hash := ha.hashed_self
      ended := .inr ha.accounted_self }
  exact (moves_induction (fun hm ht =>
    ht.move hm) hm'.moves ho).replied

/-! ## Retries -/

/-- The answer to a submission whose command has a record. -/
def retryAnswer (s : CoordinatorTask C R E) (stored : StoredCommand (CommandTerminal R))
    (b : CommandAdmission C) : Except CoordinatorError (CommandSubmission R) :=
  if s.ledger.Exhausted then .error (.ledger .accessCounterExhausted)
  else if stored.record.requestHash ≠ b.requestHash then .error (.ledger .commandIdConflict)
  else .ok ⟨false, stored.record, stored.record⟩

theorem dedupeOrAdmit_retained (hc : Coupled s) {b stored} (deadline)
    (hg : b.generation = s.token) (hs : s.ledger.records[b.key.command]? = some stored)
    (hf : CommandLedger.unexpired s.ledger.limits.terminalTtlMs s.latest stored = true) :
    ∃ ledger, s.dedupeOrAdmit b deadline s.latest = (s.retryAnswer stored b, { s with ledger }) := by
  have ha : s.ledger.Accepts s.latest b.generation := hg ▸ hc.accepts
  have hk : (s.ledger.purged s.latest).records[(⟨b.principal,
    b.commandId⟩ : CommandKey)]? = some stored := by
    rw [CommandLedger.purged_getElem?, show s.ledger.records[(⟨b.principal, b.commandId⟩ : CommandKey)]? =
      some stored from hs]
    simp [hf]
  simp only [dedupeOrAdmit, CommandLedger.lookup_eq ha, hk, retryAnswer]
  by_cases hex : s.ledger.Exhausted
  · have hex' : (s.ledger.purged s.latest).Exhausted := hex
    simp only [if_pos hex', if_pos hex]
    exact ⟨_, rfl⟩
  have hex' : ¬ (s.ledger.purged s.latest).Exhausted := hex
  simp only [if_neg hex', if_neg hex]
  by_cases hh : stored.record.requestHash ≠ b.requestHash
  · simp only [if_pos hh]
    exact ⟨_, rfl⟩
  simp only [if_neg hh]
  cases hac : s.active[b.key]? with
  | none =>
    simp only [hc.terminal_of_inactive hac hg hs, if_true]
    exact ⟨_, rfl⟩
  | some active =>
    -- the watch channel shows the record of the ledger
    obtain ⟨stored', hs', hr⟩ := hc.recorded hac hg
    cases hs.symm.trans hs'
    simp only [(hc.active hac).updates, ← hr]
    exact ⟨_, rfl⟩

theorem run_submit (hp : s.point = .select) (hd : s.shuttingDown = false) (b) :
    s.run (.select (.message (.submit b))) =
      { (s.submitCommand b).2.send (.reply (.submitted (s.submitCommand b).1)) with point := .timers } := by
  have hq : ¬ s.Quiescent := fun h => Bool.false_ne_true (hd.symm.trans h.1)
  simp only [run, if_pos hp, if_neg hq, handleSelected, hd, Bool.false_eq_true, if_false, handleMessage]

/-- **A retry of a retained record is answered with it**, and refused if its
request differs; an overflowing deadline and an exhausted counter come first. -/
theorem step_retry (hc : Coupled s) (hp : s.point = .select) (hd : s.shuttingDown = false)
    {b stored} (hg : b.generation = s.token) (hs : s.ledger.records[b.key.command]? = some stored) :
    (deadlineOf (s.clock.reading s.reads) b.executeWithin = none →
      (s.step (.select (.message (.submit b)))).1 = [.reply (.submitted (.error .deadlineOverflow))]) ∧
    (deadlineOf (s.clock.reading s.reads) b.executeWithin ≠ none →
      CommandLedger.unexpired s.ledger.limits.terminalTtlMs
        (s.nowMillisAt (s.clock.reading s.reads)) stored = true →
      (s.step (.select (.message (.submit b)))).1 = [.reply (.submitted (s.retryAnswer stored b))]) := by
  have hr := run_submit (s := { s with outbox := [] }) hp hd b
  simp only [step, hr, send]
  constructor
  · intro ho
    simp only [submitCommand, instantNow, ho, List.nil_append]
  intro hf hfr
  obtain ⟨deadline, hde⟩ := Option.ne_none_iff_exists'.mp hf
  let t : CoordinatorTask C R E := { s with outbox := [], reads := s.reads + 1 }
  have hct : Coupled t := { hc.clockMove (Nat.le_succ s.reads) with }
  obtain ⟨ledger, heq⟩ := dedupeOrAdmit_retained hct deadline hg hs hfr
  have hsu : ({ s with outbox := [] } : CoordinatorTask C R E).submitCommand b =
      (t.retryAnswer stored b, { t with ledger }) := by
    simp only [submitCommand, instantNow, hde]
    exact heq
  rw [hsu]
  rfl

/-! ## Runs -/

/-- **Exactly-once execution.** Whatever the actor is asked to do, no request
ends with the invariant violation. After a command was admitted, and until it
is admitted again, it is started at most once; as long as its terminal update
was not sent, the generation stands and its record is in the ledger; and while
the record is there a retry is answered from it. -/
theorem exactly_once_execution {settings : CoordinatorSettings} {eventMapper clock}
    {s₀ : CoordinatorTask C R E} (hspawn : spawn settings eventMapper clock = .ok s₀) :
    (∀ steps, ∀ x ∈ outputs (answers step s₀ steps), x.violates = false) ∧
    ∀ (before : List (Step C R E)) (a : CommandAdmission C) (later : List (Step C R E)),
      let start := step (final step s₀ before) (.select (.message (.submit a)))
      let log := answers step start.2 later
      let s := final step start.2 later
      admission (.select (.message (.submit a)), start.1) = some a →
      along step (fun s st => admits a.key (st, (step s st).1) = false) start.2 later →
        (outputs log).countP (Sent.starts a.key) ≤ 1 ∧
        ((∀ x ∈ start.1 ++ outputs log, x.ends a.key = false) → s.token = a.generation →
          ∃ sr, s.ledger.records[a.key.command]? = some sr ∧ sr.record.state.isTerminal = false) ∧
        ∀ sr, s.token = a.generation → s.ledger.records[a.key.command]? = some sr →
          sr.record.requestHash = a.requestHash ∧
          ∀ b : CommandAdmission C, b.key = a.key → s.point = .select → s.shuttingDown = false →
            let an := (step s (.select (.message (.submit b)))).1
            (deadlineOf (s.clock.reading s.reads) b.executeWithin = none →
              an = [.reply (.submitted (.error .deadlineOverflow))]) ∧
            (deadlineOf (s.clock.reading s.reads) b.executeWithin ≠ none →
              CommandLedger.unexpired s.ledger.limits.terminalTtlMs
                (s.nowMillisAt (s.clock.reading s.reads))
                sr = true →
              (s.ledger.Exhausted → an = [.reply (.submitted (.error (.ledger .accessCounterExhausted)))]) ∧
              (¬ s.ledger.Exhausted → b.requestHash = a.requestHash →
                an = [.reply (.submitted (.ok ⟨false, sr.record, sr.record⟩))]) ∧
              (¬ s.ledger.Exhausted → b.requestHash ≠ a.requestHash →
                an = [.reply (.submitted (.error (.ledger .commandIdConflict)))])) := by
  constructor
  · intro steps
    refine (run_induction (P := fun t log => Coupled t ∧ ∀ x ∈ outputs log, x.violates = false)
      ⟨coupled_spawn hspawn, by simp⟩ ?_ steps).2
    rintro t log st ⟨hc, hl⟩
    refine ⟨hc.step st, ?_⟩
    simp only [outputs_append, outputs_singleton, List.mem_append]
    exact fun x hx => hx.elim (hl x) (step_not_violates hc st x)
  intro before a later start log s had hno
  have hc₀ : Coupled (final CoordinatorTask.step s₀ before) :=
    final_induction (coupled_spawn hspawn) (fun _ a hc => hc.step a) before
  obtain ⟨hc, ho⟩ : Coupled s ∧ Once a.key a.requestHash (start.1 ++ outputs log)
    { s with outbox := [] } := by
    refine run_induction_along
      (P := fun t log => Coupled t ∧
        Once a.key a.requestHash (start.1 ++ outputs log) { t with outbox := [] })
      ⟨hc₀.step _, by simpa using once_admission hc₀ had⟩ ?_ later hno
    rintro t log st ⟨hc, ho⟩ hst
    exact ⟨hc.step st, by simpa using ho.step hc hst⟩
  refine ⟨?_, ?_, ?_⟩
  · have hsa := (Nat.le_add_right _ _).trans ho.starts
    rw [List.countP_append] at hsa
    exact (Nat.le_add_left _ _).trans hsa
  · intro hen ht
    obtain ⟨x, hx, he⟩ | ha1 := ho.ended
    · rw [hen x hx] at he
      cases he
    · obtain ⟨ac, hac⟩ | ⟨x, hx, -⟩ := ha1 ht
      · obtain ⟨sr, hs, hr⟩ := hc.recorded hac ht.symm
        exact ⟨sr, hs, hr ▸ (hc.active hac).open⟩
      · cases hx
  · intro sr ht hs
    have hh := ho.hash ht hs
    refine ⟨hh, fun b hb hp hd => ?_⟩
    have hg : b.generation = s.token := (congrArg ActiveKey.generation hb).trans ht.symm
    obtain ⟨hov, hre⟩ := step_retry hc hp hd hg
      (show s.ledger.records[b.key.command]? = some sr from
      hb ▸ hs)
    refine ⟨hov, fun hf hfr => ?_⟩
    have ha := hre hf hfr
    refine ⟨fun hex => ?_, fun hex hsm => ?_, fun hex hdi => ?_⟩
    · rw [ha, retryAnswer, if_pos hex]
    · rw [ha, retryAnswer, if_neg hex, if_neg (not_not.mpr (hh.trans hsm.symm))]
    · rw [ha, retryAnswer, if_neg hex, if_pos (hh.trans_ne hdi.symm)]

/-- A retry after the start gets the record of the running command. -/
theorem retry_reads_running_record : spawn .small (fun _ _ => []) .ticking = .ok small ∧
      let start := step small (.select (.message (.submit .sample)))
      let s := final step start.2 [.advance, .drive, .drive]
      (outputs (answers step start.2 [.advance, .drive, .drive])).countP
        (Sent.starts CommandAdmission.sample.key) ≤ 1 ∧
      ∃ r, r.state = CommandRecordState.running ∧ (step s (.select (.message (.submit .sample)))).1 =
        [.reply (.submitted (.ok ⟨false, r, r⟩))] := by
  obtain ⟨hs, -, hr⟩ := (exactly_once_execution spawn_small).2 [] .sample
    [.advance, .drive, .drive]
    (by decide +kernel) ⟨by decide +kernel, by decide +kernel, by decide +kernel, trivial⟩
  obtain ⟨-, ha⟩ := hr ⟨⟨.operator, ⟨1⟩, .first, .zero, .running, 1, 3⟩, none, 2⟩
    (by decide +kernel)
    (by decide +kernel)
  obtain ⟨-, hf⟩ := ha .sample rfl (by decide +kernel) (by decide +kernel)
  obtain ⟨-, hsa, -⟩ := hf (by decide +kernel) (by decide +kernel)
  exact ⟨spawn_small, hs, _, rfl, hsa (by decide +kernel) rfl⟩

/-- A retry with the same request whose `execute_within` overflows the clock is
not answered with the record, although the record is in the ledger. -/
theorem retry_overflows_deadline : spawn .small (fun _ _ => []) .ticking = .ok small ∧
      let start := step small (.select (.message (.submit .sample)))
      let s := final step start.2 [.advance, .drive, .drive]
      admission (.select (.message (.submit .sample)), start.1) = some .sample ∧
      s.ledger.records[CommandAdmission.sample.key.command]?.map (·.record.requestHash) =
        some CommandAdmission.sample.requestHash ∧
      (step s (.select (.message (.submit { CommandAdmission.sample with executeWithin := some (2 ^ 63 * 10 ^ 9) })))).1 =
        [.reply (.submitted (.error .deadlineOverflow))] :=
  ⟨spawn_small, by decide +kernel, by decide +kernel, by decide +kernel⟩

end Xenoteer.CoordinatorTask
