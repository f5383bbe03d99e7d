/-
Facts about the command ledger. The first part says what each operation
computes once the fence and the clock let it in (`admit_of_some`,
`admit_of_none`, `lookup_eq`, `markRunning_of_accepted`,
`complete_of_open`); `Transition` gathers that into the few things an
operation can do to the records, and `Sound` is the invariant each of them
keeps.
-/
import Xenoteer.Coordinator.Ledger

namespace Xenoteer.CommandLedger

variable {R : Type}

section Computes

variable {l : CommandLedger R} {key k : CommandKey} {now : MonotonicMillis}
  {g : GenerationToken} {p : PrincipalId} {ci : CommandId}
  {rh : CanonicalCommandHash} {s : StoredCommand R}

/-! ## The states an operation goes through -/

/-- The fence and the clock let a call in. -/
structure Accepts (l : CommandLedger R) (now : MonotonicMillis) (generation : GenerationToken) : Prop where
  desktop : generation.desktopId = l.desktopId
  token : generation = l.generation
  clock : ∀ last, l.lastObservedAt = some last → last ≤ now

/-- No access ordinal is left. -/
def Exhausted (l : CommandLedger R) : Prop := u64Max ≤ l.nextAccessOrdinal

instance (l : CommandLedger R) : Decidable l.Exhausted := Nat.decLe _ _

def observed (l : CommandLedger R) (now : MonotonicMillis) : CommandLedger R :=
  { l with lastObservedAt := some now }

def purged (l : CommandLedger R) (now : MonotonicMillis) : CommandLedger R :=
  ((l.observed now).purgeExpiredTerminal now).2

def spend (l : CommandLedger R) : CommandLedger R := { l with nextAccessOrdinal := l.nextAccessOrdinal + 1 }

/-- A record stored with the next access ordinal. -/
def put (l : CommandLedger R) (key : CommandKey) (stored : StoredCommand R) : CommandLedger R :=
  { l.spend with records := l.records.insert key { stored with accessOrdinal := l.nextAccessOrdinal } }

def without (l : CommandLedger R) (key : CommandKey) : CommandLedger R :=
  { l with records := l.records.erase key }

/-- The record an admission creates. -/
def fresh (principal : PrincipalId) (commandId : CommandId) (requestHash : CanonicalCommandHash)
    (now : MonotonicMillis) (generation : GenerationToken) : StoredCommand R :=
  ⟨⟨principal, commandId, generation, requestHash, .accepted, now, now⟩, none, 0⟩

@[simp] theorem purged_getElem? :
    (l.purged now).records[k]? = l.records[k]?.filter (unexpired l.limits.terminalTtlMs now) := by
  simp [purged, observed, purgeExpiredTerminal]

theorem purged_sub (h : (l.purged now).records[k]? = some s) : l.records[k]? = some s := by
  rw [purged_getElem?, Option.filter_eq_some_iff] at h
  exact h.1

@[simp] theorem put_getElem? : (l.put key s).records[k]? =
      if key = k then some { s with accessOrdinal := l.nextAccessOrdinal } else l.records[k]? := by
  simp [put, Std.TreeMap.getElem?_insert, Std.LawfulEqCmp.compare_eq_iff_eq]

@[simp] theorem without_getElem? : (l.without key).records[k]? = if key = k then none else l.records[k]? := by
  simp [without, Std.TreeMap.getElem?_erase, Std.LawfulEqCmp.compare_eq_iff_eq]

@[simp] theorem observed_getElem? : (l.observed now).records[k]? = l.records[k]? := rfl

@[simp] theorem spend_getElem? : l.spend.records[k]? = l.records[k]? := rfl

theorem without_size (h : l.records[key]? = some s) : (l.without key).records.size = l.records.size - 1 := by
  simp [without, Std.TreeMap.size_erase, Std.TreeMap.contains_eq_isSome_getElem?, h]

theorem put_size_of_some {stored'} (h : l.records[key]? = some stored') :
    (l.put key s).records.size = l.records.size := by
  simp [put, Std.TreeMap.size_insert, Std.TreeMap.contains_eq_isSome_getElem?, h]

theorem put_size_le : (l.put key s).records.size ≤ l.records.size + 1 :=
  Std.TreeMap.size_insert_le

/-! ## What each operation computes -/

theorem validateGeneration_of (h : l.Accepts now g) : l.validateGeneration g = .ok () := by
  simp [validateGeneration, h.desktop, ← h.token]

theorem observe_of (h : l.Accepts now g) : l.observe now = .ok (l.observed now) := by
  have hc := h.clock
  cases hl : l.lastObservedAt with
  | none => simp [observe, hl, observed]
  | some ls =>
    have := hc ls hl
    simp only [observe, hl, Option.any_some, decide_eq_true_eq, observed]
    rw [if_neg (Nat.not_lt.mpr this)]

/-- The errors of the fence and of the clock. -/
def Refusal (e : CommandLedgerError) :
    Prop := e = .wrongDesktop ∨ e = .staleGeneration ∨ e = .clockRegressed

/-- A call that is not let in stops at the fence or at the clock. -/
theorem refused_of (h : ¬ l.Accepts now g) : ∃ e, Refusal e ∧ (l.validateGeneration g = .error e ∨
      l.validateGeneration g = .ok () ∧ l.observe now = .error e) := by
  simp only [validateGeneration, observe]
  split
  · exact ⟨_, .inl rfl, .inl rfl⟩
  split
  · exact ⟨_, .inr (.inl rfl), .inl rfl⟩
  refine ⟨_, .inr (.inr rfl), .inr ⟨rfl, ?_⟩⟩
  rw [if_pos]
  by_contra han
  simp_all only [ne_eq, Decidable.not_not]
  refine h ⟨by assumption, rfl, ?_⟩
  intro ls hl
  simpa [hl] using han

theorem refused (h : ¬ l.Accepts now g) : ∃ e, Refusal e ∧
    (∀ p ci rh, l.admitCommand p ci rh now g = (.error e, l)) ∧ (∀ p ci, l.lookup p ci now g = (.error e, l)) ∧
    (∀ p ci, l.markRunning p ci now g = (.error e, l)) ∧ ∀ p ci r, l.complete p ci r now g = (.error e, l) := by
  obtain ⟨e, he, hv | ⟨hv, ho⟩⟩ := refused_of h
  · refine ⟨e, he, ?_, ?_, ?_, ?_⟩ <;> intros <;> simp only [admitCommand, lookup, markRunning, complete, hv]
  · refine ⟨e, he, ?_, ?_, ?_, ?_⟩ <;> intros <;> simp only [admitCommand, lookup, markRunning, complete, hv, ho]

theorem takeAccessOrdinal_eq (l : CommandLedger R) : l.takeAccessOrdinal =
      if l.Exhausted then .error .accessCounterExhausted else .ok (l.nextAccessOrdinal, l.spend) := by
  by_cases h : l.Exhausted
  · have hn : checkedAdd l.nextAccessOrdinal 1 = none := checkedAdd_eq_none.mpr (Nat.lt_succ_of_le h)
    simp only [takeAccessOrdinal, hn, if_pos h]
  · have hs : checkedAdd l.nextAccessOrdinal 1 = some (l.nextAccessOrdinal + 1) :=
      checkedAdd_eq_some.mpr ⟨Nat.lt_of_not_le h, rfl⟩
    simp only [takeAccessOrdinal, hs, if_neg h, spend]

theorem touch_of_some (h : l.records[key]? = some s) (u : StoredCommand R → StoredCommand R) :
    l.touch key u = if l.Exhausted then (.error .accessCounterExhausted, l)
      else (.ok (u s).record, l.put key (u s)) := by
  simp only [touch, takeAccessOrdinal_eq]
  by_cases hex : l.Exhausted
  · simp only [if_pos hex]
  · simp only [if_neg hex, spend_getElem?, h]
    rfl

theorem purge_observed : ((l.observed now).purgeExpiredTerminal now).2 = l.purged now := rfl

section

variable (ha : l.Accepts now g)
include ha

/-- Admission of a key that has a record. -/
theorem admit_of_some (hk : (l.purged now).records[(⟨p, ci⟩ : CommandKey)]? = some s) :
    l.admitCommand p ci rh now g =
      if s.record.requestHash ≠ rh then (.error .commandIdConflict, l.purged now)
      else if (l.purged now).Exhausted then (.error .accessCounterExhausted, l.purged now)
      else (.ok (.existing s.record), (l.purged now).put ⟨p, ci⟩ s) := by
  simp only [admitCommand, validateGeneration_of ha, observe_of ha, purge_observed, hk]
  split
  · rfl
  · rw [touch_of_some hk]
    by_cases hex : (l.purged now).Exhausted <;> simp [hex]

/-- Admission of a key that has none: an ordinal is taken first, then room is
made, so a full ledger of unfinished work costs an ordinal too. -/
theorem admit_of_none (hk : (l.purged now).records[(⟨p, ci⟩ : CommandKey)]? = none) :
    l.admitCommand p ci rh now g =
      if (l.purged now).Exhausted then (.error .accessCounterExhausted, l.purged now)
      else
        let new := fresh p ci rh now g
        if (l.purged now).records.size < l.limits.maximumEntries then
          (.ok (.admitted new.record), (l.purged now).put ⟨p, ci⟩ new)
        else match (l.purged now).lruTerminal with
          | none => (.error .capacityExhausted, (l.purged now).spend)
          | some v =>
            (.ok (.admitted new.record), ((l.purged now).without v).put ⟨p, ci⟩ new) := by
  simp only [admitCommand, validateGeneration_of ha, observe_of ha, purge_observed, hk, takeAccessOrdinal_eq]
  by_cases hex : (l.purged now).Exhausted
  · simp only [if_pos hex]
  simp only [if_neg hex]
  by_cases hf : (l.purged now).records.size < l.limits.maximumEntries
  · have hr : ¬ (l.purged now).spend.limits.maximumEntries ≤ (l.purged now).spend.records.size :=
      Nat.not_le.mpr hf
    rw [if_pos hf, if_neg hr]
    rfl
  · have hr : (l.purged now).spend.limits.maximumEntries ≤ (l.purged now).spend.records.size :=
      Nat.not_lt.mp hf
    have hl : (l.purged now).spend.lruTerminal = (l.purged now).lruTerminal := rfl
    rw [if_neg hf, if_pos hr, evictLruTerminal, hl]
    cases (l.purged now).lruTerminal <;> rfl

theorem lookup_eq : l.lookup p ci now g = match (l.purged now).records[(⟨p, ci⟩ : CommandKey)]? with
      | none => (.ok none, l.purged now)
      | some s =>
        if (l.purged now).Exhausted then (.error .accessCounterExhausted, l.purged now)
        else (.ok (some s.record), (l.purged now).put ⟨p, ci⟩ s) := by
  simp only [lookup, validateGeneration_of ha, observe_of ha, purge_observed, Std.TreeMap.contains_eq_isSome_getElem?]
  cases hk : (l.purged now).records[(⟨p, ci⟩ : CommandKey)]? with
  | none => rfl
  | some s =>
    rw [touch_of_some hk]
    by_cases hex : (l.purged now).Exhausted <;> simp [hex]

theorem markRunning_of_accepted (hk : l.records[(⟨p, ci⟩ : CommandKey)]? = some s)
    (hs : s.record.state = .accepted) : l.markRunning p ci now g =
      if l.Exhausted then (.error .accessCounterExhausted, l.observed now)
      else (.ok (s.begun now).record, (l.observed now).put ⟨p, ci⟩ (s.begun now)) := by
  simp only [markRunning, validateGeneration_of ha, observe_of ha, observed_getElem?, hk, hs]
  rw [touch_of_some (show (l.observed now).records[_]? = some s from hk)]
  rfl

theorem markRunning_of_not (hk : ∀ s, l.records[(⟨p, ci⟩ : CommandKey)]? = some s →
      s.record.state ≠ .accepted) : ∃ e, l.markRunning p ci now g = (.error e, l.observed now) := by
  simp only [markRunning, validateGeneration_of ha, observe_of ha, observed_getElem?]
  split
  · exact ⟨_, rfl⟩
  rename_i ex he
  split
  next hs => exact absurd hs (hk _ he)
  · exact ⟨_, rfl⟩

end

theorem complete_of_open (r : R) (ha : l.Accepts now g) (hk : l.records[(⟨p, ci⟩ : CommandKey)]? = some s)
    (hs : s.record.state.isTerminal = false) : l.complete p ci r now g =
      if l.Exhausted then (.error .accessCounterExhausted, l.observed now)
      else (.ok (s.completed r now).record, (l.observed now).put ⟨p, ci⟩ (s.completed r now)) := by
  simp only [complete, validateGeneration_of ha, observe_of ha, observed_getElem?, hk, hs]
  rw [touch_of_some (show (l.observed now).records[_]? = some s from hk)]
  rfl

theorem complete_of_not {r} (ha : l.Accepts now g) (hk : ∀ s, l.records[(⟨p, ci⟩ : CommandKey)]? = some s →
      s.record.state.isTerminal) : ∃ e, l.complete p ci r now g = (.error e, l.observed now) := by
  simp only [complete, validateGeneration_of ha, observe_of ha, observed_getElem?]
  split
  · exact ⟨_, rfl⟩
  next ex he => simp [hk _ he]

/-! ## The outcomes of a lookup and of an admission -/

/-- A lookup fails at the fence, at the clock or for want of an ordinal, finds
nothing, or finds the record and touches it. -/
theorem lookup_cases (l : CommandLedger R) (p ci now g) :
    (∃ e, Refusal e ∧ l.lookup p ci now g = (.error e, l)) ∨ l.Accepts now g ∧
      (l.lookup p ci now g = (.error .accessCounterExhausted, l.purged now) ∧ (l.purged now).Exhausted ∨
        l.lookup p ci now g = (.ok none, l.purged now) ∧
          (l.purged now).records[(⟨p, ci⟩ : CommandKey)]? = none ∨
        ∃ s, (l.purged now).records[(⟨p, ci⟩ : CommandKey)]? = some s ∧ l.lookup p ci now g =
            (.ok (some s.record), (l.purged now).put ⟨p, ci⟩ s)) := by
  by_cases ha : l.Accepts now g
  · refine .inr ⟨ha, ?_⟩
    rw [lookup_eq ha]
    cases hk : (l.purged now).records[(⟨p, ci⟩ : CommandKey)]? with
    | none => exact .inr (.inl ⟨rfl, rfl⟩)
    | some s =>
      dsimp only
      split
      next hex => exact .inl ⟨rfl, hex⟩
      · exact .inr (.inr ⟨s, rfl, rfl⟩)
  · obtain ⟨e, hr, -, he, -⟩ := refused ha
    exact .inl ⟨e, hr, he p ci⟩

/-- An admission that succeeds for a key without a record stores a fresh one,
on top of a ledger from which at most terminal records left. -/
theorem admit_of_none_cases {rh} (ha : l.Accepts now g)
    (hk : (l.purged now).records[(⟨p, ci⟩ : CommandKey)]? = none) : l.admitCommand p ci rh now g =
        (.error .accessCounterExhausted, l.purged now) ∨ l.admitCommand p ci rh now g =
        (.error .capacityExhausted, (l.purged now).spend) ∨
    ∃ b, (b = l.purged now ∨ ∃ v, (l.purged now).lruTerminal = some v ∧
          b = (l.purged now).without v) ∧ ¬ l.Exhausted ∧
      l.admitCommand p ci rh now g = (.ok (.admitted (fresh p ci rh now g).record),
          b.put ⟨p, ci⟩ (fresh p ci rh now g)) := by
  rw [admit_of_none ha hk]
  split
  · exact .inl rfl
  rename_i hex
  dsimp only
  split
  · exact .inr (.inr ⟨_, .inl rfl, hex, rfl⟩)
  · split
    · exact .inr (.inl rfl)
    next v hv => exact .inr (.inr ⟨_, .inr ⟨v, hv, rfl⟩, hex, rfl⟩)

end Computes

/-! ## Operations and what they can do -/

inductive Op (R : Type) where
  | admitCommand (principal : PrincipalId) (commandId : CommandId) (requestHash : CanonicalCommandHash)
      (now : MonotonicMillis) (generation : GenerationToken)
  | lookup (principal : PrincipalId) (commandId : CommandId) (now : MonotonicMillis)
      (generation : GenerationToken)
  | markRunning (principal : PrincipalId) (commandId : CommandId) (now : MonotonicMillis)
      (generation : GenerationToken)
  | complete (principal : PrincipalId) (commandId : CommandId) (result : R) (now : MonotonicMillis)
      (generation : GenerationToken)
  | rotateGeneration (generation : GenerationToken)

inductive Reply (R : Type) where
  | decision (result : Except CommandLedgerError (IdempotencyDecision R))
  | found (result : Except CommandLedgerError (Option (CommandRecord R)))
  | record (result : Except CommandLedgerError (CommandRecord R))
  | rotated (result : Except CommandLedgerError Nat)

def step (l : CommandLedger R) : Op R → Reply R × CommandLedger R
  | .admitCommand principal commandId requestHash now generation =>
    let (r, l) := l.admitCommand principal commandId requestHash now generation
    (.decision r, l)
  | .lookup principal commandId now generation =>
    let (r, l) := l.lookup principal commandId now generation
    (.found r, l)
  | .markRunning principal commandId now generation =>
    let (r, l) := l.markRunning principal commandId now generation
    (.record r, l)
  | .complete principal commandId result now generation =>
    let (r, l) := l.complete principal commandId result now generation
    (.record r, l)
  | .rotateGeneration generation =>
    let (r, l) := l.rotateGeneration generation
    (.rotated r, l)

/-- The key an answered operation touched: an admission, a lookup that found
its record, or a transition. -/
def touched : Op R × Reply R → Option CommandKey
  | (.admitCommand principal commandId _ _ _, .decision (.ok _)) => some ⟨principal, commandId⟩
  | (.lookup principal commandId _ _, .found (.ok (some _))) => some ⟨principal, commandId⟩
  | (.markRunning principal commandId _ _, .record (.ok _)) => some ⟨principal, commandId⟩
  | (.complete principal commandId _ _ _, .record (.ok _)) => some ⟨principal, commandId⟩
  | _ => none

/-- The key an answered operation created a record for. -/
def created : Op R × Reply R → Option CommandKey
  | (.admitCommand principal commandId _ _ _, .decision (.ok (.admitted _))) => some ⟨principal, commandId⟩
  | _ => none

/-- What one operation can do to the ledger. -/
inductive Transition (l : CommandLedger R) : Op R → Reply R → CommandLedger R → Prop
  | kept {op reply} : touched (op, reply) = none → Transition l op reply l
  | observed {op reply now generation} : l.Accepts now generation → touched (op, reply) = none →
      Transition l op reply (l.observed now)
  | purged {op reply now generation} : l.Accepts now generation → touched (op, reply) = none →
      Transition l op reply (l.purged now)
  | spent {op reply now generation} : l.Accepts now generation → touched (op, reply) = none →
      Transition l op reply (l.purged now).spend
  | read {op reply now generation key stored} : l.Accepts now generation →
      (l.purged now).records[key]? = some stored → touched (op, reply) = some key →
      created (op, reply) = none → Transition l op reply ((l.purged now).put key stored)
  | admitted {principal commandId requestHash now generation} : l.Accepts now generation →
      (l.purged now).records[(⟨principal, commandId⟩ : CommandKey)]? = none →
      (l.purged now).records.size < l.limits.maximumEntries →
      Transition l (.admitCommand principal commandId requestHash now generation)
        (.decision (.ok (.admitted (fresh principal commandId requestHash now generation).record)))
        ((l.purged now).put ⟨principal, commandId⟩ (fresh principal commandId requestHash now generation))
  | evicted {principal commandId requestHash now generation victim} : l.Accepts now generation →
      (l.purged now).records[(⟨principal, commandId⟩ : CommandKey)]? = none →
      l.limits.maximumEntries ≤ (l.purged now).records.size → (l.purged now).lruTerminal = some victim →
      Transition l (.admitCommand principal commandId requestHash now generation)
        (.decision (.ok (.admitted (fresh principal commandId requestHash now generation).record)))
        (((l.purged now).without victim).put ⟨principal, commandId⟩
          (fresh principal commandId requestHash now generation))
  | begun {principal commandId now generation stored} : l.Accepts now generation →
      l.records[(⟨principal, commandId⟩ : CommandKey)]? = some stored → stored.record.state = .accepted →
      Transition l (.markRunning principal commandId now generation)
        (.record (.ok (stored.begun now).record))
        ((l.observed now).put ⟨principal, commandId⟩ (stored.begun now))
  | completed {principal commandId result now generation stored} : l.Accepts now generation →
      l.records[(⟨principal, commandId⟩ : CommandKey)]? = some stored →
      stored.record.state.isTerminal = false →
      Transition l (.complete principal commandId result now generation)
        (.record (.ok (stored.completed result now).record))
        ((l.observed now).put ⟨principal, commandId⟩ (stored.completed result now))
  | rotated {generation} : generation.desktopId = l.desktopId →
      Transition l (.rotateGeneration generation) (.rotated (.ok l.records.size))
        { l with
          records := ∅
          generation := generation
          nextAccessOrdinal := 1
          lastObservedAt := none }

abbrev Answers {α} (l : CommandLedger R) (op : Op R) (reply : α → Reply R) (r : α × CommandLedger R) : Prop :=
  Transition l op (reply r.1) r.2

section

variable (l : CommandLedger R)

theorem admit_transition (p ci rh now g) :
    Answers l (.admitCommand p ci rh now g) .decision (l.admitCommand p ci rh now g) := by
  by_cases ha : l.Accepts now g
  · cases hk : (l.purged now).records[(⟨p, ci⟩ : CommandKey)]? with
    | some s =>
      rw [admit_of_some ha hk]
      split
      · exact .purged ha rfl
      split
      · exact .purged ha rfl
      · exact .read ha hk rfl rfl
    | none =>
      rw [admit_of_none ha hk]
      split
      · exact .purged ha rfl
      dsimp only
      split
      next hr => exact .admitted ha hk hr
      rename_i hf
      split
      · exact .spent ha rfl
      next v hv => exact .evicted ha hk (Nat.not_lt.mp hf) hv
  · obtain ⟨e, -, he, -⟩ := refused ha
    rw [he]
    exact .kept rfl

theorem lookup_transition (p ci now g) : Answers l (.lookup p ci now g) .found (l.lookup p ci now g) := by
  by_cases ha : l.Accepts now g
  · rw [lookup_eq ha]
    split
    · exact .purged ha rfl
    rename_i s hk
    split
    · exact .purged ha rfl
    · exact .read ha hk rfl rfl
  · obtain ⟨e, -, -, he, -⟩ := refused ha
    rw [he]
    exact .kept rfl

theorem markRunning_transition (p ci now g) :
    Answers l (.markRunning p ci now g) .record (l.markRunning p ci now g) := by
  by_cases ha : l.Accepts now g
  · by_cases hk : ∃ s, l.records[(⟨p, ci⟩ : CommandKey)]? = some s ∧ s.record.state = .accepted
    · obtain ⟨s, hk, hs⟩ := hk
      rw [markRunning_of_accepted ha hk hs]
      split
      · exact .observed ha rfl
      · exact .begun ha hk hs
    · push Not at hk
      obtain ⟨e, he⟩ := markRunning_of_not ha hk
      rw [he]
      exact .observed ha rfl
  · obtain ⟨e, -, -, -, he, -⟩ := refused ha
    rw [he]
    exact .kept rfl

theorem complete_transition (p ci result now g) :
    Answers l (.complete p ci result now g) .record (l.complete p ci result now g) := by
  by_cases ha : l.Accepts now g
  · by_cases hk : ∃ s, l.records[(⟨p, ci⟩ : CommandKey)]? = some s ∧ s.record.state.isTerminal = false
    · obtain ⟨s, hk, hs⟩ := hk
      rw [complete_of_open result ha hk hs]
      split
      · exact .observed ha rfl
      · exact .completed ha hk hs
    · push Not at hk
      obtain ⟨e, he⟩ := complete_of_not ha (by simpa using hk)
      rw [he]
      exact .observed ha rfl
  · obtain ⟨e, -, -, -, -, he⟩ := refused ha
    rw [he]
    exact .kept rfl

theorem rotateGeneration_transition (g) :
    Answers l (.rotateGeneration g) .rotated (l.rotateGeneration g) := by
  simp only [rotateGeneration]
  split
  · exact .kept rfl
  rename_i hd
  split
  · exact .kept rfl
  · exact .rotated (by simpa using hd)

theorem step_transition (op : Op R) : Transition l op (step l op).1 (step l op).2 := by
  cases op with
  | admitCommand => exact admit_transition l ..
  | lookup => exact lookup_transition l ..
  | markRunning => exact markRunning_transition l ..
  | complete => exact complete_transition l ..
  | rotateGeneration => exact rotateGeneration_transition l ..

end

/-! ## Sound ledgers -/

/-- A stored record belongs to its key and to the ledger's generation, and
carries a completion time, not after the last time seen, exactly when it is
terminal. -/
structure SoundRecord (l : CommandLedger R) (key : CommandKey) (stored : StoredCommand R) : Prop where
  principal : stored.record.principal = key.principal
  commandId : stored.record.commandId = key.commandId
  generation : stored.record.generation = l.generation
  unfinished : stored.record.state.isTerminal = false → stored.terminalAt = none
  finished : stored.record.state.isTerminal → ∃ completedAt, stored.terminalAt = some completedAt
  past : ∀ completedAt, stored.terminalAt = some completedAt →
    ∃ last, l.lastObservedAt = some last ∧ completedAt ≤ last

structure Sound (l : CommandLedger R) : Prop where
  desktop : l.generation.desktopId = l.desktopId
  bounded : l.records.size ≤ l.limits.maximumEntries
  record : ∀ {key stored}, l.records[key]? = some stored → SoundRecord l key stored

section Sound

variable {l : CommandLedger R} {now : MonotonicMillis} {g : GenerationToken}

theorem SoundRecord.observed {key s} (ha : l.Accepts now g) (h : SoundRecord l key s) :
    SoundRecord (l.observed now) key s :=
  { h with
    past := fun c hc =>
      have ⟨last, hl, hle⟩ := h.past c hc
      ⟨now, rfl, hle.trans (ha.clock last hl)⟩ }

theorem Sound.observed (ha : l.Accepts now g) (h : Sound l) : Sound (l.observed now) :=
  ⟨h.desktop, h.bounded, fun hk => (h.record hk).observed ha⟩

theorem Sound.purged (ha : l.Accepts now g) (h : Sound l) : Sound (l.purged now) where
  desktop := h.desktop
  bounded := Std.TreeMap.size_filter_le_size.trans h.bounded
  record hk := { (h.record (purged_sub hk)).observed ha with }

theorem Sound.spend (h : Sound l) : Sound l.spend :=
  ⟨h.desktop, h.bounded, fun hk => { h.record hk with }⟩

theorem Sound.without {key} (h : Sound l) : Sound (l.without key) where
  desktop := h.desktop
  bounded := Std.TreeMap.size_erase_le.trans h.bounded
  record {k s} hk := by
    rw [without_getElem?] at hk
    split at hk
    · cases hk
    · exact { h.record hk with }

theorem Sound.put {key s} (h : Sound l) (hs : SoundRecord l key s)
    (hr : (l.put key s).records.size ≤ l.limits.maximumEntries) : Sound (l.put key s) where
  desktop := h.desktop
  bounded := hr
  record {k stored'} hk := by
    rw [put_getElem?] at hk
    split at hk
    next hke =>
      cases hk
      subst hke
      exact { hs with }
    · exact { h.record hk with }

theorem SoundRecord.fresh {p ci rh} (hg : g = l.generation) :
    SoundRecord l ⟨p, ci⟩ (fresh p ci rh now g) where
  principal := rfl
  commandId := rfl
  generation := hg
  unfinished _ := rfl
  finished h := by cases h
  past c hc := by cases hc

theorem SoundRecord.begun {key s} (h : SoundRecord l key s) (hs : s.record.state = .accepted) :
    SoundRecord l key (s.begun now) :=
  { h with
    unfinished := fun _ => h.unfinished (by rw [hs]; rfl)
    finished := fun ht => by cases ht }

theorem SoundRecord.completed {key s result} (h : SoundRecord l key s)
    (hn : l.lastObservedAt = some now) : SoundRecord l key (s.completed result now) :=
  { h with
    unfinished := nofun
    finished := fun _ => ⟨now, rfl⟩
    past := fun c hc => by
      cases hc
      exact ⟨now, hn, le_rfl⟩ }

/-- The evicted record is terminal, and no terminal record has a smaller ordinal. -/
theorem lruTerminal_some {v} (h : l.lruTerminal = some v) :
    ∃ s, l.records[v]? = some s ∧ s.record.state.isTerminal ∧
      ∀ (k : CommandKey) st', l.records[k]? = some st' → st'.record.state.isTerminal →
        s.accessOrdinal ≤ st'.accessOrdinal := by
  simp only [lruTerminal, Option.map_eq_some_iff] at h
  obtain ⟨⟨key, s⟩, hmi, rfl⟩ := h
  have hm := List.argmin_mem hmi
  rw [List.mem_filter, Std.TreeMap.mem_toList_iff_getElem?_eq_some] at hm
  refine ⟨s, hm.1, hm.2, ?_⟩
  intro k st' hk ht
  refine List.le_of_mem_argmin (a := (k, st')) ?_ hmi
  rw [List.mem_filter, Std.TreeMap.mem_toList_iff_getElem?_eq_some]
  exact ⟨hk, ht⟩

theorem Sound.transition {l' op reply} (h : Sound l) (ht : Transition l op reply l') : Sound l' := by
  cases ht with
  | kept => exact h
  | observed ha => exact h.observed ha
  | purged ha => exact h.purged ha
  | spent ha => exact (h.purged ha).spend
  | read ha hk =>
    have hp := h.purged ha
    exact hp.put (hp.record hk) ((put_size_of_some hk).trans_le hp.bounded)
  | admitted ha hk hr =>
    exact (h.purged ha).put (.fresh ha.token) (put_size_le.trans hr)
  | evicted ha hk hf hv =>
    -- one record less makes room for the new one
    obtain ⟨s, hst, -⟩ := lruTerminal_some hv
    refine (h.purged ha).without.put (.fresh ha.token) (put_size_le.trans ?_)
    rw [without_size hst]
    have hb := (h.purged ha).bounded
    have hpo := l.limits.entries_pos
    change _ ≤ l.limits.maximumEntries at hb ⊢
    omega
  | begun ha hk hs =>
    have ho := h.observed ha
    exact ho.put ((ho.record hk).begun hs) ((put_size_of_some hk).trans_le ho.bounded)
  | completed ha hk =>
    have ho := h.observed ha
    exact ho.put ((ho.record hk).completed rfl) ((put_size_of_some hk).trans_le ho.bounded)
  | rotated hd =>
    exact ⟨hd, Nat.zero_le _, fun hk => by simp at hk⟩

theorem sound_new {desktopId limits} (h : CommandLedger.new desktopId g limits = .ok l) : Sound l := by
  simp only [CommandLedger.new] at h
  split at h
  · cases h
  next hd =>
    cases h
    exact ⟨by simpa using hd, Nat.zero_le _, fun hk => by simp at hk⟩

end Sound

end Xenoteer.CommandLedger
