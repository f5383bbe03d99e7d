/-
The retention law of the command ledger over whole runs: what becomes of
one record under one operation (`Transition.fate`), and from it, by
induction over the operations, how long a record is kept and read back.
Recency is the order of the access ordinals (`Ordered`).
-/
import Xenoteer.Coordinator.LedgerFacts
import Xenoteer.Lib.Recency
import Xenoteer.Lib.Run

namespace Xenoteer.CommandLedger

open Lib.Run Lib.Recency

variable {R : Type}

/-! ## Access ordinals and touches -/

/-- The touched keys of a run, latest first. -/
def touches (log : List (Op R × Reply R)) : List CommandKey := (log.filterMap touched).reverse

/-- The access ordinals order the records by their last touch. -/
def Ordered (l : CommandLedger R) (touches : List CommandKey) : Prop :=
  Stamped (fun k => l.records[k]?.map (·.accessOrdinal)) l.nextAccessOrdinal touches

namespace Ordered

variable {l l' : CommandLedger R} {ts : List CommandKey}

variable (h : Ordered l ts)

include h

theorem forget
    (hsu : ∀ {k : CommandKey} {st}, l'.records[k]? = some st → l.records[k]? = some st)
    (hn : l.nextAccessOrdinal ≤ l'.nextAccessOrdinal) : Ordered l' ts := by
  refine Stamped.forget h ?_ hn
  intro k n hk
  simp only [Option.map_eq_some_iff] at hk ⊢
  obtain ⟨st, hs, rfl⟩ := hk
  exact ⟨st, hsu hs, rfl⟩

theorem purged {now} : Ordered (l.purged now) ts :=
  h.forget purged_sub le_rfl

theorem without {key} : Ordered (l.without key) ts :=
  h.forget (fun hk => by
    rw [without_getElem?] at hk
    split at hk
    · cases hk
    · exact hk) le_rfl

theorem put {key st} : Ordered (l.put key st) (key :: ts) := by
  refine Stamped.touch h ?_ ?_
  · simp
  · intro k hk
    simp [Ne.symm hk]

theorem transition {op rp} (ht : Transition l op rp l') :
    Ordered l' ((touched (op, rp)).toList ++ ts) := by
  cases ht with
  | kept hn | observed _ hn => rw [hn]; exact h
  | purged _ hn => rw [hn]; exact h.purged
  | spent _ hn => rw [hn]; exact h.purged.forget (fun hk => hk) (Nat.le_succ _)
  | read _ _ hke => rw [hke]; exact h.purged.put
  | admitted => exact h.purged.put
  | evicted => exact h.purged.without.put
  | begun | completed => exact Ordered.put h
  | rotated => exact Stamped.empty fun k => by simp

end Ordered

/-! ## What becomes of one record -/

/-- The transitions of a command record's state. -/
inductive Advances : CommandRecordState R → CommandRecordState R → Prop
  | stay (s) : Advances s s
  | begin : Advances .accepted .running
  | reject (result) : Advances .accepted (.terminal result)
  | finish (result) : Advances .running (.terminal result)

/-- The record is still there after the operation, moved on or as it was; a
terminal one is untouched but for its access ordinal. -/
structure Survives (stored : StoredCommand R) (op : Op R) (reply : Reply R) (l' : CommandLedger R)
    (key : CommandKey) : Prop where
  not_created : created (op, reply) ≠ some key
  record : ∃ stored', l'.records[key]? = some stored' ∧ Advances stored.record.state stored'.record.state ∧
    (stored.record.state.isTerminal →
      stored'.record = stored.record ∧ stored'.terminalAt = stored.terminalAt)

/-- The record of `key` was taken out, be it that a new one took its place. -/
def Gone (op : Op R) (reply : Reply R) (l' : CommandLedger R) (key : CommandKey) : Prop :=
  l'.records[key]? = none ∨ created (op, reply) = some key

def Removes (l : CommandLedger R) (op : Op R) (key : CommandKey) : Prop :=
  Gone op (step l op).1 (step l op).2 key

def Rotates (l : CommandLedger R) (op : Op R) : Prop :=
  ∃ generation n, op = .rotateGeneration generation ∧ (step l op).1 = .rotated (.ok n)

/-- An admission of a new key at `now` that finds no room. -/
def FindsFull (l : CommandLedger R) (op : Op R) (now : MonotonicMillis) : Prop :=
  ∃ principal commandId requestHash generation,
    op = .admitCommand principal commandId requestHash now generation ∧
    (l.purged now).records[(⟨principal, commandId⟩ : CommandKey)]? = none ∧
    l.limits.maximumEntries ≤ (l.purged now).records.size

/-- The record's TTL was over at the time the ledger last saw. -/
def Expired (stored : StoredCommand R) (l' : CommandLedger R) : Prop :=
  ∃ completedAt now, stored.terminalAt = some completedAt ∧ l'.lastObservedAt = some now ∧
    l'.limits.terminalTtlMs ≤ now - completedAt

section Fate

variable {l l' : CommandLedger R} {op : Op R} {rp : Reply R} {k key : CommandKey}
  {st st' : StoredCommand R}

theorem Survives.same (hc : created (op, rp) ≠ some k) (hk : l'.records[k]? = some st')
    (hr : st'.record = st.record) (ht : st'.terminalAt = st.terminalAt) : Survives st op rp l' k :=
  ⟨hc, st', hk, hr ▸ .stay _, fun _ => ⟨hr, ht⟩⟩

theorem not_created_of_not_touched (h : touched (op, rp) = none) : created (op, rp) ≠ some k := by
  intro hc
  unfold created at hc
  split at hc
  · simp_all [touched]
  · cases hc

theorem purged_cases {now} (hk : l.records[k]? = some st) :
    (l.purged now).records[k]? = some st ∨ (l.purged now).records[k]? = none ∧
        ∃ ca, st.terminalAt = some ca ∧ l.limits.terminalTtlMs ≤ now - ca := by
  rw [purged_getElem?, hk, Option.filter_some]
  split
  · exact .inl rfl
  rename_i he
  refine .inr ⟨rfl, ?_⟩
  simp only [unexpired] at he
  split at he
  · simp at he
  rename_i ca hc
  split at he
  · simp at he
  next age ha =>
    obtain ⟨-, rfl⟩ : _ ∧ _ := by simpa [checkedSub] using ha
    exact ⟨ca, hc, by simpa using he⟩

/-- Storing a record under another key, or the same record again, keeps it. -/
theorem Survives.put (hk : l'.records[k]? = some st) (hc : created (op, rp) ≠ some k)
    (hp : key = k → st'.record = st.record ∧ st'.terminalAt = st.terminalAt) :
    Survives st op rp (l'.put key st') k := by
  by_cases hke : key = k
  · obtain ⟨hr, ht⟩ := hp hke
    refine .same hc (put_getElem?.trans (if_pos hke)) hr ht
  · exact .same hc (by rw [put_getElem?, if_neg hke, hk]) rfl rfl

section

variable (ht : Transition l op rp l')
include ht

/-- **What an operation does to a record.** It survives, or it is gone
because its TTL was over, because it was the victim of an admission that
found the ledger full, or because the ledger moved to a new generation. -/
theorem Transition.fate (hk : l.records[k]? = some st) :
    Survives st op rp l' k ∨ Gone op rp l' k ∧ (Expired st l' ∨
      (∃ now, FindsFull l op now ∧ (l.purged now).lruTerminal = some k) ∨
      ∃ g n, op = .rotateGeneration g ∧ rp = .rotated (.ok n)) := by
  cases ht with
  | kept hn | observed _ hn => exact .inl (.same (not_created_of_not_touched hn) hk rfl rfl)
  | @purged op rp now _ _ hn | @spent op rp now _ _ hn =>
    obtain hp | ⟨hp, c, hc, ha⟩ := purged_cases hk
    · exact .inl (.same (not_created_of_not_touched hn) hp rfl rfl)
    · exact .inr ⟨.inl hp, .inl ⟨c, now, hc, rfl, ha⟩⟩
  | @read op rp now _ key st' _ hke hn hcr =>
    obtain hp | ⟨hp, c, hc, ha⟩ := purged_cases hk
    · refine .inl (.put hp (by simp [hcr]) ?_)
      rintro rfl
      rw [hke] at hp
      cases hp
      exact ⟨rfl, rfl⟩
    · have hne : key ≠ k := by
        rintro rfl
        rw [hke] at hp
        cases hp
      refine .inr ⟨.inl ?_, .inl ⟨c, now, hc, rfl, ha⟩⟩
      rw [put_getElem?, if_neg hne, hp]
  | @admitted p ci rh now g _ hnw _ =>
    obtain hp | ⟨hp, c, hc, ha⟩ := purged_cases hk
    · have hne : ⟨p, ci⟩ ≠ k := by
        rintro rfl
        rw [hnw] at hp
        cases hp
      exact .inl (.put hp (fun hcr => hne (by simpa [created] using hcr)) fun hke => absurd hke hne)
    · refine .inr ⟨?_, .inl ⟨c, now, hc, rfl, ha⟩⟩
      by_cases hne : ⟨p, ci⟩ = k
      · exact .inr (by simp [created, hne])
      · exact .inl (by rw [put_getElem?, if_neg hne, hp])
  | @evicted p ci rh now g v _ hnw hf hv =>
    obtain hp | ⟨hp, c, hc, ha⟩ := purged_cases hk
    · have hne : ⟨p, ci⟩ ≠ k := by
        rintro rfl
        rw [hnw] at hp
        cases hp
      by_cases hvk : v = k
      · refine .inr ⟨.inl ?_, .inr (.inl ⟨now, ⟨_, _, _, _, rfl, hnw, hf⟩, hvk ▸ hv⟩)⟩
        rw [put_getElem?, if_neg hne, without_getElem?, if_pos hvk]
      · refine .inl (.put ?_ (fun hcr => hne (by simpa [created] using hcr)) fun hke => absurd hke hne)
        rw [without_getElem?, if_neg hvk, hp]
    · refine .inr ⟨?_, .inl ⟨c, now, hc, rfl, ha⟩⟩
      by_cases hne : ⟨p, ci⟩ = k
      · exact .inr (by simp [created, hne])
      · exact .inl (by rw [put_getElem?, if_neg hne, without_getElem?, hp, ite_self])
  | @begun p ci now _ st' _ hke hs =>
    by_cases hkk : ⟨p, ci⟩ = k
    · subst hkk
      rw [hk] at hke
      cases hke
      refine .inl ⟨by simp [created], _, by rw [put_getElem?, if_pos rfl], ?_, ?_⟩
      · rw [hs]
        exact .begin
      · simp [hs, CommandRecordState.isTerminal]
    · exact .inl (.put hk (by simp [created]) fun h => absurd h hkk)
  | @completed p ci r now _ st' _ hke hs =>
    by_cases hkk : ⟨p, ci⟩ = k
    · subst hkk
      rw [hk] at hke
      cases hke
      refine .inl ⟨by simp [created], _, by rw [put_getElem?, if_pos rfl], ?_, by simp [hs]⟩
      cases hst : st.record.state with
      | accepted => exact .reject _
      | running => exact .finish _
      | terminal => simp [hst, CommandRecordState.isTerminal] at hs
    · exact .inl (.put hk (by simp [created]) fun h => absurd h hkk)
  | rotated => exact .inr ⟨.inl (by simp), .inr (.inr ⟨_, _, rfl, rfl⟩)⟩

/-- A record that was not there is a fresh one. -/
theorem Transition.new_record (hk : l.records[k]? = none)
    (hk' : l'.records[k]? = some st) : st.record.state = .accepted := by
  have hp : ∀ now, (l.purged now).records[k]? = none := by simp [hk]
  cases ht with
  | kept | observed | purged | spent => simp [hk] at hk'
  | read _ hke =>
    rw [put_getElem?, hp] at hk'
    split at hk'
    next h => subst h; rw [hp] at hke; cases hke
    · cases hk'
  | admitted =>
    rw [put_getElem?, hp] at hk'
    split at hk'
    · cases hk'; rfl
    · cases hk'
  | evicted =>
    rw [put_getElem?, without_getElem?, hp, ite_self] at hk'
    split at hk'
    · cases hk'; rfl
    · cases hk'
  | begun _ hke | completed _ hke =>
    rw [put_getElem?, observed_getElem?, hk] at hk'
    split at hk'
    next h => subst h; rw [hk] at hke; cases hke
    · cases hk'
  | rotated => simp at hk'

theorem Transition.limits : l'.limits = l.limits := by
  cases ht <;> rfl

/-- Within a generation the clock does not go back. -/
theorem Transition.clock {seen} (hs : l.lastObservedAt = some seen) :
    (∃ s', l'.lastObservedAt = some s' ∧ seen ≤ s') ∨
      ∃ g n, op = .rotateGeneration g ∧ rp = .rotated (.ok n) := by
  cases ht with
  | kept => exact .inl ⟨seen, hs, le_rfl⟩
  | rotated => exact .inr ⟨_, _, rfl, rfl⟩
  | observed ha | purged ha | spent ha | read ha | admitted ha | evicted ha | begun ha | completed ha =>
    exact .inl ⟨_, rfl, ha.clock seen hs⟩

end

theorem Survives.not_gone (h : Survives st op rp l' k) : ¬ Gone op rp l' k := by
  obtain ⟨st', hk', -⟩ := h.record
  rintro (hn | hcr)
  · rw [hk'] at hn
    cases hn
  · exact h.not_created hcr

theorem survives_of_not_removes (hk : l.records[k]? = some st) (hr : ¬ Removes l op k) :
    Survives st op (step l op).1 (step l op).2 k :=
  ((step_transition l op).fate hk).resolve_right fun h => hr h.1

/-- What removes a record: a rotation, or, of a terminal one, its TTL or an
admission that found the ledger full. -/
theorem Sound.removes (hs : Sound l) (hk : l.records[k]? = some st) (hr : Removes l op k) :
    Rotates l op ∨ st.record.state.isTerminal ∧ (Expired st (step l op).2 ∨
      ∃ now, FindsFull l op now ∧ (l.purged now).lruTerminal = some k) := by
  obtain hsu | ⟨-, ⟨c, now, hc, he⟩ | ⟨now, hf, hv⟩ | hro⟩ := (step_transition l op).fate hk
  · exact absurd hr hsu.not_gone
  · refine .inr ⟨?_, .inl ⟨c, now, hc, he⟩⟩
    by_contra ho
    have := (hs.record hk).unfinished (by simpa using ho)
    rw [hc] at this
    cases this
  · obtain ⟨st', hk', hte, -⟩ := lruTerminal_some hv
    cases hk.symm.trans (purged_sub hk')
    exact .inr ⟨hte, .inr ⟨now, hf, hv⟩⟩
  · exact .inl hro

/-- The victim's last touch is older than that of every other terminal record. -/
theorem Ordered.victim {ts now victim} (h : Ordered l ts) (hv : (l.purged now).lruTerminal = some victim) {k'}
    (hk' : (l.purged now).records[k']? = some st') (ht : st'.record.state.isTerminal)
    (hne : k' ≠ victim) : Older ts victim k' := by
  obtain ⟨st, hk, -, hm⟩ := lruTerminal_some hv
  have hp : Ordered (l.purged now) ts := h.purged
  refine hp.older_of_le ?_ ?_
    (hm k' _ hk' ht) hne.symm
  · simp [hk]
  · simp [hk']

end Fate

/-! ## Whole runs -/

/-- An accepted read of `key` returned `record`. -/
def ReadsAs (key : CommandKey) (record : CommandRecord R) : Op R × Reply R → Prop
  | (.lookup principal commandId _ _, .found (.ok found)) => key = ⟨principal, commandId⟩ →
      found = some record
  | (.admitCommand principal commandId _ _ _, .decision (.ok decision)) =>
    key = ⟨principal, commandId⟩ → decision = .existing record
  | _ => True

section Runs

variable {l : CommandLedger R} {k : CommandKey} {st : StoredCommand R}

variable {l₀ : CommandLedger R}

theorem sound_final (h : Sound l₀) {ops} : Sound (final step l₀ ops) :=
  final_induction h (fun l op hl => hl.transition (step_transition l op)) ops

variable {desktopId : DesktopId} {token : GenerationToken} {limits : CommandLedgerLimits}

theorem final_limits (l : CommandLedger R) (ops : List (Op R)) : (final step l ops).limits = l.limits :=
  final_induction (P := fun l' => l'.limits = l.limits) rfl
    (fun l' op hl => (step_transition l' op).limits.trans hl) ops

theorem ordered_final (h : Ordered l₀ []) {ops} :
    Ordered (final step l₀ ops) (touches (answers step l₀ ops)) := by
  refine run_induction (P := fun l log => Ordered l (touches log)) h ?_ ops
  intro l log op hl
  have := hl.transition (step_transition l op)
  cases ht : touched (op, (step l op).1) <;> simpa [touches, ht] using this

theorem readsAs_of_not_removes {op} (hk : l.records[k]? = some st) (hr : ¬ Removes l op k) :
    ReadsAs k st.record (op, (step l op).1) := by
  unfold ReadsAs
  split
  next p ci now g f heq =>
    obtain ⟨rfl, hre⟩ := Prod.mk.inj heq
    rintro rfl
    by_cases ha : l.Accepts now g
    · simp only [step, lookup_eq ha] at hre
      split at hre
      next hn =>
        -- nothing was found, so the purge at `now` took the record out
        exact absurd (.inl (by simp only [step, lookup_eq ha, hn])) hr
      next st' hs =>
        cases hk.symm.trans (purged_sub hs)
        split at hre
        · cases hre
        · cases hre; rfl
    · obtain ⟨e, -, -, he, -⟩ := refused ha
      simp [step, he] at hre
  next p ci rh now g d heq =>
    obtain ⟨rfl, hre⟩ := Prod.mk.inj heq
    rintro rfl
    cases d with
    | admitted r => exact absurd (.inr (by rw [hre]; rfl)) hr
    | existing r =>
      by_cases ha : l.Accepts now g
      · cases hs : (l.purged now).records[(⟨p, ci⟩ : CommandKey)]? with
        | none =>
          simp only [step, admit_of_none ha hs] at hre
          split at hre
          · cases hre
          split at hre
          · cases hre
          split at hre <;> cases hre
        | some st' =>
          cases hk.symm.trans (purged_sub hs)
          simp only [step, admit_of_some ha hs] at hre
          split at hre
          · cases hre
          split at hre
          · cases hre
          · cases hre; rfl
      · obtain ⟨e, -, he, -⟩ := refused ha
        simp [step, he] at hre
  · trivial

/-- A terminal record stays as it is, and every read returns it, until it is removed. -/
theorem terminal_persists (hk : l.records[k]? = some st) (ht : st.record.state.isTerminal)
    {m} (hr : along step (fun l op => ¬ Removes l op k) l m) :
    (∃ st', (final step l m).records[k]? = some st' ∧ st'.record = st.record) ∧
      ∀ a ∈ answers step l m, ReadsAs k st.record a := by
  refine run_induction_along
    (P := fun l log => (∃ st', l.records[k]? = some st' ∧ st'.record = st.record) ∧
      ∀ a ∈ log, ReadsAs k st.record a) ⟨⟨st, hk, rfl⟩, by simp⟩ ?_ m hr
  rintro l log op ⟨⟨st', hk', heq⟩, hl⟩ hr
  refine ⟨?_, ?_⟩
  · obtain ⟨s'', hk'', -, hs⟩ := (survives_of_not_removes hk' hr).record
    exact ⟨s'', hk'', (hs (heq ▸ ht)).1.trans heq⟩
  · intro a ha
    rcases List.mem_append.mp ha with ha | ha
    · exact hl a ha
    · rw [List.mem_singleton.mp ha, ← heq]
      exact readsAs_of_not_removes hk' hr

/-- While the ledger is neither rotated nor full, a completed record is there
or its TTL is over. -/
theorem completed_persists {ca} (hk : l.records[k]? = some st)
    (ht : st.record.state.isTerminal) (hc : st.terminalAt = some ca) {m}
    (hm : along step (fun l op => ¬ Rotates l op ∧ ∀ now, FindsFull l op now → ¬ Removes l op k) l m) :
    (∃ st', (final step l m).records[k]? = some st' ∧ st'.record = st.record ∧ st'.terminalAt = some ca) ∨
      ∃ s, (final step l m).lastObservedAt = some s ∧ l.limits.terminalTtlMs ≤ s - ca := by
  refine (run_induction_along
    (P := fun l' _ => l'.limits = l.limits ∧ ((∃ st', l'.records[k]? = some st' ∧ st'.record = st.record ∧
          st'.terminalAt = some ca) ∨
        ∃ s, l'.lastObservedAt = some s ∧ l.limits.terminalTtlMs ≤ s - ca))
    ⟨rfl, .inl ⟨st, hk, rfl, hc⟩⟩ ?_ m hm).2
  rintro l' - op ⟨hl, ⟨st', hk', heq, hc'⟩ | ⟨s, hs, ha⟩⟩ ⟨hn, hno⟩
  all_goals
    have hst := step_transition l' op
    have hl' := hst.limits.trans hl
    refine ⟨hl', ?_⟩
  · obtain hsu | ⟨hg, he | ⟨now, hf, -⟩ | hro⟩ := hst.fate hk'
    · obtain ⟨sr'', hk'', -, hsa⟩ := hsu.record
      obtain ⟨hr, ht'⟩ := hsa (heq ▸ ht)
      exact .inl ⟨sr'', hk'', hr.trans heq, ht'.trans hc'⟩
    · obtain ⟨c, now, hcc, hnw, ha⟩ := he
      rw [hc'] at hcc
      cases hcc
      exact .inr ⟨now, hnw, hl' ▸ ha⟩
    · exact absurd hg (hno now hf)
    · exact absurd hro hn
  · obtain ⟨s', hs', hle⟩ | hro := hst.clock hs
    · exact .inr ⟨s', hs', ha.trans (Nat.sub_le_sub_right hle _)⟩
    · exact absurd hro hn

/-- A record whose TTL is not over at `now` is read by a lookup and by an
admission with its request hash. -/
theorem reads_of_unexpired {p ci ca now} (hs : Sound l) (hk : l.records[(⟨p, ci⟩ : CommandKey)]? = some st)
    (hc : st.terminalAt = some ca) (hcl : ∀ s, l.lastObservedAt = some s → s ≤ now)
    (hag : now - ca < l.limits.terminalTtlMs) (hex : ¬ l.Exhausted) :
    (l.lookup p ci now l.generation).1 = .ok (some st.record) ∧
      (l.admitCommand p ci st.record.requestHash now l.generation).1 = .ok (.existing st.record) := by
  have ha : l.Accepts now l.generation := ⟨hs.desktop, rfl, hcl⟩
  have hke : (l.purged now).records[(⟨p, ci⟩ : CommandKey)]? = some st := by
    obtain hp | ⟨-, c, hcc, hold⟩ := purged_cases hk
    · exact hp
    · rw [hc] at hcc
      cases hcc
      exact absurd hag (Nat.not_lt.mpr hold)
  have hex' : ¬ (l.purged now).Exhausted := hex
  rw [lookup_eq ha, admit_of_some ha hke, hke]
  simp [hex']

theorem complete_ok {principal commandId result completedAt generation record}
    (h : (l.complete principal commandId result completedAt generation).1 = .ok record) :
    record.state = .terminal result ∧
      ∃ st, (l.complete principal commandId result completedAt generation).2.records[
          (⟨principal, commandId⟩ : CommandKey)]? = some st ∧
        st.record = record ∧ st.terminalAt = some completedAt := by
  by_cases ha : l.Accepts completedAt generation
  · by_cases hk : ∃ st, l.records[(⟨principal, commandId⟩ : CommandKey)]? = some st ∧
        st.record.state.isTerminal = false
    · obtain ⟨st, hk, hs⟩ := hk
      rw [complete_of_open result ha hk hs] at h ⊢
      split at h
      · cases h
      rename_i hex
      cases h
      rw [if_neg hex]
      exact ⟨rfl, _, put_getElem?.trans (if_pos rfl), rfl, rfl⟩
    · push Not at hk
      obtain ⟨e, he⟩ := complete_of_not ha (by simpa using hk)
      rw [he] at h
      cases h
  · obtain ⟨e, -, -, -, -, he⟩ := refused ha
    simp [he] at h

theorem complete_limits (l : CommandLedger R) (principal commandId result now generation) :
    (l.complete principal commandId result now generation).2.limits = l.limits :=
  (complete_transition l principal commandId result now generation).limits

/-- **The retention law.** In every run: the records are bounded in number
and their access ordinals distinct; what removes a record is a rotation or,
of a terminal one only, the end of its TTL or an admission of a new key that
found the ledger full, and then its last touch is the oldest of all terminal
records; a record that stays moves `Accepted`, `Running`, `Terminal` and
starts at `Accepted`; a terminal record is returned unaltered by every
accepted read until it is removed; and a record completed at `completedAt`
is returned within its TTL by every lookup and every matching admission that
the fence, the clock and the access counter let in, unless the ledger was
rotated or an admission that found it full removed the record. -/
theorem retention_law (h : CommandLedger.new desktopId token limits = .ok l₀) (ops : List (Op R)) :
    let l := final step l₀ ops
    let ts := touches (answers step l₀ ops)
    l.records.size ≤ limits.maximumEntries ∧
    (∀ (k k' : CommandKey) st st', l.records[k]? = some st → l.records[k']? = some st' →
      st.accessOrdinal = st'.accessOrdinal → k = k') ∧
    (∀ op (k : CommandKey) st, l.records[k]? = some st → Removes l op k →
      Rotates l op ∨ st.record.state.isTerminal ∧ (Expired st (step l op).2 ∨
        ∃ now, FindsFull l op now ∧ ∀ (k' : CommandKey) st', (l.purged now).records[k']? = some st' →
          st'.record.state.isTerminal → k' ≠ k → Older ts k k')) ∧
    (∀ op (k : CommandKey) st, l.records[k]? = some st → ¬ Removes l op k →
      ∃ st', (step l op).2.records[k]? = some st' ∧ Advances st.record.state st'.record.state) ∧
    (∀ op (k : CommandKey) st', l.records[k]? = none → (step l op).2.records[k]? = some st' →
      st'.record.state = .accepted) ∧
    (∀ (k : CommandKey) st m, l.records[k]? = some st → st.record.state.isTerminal →
      along step (fun l op => ¬ Removes l op k) l m →
      (∃ st', (final step l m).records[k]? = some st' ∧ st'.record = st.record) ∧
        ∀ a ∈ answers step l m, ReadsAs k st.record a) ∧
    (∀ p ci rs ca g r m now, (l.complete p ci rs ca g).1 = .ok r → let d := (l.complete p ci rs ca g).2
      along step (fun l op => ¬ Rotates l op ∧ ∀ now, FindsFull l op now → ¬ Removes l op ⟨p, ci⟩) d m →
      let lr := final step d m
      (∀ s, lr.lastObservedAt = some s → s ≤ now) → now - ca < limits.terminalTtlMs →
      ¬ lr.Exhausted →
      r.state = .terminal rs ∧
      (lr.lookup p ci now lr.generation).1 = .ok (some r) ∧
      (lr.admitCommand p ci r.requestHash now lr.generation).1 = .ok (.existing r)) := by
  intro l ts
  have hs : Sound l := sound_final (sound_new h)
  obtain ⟨hne, hli⟩ : (∀ k : CommandKey, l₀.records[k]?.map (·.accessOrdinal) = none) ∧ l₀.limits = limits := by
    simp only [CommandLedger.new] at h
    split at h <;> cases h
    simp
  have ho : Ordered l ts := ordered_final (.empty hne)
  have hl : l.limits = limits := (final_limits l₀ ops).trans hli
  refine ⟨hl ▸ hs.bounded, ?_, ?_, ?_, ?_, ?_, ?_⟩
  · intro k k' st st' hk hk' heq
    exact ho.key_eq (n := st.accessOrdinal) (by simp [hk]) (by simp [hk', heq])
  · intro op k st hk hr
    obtain hro | ⟨ht, he | ⟨now, hf, hv⟩⟩ := hs.removes hk hr
    · exact .inl hro
    · exact .inr ⟨ht, .inl he⟩
    · exact .inr ⟨ht, .inr ⟨now, hf, fun k' st' hk' ht' hne => ho.victim hv hk' ht' hne⟩⟩
  · intro op k st hk hr
    obtain ⟨st', hk', had, -⟩ := (survives_of_not_removes hk hr).record
    exact ⟨st', hk', had⟩
  · intro op k st' hk hk'
    exact (step_transition l op).new_record hk hk'
  · intro k st m hk ht hr
    exact terminal_persists hk ht hr
  · intro p ci rs ca g r m now hd d hm lr hcl ha hex
    obtain ⟨hst, st, hk, rfl, hc⟩ := complete_ok hd
    have ht : st.record.state.isTerminal := by rw [hst]; rfl
    have hdo : Sound d := hs.transition (complete_transition l ..)
    have hla : Sound lr := sound_final hdo
    have hlt : lr.limits = limits := (final_limits d m).trans ((complete_limits l ..).trans hl)
    obtain ⟨st', hk', hr, hc'⟩ | ⟨s, hse, hold⟩ := completed_persists hk ht hc hm
    · rw [← hr]
      exact ⟨hr ▸ hst, reads_of_unexpired hla hk' hc' hcl (hlt ▸ ha) hex⟩
    · -- the TTL was over before `now`
      have hle := hcl s hse
      rw [show d.limits = limits from (complete_limits l ..).trans hl] at hold
      exact absurd (hold.trans (Nat.sub_le_sub_right hle _)) (Nat.not_le.mpr ha)

/-- A result completed at 1 is still read at 10, one millisecond within the TTL
of ten, after the admission of another command. -/
theorem completed_record_read_back :
    ∃ l₀ : CommandLedger Nat, CommandLedger.new ⟨1⟩ .first ⟨2, 10, by decide, by decide⟩ = .ok l₀ ∧
      let done := ((final step l₀ [.admitCommand .operator ⟨1⟩ .zero 0 .first]).complete .operator ⟨1⟩ 5 1 .first).2
      let lr := final step done [.admitCommand .operator ⟨2⟩ .zero 3 .first]
      ∃ r, r.state = .terminal 5 ∧ (lr.lookup .operator ⟨1⟩ 10 lr.generation).1 = .ok (some r) := by
  refine ⟨_, rfl, _, ((retention_law (show CommandLedger.new ⟨1⟩ .first ⟨2, 10, by decide, by decide⟩ =
    .ok ⟨⟨1⟩, .first, ⟨2, 10, by decide, by decide⟩, ∅, 1, none⟩ from rfl)
    [.admitCommand .operator ⟨1⟩ .zero 0 .first]).2.2.2.2.2.2 .operator ⟨1⟩ 5 1 .first
    ⟨.operator, ⟨1⟩, .first, .zero, .terminal 5, 0, 1⟩ [.admitCommand .operator ⟨2⟩ .zero 3 .first] 10
    (by decide +kernel) ⟨⟨?_, ?_⟩, trivial⟩ ?_ (by decide) (by decide +kernel)).imp_right And.left⟩
  · rintro ⟨_, _, h, -⟩
    cases h
  · rintro now - (hn | hcr)
    · revert hn
      decide +kernel
    · revert hcr
      decide +kernel
  · intro s hs
    have h3 : some 3 = some s := Eq.trans (by decide +kernel) hs
    cases h3
    decide

/-- A rotation takes out a record that its TTL would keep: the command
completed at 1 is looked up at 2 and is not there. -/
theorem rotation_drops_completed_record :
    ∃ l₀ : CommandLedger Nat, CommandLedger.new ⟨1⟩ .first ⟨2, 10, by decide, by decide⟩ = .ok l₀ ∧
      let done := final step l₀
        [.admitCommand .operator ⟨1⟩ .zero 0 .first, .complete .operator ⟨1⟩ 5 1 .first]
      (done.records[(⟨.operator, ⟨1⟩⟩ : CommandKey)]?.map (·.record.state)) = some (.terminal 5) ∧
      ((step done (.rotateGeneration .second)).2.lookup .operator ⟨1⟩ 2 .second).1 = .ok none :=
  ⟨_, rfl, by decide +kernel, by decide +kernel⟩

end Runs

end Xenoteer.CommandLedger
