/-
Launches through the broker, over every interleaving of calls with the exits
of processes and the turns of the manager.

`openLaunch` reads off the history which launch of a key stands: the last call
of `manager.launch` for it, unless its entry was removed since. The invariant
`Kept` says that this is the entry of the key in the ledger, or the launch that
the holder of the lock is about to record.
-/
import Xenoteer.Processd.LaunchLedgerFacts
import Xenoteer.Processd.ManagerFacts

namespace Xenoteer.Processd

open Lib LaunchLedger

abbrev BrokerLog := List (BrokerAction × BrokerReply)

/-- What the caller of an entry's launch was told. -/
def LaunchOutcome.result : LaunchOutcome → LaunchResult
  | .process p => .ok p
  | .rejected code => .error code

/-- The launch of the key that stands after a step. -/
def openAfter (launched : Option (LaunchCall × LaunchResult)) (removed : List LaunchKey) (key : LaunchKey)
    (opened : Option (LaunchOperation × LaunchResult)) : Option (LaunchOperation × LaunchResult) :=
  match launched with
  | some (call, result) =>
    if call.key = key then some (call.operation, result) else if key ∈ removed then none else opened
  | none => if key ∈ removed then none else opened

/-- The launch of the key that stands: its content and its result. -/
def openLaunch (log : BrokerLog) (key : LaunchKey) : Option (LaunchOperation × LaunchResult) :=
  log.foldl (fun opened entry => openAfter entry.2.launched entry.2.removed key opened) none

theorem openLaunch_append (log : BrokerLog) (action) (r) (key : LaunchKey) :
    openLaunch (log ++ [(action, r)]) key = openAfter r.launched r.removed key (openLaunch log key) := by
  simp [openLaunch]

/-! ## The invariant -/

/-- The processes that the manager or an entry names. -/
def names (active : Option Manager) (entries : LaunchLedger) : List ProcessRef :=
  active.elim [] Manager.refs ++ entries.successes.map Prod.snd

abbrev BrokerConfig.capacity (config : BrokerConfig) : Nat := config.limits.launchFailureCapacity

/-- What stands between the broker's steps: `pending` is the launch that the
holder of the lock has not recorded yet. -/
structure Kept (capacity : Nat) (used : List LaunchId)
    (opened : LaunchKey → Option (LaunchOperation × LaunchResult)) (active : Option Manager) (ledger : LaunchLedger)
    (pending : Option LaunchLedgerEntry) : Prop where
  keys : (LaunchLedger.keys (ledger ++ pending.toList)).Nodup
  bounded : ledger.rejections ≤ capacity
  pending_success : ∀ entry, pending = some entry → entry.outcome.isRejected = false
  opened : ∀ key, opened key =
    (entryOf (ledger ++ pending.toList) key).map fun entry => (entry.operation, entry.outcome.result)
  generation : ∀ entry ∈ ledger ++ pending.toList, ∀ process, entry.outcome = .process process →
    ∃ m, active = some m ∧ process.desktopGeneration = m.generation
  named : ∀ p ∈ names active (ledger ++ pending.toList), ∀ q ∈ names active (ledger ++ pending.toList),
    p.launchId = q.launchId → p = q
  used : ∀ p ∈ names active (ledger ++ pending.toList), p.launchId ∈ used

/-- A manager stays the one it is, and knows no other process than before and
perhaps a new one. -/
def Carries (fresh : Option ProcessRef) (active active' : Option Manager) : Prop :=
  (∀ m, active = some m → ∃ m', active' = some m' ∧ m'.generation = m.generation) ∧
    active'.elim [] Manager.refs ⊆ fresh.toList ++ active.elim [] Manager.refs

section Changes

variable {capacity : Nat} {used used' : List LaunchId}
  {opened : LaunchKey → Option (LaunchOperation × LaunchResult)} {ac ac' : Option Manager}
  {ld ld' kept : LaunchLedger} {pending pending' : Option LaunchLedgerEntry}

theorem Carries.refl (ac : Option Manager) : Carries none ac ac :=
  ⟨fun m h => ⟨m, h, rfl⟩, by simp⟩

variable {fr : Option ProcessRef}

theorem names_subset {e e'} (ha : Carries fr ac ac')
    (he : e'.successes.map Prod.snd ⊆ fr.toList ++ e.successes.map Prod.snd) :
    names ac' e' ⊆ fr.toList ++ names ac e := by
  intro p hp
  rw [names, List.mem_append] at hp
  rw [List.mem_append, names, List.mem_append]
  obtain hp | hp := hp
  · obtain hp | hp := List.mem_append.1 (ha.2 hp)
    · exact .inl hp
    · exact .inr (.inl hp)
  · obtain hp | hp := List.mem_append.1 (he hp)
    · exact .inl hp
    · exact .inr (.inr hp)

theorem successes_subset {e e' : LaunchLedger} (h : e'.Sublist e) :
    e'.successes.map Prod.snd ⊆ e.successes.map Prod.snd :=
  ((h.filterMap _).map _).subset

/-- Names stay unique when the new one has an identifier that was not used. -/
theorem Kept.names_grow (h : Kept capacity used opened ac ld pending) {fr e'}
    (hn : names ac' e' ⊆ fr.toList ++ names ac (ld ++ pending.toList))
    (hf : ∀ p, fr = some p → p.launchId ∉ used ∧ p.launchId ∈ used') (hu : used ⊆ used') :
    (∀ p ∈ names ac' e', ∀ q ∈ names ac' e', p.launchId = q.launchId → p = q) ∧
    ∀ p ∈ names ac' e', p.launchId ∈ used' := by
  have hc : ∀ p ∈ names ac' e', fr = some p ∨ p ∈ names ac (ld ++ pending.toList) := by
    intro p hp
    obtain hp | hp := List.mem_append.1 (hn hp)
    · exact .inl (Option.mem_toList.1 hp)
    · exact .inr hp
  constructor
  · intro p hp q hq hid
    obtain hp | hp := hc p hp
    · obtain hq | hq := hc q hq
      · exact Option.some.inj (hp.symm.trans hq)
      · exact absurd (hid ▸ h.used q hq) (hf p hp).1
    · obtain hq | hq := hc q hq
      · exact absurd (hid ▸ h.used p hp) (hf q hq).1
      · exact h.named p hp q hq hid
  · intro p hp
    obtain hp | hp := hc p hp
    · exact (hf p hp).2
    · exact hu (h.used p hp)

theorem Kept.generation_mono (h : Kept capacity used opened ac ld pending)
    (ha : Carries fr ac ac') {e} (he : e ∈ ld ++ pending.toList) {pr} (hp : e.outcome = .process pr) :
    ∃ m, ac' = some m ∧ pr.desktopGeneration = m.generation := by
  obtain ⟨m, hm, hg⟩ := h.generation e he pr hp
  obtain ⟨m', hm', hg'⟩ := ha.1 m hm
  exact ⟨m', hm', hg.trans hg'.symm⟩

theorem mem_removedIn {key} : key ∈ ld.removedIn ld' ↔ key ∈ ld.keys ∧ key ∉ ld'.keys := by
  simp [removedIn, LaunchLedger.keys, List.mem_filter]

theorem entryOf_append {key} (a b) : entryOf (a ++ b) key = (entryOf a key).or (entryOf b key) := by
  simp [entryOf, List.find?_append]

/-- In a part of a ledger with unique keys, a key has its entry or none. -/
theorem entryOf_sublist {key} (hn : ld.keys.Nodup) (h : kept.Sublist ld)
    (hk : key ∈ kept.keys) : entryOf kept key = entryOf ld key := by
  obtain ⟨e, he, rfl⟩ := List.mem_map.1 hk
  have hke : kept.keys.Nodup := hn.sublist (h.map _)
  rw [(entryOf_eq_some hke).2 ⟨he, rfl⟩, (entryOf_eq_some hn).2 ⟨h.subset he, rfl⟩]

/-- What goes is reported as removed. -/
theorem entryOf_removed {key} (hn : ld.keys.Nodup) (hk : kept.Sublist ld)
    (hke : key ∈ ld.keys → (key ∈ ld'.keys ↔ key ∈ kept.keys)) :
    entryOf kept key = if key ∈ ld.removedIn ld' then none else entryOf ld key := by
  split
  next hr =>
    obtain ⟨hin, ho⟩ := mem_removedIn.1 hr
    exact entryOf_eq_none.2 fun hin' => ho ((hke hin).2 hin')
  next hs =>
    by_cases hin : key ∈ ld.keys
    · refine entryOf_sublist hn hk ?_
      by_contra ho
      exact hs (mem_removedIn.2 ⟨hin, fun hin' => ho ((hke hin).1 hin')⟩)
    · rw [entryOf_eq_none.2 hin, entryOf_eq_none.2 fun hin' => hin ((hk.map _).subset hin')]

/-- A step in which nothing is launched: entries may go, and the pending launch
may be recorded. -/
theorem Kept.settle (h : Kept capacity used opened ac ld pending) (ld' : LaunchLedger)
    (pending' : Option LaunchLedgerEntry) (hk : kept.Sublist ld)
    (ha : Carries none ac ac') (hu : used ⊆ used')
    (hn : (ld' = kept ∧ pending' = pending) ∨ (ld' = kept ++ pending.toList ∧ pending' = none)) :
    Kept capacity used' (fun key => openAfter none (ld.removedIn ld') key (opened key)) ac' ld'
      pending' := by
  have he : (ld' ++ pending'.toList : LaunchLedger) = kept ++ pending.toList := by
    obtain ⟨rfl, rfl⟩ | ⟨rfl, rfl⟩ := hn <;> simp
  have hs : (kept ++ pending.toList : LaunchLedger).Sublist (ld ++ pending.toList) :=
    hk.append (.refl _)
  have hr : LaunchLedger.rejections pending.toList = 0 := by
    cases hp : pending with
    | none => rfl
    | some e => simp [rejections, h.pending_success e hp]
  have hna := h.names_grow (names_subset ha
    (by simpa using successes_subset hs)) (by simp) hu
  constructor
  case keys =>
    rw [he]
    exact h.keys.sublist (hs.map _)
  case bounded =>
    have hle := hk.countP_le.trans h.bounded
    obtain ⟨rfl, -⟩ | ⟨rfl, -⟩ := hn
    · exact hle
    · rw [rejections_append, hr]
      exact hle
  case pending_success =>
    intro e hen
    obtain ⟨-, rfl⟩ | ⟨-, rfl⟩ := hn
    · exact h.pending_success e hen
    · cases hen
  case opened =>
    intro key
    rw [he, openAfter]
    have hd : key ∈ ld.keys → key ∉ LaunchLedger.keys pending.toList := by
      intro hin ho
      have hno := h.keys
      rw [keys_append] at hno
      exact (List.nodup_append.1 hno).2.2 key hin key ho rfl
    have hno : ld.keys.Nodup := h.keys.sublist ((List.sublist_append_left _ _).map _)
    have hke : key ∈ ld.keys → (key ∈ ld'.keys ↔ key ∈ kept.keys) := by
      intro hin
      obtain ⟨rfl, -⟩ | ⟨rfl, -⟩ := hn
      · rfl
      · simp [keys_append, hd hin]
    rw [entryOf_append, entryOf_removed hno hk hke, h.opened, entryOf_append]
    split
    next hre => rw [entryOf_eq_none.2 (hd (mem_removedIn.1 hre).1)]; rfl
    · rfl
  case generation =>
    rw [he]
    intro e hen pr hpr
    exact h.generation_mono ha (hs.subset hen) hpr
  case named => rw [he]; exact hna.1
  case used => rw [he]; exact hna.2

/-- A step in which the holder's launch returns. -/
theorem Kept.launch (h : Kept capacity used opened ac ld none) (ld' : LaunchLedger)
    (pending' : Option LaunchLedgerEntry) (o : LaunchOutcome) (hk : kept.Sublist ld)
    (ha : Carries fr ac ac') (hu : used ⊆ used') {call : LaunchCall} (hke : call.key ∉ ld.keys)
    (hf : ∀ p, fr = some p → p.launchId ∉ used ∧ p.launchId ∈ used')
    (ho : ∀ p, o = .process p → fr = some p ∧ ∃ m, ac' = some m ∧ p.desktopGeneration = m.generation)
    (hb : kept.rejections + (if o.isRejected then 1 else 0) ≤ capacity)
    (hn : (ld' = kept ∧ pending' = some ⟨call.key, call.operation, o⟩ ∧ o.isRejected = false) ∨
      (ld' = kept ++ [⟨call.key, call.operation, o⟩] ∧ pending' = none)) :
    Kept capacity used' (fun key => openAfter (some (call, o.result)) (ld.removedIn ld') key (opened key))
      ac' ld' pending' := by
  have hen : (ld' ++ pending'.toList : LaunchLedger) = kept ++ [⟨call.key, call.operation, o⟩] := by
    obtain ⟨rfl, rfl, -⟩ | ⟨rfl, rfl⟩ := hn <;> simp
  have hle : ld.keys.Nodup := by simpa using h.keys
  have hkp : kept.keys ⊆ ld.keys := (hk.map _).subset
  have hsu : (successes (kept ++ [⟨call.key, call.operation, o⟩])).map Prod.snd ⊆
      fr.toList ++ (successes (ld ++ (none : Option LaunchLedgerEntry).toList)).map Prod.snd := by
    have hl : (successes [⟨call.key, call.operation, o⟩]).map Prod.snd ⊆ fr.toList := by
      cases ho' : o with
      | rejected c => exact List.nil_subset _
      | process p => simp [successes, LaunchLedgerEntry.success?, (ho p ho').1]
    have hsp : successes (kept ++ [⟨call.key, call.operation, o⟩]) =
        successes kept ++ successes [⟨call.key, call.operation, o⟩] := by simp [successes]
    rw [hsp, List.map_append, List.append_subset, Option.toList_none, List.append_nil]
    exact ⟨List.subset_append_of_subset_right _ (successes_subset hk),
      List.subset_append_of_subset_left _ hl⟩
  have hna := h.names_grow (names_subset ha hsu) hf hu
  constructor
  case keys =>
    rw [hen, keys_append]
    refine List.nodup_append.2 ⟨hle.sublist (hk.map _), by simp [LaunchLedger.keys], ?_⟩
    intro key hin key' hin' heq
    rw [LaunchLedger.keys, List.map_singleton, List.mem_singleton] at hin'
    rw [heq, hin'] at hin
    exact hke (hkp hin)
  case bounded =>
    obtain ⟨rfl, -, hs⟩ | ⟨rfl, -⟩ := hn
    · omega
    · rw [rejections_append]
      simpa [rejections, List.countP_singleton] using hb
  case pending_success =>
    intro e he
    obtain ⟨-, rfl, hs⟩ | ⟨-, rfl⟩ := hn
    · cases he
      exact hs
    · cases he
  case opened =>
    intro key
    rw [hen, openAfter, entryOf_append]
    by_cases heq : call.key = key
    · subst heq
      rw [if_pos rfl, entryOf_eq_none.2 fun hin => hke (hkp hin)]
      simp [entryOf]
    have hl : entryOf [⟨call.key, call.operation, o⟩] key = none := by
      simp [entryOf, heq]
    rw [if_neg heq, hl, Option.or_none, h.opened, Option.toList_none, List.append_nil]
    have hky' : key ∈ ld'.keys ↔ key ∈ kept.keys := by
      obtain ⟨rfl, -, -⟩ | ⟨rfl, -⟩ := hn
      · rfl
      · simp [LaunchLedger.keys, Ne.symm heq]
    rw [entryOf_removed hle hk fun _ => hky']
    split <;> rfl
  case generation =>
    rw [hen]
    intro e he pr hp
    obtain he | he := List.mem_append.1 he
    · refine h.generation_mono ha ?_ hp
      simpa using hk.subset he
    · obtain rfl := List.mem_singleton.1 he
      exact (ho pr hp).2
  case named => rw [hen]; exact hna.1
  case used => rw [hen]; exact hna.2

end Changes

/-! ## Where a call stops -/

/-- What the holder of the lock does next. -/
inductive Stage where
  | checkManager (process : ProcessRef)
  | checkStatus (process : ProcessRef)
  | admission
  | before (todo : List (LaunchKey × ProcessRef))
  | after (process : ProcessRef) (next : LaunchKey × ProcessRef) (todo : List (LaunchKey × ProcessRef))

namespace Stage

variable (capacity : Nat) (call : LaunchCall)

/-- The rest of `launch`. -/
def talk : Stage → LaunchTalk LaunchResult
  | checkManager process => call.checkRetained capacity process
  | checkStatus process => call.checkStatus capacity process
  | admission => call.admission capacity
  | before todo => do
    reconcileEach todo
    call.execute capacity
  | after process next todo => do
    reconcileEach (next :: todo)
    call.record process

/-- The launch that is not recorded yet. -/
def pending : Stage → Option LaunchLedgerEntry
  | after process _ _ => some ⟨call.key, call.operation, .process process⟩
  | _ => none

/-- The entries that are still to be checked are those of their keys. -/
def Listed (ledger : LaunchLedger) (todo : List (LaunchKey × ProcessRef)) : Prop :=
  ∀ item ∈ todo, ∀ entry ∈ ledger, entry.key = item.1 → entry.outcome = .process item.2

/-- What the ledger holds for the call. -/
def Fits (ledger : LaunchLedger) : Stage → Prop
  | checkManager process => ledger.entryOf call.key = some ⟨call.key, call.operation, .process process⟩
  | checkStatus process => ledger.entryOf call.key = some ⟨call.key, call.operation, .process process⟩
  | admission => call.key ∉ ledger.keys
  | before todo => call.key ∉ ledger.keys ∧ Listed ledger todo
  | after _ next todo => call.key ∉ ledger.keys ∧ Listed ledger (next :: todo)

theorem talk_asks {st : Stage} {ld} : ∃ q n, (st.talk capacity call).start ld = .ask ld q n := by
  cases st with
  | checkManager pr | checkStatus pr | admission => exact ⟨_, _, rfl⟩
  | before t =>
    cases t with
    | nil | cons i t => exact ⟨_, _, rfl⟩
  | after pr n t => exact ⟨_, _, rfl⟩

variable {ld : LaunchLedger}

theorem Listed.of_sublist {kept todo} (h : Listed ld todo) (hk : kept.Sublist ld) : Listed kept todo :=
  fun i hi e he => h i hi e (hk.subset he)

theorem Listed.tail {i todo} (h : Listed ld (i :: todo)) : Listed ld todo :=
  fun o ho => h o (List.mem_cons_of_mem _ ho)

theorem listed_successes (hn : ld.keys.Nodup) : Listed ld ld.successes := by
  rintro ⟨key, pr⟩ hi e he hk
  obtain ⟨o, ho, hk', hou⟩ := mem_successes.1 hi
  rw [eq_of_key_eq hn he ho (hk.trans hk'.symm)]
  exact hou

end Stage

/-- A dialogue of the call returned, or stopped at a stage; with the ledger,
the pending launch and the result that there are then. -/
inductive Lands (capacity : Nat) (call : LaunchCall) :
    LaunchDialogue → LaunchLedger → Option LaunchLedgerEntry → Option LaunchResult → Prop
  | returns (ledger : LaunchLedger) (result : LaunchResult) :
    Lands capacity call (.done ledger result) ledger none (some result)
  | stops (stage : Stage) (ledger : LaunchLedger) (h : stage.Fits call ledger) :
    Lands capacity call ((stage.talk capacity call).start ledger) ledger (stage.pending call) none

/-- Nobody holds the lock, or a call that stopped at a stage. -/
inductive Standing (capacity : Nat) : Broker → Option LaunchLedgerEntry → Prop
  | free (ledger : LaunchLedger) (active : Option Manager) : Standing capacity ⟨ledger, active, none⟩ none
  | held (ledger : LaunchLedger) (active : Option Manager) (call : LaunchCall) (stage : Stage)
      (h : stage.Fits call ledger) :
    Standing capacity ⟨ledger, active, some (call, (stage.talk capacity call).start ledger)⟩ (stage.pending call)

/-! ## Steps -/

/-- Why an entry may go: the manager has no record of its process, or it is the
oldest of as many rejections as may be kept. -/
def Gone (capacity : Nat) (active : Option Manager) (ledger : LaunchLedger) (entry : LaunchLedgerEntry) : Prop :=
  (∃ process m, entry.outcome = .process process ∧ active = some m ∧ process ∉ m.refs) ∨
    (ledger.rejections = capacity ∧ ledger.IsOldest entry)

/-- The manager's task has ended, and the caller is told so. -/
def Unavailable (active : Option Manager) (result : LaunchResult) : Prop :=
  result = .error .managerUnavailable ∧ ∃ m, active = some m ∧ m.stopped = true

/-- What the answer to a question makes of the broker: `standing` is the launch
of each key that stands after it. -/
structure Resumes (capacity : Nat) (used : List LaunchId)
    (standing : LaunchKey → Option (LaunchOperation × LaunchResult)) (ledger : LaunchLedger)
    (active : Option Manager) (call : LaunchCall) (d : LaunchDialogue) (ledger' : LaunchLedger)
    (pending' : Option LaunchLedgerEntry) (result : Option LaunchResult) : Prop where
  lands : Lands capacity call d ledger' pending' result
  kept : Kept capacity used standing active ledger' pending'
  gone : ∀ entry ∈ ledger, entry ∉ ledger' → Gone capacity active ledger entry
  answered : ∀ answer, result = some answer → ∀ operation outcome, standing call.key = some (operation, outcome) →
    operation = call.operation ∧ (answer = outcome ∨ Unavailable active answer)

section Steps

variable {config : BrokerConfig} {capacity : Nat} {used used' : List LaunchId}
  {opened : LaunchKey → Option (LaunchOperation × LaunchResult)} {ac : Option Manager}
  {ld : LaunchLedger} {pending : Option LaunchLedgerEntry} {turn : Turn} {site : Site}

theorem carries_collect {l m} : Carries none (some m) (some (m.collect l turn)) :=
  ⟨fun m' h => by cases h; exact ⟨_, rfl, Manager.collect_generation⟩, by simpa using Manager.collect_refs⟩

/-- The manager's answer to a status. -/
theorem respond_status (config : BrokerConfig) (ac : Option Manager) (turn : Turn) (site : Site)
    (pr : ProcessRef) : Carries none ac (config.respond ac turn site (.status pr)).2 ∧
    ((config.respond ac turn site (.status pr)).1 = .error .processNotManaged →
      ∃ m, (config.respond ac turn site (.status pr)).2 = some m ∧ pr ∉ m.refs) := by
  cases ac with
  | none => exact ⟨Carries.refl none, nofun⟩
  | some m =>
    simp only [BrokerConfig.respond, Manager.askStatus]
    split
    · exact ⟨carries_collect, nofun⟩
    · exact ⟨carries_collect, fun h => ⟨_, rfl, Manager.not_mem_refs_of_status h⟩⟩

variable {key : LaunchKey} {pr : ProcessRef}

theorem entries_mem_gone_remove {m} (hl : ∀ e ∈ ld, e.key = key → e.outcome = .process pr) (ha : ac = some m)
    (hg : pr ∉ m.refs) : ∀ e ∈ ld, e ∉ ld.remove key → Gone capacity ac ld e := by
  intro e he ho
  have hk : e.key = key := by
    by_contra hne
    exact ho (mem_remove.2 ⟨he, hne⟩)
  exact .inl ⟨pr, m, hl e he hk, ha, hg⟩

theorem Kept.standing_of_mem (h : Kept capacity used opened ac ld pending) {e}
    (he : e ∈ ld ++ pending.toList) : opened e.key = some (e.operation, e.outcome.result) := by
  rw [h.opened, (entryOf_eq_some h.keys).2 ⟨he, rfl⟩]
  rfl

theorem Kept.standing_none (h : Kept capacity used opened ac ld none)
    (hk : key ∉ ld.keys) : opened key = none := by
  rw [h.opened, Option.map_eq_none_iff, entryOf_eq_none]
  simpa using hk

/-- A call is told the outcome of the entry that it leaves for its key. -/
theorem Kept.answers (h : Kept capacity used opened ac ld pending) {call : LaunchCall} {o : LaunchOutcome}
    (he : ⟨call.key, call.operation, o⟩ ∈ ld ++ pending.toList) :
    ∀ a, some o.result = some a → ∀ op r, opened call.key = some (op, r) →
      op = call.operation ∧ (a = r ∨ Unavailable ac a) := by
  intro a ha op r ho
  cases ha
  cases (h.standing_of_mem he).symm.trans ho
  exact ⟨rfl, .inl rfl⟩

/-- What happens to a call at a stage when its question is answered. -/
def Goes (config : BrokerConfig) (used' : List LaunchId)
    (opened : LaunchKey → Option (LaunchOperation × LaunchResult)) (active : Option Manager) (ledger : LaunchLedger)
    (turn : Turn) (site : Site) (call : LaunchCall) (stage : Stage) : Prop :=
  ∃ q next, (stage.talk config.capacity call).start ledger = .ask ledger q next ∧
    (∀ outcome, launchedBy call q (config.respond active turn site q).1 = some outcome → opened call.key = none) ∧
    ∃ ledger' pending' result, Resumes config.capacity used'
        (fun key => openAfter (launchedBy call q (config.respond active turn site q).1) (ledger.removedIn ledger') key
          (opened key))
        ledger (config.respond active turn site q).2 call (next (config.respond active turn site q).1) ledger'
        pending' result

variable {call : LaunchCall}

theorem carries_managerFor (config : BrokerConfig) (ac : Option Manager) (g : DesktopGeneration) :
    Carries none ac (config.managerFor ac g).2 := by
  cases ac with
  | some m => exact Carries.refl _
  | none =>
    refine ⟨nofun, ?_⟩
    simp only [BrokerConfig.managerFor]
    split
    next m hs =>
      unfold BrokerConfig.spawn at hs
      split at hs
      · cases hs
      split at hs
      · cases hs
      · cases hs
        exact List.nil_subset _
    · exact List.nil_subset _

/-- What a reconciliation makes of the answer for one entry. -/
def reconciled (ledger : LaunchLedger) (key : LaunchKey) : Except ProcessManagerError ProcessStatus → LaunchLedger
  | .error .processNotManaged => ledger.remove key
  | _ => ledger

theorem reconcileEach_start (key : LaunchKey) (pr) (t) (rest) (ld) :
    (do reconcileEach ((key, pr) :: t); rest : LaunchTalk LaunchResult).start ld =
      .ask ld (.status pr) fun a =>
        (do reconcileEach t; rest : LaunchTalk LaunchResult).start (reconciled ld key a) := by
  simp only [reconcileEach, askStatus, Talk.start_bind, Talk.start_ask, Dialogue.andThen]
  congr 1
  funext a
  rcases a with e | st
  · cases e <;> rfl
  · rfl

/-- An entry that is removed is that of a process the manager has no record
of. -/
theorem reconciled_spec (config : BrokerConfig) (capacity : Nat) (ac : Option Manager) (turn : Turn)
    (site : Site) (hl : ∀ e ∈ ld, e.key = key → e.outcome = .process pr) :
    (reconciled ld key (config.respond ac turn site (.status pr)).1).Sublist ld ∧
    ∀ e ∈ ld, e ∉ reconciled ld key (config.respond ac turn site (.status pr)).1 →
      Gone capacity (config.respond ac turn site (.status pr)).2 ld e := by
  have hg := (respond_status config ac turn site pr).2
  unfold reconciled
  split
  next ha =>
    obtain ⟨m, hm, ho⟩ := hg ha
    exact ⟨remove_sublist, entries_mem_gone_remove hl hm ho⟩
  · exact ⟨List.Sublist.refl _, fun _ => absurd⟩

theorem not_mem_keys_of_sublist {kept : LaunchLedger} (hk : kept.Sublist ld)
    (hke : key ∉ ld.keys) : key ∉ kept.keys :=
  fun hin => hke ((hk.map _).subset hin)

/-- Room is made for a rejection. -/
theorem room_spec (hp : 0 < capacity) (hb : ld.rejections ≤ capacity) {ac} :
    (makeRoom capacity ld.rejections ld).Sublist ld ∧
    (makeRoom capacity ld.rejections ld).rejections + 1 ≤ capacity ∧
    ∀ e ∈ ld, e ∉ makeRoom capacity ld.rejections ld → Gone capacity ac ld e := by
  rw [makeRoom_of_le hp hb]
  split
  next hf =>
    have hd := dropOldest_rejections ld (by omega)
    exact ⟨dropOldest_sublist, by omega, fun e hin ho => .inr ⟨hf, isOldest_of_dropped hin ho⟩⟩
  next hr => exact ⟨List.Sublist.refl _, by omega, fun _ => absurd⟩

section

variable (h : Kept config.capacity used opened ac ld none) (hu : used ⊆ used')

include h hu

/-- The check that the manager is of the process's generation passes. -/
theorem goes_checkManager (hf : (Stage.checkManager pr).Fits call ld) :
    Goes config used' opened ac ld turn site call (.checkManager pr) := by
  refine ⟨_, _, rfl, nofun, ld, none, none, ?_⟩
  obtain ⟨hm, -⟩ := mem_of_entryOf hf
  obtain ⟨m, rfl, hg⟩ := h.generation _ (List.mem_append_left _ hm) pr rfl
  have ha : currentManager (some m) pr = .ok () := by
    simp [currentManager, hg]
  constructor
  case lands =>
    simp only [BrokerConfig.respond, ha]
    exact .stops (.checkStatus pr) ld hf
  case kept => exact h.settle _ _ (.refl _) (.refl _) hu (.inl ⟨rfl, rfl⟩)
  case gone => exact fun _ => absurd
  case answered => exact nofun

/-- The process is still known and is the answer, or it is gone and the call
starts over; a manager that has ended is reported. -/
theorem goes_checkStatus (hf : (Stage.checkStatus pr).Fits call ld) :
    Goes config used' opened ac ld turn site call (.checkStatus pr) := by
  refine ⟨_, _, rfl, nofun, ?_⟩
  obtain ⟨hme, -⟩ := mem_of_entryOf hf
  have hme' := List.mem_append_left (none : Option LaunchLedgerEntry).toList hme
  obtain ⟨m, rfl, hge⟩ := h.generation _ hme' pr rfl
  obtain ⟨hc, hg⟩ := respond_status config (some m) turn site pr
  have hsa := h.settle ld none (.refl _) hc hu
    (.inl ⟨rfl, rfl⟩)
  -- an answer that keeps the ledger ends the call
  have hre : ∀ r : LaunchResult,
      (r = .ok pr ∨ Unavailable (config.respond (some m) turn site (.status pr)).2 r) →
      Resumes config.capacity used'
        (fun key => openAfter none (ld.removedIn ld) key (opened key)) ld
        (config.respond (some m) turn site (.status pr)).2 call (.done ld r) ld none
        (some r) := by
    intro r hrs
    refine ⟨.returns ld r, hsa, fun _ => absurd, ?_⟩
    intro a ha o ot hop
    cases ha
    have ho := hsa.standing_of_mem hme'
    rw [hop] at ho
    cases ho
    exact ⟨rfl, hrs⟩
  by_cases hs : (m.collect config.limits turn).stopped = true
  · have ha : (config.respond (some m) turn site (.status pr)) =
        (.error .managerUnavailable, some (m.collect config.limits turn)) := by
      simp [BrokerConfig.respond, Manager.askStatus, hs]
    refine ⟨ld, none, some (.error .managerUnavailable), ?_⟩
    have hr := hre (.error .managerUnavailable) (.inr ⟨rfl, _, by rw [ha], hs⟩)
    rw [ha] at hr ⊢
    exact hr
  · have ha : (config.respond (some m) turn site (.status pr)) =
        ((m.collect config.limits turn).status pr, some (m.collect config.limits turn)) := by
      simp [BrokerConfig.respond, Manager.askStatus, hs]
    have hn : ∀ q ∈ (m.collect config.limits turn).refs, q.launchId = pr.launchId → q = pr := by
      intro q hq hid
      refine h.named q ?_ pr ?_ hid
      · exact List.mem_append_left _ (Manager.collect_refs hq)
      · refine List.mem_append_right _ (List.mem_map.2 ⟨(call.key, pr), ?_, rfl⟩)
        exact mem_successes.2 ⟨_, hme', rfl, rfl⟩
    obtain ⟨st, hst⟩ | hst :=
      Manager.status_cases (by rw [Manager.collect_generation, hge]) hn
    · refine ⟨ld, none, some (.ok pr), ?_⟩
      have hr := hre (.ok pr) (.inl rfl)
      rw [hst] at ha
      rw [ha] at hr ⊢
      exact hr
    · rw [hst] at ha
      rw [ha] at hc hg ⊢
      obtain ⟨m', hm', hg⟩ := hg rfl
      refine ⟨ld.remove call.key, none, none, ?_⟩
      constructor
      case lands =>
        refine .stops .admission (ld.remove call.key) ?_
        rintro hin
        obtain ⟨e, he, hk⟩ := List.mem_map.1 hin
        exact (mem_remove.1 he).2 hk
      case kept => exact h.settle _ _ remove_sublist hc hu (.inl ⟨rfl, rfl⟩)
      case gone =>
        refine entries_mem_gone_remove (fun e he hk => ?_) hm' hg
        have hke : ld.keys.Nodup := by simpa using h.keys
        rw [eq_of_key_eq hke he hme hk]
      case answered => exact nofun

/-- The manager of the call's generation is there, or the call is refused. -/
theorem goes_admit (hf : Stage.admission.Fits call ld) :
    Goes config used' opened ac ld turn site call .admission := by
  refine ⟨_, _, rfl, nofun, ?_⟩
  have hs := h.settle ld none (.refl _)
    (carries_managerFor config ac call.operation.generation) hu (.inl ⟨rfl, rfl⟩)
  have hk : ld.keys.Nodup := by simpa using h.keys
  cases ha : (config.managerFor ac call.operation.generation).1 with
  | error e =>
    refine ⟨ld, none, some (.error (.ofManager e)), ?_, hs, fun _ => absurd, ?_⟩
    · simp only [BrokerConfig.respond, ha]
      exact .returns _ _
    · intro a _ o ot hop
      cases (hs.standing_none hf).symm.trans hop
  | ok f =>
    refine ⟨ld, none, none, ?_, hs, fun _ => absurd, nofun⟩
    simp only [BrokerConfig.respond, ha]
    exact .stops (.before ld.successes) ld ⟨hf, Stage.listed_successes hk⟩

theorem goes_before {i : LaunchKey × ProcessRef} {t : List (LaunchKey × ProcessRef)}
    (hf : (Stage.before (i :: t)).Fits call ld) :
    Goes config used' opened ac ld turn site call (.before (i :: t)) := by
  obtain ⟨key, pr⟩ := i
  refine ⟨_, _, reconcileEach_start key pr t _ ld, nofun, ?_⟩
  obtain ⟨hk, hg⟩ := reconciled_spec config config.capacity ac turn site
    (hf.2 (key, pr) List.mem_cons_self)
  refine ⟨_, none, none, ?_, ?_, hg, nofun⟩
  · exact .stops (.before t) _ ⟨not_mem_keys_of_sublist hk hf.1, hf.2.tail.of_sublist hk⟩
  · exact h.settle _ _ hk (respond_status config ac turn site pr).1 hu (.inl ⟨rfl, rfl⟩)

/-- A launch that failed is recorded as a rejection. -/
theorem resumes_rejected {ac'} (hk : call.key ∉ ld.keys) (ha : Carries none ac ac') {e} : ∃ ld' pending' result,
      Resumes config.capacity used'
        (fun key => openAfter (some (call, .error (.ofManager e))) (ld.removedIn ld') key (opened key)) ld ac' call
        (.done (ld.recordRejection config.capacity call.key call.operation (.ofManager e)) (.error (.ofManager e)))
        ld' pending' result := by
  obtain ⟨hke, hr, hg⟩ := room_spec (show 0 < config.capacity from config.limits.queue_pos) h.bounded
  have hn := h.launch (ld.recordRejection config.capacity call.key call.operation
    (.ofManager e)) none (.rejected (.ofManager e)) hke ha hu hk nofun nofun
    (by simpa [LaunchOutcome.isRejected] using hr)
    (.inr ⟨rfl, rfl⟩)
  refine ⟨_, _, _, .returns _ _, hn, ?_, hn.answers (o := .rejected (.ofManager e)) (by simp [recordRejection])⟩
  intro en hin ho
  exact hg en hin fun hin' => ho (List.mem_append_left _ hin')

/-- A launch that succeeded is recorded, at once when there is nothing to
reconcile. -/
theorem resumes_launched {ac'} (hk : call.key ∉ ld.keys)
    (ha : Carries (some pr) ac ac') (hf : pr.launchId ∉ used ∧ pr.launchId ∈ used')
    (hg : ∃ m, ac' = some m ∧ pr.desktopGeneration = m.generation) : ∃ ld' pending' result,
      Resumes config.capacity used'
        (fun key => openAfter (some (call, .ok pr)) (ld.removedIn ld') key (opened key)) ld ac' call
        ((do reconcileSuccesses; call.record pr : LaunchTalk LaunchResult).start ld) ld' pending'
        result := by
  have hl : ∀ ld' pending', _ → Kept config.capacity used'
      (fun key => openAfter (some (call, .ok pr)) (ld.removedIn ld') key (opened key)) ac' ld'
      pending' := fun ld' pending' hn =>
    h.launch ld' pending' (.process pr) (List.Sublist.refl ld) ha hu hk
      (fun p hp => by cases hp; exact hf) (fun p hp => by cases hp; exact ⟨rfl, hg⟩)
      (by simpa [LaunchOutcome.isRejected] using h.bounded) hn
  have hke : ld.keys.Nodup := by simpa using h.keys
  have hs : (do reconcileSuccesses; call.record pr : LaunchTalk LaunchResult).start ld =
      (do reconcileEach ld.successes; call.record pr : LaunchTalk LaunchResult).start ld := rfl
  rw [hs]
  cases hsu : ld.successes with
  | nil =>
    have hn := hl (ld.recordProcess call.key call.operation pr) none (.inr ⟨rfl, rfl⟩)
    refine ⟨_, none, some (.ok pr), .returns _ _, hn, ?_,
      hn.answers (o := .process pr) (by simp [recordProcess])⟩
    intro entry hin ho
    exact absurd (List.mem_append_left _ hin) ho
  | cons item todo =>
    have hli := Stage.listed_successes hke
    rw [hsu] at hli
    exact ⟨ld, (Stage.after pr item todo).pending call, none,
      .stops (.after pr item todo) ld ⟨hk, hli⟩, hl _ _ (.inl ⟨rfl, rfl, rfl⟩),
      fun _ => absurd, nofun⟩

/-- The call launches; identifiers are new. -/
theorem goes_execute (hsi : ∀ spawned, site = .ok spawned → spawned.launchId ∉ used ∧ spawned.launchId ∈ used')
    (hf : (Stage.before []).Fits call ld) : Goes config used' opened ac ld turn site call (.before []) := by
  refine ⟨.launch call.request, _, rfl, (fun outcome _ => h.standing_none hf.1), ?_⟩
  cases ac with
  | none => exact resumes_rejected h hu hf.1 (Carries.refl none)
  | some m =>
    by_cases hst : (m.collect config.limits turn).stopped = true
    · have ha : config.respond (some m) turn site (.launch call.request) =
          (.error .managerUnavailable, some (m.collect config.limits turn)) := by
        simp [BrokerConfig.respond, Manager.askLaunch, hst]
      rw [ha]
      exact resumes_rejected h hu hf.1 carries_collect
    · have ha : config.respond (some m) turn site (.launch call.request) =
          (((m.collect config.limits turn).launch config.limits call.request site).1,
            some ((m.collect config.limits turn).launch config.limits call.request site).2) := by
        simp [BrokerConfig.respond, Manager.askLaunch, hst]
      have hn : ∀ spawned, site = .ok spawned → ∀ q ∈ (m.collect config.limits turn).refs,
          q.launchId ≠ spawned.launchId := by
        intro spawned hs q hq hid
        refine (hsi spawned hs).1 (hid ▸ h.used q ?_)
        exact List.mem_append_left _ (Manager.collect_refs hq)
      rw [ha]
      obtain ⟨error, hl⟩ | ⟨spawned, pr, hs, hr, hid, hg, hg', hre⟩ :=
        Manager.launch_cases hn
      · rw [hl]
        exact resumes_rejected h hu hf.1 carries_collect
      rw [hr]
      refine resumes_launched h hu hf.1 ⟨?_, ?_⟩ (hid ▸ hsi spawned hs) ⟨_, rfl, ?_⟩
      · intro m' hm'
        cases hm'
        exact ⟨_, rfl, hg'.trans Manager.collect_generation⟩
      · refine List.Subset.trans hre (List.cons_subset.2 ⟨by simp, ?_⟩)
        exact List.subset_cons_of_subset _ Manager.collect_refs
      · exact hg.trans hg'.symm

end

/-- The last reconciliation records the launch. -/
theorem goes_after {l : ProcessRef} {i : LaunchKey × ProcessRef}
    {t : List (LaunchKey × ProcessRef)} (h : Kept config.capacity used opened ac ld
      ((Stage.after l i t).pending call)) (hu : used ⊆ used') (hf : (Stage.after l i t).Fits call ld) :
    Goes config used' opened ac ld turn site call (.after l i t) := by
  obtain ⟨key, pr⟩ := i
  refine ⟨_, _, reconcileEach_start key pr t _ ld, nofun, ?_⟩
  obtain ⟨hk, hg⟩ := reconciled_spec config config.capacity ac turn site
    (hf.2 (key, pr) List.mem_cons_self)
  have hc := (respond_status config ac turn site pr).1
  cases t with
  | cons n t =>
    refine ⟨_, (Stage.after l n t).pending call, none, ?_, ?_, hg, nofun⟩
    · exact .stops (.after l n t) _
        ⟨not_mem_keys_of_sublist hk hf.1, hf.2.tail.of_sublist hk⟩
    · exact h.settle _ _ hk hc hu (.inl ⟨rfl, rfl⟩)
  | nil =>
    have hn := h.settle (reconciled ld key (config.respond ac turn site (.status pr)).1 ++
      [⟨call.key, call.operation, .process l⟩]) none hk hc hu (.inr ⟨rfl, rfl⟩)
    refine ⟨_, none, some (.ok l), .returns _ _, hn, ?_, hn.answers (o := .process l) (by simp)⟩
    intro e hin ho
    exact hg e hin fun hin' => ho (List.mem_append_left _ hin')

theorem goes {config turn st}
    (h : Kept config.capacity used opened ac ld (st.pending call)) (hu : used ⊆ used')
    (hs : ∀ sp, site = .ok sp → sp.launchId ∉ used ∧ sp.launchId ∈ used')
    (hf : st.Fits call ld) : Goes config used' opened ac ld turn site call st := by
  cases st with
  | checkManager pr => exact goes_checkManager h hu hf
  | checkStatus pr => exact goes_checkStatus h hu hf
  | admission => exact goes_admit h hu hf
  | before t =>
    cases t with
    | nil => exact goes_execute h hu hs hf
    | cons i t => exact goes_before h hu hf
  | after pr i t => exact goes_after h hu hf

/-- Where the broker is after the call went on. -/
theorem advance_spec (s : Broker) (ac) (l) {d ld' pending' r}
    (h : Lands capacity call d ld' pending' r) : (s.advance ac call l d).1 =
      ⟨l, r.map fun r => (call, r), s.ledger.removedIn ld'⟩ ∧
    (s.advance ac call l d).2.active = ac ∧ (s.advance ac call l d).2.ledger = ld' ∧
    Standing capacity (s.advance ac call l d).2 pending' := by
  cases h with
  | returns ld r => exact ⟨rfl, rfl, rfl, .free ld' ac⟩
  | stops st ld h =>
    obtain ⟨q, n, ha⟩ := Stage.talk_asks capacity call
    have hs : Standing capacity _ _ := .held ld' ac call st h
    rw [ha] at hs ⊢
    exact ⟨rfl, rfl, rfl, hs⟩

end Steps

/-! ## Every interleaving -/

/-- What a step of the broker in a state with this history does: it launches
only where no launch of the key stands; a request that passes its checks is
told the result of the launch that stands (or that the manager has ended) when
its content is the same, and is refused with a conflict at once when it is
not; an entry goes only when it may; keys stay unique and rejections bounded. -/
structure LaunchesOnce (config : BrokerConfig) (s : Broker) (log : BrokerLog) (action : BrokerAction) : Prop where
  launched : ∀ call outcome, (s.step config action).1.launched = some (call, outcome) → openLaunch log call.key = none
  answered : ∀ call result, (s.step config action).1.answered = some (call, result) → call.valid = true →
    ∀ operation outcome,
      openLaunch (log ++ [(action, (s.step config action).1)]) call.key = some (operation, outcome) →
      (operation = call.operation → result = outcome ∨ Unavailable (s.step config action).2.active result) ∧
      (operation ≠ call.operation → action = .call call ∧ (s.step config action).1.launched = none ∧
        result = .error .operationIdConflict)
  removed : ∀ entry ∈ s.ledger, entry ∉ (s.step config action).2.ledger →
    Gone config.limits.launchFailureCapacity (s.step config action).2.active s.ledger entry
  unique : (s.step config action).2.ledger.keys.Nodup
  bounded : (s.step config action).2.ledger.rejections ≤ config.limits.launchFailureCapacity

/-- The launch identifier that the system gives in a step. -/
def BrokerAction.launchId? : BrokerAction → Option LaunchId
  | .answer _ (.ok spawned) => some spawned.launchId
  | _ => none

def launchIds (actions : List BrokerAction) : List LaunchId := actions.filterMap BrokerAction.launchId?

/-- The broker after the actions, from its start. -/
def brokerAfter (config : BrokerConfig) (actions : List BrokerAction) : Broker :=
  Run.final (Broker.step config) .initial actions

def brokerHistory (config : BrokerConfig) (actions : List BrokerAction) : BrokerLog :=
  Run.answers (Broker.step config) .initial actions

/-- The invariant of the broker and its history. -/
def Stands (config : BrokerConfig) (used : List LaunchId) (s : Broker) (log : BrokerLog) : Prop :=
  ∃ pending, Standing config.capacity s pending ∧
    Kept config.capacity used (openLaunch log) s.active s.ledger pending

section Runs

variable {config : BrokerConfig} {used used' : List LaunchId} {s : Broker} {log : BrokerLog} {action : BrokerAction}

theorem removedIn_self (ld : LaunchLedger) : ld.removedIn ld = [] := by
  rw [List.eq_nil_iff_forall_not_mem]
  intro key hk
  exact (mem_removedIn.1 hk).2 (mem_removedIn.1 hk).1

variable {ac : Option Manager} {ld : LaunchLedger}

theorem Kept.nodup {capacity opened pending} (h : Kept capacity used opened ac ld pending) : ld.keys.Nodup :=
  h.keys.sublist ((List.sublist_append_left _ _).map _)

/-- The step keeps the invariant and launches at most once. -/
def Passes (config : BrokerConfig) (used' : List LaunchId) (s : Broker) (log : BrokerLog) (action : BrokerAction) : Prop :=
  Stands config used' (s.step config action).2 (log ++ [(action, (s.step config action).1)]) ∧
    LaunchesOnce config s log action

/-- A step with this reply and this state after it stands, when its parts do. -/
theorem stands_step {r s'} (hs : s.step config action = (r, s'))
    {pending'} (hst : Standing config.capacity s' pending') (hk : Kept config.capacity used'
      (fun key => openAfter r.launched r.removed key (openLaunch log key)) s'.active s'.ledger pending')
    (hl : ∀ call o, r.launched = some (call, o) → openLaunch log call.key = none)
    (ha : ∀ call rs, r.answered = some (call, rs) → call.valid = true → ∀ op o,
      openAfter r.launched r.removed call.key (openLaunch log call.key) = some (op, o) →
      (op = call.operation → rs = o ∨ Unavailable s'.active rs) ∧
      (op ≠ call.operation → action = .call call ∧ r.launched = none ∧
        rs = .error .operationIdConflict)) (hg : ∀ e ∈ s.ledger, e ∉ s'.ledger →
      Gone config.capacity s'.active s.ledger e) : Passes config used' s log action := by
  constructor
  · rw [hs]
    refine ⟨pending', hst, ?_⟩
    rw [show openLaunch (log ++ [(action, r)]) = _ from funext fun key => openLaunch_append log action r key]
    exact hk
  · constructor
    case launched => rw [hs]; exact hl
    case answered =>
      rw [hs]
      intro call rs han hv op o ho
      rw [openLaunch_append] at ho
      exact ha call rs han hv op o ho
    case removed => rw [hs]; exact hg
    case unique => rw [hs]; exact hk.nodup
    case bounded => rw [hs]; exact hk.bounded

/-- The manager has a turn of its own, or a call has to wait. -/
theorem stands_quiet (h : Stands config used s log) (hu : used ⊆ used') {ac'}
    (hc : Carries none s.active ac') (hs : s.step config action = (.quiet, { s with active := ac' })) :
    Passes config used' s log action := by
  obtain ⟨pending, hst, hk⟩ := h
  have hn := hk.settle s.ledger pending (.refl _) hc hu (.inl ⟨rfl, rfl⟩)
  rw [removedIn_self] at hn
  refine stands_step hs ?_ hn nofun nofun
    (fun _ => absurd)
  cases hst with
  | free ld ac => exact .free ld ac'
  | held ld ac call st hf => exact .held ld ac' call st hf

/-- A call that does not pass its checks changes nothing. -/
theorem stands_refused (h : Stands config used s log) (hu : used ⊆ used') {call}
    (hv : call.valid = false) : Passes config used' s log (.call call) := by
  obtain ⟨pending, hs, hk⟩ := h
  have hn := hk.settle s.ledger pending (.refl _) (.refl _) hu (.inl ⟨rfl, rfl⟩)
  rw [removedIn_self] at hn
  have hst : s.step config (.call call) = (⟨none, some (call, .error .invalidRequest), []⟩, s) := by
    simp [Broker.step, hv]
  refine stands_step hst hs hn nofun ?_
    (fun _ => absurd)
  intro c r ha hc
  cases ha
  cases hv.symm.trans hc

/-- A call that gets the lock looks its key up. -/
theorem stands_call {call} (hk : Kept config.capacity used (openLaunch log) ac ld none)
    (hu : used ⊆ used') (hv : call.valid = true) : Passes config used' ⟨ld, ac, none⟩ log (.call call) := by
  have hn := hk.settle ld none (.refl _) (.refl _) hu (.inl ⟨rfl, rfl⟩)
  have hst : ((⟨ld, ac, none⟩ : Broker).step config (.call call)) =
      (⟨ld, ac, none⟩ : Broker).advance ac call none
        ((call.launch config.capacity).start ld) := by
    simp [Broker.step, hv]
  -- wherever the call lands with the ledger as it is
  have hl : ∀ pending' r, Lands config.capacity call
        ((call.launch config.capacity).start ld) ld pending' r →
      pending' = none →
      (∀ a, r = some a → ∃ e, ld.entryOf call.key = some e ∧
        (e.operation = call.operation → a = e.outcome.result) ∧
        (e.operation ≠ call.operation → a = .error .operationIdConflict)) →
      Passes config used' ⟨ld, ac, none⟩ log (.call call) := by
    rintro pending' r hla rfl hr
    obtain ⟨hre, ha, hle, hsa⟩ := advance_spec ⟨ld, ac, none⟩ ac none hla
    refine stands_step (hst.trans (Prod.ext hre rfl)) hsa ?_ nofun ?_ ?_
    · rw [ha, hle]
      exact hn
    · intro c a han _ o ot hop
      obtain ⟨a', hr', heq⟩ := Option.map_eq_some_iff.1 han
      cases heq
      obtain ⟨e, he, hs, hd⟩ := hr a hr'
      have ho := hn.standing_of_mem (List.mem_append_left _ (mem_of_entryOf he).1)
      rw [(mem_of_entryOf he).2] at ho
      cases ho.symm.trans hop
      exact ⟨fun h => .inl (hs h), fun h => ⟨rfl, rfl, hd h⟩⟩
    · intro e hin hou
      rw [hle] at hou
      exact absurd hin hou
  rw [LaunchCall.launch, Talk.start_bind, Talk.start_read, Dialogue.andThen] at hl
  cases he : ld.entryOf call.key with
  | none =>
    refine hl none none ?_ rfl nofun
    simp only [lookup, he, Option.map_none]
    exact .stops .admission ld (entryOf_eq_none.1 he)
  | some e =>
    obtain ⟨key, o, ot⟩ := e
    obtain rfl : key = call.key := (mem_of_entryOf he).2
    by_cases hs : o = call.operation
    · subst hs
      cases ot with
      | process pr =>
        refine hl none none ?_ rfl nofun
        simp only [lookup, he, Option.map_some, ne_eq, not_true_eq_false, if_false]
        exact .stops (.checkManager pr) ld he
      | rejected cd =>
        refine hl none (some (.error cd)) ?_ rfl ?_
        · simp only [lookup, he, Option.map_some, ne_eq, not_true_eq_false, if_false]
          exact .returns _ _
        · intro a h
          cases h
          exact ⟨_, he, fun _ => rfl, fun h => absurd rfl h⟩
    · refine hl none (some (.error .operationIdConflict)) ?_ rfl ?_
      · simp only [lookup, he, Option.map_some, ne_eq, hs, not_false_eq_true, if_true]
        exact .returns _ _
      · intro a h
        cases h
        exact ⟨_, he, fun h => absurd h hs, fun _ => rfl⟩

/-- The question of the holder is answered. -/
theorem stands_answer {call : LaunchCall} {st : Stage} {turn : Turn} {site : Site}
    (hk : Kept config.capacity used (openLaunch log) ac ld (st.pending call))
    (hf : st.Fits call ld) (hu : used ⊆ used')
    (hs : ∀ sp, site = .ok sp → sp.launchId ∉ used ∧ sp.launchId ∈ used') :
    let s : Broker := ⟨ld, ac, some (call, (st.talk config.capacity call).start ld)⟩
    Passes config used' s log (.answer turn site) := by
  intro s
  obtain ⟨q, n, has, hla, ld', pending', rs, hr⟩ := goes hk hu hs hf
  have hst : s.step config (.answer turn site) = s.advance (config.respond ac turn site q).2 call
      (launchedBy call q (config.respond ac turn site q).1) (n (config.respond ac turn site q).1) := by
    simp only [s, Broker.step, has]
  obtain ⟨hre, ha, hl, hsa⟩ := advance_spec s (config.respond ac turn site q).2
      (launchedBy call q (config.respond ac turn site q).1) hr.lands
  refine stands_step (hst.trans (Prod.ext hre rfl)) hsa ?_ ?_ ?_ ?_
  · rw [ha, hl]
    exact hr.kept
  · intro c o h
    have hc : c = call := by
      cases q with
      | launch r => cases h; rfl
      | _ => cases h
    subst hc
    exact hla _ h
  · intro c a han _ op o ho
    obtain ⟨a', hrs, heq⟩ := Option.map_eq_some_iff.1 han
    cases heq
    obtain ⟨hsm, hou⟩ := hr.answered a hrs op o ho
    rw [ha]
    exact ⟨fun _ => hou, fun h => absurd hsm h⟩
  · rw [ha, hl]
    exact hr.gone

theorem Stands.step (h : Stands config used s log) (used' : List LaunchId) (action : BrokerAction)
    (hu : used ⊆ used') (hid : ∀ id, action.launchId? = some id → id ∉ used ∧ id ∈ used') :
    Passes config used' s log action := by
  have hm : ∀ f : Manager → Manager, (∀ m, (f m).generation = m.generation ∧ (f m).refs ⊆ m.refs) →
      Carries none s.active (s.active.map f) := by
    intro f hf
    cases s.active with
    | none => exact Carries.refl none
    | some m =>
      refine ⟨fun m' h => ?_, by simpa using (hf m).2⟩
      cases h
      exact ⟨f m, rfl, (hf m).1⟩
  cases action with
  | call call =>
    by_cases hv : call.valid = true
    · obtain ⟨pending, hs, hk⟩ := h
      cases hs with
      | free ld ac => exact stands_call hk hu hv
      | held ld ac c st hfi =>
        refine stands_quiet ⟨_, .held ld ac c st hfi, hk⟩ hu (Carries.refl ac) ?_
        simp [Broker.step, hv]
    · exact stands_refused h hu (by simpa using hv)
  | answer turn site =>
    have hsi : ∀ sp, site = .ok sp → sp.launchId ∉ used ∧ sp.launchId ∈ used' := by
      rintro sp rfl
      exact hid sp.launchId rfl
    obtain ⟨pending, hs, hk⟩ := h
    cases hs with
    | free ld ac => exact stands_quiet ⟨_, .free ld ac, hk⟩ hu (Carries.refl ac) rfl
    | held ld ac c st hfi => exact stands_answer hk hfi hu hsi
  | finish li r => exact stands_quiet h hu (hm (·.finish li r) fun m => ⟨rfl, Manager.finish_refs⟩) rfl
  | collect turn => exact stands_quiet h hu (hm _ fun m => ⟨Manager.collect_generation, Manager.collect_refs⟩) rfl
  | terminate pr => exact stands_quiet h hu (hm (·.requestTermination pr) fun m => ⟨rfl, Manager.requestTermination_refs⟩) rfl
  | subscribe g => exact stands_quiet h hu (carries_managerFor config s.active g) rfl

theorem stands_initial (config) : Stands config [] .initial [] := by
  refine ⟨none, .free [] none, ?_⟩
  constructor
  case keys => exact List.nodup_nil
  case bounded => exact Nat.zero_le _
  case opened => exact fun key => rfl
  all_goals exact nofun

theorem launchIds_append (a a') : launchIds (a ++ a') = launchIds a ++ launchIds a' := by
  simp [launchIds]

/-- A step under a new identifier. -/
theorem Stands.step_run {b} (h : Stands config (launchIds b) s log)
    {action} (hi : (launchIds (b ++ [action])).Nodup) :
    Passes config (launchIds (b ++ [action])) s log action := by
  rw [launchIds_append] at hi ⊢
  refine h.step _ action (List.subset_append_left _ _) fun id hid => ?_
  have hm : id ∈ launchIds [action] := by simp [launchIds, hid]
  exact ⟨fun hin => (List.nodup_append.1 hi).2.2 id hin id hm rfl, List.mem_append_right _ hm⟩

theorem stands_run {config a} (hi : (launchIds a).Nodup) :
    Stands config (launchIds a) (brokerAfter config a) (brokerHistory config a) := by
  induction a using List.reverseRecOn with
  | nil => exact stands_initial config
  | append_singleton a action ih =>
    have hb : (launchIds a).Nodup := by
      rw [launchIds_append] at hi
      exact (List.nodup_append.1 hi).1
    simpa [brokerAfter, brokerHistory] using ((ih hb).step_run hi).1

/-- Whatever the order of calls, answers, exits and evictions: between two
launches of a key its entry was removed, and while it stands every request is
answered from it. Launch identifiers must be new when they are given. -/
theorem launches_idempotent (config : BrokerConfig) (actions : List BrokerAction) (hids : (launchIds actions).Nodup) :
    ∀ before action rest, actions = before ++ action :: rest →
      LaunchesOnce config (brokerAfter config before) (brokerHistory config before) action := by
  rintro before action rest rfl
  rw [List.append_cons, launchIds_append] at hids
  have hn := (List.nodup_append.1 hids).1
  have hb : (launchIds before).Nodup := by
    rw [launchIds_append] at hn
    exact (List.nodup_append.1 hn).1
  exact ((stands_run hb).step_run hn).2

end Runs

/-! ## A retry, and requests that are refused before the ledger -/

/-- Room for one process, one rejection and one exit. -/
def smallBroker : BrokerConfig := ⟨⟨1, 1, 1, 1, Nat.one_pos, Nat.one_pos, Nat.one_pos, Nat.one_pos⟩, [['a']]⟩

def plainTurn : Turn := ⟨fun _ => 0, fun _ => .error .processTaskPanicked⟩

/-- Application `a` in a generation, with so many empty arguments. -/
def demoCall (generation arguments : Nat) : LaunchCall :=
  ⟨⟨['a'], ⟨1⟩⟩, ⟨⟨generation⟩, ⟨['a'], List.replicate arguments []⟩⟩⟩

def demoProcess : ProcessRef := ⟨⟨1⟩, 7, 9, ⟨1⟩⟩

/-- A launch: the call gets the manager and the process. -/
def demoLaunch : List BrokerAction :=
  [.call (demoCall 1 0), .answer plainTurn (.error .spawn), .answer plainTurn (.ok ⟨7, 9, ⟨1⟩⟩)]

/-- A retry is told the process of the first launch. -/
theorem retry_told_first_outcome :
    let before := demoLaunch ++ [.call (demoCall 1 0), .answer plainTurn (.error .spawn)]
    let action : BrokerAction := .answer plainTurn (.error .spawn)
    ((brokerAfter smallBroker before).step smallBroker action).1.answered = some (demoCall 1 0, .ok demoProcess) ∧
      LaunchesOnce smallBroker (brokerAfter smallBroker before) (brokerHistory smallBroker before) action :=
  ⟨rfl, launches_idempotent smallBroker
    (demoLaunch ++ [.call (demoCall 1 0), .answer plainTurn (.error .spawn), .answer plainTurn (.error .spawn)])
    (by decide) _ _ [] rfl⟩

/-- A changed request is not always a conflict: with too many arguments it is
invalid, while the first launch stands; and after a first request of another
generation, which the manager refuses, a changed one launches. -/
theorem changed_request_without_conflict :
    (openLaunch (brokerHistory smallBroker demoLaunch) ⟨['a'], ⟨1⟩⟩ = some ((demoCall 1 0).operation, .ok demoProcess) ∧
      ((brokerAfter smallBroker demoLaunch).step smallBroker (.call (demoCall 1 65))).1.answered =
        some (demoCall 1 65, .error .invalidRequest)) ∧
    (let first : List BrokerAction := [.subscribe ⟨1⟩, .call (demoCall 2 0)]
     let action : BrokerAction := .answer plainTurn (.error .spawn)
     ((brokerAfter smallBroker first).step smallBroker action).1.answered =
        some (demoCall 2 0, .error .wrongDesktopGeneration) ∧
      ((brokerAfter smallBroker (first ++ [action] ++ demoLaunch.take 2)).step smallBroker
          (.answer plainTurn (.ok ⟨7, 9, ⟨1⟩⟩))).1.answered = some (demoCall 1 0, .ok demoProcess)) :=
  ⟨⟨rfl, rfl⟩, rfl, rfl⟩

end Xenoteer.Processd
