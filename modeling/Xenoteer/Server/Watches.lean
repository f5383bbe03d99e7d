/-
The command watches of one WebSocket session (`WatchSet` of
`xenoteer-server/src/websocket.rs`): the tasks of the `JoinSet`, and the entries
that own them, joined by a serial number.

Tasks end and are reaped in any order. An abort handle is the name of its task:
`spawned` counts the tasks, and names the next one. While the serial numbers do
not wrap, a reap takes the entry of its own task or of one that has ended
(`watch_ownership`). So a cancelled older task can take that of a newer one of
the same command (`newer_watch_dropped`).
-/
import Mathlib.Data.List.Nodup
import Xenoteer.Coordinator.Types

namespace Xenoteer.Server

def maxSessionCommandWatches : Nat := 256

structure OwnedWatch where
  command : CommandId
  serial : Nat
  abort : Nat
deriving DecidableEq

/-- A task in the set, with the entry that was made for it. Once it is over, `ended` is whether it
returned. -/
structure WatchTask where
  watch : OwnedWatch
  aborted : Bool
  ended : Option Bool
deriving DecidableEq

structure WatchSet where
  tasks : List WatchTask
  owned : List OwnedWatch
  nextSerial : Nat
  spawned : Nat

inductive WatchOp where
  | spawn (command : CommandId)
  | stop (command : CommandId)
  /-- The task returns, or it is cancelled or panics. -/
  | finish (abort : Nat) (returned : Bool)
  | reap (task : WatchTask)

namespace WatchSet

def new : WatchSet := ⟨[], [], 1, 0⟩

variable (w : WatchSet)

/-- `watch.abort.abort()` on these entries. -/
def abortAll (watches : List OwnedWatch) : List WatchTask :=
  w.tasks.map fun t => if t.watch.abort ∈ watches.map (·.abort) then { t with aborted := true } else t

def stop (command : CommandId) : Bool × WatchSet :=
  (w.owned.any (·.command = command),
    { w with
      owned := w.owned.filter (·.command ≠ command)
      tasks := w.abortAll (w.owned.filter (·.command = command)) })

def spawn (command : CommandId) : Bool × WatchSet :=
  if !w.owned.any (·.command = command) ∧ maxSessionCommandWatches ≤ w.owned.length then (false, w)
  else
    let w := (w.stop command).2
    let watch : OwnedWatch := ⟨command, w.nextSerial, w.spawned⟩
    (true,
      { tasks := w.tasks ++ [⟨watch, false, none⟩]
        owned := w.owned ++ [watch]
        nextSerial := max ((w.nextSerial + 1) % 2 ^ 64) 1
        spawned := w.spawned + 1 })

def finish (abort : Nat) (returned : Bool) : WatchSet :=
  { w with
    tasks := w.tasks.map fun t =>
      if t.watch.abort = abort ∧ t.ended = none then { t with ended := some returned } else t }

/-- `abort.is_finished()`: also when the task was reaped. -/
def isFinished (abort : Nat) : Bool := w.tasks.all fun t => t.watch.abort = abort → t.ended.isSome

/-- `reap_one`, when `join_next` gives this task. -/
def reapOne (task : WatchTask) : WatchSet :=
  let w := { w with tasks := w.tasks.erase task }
  { w with
    owned := w.owned.filter fun o =>
      if task.ended = some true then ¬ (o.command = task.watch.command ∧ o.serial = task.watch.serial)
      else !w.isFinished o.abort }

/-- The joins of `shutdown`: a task that was not aborted may go on for ever. -/
def joinAll : List WatchTask → Option (List WatchTask)
  | [] => some []
  | t :: tasks => if t.aborted ∨ t.ended.isSome then joinAll tasks else none

def shutdown : Option WatchSet :=
  (joinAll (w.abortAll w.owned)).map fun tasks => { w with tasks, owned := [] }

def step : WatchOp → WatchSet
  | .spawn command => (w.spawn command).2
  | .stop command => (w.stop command).2
  | .finish abort returned => w.finish abort returned
  | .reap task => if task ∈ w.tasks ∧ task.ended.isSome then w.reapOne task else w

def run (ops : List WatchOp) : WatchSet := ops.foldl step new

/-- Fewer than all serial numbers were given. -/
def Fresh : Prop := w.spawned < 2 ^ 64 - 1

/-- What every step preserves. -/
structure Sound (w : WatchSet) : Prop where
  bounded : w.owned.length ≤ maxSessionCommandWatches
  commands : (w.owned.map (·.command)).Nodup
  aborts : (w.tasks.map (·.watch.abort)).Nodup
  named : ∀ t ∈ w.tasks, t.watch.abort < w.spawned
  owning : ∀ o ∈ w.owned, ∃ t ∈ w.tasks, t.watch = o ∧ t.aborted = false
  serials : w.Fresh → w.nextSerial = w.spawned + 1 ∧ ∀ t ∈ w.tasks, t.watch.serial = t.watch.abort + 1
  running : w.Fresh → ∀ t ∈ w.tasks, t.aborted = false → t.ended = none → t.watch ∈ w.owned

variable {w} {t t' : WatchTask} {o o' : OwnedWatch}

theorem Sound.task_eq (h : Sound w) (ht : t ∈ w.tasks) (ht' : t' ∈ w.tasks)
    (ha : t.watch.abort = t'.watch.abort) : t = t' :=
  List.inj_on_of_nodup_map h.aborts ht ht' ha

theorem Sound.watch_eq (h : Sound w) (ho : o ∈ w.owned) (ho' : o' ∈ w.owned)
    (ha : o.abort = o'.abort) : o = o' := by
  obtain ⟨t, ht, rfl, -⟩ := h.owning o ho
  obtain ⟨t', ht', rfl, -⟩ := h.owning o' ho'
  rw [h.task_eq ht ht' ha]

/-- Tasks keep their entries, and those of the entries that stay are not aborted. -/
theorem Sound.mapped (h : Sound w) {g : WatchTask → WatchTask} {owned' : List OwnedWatch}
    (hs : owned'.Sublist w.owned) (hg : ∀ t, (g t).watch = t.watch)
    (ha : ∀ t, t.watch ∈ owned' → (g t).aborted = t.aborted)
    (hr : ∀ t, (g t).aborted = false → (g t).ended = none →
      t.aborted = false ∧ t.ended = none ∧ (t.watch ∈ w.owned → t.watch ∈ owned')) :
    Sound { w with owned := owned', tasks := w.tasks.map g } where
  bounded := hs.length_le.trans h.bounded
  commands := h.commands.sublist (hs.map _)
  aborts := by simpa [Function.comp_def, hg] using h.aborts
  named := by simpa [hg] using h.named
  serials hf := by simpa [hg] using h.serials hf
  owning := by
    intro o ho
    obtain ⟨t, ht, rfl, hna⟩ := h.owning o (hs.subset ho)
    exact ⟨g t, List.mem_map_of_mem ht, hg t, (ha t ho).trans hna⟩
  running := by
    intro hf t' ht' hna he
    obtain ⟨t, ht, rfl⟩ := List.mem_map.mp ht'
    obtain ⟨hna, he, hk⟩ := hr t hna he
    rw [hg]
    exact hk (h.running hf t ht hna he)

theorem Sound.stop (h : Sound w) (c) : Sound (w.stop c).2 := by
  refine h.mapped List.filter_sublist (fun t => ?_) (fun t hw => ?_) fun t hna he => ?_
  · split <;> rfl
  · -- the entry of another command has another task
    obtain ⟨ho, hc⟩ := List.mem_filter.mp hw
    rw [if_neg]
    intro hm
    obtain ⟨o', ho', ha⟩ := List.mem_map.mp hm
    obtain ⟨ho', hc'⟩ := List.mem_filter.mp ho'
    cases h.watch_eq ho' ho ha
    simp_all
  · split at hna
    · cases hna
    rename_i hno
    rw [if_neg hno] at he
    refine ⟨hna, he, fun ho => List.mem_filter.mpr ⟨ho, ?_⟩⟩
    by_contra hc
    exact hno (List.mem_map_of_mem (List.mem_filter.mpr ⟨ho, by simpa using hc⟩))

theorem Sound.finish (h : Sound w) (a r) : Sound (w.finish a r) := by
  refine h.mapped (List.Sublist.refl _) (fun t => ?_) (fun t _ => ?_) fun t hna he => ?_
  · split <;> rfl
  · split <;> rfl
  split at he
  · cases he
  next hno =>
    rw [if_neg hno] at hna
    exact ⟨hna, he, id⟩

theorem Sound.spawn (h : Sound w) (c) : Sound (w.spawn c).2 := by
  unfold WatchSet.spawn
  split
  · exact h
  rename_i hr
  have hs := h.stop c
  have hl : (w.stop c).2.owned.length < maxSessionCommandWatches := by
    by_cases hc : w.owned.any (·.command = c)
    · refine (List.length_filter_lt_length_iff_exists.mpr ?_).trans_le h.bounded
      simpa using hc
    · exact (List.length_filter_le _ _).trans_lt (by simpa [hc] using hr)
  constructor
  case bounded => simpa using Nat.succ_le_of_lt hl
  case commands =>
    rw [List.map_append]
    refine List.nodup_append.mpr ⟨hs.commands, by simp, fun x hx y hy he => ?_⟩
    obtain ⟨o, ho, rfl⟩ := List.mem_map.mp hx
    exact of_decide_eq_true (List.mem_filter.mp ho).2 (he.trans (List.mem_singleton.mp hy))
  case aborts =>
    rw [List.map_append]
    refine List.nodup_append.mpr ⟨hs.aborts, by simp, fun x hx y hy he => ?_⟩
    obtain ⟨t, ht, rfl⟩ := List.mem_map.mp hx
    exact (hs.named t ht).ne (he.trans (List.mem_singleton.mp hy))
  case named =>
    exact List.forall_mem_append.mpr ⟨fun t ht => (hs.named t ht).trans (Nat.lt_succ_self _), by simp⟩
  case owning =>
    refine List.forall_mem_append.mpr ⟨fun o ho => ?_, by simp⟩
    obtain ⟨t, ht, h⟩ := hs.owning o ho
    exact ⟨t, List.mem_append_left _ ht, h⟩
  case serials =>
    intro hn
    have hn : w.spawned + 1 < 2 ^ 64 - 1 := hn
    obtain ⟨hx, hse⟩ := hs.serials (show w.spawned < _ by omega)
    have hx : w.nextSerial = w.spawned + 1 := hx
    refine ⟨show max ((w.nextSerial + 1) % 2 ^ 64) 1 = w.spawned + 2 by omega, ?_⟩
    exact List.forall_mem_append.mpr ⟨hse, by simpa [WatchSet.stop] using hx⟩
  case running =>
    intro hn
    have hn : w.spawned + 1 < 2 ^ 64 - 1 := hn
    refine List.forall_mem_append.mpr ⟨fun t ht hna he => List.mem_append_left _ ?_, by simp⟩
    exact hs.running (show w.spawned < _ by omega) t ht hna he

theorem isFinished_iff {a} : w.isFinished a ↔ ∀ t ∈ w.tasks, t.watch.abort = a → t.ended.isSome := by
  simp [isFinished, imp_iff_not_or]

/-- A reap takes the entry of its own task, or of one that has ended. -/
theorem Sound.reaped (h : Sound w) (hf : w.Fresh) (ht : t ∈ w.tasks) (ho : o ∈ w.owned)
    (hno : o ∉ (w.reapOne t).owned) : o = t.watch ∨ w.isFinished o.abort := by
  obtain ⟨t', ht', rfl, -⟩ := h.owning o ho
  have hc := mt (fun hc => List.mem_filter.mpr ⟨ho, hc⟩) hno
  split at hc
  · have hse := (h.serials hf).2
    have hts : t'.watch.serial = t.watch.serial := by simp_all
    rw [hse t ht, hse t' ht'] at hts
    rw [h.task_eq ht' ht (Nat.succ.inj hts)]
    exact .inl rfl
  · refine or_iff_not_imp_left.mpr fun hne => isFinished_iff.mpr fun t₂ ht₂ ha => ?_
    have hfi : WatchSet.isFinished { w with tasks := w.tasks.erase t } t'.watch.abort := by simpa using hc
    refine isFinished_iff.mp hfi t₂ ((List.mem_erase_of_ne ?_).mpr ht₂) ha
    rintro rfl
    rw [h.task_eq ht₂ ht' ha] at hne
    exact hne rfl

theorem Sound.reapOne (h : Sound w) (ht : t ∈ w.tasks) (he : t.ended.isSome) : Sound (w.reapOne t) where
  bounded := (List.length_filter_le _ _).trans h.bounded
  commands := h.commands.sublist (List.filter_sublist.map _)
  aborts := h.aborts.sublist (List.erase_sublist.map _)
  named t' ht' := h.named t' (List.mem_of_mem_erase ht')
  serials hf := ⟨(h.serials hf).1, fun t' ht' => (h.serials hf).2 t' (List.mem_of_mem_erase ht')⟩
  owning := by
    intro o ho
    obtain ⟨ho, hc⟩ := List.mem_filter.mp ho
    obtain ⟨t', ht', rfl, hna⟩ := h.owning o ho
    refine ⟨t', (List.mem_erase_of_ne ?_).mpr ht', rfl, hna⟩
    rintro rfl
    split at hc
    · simp at hc
    have hfi : WatchSet.isFinished { w with tasks := w.tasks.erase t' } t'.watch.abort := by
      refine isFinished_iff.mpr fun t₂ ht₂ ha => ?_
      rwa [h.task_eq (List.mem_of_mem_erase ht₂) ht ha]
    simp [hfi] at hc
  running := by
    intro hf t' ht' hna hn
    have ht' := List.mem_of_mem_erase ht'
    have ho := h.running hf t' ht' hna hn
    by_contra hno
    have he' : t'.ended.isSome := by
      rcases h.reaped hf ht ho hno with hw | hfi
      · rwa [h.task_eq ht' ht (congrArg _ hw)]
      · exact isFinished_iff.mp hfi t' ht' rfl
    simp [hn] at he'

theorem Sound.step (h : Sound w) (op) : Sound (w.step op) := by
  cases op with
  | spawn c => exact h.spawn c
  | stop c => exact h.stop c
  | finish a r => exact h.finish a r
  | reap t =>
    simp only [WatchSet.step]
    split
    next hr => exact h.reapOne hr.1 hr.2
    · exact h

theorem Sound.run (h : Sound w) (ops : List WatchOp) : Sound (ops.foldl WatchSet.step w) :=
  List.foldlRecOn ops WatchSet.step h fun _ hw op _ => hw.step op

theorem sound_new : Sound new := by
  constructor <;> simp [new]

theorem joinAll_eq {l : List WatchTask} (h : ∀ t ∈ l, t.aborted ∨ t.ended.isSome) : joinAll l = some [] := by
  induction l with
  | nil => rfl
  | cons t l ih =>
    obtain ⟨ht, hl⟩ := List.forall_mem_cons.mp h
    rw [joinAll, if_pos ht, ih hl]

/-- Every task that was not aborted and goes on has an entry, so `shutdown` aborts it. -/
theorem Sound.shutdown (h : Sound w) (hf : w.Fresh) : w.shutdown = some { w with tasks := [], owned := [] } := by
  rw [WatchSet.shutdown, joinAll_eq]
  · rfl
  intro t' ht'
  obtain ⟨t, ht, rfl⟩ := List.mem_map.mp ht'
  split
  · exact .inl rfl
  rename_i hno
  by_contra hr
  have ho := h.running hf t ht (by simp_all) (by simp_all)
  exact hno (List.mem_map_of_mem ho)

/-- What holds of the watches of a session at any time. -/
structure Owns (w : WatchSet) : Prop extends Sound w where
  reaped : w.Fresh → ∀ t ∈ w.tasks, ∀ o ∈ w.owned, o ∉ (w.reapOne t).owned →
    o = t.watch ∨ w.isFinished o.abort
  shutdown : w.Fresh → w.shutdown = some { w with tasks := [], owned := [] }

/-- Whatever the order of starts, stops, ends and reaps. -/
theorem watch_ownership (ops : List WatchOp) : Owns (run ops) := by
  have h := sound_new.run ops
  exact ⟨h, fun hf t ht o ho hno => h.reaped hf ht ho hno, h.shutdown⟩

/-- The older task of the command was stopped and has just been cancelled; the newer one has
returned. Reaping the older takes the entry of the newer, so that the next watch does not
stop it: the command then has two tasks that were not aborted. -/
theorem newer_watch_dropped :
    let c : CommandId := ⟨0⟩
    let older : WatchTask := ⟨⟨c, 1, 0⟩, true, some false⟩
    let w := run [.spawn c, .spawn c, .finish 0 false, .finish 1 true]
    w.owned = [⟨c, 2, 1⟩] ∧ (w.reapOne older).owned = [] ∧
    ((w.step (.reap older)).step (.spawn c)).tasks =
      [⟨⟨c, 2, 1⟩, false, some true⟩, ⟨⟨c, 3, 2⟩, false, none⟩] := by
  decide

end WatchSet

end Xenoteer.Server
