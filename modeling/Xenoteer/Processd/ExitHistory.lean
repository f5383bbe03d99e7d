/-
The exit history of the process manager over all that is ever recorded
(`record_exit`, `replay_events` and `subscribe_events` of `process_manager.rs`).
What is retained is the tail of what was sent after `dropped_events_through`,
so a replay from there on is complete, and a subscriber that puts the live
exits after it misses none.
-/
import Xenoteer.Lib.NumberedLog
import Xenoteer.Processd.Manager

namespace Xenoteer.Processd

open Lib.NumberedLog

variable {limits : ProcessManagerLimits} {m : Manager}

/-- Numbered without a gap from the first entry not dropped, the entries evicted are
the oldest ones and the watermark moves past each of them. -/
theorem evict_numbered {c : Nat} : ∀ {e : List SequencedProcessEvent} {d : Nat},
    NumberedFrom SequencedProcessEvent.sequence (d + 1) e →
    evict c e d = (e.drop (e.length - c), d + (e.length - c))
  | [], d, _ => by simp [evict]
  | a :: e, d, h => by
    obtain ⟨ha, he⟩ := NumberedFrom.cons_iff.mp h
    rw [evict]
    split
    · rename_i hc
      have hl : (a :: e).length - c = e.length - c + 1 := by grind
      rw [ha, Nat.max_eq_right (Nat.le_succ d), evict_numbered he, hl, List.drop_succ_cons]
      congr 1
      omega
    · rename_i hc
      rw [Nat.sub_eq_zero_of_le (by omega)]
      rfl

namespace Manager

/-- These exits are given to `record_exit` in turn. -/
def recordExits (limits : ProcessManagerLimits) (m : Manager) (exits : List ProcessExit) : Manager :=
  exits.foldl (fun m exit => (m.recordExit limits exit).2) m

/-- What the history of a manager is once `exits` were given to it. -/
structure Remembers (limits : ProcessManagerLimits) (exits : List ProcessExit) (m : Manager) : Prop where
  numbered : NumberedFrom SequencedProcessEvent.sequence 1 m.events
  recorded : m.events.map (·.exit) = exits.take (2 ^ 64 - 1)
  latest : m.latestEventSequence = m.events.length
  dropped_le : m.droppedEventsThrough ≤ m.events.length
  retained : m.exited = m.events.drop m.droppedEventsThrough
  within : m.exited.length ≤ limits.exitHistoryCapacity

theorem Remembers.new (generation) : Remembers limits [] (Manager.new generation) where
  numbered := .nil
  recorded := by simp [Manager.new]
  latest := rfl
  dropped_le := Nat.le_refl 0
  retained := rfl
  within := Nat.zero_le _

/-- One call of `record_exit`. -/
theorem Remembers.recordExit {exits} (h : Remembers limits exits m) (exit) :
    Remembers limits (exits ++ [exit]) (m.recordExit limits exit).2 ∧
      m.droppedEventsThrough ≤ (m.recordExit limits exit).2.droppedEventsThrough ∧
      ∃ sent, (m.recordExit limits exit).2.events = m.events ++ sent := by
  have hn : m.events.length = min (2 ^ 64 - 1) exits.length := by
    simpa using congrArg List.length h.recorded
  unfold Manager.recordExit
  split
  case isFalse hx =>
    -- the sequence is exhausted: no exit is recorded any more
    refine ⟨⟨h.numbered, ?_, h.latest, h.dropped_le, h.retained, h.within⟩, Nat.le_refl _, [], by simp⟩
    rw [h.recorded, List.take_append_of_le_length (by rw [h.latest] at hx; omega)]
  case isTrue hx =>
    rw [h.latest] at hx ⊢
    let event : SequencedProcessEvent := ⟨m.events.length + 1, exit⟩
    have hs : event.sequence = 1 + m.events.length := Nat.add_comm ..
    have hd := h.dropped_le
    have htail : m.exited ++ [event] = (m.events ++ [event]).drop m.droppedEventsThrough := by
      rw [h.retained, List.drop_append_of_le_length hd]
    have hall := h.numbered.append_singleton hs
    have he := evict_numbered (c := limits.exitHistoryCapacity) (Nat.add_comm 1 _ ▸ hall.drop m.droppedEventsThrough)
    simp only [show ⟨m.events.length + 1, exit⟩ = event from rfl, htail, he]
    refine ⟨⟨hall, ?_, by simp, ?_, by rw [List.drop_drop], ?_⟩, Nat.le_add_right .., [event], rfl⟩
    · rw [List.map_append, h.recorded, List.take_of_length_le (by omega), List.take_of_length_le (by simp; omega)]
      rfl
    · simp only [List.length_drop, List.length_append, List.length_singleton]
      omega
    · simp only [List.length_drop, List.length_append, List.length_singleton]
      omega

theorem Remembers.recordExits (exits) : ∀ {m : Manager} {before}, Remembers limits before m →
    Remembers limits (before ++ exits) (m.recordExits limits exits) ∧
      m.droppedEventsThrough ≤ (m.recordExits limits exits).droppedEventsThrough ∧
      ∃ sent, (m.recordExits limits exits).events = m.events ++ sent := by
  induction exits with
  | nil => exact fun {m _} h => ⟨(List.append_nil _).symm ▸ h, Nat.le_refl _, [], (List.append_nil _).symm⟩
  | cons exit exits ih =>
    intro m before h
    obtain ⟨h₁, hd₁, s₁, hs₁⟩ := h.recordExit exit
    obtain ⟨h₂, hd₂, s₂, hs₂⟩ := ih h₁
    rw [List.append_assoc] at h₂
    refine ⟨h₂, Nat.le_trans hd₁ hd₂, s₁ ++ s₂, ?_⟩
    rw [← List.append_assoc, ← hs₁]
    exact hs₂

/-- A replay is given exactly between the watermark and the latest sequence, and is
then all that was sent after `since`. -/
theorem Remembers.replayEvents {exits} (h : Remembers limits exits m) (since : Nat) :
    m.replayEvents (some since) =
      if m.droppedEventsThrough ≤ since ∧ since ≤ m.latestEventSequence then
        .events m.latestEventSequence (m.events.filter fun event => since < event.sequence)
      else .resyncRequired m.droppedEventsThrough m.latestEventSequence := by
  rw [Manager.replayEvents, h.retained]
  by_cases hs : m.droppedEventsThrough ≤ since ∧ since ≤ m.latestEventSequence
  · have hn : ¬ (m.latestEventSequence < since ∨ since < m.droppedEventsThrough) := by omega
    rw [if_neg hn, if_pos hs, h.numbered.filter_lt_drop hs.1]
  · have hn : m.latestEventSequence < since ∨ since < m.droppedEventsThrough := by omega
    rw [if_pos hn, if_neg hs]

section

variable {exits exits' : List ProcessExit} {m' : Manager} {sent' : List SequencedProcessEvent}

/-- A receiver that was there before the snapshot has been sent everything after it. -/
theorem Remembers.live (h : Remembers limits exits m) (h' : Remembers limits exits' m') {before sent}
    (hb : m.events = before ++ sent) (hs : m'.events = m.events ++ sent') :
    (m'.events.drop before.length).filter (fun event => m.latestEventSequence < event.sequence) = sent' := by
  have hle : before.length ≤ m.latestEventSequence := by simp [h.latest, hb]
  rw [h'.numbered.filter_lt_drop hle, h'.numbered.filter_lt, h.latest, hs]
  simp

/-- Sent after `since`, in order, are the events of the replay and then the later ones. -/
theorem Remembers.filter_append (h : Remembers limits exits m) (h' : Remembers limits exits' m')
    (hs : m'.events = m.events ++ sent') {since : Nat} (hl : since ≤ m.latestEventSequence) :
    m.events.filter (fun event => since < event.sequence) ++ sent' =
      m'.events.filter fun event => since < event.sequence := by
  have hk : since + 1 - 1 ≤ m.events.length := h.latest ▸ hl
  rw [h.numbered.filter_lt, h'.numbered.filter_lt, hs, List.drop_append_of_le_length hk]

end

/-- What a client gets that subscribed to live exits at `subscribed`, took its replay at `m`
and is at `now`: it leaves out the live sequences up to the latest of the replay. -/
structure Replays (limits : ProcessManagerLimits) (recorded : List ProcessExit) (subscribed m now : Manager) : Prop where
  exits : m.events.map (·.exit) = recorded.take (2 ^ 64 - 1)
  sequences : m.events.map (·.sequence) = List.range' 1 m.latestEventSequence
  replay : ∀ since, m.replayEvents (some since) =
    if m.droppedEventsThrough ≤ since ∧ since ≤ m.latestEventSequence then
      .events m.latestEventSequence (m.events.filter fun event => since < event.sequence)
    else .resyncRequired m.droppedEventsThrough m.latestEventSequence
  onward : ∀ since ≤ m.latestEventSequence, m.events.filter (fun event => since < event.sequence) ++
    (now.events.drop subscribed.events.length).filter (fun event => m.latestEventSequence < event.sequence) =
      now.events.filter fun event => since < event.sequence
  fresh : m.replayEvents none = .events m.latestEventSequence []
  retained : m.exited.length ≤ limits.exitHistoryCapacity
  dropped : m.droppedEventsThrough ≤ now.droppedEventsThrough

/-- **The exit history is complete.** After any exits, the events sent are the exits in
order, numbered from one (the last `u64` ends the recording). A replay from `since` is
given exactly when `dropped_events_through ≤ since ≤ latest` and is every event after
`since`; with the later live events it is every event after `since` that is ever sent. -/
theorem exit_history_replays (limits : ProcessManagerLimits) (generation : DesktopGeneration)
    (early between later : List ProcessExit) :
    Replays limits (early ++ between) ((Manager.new generation).recordExits limits early)
      (((Manager.new generation).recordExits limits early).recordExits limits between)
      ((((Manager.new generation).recordExits limits early).recordExits limits between).recordExits limits later) := by
  have h₀ := Remembers.recordExits early (Remembers.new generation : Remembers limits [] _)
  obtain ⟨h₁, -, sent, hsent⟩ := Remembers.recordExits between h₀.1
  obtain ⟨h₂, hd, sent', hsent'⟩ := Remembers.recordExits later h₁
  constructor
  case exits => exact h₁.recorded
  case sequences => exact h₁.latest ▸ h₁.numbered
  case replay => exact h₁.replayEvents
  case onward =>
    intro since hs
    rw [h₁.live h₂ hsent hsent']
    exact h₁.filter_append h₂ hsent' hs
  case fresh => rfl
  case retained => exact h₁.within
  case dropped => exact hd

end Manager

end Xenoteer.Processd
