/-
What the event hub keeps, over whole runs. Its purpose in one line: the
events published in the current generation form a log numbered from one,
and the hub holds the part of it after `droppedThrough`.

`Retains hub published` says so; `publishedIn` reads the log off the
operations and their replies. Every operation keeps the relation, and a
replay that is answered with events answers for the whole log.
-/
import Xenoteer.Coordinator.EventHub
import Xenoteer.Lib.NumberedLog
import Xenoteer.Lib.Run

namespace Xenoteer.EventHub

open Lib.Run Lib.NumberedLog

variable {E : Type}

/-! ## Runs -/

inductive Op (E : Type) where
  | publish (event : E) (encodedSize : Nat) (generation : GenerationToken)
  | rotateGeneration (generation : GenerationToken)

inductive Reply where
  | published (result : Except EventHubError PublishOutcome)
  | rotated (result : Except EventHubError Nat)

def step (hub : EventHub E) : Op E → Reply × EventHub E
  | .publish event encodedSize generation =>
    let (result, hub) := hub.publish event encodedSize generation
    (.published result, hub)
  | .rotateGeneration generation =>
    let (result, hub) := hub.rotateGeneration generation
    (.rotated result, hub)

/-- The log after one more answer: a published event with the sequence it
was given, or nothing once a rotation succeeds. -/
def record (published : List (EventRecord E)) : Op E × Reply → List (EventRecord E)
  | (.publish event encodedSize generation, .published (.ok outcome)) =>
    published ++ [⟨generation, outcome.sequence, encodedSize, event⟩]
  | (.rotateGeneration _, .rotated (.ok _)) => []
  | _ => published

/-- The events published in the current generation, in order. -/
def publishedIn (log : List (Op E × Reply)) : List (EventRecord E) := log.foldl record []

/-- The sizes charged to retention. -/
def encodedBytes (records : List (EventRecord E)) : Nat := (records.map (·.encodedSize)).sum

@[simp] theorem encodedBytes_nil : encodedBytes ([] : List (EventRecord E)) = 0 := rfl

@[simp] theorem encodedBytes_cons (r : EventRecord E) (rs) :
    encodedBytes (r :: rs) = r.encodedSize + encodedBytes rs := by simp [encodedBytes]

@[simp] theorem encodedBytes_append (rs₁ rs₂ : List (EventRecord E)) :
    encodedBytes (rs₁ ++ rs₂) = encodedBytes rs₁ + encodedBytes rs₂ := by simp [encodedBytes]

/-! ## Retention -/

/-- The hub holds the part of the log after `droppedThrough`, within both
bounds. -/
structure Retains (hub : EventHub E) (published : List (EventRecord E)) : Prop where
  numbered : NumberedFrom EventRecord.sequence 1 published
  latest : hub.latestSequence = published.length
  dropped_le : hub.droppedThrough ≤ published.length
  retained : hub.retained = published.drop hub.droppedThrough
  count_le : hub.retained.length ≤ hub.limits.maximumEvents
  bytes : hub.retainedBytes = encodedBytes hub.retained
  bytes_le : hub.retainedBytes ≤ hub.limits.maximumEncodedBytes
  current : ∀ r ∈ published, r.generation = hub.generation

variable {hub : EventHub E}

theorem Retains.new {desktopId generation limits}
    (h : EventHub.new desktopId generation limits = .ok hub) : Retains hub [] ∧ hub.limits = limits := by
  simp only [EventHub.new] at h
  split at h
  · cases h
  cases h
  exact ⟨⟨NumberedFrom.nil, rfl, Nat.le_refl _, rfl, Nat.zero_le _, rfl, Nat.zero_le _, by simp⟩, rfl⟩

/-- The loop of `publish` always ends with room: it evicts some `k` events
from the front and never reports a violation. -/
theorem makeRoom_ok (hub : EventHub E) {es} (hs : es ≤ hub.limits.maximumEncodedBytes) :
    ∀ (log : List (EventRecord E)) (d e : Nat), NumberedFrom EventRecord.sequence (d + 1) log →
      ∃ k, k ≤ log.length ∧ ¬ Crowded hub.limits es (log.drop k) (encodedBytes (log.drop k)) ∧
        hub.makeRoom es log (encodedBytes log) d e = (.ok (e + k),
            { hub with
              retained := log.drop k
              retainedBytes := encodedBytes (log.drop k)
              droppedThrough := d + k })
  | [], d, e, _ => by
    have hro : ¬ Crowded hub.limits es ([] : List (EventRecord E)) 0 := by
      have := hub.limits.events_pos
      simp [Crowded]
      omega
    exact ⟨0, Nat.le_refl _, by simpa using hro, by simp [makeRoom, hro]⟩
  | r :: log, d, e, hn => by
    obtain ⟨hr, hl⟩ := NumberedFrom.cons_iff.mp hn
    by_cases hc : Crowded hub.limits es (r :: log) (encodedBytes (r :: log))
    · -- One turn of the loop: the front event goes and its sequence is the new watermark.
      have hsu : checkedSub (encodedBytes (r :: log)) r.encodedSize = some (encodedBytes log) := by
        simp [checkedSub]
      have hm : max d r.sequence = d + 1 := by omega
      obtain ⟨k, hk, hro, heq⟩ := makeRoom_ok hub hs log (d + 1) (e + 1) hl
      refine ⟨k + 1, by simpa using hk, by simpa using hro, ?_⟩
      simp only [makeRoom, hc, if_true, hsu, hm, heq, List.drop_succ_cons]
      simp [Nat.add_assoc, Nat.add_comm 1]
    · exact ⟨0, Nat.zero_le _, by simpa using hc, by simp only [makeRoom, hc, if_false]; rfl⟩

/-- What an event published in this generation becomes in the log. -/
def nextRecord (hub : EventHub E) (event : E) (encodedSize : Nat) : EventRecord E :=
  ⟨hub.generation, hub.latestSequence + 1, encodedSize, event⟩

/-- A publication is refused and changes nothing, or the event takes the
next sequence and the hub retains the longer log. -/
theorem Retains.publish {hub' published event encodedSize generation r}
    (h : Retains hub published) (hp : hub.publish event encodedSize generation = (r, hub')) :
    (∃ e, r = .error e ∧ e ≠ .invariantViolation ∧ hub' = hub) ∨
    (∃ o, r = .ok o ∧ generation = hub.generation ∧
      o.sequence = hub.latestSequence + 1 ∧ hub'.generation = hub.generation ∧
      hub'.desktopId = hub.desktopId ∧ hub'.limits = hub.limits ∧
      Retains hub' (published ++ [nextRecord hub event encodedSize])) := by
  simp only [EventHub.publish, validateGeneration] at hp
  split at hp
  · -- A token the hub does not accept.
    next e he =>
    cases hp
    refine .inl ⟨e, rfl, ?_, rfl⟩
    rintro rfl
    split at he
    · cases he
    split at he <;> cases he
  next u hu =>
  have hge : generation = hub.generation := by
    split at hu
    · cases hu
    split at hu
    · cases hu
    next hg => simpa using hg
  subst hge
  split at hp
  · cases hp; exact .inl ⟨_, rfl, by simp, rfl⟩
  split at hp
  · cases hp; exact .inl ⟨_, rfl, by simp, rfl⟩
  next s hs =>
  obtain ⟨-, rfl⟩ := checkedAdd_eq_some.mp hs
  have hn : NumberedFrom EventRecord.sequence 1 (published ++ [nextRecord hub event encodedSize]) :=
    h.numbered.append_singleton (by simp [nextRecord, h.latest, Nat.add_comm])
  have hc : ∀ r ∈ published ++ [nextRecord hub event encodedSize], r.generation = hub.generation := by
    intro r hr
    rcases List.mem_append.mp hr with hr | hr
    · exact h.current r hr
    · rw [List.mem_singleton.mp hr]; rfl
  split at hp
  · -- Larger than the byte bound: everything so far leaves retention.
    cases hp
    refine .inr ⟨_, rfl, rfl, rfl, rfl, rfl, rfl, ⟨hn, ?_, ?_, ?_, ?_, rfl, Nat.zero_le _, hc⟩⟩
    · simp [h.latest]
    · simp [h.latest]
    · simp [h.latest]
    · simp
  next hf =>
  have hsi : encodedSize ≤ hub.limits.maximumEncodedBytes := by omega
  have hl : NumberedFrom EventRecord.sequence (hub.droppedThrough + 1) hub.retained := by
    rw [h.retained, Nat.add_comm]; exact h.numbered.drop _
  obtain ⟨k, hk, hro, hmk⟩ :=
    makeRoom_ok { hub with latestSequence := hub.latestSequence + 1 } hsi hub.retained
      hub.droppedThrough 0 hl
  rw [← h.bytes] at hmk
  simp only [hmk] at hp
  simp only [Crowded, not_or, Nat.not_le, Nat.not_lt] at hro
  obtain ⟨hco, hb⟩ := hro
  have ha : checkedAdd (encodedBytes (hub.retained.drop k)) encodedSize =
      some (encodedBytes (hub.retained.drop k) + encodedSize) := by
    have := hub.limits.bytes_le
    exact checkedAdd_eq_some.mpr ⟨by omega, rfl⟩
  simp only [ha] at hp
  cases hp
  have hle : hub.droppedThrough + k ≤ published.length := by
    rw [h.retained, List.length_drop] at hk
    have := h.dropped_le
    omega
  refine .inr ⟨_, rfl, rfl, rfl, rfl, rfl, rfl, ⟨hn, ?_, ?_, ?_, ?_, ?_, ?_, hc⟩⟩
  · simp [h.latest]
  · simp only [List.length_append, List.length_singleton]; omega
  · rw [List.drop_append_of_le_length hle, h.retained, List.drop_drop]; rfl
  · simp only [List.length_append, List.length_singleton]; omega
  · simp
  · simp only; omega

/-- A rotation is refused and changes nothing, or starts an empty log. -/
theorem Retains.rotateGeneration {hub' generation r} (hp : hub.rotateGeneration generation = (r, hub')) :
    (∃ e, r = .error e ∧ e ≠ .invariantViolation ∧ hub' = hub) ∨
    (∃ n, r = .ok n ∧ hub'.generation = generation ∧ hub'.desktopId = hub.desktopId ∧
      hub'.limits = hub.limits ∧ Retains hub' []) := by
  simp only [EventHub.rotateGeneration] at hp
  split at hp
  · cases hp; exact .inl ⟨_, rfl, by simp, rfl⟩
  split at hp
  · cases hp; exact .inl ⟨_, rfl, by simp, rfl⟩
  cases hp
  exact .inr ⟨_, rfl, rfl, rfl, rfl, ⟨NumberedFrom.nil, rfl, Nat.le_refl _, rfl, Nat.zero_le _, rfl,
    Nat.zero_le _, by simp⟩⟩

/-! ## The fence -/

/-- What `publish` does not touch. -/
structure SameFence (hub hub' : EventHub E) : Prop where
  desktop : hub'.desktopId = hub.desktopId
  generation : hub'.generation = hub.generation

theorem makeRoom_sameFence (hub : EventHub E) (es : Nat) : ∀ (log : List (EventRecord E)) (b d e : Nat),
      SameFence hub (hub.makeRoom es log b d e).2
  | [], b, d, e => by
    simp only [makeRoom]
    split <;> exact ⟨rfl, rfl⟩
  | record :: rest, b, d, e => by
    simp only [makeRoom]
    split
    · split
      · exact ⟨rfl, rfl⟩
      · exact makeRoom_sameFence hub es rest _ _ _
    · exact ⟨rfl, rfl⟩

theorem publish_sameFence (hub : EventHub E) (e : E) (es : Nat) (g) :
    SameFence hub (hub.publish e es g).2 := by
  simp only [publish]
  split
  · exact ⟨rfl, rfl⟩
  split
  · exact ⟨rfl, rfl⟩
  split
  · exact ⟨rfl, rfl⟩
  rename_i s _
  split
  · exact ⟨rfl, rfl⟩
  have hr := makeRoom_sameFence { hub with latestSequence := s } es hub.retained
    hub.retainedBytes hub.droppedThrough 0
  split
  next hm => rw [hm] at hr; exact ⟨hr.desktop, hr.generation⟩
  next hm =>
    rw [hm] at hr
    split <;> exact ⟨hr.desktop, hr.generation⟩

/-! ## Every run -/

/-- The relation, and the bounds the hub was made with, after one operation: its reply reports
no violation. -/
theorem Retains.step {limits published} (h : Retains hub published) (hl : hub.limits = limits) (op : Op E) :
    (Retains (hub.step op).2 (record published (op, (hub.step op).1)) ∧ (hub.step op).2.limits = limits) ∧
    (hub.step op).1 ≠ .published (.error .invariantViolation) ∧
    (hub.step op).1 ≠ .rotated (.error .invariantViolation) := by
  cases op with
  | publish ev es g =>
    cases hp : hub.publish ev es g with | mk r hub' =>
    simp only [EventHub.step, hp]
    rcases h.publish hp with ⟨e, rfl, hne, rfl⟩ | ⟨o, rfl, rfl, hs, -, -, hli, hr⟩
    · exact ⟨⟨h, hl⟩, by simpa using hne⟩
    · refine ⟨⟨?_, hli.trans hl⟩, by simp⟩
      simpa only [record, hs, nextRecord] using hr
  | rotateGeneration g =>
    cases hp : hub.rotateGeneration g with | mk r hub' =>
    simp only [EventHub.step, hp]
    rcases Retains.rotateGeneration hp with ⟨e, rfl, hne, rfl⟩ | ⟨n, rfl, -, -, hli, hr⟩
    · exact ⟨⟨h, hl⟩, by simpa using hne⟩
    · exact ⟨⟨hr, hli.trans hl⟩, by simp⟩

/-- A replay answers events exactly inside the window, and then with every
event of the log after `since`. -/
theorem Retains.replaySince {published} (h : Retains hub published) (g : GenerationToken) (s : Nat) :
    (g = hub.generation ∧ hub.droppedThrough ≤ s ∧ s ≤ hub.latestSequence ∧ hub.replaySince g s =
        .events s hub.latestSequence (published.filter fun r => s < r.sequence)) ∨
    (¬ (g = hub.generation ∧ hub.droppedThrough ≤ s ∧ s ≤ hub.latestSequence) ∧
      ∃ rs, hub.replaySince g s = hub.resync rs) := by
  simp only [EventHub.replaySince]
  split
  · next hg => exact .inr ⟨fun hc => hg hc.1, _, rfl⟩
  next hg =>
  split
  · next hs => exact .inr ⟨fun hc => by omega, _, rfl⟩
  split
  · next hs => exact .inr ⟨fun hc => by omega, _, rfl⟩
  next ha hl =>
  refine .inl ⟨by simpa using hg, by omega, by omega, ?_⟩
  rw [h.retained, h.numbered.filter_lt_drop (by omega)]

theorem retains_final {desktopId generation limits hub₀}
    (hn : EventHub.new desktopId generation limits = .ok hub₀) (ops : List (Op E)) :
    Retains (final step hub₀ ops) (publishedIn (answers step hub₀ ops)) ∧
      (final step hub₀ ops).limits = limits := by
  refine run_induction (P := fun hub log => Retains hub (publishedIn log) ∧ hub.limits = limits)
    (Retains.new hn) ?_ ops
  intro hub log op ⟨h, hl⟩
  simpa only [publishedIn, List.foldl_append, List.foldl_cons, List.foldl_nil] using (h.step hl op).1

/-- **Replay is complete or refused.** After any publications and rotations,
a replay is answered with events exactly when it asks for the current
generation and a point inside the retained window, and then with every
event published in this generation after that point, in order, each once,
as it was published. Retention stays within both bounds, holds exactly the
sequences after `droppedThrough`, and no operation reports a violation. -/
theorem replay_complete_or_refused {desktopId generation₀ limits} {hub₀ : EventHub E}
    (hnew : EventHub.new desktopId generation₀ limits = .ok hub₀) (ops : List (Op E))
    (generation : GenerationToken) (since : Nat) :
    let hub := final step hub₀ ops
    let p := publishedIn (answers step hub₀ ops)
    ((∃ s l e, hub.replaySince generation since = .events s l e) ↔
      generation = hub.generation ∧ hub.droppedThrough ≤ since ∧ since ≤ hub.latestSequence) ∧
    (∀ s l e, hub.replaySince generation since = .events s l e →
      s = since ∧ l = hub.latestSequence ∧ e = p.filter fun r => since < r.sequence) ∧
    p.map (·.sequence) = List.range' 1 hub.latestSequence ∧
    (∀ r ∈ p, r.generation = hub.generation) ∧
    hub.retained.length ≤ limits.maximumEvents ∧
    hub.retainedBytes = (hub.retained.map (·.encodedSize)).sum ∧
    hub.retainedBytes ≤ limits.maximumEncodedBytes ∧
    hub.retained.map (·.sequence) =
      List.range' (hub.droppedThrough + 1) (hub.latestSequence - hub.droppedThrough) ∧
    ∀ op, (hub.step op).1 ≠ .published (.error .invariantViolation) ∧
      (hub.step op).1 ≠ .rotated (.error .invariantViolation) := by
  obtain ⟨h, hl⟩ := retains_final hnew ops
  have hn : (publishedIn (answers step hub₀ ops)).map (·.sequence) =
      List.range' 1 (final step hub₀ ops).latestSequence := by
    rw [h.latest]; exact h.numbered
  have hr : (final step hub₀ ops).retained.map (·.sequence) =
      List.range' ((final step hub₀ ops).droppedThrough + 1)
        ((final step hub₀ ops).latestSequence - (final step hub₀ ops).droppedThrough) := by
    have := h.numbered.drop (final step hub₀ ops).droppedThrough
    rw [← h.retained] at this
    rw [h.latest, ← List.length_drop, ← h.retained, Nat.add_comm]
    exact this
  refine ⟨?_, ?_, hn, h.current, hl ▸ h.count_le, h.bytes, hl ▸ h.bytes_le, hr, fun op => (h.step rfl op).2⟩
  · rcases h.replaySince generation since with ⟨hg, hd, hs, heq⟩ | ⟨hno, rs, heq⟩
    · exact ⟨fun _ => ⟨hg, hd, hs⟩, fun _ => ⟨_, _, _, heq⟩⟩
    · refine ⟨fun ⟨s, l, e, he⟩ => ?_, fun hin => absurd hin hno⟩
      rw [heq] at he; cases he
  · intro s l e he
    rcases h.replaySince generation since with ⟨-, -, -, heq⟩ | ⟨-, rs, heq⟩
    · rw [heq] at he; cases he; exact ⟨rfl, rfl, rfl⟩
    · rw [heq] at he; cases he

/-- Three events of four bytes in a hub of two events and ten bytes: the
first is gone, and a client that saw it gets the other two. -/
theorem replay_after_eviction : ∃ hub₀ : EventHub Nat,
      EventHub.new ⟨1⟩ ⟨⟨1⟩, ⟨1⟩, 1⟩ ⟨2, 10, by decide, by decide, by decide⟩ = .ok hub₀ ∧
      ∃ s l events, (final step hub₀ ([7, 8, 9].map fun event =>
        .publish event 4 ⟨⟨1⟩, ⟨1⟩, 1⟩)).replaySince
        ⟨⟨1⟩, ⟨1⟩, 1⟩ 1 = .events s l events :=
  ⟨_, rfl, (replay_complete_or_refused (show EventHub.new ⟨1⟩ ⟨⟨1⟩, ⟨1⟩, 1⟩
    ⟨2, 10, by decide, by decide, by decide⟩ = _ from rfl) _ _ _).1.mpr ⟨by decide, by decide, by decide⟩⟩

end Xenoteer.EventHub
