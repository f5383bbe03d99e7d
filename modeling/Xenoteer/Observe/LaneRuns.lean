/-
Runs of the event lane: however the calls of the emitter interleave with the
records taken out, what was offered is delivered in order or made up for.

`Inv` says where a call can be stopped; `Lane.good_step` is the step lemma and
`observation_events_delivered` the result for runs.
-/
import Xenoteer.Observe.Actor
import Xenoteer.Observe.Delivery

namespace Xenoteer.Observe

open Lib

/-- A call in progress, `m` offers being over. -/
structure InCall (t : Traffic) (c : Call) (m : Nat) (e : Emitter) : Prop where
  sound : t.Sound m e
  length : m + c.weight = t.offers.length
  current : ∀ event, c.event = some event → ∃ o, t.offers[m]? = some o ∧ o.event = event

namespace Lane

/-- The emitter is idle, or stopped at one of its three sends. -/
inductive Inv : Lane → Prop
  | idle {t e} (h : t.Sound t.offers.length e) : Inv ⟨t, .idle e⟩
  | askResync {t c m e} (h : InCall t c m e) (hres : e.resyncLatched = true) :
      Inv ⟨t, .calling c (((trySend .resync >>= resolveResync) >>= fun _ => c.rest).start e)⟩
  | askMarker {t c m e region} (h : InCall t c m e) (hres : e.resyncLatched = false)
      (hfull : e.fullDamageLatched = true) (hregion : e.lastRootRegion = some region) :
      Inv ⟨t, .calling c (((trySend (.marker region) >>= resolveMarker) >>= fun _ => c.rest).start e)⟩
  | askEvent {t event m e} (h : InCall t (.offer event) m e) (hres : e.resyncLatched = false)
      (hfull : e.fullDamageLatched = false) :
      Inv ⟨t, .calling (.offer event)
        (((trySend (.offered event) >>= resolveEvent) >>= fun _ => pure none).start e)⟩

/-- The invariant holds, and a barrier answered stable leaves nothing latched. -/
def Good (r : Option Bool × Lane) : Prop :=
  Inv r.2 ∧ (r.1 = some true → ∃ e, r.2.activity = .idle e ∧ e.hasPendingBarrier = false)

/-! ## What a call goes on to do -/

variable {t : Traffic} {c : Call} {m : Nat} {e : Emitter}

theorem good_finishOffer {ev} (h : InCall t (.offer ev) m e)
    (hq : e.fullDamageLatched = true → e.resyncLatched = false → t.queue ≠ []) :
    Good (settle t (.offer ev) ((Call.offer ev).rest.start e)) := by
  have hm : m + 1 = t.offers.length := h.length
  simp only [Call.rest, finishOffer, Talk.start_bind, Talk.start_read, Dialogue.andThen]
  cases hr : e.resyncLatched with
  | true =>
    have hs := h.sound.latch (fun _ => hr) hm
    rw [hm] at hs
    simpa [Good, Dialogue.andThen, settle] using Inv.idle hs
  | false =>
    cases hf : e.fullDamageLatched with
    | true =>
      have hs := h.sound.drop hr hf (hq hf hr) hm
      rw [hm] at hs
      simpa [Good, Dialogue.andThen, settle] using Inv.idle hs
    | false =>
      refine ⟨?_, fun hst => ?_⟩
      · exact Inv.askEvent h hr hf
      · cases hst

theorem good_rest (h : InCall t c m e)
    (hq : e.fullDamageLatched = true → e.resyncLatched = false → t.queue ≠ []) :
    Good (settle t c (c.rest.start e)) := by
  cases c with
  | offer ev => exact good_finishOffer h hq
  | flush =>
    have hs := h.sound
    rw [show m = t.offers.length from h.length] at hs
    exact ⟨Inv.idle hs, nofun⟩
  | barrier re =>
    have hs := h.sound
    rw [show m = t.offers.length from h.length] at hs
    refine ⟨Inv.idle hs, fun hst => ⟨e, rfl, ?_⟩⟩
    have hb : (re && !e.hasPendingBarrier) = true := Option.some.inj hst
    simpa using (Bool.and_eq_true_iff.mp hb).2

theorem good_flushMarker (h : InCall t c m e) (hre : e.resyncLatched = false) :
    Good (settle t c ((flushMarker >>= fun _ => c.rest).start e)) := by
  simp only [flushMarker, Talk.start_bind, Talk.start_read, Dialogue.andThen]
  cases hf : e.fullDamageLatched with
  | false => exact good_rest h (by simp [hf])
  | true =>
    obtain ⟨r, hr⟩ := Option.isSome_iff_exists.mp (h.sound.known hf)
    simp only [hr, ↓reduceIte]
    exact ⟨Inv.askMarker h hre hf hr, nofun⟩

theorem good_flushResync (h : InCall t c m e) :
    Good (settle t c ((flushResync >>= fun _ => c.rest).start e)) := by
  simp only [flushResync, Talk.start_bind, Talk.start_read, Dialogue.andThen]
  cases hr : e.resyncLatched with
  | true => exact ⟨Inv.askResync h hr, nofun⟩
  | false => exact good_flushMarker h hr

theorem inCall_begin (h : t.Sound t.offers.length e) {c} :
    InCall (t.begin c) c t.offers.length (c.opening e) where
  sound := h.begin c
  length := (Traffic.length_begin t c).symm
  current event he := ⟨⟨event, t.dequeued.length⟩, by simp [Traffic.begin, he], rfl⟩

/-! ## Steps -/

variable {capacity : Nat}

theorem InCall.send (h : InCall t c m e) {ms e'} (hs : (t.send ms).Sound m e') : InCall (t.send ms) c m e' :=
  ⟨hs, h.length, h.current⟩

theorem good_askResync (h : InCall t c m e) (hr : e.resyncLatched = true) : Good (step capacity
      ⟨t, .calling c (((trySend .resync >>= resolveResync) >>= fun _ => c.rest).start e)⟩ .send) := by
  simp only [step, trySend, Talk.start_bind, Talk.start_ask, Dialogue.andThen, resolveResync]
  split
  · exact good_flushMarker (InCall.send h (h.sound.sendResync hr)) rfl
  · exact good_rest h fun _ hno => absurd (hr.symm.trans hno) (by decide)

theorem good_askMarker {r} (h : InCall t c m e) (hr : e.resyncLatched = false)
    (hre : e.lastRootRegion = some r) (hc : 1 ≤ capacity) : Good (step capacity ⟨t, .calling c
      (((trySend (.marker r) >>= resolveMarker) >>= fun _ => c.rest).start e)⟩ .send) := by
  simp only [step, trySend, Talk.start_bind, Talk.start_ask, Dialogue.andThen, resolveMarker]
  split
  · exact good_rest (InCall.send h (h.sound.sendMarker hr hre)) nofun
  · exact good_rest h fun _ _ hn => ‹¬ _› (by rw [hn]; exact hc)

theorem good_askEvent {ev} (h : InCall t (.offer ev) m e)
    (hr : e.resyncLatched = false) (hf : e.fullDamageLatched = false) :
    Good (step capacity ⟨t, .calling (.offer ev)
      (((trySend (.offered ev) >>= resolveEvent) >>= fun _ => pure none).start e)⟩ .send) := by
  have hm : m + 1 = t.offers.length := h.length
  obtain ⟨o, ho, rfl⟩ := h.current ev rfl
  simp only [step, trySend, Talk.start_bind, Talk.start_ask, Dialogue.andThen, resolveEvent]
  split
  · have hs := h.sound.sendOffered hr hf hm ho
    rw [hm] at hs
    exact ⟨Inv.idle hs, nofun⟩
  · have hs := h.sound.latch (by simp [hf]) hm
    rw [hm] at hs
    exact ⟨Inv.idle hs, nofun⟩

theorem InCall.dequeue (h : InCall t c m e) : InCall t.dequeue c m e where
  sound := h.sound.dequeue
  length := by simpa using h.length
  current := by simpa using h.current

theorem good_step (hca : 1 ≤ capacity) {s} (h : Inv s) {a} : Good (step capacity s a) := by
  cases a with
  | start c =>
    cases h with
    | idle hs => exact good_flushResync (inCall_begin hs)
    | askResync hc hr => exact ⟨.askResync hc hr, nofun⟩
    | askMarker hc hr hf hre =>
      exact ⟨.askMarker hc hr hf hre, nofun⟩
    | askEvent hc hr hf => exact ⟨.askEvent hc hr hf, nofun⟩
  | send =>
    cases h with
    | idle hs => exact ⟨.idle hs, nofun⟩
    | askResync hc hr => exact good_askResync hc hr
    | askMarker hc hr hf hre => exact good_askMarker hc hr hre hca
    | askEvent hc hr hf => exact good_askEvent hc hr hf
  | dequeue =>
    refine ⟨?_, nofun⟩
    cases h with
    | idle hs => exact .idle (by simpa using hs.dequeue)
    | askResync hc hr => exact .askResync (InCall.dequeue hc) hr
    | askMarker hc hr hf hre => exact .askMarker (InCall.dequeue hc) hr hf hre
    | askEvent hc hr hf => exact .askEvent (InCall.dequeue hc) hr hf

theorem inv_run (hc : 1 ≤ capacity) {a} : Inv (Run.final (step capacity) new a) :=
  Run.final_induction (Inv.idle Traffic.sound_empty) (fun _ _ h => (good_step hc h).1) a

/-! ## Runs -/

/-- The emitter, wherever its call is stopped. -/
def emitter (s : Lane) : Emitter :=
  match s.activity with
  | .idle e => e
  | .calling _ rest => rest.state

/-- The offers whose calls have returned. -/
def finished (s : Lane) : Nat :=
  match s.activity with
  | .idle _ => s.traffic.offers.length
  | .calling c _ => s.traffic.offers.length - c.weight

theorem InCall.sound_finished (h : InCall t c m e) : t.Sound (t.offers.length - c.weight) e := by
  have hm : t.offers.length - c.weight = m := by
    have := h.length
    omega
  rw [hm]
  exact h.sound

theorem Inv.sound {s} (h : Inv s) : s.traffic.Sound s.finished s.emitter := by
  cases h with
  | idle hs => exact hs
  | askResync hc hr | askMarker hc hr hf hre | askEvent hc hr hf =>
    exact InCall.sound_finished hc

/-- With nothing latched, every offer was delivered or recovered. -/
theorem Inv.settled {s} (h : Inv s) (hid : s.activity = .idle e)
    (hno : e.hasPendingBarrier = false) {n} (hn : n < s.traffic.offers.length) :
    s.traffic.Delivered n ∨ s.traffic.Recovered s.traffic.MarkerAt n := by
  have hs := h.sound
  simp only [finished, emitter, hid] at hs
  simp only [Emitter.hasPendingBarrier, Bool.or_eq_false_iff] at hno
  rcases hs.kept n hn with hse | ⟨hl, _⟩ | ⟨i, k, hi, hb, hbe, hbh⟩
  · exact .inl hse
  · rw [hno.1] at hl
    cases hl
  · refine .inr ⟨i, k, hi, hb, hbe, fun hso => ?_⟩
    rcases hbh hso with hat | ⟨hf, _⟩
    · exact hat
    · rw [hno.2] at hf
      cases hf

/-- The offers are those of the calls begun. -/
def Booked (t : Traffic) : Prop := t.offers.map (·.event) = t.begun.filterMap Call.event

theorem settle_traffic (t : Traffic) (c : Call) (d : Calling) : (settle t c d).2.traffic = t := by
  cases d <;> rfl

theorem booked_begin (h : Booked t) {c} : Booked (t.begin c) := by
  simp only [Booked] at h
  cases hc : c.event <;> simp [Booked, Traffic.begin, h, hc]

theorem booked_step {s} (h : Booked s.traffic) {a} : Booked (step capacity s a).2.traffic := by
  cases a with
  | start c =>
    simp only [step]
    split
    · rw [settle_traffic]
      exact booked_begin h
    · exact h
  | send =>
    simp only [step]
    split
    · split
      · rw [settle_traffic]
        exact h
      · rw [settle_traffic]
        exact h
    · exact h
  | dequeue =>
    simp only [step, Traffic.dequeue]
    split <;> exact h

theorem booked_run {a} : Booked (Run.final (step capacity) new a).traffic :=
  Run.final_induction (P := fun s : Lane => Booked s.traffic) (by simp [Booked, new, Traffic.empty])
    (fun _ ac h => booked_step h) a

end Lane

/-- For every capacity and every interleaving: the events that were sent are those
offered, in the order of their offers; every offer that is over was delivered, is latched
for, or was recovered from; and when a barrier is answered stable, nothing is latched, so
that every event offered for a poll up to it was delivered or recovered from. -/
theorem observation_events_delivered (capacity : Nat) (hcapacity : 1 ≤ capacity) (actions : List LaneAction) :
    let s := Run.final (Lane.step capacity) Lane.new actions
    s.traffic.offeredSent.Pairwise (· < ·) ∧
    (∀ r ∈ s.traffic.sent, ∀ ev, r.message = .offered ev →
      ∃ n o, r.offers = n + 1 ∧ s.traffic.offers[n]? = some o ∧ o.event = ev) ∧
    (∀ n < s.finished, s.traffic.Kept s.emitter n) ∧
    ∀ a, (Lane.step capacity s a).1 = some true → let t := (Lane.step capacity s a).2.traffic
      (∀ n < t.offers.length, t.Delivered n ∨ t.Recovered t.MarkerAt n) ∧
      ∀ (d : Desk) (tr : List Turn) (ac rest : List Act) (re : Bool),
        d.runActor tr .empty = ac ++ .call (.barrier re) :: rest →
        t.begun = ac.flatMap Act.calls ++ [.barrier re] →
        ∀ p en, .polled p en ∈ ac → ∀ ev ∈ en,
          ∃ n o, t.offers[n]? = some o ∧ o.event = ev ∧ (t.Delivered n ∨ t.Recovered t.MarkerAt n) := by
  intro s
  have hi : Lane.Inv s := Lane.inv_run hcapacity
  have hs := hi.sound
  refine ⟨hs.order, fun r hr ev he => ?_, hs.kept, fun a hst => ?_⟩
  · obtain ⟨n, o, hn, _, hre⟩ := hs.carried r hr ev he
    exact ⟨n, o, hn, hre⟩
  intro t
  obtain ⟨hne, hid⟩ := Lane.good_step hcapacity hi
  obtain ⟨e, hac, hno⟩ := hid hst
  have ha : ∀ n < t.offers.length, t.Delivered n ∨ t.Recovered t.MarkerAt n :=
    fun n hn => hne.settled hac hno hn
  refine ⟨ha, fun d tr ac rest re _ hb p en hp ev he => ?_⟩
  have hbo : t.offers.map (·.event) = t.begun.filterMap Call.event :=
    Lane.booked_step Lane.booked_run
  have hc : Call.offer ev ∈ t.begun := by
    rw [hb]
    exact List.mem_append_left _ (List.mem_flatMap.mpr ⟨_, hp, List.mem_map_of_mem he⟩)
  have hm : ev ∈ t.offers.map (·.event) := by
    rw [hbo]
    exact List.mem_filterMap.mpr ⟨_, hc, rfl⟩
  obtain ⟨o, ho, rfl⟩ := List.mem_map.mp hm
  obtain ⟨n, hn⟩ := List.getElem?_of_mem ho
  exact ⟨n, o, hn, rfl, ha n (List.getElem?_eq_some_iff.mp hn).1⟩

/-! ## A lossy drain -/

/-- A window is destroyed, and another one while a snapshot is taken. -/
def destroyed (window : Window) : Poll := ⟨.ok (.destroy window), .ok (), 0⟩

def twoDestroyed : Turn := ⟨[destroyed 5], 0, some (.snapshotBarrier (.ok ()) [destroyed 7] 0)⟩

def removal (window : Window) : Call := .offer (.reconcile (.removeWindow window))

/-- The second removal finds the only place taken, which the model frees before the
barrier flushes. -/
def freedInTime : List LaneAction :=
  [.start (removal 5), .send, .start .flush, .start (removal 7), .send, .dequeue, .start (.barrier true)]

/-- The dropped event is recovered from. -/
theorem dropped_removal_kept : (Run.final (Lane.step 1) Lane.new freedInTime).traffic.Kept
      (Run.final (Lane.step 1) Lane.new freedInTime).emitter 1 :=
  (observation_events_delivered 1 le_rfl freedInTime).2.2.1 1 (by decide)

/-- A barrier is answered stable although an event polled for it was never sent. -/
theorem stable_barrier_without_event : ∃ (desk : Desk) (acts : List Act),
      desk.runActor [twoDestroyed] .empty = acts ++ [.call (.barrier true)] ∧
      (Lane.step 1 (Run.final (Lane.step 1) Lane.new freedInTime) .send).1 = some true ∧
      (Lane.step 1 (Run.final (Lane.step 1) Lane.new freedInTime) .send).2.traffic.begun =
        acts.flatMap Act.calls ++ [.barrier true] ∧
      ∃ poll event, .polled poll [event] ∈ acts ∧
        ∀ r ∈ (Lane.step 1 (Run.final (Lane.step 1) Lane.new freedInTime) .send).2.traffic.sent,
          r.message.event ≠ event := by
  refine ⟨⟨1, fun _ => 0⟩, [.polled (destroyed 5) [.reconcile (.removeWindow 5)], .call .flush,
    .polled (destroyed 7) [.reconcile (.removeWindow 7)]], rfl, rfl, rfl,
    destroyed 7, .reconcile (.removeWindow 7), by simp, by decide⟩

end Xenoteer.Observe
