/-
No observation event is lost unseen: an offer that did not put its event into the
channel leaves a `ResyncRequired` latched, or has one in the channel ahead of
everything offered later, followed by a full-screen damage record when a root
region was known.

That the events dropped between the two records of a recovery are covered rests
on the channel being full then: the `ResyncRequired` is the last record sent, so
the model has not taken it yet (`Sound.last`).
-/
import Xenoteer.Observe.Emitter

namespace Xenoteer.Observe

open Lib

namespace Traffic

/-! ## What becomes of an offer -/

section

variable (t : Traffic)

/-- The event of offer `n` was sent. -/
def Delivered (n : Nat) : Prop :=
  ∃ r ∈ t.sent, ∃ event, r.message = .offered event ∧ r.offers = n + 1

/-- No event offered after offer `n` is among the first `i` records. -/
def NoneBefore (n i : Nat) : Prop :=
  ∀ r ∈ t.sent.take i, ∀ event, r.message = .offered event → r.offers ≤ n + 1

/-- Record `i` was still to be taken when offer `n` began. -/
def BegunBy (n i : Nat) : Prop := ∃ o, t.offers[n]? = some o ∧ o.dequeued ≤ i

/-- Record `i` covers the whole of the root region offered last before it was sent. -/
def MarkerAt (i : Nat) : Prop :=
  ∃ region k, t.sent[i]? = some ⟨.marker region, k⟩ ∧ t.latestRoot k = some region

/-- A `ResyncRequired` was sent for offer `n`, and `Behind` it comes the marker if a root
region had been offered. -/
def Recovered (Behind : Nat → Prop) (n : Nat) : Prop :=
  ∃ i k, t.sent[i]? = some ⟨.resync, k⟩ ∧ t.BegunBy n i ∧ t.NoneBefore n i ∧
    ((t.latestRoot (n + 1)).isSome → Behind (i + 1))

/-- The marker was sent, or is latched and goes next. -/
def MarkerDue (e : Emitter) (i : Nat) : Prop :=
  t.MarkerAt i ∨ (e.fullDamageLatched = true ∧ e.resyncLatched = false ∧ i = t.sent.length)

/-- A `ResyncRequired` is latched for offer `n`, with the marker if a root region had been
offered. -/
def Latched (e : Emitter) (n : Nat) : Prop :=
  e.resyncLatched = true ∧ t.NoneBefore n t.sent.length ∧
    ((t.latestRoot (n + 1)).isSome → e.fullDamageLatched = true)

/-- The event was sent or is being made up for. -/
def Kept (e : Emitter) (n : Nat) : Prop :=
  t.Delivered n ∨ t.Latched e n ∨ t.Recovered (t.MarkerDue e) n

/-- The offers whose events were sent, in the order of sending. -/
def offeredSent : List Nat :=
  t.sent.filterMap fun r => match r.message with
    | .offered _ => some r.offers
    | _ => none

end

/-! ## Growth -/

/-- Nothing sent or offered is undone. -/
structure Grows (t t' : Traffic) : Prop where
  sent : t.sent <+: t'.sent
  offers : t.offers <+: t'.offers

variable {t t' : Traffic}

theorem Grows.latestRoot (h : t.Grows t') {k} (hk : k ≤ t.offers.length) :
    t'.latestRoot k = t.latestRoot k := by
  obtain ⟨mr, hm⟩ := h.offers
  rw [Traffic.latestRoot, Traffic.latestRoot, ← hm, List.take_append_of_le_length hk]

theorem Grows.getElem? (h : t.Grows t') {i : Nat} {r} (hi : t.sent[i]? = some r) : t'.sent[i]? = some r := by
  obtain ⟨mr, hm⟩ := h.sent
  obtain ⟨hlt, _⟩ := List.getElem?_eq_some_iff.mp hi
  rw [← hm, List.getElem?_append_left hlt, hi]

variable {n : Nat}

theorem Grows.begunBy (h : t.Grows t') {i} (hn : t.BegunBy n i) : t'.BegunBy n i := by
  obtain ⟨o, ho, hle⟩ := hn
  obtain ⟨mr, hm⟩ := h.offers
  obtain ⟨hlt, _⟩ := List.getElem?_eq_some_iff.mp ho
  exact ⟨o, by rw [← hm, List.getElem?_append_left hlt, ho], hle⟩

theorem BegunBy.lt {i} (hn : t.BegunBy n i) : n < t.offers.length := by
  obtain ⟨o, ho, _⟩ := hn
  exact (List.getElem?_eq_some_iff.mp ho).1

theorem Grows.delivered (h : t.Grows t') (hn : t.Delivered n) : t'.Delivered n := by
  obtain ⟨r, hr, hre⟩ := hn
  exact ⟨r, h.sent.subset hr, hre⟩

theorem Grows.noneBefore (h : t.Grows t') {i} (hi : i ≤ t.sent.length)
    (hn : t.NoneBefore n i) : t'.NoneBefore n i := by
  obtain ⟨mr, hm⟩ := h.sent
  intro r hr
  rw [← hm, List.take_append_of_le_length hi] at hr
  exact hn r hr

theorem Grows.markerAt (h : t.Grows t') (hs : ∀ r ∈ t.sent, r.offers ≤ t.offers.length)
    {i : Nat} (hi : t.MarkerAt i) : t'.MarkerAt i := by
  obtain ⟨rg, k, hat, hr⟩ := hi
  have hk : k ≤ t.offers.length := hs _ (List.mem_of_getElem? hat)
  exact ⟨rg, k, h.getElem? hat, by rw [h.latestRoot hk, hr]⟩

/-- A recovery stays one, if what comes behind it does. -/
theorem Grows.recovered (h : t.Grows t') {B B' : Nat → Prop} (hn : t.Recovered B n)
    (hB : ∀ i, B i → B' i) : t'.Recovered B' n := by
  obtain ⟨i, k, hi, hb, hbe, hbh⟩ := hn
  have hlt := (List.getElem?_eq_some_iff.mp hi).1
  refine ⟨i, k, h.getElem? hi, h.begunBy hb, h.noneBefore hlt.le hbe, fun hr => ?_⟩
  rw [h.latestRoot hb.lt] at hr
  exact hB _ (hbh hr)

@[simp] theorem sent_begin (t : Traffic) (c : Call) : (t.begin c).sent = t.sent := rfl

theorem grows_begin (t : Traffic) (c : Call) : t.Grows (t.begin c) :=
  ⟨List.prefix_rfl, List.prefix_append _ _⟩

@[simp] theorem sent_send (t : Traffic) (ms : Message) :
    (t.send ms).sent = t.sent ++ [⟨ms, t.offers.length⟩] := by
  simp [sent, send]

theorem grows_send (t : Traffic) (ms : Message) : t.Grows (t.send ms) :=
  ⟨by simp, List.prefix_rfl⟩

@[simp] theorem sent_dequeue (t : Traffic) : t.dequeue.sent = t.sent := by
  unfold dequeue
  split <;> simp_all [sent]

@[simp] theorem offers_dequeue (t : Traffic) : t.dequeue.offers = t.offers := by
  unfold dequeue
  split <;> rfl

theorem grows_dequeue (t : Traffic) : t.Grows t.dequeue := ⟨by simp, by simp⟩

/-! ## The invariant -/

/-- What holds of the channel and the emitter `e` when the first `m` offers are over. -/
structure Sound (t : Traffic) (m : Nat) (e : Emitter) : Prop where
  within : m ≤ t.offers.length
  taken : ∀ (n : Nat) (o : Offer), t.offers[n]? = some o → o.dequeued ≤ t.dequeued.length
  root : e.lastRootRegion = t.latestRoot t.offers.length
  known : e.fullDamageLatched = true → e.lastRootRegion.isSome
  last : e.fullDamageLatched = true → e.resyncLatched = false → ∃ k, t.sent.getLast? = some ⟨.resync, k⟩
  stamped : ∀ r ∈ t.sent, r.offers ≤ t.offers.length
  carried : ∀ r ∈ t.sent, ∀ event, r.message = .offered event →
    ∃ n o, r.offers = n + 1 ∧ n < m ∧ t.offers[n]? = some o ∧ o.event = event
  order : t.offeredSent.Pairwise (· < ·)
  kept : ∀ n < m, t.Kept e n

variable {m : Nat} {e : Emitter}

theorem Sound.begunBy (h : t.Sound m e) {i} (hn : n < t.offers.length)
    (hi : t.dequeued.length ≤ i) : t.BegunBy n i :=
  ⟨t.offers[n], List.getElem?_eq_getElem hn, (h.taken n _ (List.getElem?_eq_getElem hn)).trans hi⟩

/-- No record carries an offer that is not over. -/
theorem Sound.noneBefore (h : t.Sound m e) (hn : m ≤ n + 1) (i : Nat) : t.NoneBefore n i := by
  intro r hr ev he
  obtain ⟨j, o, hj, hlt, _⟩ := h.carried r (List.mem_of_mem_take hr) ev he
  omega

theorem sound_empty : Traffic.empty.Sound 0 .new where
  within := le_rfl
  taken := by simp [Traffic.empty]
  root := rfl
  known := by simp [Emitter.new]
  last := by simp [Emitter.new]
  stamped := by simp [Traffic.empty, sent]
  carried := by simp [Traffic.empty, sent]
  order := by simp [Traffic.empty, offeredSent, sent]
  kept := by omega

/-- What the model takes out stays sent. -/
theorem Sound.dequeue (h : t.Sound m e) : t.dequeue.Sound m e where
  within := by simpa using h.within
  taken n o ho := (h.taken n o (by simpa using ho)).trans (by unfold Traffic.dequeue; split <;> simp)
  root := by simpa [latestRoot] using h.root
  known := h.known
  last := by simpa using h.last
  stamped := by simpa using h.stamped
  carried := by simpa using h.carried
  order := by simpa [offeredSent] using h.order
  kept n hn := by
    have hg := t.grows_dequeue
    rcases h.kept n hn with hs | ⟨hl, hno, hr⟩ | hre
    · exact .inl (hg.delivered hs)
    · exact .inr (.inl ⟨hl, by simpa using hg.noneBefore le_rfl hno, by simpa [latestRoot] using hr⟩)
    refine .inr (.inr (hg.recovered hre fun i hi => ?_))
    rcases hi with hat | hne
    · exact .inl (hg.markerAt h.stamped hat)
    · exact .inr (by simpa using hne)

theorem latestRoot_begin_note (t : Traffic) (e : Emitter) (ev)
    (h : e.lastRootRegion = t.latestRoot t.offers.length) : (e.note ev).lastRootRegion =
      (t.begin (.offer ev)).latestRoot (t.begin (.offer ev)).offers.length := by
  simp only [latestRoot, List.take_length] at h ⊢
  cases hr : ev.rootRegion with
  | none => simp [Emitter.note, Traffic.begin, Call.event, hr, h]
  | some r => simp [Emitter.note, Traffic.begin, Call.event, hr]

theorem opening_root (h : t.Sound m e) (c : Call) :
    (c.opening e).lastRootRegion = (t.begin c).latestRoot (t.begin c).offers.length := by
  cases c with
  | offer ev => exact latestRoot_begin_note t e ev h.root
  | flush | barrier b => simpa [Call.opening, Traffic.begin, Call.event, latestRoot] using h.root

@[simp] theorem opening_resyncLatched (c : Call) (e : Emitter) :
    (c.opening e).resyncLatched = e.resyncLatched := by
  cases c with
  | offer ev => cases h : ev.rootRegion <;> simp [Call.opening, Emitter.note, h]
  | flush | barrier b => rfl

@[simp] theorem opening_fullDamageLatched (c : Call) (e : Emitter) :
    (c.opening e).fullDamageLatched = e.fullDamageLatched := by
  cases c with
  | offer ev => cases h : ev.rootRegion <;> simp [Call.opening, Emitter.note, h]
  | flush | barrier b => rfl

theorem opening_known (c : Call) (h : e.lastRootRegion.isSome) : (c.opening e).lastRootRegion.isSome := by
  cases c with
  | offer ev => cases hr : ev.rootRegion <;> simp [Call.opening, Emitter.note, hr, h]
  | flush | barrier b => exact h

theorem length_begin (t : Traffic) (c : Call) : (t.begin c).offers.length = t.offers.length + c.weight := by
  cases h : c.event <;> simp [Traffic.begin, Call.weight, h]

/-- The offer that begins is not over. -/
theorem Sound.begin (h : t.Sound t.offers.length e) (c : Call) :
    (t.begin c).Sound t.offers.length (c.opening e) where
  within := by rw [length_begin]; omega
  taken n o ho := by
    simp only [Traffic.begin] at ho ⊢
    rcases List.mem_append.mp (List.mem_of_getElem? ho) with hold | hne
    · obtain ⟨j, hj⟩ := List.getElem?_of_mem hold
      exact h.taken j o hj
    · simp only [Option.mem_toList, Option.map_eq_some_iff] at hne
      obtain ⟨ev, _, rfl⟩ := hne
      exact le_rfl
  root := opening_root h c
  known hf := opening_known c (h.known (by simpa using hf))
  last hf hre := h.last (by simpa using hf) (by simpa using hre)
  stamped r hr := (h.stamped r hr).trans (by rw [length_begin]; omega)
  carried r hr ev he := by
    obtain ⟨n, o, hn, hlt, ho, heq⟩ := h.carried r hr ev he
    exact ⟨n, o, hn, hlt, by rw [Traffic.begin, List.getElem?_append_left hlt, ho], heq⟩
  order := h.order
  kept n hn := by
    have hg := t.grows_begin c
    rcases h.kept n hn with hse | ⟨hl, hno, hro⟩ | hrc
    · exact .inl hse
    · refine .inr (.inl ⟨by simpa using hl, hno, fun hs => ?_⟩)
      rw [hg.latestRoot hn] at hs
      simpa using hro hs
    · refine .inr (.inr (hg.recovered hrc fun i hi => ?_))
      rcases hi with hat | hnx
      · exact .inl (hg.markerAt h.stamped hat)
      · exact .inr (by simpa using hnx)

/-! ## Sends -/

theorem carried_send (h : t.Sound m e) (ms : Message) {m'} (hm : m ≤ m') (hne : ∀ ev, ms = .offered ev →
      ∃ n o, t.offers.length = n + 1 ∧ n < m' ∧ t.offers[n]? = some o ∧ o.event = ev) :
    ∀ r ∈ (t.send ms).sent, ∀ ev, r.message = .offered ev →
      ∃ n o, r.offers = n + 1 ∧ n < m' ∧ (t.send ms).offers[n]? = some o ∧ o.event = ev := by
  intro r hr ev he
  rcases List.mem_append.mp (sent_send t ms ▸ hr) with hold | hl
  · obtain ⟨n, o, hn, hlt, hre⟩ := h.carried r hold ev he
    exact ⟨n, o, hn, by omega, hre⟩
  · obtain rfl := List.mem_singleton.mp hl
    exact hne ev he

theorem stamped_send (h : t.Sound m e) (ms : Message) :
    ∀ r ∈ (t.send ms).sent, r.offers ≤ (t.send ms).offers.length := by
  intro r hr
  rcases List.mem_append.mp (sent_send t ms ▸ hr) with hold | hl
  · exact h.stamped r hold
  · obtain rfl := List.mem_singleton.mp hl
    exact le_rfl

theorem getElem?_send_last (t : Traffic) {ms} :
    (t.send ms).sent[t.sent.length]? = some ⟨ms, t.offers.length⟩ := by
  simp

section

variable (h : t.Sound m e)
include h

/-- The latched `ResyncRequired` covers everything latched for. -/
theorem Sound.sendResync (hr : e.resyncLatched = true) :
    (t.send .resync).Sound m { e with resyncLatched := false } where
  __ := h
  last _ _ := ⟨t.offers.length, by simp⟩
  stamped := stamped_send h _
  carried := carried_send h _ le_rfl (by simp)
  order := by simpa [offeredSent] using h.order
  kept n hn := by
    have hg := t.grows_send .resync
    rcases h.kept n hn with hs | ⟨_, hnn, hro⟩ | hre
    · exact .inl (hg.delivered hs)
    · have hb : t.BegunBy n t.sent.length := h.begunBy (hn.trans_le h.within) (by simp [sent])
      refine .inr (.inr ⟨t.sent.length, _, getElem?_send_last t, hg.begunBy hb,
        hg.noneBefore le_rfl hnn, fun hso => ?_⟩)
      exact .inr ⟨hro hso, rfl, by simp⟩
    · refine .inr (.inr (hg.recovered hre fun i hi => ?_))
      rcases hi with hat | ⟨_, hno, _⟩
      · exact .inl (hg.markerAt h.stamped hat)
      · rw [hr] at hno
        cases hno

/-- The marker goes right behind the `ResyncRequired`. -/
theorem Sound.sendMarker (hr : e.resyncLatched = false) {r} (hre : e.lastRootRegion = some r) :
    (t.send (.marker r)).Sound m { e with fullDamageLatched := false } where
  __ := h
  known := by simp
  last := by simp
  stamped := stamped_send h _
  carried := carried_send h _ le_rfl (by simp)
  order := by simpa [offeredSent] using h.order
  kept n hn := by
    have hg := t.grows_send (.marker r)
    rcases h.kept n hn with hs | ⟨hl, _⟩ | hrc
    · exact .inl (hg.delivered hs)
    · rw [hr] at hl
      cases hl
    · refine .inr (.inr (hg.recovered hrc fun i hi => .inl ?_))
      rcases hi with hat | ⟨_, _, rfl⟩
      · exact hg.markerAt h.stamped hat
      · refine ⟨r, _, getElem?_send_last t, ?_⟩
        rw [hg.latestRoot le_rfl, ← h.root, hre]

theorem Sound.offeredSent_le {k} (hk : k ∈ t.offeredSent) : k ≤ m := by
  obtain ⟨r, hr, hs⟩ := List.mem_filterMap.mp hk
  split at hs
  · rename_i ev he
    obtain ⟨n, _, hn, hlt, _⟩ := h.carried r hr ev he
    obtain rfl := Option.some.inj hs
    omega
  · cases hs

/-- With nothing latched, an event that fits is delivered. -/
theorem Sound.sendOffered (hr : e.resyncLatched = false)
    (hf : e.fullDamageLatched = false) {o} (hm : m + 1 = t.offers.length)
    (ho : t.offers[m]? = some o) : (t.send (.offered o.event)).Sound (m + 1) e where
  __ := h
  within := hm.le
  last := by simp [hf]
  stamped := stamped_send h _
  carried := by
    refine carried_send h _ (Nat.le_succ m) fun ev he => ⟨m, o, hm.symm, by omega, ho, ?_⟩
    injection he
  order := by
    have hc : (t.send (.offered o.event)).offeredSent = t.offeredSent ++ [t.offers.length] := by
      simp [offeredSent]
    rw [hc, List.pairwise_append]
    refine ⟨h.order, List.pairwise_singleton _ _, fun k hk l hl => ?_⟩
    obtain rfl := List.mem_singleton.mp hl
    have := h.offeredSent_le hk
    omega
  kept n hn := by
    have hg := t.grows_send (.offered o.event)
    rcases Nat.lt_succ_iff_lt_or_eq.mp hn with hlt | rfl
    · rcases h.kept n hlt with hs | ⟨hla, _⟩ | hre
      · exact .inl (hg.delivered hs)
      · rw [hr] at hla
        cases hla
      · refine .inr (.inr (hg.recovered hre fun i hi => .inl ?_))
        rcases hi with hat | ⟨hy, _⟩
        · exact hg.markerAt h.stamped hat
        · rw [hf] at hy
          cases hy
    · exact .inl ⟨⟨.offered o.event, t.offers.length⟩, by simp, o.event, rfl, hm.symm⟩

/-! ## Drops -/

/-- An event is dropped for a `ResyncRequired` that is latched. -/
theorem Sound.latch (hf : e.fullDamageLatched = true → e.resyncLatched = true)
    (hm : m + 1 = t.offers.length) : t.Sound (m + 1) e.latchResync where
  __ := h
  within := hm.le
  known hy := by
    simp only [Emitter.latchResync] at hy ⊢
    split at hy
    · assumption
    · exact h.known hy
  last := by simp [Emitter.latchResync]
  carried r hr event he := by
    obtain ⟨n, o, hn, hlt, hre⟩ := h.carried r hr event he
    exact ⟨n, o, hn, by omega, hre⟩
  kept n hn := by
    rcases Nat.lt_succ_iff_lt_or_eq.mp hn with hlt | rfl
    · rcases h.kept n hlt with hse | ⟨_, hnn, hro⟩ | hrc
      · exact .inl hse
      · refine .inr (.inl ⟨rfl, hnn, fun hs => ?_⟩)
        simp [Emitter.latchResync, hro hs]
      · obtain ⟨i, k, hi, hb, hbe, hbh⟩ := hrc
        refine .inr (.inr ⟨i, k, hi, hb, hbe, fun hs => ?_⟩)
        rcases hbh hs with hat | ⟨hy, hno, _⟩
        · exact .inl hat
        · rw [hf hy] at hno
          cases hno
    · refine .inr (.inl ⟨rfl, h.noneBefore (Nat.le_succ n) _, fun hs => ?_⟩)
      rw [hm, ← h.root] at hs
      simp [Emitter.latchResync, hs]

/-- An event is dropped between the two records of a recovery: the channel is full, so the
`ResyncRequired` at its end has not been taken. -/
theorem Sound.drop (hre : e.resyncLatched = false) (hf : e.fullDamageLatched = true)
    (hq : t.queue ≠ []) (hm : m + 1 = t.offers.length) : t.Sound (m + 1) e where
  __ := h
  within := hm.le
  carried r hr event he := by
    obtain ⟨n, o, hn, hlt, hrs⟩ := h.carried r hr event he
    exact ⟨n, o, hn, by omega, hrs⟩
  kept n hn := by
    rcases Nat.lt_succ_iff_lt_or_eq.mp hn with hlt | rfl
    · exact h.kept n hlt
    obtain ⟨k, hl⟩ := h.last hf hre
    have hp : 0 < t.queue.length := List.length_pos_iff.mpr hq
    have hle : t.sent.length = t.dequeued.length + t.queue.length := by simp [sent]
    rw [List.getLast?_eq_getElem?] at hl
    exact .inr (.inr ⟨t.sent.length - 1, k, hl, h.begunBy (by omega) (by omega),
      h.noneBefore (Nat.le_succ n) _, fun _ => .inr ⟨hf, hre, by omega⟩⟩)

end

end Traffic

end Xenoteer.Observe
