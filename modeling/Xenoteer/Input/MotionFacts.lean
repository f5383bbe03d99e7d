/-
The timing of a motion plan: the samples of a segment lead from its start to
its end in exactly its duration, whatever points lie between.

The loop is followed by `Sampled`: the delays sent and the one carried over
make up the rounded time of the last index. Those times never decrease, so no
subtraction of the loop can fail.
-/
import Mathlib.Data.List.Chain
import Xenoteer.Input.Motion
import Xenoteer.Lib.Checks

namespace Xenoteer

open Lib Checks

/-- The time of sample `index`, rounded. -/
def cumulativeAt (durationMs count index : Nat) : Nat :=
  if index = count then durationMs else (index * durationMs + count / 2) / count

variable {a : MotionArithmetic} {s e : RootPoint} {c : MotionCurve} {o : MotionOptions} {d n i : Nat}
  {l l' : Sampling} {plan : MotionPlan}

theorem cumulativeAt_zero (hn : 0 < n) : cumulativeAt d n 0 = 0 := by
  rw [cumulativeAt, if_neg (Nat.ne_of_lt hn), Nat.zero_mul, Nat.zero_add]
  exact Nat.div_eq_of_lt (Nat.div_lt_self hn (by decide))

theorem cumulativeAt_le (hi : i ≤ n) (hn : 0 < n) : cumulativeAt d n i ≤ d := by
  rw [cumulativeAt]
  split_ifs with h
  · exact Nat.le_refl d
  rw [← Nat.lt_succ_iff, Nat.div_lt_iff_lt_mul hn]
  have hm : i * d ≤ n * d := Nat.mul_le_mul_right d hi
  have hs : d.succ * n = n * d + n := by rw [Nat.succ_mul, Nat.mul_comm]
  omega

theorem cumulativeAt_mono (hi : i < n) : cumulativeAt d n i ≤ cumulativeAt d n (i + 1) := by
  by_cases h : i + 1 = n
  · rw [h, show cumulativeAt d n n = d from if_pos rfl]
    exact cumulativeAt_le (Nat.le_of_lt hi) (Nat.zero_lt_of_lt hi)
  · rw [cumulativeAt, cumulativeAt, if_neg (Nat.ne_of_lt hi), if_neg h]
    exact Nat.div_le_div_right (Nat.add_le_add_right (Nat.mul_le_mul_right d (Nat.le_succ i)) _)

/-- The loop after `i` of its `n` rounds, before the last. -/
structure Sampled (s : RootPoint) (d n i : Nat) (l : Sampling) : Prop where
  cumulative : l.previousCumulative = cumulativeAt d n i
  delays : (l.samples.map MotionSample.delayMs).sum + l.pendingDelay = cumulativeAt d n i
  length_le : l.samples.length ≤ i
  last : (s :: l.samples.map MotionSample.point).getLast? = some l.previousPoint
  distinct : (s :: l.samples.map MotionSample.point).IsChain (· ≠ ·)

/-- The delay of the next sample, if it is sent. -/
def Sampling.delayAt (l : Sampling) (d n i : Nat) : Nat :=
  l.pendingDelay + (cumulativeAt d n (i + 1) - l.previousCumulative)

theorem Sampled.delayAt (h : Sampled s d n i l) (hi : i < n) :
    (l.samples.map MotionSample.delayMs).sum + l.delayAt d n i = cumulativeAt d n (i + 1) := by
  have hm := cumulativeAt_mono (d := d) hi
  have hd := h.delays
  rw [Sampling.delayAt, h.cumulative]
  omega

/-- A round fails only where the interpolation does. -/
theorem Sampled.round_eq (h : Sampled s d n i l) (hi : i < n) (hd : d ≤ u32Max) :
    sampleRound a s e c d n l (i + 1) = (a.interpolatePoint s e c (i + 1) n).map fun p =>
      if p ≠ l.previousPoint ∨ i + 1 = n then
        ⟨p, cumulativeAt d n (i + 1), 0, l.samples ++ [⟨p, l.delayAt d n i⟩]⟩
      else { l with previousCumulative := cumulativeAt d n (i + 1), pendingDelay := l.delayAt d n i } := by
  have hle : cumulativeAt d n (i + 1) ≤ d := cumulativeAt_le hi (Nat.zero_lt_of_lt hi)
  have hc : ¬ (u32Max < cumulativeAt d n (i + 1) ∨ cumulativeAt d n (i + 1) < l.previousCumulative) := by
    have hm := cumulativeAt_mono (d := d) hi
    rw [h.cumulative]
    omega
  have hp : ¬ u32Max < l.delayAt d n i := by
    have ha := h.delayAt hi
    omega
  have he : sampleRound a s e c d n l (i + 1) = (do
      if u32Max < cumulativeAt d n (i + 1) ∨ cumulativeAt d n (i + 1) < l.previousCumulative then
        throw .durationLimitExceeded
      if u32Max < l.delayAt d n i then throw .durationLimitExceeded
      let p ← a.interpolatePoint s e c (i + 1) n
      if p ≠ l.previousPoint ∨ i + 1 = n then
        return ⟨p, cumulativeAt d n (i + 1), 0, l.samples ++ [⟨p, l.delayAt d n i⟩]⟩
      else return { l with previousCumulative := cumulativeAt d n (i + 1), pendingDelay := l.delayAt d n i }) := rfl
  rw [he, if_neg hc, if_neg hp]
  cases a.interpolatePoint s e c (i + 1) n with
  | error x => rfl
  | ok p =>
    simp only [Except.map]
    exact (apply_ite Except.ok ..).symm

theorem Sampled.round (h : Sampled s d n i l) (hi : i + 1 < n) (hd : d ≤ u32Max)
    (hr : sampleRound a s e c d n l (i + 1) = .ok l') : Sampled s d n (i + 1) l' := by
  have hs := h.delayAt (Nat.lt_of_succ_lt hi)
  rw [h.round_eq (Nat.lt_of_succ_lt hi) hd] at hr
  cases hp : a.interpolatePoint s e c (i + 1) n with
  | error x => simp [hp, Except.map] at hr
  | ok p =>
    simp only [hp, Except.map, Except.ok.injEq, Nat.ne_of_lt hi, or_false] at hr
    have hl := h.length_le
    split_ifs at hr with hne
    · subst hr
      refine ⟨rfl, by simpa using hs, by simpa using hl, by simp [List.getLast?_cons], ?_⟩
      rw [List.map_append, ← List.cons_append]
      refine List.isChain_append.2 ⟨h.distinct, .singleton _, fun x hx y hy => ?_⟩
      cases h.last.symm.trans hx
      cases hy
      exact hne.symm
    · subst hr
      exact ⟨rfl, hs, Nat.le_succ_of_le hl, h.last, h.distinct⟩

theorem sampled_rounds {k} (hk : k < n) (hd : d ≤ u32Max)
    (hr : (List.range' 1 k).foldlM (sampleRound a s e c d n) ⟨s, 0, 0, []⟩ = .ok l) : Sampled s d n k l := by
  induction k generalizing l with
  | zero =>
    cases hr
    have hz := cumulativeAt_zero (d := d) hk
    exact ⟨hz.symm, hz.symm, Nat.le_refl 0, rfl, .singleton s⟩
  | succ k ih =>
    rw [List.range'_1_concat, List.foldlM_append, bind_eq_ok] at hr
    obtain ⟨m, hm, hr⟩ := hr
    rw [List.foldlM_cons, bind_eq_ok, Nat.add_comm] at hr
    obtain ⟨m', hm', hr⟩ := hr
    cases hr
    exact (ih (Nat.lt_of_succ_lt hk) hm).round hk hd hm'

/-! ## A segment -/

/-- Samples that lead from `s` to `e` in exactly `d` ms: only the last may repeat the point
before it. -/
def ExactlyTimed (s e : RootPoint) (d n : Nat) (samples : List MotionSample) : Prop :=
  ∃ init delay, samples = init ++ [⟨e, delay⟩] ∧ (init.map MotionSample.delayMs).sum + delay = d ∧
    init.length < n ∧ (s :: init.map MotionSample.point).IsChain (· ≠ ·)

theorem timed_rounds (hn : 0 < n) (hd : d ≤ u32Max)
    (hr : (List.range' 1 n).foldlM (sampleRound a s e c d n) ⟨s, 0, 0, []⟩ = .ok l) : ExactlyTimed s e d n l.samples := by
  obtain ⟨k, rfl⟩ := Nat.exists_eq_succ_of_ne_zero (Nat.ne_of_gt hn)
  rw [List.range'_1_concat, List.foldlM_append, bind_eq_ok] at hr
  obtain ⟨m, hm, hr⟩ := hr
  have h := sampled_rounds (Nat.lt_succ_self k) hd hm
  rw [List.foldlM_cons, bind_eq_ok] at hr
  obtain ⟨m', hm', hr⟩ := hr
  cases hr
  rw [Nat.add_comm 1 k, h.round_eq (Nat.lt_succ_self k) hd, MotionArithmetic.interpolatePoint,
    if_pos (.inl rfl)] at hm'
  simp only [Except.map, or_true, if_true, Except.ok.injEq] at hm'
  subst hm'
  refine ⟨m.samples, _, rfl, ?_, Nat.lt_succ_of_le h.length_le, h.distinct⟩
  rw [h.delayAt (Nat.lt_succ_self k), cumulativeAt, if_pos rfl]

/-- Where every point can be computed, the loop ends. -/
theorem rounds_ok (hp : ∀ i, ∃ p, a.interpolate s e c i n = .ok p) (hd : d ≤ u32Max) {k} (hk : k ≤ n) :
    ∃ l, (List.range' 1 k).foldlM (sampleRound a s e c d n) ⟨s, 0, 0, []⟩ = .ok l := by
  induction k with
  | zero => exact ⟨_, rfl⟩
  | succ k ih =>
    obtain ⟨m, hm⟩ := ih (Nat.le_of_succ_le hk)
    obtain ⟨p, hp⟩ : ∃ p, a.interpolatePoint s e c (k + 1) n = .ok p := by
      rw [MotionArithmetic.interpolatePoint]
      split_ifs
      · exact ⟨e, rfl⟩
      · exact hp (k + 1)
    rw [List.range'_1_concat, List.foldlM_append, hm, Nat.add_comm]
    have hr := (sampled_rounds hk hd hm).round_eq (a := a) (e := e) (c := c) hk hd
    rw [hp] at hr
    exact ⟨_, congrArg (· >>= pure) hr⟩

/-- The number of samples of a segment. -/
def MotionOptions.rawSampleCount (o : MotionOptions) (durationMs : Nat) : Nat :=
  if o.curve = .instant then 1 else max ((durationMs * o.policy.sampleRateHz + 999) / 1000) 1

theorem MotionOptions.rawSampleCount_pos : 0 < o.rawSampleCount d := by
  rw [rawSampleCount]
  split_ifs <;> omega

section

variable (hd : d ≤ maxMotionDurationMs)

include hd

theorem MotionOptions.rawSampleCount_le : o.rawSampleCount d ≤ 2400 := by
  have hm : d * o.policy.sampleRateHz ≤ 10000 * 240 := Nat.mul_le_mul hd o.policy.sampleRate_range.2
  rw [rawSampleCount]
  split_ifs <;> omega

theorem rawSampleCount_eq :
    (if o.curve = .instant then pure 1 else sampleCount d o.policy.sampleRateHz) =
      (.ok (o.rawSampleCount d) : Except MotionPlanError Nat) := by
  have hc := o.rawSampleCount_le hd
  rw [MotionOptions.rawSampleCount] at hc ⊢
  split_ifs at hc ⊢ with h
  · rfl
  · have hu : ¬ u32Max < max ((d * o.policy.sampleRateHz + 999) / 1000) 1 := Nat.not_lt.2 (Nat.le_trans hc (by decide))
    simp [sampleCount, validateDuration, Nat.not_lt.2 hd, validateSampleRate, o.policy.sampleRate_range, hu, bind,
      Except.bind]

theorem planSegment_eq (hm : ¬ (s = e ∧ !o.emitNoop)) :
    planSegment a s e o d = (List.range' 1 (o.rawSampleCount d)).foldlM
      (sampleRound a s e o.curve d (o.rawSampleCount d)) ⟨s, 0, 0, []⟩ >>= Sampling.planned s e d (o.rawSampleCount d) := by
  have hc : ¬ maxMotionEvents < o.rawSampleCount d := Nat.not_lt.2 (Nat.le_trans (o.rawSampleCount_le hd) (by decide))
  have hn := rawSampleCount_eq (o := o) hd
  rw [planSegment, validateDuration, if_neg (Nat.not_lt.2 hd)]
  simp only [if_neg hm]
  by_cases hi : o.curve = .instant
  · have hone : o.rawSampleCount d = 1 := if_pos hi
    simp only [hi, hone]
    rfl
  · rw [if_neg hi] at hn
    simp only [hi, hn]
    exact if_neg hc

/-- **A planned segment is exactly timed.** -/
theorem planSegment_timed (hm : ¬ (s = e ∧ !o.emitNoop))
    (h : planSegment a s e o d = .ok plan) :
    plan.durationMs = d ∧ ExactlyTimed s e d plan.rawSampleCount plan.samples ∧ plan.rawSampleCount ≤ 2400 := by
  rw [planSegment_eq hd hm, bind_eq_ok] at h
  obtain ⟨l, hl, hp⟩ := h
  have ht := timed_rounds MotionOptions.rawSampleCount_pos (Nat.le_trans hd (by decide)) hl
  rw [Sampling.planned] at hp
  split_ifs at hp
  cases hp
  exact ⟨rfl, ht, o.rawSampleCount_le hd⟩

end

theorem ExactlyTimed.length {samples} (h : ExactlyTimed s e d n samples) :
    1 ≤ samples.length ∧ samples.length ≤ n := by
  obtain ⟨it, dl, rfl, -, hl, -⟩ := h
  rw [List.length_append, List.length_singleton]
  exact ⟨Nat.le_add_left .., hl⟩

/-- Where every point can be computed, planning succeeds. -/
theorem planSegment_ok (hp : ∀ s e c i n, ∃ p, a.interpolate s e c i n = .ok p) (hd : d ≤ maxMotionDurationMs) :
    ∃ plan, planSegment a s e o d = .ok plan := by
  by_cases hm : s = e ∧ !o.emitNoop
  · rw [planSegment, validateDuration, if_neg (Nat.not_lt.2 hd)]
    simp only [if_pos hm]
    exact ⟨_, rfl⟩
  · have hu : d ≤ u32Max := Nat.le_trans hd (by decide)
    obtain ⟨l, hl⟩ := rounds_ok (fun i => hp s e o.curve i (o.rawSampleCount d)) hu (Nat.le_refl _)
    have ht := (timed_rounds MotionOptions.rawSampleCount_pos hu hl).length.2
    have hle : ¬ maxMotionEvents < l.samples.length :=
      Nat.not_lt.2 (Nat.le_trans ht (Nat.le_trans (o.rawSampleCount_le hd) (by decide)))
    rw [planSegment_eq hd hm, hl]
    exact ⟨_, dif_neg hle⟩

/-- Planning a motion is planning a segment of the requested duration, or the automatic one. -/
theorem planMotion_eq {a s e o} :
    ∃ d ≤ maxMotionDurationMs, planMotion a s e o = planSegment a s e o d ∧ ∀ ms, o.durationMs = some ms → d = ms := by
  have hr : validateSampleRate o.policy.sampleRateHz = .ok () := if_pos o.policy.sampleRate_range
  rw [planMotion, hr]
  by_cases hi : o.curve = .instant
  · have hz := o.instant_zero hi
    refine ⟨0, Nat.zero_le _, ?_, fun ms hms => (hz ms hms).symm⟩
    have h0 : ¬ o.durationMs.getD 0 ≠ 0 := by
      cases hms : o.durationMs with
      | none => simp
      | some ms => simp [hz ms hms]
    simp only [hi, h0]
    rfl
  · cases hms : o.durationMs with
    | some ms =>
      have hle := o.duration_le ms hms
      refine ⟨ms, hle, ?_, fun _ h => Option.some.inj h⟩
      simp only [hi, validateDuration, Nat.not_lt.2 hle]
      rfl
    | none =>
      refine ⟨a.automaticDuration s e o.policy, ?_, ?_, nofun⟩
      · have hmin := o.policy.minimum_le
        have hmax := o.policy.maximum_le
        rw [MotionArithmetic.automaticDuration]
        split_ifs <;> omega
      · simp only [hi]
        rfl

/-- Arithmetic in which every point can be computed. -/
def MotionArithmetic.ofPoints (points : RootPoint → RootPoint → MotionCurve → Nat → Nat → RootPoint)
    (nominalDuration : RootPoint → RootPoint → MotionPolicy → Nat) : MotionArithmetic :=
  ⟨fun start endPoint curve index count => .ok (points start endPoint curve index count), nominalDuration⟩

/-- **Exact timing of a motion plan**, for any points between: it succeeds, and unless nothing
is to be sent its delays sum to its duration, it ends at the end point, and only its last
sample may repeat the point before it. -/
theorem planMotion_exact (points : RootPoint → RootPoint → MotionCurve → Nat → Nat → RootPoint)
    (nominalDuration : RootPoint → RootPoint → MotionPolicy → Nat) (start endPoint : RootPoint)
    (options : MotionOptions) :
    ∃ plan, planMotion (.ofPoints points nominalDuration) start endPoint options = .ok plan ∧
      if start = endPoint ∧ !options.emitNoop then plan.samples = [] ∧ plan.durationMs = 0
      else
        (plan.samples.map MotionSample.delayMs).sum = plan.durationMs ∧
        (∀ ms, options.durationMs = some ms → plan.durationMs = ms) ∧
        plan.samples.getLast?.map MotionSample.point = some endPoint ∧
        1 ≤ plan.eventCount ∧ plan.eventCount ≤ plan.rawSampleCount ∧ plan.rawSampleCount ≤ 2400 ∧
        (start :: plan.samples.dropLast.map MotionSample.point).IsChain (· ≠ ·) := by
  obtain ⟨d, hd, he, hms⟩ := planMotion_eq
  obtain ⟨plan, hp⟩ := planSegment_ok (a := .ofPoints points nominalDuration)
    (fun s e c i n => ⟨points s e c i n, rfl⟩) hd
  refine ⟨plan, he.trans hp, ?_⟩
  split_ifs with hm
  · rw [planSegment, validateDuration, if_neg (Nat.not_lt.2 hd)] at hp
    simp only [if_pos hm] at hp
    cases hp
    exact ⟨rfl, rfl⟩
  · obtain ⟨hdur, ht, hc⟩ := planSegment_timed hd hm hp
    have hl := ht.length
    obtain ⟨it, dl, hs, hsum, -, hch⟩ := ht
    refine ⟨?_, fun ms h => hdur.trans (hms ms h), ?_, hl.1, hl.2, hc, ?_⟩
    · simpa [hs, hdur] using hsum
    · simp [hs]
    · simpa [hs] using hch

end Xenoteer
