/-
Pointer motion plans (`input/interpolation.rs`): one segment from a start to
an end point, sampled at a fixed rate, with the delays of equal neighbours
carried over to the next sample that is sent.

The interpolated points and the nominal duration come from floating-point
arithmetic, which is a parameter here (`MotionArithmetic`).
-/
import Xenoteer.Input.Effect

namespace Xenoteer

def maxMotionDurationMs : Nat := 10000

def maxMotionEvents : Nat := 4096

def minSampleRateHz : Nat := 1

def maxSampleRateHz : Nat := 240

inductive MotionPlanError where
  | durationLimitExceeded
  | nominalSpeedMustBePositive
  | automaticDurationRangeInvalid (minimumMs maximumMs : Nat)
  | instantDurationMustBeZero
  | sampleRateOutOfRange (actual : Nat)
  | waypointCount (actual : Nat)
  | segmentDurationCount (expected actual : Nat)
  | eventLimitExceeded (maximum : Nat)
  | nonFiniteCalculation
  | roundedCoordinateOverflow

/-- Automatic pointer motion policy of a desktop profile. -/
structure MotionPolicy where
  sampleRateHz : Nat
  nominalSpeedPxPerSecond : Nat
  minimumDurationMs : Nat
  maximumDurationMs : Nat
  sampleRate_range : minSampleRateHz ≤ sampleRateHz ∧ sampleRateHz ≤ maxSampleRateHz
  speed_pos : nominalSpeedPxPerSecond ≠ 0
  minimum_le : minimumDurationMs ≤ maximumDurationMs
  maximum_le : maximumDurationMs ≤ maxMotionDurationMs

def validateSampleRate (sampleRateHz : Nat) : Except MotionPlanError Unit :=
  if minSampleRateHz ≤ sampleRateHz ∧ sampleRateHz ≤ maxSampleRateHz then .ok ()
  else .error (.sampleRateOutOfRange sampleRateHz)

def validateDuration (durationMs : Nat) : Except MotionPlanError Unit :=
  if maxMotionDurationMs < durationMs then .error .durationLimitExceeded else .ok ()

/-- The defaults: 60 Hz, 1200 px/s, 80 to 650 ms. -/
def MotionPolicy.default : MotionPolicy :=
  { sampleRateHz := 60, nominalSpeedPxPerSecond := 1200, minimumDurationMs := 80, maximumDurationMs := 650
    sampleRate_range := by decide, speed_pos := by decide, minimum_le := by decide, maximum_le :=
      by decide }

inductive MotionCurve where
  | instant
  | linear
  | smooth
deriving DecidableEq

/-- Settings of one motion segment. No duration selects the automatic one. -/
structure MotionOptions where
  curve : MotionCurve
  durationMs : Option Nat
  policy : MotionPolicy
  emitNoop : Bool
  duration_le : ∀ ms, durationMs = some ms → ms ≤ maxMotionDurationMs
  instant_zero : curve = .instant → ∀ ms, durationMs = some ms → ms = 0

def MotionOptions.new (curve : MotionCurve) (durationMs : Option Nat) (policy : MotionPolicy)
    (emitNoop : Bool) : Except MotionPlanError MotionOptions :=
  match durationMs with
  | none => .ok ⟨curve, none, policy, emitNoop, by simp, by simp⟩
  | some ms =>
    if hle : maxMotionDurationMs < ms then .error .durationLimitExceeded
    else if hzero : curve = .instant ∧ ms ≠ 0 then .error .instantDurationMustBeZero
    else .ok ⟨curve, some ms, policy, emitNoop, fun n h => by cases h; exact Nat.le_of_not_lt hle,
      fun hcurve n h => by cases h; simpa [hcurve] using hzero⟩

def MotionOptions.instant (emitNoop : Bool) : MotionOptions :=
  ⟨.instant, none, .default, emitNoop, by simp, by simp⟩

/-- One absolute pointer event and its server-side delay. -/
structure MotionSample where
  point : RootPoint
  delayMs : Nat

/-- A bounded sequence of motion events. The segments are consecutive ranges
of the samples and cover them. -/
structure MotionPlan where
  start : RootPoint
  endPoint : RootPoint
  durationMs : Nat
  rawSampleCount : Nat
  samples : List MotionSample
  segmentRanges : List (Nat × Nat)
  samples_le : samples.length ≤ maxMotionEvents
  segments_flatten : (segmentRanges.map fun range => samples.extract range.1 range.2).flatten = samples

namespace MotionPlan

/-- The motion segments in execution order; between two of them the host may
stop. -/
def segments (plan : MotionPlan) : List (List MotionSample) :=
  plan.segmentRanges.map fun range => plan.samples.extract range.1 range.2

def eventCount (plan : MotionPlan) : Nat := plan.samples.length

/-- The plan of a move to where the pointer is. -/
def stay (start endPoint : RootPoint) : MotionPlan :=
  ⟨start, endPoint, 0, 0, [], [], Nat.zero_le _, rfl⟩

end MotionPlan

/-- What planning computes in floating point. -/
structure MotionArithmetic where
  /-- The point of sample `index` of `count`, before the last one. -/
  interpolate (start endPoint : RootPoint) (curve : MotionCurve) (index count : Nat) :
    Except MotionPlanError RootPoint
  /-- The distance over the nominal speed, rounded. -/
  nominalDuration (start endPoint : RootPoint) (policy : MotionPolicy) : Nat

namespace MotionArithmetic

variable (arithmetic : MotionArithmetic)

def interpolatePoint (start endPoint : RootPoint) (curve : MotionCurve) (index count : Nat) :
    Except MotionPlanError RootPoint :=
  if index = count ∨ curve = .instant then .ok endPoint
  else arithmetic.interpolate start endPoint curve index count

def automaticDuration (start endPoint : RootPoint) (policy : MotionPolicy) : Nat :=
  if start = endPoint then 0
  else max policy.minimumDurationMs
    (min (arithmetic.nominalDuration start endPoint policy) policy.maximumDurationMs)

end MotionArithmetic

/-- `⌈duration · rate / 1000⌉`, at least one. -/
def sampleCount (durationMs sampleRateHz : Nat) : Except MotionPlanError Nat := do
  validateDuration durationMs
  validateSampleRate sampleRateHz
  let count := max ((durationMs * sampleRateHz + 999) / 1000) 1
  if u32Max < count then .error (.eventLimitExceeded maxMotionEvents) else .ok count

structure Sampling where
  previousPoint : RootPoint
  previousCumulative : Nat
  pendingDelay : Nat
  samples : List MotionSample

/-- One round of the sampling loop. A point that equals the one before is not
sent; its delay is carried over. -/
def sampleRound (arithmetic : MotionArithmetic) (start endPoint : RootPoint) (curve : MotionCurve)
    (durationMs count : Nat) (loop : Sampling) (index : Nat) : Except MotionPlanError Sampling := do
  let cumulative :=
    if index = count then durationMs else (index * durationMs + count / 2) / count
  if u32Max < cumulative ∨ cumulative < loop.previousCumulative then throw .durationLimitExceeded
  let pendingDelay := loop.pendingDelay + (cumulative - loop.previousCumulative)
  if u32Max < pendingDelay then throw .durationLimitExceeded
  let point ← arithmetic.interpolatePoint start endPoint curve index count
  if point ≠ loop.previousPoint ∨ index = count then
    return ⟨point, cumulative, 0, loop.samples ++ [⟨point, pendingDelay⟩]⟩
  else return { loop with previousCumulative := cumulative, pendingDelay }

/-- The plan of a segment, from the loop that sampled it. -/
def Sampling.planned (start endPoint : RootPoint) (durationMs count : Nat) (loop : Sampling) :
    Except MotionPlanError MotionPlan :=
  if hle : maxMotionEvents < loop.samples.length then throw (.eventLimitExceeded maxMotionEvents)
  else
    .ok { start, endPoint, durationMs, rawSampleCount := count, samples := loop.samples,
          segmentRanges := [(0, loop.samples.length)], samples_le := Nat.le_of_not_lt hle,
          segments_flatten := by simp }

def planSegment (arithmetic : MotionArithmetic) (start endPoint : RootPoint) (options : MotionOptions)
    (durationMs : Nat) : Except MotionPlanError MotionPlan := do
  validateDuration durationMs
  if start = endPoint ∧ !options.emitNoop then return MotionPlan.stay start endPoint
  let count ← if options.curve = .instant then pure 1
    else sampleCount durationMs options.policy.sampleRateHz
  if maxMotionEvents < count then throw (.eventLimitExceeded maxMotionEvents)
  let loop ← (List.range' 1 count).foldlM
    (sampleRound arithmetic start endPoint options.curve durationMs count) ⟨start, 0, 0, []⟩
  loop.planned start endPoint durationMs count

def planMotion (arithmetic : MotionArithmetic) (start endPoint : RootPoint) (options : MotionOptions) :
    Except MotionPlanError MotionPlan := do
  validateSampleRate options.policy.sampleRateHz
  if options.curve = .instant then
    if options.durationMs.getD 0 ≠ 0 then throw .instantDurationMustBeZero
    else planSegment arithmetic start endPoint options 0
  else match options.durationMs with
    | some durationMs => do
      validateDuration durationMs
      planSegment arithmetic start endPoint options durationMs
    | none =>
      planSegment arithmetic start endPoint options
        (arithmetic.automaticDuration start endPoint options.policy)

end Xenoteer
