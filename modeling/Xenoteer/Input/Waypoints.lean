/-
Motion through waypoints (`input/interpolation.rs`): consecutive duplicates are
dropped, a duration is allocated to each segment that is left, and the segments
are planned one by one. Their ranges are the places where the host may stop.
-/
import Xenoteer.Input.MotionFacts

namespace Xenoteer

open Lib Checks

def maxWaypoints : Nat := 1024

inductive WaypointDurationPolicy where
  | perSegment (durations : List Nat)
  | total (ms : Nat)
  | automatic (clampPathToLimit : Bool)

/-- What the allocation of a total duration computes in floating point. -/
structure WaypointArithmetic extends MotionArithmetic where
  /-- The distances add up to zero. -/
  isLengthless (points : List RootPoint) : Bool
  /-- The share of `totalMs` up to the end of segment `index`, rounded. -/
  scaled (points : List RootPoint) (totalMs index : Nat) : Except MotionPlanError Nat

/-- Ranges that follow each other from `first` to `last`. -/
def Consecutive : Nat → List (Nat × Nat) → Nat → Prop
  | first, [], last => first = last
  | first, range :: ranges, last => range.1 = first ∧ range.1 ≤ range.2 ∧ Consecutive range.2 ranges last

theorem Consecutive.append {m n k rs} (h : Consecutive m rs n) (hk : n ≤ k) : Consecutive m (rs ++ [(n, k)]) k := by
  induction rs generalizing m with
  | nil => exact ⟨h.symm, hk, rfl⟩
  | cons r rs ih => exact ⟨h.1, h.2.1, ih h.2.2⟩

theorem Consecutive.le {m n rs} (h : Consecutive m rs n) : m ≤ n ∧ ∀ r ∈ rs, r.2 ≤ n := by
  induction rs generalizing m with
  | nil => exact ⟨Nat.le_of_eq h, nofun⟩
  | cons r rs ih =>
    obtain ⟨hle, hrs⟩ := ih h.2.2
    refine ⟨h.1 ▸ Nat.le_trans h.2.1 hle, fun x hx => ?_⟩
    obtain rfl | hx := List.mem_cons.1 hx
    · exact hle
    · exact hrs x hx

theorem extract_append_of_le {α : Type} {l k : List α} {i j : Nat} (h : j ≤ l.length) :
    (l ++ k).extract i j = l.extract i j := by
  rw [List.extract_eq_take_drop, List.extract_eq_take_drop, ← List.drop_take, ← List.drop_take,
    List.take_append_of_le_length h]

structure WaypointPath where
  durationMs : Nat
  rawSampleCount : Nat
  samples : List MotionSample
  segmentRanges : List (Nat × Nat)
  samples_le : samples.length ≤ maxMotionEvents
  consecutive : Consecutive 0 segmentRanges samples.length
  segments_flatten : (segmentRanges.map fun range => samples.extract range.1 range.2).flatten = samples

namespace WaypointPath

def empty : WaypointPath := ⟨0, 0, [], [], Nat.zero_le _, rfl, List.flatten_nil⟩

def segments (path : WaypointPath) : List (List MotionSample) :=
  path.segmentRanges.map fun range => path.samples.extract range.1 range.2

theorem extracts_append (p : WaypointPath) (m : List MotionSample) :
    ((p.segmentRanges ++ [(p.samples.length, (p.samples ++ m).length)]).map fun rn =>
      (p.samples ++ m).extract rn.1 rn.2) = p.segments ++ [m] := by
  rw [List.map_append, segments]
  congr 1
  · exact List.map_congr_left fun r hr => extract_append_of_le (p.consecutive.le.2 r hr)
  · simp [List.extract_eq_take_drop]

def extend (path : WaypointPath) (segment : MotionPlan) : Except MotionPlanError WaypointPath :=
  if u32Max < path.durationMs + segment.durationMs then throw .durationLimitExceeded
  else match checkedAdd path.rawSampleCount segment.rawSampleCount with
    | none => throw (.eventLimitExceeded maxMotionEvents)
    | some rawSampleCount =>
      if h : maxMotionEvents < path.samples.length + segment.samples.length then
        throw (.eventLimitExceeded maxMotionEvents)
      else
        .ok { durationMs := path.durationMs + segment.durationMs, rawSampleCount
              samples := path.samples ++ segment.samples
              segmentRanges := path.segmentRanges ++
                [(path.samples.length, (path.samples ++ segment.samples).length)]
              samples_le := by rw [List.length_append]; exact Nat.le_of_not_lt h
              consecutive := path.consecutive.append (by simp)
              segments_flatten := by
                rw [path.extracts_append, List.flatten_append, segments, path.segments_flatten]
                simp }

theorem extend_eq_ok {p p' : WaypointPath} {plan : MotionPlan} (h : p.extend plan = .ok p') :
    p'.durationMs = p.durationMs + plan.durationMs ∧ p'.samples = p.samples ++ plan.samples ∧
      p'.segments = p.segments ++ [plan.samples] := by
  rw [extend] at h
  split_ifs at h
  all_goals split at h
  all_goals cases h
  exact ⟨rfl, rfl, p.extracts_append plan.samples⟩

end WaypointPath

section

variable (arithmetic : WaypointArithmetic)

def pushPoint (points : List RootPoint) (point : RootPoint) : List RootPoint :=
  if points.getLast? = some point then points else points ++ [point]

/-- The start and the waypoints, without consecutive duplicates. -/
def normalizedPoints (start : RootPoint) (waypoints : List RootPoint) : List RootPoint :=
  waypoints.foldl pushPoint [start]

def addDuration (sum durationMs : Nat) : Except MotionPlanError Nat :=
  if u32Max < sum + durationMs then throw .durationLimitExceeded else return sum + durationMs

def validateDurations (durations : List Nat) : Except MotionPlanError Unit := do
  let total ← durations.foldlM (fun sum durationMs => do
    validateDuration durationMs
    addDuration sum durationMs) 0
  validateDuration total

/-- One round of the proportional allocation: the durations so far, with the time they reach. -/
def proportionalRound (points : List RootPoint) (totalMs : Nat) (loop : List Nat × Nat) (index : Nat) :
    Except MotionPlanError (List Nat × Nat) := do
  let cumulative ← if index + 1 = points.length - 1 then pure totalMs else arithmetic.scaled points totalMs index
  if cumulative < loop.2 then throw .durationLimitExceeded
  return (loop.1 ++ [cumulative - loop.2], cumulative)

def proportionalDurations (points : List RootPoint) (totalMs : Nat) : Except MotionPlanError (List Nat) := do
  let count := points.length - 1
  if arithmetic.isLengthless points then
    return if count = 0 then [] else List.replicate (count - 1) 0 ++ [totalMs]
  let (result, _) ← (List.range count).foldlM (proportionalRound arithmetic points totalMs) ([], 0)
  return result

def allocateDurations (points : List RootPoint) (policy : MotionPolicy) :
    WaypointDurationPolicy → Except MotionPlanError (List Nat)
  | .perSegment durations => do
    if durations.length ≠ points.length - 1 then
      throw (.segmentDurationCount (points.length - 1) durations.length)
    validateDurations durations
    return durations
  | .total ms => do
    validateDuration ms
    proportionalDurations arithmetic points ms
  | .automatic clampPathToLimit => do
    let durations := (points.zip points.tail).map fun segment =>
      arithmetic.automaticDuration segment.1 segment.2 policy
    let total ← durations.foldlM addDuration 0
    if total ≤ maxMotionDurationMs then return durations
    if !clampPathToLimit then throw .durationLimitExceeded
    proportionalDurations arithmetic points maxMotionDurationMs

def allocateInstantDurations (segmentCount : Nat) : WaypointDurationPolicy → Except MotionPlanError (List Nat)
  | .automatic _ | .total 0 => return List.replicate segmentCount 0
  | .total _ => throw .instantDurationMustBeZero
  | .perSegment durations => do
    if durations.length ≠ segmentCount then throw (.segmentDurationCount segmentCount durations.length)
    if durations.any (· ≠ 0) then throw .instantDurationMustBeZero
    return durations

def allocateFor (points : List RootPoint) (curve : MotionCurve) (policy : MotionPolicy)
    (durationPolicy : WaypointDurationPolicy) : Except MotionPlanError (List Nat) :=
  if curve = .instant then allocateInstantDurations (points.length - 1) durationPolicy
  else allocateDurations arithmetic points policy durationPolicy

/-- One round of the planning loop: a segment with its duration and index. -/
def waypointRound (curve : MotionCurve) (policy : MotionPolicy) (emitFinalNoop : Bool) (segmentCount : Nat)
    (path : WaypointPath) (segment : ((RootPoint × RootPoint) × Nat) × Nat) : Except MotionPlanError WaypointPath := do
  let (((segmentStart, segmentEnd), durationMs), index) := segment
  let options ← MotionOptions.new curve (some durationMs) policy
    (emitFinalNoop && index + 1 == segmentCount && segmentStart == segmentEnd)
  let plan ← planMotion arithmetic.toMotionArithmetic segmentStart segmentEnd options
  path.extend plan

def planSegments (start requestedEnd : RootPoint) (curve : MotionCurve) (policy : MotionPolicy) (emitFinalNoop : Bool)
    (points : List RootPoint) (durations : List Nat) : Except MotionPlanError MotionPlan := do
  let segmentCount := points.length - 1
  if segmentCount = 0 then return MotionPlan.stay start requestedEnd
  let path ← ((points.zip points.tail).zip durations).zipIdx.foldlM
    (waypointRound arithmetic curve policy emitFinalNoop segmentCount) .empty
  validateDuration path.durationMs
  return ⟨start, requestedEnd, path.durationMs, path.rawSampleCount, path.samples, path.segmentRanges,
    path.samples_le, path.segments_flatten⟩

def planWaypointMotion (start : RootPoint) (waypoints : List RootPoint) (curve : MotionCurve) (policy : MotionPolicy)
    (emitFinalNoop : Bool) (durationPolicy : WaypointDurationPolicy) : Except MotionPlanError MotionPlan := do
  if waypoints.isEmpty ∨ maxWaypoints < waypoints.length then throw (.waypointCount waypoints.length)
  validateSampleRate policy.sampleRateHz
  match waypoints.getLast? with
  | none => throw (.waypointCount 0)
  | some requestedEnd =>
    let points := normalizedPoints start waypoints
    let durations ← allocateFor arithmetic points curve policy durationPolicy
    if durations.length ≠ points.length - 1 then
      throw (.segmentDurationCount (points.length - 1) durations.length)
    planSegments arithmetic start requestedEnd curve policy emitFinalNoop
      (if emitFinalNoop then points ++ [requestedEnd] else points)
      (if emitFinalNoop then durations ++ [0] else durations)

end

/-! ## The points -/

/-- The waypoints that differ from the point before them. -/
def changes : RootPoint → List RootPoint → List RootPoint
  | _, [] => []
  | last, point :: points => if last ≠ point then point :: changes point points else changes point points

variable {a : WaypointArithmetic} {s : RootPoint} {ws pn : List RootPoint}

theorem normalizedPoints_eq (s : RootPoint) (ws) : normalizedPoints s ws = s :: changes s ws := by
  have h : ∀ (ws acc : List RootPoint) (l : RootPoint), acc.getLast? = some l →
      ws.foldl pushPoint acc = acc ++ changes l ws := by
    intro ws
    induction ws with
    | nil => simp [changes]
    | cons p ws ih =>
      intro acc l hl
      by_cases hp : l = p
      · simp [pushPoint, changes, hl, hp, ih acc p (hp ▸ hl)]
      · simp [pushPoint, changes, hl, hp, ih (acc ++ [p]) p (by simp)]
  exact h ws [s] s rfl

theorem isChain_changes (s : RootPoint) (ws) : (s :: changes s ws).IsChain (· ≠ ·) := by
  induction ws generalizing s with
  | nil => exact .singleton s
  | cons p ws ih =>
    rw [changes]
    split_ifs with h
    · exact .cons_cons h (ih p)
    · exact not_not.1 h ▸ ih p

theorem getLast?_changes (s : RootPoint) (ws) : (s :: changes s ws).getLast? = (s :: ws).getLast? := by
  induction ws generalizing s with
  | nil => rfl
  | cons p ws ih =>
    rw [changes, List.getLast?_cons_cons, ← ih p]
    split_ifs with h
    · rw [List.getLast?_cons_cons]
    · rw [not_not.1 h]

/-! ## The durations -/

variable {n k : Nat}

theorem proportionalRound_eq_ok {loop r} (h : proportionalRound a pn n loop k = .ok r) :
    ∃ m, loop.2 ≤ m ∧ r = (loop.1 ++ [m - loop.2], m) ∧ (k + 1 = pn.length - 1 → m = n) := by
  rw [proportionalRound] at h
  by_cases hk : k + 1 = pn.length - 1
  · simp only [hk, if_true, bind_eq_ok, guard_eq_ok] at h
    obtain ⟨m, hm, hl, h⟩ := h
    cases hm
    cases h
    exact ⟨n, Nat.not_lt.1 hl, rfl, fun _ => rfl⟩
  · simp only [hk, if_false, bind_eq_ok, guard_eq_ok] at h
    obtain ⟨m, -, hl, h⟩ := h
    cases h
    exact ⟨m, Nat.not_lt.1 hl, rfl, fun he => absurd he hk⟩

/-- The durations add up to the time reached, which is the total after the last. -/
theorem proportionalRounds_sum {r} (h : (List.range k).foldlM (proportionalRound a pn n) ([], 0) = .ok r) :
    r.1.sum = r.2 ∧ (k ≠ 0 → k = pn.length - 1 → r.2 = n) := by
  induction k generalizing r with
  | zero =>
    cases h
    exact ⟨rfl, fun h => absurd rfl h⟩
  | succ k ih =>
    rw [List.range_succ, List.foldlM_append, bind_eq_ok] at h
    obtain ⟨l, hl, h⟩ := h
    rw [List.foldlM_cons, bind_eq_ok] at h
    obtain ⟨r', hr, h⟩ := h
    cases h
    obtain ⟨m, hle, rfl, hm⟩ := proportionalRound_eq_ok hr
    refine ⟨?_, fun _ hk => hm hk⟩
    rw [List.sum_append, (ih hl).1, List.sum_singleton, Nat.add_sub_cancel' hle]

theorem proportionalDurations_sum {ds} (h : proportionalDurations a pn n = .ok ds) (hp : pn.length - 1 ≠ 0) :
    ds.sum = n := by
  rw [proportionalDurations] at h
  split_ifs at h
  · cases h
    simp
  · obtain ⟨r, hr, h⟩ := bind_eq_ok.1 h
    obtain ⟨hs, hn⟩ := proportionalRounds_sum hr
    cases h
    exact hs.trans (hn hp rfl)

/-- What a duration policy asks of the durations of a path that moves. -/
def WaypointDurationPolicy.Asks (moves : Prop) (durationMs : Nat) : WaypointDurationPolicy → Prop
  | .perSegment durations => durationMs = durations.sum
  | .total ms => moves → durationMs = ms
  | .automatic _ => True

theorem allocate_asks {c pol dp ds}
    (h : allocateFor a pn c pol dp = .ok ds) : dp.Asks (pn.length - 1 ≠ 0) ds.sum := by
  rw [allocateFor] at h
  split_ifs at h
  · cases dp with
    | perSegment v =>
      simp only [allocateInstantDurations, guard_eq_ok] at h
      cases h.2.2
      rfl
    | total ms =>
      cases ms with
      | zero =>
        cases h
        simp [WaypointDurationPolicy.Asks]
      | succ ms => cases h
    | automatic cl => trivial
  · cases dp with
    | perSegment v =>
      simp only [allocateDurations, guard_eq_ok, andThen_eq_ok] at h
      cases h.2.2
      rfl
    | total ms => exact proportionalDurations_sum (andThen_eq_ok.1 h).2
    | automatic cl => trivial

/-! ## The path -/

variable {c : MotionCurve} {pol : MotionPolicy} {em : Bool} {cnt t : Nat} {ts : List RootPoint} {p p' : WaypointPath}

/-- The path goes through the targets, in the given time. -/
structure Follows (targets : List RootPoint) (timeMs : Nat) (path : WaypointPath) : Prop where
  ends : path.segments.map (fun segment => segment.getLast?.map MotionSample.point) = targets.map some
  last : path.samples.getLast?.map MotionSample.point = targets.getLast?
  delays : (path.samples.map MotionSample.delayMs).sum = path.durationMs
  duration : path.durationMs = timeMs

theorem Follows.round {x y d i} (h : Follows ts t p)
    (hr : waypointRound a c pol em cnt p (((x, y), d), i) = .ok p') (hx : x = y → em = true ∧ i + 1 = cnt) :
    Follows (ts ++ [y]) (t + d) p' := by
  simp only [waypointRound, bind_eq_ok] at hr
  obtain ⟨o, ho, plan, hp, he⟩ := hr
  obtain ⟨d', hd, hs, hms⟩ := planMotion_eq
  obtain ⟨hdm, hen⟩ : o.durationMs = some d ∧ o.emitNoop = (em && i + 1 == cnt && x == y) := by
    simp only [MotionOptions.new] at ho
    split_ifs at ho
    cases ho
    exact ⟨rfl, rfl⟩
  have hm : ¬ (x = y ∧ !o.emitNoop) := fun ⟨hxy, hn⟩ => by simp [hen, hx hxy, hxy] at hn
  obtain ⟨hdur, ⟨it, dl, hsm, hsum, -, -⟩, -⟩ := planSegment_timed hd hm (hs ▸ hp)
  obtain ⟨hd', hs', hg'⟩ := WaypointPath.extend_eq_ok he
  rw [hms d hdm] at hdur hsum
  refine ⟨?_, ?_, ?_, ?_⟩
  · rw [hg', List.map_append, h.ends, hsm]
    simp
  · rw [hs', hsm, ← List.append_assoc]
    simp
  · rw [hs', hd', hdur, ← h.delays, hsm]
    simp [← hsum]
  · rw [hd', h.duration, hdur]

theorem Follows.rounds {zs : List (((RootPoint × RootPoint) × Nat) × Nat)}
    (hz : ∀ z ∈ zs, z.1.1.1 = z.1.1.2 → em = true ∧ z.2 + 1 = cnt)
    (h : Follows ts t p) (hr : zs.foldlM (waypointRound a c pol em cnt) p = .ok p') :
    Follows (ts ++ zs.map fun z => z.1.1.2) (t + (zs.map fun z => z.1.2).sum) p' := by
  induction zs generalizing ts t p with
  | nil =>
    cases hr
    simpa using h
  | cons z zs ih =>
    rw [List.foldlM_cons, bind_eq_ok] at hr
    obtain ⟨q, hq, hr⟩ := hr
    have hf := ih (fun x hx => hz x (List.mem_cons_of_mem _ hx)) (h.round hq (hz z List.mem_cons_self)) hr
    simpa [Nat.add_assoc] using hf

/-- Only a final no-op stays where it is. -/
def Moves (em : Bool) (points : List RootPoint) : Prop :=
  ∀ i x, points[i]? = some x → points[i + 1]? = some x → em = true ∧ i + 1 = points.length - 1

theorem moves_changes (s : RootPoint) (ws) : Moves false (s :: changes s ws) := by
  intro i x hx hy
  obtain ⟨hi, hx⟩ := List.getElem?_eq_some_iff.1 hx
  obtain ⟨hj, hy⟩ := List.getElem?_eq_some_iff.1 hy
  exact absurd (hx.trans hy.symm) ((isChain_changes s ws).getElem i hj)

theorem Moves.append {e : RootPoint} (h : Moves false pn) : Moves true (pn ++ [e]) := by
  intro i x hx hy
  refine ⟨rfl, ?_⟩
  have hl := (List.getElem?_eq_some_iff.1 hy).1
  rw [List.length_append, List.length_singleton] at hl ⊢
  by_cases hi : i + 1 < pn.length
  · rw [List.getElem?_append_left hi] at hy
    rw [List.getElem?_append_left (Nat.lt_of_succ_lt hi)] at hx
    cases (h i x hx hy).1
  · omega

variable {dp : WaypointDurationPolicy} {plan : MotionPlan} {ds : List Nat} {e : RootPoint}

theorem planSegments_follows (hm : Moves em pn) (hd : ds.length = pn.length - 1)
    (h : planSegments a s e c pol em pn ds = .ok plan) :
    Consecutive 0 plan.segmentRanges plan.samples.length ∧
      plan.segments.map (fun sg => sg.getLast?.map MotionSample.point) = pn.tail.map some ∧
      plan.samples.getLast?.map MotionSample.point = pn.tail.getLast? ∧
      (plan.samples.map MotionSample.delayMs).sum = plan.durationMs ∧ plan.durationMs = ds.sum := by
  have ht : pn.tail.length = ds.length := by rw [List.length_tail, hd]
  rw [planSegments] at h
  split_ifs at h with hz
  · rw [hz] at hd
    rw [List.length_eq_zero_iff.1 (ht.trans hd), List.length_eq_zero_iff.1 hd]
    cases h
    exact ⟨rfl, rfl, rfl, rfl, rfl⟩
  · obtain ⟨p, hp, h⟩ := bind_eq_ok.1 h
    cases (andThen_eq_ok.1 h).2
    have hf := Follows.rounds ?_ (⟨rfl, rfl, rfl, rfl⟩ : Follows [] 0 .empty) hp
    · have hz : (pn.zip pn.tail).length = ds.length := by
        rw [List.length_zip, ht, hd]
        omega
      have he : (((pn.zip pn.tail).zip ds).zipIdx.map fun z => z.1.1.2) = pn.tail := by
        have hc : (fun z : ((RootPoint × RootPoint) × Nat) × Nat => z.1.1.2) = Prod.snd ∘ Prod.fst ∘ Prod.fst := rfl
        rw [hc, ← List.map_map, ← List.map_map, List.zipIdx_map_fst, List.map_fst_zip (Nat.le_of_eq hz),
          List.map_snd_zip (by rw [List.length_tail]; omega)]
      have hs : (((pn.zip pn.tail).zip ds).zipIdx.map fun z => z.1.2) = ds := by
        have hc : (fun z : ((RootPoint × RootPoint) × Nat) × Nat => z.1.2) = Prod.snd ∘ Prod.fst := rfl
        rw [hc, ← List.map_map, List.zipIdx_map_fst, List.map_snd_zip (Nat.le_of_eq hz.symm)]
      rw [he, hs] at hf
      exact ⟨p.consecutive, hf.ends, hf.last, hf.delays, by simpa using hf.duration⟩
    · intro z hz hxy
      have hg := List.mem_zipIdx_iff_getElem?.1 hz
      rw [List.getElem?_zip_eq_some, List.getElem?_zip_eq_some, List.getElem?_tail] at hg
      exact hm z.2 z.1.1.1 hg.1.1 (hxy ▸ hg.1.2)

/-- **Waypoint plans are exact and segment-aligned.** -/
theorem planWaypointMotion_exact (arithmetic : WaypointArithmetic) (start : RootPoint) (waypoints : List RootPoint)
    (curve : MotionCurve) (policy : MotionPolicy) (emitFinalNoop : Bool) (durationPolicy : WaypointDurationPolicy)
    (plan : MotionPlan)
    (h : planWaypointMotion arithmetic start waypoints curve policy emitFinalNoop durationPolicy = .ok plan) :
    let targets := changes start waypoints ++ if emitFinalNoop then waypoints.getLast?.toList else []
    Consecutive 0 plan.segmentRanges plan.samples.length ∧
      plan.segmentRanges.length = (changes start waypoints).length + (if emitFinalNoop then 1 else 0) ∧
      plan.segments.map (fun sg => sg.getLast?.map MotionSample.point) = targets.map some ∧
      (∀ sm, plan.samples.getLast? = some sm → waypoints.getLast? = some sm.point) ∧
      (plan.samples.map MotionSample.delayMs).sum = plan.durationMs ∧
      durationPolicy.Asks (changes start waypoints ≠ []) plan.durationMs ∧
      plan.samples.length ≤ maxMotionEvents := by
  intro targets
  simp only [planWaypointMotion, guard_eq_ok, andThen_eq_ok] at h
  obtain ⟨hw, -, h⟩ := h
  cases hl : waypoints.getLast? with
  | none => simp [hl] at h
  | some e =>
    simp only [hl, bind_eq_ok, guard_eq_ok, normalizedPoints_eq] at h
    obtain ⟨ds, hds, hlen, h⟩ := h
    rw [not_not] at hlen
    have ha := allocate_asks hds
    rw [show ((start :: changes start waypoints).length - 1 ≠ 0) = (changes start waypoints ≠ []) by simp] at ha
    have hlast : ∀ x, targets.getLast? = some x → x = e := by
      intro x hx
      have hg := getLast?_changes start waypoints
      rw [List.getLast?_cons, List.getLast?_cons, hl] at hg
      cases emitFinalNoop <;> simp_all [targets]
    have hf : Consecutive 0 plan.segmentRanges plan.samples.length ∧
        plan.segments.map (fun sg => sg.getLast?.map MotionSample.point) = targets.map some ∧
        plan.samples.getLast?.map MotionSample.point = targets.getLast? ∧
        (plan.samples.map MotionSample.delayMs).sum = plan.durationMs ∧ plan.durationMs = ds.sum := by
      have hm := moves_changes start waypoints
      cases emitFinalNoop with
      | false => simpa [targets] using planSegments_follows hm hlen h
      | true => simpa [targets, hl] using planSegments_follows hm.append (by simpa using hlen) h
    obtain ⟨hc, he, hs, hd, hsum⟩ := hf
    refine ⟨hc, ?_, he, fun x hx => ?_, hd, hsum ▸ ha, plan.samples_le⟩
    · have hn := congrArg List.length he
      rw [MotionPlan.segments, List.length_map, List.length_map, List.length_map] at hn
      cases emitFinalNoop <;> simpa [targets, hl] using hn
    · rw [hx] at hs
      rw [hlast x.point hs.symm]

/-- To the right by one, to the same point again, and a final no-op there, at once. -/
theorem planWaypointMotion_two :
    let start : RootPoint := ⟨0, 0, by decide, by decide⟩
    let pt : RootPoint := ⟨1, 0, by decide, by decide⟩
    let arithmetic : WaypointArithmetic :=
      ⟨.ofPoints (fun _ ep _ _ _ => ep) fun _ _ _ => 0, fun _ => false, fun _ tm _ => .ok tm⟩
    ∃ plan, planWaypointMotion arithmetic start [pt, pt] .instant .default true (.total 0) = .ok plan ∧
      plan.segmentRanges.length = 2 := by
  intro start pt arithmetic
  have h : planWaypointMotion arithmetic start [pt, pt] .instant .default true (.total 0) = .ok _ := rfl
  exact ⟨_, h, (planWaypointMotion_exact _ _ _ _ _ _ _ _ h).2.1⟩

end Xenoteer
