/-
Waiting for a moved window to come to rest (`window_control/x11.rs`).

After its request `execute_geometry` samples the window until its geometry
was quiet for a while. A change is known by a configure event or by comparing
with the sample before; what is proved is that no answer is given early.
Durations are in nanoseconds.
-/
import Xenoteer.Window.MoveResize

namespace Xenoteer

def geometryQuietWindow : Nat := 50000000
def maxGeometrySettle : Nat := 1000000000
def windowControlPollInterval : Nat := 20000000

inductive GeometryWaitState where
  | waiting | settled | expired
deriving DecidableEq

structure GeometryQuietTracker where
  lastChange : Nat := 0
  sawChange : Bool := false

def GeometryQuietTracker.observe (tracker : GeometryQuietTracker) (elapsed : Nat)
    (configuredOrChanged isMatch : Bool) : GeometryWaitState × GeometryQuietTracker :=
  let tracker := if configuredOrChanged then ⟨elapsed, true⟩ else tracker
  if (isMatch ∨ tracker.sawChange) ∧ geometryQuietWindow ≤ elapsed - tracker.lastChange then
    (.settled, tracker)
  else if maxGeometrySettle ≤ elapsed then (.expired, tracker)
  else (.waiting, tracker)

/-- What the wait is for. -/
structure GeometryWait where
  relativeTo : WindowGeometryTarget
  effective : WindowRect
  timeout : Nat
  initialGeometry : WindowGeometry

def GeometryWait.isMatch (wait : GeometryWait) (current : WindowGeometry) : Bool :=
  (match wait.relativeTo with
    | .frame => current.frameRect
    | .client => some current.clientRect) = some wait.effective

/-- One look of the loop. Configure events are drained before and after the
geometry is read. The loop is given looks whose time counts from the end of
the sleep before them. -/
structure GeometrySample where
  elapsed : Nat
  geometry : WindowGeometry
  configured : Bool

inductive GeometryOutcome where
  | converged | partially | timedOut

structure GeometryEvidence where
  outcome : GeometryOutcome
  observed : WindowGeometry
  settled : Bool

variable (wait : GeometryWait)

/-- The loop: the last sample, those before it and the answer, if the looks
lead to one. -/
def pollGeometry (tracker : GeometryQuietTracker) (previous : WindowGeometry) (resumed : Nat)
    (earlier : List GeometrySample) :
    List GeometrySample → Option (GeometrySample × List GeometrySample × GeometryEvidence)
  | [] => none
  | look :: looks =>
    let sample := { look with elapsed := resumed + look.elapsed }
    let observed := tracker.observe sample.elapsed (sample.configured || sample.geometry ≠ previous)
      (wait.isMatch sample.geometry)
    if observed.1 = .settled then
      some (sample, earlier,
        ⟨if wait.isMatch sample.geometry then .converged else .partially, sample.geometry, true⟩)
    else if observed.1 = .expired ∨ wait.timeout ≤ sample.elapsed then
      some (sample, earlier,
        ⟨if sample.geometry ≠ wait.initialGeometry then .partially else .timedOut, sample.geometry, false⟩)
    else
      pollGeometry observed.2 sample.geometry (sample.elapsed +
        min (min wait.timeout maxGeometrySettle - sample.elapsed) windowControlPollInterval)
        (sample :: earlier) looks

/-- `execute_geometry` after its request was sent. -/
def executeGeometry := pollGeometry wait {} wait.initialGeometry 0 []

structure GeometryEvidence.Justified (evidence : GeometryEvidence) (final : GeometrySample)
    (earlier : List GeometrySample) : Prop where
  observed : evidence.observed = final.geometry
  converged : evidence.outcome = .converged → geometryQuietWindow ≤ final.elapsed ∧
    wait.isMatch final.geometry ∧ ∀ s ∈ final :: earlier, final.elapsed < s.elapsed + geometryQuietWindow →
      s.geometry = final.geometry ∧ s.configured = false
  late : evidence.settled = false → maxGeometrySettle ≤ final.elapsed ∨ wait.timeout ≤ final.elapsed
  timedOut : evidence.outcome = .timedOut ↔ evidence.settled = false ∧ final.geometry = wait.initialGeometry

variable {wait} {tracker : GeometryQuietTracker} {elapsed : Nat} {changed isMatch : Bool}
  {previous : WindowGeometry} {resumed : Nat} {earlier looks : List GeometrySample}

theorem observe_settled (h : (tracker.observe elapsed changed isMatch).1 = .settled) :
    (tracker.observe elapsed changed isMatch).2.lastChange + geometryQuietWindow ≤ elapsed := by
  have hp : 0 < geometryQuietWindow := by decide
  unfold GeometryQuietTracker.observe at h ⊢
  grind

theorem observe_expired (h : ¬ (tracker.observe elapsed changed isMatch).1 = .settled) :
    (tracker.observe elapsed changed isMatch).1 = .expired ↔ maxGeometrySettle ≤ elapsed := by
  unfold GeometryQuietTracker.observe at h ⊢
  grind

theorem observe_lastChange : (tracker.observe elapsed changed isMatch).2.lastChange =
    if changed then elapsed else tracker.lastChange := by
  unfold GeometryQuietTracker.observe
  grind

theorem pollGeometry_ends {k : Nat} (hk : k < looks.length)
    (h : min wait.timeout maxGeometrySettle ≤ resumed + windowControlPollInterval * k) :
    (pollGeometry wait tracker previous resumed earlier looks).isSome := by
  fun_induction pollGeometry wait tracker previous resumed earlier looks generalizing k with
  | case1 => cases hk
  | case2 => rfl
  | case3 => rfl
  | case4 _ _ resumed _ _ _ sample _ hs hn =>
    rename_i ih
    obtain ⟨hx, ht⟩ := not_or.mp hn
    have hm := mt (observe_expired hs).mpr hx
    have hr : resumed ≤ sample.elapsed := Nat.le_add_right ..
    cases k with
    | zero => omega
    | succ k =>
      rw [Nat.mul_succ] at h
      exact ih (Nat.lt_of_succ_lt_succ hk) (by omega)

/-- The samples since the last change are alike. -/
def Alike (tracker : GeometryQuietTracker) (previous : WindowGeometry) (resumed : Nat)
    (samples : List GeometrySample) : Prop :=
  ∀ s ∈ samples, s.elapsed ≤ resumed ∧
    (tracker.lastChange < s.elapsed → s.geometry = previous ∧ s.configured = false)

theorem Alike.cons {sample : GeometrySample} (h : Alike tracker previous resumed earlier)
    (hr : resumed ≤ sample.elapsed) :
    Alike (tracker.observe sample.elapsed (sample.configured || sample.geometry ≠ previous) isMatch).2
      sample.geometry sample.elapsed (sample :: earlier) := by
  intro s hs
  have hl : s.elapsed ≤ sample.elapsed := by
    cases hs with
    | head => exact Nat.le_refl _
    | tail _ hs => exact (h s hs).1.trans hr
  refine ⟨hl, fun hc => ?_⟩
  rw [observe_lastChange] at hc
  split at hc
  · exact absurd hl hc.not_ge
  rename_i hn
  obtain ⟨hn, hg⟩ : sample.configured = false ∧ sample.geometry = previous := by simpa using hn
  cases hs with
  | head => exact ⟨rfl, hn⟩
  | tail _ hs => exact hg ▸ (h s hs).2 hc

theorem pollGeometry_justified {final earlier' evidence} (ha : Alike tracker previous resumed earlier)
    (h : pollGeometry wait tracker previous resumed earlier looks = some (final, earlier', evidence)) :
    evidence.Justified wait final earlier' := by
  fun_induction pollGeometry wait tracker previous resumed earlier looks with
  | case1 => cases h
  | case2 _ _ _ earlier _ _ sample observed hs =>
    have ha : Alike observed.2 _ _ (sample :: earlier) := ha.cons (Nat.le_add_right ..)
    have hq : observed.2.lastChange + _ ≤ _ := observe_settled hs
    simp only [Option.some.injEq, Prod.mk.injEq] at h
    obtain ⟨rfl, rfl, rfl⟩ := h
    refine ⟨rfl, fun hc => ⟨by omega, ?_, fun s hm ht => (ha s hm).2 (by omega)⟩, nofun, ?_⟩
    all_goals cases hm : wait.isMatch sample.geometry <;> simp_all
  | case3 _ _ _ _ _ _ _ _ hs hn =>
    simp only [Option.some.injEq, Prod.mk.injEq] at h
    obtain ⟨rfl, rfl, rfl⟩ := h
    refine ⟨rfl, ?_, fun _ => hn.imp_left (observe_expired hs).mp, ?_⟩
    all_goals dsimp only; split <;> simp_all
  | case4 _ _ _ earlier _ _ sample observed _ _ ih =>
    have ha : Alike observed.2 _ _ (sample :: earlier) := ha.cons (Nat.le_add_right ..)
    exact ih (fun s hm => ⟨(ha s hm).1.trans (Nat.le_add_right ..), (ha s hm).2⟩) h

/-- **Convergence is a real quiet period.** An answer is found within 51
samples; it is convergence only when every sample of the last quiet window
shows the effective geometry and no event, and without a quiet window it is
given only when the time is up. -/
theorem executeGeometry_quiet (looks : List GeometrySample) :
    (50 < looks.length → (executeGeometry wait looks).isSome) ∧
      ∀ final earlier evidence, executeGeometry wait looks = some (final, earlier, evidence) →
        evidence.Justified wait final earlier := by
  refine ⟨fun hk => pollGeometry_ends hk ?_, fun _ _ _ h => pollGeometry_justified (by simp [Alike]) h⟩
  simp [maxGeometrySettle, windowControlPollInterval]

end Xenoteer
