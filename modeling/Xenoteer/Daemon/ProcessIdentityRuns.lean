/-
No stale process identity is served: over every interleaving of the reads, the
refreshes, the relay and the model owner, a returned window carries a managed
process only if the authority was enabled and unchanged from before the broker was
asked until after the window was read (`returned_process_current`).
-/
import Mathlib.Tactic.IntervalCases
import Xenoteer.Daemon.ProcessIdentity

namespace Xenoteer.ProcessRefresh

open Lib Prog ModelState

variable {τ : Type} {tr : Nat → Base} {era era' : Eras} {b b' : Base}

/-! ## What the tasks hold -/

/-- A managed process that was returned is of an authority that was the same before the broker was
asked and after the window was read. -/
structure ReturnedOk (trail : Nat → Base) (b : Base) (r : Returned) : Prop where
  checkedAt_le : r.checkedAt ≤ b.clock
  current : ∀ window stamp, (window, stamp) ∈ r.windows → window.process.managed →
    available stamp.value ∧ stamp.capturedAt ≤ r.readAt ∧ r.readAt ≤ r.checkedAt ∧
      (trail r.readAt).Shows window stamp ∧ (trail stamp.capturedAt).authority = stamp.value ∧
      (trail r.checkedAt).authority = stamp.value

def LatestOk (era : Eras) (b : Base) (latest : LatestFence) : Prop :=
  ∀ fence sequence, latest = some (fence, sequence) → FenceOk era b fence

def TaskOk (trail : Nat → Base) (era : Eras) (b : Base) : Task → Prop
  | .observing _ _ fence | .submitting _ _ fence _ | .reading _ _ fence _ _ => ∀ f, fence = some f → FenceOk era b f
  | .comparing _ _ fence _ view => FenceOk era b fence ∧ ViewOk trail era b view
  | .authorizing _ _ fence view | .waitAuthorizing _ _ fence _ view =>
    FenceOk era b fence ∧ ViewOk trail era b view ∧ fence.revision = view.revision
  | .sampling _ _ fence => FenceOk era b fence
  | .waiting _ _ latest | .settling _ _ latest => LatestOk era b latest
  | .waitComparing _ _ fence _ view checkedAt =>
    FenceOk era b fence ∧ ViewOk trail era b view ∧ ReturnedOk trail b ⟨view.windows, view.readAt, checkedAt⟩
  | .unstable _ _ latest view => LatestOk era b latest ∧ ViewOk trail era b view
  | .returned (.ok result) => ReturnedOk trail b result
  | _ => True

theorem ReturnedOk.later {r} (h : ReturnedOk tr b r) (hl : Later era era' b b') : ReturnedOk tr b' r :=
  ⟨h.checkedAt_le.trans hl.clock, h.current⟩

theorem LatestOk.later {l} (h : LatestOk era b l) (hl : Later era era' b b') : LatestOk era' b' l :=
  fun f s hla => (h f s hla).later hl

theorem latestOk_some {f} (h : FenceOk era b f) {s} : LatestOk era b (some (f, s)) := by
  rintro _ _ ⟨⟩
  exact h

theorem TaskOk.later {task} (h : TaskOk tr era b task) (hl : Later era era' b b') :
    TaskOk tr era' b' task := by
  cases task with
  | observing | submitting | reading => exact fun f hf => (h f hf).later hl
  | comparing | unstable => exact ⟨h.1.later hl, h.2.later hl⟩
  | authorizing | waitAuthorizing => exact ⟨h.1.later hl, h.2.1.later hl, h.2.2⟩
  | sampling => exact FenceOk.later h hl
  | waiting | settling => exact LatestOk.later h hl
  | waitComparing => exact ⟨h.1.later hl, h.2.1.later hl, h.2.2.later hl⟩
  | returned r =>
    cases r with
    | ok => exact ReturnedOk.later h hl
    | error => trivial
  | _ => trivial

/-- The last look at the authority: it is the fence's, so it is that of the windows' revision. -/
theorem returnedOk_view {f view} (hf : FenceOk era b f)
    (hv : ViewOk tr era b view) (hr : f.revision = view.revision)
    (ha : accepts b.authority f.lifecycleAuthority) (hn : tr b.clock = b) :
    ReturnedOk tr b ⟨view.windows, view.readAt, b.clock⟩ where
  checkedAt_le := le_rfl
  current window stamp hm hma := by
    obtain ⟨he, ho, ht, hre, hs⟩ := hv.shown window stamp hm hma
    simp only [accepts, Bool.and_eq_true, decide_eq_true_eq] at ha
    have hva := hf.era ha.1 stamp.value (hr ▸ he)
    refine ⟨ho, hre, hv.readAt_le, hs, ht.2, ?_⟩
    rw [hn, ha.2, hva]

theorem returnedOk_stripped {v} : ReturnedOk tr b (World.stripped v b.clock) where
  checkedAt_le := le_rfl
  current window stamp hme hm := by
    obtain ⟨⟨wn', s'⟩, -, heq⟩ := List.mem_map.mp hme
    cases heq
    rw [managed_baseline] at hm
    cases hm

/-! ## Steps -/

/-- The plane and the tasks are in order, and the plane stands as `b` says. -/
structure WorldOk (trail : Nat → Base) (era : Eras) (b : Base) (w : World τ) : Prop where
  base : w.plane.base = b
  plane : PlaneOk trail era w.plane
  tasks : ∀ t, TaskOk trail era b (w.tasks t)

theorem WorldOk.circulating {w : World τ} (h : WorldOk tr era b w) : Circulating tr era b w.plane :=
  h.base ▸ h.plane.circulating

/-- Another plane, of the same model. -/
theorem WorldOk.with_plane {w} (h : WorldOk tr era b w) (p : Plane τ) (hb : p.base = w.plane.base)
    (hw : p.work = w.plane.work) (hc : Circulating tr era b p) : WorldOk tr era b { w with plane := p } := by
  refine ⟨hb.trans h.base, ⟨?_, ?_, ?_⟩, h.tasks⟩
  · exact hb ▸ h.plane.core
  · exact hb ▸ hw ▸ h.plane.work
  · exact (hb.trans h.base) ▸ hc

section Tasks

variable [DecidableEq τ] {w : World τ} {t : τ} {pr : Purpose}

section

variable (h : WorldOk tr era b w)
include h

theorem WorldOk.put {ts} (ht : TaskOk tr era b ts) : WorldOk tr era b (w.put t ts) where
  __ := h
  tasks := (Function.forall_update_iff w.tasks fun _ ts => TaskOk tr era b ts).mpr
    ⟨ht, fun t' _ => h.tasks t'⟩

theorem WorldOk.fail (e : ControlPlaneError) : WorldOk tr era b (w.fail t e) :=
  h.put trivial

theorem WorldOk.strip (v : View) : WorldOk tr era b (w.strip t v) :=
  h.put (h.base ▸ returnedOk_stripped)

theorem WorldOk.degrade (r : Bool) (v : View) : WorldOk tr era b (w.degrade t r v) := by
  unfold World.degrade
  split
  · exact h.fail _
  · exact h.strip v

theorem WorldOk.submit {r : Request} (hr : RequestOk tr b r)
    (s : TrySend) {nx : Nat → Task} (hn : ∀ tc, TaskOk tr era b (nx tc)) :
    WorldOk tr era b (w.submit t r s nx) := by
  cases s with
  | sent => exact (h.with_plane (w.plane.submit r) rfl rfl (h.circulating.submit hr)).put (hn _)
  | full | disconnected => exact h.fail _

theorem WorldOk.goto (p : Phase) (hp : PhaseOk tr era b p) :
    WorldOk tr era b { w with plane := w.plane.goto t p } :=
  h.with_plane _ rfl rfl (h.circulating.goto hp)

theorem WorldOk.refreshed {fn}
    (hf : ∀ f, fn = some f → FenceOk era b f) : WorldOk tr era b (w.refreshed t fn pr) := by
  cases pr with
  | read => exact h.put hf
  | wait =>
    cases fn with
    | none => exact h.put nofun
    | some fn => exact h.put (hf fn rfl)

theorem WorldOk.unrefreshed : WorldOk tr era b (w.unrefreshed t pr) := by
  unfold World.unrefreshed
  split
  · exact h.fail _
  · exact h.refreshed nofun

theorem WorldOk.clear (s : TrySend) : WorldOk tr era b (w.clear t pr s) := by
  refine h.submit ?_ s fun _ => trivial
  show w.plane.authority ≤ b.authority
  exact le_of_eq (congrArg Base.authority h.base)

theorem WorldOk.attempt (left : Nat) : WorldOk tr era b (w.attempt t pr left) :=
  WorldOk.put (h.goto .top trivial) trivial

theorem WorldOk.attempted (left : Nat) (s : TrySend) {r}
    (hr : ResultOk era b r) : WorldOk tr era b (w.attempted t pr left s r) := by
  unfold World.attempted
  split
  · refine h.refreshed ?_
    rintro _ ⟨⟩
    exact hr _ rfl
  · split
    · exact h.unrefreshed
    · exact h.attempt _
  · split
    · exact h.fail _
    · exact h.clear s
  · exact h.fail _

theorem WorldOk.refresh (sn : TrySend) (s) : WorldOk tr era b (w.refresh t pr sn s) := by
  cases s with
  | checking =>
    unfold World.refresh
    dsimp only
    split
    · exact h.attempt _
    · exact h.clear sn
  | clearing tc =>
    unfold World.refresh
    dsimp only
    split
    · exact h.unrefreshed
    · exact h.fail _
    · exact h
  | attempting left =>
    unfold World.refresh
    dsimp only
    split
    next r hr =>
      have hp := h.circulating.callers t
      rw [hr] at hp
      exact WorldOk.attempted (h.goto .idle trivial) left sn hp
    next => exact h

theorem WorldOk.retry (r : Bool) (a : Nat) (v : View) : WorldOk tr era b (w.retry t r a v) := by
  unfold World.retry
  split
  · exact h.degrade r v
  · exact h.put trivial

theorem WorldOk.settle (r e : Bool) {l view}
    (hl : LatestOk era b l) (hv : ViewOk tr era b view) : WorldOk tr era b (w.settle t r e l view) := by
  unfold World.settle
  split
  · split
    · exact h.put ⟨nofun, hv⟩
    · exact h.strip view
  · split
    next hr => exact h.put ⟨hl _ _ rfl, hv, hr⟩
    next => exact h.put ⟨hl, hv⟩

theorem WorldOk.drop_plane : WorldOk tr era b { w with plane := w.plane.drop t } := by
  obtain ⟨hb, hw⟩ := base_drop w.plane
  exact h.with_plane _ hb hw h.circulating.drop

theorem WorldOk.expire (r : Bool) (tc : Nat) (s : Refreshing) : WorldOk tr era b (w.expire t r tc s) := by
  cases s with
  | checking => exact h
  | clearing => exact h.put nofun
  | attempting =>
    unfold World.expire
    dsimp only
    split
    · exact WorldOk.put h.drop_plane trivial
    · exact h

/-- A task hands on only what it was given, and returns processes only after a look at the
authority. -/
theorem WorldOk.go (hn : tr w.plane.clock = w.plane.base) (s : TrySend) (arm : Arm) :
    WorldOk tr era b (w.go t s arm) := by
  obtain rfl := h.base
  have hta := h.tasks t
  have hr := h.circulating.replies
  unfold World.go
  split <;> rename_i ht <;> rw [ht] at hta
  · exact h
  · exact h
  · exact h
  · exact h.refresh s _
  · split
    · exact h.expire _ _ _
    · exact h.refresh s _
  · exact h.put hta
  · refine h.submit ?_ s fun _ => hta
    trivial
  · split
    next v hv =>
      split
      · exact h.strip v
      · exact h.put ⟨hta _ rfl, hr _ _ hv⟩
    next => exact h.fail _
    next => exact h
  · split
    next hs => exact h.put ⟨hta.1, hta.2, hs.2⟩
    next => exact h.retry _ _ _
  · split
    next ha => exact h.put (returnedOk_view hta.1 hta.2.1 hta.2.2 ha hn)
    next => exact h.retry _ _ _
  · refine h.submit ?_ s fun _ => trivial
    trivial
  · exact h.put (latestOk_some hta)
  · split
    · exact h.put hta
    · exact h.put trivial
    split
    next v hv => exact h.settle _ _ hta (hr _ _ hv)
    next => exact h.fail _
    next => exact h
  · split
    · exact WorldOk.put (h.goto .idle trivial) nofun
    · exact h
  · split
    · exact h.fail _
    next v _ hv => exact h.settle _ _ hta (hr _ _ hv)
    · exact h.fail _
    · exact h
  · split
    next ha => exact h.put ⟨hta.1, hta.2.1, returnedOk_view hta.1 hta.2.1 hta.2.2 ha hn⟩
    next => exact h.put ⟨latestOk_some hta.1, hta.2.1⟩
  · split
    · exact h.put hta.2.2
    · exact h.put ⟨latestOk_some hta.1, hta.2.1⟩
  · split
    · exact h.degrade _ _
    · refine h.submit ?_ s fun _ => hta.1
      trivial

theorem WorldOk.drop : WorldOk tr era b (w.drop t) := by
  unfold World.drop
  split
  · split
    · exact WorldOk.put h.drop_plane trivial
    · exact h
  · exact h.put trivial
  · exact h.put trivial
  · exact h.put trivial
  · exact h.put trivial
  · exact h

end

end Tasks

/-! ## Runs -/

theorem WorldOk.tick {w : World τ} (h : WorldOk tr era w.plane.base w) :
    WorldOk tr era w.plane.tick.base { w with plane := w.plane.tick } := by
  have hl : Later era era w.plane.base w.plane.tick.base := ⟨le_rfl, le_rfl, Nat.le_succ _, fun _ _ => rfl⟩
  exact ⟨rfl, h.plane.tick, fun t => (h.tasks t).later hl⟩

theorem worldOk_new {owner} (hu : owner.model.Sound) (hnone : owner.NoneManaged) (ht : (tr 0).authority = 0) :
    WorldOk tr (fun _ => none) (World.new owner : World τ).plane.base (World.new owner : World τ) where
  base := rfl
  plane.core.model := hu
  plane.core.stamped xid entry he hm := (hnone xid entry he hm).elim
  plane.core.taken _ := ⟨le_rfl, ht⟩
  plane.core.unborn _ _ := rfl
  plane.core.vacant _ := rfl
  plane.core.cleared_le := le_rfl
  plane.core.cleared _ _ := hnone
  plane.work := trivial
  plane.circulating.queue := nofun
  plane.circulating.replies := nofun
  plane.circulating.coordinator := resultOk_error
  plane.circulating.callers _ := trivial
  tasks _ := trivial

section Runs

variable [DecidableEq τ] {w : World τ} {host : ModelHost}

/-- The relay enables the authority as `Plane.Relays` says. -/
def World.Relays (w : World τ) : World.Act τ → Prop
  | .plane act => w.plane.Relays act
  | _ => True

/-- As `ProcessRefresh.Leads`, for the plane and the tasks. -/
def World.Leads (trail : Nat → Base) (era : Eras) (w w' : World τ) : Prop :=
  (w'.plane.clock = w.plane.clock ∧ w'.plane.authority ≤ w.plane.authority + 1) ∧
    ∃ era', Later era era' w.plane.base w'.plane.base ∧ WorldOk trail era' w'.plane.base w'

theorem WorldOk.perform (h : WorldOk tr era w.plane.base w) (host : ModelHost)
    (hn : tr w.plane.clock = w.plane.base) {act} (ha : w.Relays act)
    (hw : Unwrapped w.plane.authority (w.perform host act).plane.authority) :
    World.Leads tr era w (w.perform host act) := by
  have hp : ∀ act, w.plane.Relays act → Unwrapped w.plane.authority (w.plane.perform host act).authority →
      World.Leads tr era w { w with plane := w.plane.perform host act } := by
    intro act ha hw
    obtain ⟨hc, era', hl, hp⟩ := h.plane.perform host hn ha hw
    exact ⟨hc, era', hl, rfl, hp, fun t => (h.tasks t).later hl⟩
  have ht : ∀ w', WorldOk tr era w.plane.base w' → World.Leads tr era w w' := by
    intro w' h'
    refine ⟨⟨congrArg Base.clock h'.base, ?_⟩, era, h'.base ▸ .refl, h'.base.symm ▸ h'⟩
    exact (congrArg Base.authority h'.base).trans_le (Nat.le_succ _)
  cases act with
  | call t c =>
    refine ht _ ?_
    unfold World.perform
    dsimp only
    split
    · cases c <;> exact h.put trivial
    · exact h
  | go t s arm => exact ht _ (h.go hn s arm)
  | drop t => exact ht _ h.drop
  | plane act =>
    cases act with
    | call | drop => exact ht _ h
    | _ => exact hp _ ha hw

/-- How many of the first steps switch the authority. -/
def World.switches (host : ModelHost) (owner : ModelState) (acts : Nat → World.Act τ) (n : Nat) : Nat :=
  (List.range n).countP fun k =>
    (World.run host owner acts (k + 1)).plane.authority ≠ (World.run host owner acts k).plane.authority

section Run

variable {owner : ModelState} (hu : owner.model.Sound) (hnone : owner.NoneManaged) {acts : Nat → World.Act τ}
  {n : Nat} (hrelays : ∀ k < n, (World.run host owner acts k).Relays (acts k))

theorem switches_succ : World.switches host owner acts (n + 1) = World.switches host owner acts n +
    if (World.run host owner acts (n + 1)).plane.authority ≠ (World.run host owner acts n).plane.authority
    then 1 else 0 := by
  simp [World.switches, List.range_succ, List.countP_singleton]

theorem switches_mono {k} (hk : k ≤ n) : World.switches host owner acts k ≤ World.switches host owner acts n :=
  (List.range_sublist.mpr hk).countP_le

include hu hnone hrelays

/-- Short of a wrap, the authority only grows. -/
theorem worldOk_run (hw : World.switches host owner acts n < 2 ^ 64) :
    ((World.run host owner acts n).plane.clock = n ∧
      (World.run host owner acts n).plane.authority ≤ World.switches host owner acts n ∧
      ∀ k ≤ n, (World.run host owner acts k).plane.authority ≤ (World.run host owner acts n).plane.authority) ∧
    ∃ era, WorldOk (fun k => (World.run host owner acts k).plane.base) era (World.run host owner acts n).plane.base
      (World.run host owner acts n) := by
  induction n with
  | zero => exact ⟨⟨rfl, le_rfl, fun k hk => by rw [Nat.le_zero.mp hk]⟩, _, worldOk_new hu hnone rfl⟩
  | succ n ih =>
    have hs := @switches_succ _ _ host owner acts n
    obtain ⟨⟨hc, hle, hm⟩, era, h⟩ := ih (fun k hk => hrelays k (by omega)) (by omega)
    have hsa : (World.run host owner acts (n + 1)).plane.authority =
      ((World.run host owner acts n).perform host (acts n)).plane.authority := rfl
    have hnw : Unwrapped (World.run host owner acts n).plane.authority
        (World.run host owner acts (n + 1)).plane.authority := by
      intro hne
      rw [if_pos hne] at hs
      omega
    obtain ⟨⟨hc', hle'⟩, era', hl, h'⟩ := h.perform host (by rw [hc]) (hrelays n (Nat.lt_succ_self n)) hnw
    refine ⟨⟨?_, ?_, fun k hk => ?_⟩, era', h'.tick⟩
    · show ((World.run host owner acts n).perform host (acts n)).plane.clock + 1 = n + 1
      rw [hc', hc]
    · split at hs <;> omega
    · rcases Nat.le_succ_iff.mp hk with hk | rfl
      · exact (hm k hk).trans hl.authority
      · exact le_rfl

end Run

theorem noneManaged_new {di dg l owner} (h : ModelState.new di dg l = .ok owner) :
    owner.model.Sound ∧ owner.NoneManaged := by
  obtain ⟨hu, -, hl, -⟩ := WindowModel.Sound.new (model_new h)
  refine ⟨hu, fun xid e he => ?_⟩
  rw [hl] at he
  simp at he

/-- Whatever the tasks, the relay and the owner do, as long as the authority does not wrap: a managed process
is returned only if it was read from a model that holds it, and the authority was enabled and the same from before the broker was asked for it until
after it was read, so that no exit was relayed in between. -/
theorem returned_process_current {desktopId : DesktopId} {desktopGeneration : DesktopGeneration}
    {limits : WindowModelLimits} {owner : ModelState}
    (hnew : ModelState.new desktopId desktopGeneration limits = .ok owner) (host : ModelHost)
    (acts : Nat → World.Act τ) {n : Nat} (hrelays : ∀ k < n, (World.run host owner acts k).Relays (acts k))
    (hswitches : World.switches host owner acts n < 2 ^ 64) {t : τ} {result : Returned}
    (hreturned : (World.run host owner acts n).tasks t = .returned (.ok result))
    {window : WindowSnapshot} {stamp : ProcessLifecycleAuthorityFence} (hmem : (window, stamp) ∈ result.windows)
    (hmanaged : window.process.managed) :
    stamp.capturedAt ≤ result.readAt ∧ result.readAt ≤ result.checkedAt ∧ result.checkedAt ≤ n ∧
    (World.run host owner acts result.readAt).plane.base.Shows window stamp ∧ available stamp.value ∧
    (∀ k, stamp.capturedAt ≤ k → k ≤ result.checkedAt →
      (World.run host owner acts k).plane.authority = stamp.value) ∧
    ∀ k, stamp.capturedAt ≤ k → k < result.checkedAt → acts k ≠ .plane .disable := by
  obtain ⟨hu, hnone⟩ := noneManaged_new hnew
  obtain ⟨⟨hcl, -, -⟩, era, h⟩ := worldOk_run hu hnone hrelays hswitches
  have ht := h.tasks t
  rw [hreturned] at ht
  obtain ⟨ho, hr, hch, hsh, hb, ha⟩ := ht.current window stamp hmem hmanaged
  have hcn : result.checkedAt ≤ n := hcl ▸ ht.checkedAt_le
  have hm : ∀ {k l}, k ≤ l → l ≤ n →
      (World.run host owner acts k).plane.authority ≤ (World.run host owner acts l).plane.authority := by
    intro k l hkl hl
    obtain ⟨⟨-, -, hm⟩, -⟩ := worldOk_run hu hnone (fun j hj => hrelays j (hj.trans_le hl))
      ((switches_mono hl).trans_lt hswitches)
    exact hm k hkl
  have hs : ∀ k, stamp.capturedAt ≤ k → k ≤ result.checkedAt →
      (World.run host owner acts k).plane.authority = stamp.value := by
    intro k hc hk
    have hle : (World.run host owner acts k).plane.authority ≤ stamp.value := ha ▸ hm hk hcn
    have hge : stamp.value ≤ (World.run host owner acts k).plane.authority := hb ▸ hm hc (hk.trans hcn)
    omega
  refine ⟨hr, hch, hcn, hsh, ho, hs, fun k hc hk hac => ?_⟩
  have hn := hs (k + 1) (by omega) hk
  rw [World.run, World.step, hac] at hn
  have hn : transition (World.run host owner acts k).plane.authority true = stamp.value := hn
  rw [hs k hc hk.le] at hn
  simp [transition, ho] at hn
  omega

end Runs

/-- The broker knows the process of every pid. -/
def knownProcesses : Upgrades := fun pid => some ⟨⟨⟨1⟩, pid, 1, ⟨1⟩⟩, .procStartTime⟩

/-- One window with a pid is seen, the authority is enabled, and a list leads a refresh. -/
def listing : List (World.Act Unit) :=
  let seen := { plainInput 2 none with properties := { (plainInput 2 none).properties with reportedPid := some 7 } }
  let caller := World.Act.plane (.go () .sent (some knownProcesses))
  let task := World.Act.go () .sent .answered
  let serve := World.Act.plane (.serve 0 (.windows fun _ => true))
  let proceed := World.Act.plane (.proceed 0)
  [.plane (.change (.reconcileRaw ⟨[2], .netClientList, []⟩ [seen] 0 .preserveContinuity none) true),
    .plane .enable, .call () .list, task, caller, caller, caller, caller, serve, caller, caller, serve, proceed,
    proceed, caller, caller, caller, caller, task, task, task, serve, task, task, task]

def listingActs (n : Nat) : World.Act Unit := listing.getD n (.drop ())

def listedResult : Option Returned :=
  match (World.run plainHost plainStart listingActs 25).tasks () with
  | .returned (.ok result) => some result
  | _ => none

theorem listing_relays (k : Nat) (hk : k < 25) :
    (World.run plainHost plainStart listingActs k).Relays (listingActs k) := by
  interval_cases k
  all_goals first | trivial | exact fun _ => rfl

theorem listed_process_current : ∃ result window stamp,
    (World.run plainHost plainStart listingActs 25).tasks () = .returned (.ok result) ∧
    (window, stamp) ∈ result.windows ∧ window.process.managed ∧ stamp = ⟨1, 7⟩ ∧ result.checkedAt = 24 ∧
    ∀ k, 7 ≤ k → k ≤ 24 → (World.run plainHost plainStart listingActs k).plane.authority = 1 := by
  have hre : listedResult.map (fun result => (result.checkedAt, result.windows.map fun e =>
      (e.1.process.managed, e.2))) = some (24, [(true, ⟨1, 7⟩)]) := by decide +kernel
  obtain ⟨result, hl, hs⟩ := Option.map_eq_some_iff.mp hre
  obtain ⟨hc, hw⟩ := Prod.mk.inj hs
  obtain ⟨⟨window, stamp⟩, he⟩ := List.map_eq_singleton_iff.mp hw
  obtain ⟨hm, rfl⟩ := Prod.mk.inj he.2
  have hr : (World.run plainHost plainStart listingActs 25).tasks () = .returned (.ok result) := by
    unfold listedResult at hl
    split at hl
    next heq =>
      cases hl
      exact heq
    next => cases hl
  have hme : (window, ⟨1, 7⟩) ∈ result.windows := by
    rw [he.1]
    exact List.mem_singleton_self _
  have hn : ModelState.new ⟨1⟩ ⟨1⟩ .default = .ok plainStart := rfl
  have hcu := returned_process_current hn plainHost listingActs listing_relays
    (List.countP_le_length.trans_lt (by simp)) hr hme hm
  refine ⟨result, window, _, hr, hme, hm, rfl, hc, ?_⟩
  rw [hc] at hcu
  exact hcu.2.2.2.2.2.1

end Xenoteer.ProcessRefresh
