/-
Which authority the managed processes of the model were committed under, in every
interleaving of the plane.

The authority is even while it is disabled, and it is enabled again only after an
invalidation that was requested since it was disabled. So the managed processes of
the model, at any time, were all committed under one authority, the last odd one
(`Core.stamped`); the model revision tells which one that was (`era`), and a fence
names it for its revision (`FenceOk`).
-/
import Xenoteer.Daemon.ManagedWindows
import Xenoteer.Daemon.ProcessReads

namespace Xenoteer.ProcessRefresh

open Lib Lib.TreeMapKeys Prog ModelState

variable {τ : Type}

/-! ## What the invariant is about -/

/-- The part of the plane that its invariant is about. -/
structure Base where
  model : WindowModel
  authority : Nat
  clock : Nat
  cleared : Nat
  stamps : WindowRef → ProcessLifecycleAuthorityFence

def Plane.base (p : Plane τ) : Base := ⟨p.owner.model, p.authority, p.clock, p.cleared, p.stamps⟩

/-- The authority under which the managed processes of a revision were committed. -/
abbrev Eras := Nat → Option Nat

/-- The authority is the one captured, or it was disabled since. -/
def Base.Within (b : Base) (a : Nat) : Prop := available a ∧ (b.authority = a ∨ b.authority = a + 1)

theorem Base.Within.eq {b : Base} {a a' : Nat} (h : b.Within a) (h' : b.Within a') : a = a' := by
  obtain ⟨ho, h⟩ := h
  obtain ⟨ho', h'⟩ := h'
  simp only [available, decide_eq_true_eq] at ho ho'
  omega

/-- The authority was captured, with this value, before now. `trail` is how things stood before each step. -/
def Taken (trail : Nat → Base) (b : Base) (f : ProcessLifecycleAuthorityFence) : Prop :=
  f.capturedAt ≤ b.clock ∧ (trail f.capturedAt).authority = f.value

/-- A fence whose authority is enabled names the authority of its revision. -/
structure FenceOk (era : Eras) (b : Base) (f : ProcessCorrelationFence) : Prop where
  revision_le : f.revision.value ≤ b.model.revision.value
  era : available f.lifecycleAuthority.value →
    ∀ a, era f.revision.value = some a → a = f.lifecycleAuthority.value

/-- The window is live, with this stamp. -/
def Base.Shows (b : Base) (window : WindowSnapshot) (stamp : ProcessLifecycleAuthorityFence) : Prop :=
  window ∈ b.model.liveWindows.map (projectSnapshot · b.model.revision) ∧ b.stamps window.window = stamp

structure ViewOk (trail : Nat → Base) (era : Eras) (b : Base) (v : View) : Prop where
  revision_le : v.revision.value ≤ b.model.revision.value
  readAt_le : v.readAt ≤ b.clock
  shown : ∀ window stamp, (window, stamp) ∈ v.windows → window.process.managed →
    era v.revision.value = some stamp.value ∧ available stamp.value ∧ Taken trail b stamp ∧
      stamp.capturedAt ≤ v.readAt ∧ (trail v.readAt).Shows window stamp

structure Core (trail : Nat → Base) (era : Eras) (b : Base) : Prop where
  model : b.model.Sound
  stamped : ∀ (xid : UInt32) (entry : LiveWindow), b.model.live[xid]? = some entry →
    entry.snapshot.process.managed → b.Within (b.stamps entry.snapshot.window).value ∧
      era b.model.revision.value = some (b.stamps entry.snapshot.window).value
  taken : ∀ window, Taken trail b (b.stamps window)
  unborn : ∀ revision, b.model.revision.value < revision → era revision = none
  vacant : b.model.ManagedIn (fun _ _ => False) → era b.model.revision.value = none
  cleared_le : b.cleared ≤ b.authority
  cleared : ¬available b.authority → b.cleared = b.authority → b.model.ManagedIn fun _ _ => False

/-- What a later state keeps. -/
structure Later (era era' : Eras) (b b' : Base) : Prop where
  revision : b.model.revision.value ≤ b'.model.revision.value
  authority : b.authority ≤ b'.authority
  clock : b.clock ≤ b'.clock
  era : ∀ revision ≤ b.model.revision.value, era' revision = era revision

variable {tr : Nat → Base} {era era' : Eras} {b b' : Base}

theorem Later.refl : Later era era b b := ⟨le_rfl, le_rfl, le_rfl, fun _ _ => rfl⟩

theorem Taken.later {f} (h : Taken tr b f) (hl : Later era era' b b') : Taken tr b' f :=
  ⟨h.1.trans hl.clock, h.2⟩

theorem FenceOk.later {f} (h : FenceOk era b f) (hl : Later era era' b b') : FenceOk era' b' f where
  revision_le := h.revision_le.trans hl.revision
  era := by
    rw [hl.era _ h.revision_le]
    exact h.era

theorem ViewOk.later {v} (h : ViewOk tr era b v) (hl : Later era era' b b') : ViewOk tr era' b' v where
  revision_le := h.revision_le.trans hl.revision
  readAt_le := h.readAt_le.trans hl.clock
  shown window stamp hm hma := by
    obtain ⟨he, ho, ht, hr⟩ := h.shown window stamp hm hma
    rw [hl.era _ h.revision_le]
    exact ⟨he, ho, ht.later hl, hr⟩

/-! ## A change of the model -/

/-- The model moved on, and its managed processes are stamped with the authority: those of a new
revision are of the era of that authority. -/
theorem Core.moved (h : Core tr era b) {ops : List WindowOp} {m : WindowModel}
    (s : WindowRef → ProcessLifecycleAuthorityFence) (cl : Nat)
    (hm : m = Run.final WindowModel.step b.model ops)
    (hs : ∀ (xid : UInt32) (e : LiveWindow), m.live[xid]? = some e →
      e.snapshot.process.managed → b.Within (s e.snapshot.window).value)
    (ht : ∀ w, Taken tr b (s w)) (hc : cl ≤ b.authority)
    (hcl : ¬available b.authority → cl = b.authority → m.ManagedIn fun _ _ => False) :
    ∃ era', Later era era' b ⟨m, b.authority, b.clock, cl, s⟩ ∧
      Core tr era' ⟨m, b.authority, b.clock, cl, s⟩ := by
  have hso : m.Sound := hm ▸ h.model.final ops
  rcases b.model.revision_run ops with hlt | ⟨hr, hl⟩
  · rw [← hm] at hlt
    by_cases hn : m.ManagedIn fun _ _ => False
    · refine ⟨era, ⟨hlt.le, le_rfl, le_rfl, fun _ _ => rfl⟩, hso, ?_, ht, ?_, ?_, hc, hcl⟩
      · exact fun xid e he hma => (hn xid e he hma).elim
      · exact fun r hr => h.unborn r (hlt.trans hr)
      · exact fun _ => h.unborn _ hlt
    · simp only [WindowModel.ManagedIn, not_forall] at hn
      obtain ⟨xid, e, he, hma, -⟩ := hn
      have hw := hs xid e he hma
      refine ⟨Function.update era m.revision.value (some (s e.snapshot.window).value),
        ⟨hlt.le, le_rfl, le_rfl, fun r hr => Function.update_of_ne (by omega) _ _⟩,
        hso, ?_, ht, ?_, ?_, hc, hcl⟩
      · intro xid' e' he' hma'
        have hw' := hs xid' e' he' hma'
        refine ⟨hw', ?_⟩
        rw [Function.update_self, hw.eq hw']
      · intro r hr
        rw [Function.update_of_ne (ne_of_gt hr)]
        exact h.unborn r (hlt.trans hr)
      · exact fun hn => (hn xid e he hma).elim
  · rw [← hm] at hr hl
    refine ⟨era, ⟨by rw [hr], le_rfl, le_rfl, fun _ _ => rfl⟩, hso, ?_, ht, ?_, ?_, hc, hcl⟩
    · intro xid e he hma
      have hw := hs xid e he hma
      obtain ⟨hw', her⟩ := h.stamped xid e (hl ▸ he) hma
      refine ⟨hw, ?_⟩
      rw [hr, her, hw.eq hw']
    · rw [hr]
      exact h.unborn
    · rw [hr]
      intro hn
      refine h.vacant ?_
      unfold WindowModel.ManagedIn at hn ⊢
      rwa [hl] at hn

/-- The model moved on and no window got a managed process. -/
theorem Core.kept (h : Core tr era b) {ops m}
    (hm : m = Run.final WindowModel.step b.model ops) (hw : m.ManagedIn b.model.managed) {cl}
    (hc : cl ≤ b.authority) (hcl : ¬available b.authority → cl = b.authority → m.ManagedIn fun _ _ => False) :
    ∃ era', Later era era' b ⟨m, b.authority, b.clock, cl, b.stamps⟩ ∧
      Core tr era' ⟨m, b.authority, b.clock, cl, b.stamps⟩ := by
  refine h.moved b.stamps cl hm (fun xid e he hma => ?_) h.taken hc hcl
  obtain ⟨-, pr, hp, hwi, hpr⟩ := hw xid e he hma
  rw [← hpr] at hma
  rw [← hwi]
  exact (h.stamped _ pr hp hma).1

/-- No managed process comes from none. -/
theorem managedIn_false {m m' : WindowModel} (h : m.ManagedIn fun _ _ => False)
    (hw : m'.ManagedIn m.managed) : m'.ManagedIn fun _ _ => False := by
  intro xid e he hm
  obtain ⟨-, pr, hp, -, hpr⟩ := hw xid e he hm
  exact h _ pr hp (hpr ▸ hm)

/-! ## What is on its way -/

def ResultOk (era : Eras) (b : Base) (result : RefreshResult) : Prop := ∀ fence, result = .ok fence → FenceOk era b fence

def RequestOk (trail : Nat → Base) (b : Base) : Request → Prop
  | .replaceProcessCorrelations _ _ _ authority _ => Taken trail b authority
  | .invalidateProcessCorrelations requestedAt => requestedAt ≤ b.authority
  | _ => True

def ReplyOk (trail : Nat → Base) (era : Eras) (b : Base) : Reply → Prop
  | .commit commit => FenceOk era b commit.fence
  | .view view => ViewOk trail era b view
  | _ => True

/-- The owner accepted the authority, which can only be disabled while the owner is at it. -/
def Accepted (trail : Nat → Base) (b : Base) (authority : ProcessLifecycleAuthorityFence) : Prop :=
  Taken trail b authority ∧ b.Within authority.value ∧ b.cleared ≤ authority.value

def WorkOk (trail : Nat → Base) (b : Base) : Work → Prop
  | .replacing _ _ _ _ authority _ => Accepted trail b authority
  | .replaced _ _ result => ∀ revision, result = .ok revision → revision = b.model.revision
  | _ => True

def PhaseOk (trail : Nat → Base) (era : Eras) (b : Base) : Phase → Prop
  | .cachedSequence _ result | .completing result _ _ | .notifying result _ | .comparing result _
  | .returned result => ResultOk era b result
  | .cachedFence fence => FenceOk era b fence
  | .snapshotting _ authority _ | .correlating _ authority _ => Taken trail b authority
  | .judging commit => FenceOk era b commit.fence
  | _ => True

structure Circulating (trail : Nat → Base) (era : Eras) (b : Base) (p : Plane τ) : Prop where
  queue : ∀ entry ∈ p.queue, RequestOk trail b entry.2
  replies : ∀ ticket reply, p.replies ticket = some reply → ReplyOk trail era b reply
  coordinator : ResultOk era b p.coordinator.lastResult
  callers : ∀ c, PhaseOk trail era b (p.callers c)

theorem ResultOk.later {r} (h : ResultOk era b r) (hl : Later era era' b b') : ResultOk era' b' r :=
  fun f hf => (h f hf).later hl

theorem resultOk_error {e} : ResultOk era b (.error e) := nofun

theorem PhaseOk.later {ph} (h : PhaseOk tr era b ph) (hl : Later era era' b b') : PhaseOk tr era' b' ph := by
  cases ph with
  | cachedSequence | completing | notifying | comparing | returned => exact ResultOk.later h hl
  | cachedFence | judging => exact FenceOk.later h hl
  | snapshotting | correlating => exact Taken.later h hl
  | _ => trivial

theorem ReplyOk.later {r} (h : ReplyOk tr era b r) (hl : Later era era' b b') : ReplyOk tr era' b' r := by
  cases r with
  | commit => exact FenceOk.later h hl
  | view => exact ViewOk.later h hl
  | _ => trivial

theorem RequestOk.later {r} (h : RequestOk tr b r) (hl : Later era era' b b') : RequestOk tr b' r := by
  cases r with
  | replaceProcessCorrelations => exact Taken.later h hl
  | invalidateProcessCorrelations => exact le_trans h hl.authority
  | _ => trivial

theorem Circulating.later {p : Plane τ} (h : Circulating tr era b p) (hl : Later era era' b b') :
    Circulating tr era' b' p where
  queue entry he := (h.queue entry he).later hl
  replies ticket reply hr := (h.replies ticket reply hr).later hl
  coordinator := h.coordinator.later hl
  callers c := (h.callers c).later hl

variable {p : Plane τ} {host : ModelHost} {now : MonotonicMillis}

theorem taken_capture (hn : tr p.clock = p.base) : Taken tr p.base p.capture :=
  ⟨le_rfl, congrArg Base.authority hn⟩

theorem Circulating.reply (h : Circulating tr era b p) (t : Nat) {r} (hr : ReplyOk tr era b r) :
    Circulating tr era b (p.reply t r) where
  __ := h
  replies := (Function.forall_update_iff p.replies fun _ rp => ∀ r, rp = some r → ReplyOk tr era b r).mpr
    ⟨fun _ hr' => Option.some.inj hr' ▸ hr, fun t' _ => h.replies t'⟩

theorem Circulating.submit (h : Circulating tr era b p) {r} (hr : RequestOk tr b r) :
    Circulating tr era b (p.submit r) where
  __ := h
  queue entry he := by
    rcases List.mem_append.mp he with he | he
    · exact h.queue entry he
    · cases List.mem_singleton.mp he
      exact hr

section Callers

variable [DecidableEq τ] {c : τ}

theorem Circulating.goto (h : Circulating tr era b p) {ph} (hp : PhaseOk tr era b ph) :
    Circulating tr era b (p.goto c ph) where
  __ := h
  callers := (Function.forall_update_iff p.callers fun _ ph => PhaseOk tr era b ph).mpr
    ⟨hp, fun c' _ => h.callers c'⟩

theorem Circulating.submitFrom (h : Circulating tr era b p) {r} (hr : RequestOk tr b r) (s : TrySend) {next}
    (hn : ∀ t, PhaseOk tr era b (next t)) : Circulating tr era b (p.submitFrom c r s next) := by
  cases s with
  | sent => exact (h.submit hr).goto (hn _)
  | full | disconnected => exact h.goto trivial

theorem Circulating.invalidateFrom (h : Circulating tr era p.base p) (cs : Nat) (s : TrySend) :
    Circulating tr era p.base (p.invalidateFrom c cs s) := by
  refine h.submitFrom ?_ s fun _ => trivial
  exact le_refl p.authority

/-- A caller hands on only what it was given. -/
theorem Circulating.go (h : Circulating tr era p.base p) (hn : tr p.clock = p.base) (s : TrySend)
    (br) : Circulating tr era p.base (p.go c s br) := by
  have hp := h.callers c
  unfold Plane.go
  split <;> rename_i hc <;> rw [hc] at hp
  · exact h
  · exact h
  · exact h
  · exact h.goto trivial
  · exact h.goto trivial
  · split
    · exact h.goto h.coordinator
    split
    · exact h.goto trivial
    · refine Circulating.goto ?_ trivial
      exact { h with }
  · split
    · split
      · exact h.goto (hp _ rfl)
      · exact h.goto trivial
    · exact h.goto trivial
  · split
    · exact h.goto fun _ hf => by cases hf; exact hp
    · exact h.goto trivial
  · split
    · refine h.submitFrom ?_ s fun _ => taken_capture hn
      trivial
    · exact h.invalidateFrom _ s
  · split
    · split
      · exact h.invalidateFrom _ s
      · exact h.goto hp
    · exact h.goto trivial
    · exact h
  · split
    · exact h.invalidateFrom _ s
    · refine h.submitFrom ?_ s fun _ => trivial
      exact hp
  · split
    next hr =>
      refine h.goto ?_
      exact h.replies _ _ hr
    · exact h.goto trivial
    · exact h
  · split
    · exact h.goto trivial
    · exact h.goto trivial
    · exact h
  · split
    · exact h.goto fun _ hf => by cases hf; exact hp
    · exact h.goto trivial
  · exact h.goto resultOk_error
  · refine Circulating.goto ?_ hp
    exact ⟨h.queue, h.replies, hp, h.callers⟩
  · refine Circulating.goto ?_ ?_
    · exact { h with }
    · split
      · exact hp
      · trivial
  · split
    · exact h.goto trivial
    · exact h
  · split
    · exact h.goto h.coordinator
    · exact h.goto trivial
  · split
    · exact h.goto hp
    · exact h.goto trivial

theorem Circulating.drop (h : Circulating tr era b p) : Circulating tr era b (p.drop c) := by
  unfold Plane.drop
  split
  · exact h.goto resultOk_error
  · exact h.goto resultOk_error
  · exact h.goto resultOk_error
  · exact h.goto resultOk_error
  · exact h.goto trivial
  · exact h

theorem base_go (p : Plane τ) (s : TrySend) (br : Option Upgrades) :
    (p.go c s br).base = p.base ∧ (p.go c s br).work = p.work := by
  unfold Plane.go
  repeat' split
  all_goals first | exact ⟨rfl, rfl⟩ | cases s <;> exact ⟨rfl, rfl⟩

theorem base_drop (p : Plane τ) : (p.drop c).base = p.base ∧ (p.drop c).work = p.work := by
  unfold Plane.drop
  split <;> exact ⟨rfl, rfl⟩

end Callers

/-! ## The plane -/

structure PlaneOk (trail : Nat → Base) (era : Eras) (p : Plane τ) : Prop where
  core : Core trail era p.base
  work : WorkOk trail p.base p.work
  circulating : Circulating trail era p.base p

/-- A step leads to a plane that is in order, for eras that agree with those before. It switches
the authority at most once. -/
def Leads (trail : Nat → Base) (era : Eras) (p p' : Plane τ) : Prop :=
  (p'.clock = p.clock ∧ p'.authority ≤ p.authority + 1) ∧
    ∃ era', Later era era' p.base p'.base ∧ PlaneOk trail era' p'

theorem leads_of_base {p'} (h : PlaneOk tr era p) (hb : p'.base = p.base)
    (hw : WorkOk tr p.base p'.work) (hc : Circulating tr era p.base p') : Leads tr era p p' := by
  refine ⟨⟨congrArg Base.clock hb, (congrArg Base.authority hb).trans_le (Nat.le_succ _)⟩,
    era, hb ▸ .refl, ?_, ?_, ?_⟩ <;> rw [hb]
  · exact h.core
  · exact hw
  · exact hc

theorem PlaneOk.stay (h : PlaneOk tr era p) : Leads tr era p p := leads_of_base h rfl h.work h.circulating

theorem WorkOk.later {work} (h : WorkOk tr b work) (hl : Later era era' b b')
    (hm : b'.model = b.model) (ha : ∀ a, Accepted tr b a → b'.Within a.value ∧
      b'.cleared ≤ a.value) : WorkOk tr b' work := by
  cases work with
  | replacing => exact ⟨h.1.later hl, ha _ h⟩
  | replaced =>
    unfold WorkOk
    rw [hm]
    exact h
  | _ => trivial

/-- A step that switches the authority does not wrap it. -/
def Unwrapped (authority authority' : Nat) : Prop := authority' ≠ authority → authority + 1 < 2 ^ 64

theorem transition_cases {a d} (hw : Unwrapped a (transition a d)) :
    transition a d = a ∨ transition a d = a + 1 ∧ available a = d := by
  unfold Unwrapped transition at hw
  unfold transition
  cases hav : available a <;> cases d <;> simp [hav] at hw ⊢
  · omega
  · omega

theorem available_succ (a : Nat) : available (a + 1) = !available a := by
  unfold available
  rcases Nat.mod_two_eq_zero_or_one a with h | h <;> simp [Nat.add_mod, h]

/-- A disabled authority leaves what was committed under it. -/
theorem PlaneOk.disable (h : PlaneOk tr era p) (hw : Unwrapped p.authority (transition p.authority true)) :
    Leads tr era p { p with authority := transition p.authority true } := by
  rcases transition_cases hw with ht | ⟨ht, ho⟩ <;> rw [ht]
  · exact leads_of_base h rfl h.work { h.circulating with }
  have hl : Later era era p.base { p with authority := p.authority + 1 }.base :=
    ⟨le_rfl, Nat.le_succ _, le_rfl, fun _ _ => rfl⟩
  have hw : ∀ a, p.base.Within a → { p with authority := p.authority + 1 }.base.Within a := by
    rintro a ⟨ha, hau⟩
    refine ⟨ha, .inr ?_⟩
    rcases hau with hau | hau
    · exact congrArg (· + 1) hau
    · rw [show p.authority = a + 1 from hau, available_succ, ha] at ho
      cases ho
  refine ⟨⟨rfl, le_rfl⟩, era, hl, ?_, ?_, ?_⟩
  · refine { h.core with stamped := ?_, cleared_le := ?_, cleared := ?_ }
    · intro xid e he hm
      obtain ⟨hs, her⟩ := h.core.stamped xid e he hm
      exact ⟨hw _ hs, her⟩
    · exact h.core.cleared_le.trans (Nat.le_succ _)
    · intro _ hc
      have hle := h.core.cleared_le
      exact absurd hle (by rw [show p.base.cleared = p.authority + 1 from hc]; exact Nat.not_succ_le_self _)
  · exact h.work.later hl rfl fun ah hac => ⟨hw _ hac.2.1, hac.2.2⟩
  · exact { h.circulating.later hl with }

/-- The authority is enabled when nothing that was committed under it is left. -/
theorem PlaneOk.enable (h : PlaneOk tr era p) (hc : ¬available p.authority → p.cleared = p.authority)
    (hw : Unwrapped p.authority (transition p.authority false)) :
    Leads tr era p { p with authority := transition p.authority false } := by
  rcases transition_cases hw with ht | ⟨ht, he⟩ <;> rw [ht]
  · exact leads_of_base h rfl h.work { h.circulating with }
  replace he : ¬available p.authority := by simp [he]
  have hl : Later era era p.base { p with authority := p.authority + 1 }.base :=
    ⟨le_rfl, Nat.le_succ _, le_rfl, fun _ _ => rfl⟩
  have hn := h.core.cleared he (hc he)
  refine ⟨⟨rfl, le_rfl⟩, era, hl, ?_, ?_, ?_⟩
  · refine { h.core with stamped := ?_, cleared_le := ?_, cleared := fun _ _ => hn }
    · exact fun xid e hen hm => (hn xid e hen hm).elim
    · exact h.core.cleared_le.trans (Nat.le_succ _)
  · refine h.work.later hl rfl fun a hac => ?_
    obtain ⟨-, ⟨ho, ha⟩, hle⟩ := hac
    have hle : p.cleared ≤ a.value := hle
    rw [hc he] at hle
    rcases ha with ha | ha
    · rw [← show p.authority = a.value from ha] at ho
      exact absurd ho he
    · rw [show p.authority = a.value + 1 from ha] at hle
      exact absurd hle (Nat.not_succ_le_self _)
  · exact { h.circulating.later hl with }

theorem PlaneOk.tick (h : PlaneOk tr era p) : PlaneOk tr era p.tick := by
  have hl : Later era era p.base p.tick.base := ⟨le_rfl, le_rfl, Nat.le_succ _, fun _ _ => rfl⟩
  refine ⟨{ h.core with taken := fun w => (h.core.taken w).later hl }, ?_, ?_⟩
  · exact h.work.later hl rfl fun a ha => ha.2
  · have hc := h.circulating.later hl
    exact { hc with }

/-! ## The owner -/

theorem Leads.reply {p'} (h : Leads tr era p p') (t : Nat) {r}
    (hr : ∀ era', Later era era' p.base p'.base → PlaneOk tr era' p' → ReplyOk tr era' p'.base r) :
    Leads tr era p (p'.reply t r) := by
  obtain ⟨hc, era', hl, hp'⟩ := h
  exact ⟨hc, era', hl, hp'.core, hp'.work, hp'.circulating.reply t (hr era' hl hp')⟩

variable {ow : ModelState}

/-- The owner's model moved on and no window got a managed process. -/
theorem PlaneOk.kept (h : PlaneOk tr era p) (w : Work) (cl : Nat)
    (he : evolves.rel p.owner ow) (hw : Within p.owner.model.managed ow) (hcl : cl ≤ p.authority)
    (hce : ¬available p.authority → cl = p.authority → NoneManaged ow) (hwo : ∀ b, WorkOk tr b w) :
    Leads tr era p { p with owner := ow, work := w, cleared := cl } := by
  obtain ⟨-, ops, -, ho⟩ := he
  obtain ⟨era', hl, hco⟩ := h.core.kept ho hw hcl hce
  have hc := h.circulating.later hl
  exact ⟨⟨rfl, Nat.le_succ _⟩, era', hl, hco, hwo _, { hc with }⟩

/-- The same for an operation that clears nothing. -/
theorem PlaneOk.upkept (h : PlaneOk tr era p) (hi : p.work = .idle)
    (he : evolves.rel p.owner ow) (hw : Within p.owner.model.managed ow) :
    Leads tr era p { p with owner := ow } := by
  refine h.kept p.work p.cleared he hw h.core.cleared_le (fun hev hc => ?_) (by rw [hi]; exact fun _ => trivial)
  exact managedIn_false (h.core.cleared hev hc) hw

/-- What is read from the model now. -/
theorem viewOk (h : PlaneOk tr era p) (hn : tr p.clock = p.base) {k} :
    ViewOk tr era p.base (p.view k p.owner.model.revision
      (p.owner.model.liveWindows.map (projectSnapshot · p.owner.model.revision))) where
  revision_le := le_rfl
  readAt_le := le_rfl
  shown window stamp hme hm := by
    obtain ⟨w', hw', heq⟩ := List.mem_map.mp hme
    cases heq
    have hl := List.mem_of_mem_filter hw'
    obtain ⟨-, e, hen, hw, hp⟩ := managed_of_mem h.core.model hl hm
    obtain ⟨hwi, he⟩ := h.core.stamped _ e hen (hp ▸ hm)
    rw [hw] at hwi he
    have ht := h.core.taken window.window
    refine ⟨he, hwi.1, ht, ht.1, ?_⟩
    show (tr p.clock).Shows window _
    rw [hn]
    exact ⟨hl, rfl⟩

/-- A fence of the model as it is now. -/
theorem fenceOk_capture (h : Core tr era p.base) : FenceOk era p.base ⟨p.owner.model.revision, p.capture⟩ where
  revision_le := le_rfl
  era ho a ha := by
    have ha : era p.base.model.revision.value = some a := ha
    have hs : ¬p.base.model.ManagedIn fun _ _ => False := by
      intro hn
      rw [h.vacant hn] at ha
      cases ha
    simp only [WindowModel.ManagedIn, not_forall] at hs
    obtain ⟨xid, e, he, hm, -⟩ := hs
    obtain ⟨hw, her⟩ := h.stamped xid e he hm
    cases her.symm.trans ha
    exact hw.eq ⟨ho, .inl rfl⟩

theorem PlaneOk.answer (h : PlaneOk tr era p) (hi : p.work = .idle) (hn : tr p.clock = p.base)
    (ticket : Nat) (a : Plane.Answer) : Leads tr era p (p.answer now ticket a) := by
  cases a with
  | error error => exact leads_of_base h rfl h.work (h.circulating.reply ticket trivial)
  | windows keep =>
    have hc : ∀ {P}, (calls P).rel p.owner ((asked (call (·.snapshotAll now))).run p.owner).2 := Framed.keeps p.owner
    have he : evolves.rel p.owner _ := hc
    have hw : Within p.owner.model.managed _ := within_of_calls hc h.core.model.managedIn
    have hre : Returns (asked (call (·.snapshotAll now))) p.owner fun result _ =>
        result = (p.owner.model.revision, p.owner.model.liveWindows.map (projectSnapshot · p.owner.model.revision)) :=
      returns_mapError.mpr (returns_snapshotAll fun _ => rfl)
    unfold Plane.answer
    rcases hr : (asked (call (·.snapshotAll now))).run p.owner with ⟨result | error | _, ow⟩ <;>
      rw [hr] at he hw
    · cases hre.ok hr
      exact (h.upkept hi he hw).reply ticket fun era' hl _ => (viewOk h hn).later hl
    · exact (h.upkept hi he hw).reply ticket fun _ _ _ => trivial
    · exact (h.upkept hi he hw).reply ticket fun _ _ _ => trivial

theorem isOk_iff {ε α : Type} {x : Except ε α} : x.isOk ↔ ∃ a, x = .ok a := by
  cases x <;> simp [Except.isOk, Except.toBool]

/-- What a program that returned left. -/
theorem of_outcome {ε α : Type} {x s} {Q : α → ModelState → Prop}
    (h : Returns x s Q) {u : ε} {a : α} (ha : Plane.outcome u (x.run s).1 = .ok a) : Q a (x.run s).2 := by
  rcases hx : x.run s with ⟨a' | e | _, s'⟩ <;> rw [hx] at ha <;> cases ha
  exact h.ok hx

instance {P} : Framed (calls P) (Plane.correlationSnapshot now) := by
  dsimp only [Plane.correlationSnapshot]
  infer_instance

section

variable (h : PlaneOk tr era p)
include h

theorem PlaneOk.serveRequest (hi : p.work = .idle) (hn : tr p.clock = p.base)
    (rd : Plane.Answer) (t : Nat) {r : Request} (hr : RequestOk tr p.base r) :
    Leads tr era p (p.serveRequest host now rd t r) := by
  cases r with
  | processCorrelationSnapshot =>
    have hc : ∀ {P}, (calls P).rel p.owner ((Plane.correlationSnapshot now).run p.owner).2 := Framed.keeps p.owner
    have hk := h.upkept hi hc (within_of_calls hc h.core.model.managedIn)
    unfold Plane.serveRequest
    dsimp only
    split <;> exact hk.reply t fun _ _ _ => trivial
  | replaceProcessCorrelations _ _ _ a _ =>
    unfold Plane.serveRequest
    dsimp only
    split
    next ha =>
      simp only [accepts, Bool.and_eq_true, decide_eq_true_eq] at ha
      refine leads_of_base h rfl ⟨hr, ⟨ha.1, .inl ha.2⟩, ?_⟩ { h.circulating with }
      exact ha.2 ▸ h.core.cleared_le
    next => exact leads_of_base h rfl h.work (h.circulating.reply t trivial)
  | invalidateProcessCorrelations ra =>
    have hk {P} (hP : ∀ cn, ∀ sn ∈ withBaseline cn, P sn) :
        (calls P).rel p.owner ((invalidateProcessCorrelations host now).run p.owner).2 := by
      have hf : ∀ cn, Fact (∀ sn ∈ withBaseline cn, P sn) := fun cn => ⟨hP cn⟩
      exact Framed.keeps p.owner
    have hst : ∀ cn, ∀ sn ∈ withBaseline cn, Stores p.owner.model.managed sn :=
      fun _ _ hs hm => by cases (withBaseline_process hs).symm.trans hm
    have hw := within_of_calls (hk hst) h.core.model.managedIn
    refine h.kept _ _ (hk fun _ _ _ => trivial) hw ?_ ?_ fun _ => trivial
    · split
      · exact max_le h.core.cleared_le hr
      · exact h.core.cleared_le
    · intro he hc
      split at hc
      next hok =>
        obtain ⟨rv, hre⟩ := isOk_iff.mp hok
        exact of_outcome (returns_invalidateProcessCorrelations_noneManaged h.core.model) hre
      next => exact managedIn_false (h.core.cleared he hc) hw
  | read => exact h.answer hi hn t rd
  | wait =>
    exact leads_of_base h rfl h.work { h.circulating with }

/-- The queue is shorter, and nothing else changed. -/
theorem PlaneOk.dequeue {e q} (hq : p.queue = e :: q) :
    PlaneOk tr era { p with queue := q } ∧ RequestOk tr p.base e.2 := by
  refine ⟨⟨h.core, h.work, { h.circulating with queue := fun o ho => h.circulating.queue o ?_ }⟩,
    h.circulating.queue e ?_⟩
  · rw [hq]
    exact List.mem_cons_of_mem e ho
  · rw [hq]
    exact List.mem_cons_self

theorem PlaneOk.serve (hn : tr p.clock = p.base) (r) : Leads tr era p (p.serve host now r) := by
  unfold Plane.serve
  split
  next t rq q hi hq =>
    obtain ⟨hd, hr⟩ := h.dequeue hq
    exact hd.serveRequest hi hn r t hr
  next => exact h.stay

theorem PlaneOk.refuse : Leads tr era p p.refuse := by
  unfold Plane.refuse
  split
  · exact h.stay
  next t _ q hq =>
    obtain ⟨hd, -⟩ := h.dequeue hq
    exact leads_of_base h rfl h.work (hd.circulating.reply t trivial)

theorem PlaneOk.settle (hn : tr p.clock = p.base) (t : Nat)
    (w : Plane.Answer) : Leads tr era p (p.settle now t w) := by
  unfold Plane.settle
  split
  next hi =>
    split
    · have hs : PlaneOk tr era { p with waiters := p.waiters.erase t } := ⟨h.core, h.work, { h.circulating with }⟩
      exact hs.answer hi hn t w
    · exact h.stay
  next => exact h.stay

/-- A window that keeps its process over a replacement keeps its stamp; any other is stamped with
the authority of the replacement. -/
theorem PlaneOk.replaced {a} (hac : Accepted tr p.base a) (hev : evolves.rel p.owner ow) {t r}
    (hr : ∀ rv, r = .ok rv → rv = ow.model.revision) : Leads tr era p { p with
      owner := ow
      work := .replaced t a r
      stamps := p.restamp ow a r.isOk } := by
  obtain ⟨-, ops, -, ho⟩ := hev
  have hso : ow.model.Sound := ho ▸ h.core.model.final ops
  obtain ⟨ht, hwi, hc⟩ := hac
  have hst : ∀ (xid : UInt32) (e : LiveWindow), ow.model.live[xid]? = some e → e.snapshot.process.managed →
      p.base.Within (p.restamp ow a r.isOk e.snapshot.window).value := by
    intro xid e hen hm
    unfold Plane.restamp
    split
    · exact hwi
    rename_i hs
    simp only [Bool.or_eq_true, decide_eq_true_eq, not_or, not_not] at hs
    have hp : Plane.processOf ow.model e.snapshot.window = some e.snapshot.process := by
      simp [Plane.processOf, hso.keyed hen, hen]
    rw [hs.2] at hp
    obtain ⟨pr, hpr, hp⟩ := Option.map_eq_some_iff.mp hp
    obtain ⟨hpr, hw⟩ := Option.filter_eq_some_iff.mp hpr
    rw [← hp] at hm
    have hw : pr.snapshot.window = e.snapshot.window := by simpa using hw
    rw [← hw]
    exact (h.core.stamped _ pr hpr hm).1
  have hsa : ∀ w, Taken tr p.base (p.restamp ow a r.isOk w) := by
    intro w
    unfold Plane.restamp
    split
    · exact ht
    · exact h.core.taken w
  have hu : ¬available p.authority → p.cleared ≠ p.authority := by
    intro he
    obtain ⟨hod, ha | ha⟩ := hwi
    · rw [← ha] at hod
      exact absurd hod he
    · have hc : p.cleared ≤ a.value := hc
      have ha : p.authority = a.value + 1 := ha
      omega
  obtain ⟨era', hl, hco⟩ := h.core.moved _ p.cleared ho hst hsa h.core.cleared_le
    fun he hc => absurd hc (hu he)
  have hci := h.circulating.later hl
  exact ⟨⟨rfl, Nat.le_succ _⟩, era', hl, hco, hr, { hci with }⟩

theorem PlaneOk.proceed : Leads tr era p (p.proceed host now) := by
  have hw := h.work
  have hi : PlaneOk tr era { p with work := .idle } := ⟨h.core, trivial, { h.circulating with }⟩
  unfold Plane.proceed
  split
  · exact h.stay
  next hr =>
    rw [hr] at hw
    refine h.replaced hw (framed_replaceProcessCorrelations.keeps p.owner) fun r hre => ?_
    exact (of_outcome (returns_replaceProcessCorrelations h.core.model ..) hre).2
  next t a rs hrp =>
    rw [hrp] at hw
    split
    next r =>
      cases hw r rfl
      exact leads_of_base h rfl trivial (hi.circulating.reply t (fenceOk_capture h.core))
    next => exact leads_of_base h rfl trivial (hi.circulating.reply t trivial)
  next t rs hin =>
    split <;> exact leads_of_base h rfl trivial (hi.circulating.reply t trivial)

end

/-- The owner's own operations give no window a managed process. -/
theorem within_step (host : ModelHost) {s : ModelState} (hs : s.model.Sound) {op : ModelOp} (hop : Plane.isUpkeep op) :
    Within s.model.managed (s.step host op).2 := by
  cases op with
  | reconcileRaw => exact within_returned (within_reconcileRaw hs ..)
  | observeRaw => exact within_returned (within_observeRaw hs)
  | removeXid | removeExact => exact within_returned (always_within hs.managedIn)
  | invalidateForPendingResync => exact within_returned (within_invalidateForPendingResync hs)
  | replaceAccessibilityCorrelations => exact within_returned (within_replaceAccessibilityCorrelations hs ..)
  | replaceProcessCorrelations | invalidateProcessCorrelations => cases hop

theorem PlaneOk.change (h : PlaneOk tr era p) {op : ModelOp} (hop : Plane.isUpkeep op) (pb : Bool) :
    Leads tr era p (p.change host op pb) := by
  unfold Plane.change
  split
  next hi =>
    have he := evolves_step host p.owner op
    have hw := within_step host h.core.model hop
    have hp : Leads tr era p { p with owner := (p.owner.step host op).2.publish } :=
      h.upkept hi he hw
    cases pb with
    | true => exact hp
    | false => exact h.upkept hi he hw
  next => exact h.stay

/-- The authority is enabled only when an invalidation that was requested since it was disabled
has been committed. -/
def Plane.Relays (p : Plane τ) : Plane.Act τ → Prop
  | .enable => ¬available p.authority → p.cleared = p.authority
  | _ => True

theorem PlaneOk.perform [DecidableEq τ] (h : PlaneOk tr era p) (host : ModelHost) (hn : tr p.clock = p.base)
    {act} (ha : p.Relays act) (hw : Unwrapped p.authority (p.perform host act).authority) :
    Leads tr era p (p.perform host act) := by
  cases act with
  | call c =>
    unfold Plane.perform
    dsimp only
    split
    · exact leads_of_base h rfl h.work (h.circulating.goto trivial)
    · exact h.stay
  | go c s br =>
    obtain ⟨hb, hw⟩ := base_go p s br
    exact leads_of_base h hb (hw ▸ h.work) (h.circulating.go hn s br)
  | drop c =>
    obtain ⟨hb, hw⟩ := base_drop p
    exact leads_of_base h hb (hw ▸ h.work) h.circulating.drop
  | disable => exact h.disable hw
  | enable => exact h.enable ha hw
  | invalidate => exact leads_of_base h rfl h.work (h.circulating.submit le_rfl)
  | serve now r => exact h.serve hn r
  | proceed now => exact h.proceed
  | settle now t w => exact h.settle hn t w
  | change op pb =>
    unfold Plane.perform
    dsimp only
    split
    next hop => exact h.change hop pb
    next => exact h.stay
  | refuse => exact h.refuse

end Xenoteer.ProcessRefresh
