/-
The lease transaction over whole runs. `Transition` says once what an
operation can do to the machine: keep it (but for the clock), grant, renew
or touch the lease, revoke it, begin or finish the reset, or move the
fence. Everything else here is read off that relation, by induction over
the operations of a run.
-/
import Xenoteer.Coordinator.Lease
import Xenoteer.Lib.Run

namespace Xenoteer.LeaseMachine

open Lib.Run

/-! ## Operations and what they can do -/

inductive Op where
  | acquire (owner : PrincipalId) (leaseId : ControlLeaseId) (ttlMs : Option Nat) (now : MonotonicMillis)
      (generation : GenerationToken)
  | renew (owner : PrincipalId) (leaseId : ControlLeaseId) (ttlMs : Option Nat) (now : MonotonicMillis)
      (generation : GenerationToken)
  | authorize (owner : PrincipalId) (leaseId : ControlLeaseId) (now : MonotonicMillis)
      (generation : GenerationToken)
  | release (owner : PrincipalId) (leaseId : ControlLeaseId) (now : MonotonicMillis)
      (generation : GenerationToken)
  | revoke (reason : RevocationReason)
  | advanceTime (now : MonotonicMillis)
  | beginReset
  | finishReset
  | rotateGeneration (generation : GenerationToken)

inductive Reply where
  | grant (result : Except LeaseError LeaseGrant)
  | done (result : Except LeaseError Unit)
  | flag (result : Except LeaseError Bool)

def step (m : LeaseMachine) : Op → Reply × LeaseMachine
  | .acquire owner leaseId ttlMs now generation =>
    let (r, m) := m.acquire owner leaseId ttlMs now generation
    (.grant r, m)
  | .renew owner leaseId ttlMs now generation =>
    let (r, m) := m.renew owner leaseId ttlMs now generation
    (.grant r, m)
  | .authorize owner leaseId now generation =>
    let (r, m) := m.authorize owner leaseId now generation
    (.grant r, m)
  | .release owner leaseId now generation =>
    let (r, m) := m.release owner leaseId now generation
    (.done r, m)
  | .revoke reason =>
    let (r, m) := m.revoke reason
    (.flag (.ok r), m)
  | .advanceTime now =>
    let (r, m) := m.advanceTime now
    (.flag r, m)
  | .beginReset =>
    let (r, m) := m.beginReset
    (.done r, m)
  | .finishReset =>
    let (r, m) := m.finishReset
    (.done r, m)
  | .rotateGeneration generation =>
    let (r, m) := m.rotateGeneration generation
    (.done r, m)

/-- The generation token an operation is called with. -/
def Op.token : Op → Option GenerationToken
  | .acquire _ _ _ _ g | .renew _ _ _ _ g | .authorize _ _ _ g | .release _ _ _ g
  | .rotateGeneration g => some g
  | .revoke _ | .advanceTime _ | .beginReset | .finishReset => none

def Reply.NoGrant (r : Reply) : Prop := ∀ g, r ≠ .grant (.ok g)

/-- What one operation can do to the machine. -/
inductive Transition (m : LeaseMachine) : Op → Reply → LeaseMachine → Prop
  | kept {op reply t} : reply.NoGrant → Transition m op reply { m with lastObservedAt := t }
  | acquired {owner leaseId ttlMs now expiresAt} : m.state = .vacant →
      Transition m (.acquire owner leaseId ttlMs now m.generation)
        (.grant (.ok ⟨leaseId, owner, m.generation, expiresAt, now⟩))
        { m with
          lastObservedAt := some now
          state := .held ⟨leaseId, owner, m.generation, expiresAt, now⟩ }
  | renewed {g ttlMs now expiresAt} : m.state = .held g → now < g.expiresAt →
      Transition m (.renew g.owner g.leaseId ttlMs now m.generation)
        (.grant (.ok { g with expiresAt := expiresAt, lastActivityAt := now }))
        { m with
          lastObservedAt := some now
          state := .held { g with expiresAt := expiresAt, lastActivityAt := now } }
  | authorized {g now} : m.state = .held g → now < g.expiresAt →
      Transition m (.authorize g.owner g.leaseId now m.generation)
        (.grant (.ok { g with lastActivityAt := now }))
        { m with
          lastObservedAt := some now
          state := .held { g with lastActivityAt := now } }
  | revoked {op reply g t reason} : m.state = .held g → reply.NoGrant →
      Transition m op reply { m with lastObservedAt := t, state := .revoking g reason }
  | begun {g reason} : m.state = .revoking g reason →
      Transition m .beginReset (.done (.ok ())) { m with state := .resetting g reason }
  | finished {g reason} : m.state = .resetting g reason →
      Transition m .finishReset (.done (.ok ())) { m with state := .vacant }
  | fenced {token reply} : reply.NoGrant → token.epoch > m.generation.epoch →
      Transition m (.rotateGeneration token) reply
        (({ m with generation := token } : LeaseMachine).revoke .generationChanged).2

variable {m : LeaseMachine}

/-- Nothing changes at all. -/
theorem Transition.same {op reply} (h : reply.NoGrant) : Transition m op reply m :=
  .kept h

theorem validateGeneration_ok {g u} (h : m.validateGeneration g = .ok u) : g = m.generation := by
  simp only [validateGeneration] at h
  split at h
  · cases h
  split at h
  · cases h
  next hg => simpa using hg

variable {m' : LeaseMachine}

theorem observe_ok {now} (h : m.observe now = .ok m') : m' = { m with lastObservedAt := some now } := by
  simp only [observe] at h
  split at h
  · cases h
  cases h; rfl

/-- Expiry leaves the machine, which then holds no expired lease, or
revokes the lease it held. -/
theorem expireIfDue_cases {now b} (h : m.expireIfDue now = (b, m')) :
    (b = false ∧ m' = m ∧ ∀ g, m.state = .held g → now < g.expiresAt) ∨
    (∃ g, b = true ∧ m.state = .held g ∧ g.expiresAt ≤ now ∧
    m' = { m with state := .revoking g .expired }) := by
  simp only [expireIfDue] at h
  split at h
  · next g hg =>
    split at h
    · next hlt =>
      cases h
      exact .inl ⟨rfl, rfl, fun g' hg' => by rw [hg] at hg'; cases hg'; exact hlt⟩
    · next hge => cases h; exact .inr ⟨g, rfl, hg, Nat.le_of_not_lt hge, rfl⟩
  · next hno => cases h; exact .inl ⟨rfl, rfl, fun g hg => absurd hg (hno g)⟩

theorem validateCapability_ok {g owner leaseId u}
    (h : validateCapability g owner leaseId = .ok u) : owner = g.owner ∧ leaseId = g.leaseId := by
  simp only [validateCapability] at h
  split at h
  · cases h
  split at h
  · cases h
  next ho hl => exact ⟨(not_not.mp ho).symm, (not_not.mp hl).symm⟩

theorem noGrant_error {e} : (Reply.grant (.error e)).NoGrant := by intro g h; cases h
theorem noGrant_done {r} : (Reply.done r).NoGrant := by intro g h; cases h
theorem noGrant_flag {r} : (Reply.flag r).NoGrant := by intro g h; cases h

/-- After the clock was read, an operation that grants nothing and leaves
what expiry left has kept or revoked the lease. -/
theorem Transition.of_expireIfDue {now b op reply}
    (h : ({ m with lastObservedAt := some now } : LeaseMachine).expireIfDue now = (b, m'))
    (hr : reply.NoGrant) : Transition m op reply m' := by
  rcases expireIfDue_cases h with ⟨-, rfl, -⟩ | ⟨g, -, hg, -, rfl⟩
  · exact .kept hr
  · exact .revoked hg hr

abbrev Answers {α} (m : LeaseMachine) (op : Op) (reply : α → Reply) (r : α × LeaseMachine) : Prop :=
  Transition m op (reply r.1) r.2

theorem acquire_transition (m : LeaseMachine) (owner leaseId ttlMs now generation) :
    Answers m (.acquire owner leaseId ttlMs now generation) .grant (m.acquire owner leaseId ttlMs now generation) := by
  simp only [acquire]
  split
  · exact .same noGrant_error
  next hg =>
  cases validateGeneration_ok hg
  split
  · exact .same noGrant_error
  next m₁ ho =>
  cases observe_ok ho
  cases hx : ({ m with lastObservedAt := some now } : LeaseMachine).expireIfDue now with | mk b m₁ =>
  have hk : ∀ e, Transition m (.acquire owner leaseId ttlMs now m.generation) (.grant (.error e)) m₁ :=
    fun e => .of_expireIfDue hx noGrant_error
  dsimp only
  split
  · exact hk _
  · exact hk _
  · exact hk _
  next hv =>
  split
  · exact hk _
  split
  · exact hk _
  -- A vacant machine was vacant before: expiry only leaves a held lease.
  rcases expireIfDue_cases hx with ⟨-, rfl, -⟩ | ⟨g, -, -, -, rfl⟩
  · exact .acquired hv
  · cases hv

section Calls

variable {α : Type} {op : Op} {reply : Except LeaseError α → Reply} (hr : ∀ e, (reply (.error e)).NoGrant)
  {now : MonotonicMillis} {owner : PrincipalId} {leaseId : ControlLeaseId}

include hr

theorem unexpired_transition {generation call} (hc : generation = m.generation →
      (∀ g, m.state = .held g → now < g.expiresAt) → Answers m op reply (call { m with lastObservedAt := some now })) :
    Answers m op reply (m.unexpired now generation call) := by
  simp only [unexpired]
  split
  · exact .same (hr _)
  next hg =>
  split
  · exact .same (hr _)
  next m₁ ho =>
  cases observe_ok ho
  split
  · next hx => exact .of_expireIfDue hx (hr _)
  next m₁ hx =>
  rcases expireIfDue_cases hx with ⟨-, rfl, hl⟩ | ⟨g, hb, -⟩
  · exact hc (validateGeneration_ok hg) hl
  · cases hb

theorem underLease_transition {call} (hc : ∀ g, m.state = .held g → owner = g.owner → leaseId = g.leaseId →
      Answers m op reply (call g)) :
    Answers m op reply (({ m with lastObservedAt := some now } : LeaseMachine).underLease owner leaseId call) := by
  simp only [underLease]
  split
  · exact .kept (hr _)
  · exact .kept (hr _)
  · exact .kept (hr _)
  next g hg =>
  split
  · exact .kept (hr _)
  next hv =>
  obtain ⟨ho, hl⟩ := validateCapability_ok hv
  exact hc g hg ho hl

end Calls

theorem renew_transition (m : LeaseMachine) (owner leaseId ttlMs now generation) :
    Answers m (.renew owner leaseId ttlMs now generation) .grant (m.renew owner leaseId ttlMs now generation) := by
  refine unexpired_transition (fun _ => noGrant_error) ?_
  rintro rfl hl
  dsimp only
  split
  · exact .kept noGrant_error
  split
  · exact .kept noGrant_error
  refine underLease_transition (fun _ => noGrant_error) ?_
  rintro g hg rfl rfl
  exact .renewed hg (hl g hg)

theorem authorize_transition (m : LeaseMachine) (owner leaseId now generation) :
    Answers m (.authorize owner leaseId now generation) .grant (m.authorize owner leaseId now generation) := by
  refine unexpired_transition (fun _ => noGrant_error) ?_
  rintro rfl hl
  refine underLease_transition (fun _ => noGrant_error) ?_
  rintro g hg rfl rfl
  exact .authorized hg (hl g hg)

theorem release_transition (m : LeaseMachine) (owner leaseId now generation) :
    Answers m (.release owner leaseId now generation) .done (m.release owner leaseId now generation) :=
  unexpired_transition (fun _ => noGrant_done) fun _ _ =>
    underLease_transition (fun _ => noGrant_done) fun _ hg _ _ => .revoked hg noGrant_done

theorem revoke_transition (m reason) :
    Transition m (.revoke reason) (.flag (.ok (m.revoke reason).1)) (m.revoke reason).2 := by
  simp only [revoke]
  split
  · next g hg => exact .revoked hg noGrant_flag
  · exact .same noGrant_flag

theorem advanceTime_transition (m now) :
    Answers m (.advanceTime now) .flag (m.advanceTime now) := by
  simp only [advanceTime]
  split
  · exact .same noGrant_flag
  next m₁ ho =>
  cases observe_ok ho
  exact .of_expireIfDue rfl noGrant_flag

theorem beginReset_transition (m) : Answers m .beginReset .done m.beginReset := by
  simp only [beginReset]
  split
  · next hs => exact .begun hs
  · exact .same noGrant_done

theorem finishReset_transition (m) : Answers m .finishReset .done m.finishReset := by
  simp only [finishReset]
  split
  · next hs => exact .finished hs
  · exact .same noGrant_done

theorem rotateGeneration_transition (m token) :
    Answers m (.rotateGeneration token) .done (m.rotateGeneration token) := by
  simp only [rotateGeneration]
  split
  · exact .same noGrant_done
  split
  · exact .same noGrant_done
  next h => exact .fenced noGrant_done (by omega)

/-- Every operation is one of the transitions. -/
theorem step_transition (m : LeaseMachine) (op : Op) : Transition m op (m.step op).1 (m.step op).2 := by
  cases op with
  | acquire => exact acquire_transition ..
  | renew => exact renew_transition ..
  | authorize => exact authorize_transition ..
  | release => exact release_transition ..
  | revoke => exact revoke_transition ..
  | advanceTime => exact advanceTime_transition ..
  | beginReset => exact beginReset_transition ..
  | finishReset => exact finishReset_transition ..
  | rotateGeneration => exact rotateGeneration_transition ..

/-! ## From one holder to the next -/

/-- The lease is left only into `Revoking`, which is left only by a `begin_reset` that succeeds,
and `Resetting` only by such a `finish_reset`. -/
theorem leave {op reply} (h : Transition m op reply m') (ho : m'.phase ≠ m.phase) :
    (m.phase = .held → m'.phase = .revoking) ∧
    (m.phase = .revoking → op = .beginReset ∧ reply = .done (.ok ()) ∧ m'.phase = .resetting) ∧
    (m.phase = .resetting → op = .finishReset ∧ reply = .done (.ok ())) := by
  cases h with
  | kept => exact absurd rfl ho
  | renewed hs | authorized hs => exact absurd (by rw [phase, phase, hs]; rfl) ho
  | acquired hs | revoked hs | begun hs | finished hs => simp [phase, hs, LeaseState.phase]
  | fenced => cases hs : m.state <;> simp [phase, revoke, hs, LeaseState.phase] at ho ⊢

/-- `op` is an acquisition, and it succeeds. -/
def Acquires (m : LeaseMachine) (op : Op) : Prop :=
  ∃ owner leaseId ttlMs now generation g,
    op = .acquire owner leaseId ttlMs now generation ∧ (m.step op).1 = .grant (.ok g)

theorem Acquires.vacant_held {op} (h : Acquires m op) : m.phase = .vacant ∧ (m.step op).2.phase = .held := by
  obtain ⟨o, li, tm, now, gn, g, rfl, hr⟩ := h
  have ht := step_transition m (.acquire o li tm now gn)
  generalize (m.step (.acquire o li tm now gn)).2 = m' at ht
  rw [hr] at ht
  cases ht with
  | kept hno | revoked _ hno => exact absurd rfl (hno g)
  | acquired hs => exact ⟨by rw [phase, hs]; rfl, rfl⟩

/-- Between two successful acquisitions the machine is revoked, then a
`begin_reset` succeeds, then a `finish_reset` does. -/
theorem reset_between {mid} (hh : m.phase = .held) (hv : (final step m mid).phase = .vacant) :
    ∃ mid₁ op mid₂ mid₃ mid₄, mid = mid₁ ++ op :: (mid₂ ++ .beginReset :: (mid₃ ++ .finishReset :: mid₄)) ∧
      (final step m (mid₁ ++ [op])).phase = .revoking ∧
      ((final step m (mid₁ ++ op :: mid₂)).step .beginReset).1 = .done (.ok ()) ∧
      ((final step m (mid₁ ++ op :: (mid₂ ++ .beginReset :: mid₃))).step .finishReset).1 = .done
        (.ok ()) := by
  obtain ⟨mid₁, op, rest, rfl, hin, ho⟩ :=
    exists_leave (P := fun m : LeaseMachine => m.phase = .held) hh (by rw [hv]; simp)
  have hr := (leave (step_transition _ op) (hin ▸ ho)).1 hin
  simp only [final_append, final_cons] at hv
  obtain ⟨mid₂, op₂, rest, rfl, hin, ho⟩ :=
    exists_leave (P := fun m : LeaseMachine => m.phase = .revoking) hr (by rw [hv]; simp)
  obtain ⟨rfl, hb, hre⟩ := (leave (step_transition _ op₂) (hin ▸ ho)).2.1 hin
  simp only [final_append, final_cons] at hv
  obtain ⟨mid₃, op₃, mid₄, rfl, hin, ho⟩ :=
    exists_leave (P := fun m : LeaseMachine => m.phase = .resetting) hre (by rw [hv]; simp)
  obtain ⟨rfl, hd⟩ := (leave (step_transition _ op₃) (hin ▸ ho)).2.2 hin
  exact ⟨mid₁, op, mid₂, mid₃, mid₄, rfl, by simpa using hr, by simpa using hb, by simpa using hd⟩

/-! ## The grant in force -/

def acquiredBy : Op × Reply → Option LeaseGrant
  | (.acquire .., .grant (.ok g)) => some g
  | _ => none

/-- The expiry set by a successful acquisition or renewal. -/
def expirySetBy : Op × Reply → Option MonotonicMillis
  | (.acquire .., .grant (.ok g)) | (.renew .., .grant (.ok g)) => some g.expiresAt
  | _ => none

section

variable (log : List (Op × Reply))

/-- The grant of the latest successful acquisition. -/
def lastAcquired : Option LeaseGrant := log.reverse.findSome? acquiredBy

/-- The expiry set by the latest successful acquisition or renewal. -/
def lastExpiry : Option MonotonicMillis := log.reverse.findSome? expirySetBy

@[simp] theorem lastAcquired_snoc (x) : lastAcquired (log ++ [x]) = (acquiredBy x).or (lastAcquired log) := by
  rw [lastAcquired, List.reverse_append, List.findSome?_append]
  simp [lastAcquired]

@[simp] theorem lastExpiry_snoc (x) : lastExpiry (log ++ [x]) = (expirySetBy x).or (lastExpiry log) := by
  rw [lastExpiry, List.reverse_append, List.findSome?_append]
  simp [lastExpiry]

end

/-- A held lease is the one of the latest acquisition, with the expiry
last set, in the current generation. -/
def Grounded (m : LeaseMachine) (log : List (Op × Reply)) : Prop :=
  ∀ g, m.state = .held g → g.generation = m.generation ∧ lastExpiry log = some g.expiresAt ∧
    ∃ a, lastAcquired log = some a ∧ a.owner = g.owner ∧ a.leaseId = g.leaseId ∧ a.generation = g.generation

theorem acquiredBy_noGrant {op reply} (h : Reply.NoGrant reply) : acquiredBy (op, reply) = none := by
  unfold acquiredBy
  split
  · next heq => cases heq; exact absurd rfl (h _)
  · rfl

theorem expirySetBy_noGrant {op reply} (h : Reply.NoGrant reply) : expirySetBy (op, reply) = none := by
  unfold expirySetBy
  split
  · next heq => cases heq; exact absurd rfl (h _)
  · next heq => cases heq; exact absurd rfl (h _)
  · rfl

theorem Grounded.transition {log op reply} (h : Grounded m log)
    (ht : Transition m op reply m') : Grounded m' (log ++ [(op, reply)]) := by
  intro g hg
  simp only [lastExpiry_snoc, lastAcquired_snoc]
  cases ht with
  | kept hno => simpa [acquiredBy_noGrant hno, expirySetBy_noGrant hno] using h g hg
  | acquired hs => cases hg; simp [acquiredBy, expirySetBy]
  | @renewed g₀ _ _ _ hs =>
    cases hg
    obtain ⟨hge, -, ha⟩ := h g₀ hs
    exact ⟨hge, rfl, ha⟩
  | @authorized g₀ _ hs =>
    cases hg
    exact h g₀ hs
  | revoked | begun | finished => cases hg
  | fenced => cases hs : m.state <;> simp [revoke, hs] at hg

theorem grounded_final {desktopId generation policy m₀}
    (hn : LeaseMachine.new desktopId generation policy = .ok m₀) (ops : List Op) :
    Grounded (final step m₀ ops) (answers step m₀ ops) := by
  refine run_induction ?_ (fun m log op h => h.transition (step_transition m op)) ops
  intro g hg
  simp only [LeaseMachine.new] at hn
  split at hn
  · cases hn
  cases hn; cases hg

/-- What an authorization or a renewal at `now` was granted on: the lease
of the latest acquisition, not expired. -/
theorem Grounded.granted {log op reply} (h : Grounded m log)
    (ht : Transition m op reply m') {owner leaseId now generation g}
    (hop : op = .authorize owner leaseId now generation ∨ ∃ tm,
    op = .renew owner leaseId tm now generation) (hr : reply = .grant (.ok g)) :
    ∃ a e, lastAcquired log = some a ∧ lastExpiry log = some e ∧ now < e ∧
      g.owner = a.owner ∧ g.leaseId = a.leaseId ∧ g.generation = a.generation ∧
      owner = a.owner ∧ leaseId = a.leaseId ∧ generation = m.generation ∧ a.generation = m.generation := by
  have held : ∀ g₀, m.state = .held g₀ → now < g₀.expiresAt → owner = g₀.owner → leaseId = g₀.leaseId →
      generation = m.generation → g.owner = g₀.owner → g.leaseId = g₀.leaseId →
      g.generation = g₀.generation → ∃ a e, lastAcquired log = some a ∧ lastExpiry log = some e ∧ now < e ∧
        g.owner = a.owner ∧ g.leaseId = a.leaseId ∧ g.generation = a.generation ∧
        owner = a.owner ∧ leaseId = a.leaseId ∧ generation = m.generation ∧
          a.generation = m.generation := by
    intro g₀ hs hlt ho hl hg hgo hgl hgg
    obtain ⟨hc, he, a, ha, hao, hal, hag⟩ := h g₀ hs
    exact ⟨a, _, ha, he, hlt, hgo.trans hao.symm, hgl.trans hal.symm, hgg.trans hag.symm,
      ho.trans hao.symm, hl.trans hal.symm, hg, hag.trans hc⟩
  cases ht with
  | kept hno | revoked _ hno => exact absurd hr (hno g)
  | acquired | begun | finished | fenced => rcases hop with hop | ⟨_, hop⟩ <;> cases hop
  | @renewed g₀ _ _ _ hs hlt | @authorized g₀ _ hs hlt =>
    cases hr
    rcases hop with hop | ⟨_, hop⟩ <;> cases hop
    exact held g₀ hs hlt rfl rfl rfl rfl rfl rfl

/-- The lease a machine carries, whatever its phase. -/
def lease? (m : LeaseMachine) : Option LeaseGrant :=
  match m.state with
  | .vacant => none
  | .held g | .revoking g _ | .resetting g _ => some g

theorem authorize_expiresAt (m : LeaseMachine) (owner leaseId now generation) :
    (m.authorize owner leaseId now generation).2.lease?.map (·.expiresAt) = m.lease?.map (·.expiresAt) := by
  have ht := authorize_transition m owner leaseId now generation
  generalize m.authorize owner leaseId now generation = p at ht ⊢
  obtain ⟨r, m'⟩ := p
  cases ht with
  | kept => rfl
  | authorized hs | revoked hs => simp [lease?, hs]

/-! ## Stale tokens -/

/-- A capability operation called with another token changes nothing. -/
theorem step_stale {op token} (ht : op.token = some token)
    (hne : token ≠ m.generation) (hr : ∀ g, op ≠ .rotateGeneration g) : (m.step op).2 = m := by
  obtain ⟨e, he⟩ : ∃ e, m.validateGeneration token = .error e := by
    simp only [validateGeneration]
    split <;> exact ⟨_, rfl⟩
  cases op with
  | acquire => cases ht; simp [step, acquire, he]
  | renew => cases ht; simp [step, renew, unexpired, he]
  | authorize => cases ht; simp [step, authorize, unexpired, he]
  | release => cases ht; simp [step, release, unexpired, he]
  | rotateGeneration g => exact absurd rfl (hr g)
  | revoke | advanceTime | beginReset | finishReset => cases ht

/-- A rotation is accepted exactly for another UUID of this desktop at a
later epoch, and a refused one changes nothing. -/
theorem rotateGeneration_cases (m : LeaseMachine) (t : GenerationToken) :
    (t.desktopId = m.desktopId ∧ m.generation.epoch < t.epoch ∧
      t.generation ≠ m.generation.generation ∧ (m.rotateGeneration t).1 = .ok () ∧
      (m.rotateGeneration t).2.generation = t) ∨
    (¬ (t.desktopId = m.desktopId ∧ m.generation.epoch < t.epoch ∧
      t.generation ≠ m.generation.generation) ∧ (m.rotateGeneration t).2 = m) := by
  simp only [rotateGeneration]
  split
  · next hd => exact .inr ⟨fun h => hd h.1, rfl⟩
  split
  · next hs => exact .inr ⟨fun h => by rcases hs with hs | hs; · omega
                                       · exact h.2.2 hs, rfl⟩
  next hd hs =>
  simp only [not_or, Nat.not_le] at hs
  refine .inl ⟨not_not.mp hd, hs.1, hs.2, rfl, ?_⟩
  simp only [revoke]
  split <;> rfl

/-- **The lease transaction is safe.** In every run from a new machine:
between two successful acquisitions the machine is `Revoking`, then a
`begin_reset` succeeds, then a `finish_reset`; an authorization or renewal
that succeeds at `now` names the grant of the latest acquisition in the
current generation and comes before the expiry last set; no authorization
changes an expiry; a held grant is of the current generation; and an
operation called with another token changes no field, unless it is a
`rotate_generation` that installs this token. -/
theorem lease_transaction_safety {desktopId generation₀ policy} {m₀ : LeaseMachine}
    (hnew : LeaseMachine.new desktopId generation₀ policy = .ok m₀) (ops : List Op) :
    let m := final step m₀ ops
    let log := answers step m₀ ops
    (∀ op mid op', Acquires m op → Acquires (final step m (op :: mid)) op' → ∃ mid₁ x mid₂ mid₃ mid₄,
        mid = mid₁ ++ x :: (mid₂ ++ .beginReset :: (mid₃ ++ .finishReset :: mid₄)) ∧
        (final step m (op :: (mid₁ ++ [x]))).phase = .revoking ∧
        ((final step m (op :: (mid₁ ++ x :: mid₂))).step .beginReset).1 = .done (.ok ()) ∧
        ((final step m (op :: (mid₁ ++ x :: (mid₂ ++ .beginReset :: mid₃)))).step .finishReset).1 =
          .done (.ok ())) ∧
    (∀ op owner leaseId now generation g, (op = .authorize owner leaseId now generation ∨ ∃ ttlMs,
        op = .renew owner leaseId ttlMs now generation) →
      (m.step op).1 = .grant (.ok g) →
      ∃ a e, lastAcquired log = some a ∧ lastExpiry log = some e ∧ now < e ∧
        g.owner = a.owner ∧ g.leaseId = a.leaseId ∧ g.generation = a.generation ∧
        owner = a.owner ∧ leaseId = a.leaseId ∧ generation = m.generation ∧ a.generation = m.generation) ∧
    (∀ owner leaseId now generation,
      (m.authorize owner leaseId now generation).2.lease?.map (·.expiresAt) = m.lease?.map (·.expiresAt)) ∧
    (∀ g, m.state = .held g → g.generation = m.generation) ∧
    (∀ op token, op.token = some token → token ≠ m.generation → (m.step op).2 = m ∨
        op = .rotateGeneration token ∧ token.desktopId = m.desktopId ∧ m.generation.epoch < token.epoch ∧
          token.generation ≠ m.generation.generation ∧ (m.step op).2.generation = token) := by
  have hg := grounded_final hnew ops
  refine ⟨?_, ?_, fun owner leaseId now generation => authorize_expiresAt .., fun g hs => (hg g hs).1, ?_⟩
  · intro op mid op' ha ha'
    exact reset_between ha.vacant_held.2 ha'.vacant_held.1
  · intro op owner leaseId now generation g hop hr
    exact hg.granted (step_transition _ op) hop hr
  intro op token ht hne
  by_cases hro : ∃ g, op = .rotateGeneration g
  · obtain ⟨g, rfl⟩ := hro
    cases ht
    rcases rotateGeneration_cases (final step m₀ ops) token with ⟨hd, he, hu, -, hge⟩ | ⟨-, hsa⟩
    · exact .inr ⟨rfl, hd, he, hu, hge⟩
    · exact .inl hsa
  · exact .inl (step_stale ht hne fun g hop => hro ⟨g, hop⟩)

/-- An authorization one millisecond before the expiry of a renewed lease. -/
theorem renewed_lease_authorized : ∃ m₀, LeaseMachine.new ⟨1⟩ .first LeasePolicy.default = .ok m₀ ∧
      ∃ a e, lastAcquired (answers step m₀
          [.acquire .operator ⟨7⟩ none 0 .first, .renew .operator ⟨7⟩ none 5 .first]) = some a ∧
        lastExpiry (answers step m₀
          [.acquire .operator ⟨7⟩ none 0 .first, .renew .operator ⟨7⟩ none 5 .first]) = some e ∧
        60004 < e := by
  refine ⟨_, rfl, ?_⟩
  obtain ⟨a, e, ha, he, hlt, -⟩ := (lease_transaction_safety
    (show LeaseMachine.new ⟨1⟩ .first LeasePolicy.default = .ok ⟨⟨1⟩, .first, .default, none,
    .vacant⟩ from rfl)
    [.acquire .operator ⟨7⟩ none 0 .first, .renew .operator ⟨7⟩ none 5 .first]).2.1
    (.authorize .operator ⟨7⟩ 60004 .first) _ _ _ _ _ (.inl rfl) rfl
  exact ⟨a, e, ha, he, hlt⟩

/-- A `rotate_generation` is called with a token that is not current, and
installs it: not every operation with such a token leaves the machine. -/
theorem rotation_installs_token : ∃ (m : LeaseMachine) (token : GenerationToken),
      LeaseMachine.new ⟨1⟩ .first LeasePolicy.default = .ok m ∧
      Op.token (.rotateGeneration token) = some token ∧ token ≠ m.generation ∧
      (m.step (.rotateGeneration token)).2 ≠ m :=
  ⟨_, .second, rfl, rfl, by decide, ne_of_apply_ne LeaseMachine.generation (by decide)⟩

end Xenoteer.LeaseMachine
