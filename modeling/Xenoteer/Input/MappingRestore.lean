/-
Temporary keyboard mappings are undone.

The marks of the trace say which original row is kept for restoration
(`pendingRestore`), and every entry that concerns the keyboard mapping is in
order with what came before it (`InOrder`): a row is written only for the
keycode whose original is kept, an original is kept only after it was read
blank and while no other is, and it is dropped only after it was written back
and read back. Methods that leave the mapping alone keep all of this
(`Footprint`); what is left are the few that write.
-/
import Xenoteer.Input.Footprint
import Xenoteer.Lib.Trace

namespace Xenoteer

open Lib Prog Lib.Run Lib.Trace

set_option synthInstance.maxSize 1000

namespace InputEngine

variable {ε φ α β : Type} {env : Environment} {s s' : InputEngine} {t : EngineTrace}

/-! ## The trace -/

/-- The original row that is kept for restoration. -/
def pendingRestore (t : EngineTrace) : Option PendingTemporaryRestore :=
  t.foldl (fun pending entry => match entry with
    | .mark (.restoreStored key original) => some ⟨key, original⟩
    | .mark (.restoreDropped _) => none
    | _ => pending) none

/-- The row was read blank, and no row was written since. -/
def ReadBlank (t : EngineTrace) (key : PhysicalKey) (original : CoreKeyboardMapping) : Prop :=
  isBlankRow original = true ∧ ∃ t₁ t₂, t = t₁ ++ .readKeyboardMapping key (.ok original) :: t₂ ∧
    ∀ entry ∈ t₂, entry.isMapping = false

/-- The trace ends with the row written, read back and the model in step. -/
def WrittenBack (t : EngineTrace) (key : PhysicalKey) (original : CoreKeyboardMapping) : Prop :=
  ∃ t₁ preflight, t = t₁ ++ [.writeKeyboardMapping key original (.ok ()),
    .readKeyboardMapping key (.ok original), .synchronizePreflight (.ok preflight)]

/-- An entry is in order with the trace before it. -/
def InOrder (before : EngineTrace) : Entry → Prop
  | .writeKeyboardMapping key _ _ => ∃ original, pendingRestore before = some ⟨key, original⟩
  | .mark (.restoreStored key original) => pendingRestore before = none ∧ ReadBlank before key original
  | .mark (.restoreDropped key) =>
    ∃ original, pendingRestore before = some ⟨key, original⟩ ∧ WrittenBack before key original
  | .mark .keyboardStarted => pendingRestore before = none
  | _ => True

def Restorations (t : EngineTrace) : Prop := Justified InOrder t

theorem pendingRestore_snoc (t) (et : Entry) : pendingRestore (t ++ [et]) = match et with
      | .mark (.restoreStored key og) => some ⟨key, og⟩
      | .mark (.restoreDropped _) => none
      | _ => pendingRestore t := by
  simp only [pendingRestore, List.foldl_append, List.foldl_cons, List.foldl_nil]

variable {et : Entry}

theorem pendingRestore_unmarked (h : et.isMapping = false) {t} :
    pendingRestore (t ++ [et]) = pendingRestore t := by
  rw [pendingRestore_snoc]
  cases et with
  | mark m =>
    cases m with
    | restoreStored | restoreDropped => cases h
    | _ => rfl
  | _ => rfl

theorem inOrder_unmarked (h : et.isMapping = false) : InOrder t et := by
  cases et with
  | mark m => cases m <;> trivial
  | writeKeyboardMapping => cases h
  | _ => trivial

/-- An original that is kept was read blank before. -/
theorem Restorations.stored (h : Restorations t) {p}
    (hp : pendingRestore t = some p) : ∃ t₁ t₂, t = t₁ ++ .mark (.restoreStored p.key p.original) :: t₂ ∧
      ReadBlank t₁ p.key p.original := by
  induction t using List.reverseRecOn with
  | nil => cases hp
  | append_singleton t et ih =>
    have he : pendingRestore t = some p → ∃ t₁ t₂, t ++ [et] =
        t₁ ++ .mark (.restoreStored p.key p.original) :: t₂ ∧
        ReadBlank t₁ p.key p.original := by
      intro hb
      obtain ⟨t₁, t₂, rfl, hr⟩ := ih h.of_append hb
      exact ⟨t₁, t₂ ++ [et], by simp, hr⟩
    rw [pendingRestore_snoc] at hp
    cases et with
    | mark m =>
      cases m with
      | restoreStored key og =>
        cases hp
        exact ⟨t, [], rfl, (h t _ [] rfl).2⟩
      | restoreDropped key => cases hp
      | _ => exact he hp
    | _ => exact he hp

/-- A row of the keycode was written. -/
def Written (t : EngineTrace) (key : PhysicalKey) : Prop :=
  ∃ row answer, .writeKeyboardMapping key row answer ∈ t

/-- The last row written for the keycode is its original, and it was read
back. -/
def LastWrittenBack (t : EngineTrace) (key : PhysicalKey) : Prop :=
  ∃ t₁ original t₂, t = t₁ ++ .writeKeyboardMapping key original (.ok ()) ::
      .readKeyboardMapping key (.ok original) :: t₂ ∧
    pendingRestore t₁ = some ⟨key, original⟩ ∧ ¬ Written t₂ key

variable {key : PhysicalKey}

theorem written_snoc : Written (t ++ [et]) key ↔ Written t key ∨ ∃ row a,
      et = .writeKeyboardMapping key row a := by
  simp only [Written, List.mem_append, List.mem_singleton, exists_or, eq_comm]

theorem LastWrittenBack.snoc (h : LastWrittenBack t key)
    (he : ∀ row a, et ≠ .writeKeyboardMapping key row a) : LastWrittenBack (t ++ [et]) key := by
  obtain ⟨t₁, og, t₂, rfl, hp, hw⟩ := h
  refine ⟨t₁, og, t₂ ++ [et], by simp, hp, fun h => ?_⟩
  obtain h | ⟨row, a, h⟩ := written_snoc.mp h
  · exact hw h
  · exact he row a h

/-- Every keycode written is the one whose original is kept, or has it back. -/
theorem Restorations.written (h : Restorations t) (hw : Written t key) :
    (∃ og, pendingRestore t = some ⟨key, og⟩) ∨ LastWrittenBack t key := by
  induction t using List.reverseRecOn with
  | nil => simp [Written] at hw
  | append_singleton t et ih =>
    have he := h t et [] rfl
    have ih := ih h.of_append
    -- what is not about this keycode's row leaves it as it was
    have ho (hno : ∀ row a, et ≠ .writeKeyboardMapping key row a) :
        (∃ og, pendingRestore t = some ⟨key, og⟩) ∨ LastWrittenBack (t ++ [et]) key := by
      obtain hbe | ⟨row, a, rfl⟩ := written_snoc.mp hw
      · exact (ih hbe).imp_right (·.snoc hno)
      · exact absurd rfl (hno row a)
    rw [pendingRestore_snoc]
    cases et with
    | writeKeyboardMapping key' row a =>
      obtain ⟨og, hp⟩ := he
      by_cases hk : key' = key
      · exact .inl ⟨og, hk ▸ hp⟩
      · exact ho (by simp [hk])
    | mark m =>
      cases m with
      | restoreStored key' og =>
        have hn := he.1
        obtain ⟨og, hp⟩ | hb := ho (by simp)
        · rw [hn] at hp
          cases hp
        · exact .inr hb
      | restoreDropped key' =>
        obtain ⟨og, hp, t₁, p, rfl⟩ := he
        obtain ⟨o', hp'⟩ | hb := ho (by simp)
        · obtain ⟨rfl, rfl⟩ : key' = key ∧ og = o' := by simpa [hp] using hp'
          refine .inr ⟨t₁, og, [.synchronizePreflight (.ok p), .mark (.restoreDropped key')],
            by simp, ?_, by simp [Written]⟩
          simpa [pendingRestore, List.foldl_append] using hp
        · exact .inr hb
      | _ => exact ho (by simp)
    | _ => exact ho (by simp)

/-! ## The engine -/

/-- The engine keeps the original that its trace says it keeps. -/
structure Tracked (s : InputEngine) : Prop where
  inOrder : Restorations s.trace
  pending : s.pendingKeyboardRestore = pendingRestore s.trace

/-- A healthy engine keeps none. -/
structure Undone (s : InputEngine) : Prop extends Tracked s where
  healthy : s.state.health = .healthy → s.pendingKeyboardRestore = none

theorem Tracked.addEntry (h : Tracked s) (et : Entry) (he : et.isMapping = false) : Tracked (s.addEntry et) :=
  ⟨h.inOrder.append_singleton (inOrder_unmarked he), h.pending.trans (pendingRestore_unmarked he).symm⟩

/-- The mapping and its restoration are left alone. -/
def unmapped : Frame InputEngine where
  rel s s' := s'.pendingKeyboardRestore = s.pendingKeyboardRestore ∧
    ∃ t, s'.trace = s.trace ++ t ∧ ∀ entry ∈ t, entry.isMapping = false
  refl _ := ⟨rfl, [], by simp⟩
  trans := by
    rintro s₁ s₂ s₃ ⟨hpending, t, htrace, ht⟩ ⟨hpending', t', htrace', ht'⟩
    refine ⟨hpending'.trans hpending, t ++ t', by rw [htrace', htrace, List.append_assoc], ?_⟩
    simpa [or_imp, forall_and] using ⟨ht, ht'⟩

theorem Tracked.unmapped (h : Tracked s) (hs : unmapped.rel s s') : Tracked s' := by
  obtain ⟨hp, t, htr, ht⟩ := hs
  induction t using List.reverseRecOn generalizing s' with
  | nil =>
    rw [List.append_nil] at htr
    exact ⟨htr ▸ h.inOrder, by rw [hp, h.pending, htr]⟩
  | append_singleton t et ih =>
    have ht : (∀ e ∈ t, e.isMapping = false) ∧ et.isMapping = false := by
      simpa [or_imp, forall_and] using ht
    have hb : Tracked { s' with trace := s.trace ++ t } := ih hp rfl ht.1
    have hb := hb.addEntry et ht.2
    rw [← List.append_assoc] at htr
    exact ⟨htr ▸ hb.inOrder, hb.pending.trans (by rw [htr]; rfl)⟩

/-- In addition the engine is not made healthy. -/
def steady : Frame InputEngine where
  rel s s' := unmapped.rel s s' ∧ (s'.state.health = .healthy → s.state.health = .healthy)
  refl s := ⟨unmapped.refl s, id⟩
  trans h h' := ⟨unmapped.trans h.1 h'.1, h.2 ∘ h'.2⟩

/-- Plain, or any operation of the state. -/
def Change.isUnmapped : Change → Bool
  | .state _ => true
  | change => change.isPlain

theorem Change.isUnmapped_of_isPlain {c : Change} (hc : c.isPlain = true) : c.isUnmapped = true := by
  cases c with
  | state => rfl
  | _ => exact hc

theorem unmapped_one {c : Change} (hc : c.isUnmapped = true) : unmapped.rel s (c.apply s) := by
  cases c with
  | entry n =>
    exact ⟨rfl, [n], rfl, by simpa [Change.isUnmapped, Change.isPlain] using hc⟩
  | drained e => exact ⟨rfl, [.drainEvents (.ok e)], rfl, by simp [Entry.isMapping]⟩
  | observedButtons o =>
    exact ⟨rfl, [.observePointer (.ok o)], rfl, by simp [Entry.isMapping]⟩
  | observedKeys p => exact ⟨rfl, [.observeKeys (.ok p)], rfl, by simp [Entry.isMapping]⟩
  | sent ev a => exact ⟨rfl, [.sendEvent ev.backend a], rfl, by simp [Entry.isMapping]⟩
  | restore => cases hc
  | _ => exact ⟨rfl, [], by simp [Change.apply, reconcileButtons, noteKeyboardEffect], by simp⟩

/-- Only the end of a successful reset makes an engine healthy. -/
theorem step_healthy {st : InputState} {op : InputOp} (hop : op ≠ .transitionHealth .resetSucceeded)
    (h : (st.step op).2.health = .healthy) : st.health = .healthy := by
  have hc := InputState.step_change st op
  cases hh : st.health with
  | healthy => rfl
  | resetRequired r => exact absurd (hc.reset_succeeded hh h).1 hop
  | poisoned r =>
    rw [hc.poisoned hh] at h
    cases h

theorem steady_one {c : Change} (hc : c.isPlain = true) : steady.rel s (c.apply s) := by
  refine ⟨unmapped_one (Change.isUnmapped_of_isPlain hc), ?_⟩
  cases c with
  | state op => exact step_healthy (by simpa [Change.isPlain] using hc)
  | _ => exact id

theorem steady_of_plain (h : plain.rel s s') : steady.rel s s' :=
  of_made (fun _ _ hc => steady_one hc) h

theorem Undone.steady (h : Undone s) (hs : steady.rel s s') : Undone s' :=
  ⟨h.toTracked.unmapped hs.1, fun hh => hs.1.1.trans (h.healthy (hs.2 hh))⟩

/-! ## Writing -/

/-- A lost connection, a broken invariant and a failed restoration end the
service. -/
theorem terminal_not_healthy {e} (he : e.isTerminal = true) (st : InputState) :
    (st.transitionHealth e).2.health ≠ .healthy := by
  cases e <;> cases hh : st.health <;>
    simp_all [InputState.transitionHealth, InputState.nextHealth, HealthEvent.isTerminal,
      HealthEvent.isResetOutcome]

variable {og : CoreKeyboardMapping}

/-- The method unwound in `s'`, with the restoration and the health of `s`. -/
structure Broke (s s' : InputEngine) : Prop extends Tracked s' where
  kept : s'.pendingKeyboardRestore = s.pendingKeyboardRestore
  state : s'.state = s.state

/-- A row is written only for the keycode whose original is kept. -/
theorem writeVerified_ends {row a} (h : Tracked s)
    (hp : s.pendingKeyboardRestore = some ⟨key, og⟩) : Ends (writeVerified env key row a) s
      (fun _ s' => Tracked s' ∧ ∃ o, a o = true ∧ s' = { s with
        trace := s.trace ++ [.writeKeyboardMapping key row (.ok ()), .readKeyboardMapping key (.ok o)] })
      (fun _ s' => Tracked s' ∧ s'.pendingKeyboardRestore = s.pendingKeyboardRestore) (Broke s) := by
  have hw (an : Exit BackendFault Unit) : Tracked
    (s.addEntry (.writeKeyboardMapping key row an)) := by
    have ht := h.pending.symm.trans hp
    exact ⟨h.inOrder.append_singleton ⟨og, ht⟩, by rw [addEntry, h.pending, pendingRestore_snoc]⟩
  rcases han : env.writeKeyboardMapping s.trace key row with _ | f | _ <;>
    simp only [Ends, writeVerified, bind_run, ask, han, readKeyboardMapping]
  · have hr (an : Exit BackendFault CoreKeyboardMapping) := (hw (.ok ())).addEntry
      (.readKeyboardMapping key an) rfl
    rcases ho : env.readKeyboardMapping
      (s.addEntry (.writeKeyboardMapping key row (.ok ()))).trace key
      with o | f | _ <;> simp only [fail]
    · by_cases ha : a o = true
      · simp only [ha, if_true]
        exact ⟨hr _, o, ha, by simp [addEntry]⟩
      · simp only [ha]
        exact ⟨hr _, rfl⟩
    · exact ⟨hr _, rfl⟩
    · exact ⟨hr _, rfl, rfl⟩
  · exact ⟨hw _, rfl⟩
  · exact ⟨hw _, rfl, rfl⟩

variable {pr : KeyboardProgress}

theorem markRestoreFailed_ends {connection} (h : Tracked s) :
    Ends (markRestoreFailed pr connection : EngineM KeyboardRunError α) s (fun _ _ => False)
      (fun _ s' => Tracked s' ∧ s'.state.health ≠ .healthy) fun _ => False := by
  unfold markRestoreFailed
  have hp (event : HealthEvent) (he : event.isTerminal = true) :
      Tracked (s.transitionHealth event) ∧ (s.transitionHealth event).state.health ≠ .healthy :=
    ⟨⟨h.inOrder, h.pending⟩, terminal_not_healthy he s.state⟩
  cases connection with
  | true => exact hp .connectionLost rfl
  | false => exact hp .temporaryKeyboardMappingRestoreFailed rfl

/-- No restoration is pending. -/
structure Clear (s : InputEngine) : Prop extends Tracked s where
  none : s.pendingKeyboardRestore = .none

theorem Clear.undone (h : Clear s) : Undone s := ⟨h.toTracked, fun _ => h.none⟩

theorem undone_of_not_healthy (h : Tracked s) (hh : s.state.health ≠ .healthy) : Undone s :=
  ⟨h, fun hhe => absurd hhe hh⟩

/-- The original is dropped when it is back; otherwise the service ends. -/
theorem restorePending_ends (h : Tracked s) :
    Ends (restorePendingKeyboardMapping env pr) s (fun _ s' => Clear s' ∧ s'.state = s.state)
      (fun _ s' => Tracked s' ∧ s'.state.health ≠ .healthy) (Broke s) := by
  refine ends_read_bind.mpr ?_
  cases hp : s.pendingKeyboardRestore with
  | none => exact ⟨⟨h, hp⟩, rfl⟩
  | some pending =>
    have hf {connection : Bool} {s₁ : InputEngine} (hs₁ : Tracked s₁) :
        Ends (markRestoreFailed pr connection : EngineM KeyboardRunError KeyboardProgress) s₁
          (fun _ s' => Clear s' ∧ s'.state = s.state) (fun _ s' => Tracked s' ∧ s'.state.health ≠ .healthy)
          (Broke s) :=
      (markRestoreFailed_ends hs₁).mono (fun _ _ h => h.elim) (fun _ _ h => h) fun _ h => h.elim
    refine Ends.attempt_bind (writeVerified_ends h hp) ?_ ?_ fun _ h => h
    · intro _ s₁ ⟨hs₁, observed, ho, heq⟩
      obtain rfl : observed = pending.original := by simpa using ho
      have hs (answer : Exit KeyboardModelFault ModelPreflight) :=
        hs₁.addEntry (.synchronizePreflight answer) rfl
      rcases ha : env.synchronizePreflight s₁.trace with preflight | fault | _ <;>
        simp only [Ends, bind_run, synchronizePreflight, ask, ha]
      · have hk : pendingRestore
          (s₁.addEntry (.synchronizePreflight (.ok preflight))).trace = some pending := by
          rw [← (hs _).pending]
          simpa [addEntry, heq] using hp
        have hb : WrittenBack (s₁.addEntry (.synchronizePreflight (.ok preflight))).trace pending.key
            pending.original := ⟨s.trace, preflight, by simp [addEntry, heq]⟩
        have hd : Restorations (_ ++ [.mark (.restoreDropped pending.key)]) :=
          (hs (.ok preflight)).inOrder.append_singleton ⟨pending.original, hk, hb⟩
        have hn : none = pendingRestore ((s₁.addEntry (.synchronizePreflight (.ok preflight))).trace ++
            [.mark (.restoreDropped pending.key)]) := by rw [pendingRestore_snoc]
        have hst : s₁.state = s.state := by rw [heq]
        exact ⟨⟨⟨hd, hn⟩, rfl⟩, hst⟩
      · exact hf (hs _)
      · exact ⟨hs _, by rw [addEntry, heq], by rw [addEntry, heq]⟩
    · intro fault s₁ hs₁
      exact hf hs₁.1

theorem plain_unmapped (h : plain.rel s s') : unmapped.rel s s' := (steady_of_plain h).1

theorem Clear.of_plain (h : Clear s) (hs : plain.rel s s') : Clear s' :=
  ⟨h.toTracked.unmapped (plain_unmapped hs), (plain_unmapped hs).1.trans h.none⟩

/-- The method ends with nothing pending, or as it may after a failure. -/
abbrev Clears (x : EngineM ε α) (s : InputEngine) : Prop := Ends x s (fun _ => Clear) (fun _ => Undone) Tracked

/-- A method that is plain leaves nothing pending. -/
theorem Clear.ends {x : EngineM ε α} (h : Clear s) [hx : Plain x] : Clears x s :=
  (hx.keeps.ends s).mono (fun _ _ hs => h.of_plain hs) (fun _ _ hs => (h.of_plain hs).undone)
    fun _ hs => (h.of_plain hs).toTracked

theorem ReadBlank.unmapped
    (h : ReadBlank s.trace key og) (hs : unmapped.rel s s') : ReadBlank s'.trace key og := by
  obtain ⟨hb, t₁, t₂, heq, ht₂⟩ := h
  obtain ⟨-, t, htr, ht⟩ := hs
  refine ⟨hb, t₁, t₂ ++ t, by simp [htr, heq], ?_⟩
  simpa [or_imp, forall_and] using ⟨ht₂, ht⟩

/-- A keycode is reserved only when its row was read blank. -/
theorem reserveBlankKeycode_read :
    Ends (reserveBlankKeycode env) s (fun rs s' => ReadBlank s'.trace rs.1.key rs.2)
      (fun _ _ => True) fun _ => True := by
  refine Ends.trivial.seq fun r s _ => Ends.trivial.seq fun _ s _ => ?_
  refine ends_read_bind.mpr (Ends.trivial.seq fun _ s _ => ?_)
  rcases ha : env.readKeyboardMapping s.trace r.key with og | f | _ <;>
    simp only [Ends, bind_run, readKeyboardMapping, ask, ha]
  · by_cases hb : isBlankRow og = true
    · have hr : ReadBlank (s.addEntry (.readKeyboardMapping r.key (.ok og))).trace
          r.key og := ⟨hb, s.trace, [], rfl, by simp⟩
      simp only [hb]
      have hv : Plain (validateReservation env r >>= orFailure (keyboardModelFailure · false)) := inferInstance
      exact Ends.bind (hv.keeps.ends _) (fun _ s' hs => hr.unmapped (plain_unmapped hs))
        (fun _ _ _ => trivial)
        fun _ _ => trivial
    · simp only [hb]
      trivial
  · trivial

/-- The first row is written when the original is kept, and only then. -/
theorem storeRestore_ends {reservation} (h : Clear s) (hr : ReadBlank s.trace reservation.key og) :
    Ends (storeRestore reservation og : EngineM ε Unit) s
      (fun _ s' => Tracked s' ∧ s'.pendingKeyboardRestore = some ⟨reservation.key, og⟩)
      (fun _ _ => False) fun _ => False := by
  have hn : pendingRestore s.trace = none := h.pending.symm.trans h.none
  have hs : Restorations (s.trace ++ [.mark (.restoreStored reservation.key og)]) :=
    h.inOrder.append_singleton ⟨hn, hr⟩
  have hk : some ⟨reservation.key, og⟩ =
      pendingRestore (s.trace ++ [.mark (.restoreStored reservation.key og)]) := by
    rw [pendingRestore_snoc]
  exact ⟨⟨hs, hk⟩, rfl⟩

theorem abandonInstall_ends {fault} (h : Tracked s) :
    Clears (abandonInstall env fault pr : EngineM KeyboardRunError α) s := by
  have hf : plain.rel s (if fault.kind = .connection then s.transitionHealth .connectionLost else s) :=
    (inferInstance : Plain (applyConnectionFault fault : EngineM Empty Unit)).keeps s
  refine ends_update_bind.mpr
    (Ends.attempt_bind (restorePending_ends (h.unmapped (plain_unmapped hf))) ?_ ?_
    fun _ h => h.toTracked)
  · exact fun _ s' hs' => hs'.1.undone
  · exact fun _ s' hs' => undone_of_not_healthy hs'.1 hs'.2

variable {dd : Option Instant}

theorem typeAndRestore_ends {sc dbm r cn} (h : Tracked s) : Clears (typeAndRestore env sc dbm r cn dd pr) s := by
  refine Ends.attempt_bind
    (Framed.keeps.ends s)
    (fun ⟨pr, typed⟩ s₁ hs₁ => ?_) (fun e s₁ hs₁ => ?_) fun _ hs => h.unmapped (plain_unmapped hs)
  · refine (restorePending_ends (h.unmapped (plain_unmapped hs₁))).bind
      (fun _ s' hs' => hs'.1) ?_ fun _ h => h.toTracked
    exact fun _ s' hs' => undone_of_not_healthy hs'.1 hs'.2
  have hs₁ := h.unmapped (plain_unmapped hs₁)
  refine ends_read_bind.mpr ?_
  -- an engine that is not healthy leaves the restoration to the reset
  split
  · rename_i hh
    exact undone_of_not_healthy hs₁ hh
  · refine (restorePending_ends hs₁).bind (fun _ s' hs' => hs'.1.undone) ?_ fun _ h => h.toTracked
    exact fun _ s' hs' => undone_of_not_healthy hs'.1 hs'.2

theorem runTemporaryScalar_ends {scalar : Char} {delayBeforeMs : Nat} (h : Clear s) :
    Clears (runTemporaryScalar env scalar delayBeforeMs dd pr) s := by
  refine h.ends.seq fun stopped s₁ hs₁ => ?_
  cases stopped with
  | some stopped => exact hs₁
  | none =>
    refine hs₁.ends.seq fun cn s₂ hs₂ => ?_
    have hre : Ends (mapError pr.failure (reserveBlankKeycode env)) s₂
        (fun reserved s' => Clear s' ∧ ReadBlank s'.trace reserved.1.key reserved.2)
          (fun _ => Undone) Tracked := by
      exact ends_mapError.mpr
        ((hs₂.ends.and reserveBlankKeycode_read).mono (fun _ _ h => h) (fun _ _ h => h.1)
        fun _ h => h.1)
    refine hre.seq fun ⟨reservation, og⟩ s₃ ⟨hs₃, hr⟩ => ?_
    have hs : Plain (boundaryStop env dd : EngineM KeyboardRunError (Option BoundaryStop)) := inferInstance
    refine (hs₃.ends.and (hs.keeps.ends s₃)).bind ?_ (fun _ _ h => h.1) fun _ h => h.1
    intro stopped s₄ ⟨hs₄, hp⟩
    cases stopped with
    | some stopped => exact hs₄
    | none =>
      have hr := hr.unmapped (plain_unmapped hp)
      refine (storeRestore_ends hs₄ hr).bind (fun _ s₅ ⟨hs₅, hpe⟩ => ?_) (fun _ _ h => h.elim)
        fun _ h => h.elim
      refine Ends.attempt_bind (writeVerified_ends hs₅ hpe) (fun _ s₆ hs₆ => ?_)
        (fun fault s₆ hs₆ => ?_)
        fun _ h => h.toTracked
      · exact typeAndRestore_ends hs₆.1
      · exact abandonInstall_ends hs₆.1

instance : Plain (mark (.scalarStarted i md b) : EngineM ε Unit) := mark_plain rfl

/-- A character is typed and its mapping, if any, undone. -/
theorem typeScalar_ends {md} {dm : Nat} {i : Nat} {sc : Char} (h : Clear s) :
    Clears (typeScalar env md dm dd i sc pr) s := by
  refine h.ends.seq fun _ s₁ hs₁ => ?_
  refine Ends.attempt_bind (Framed.keeps.ends s₁)
    (fun r s₂ hs₂ => ?_)
    (fun e s₂ hs₂ => ?_) fun s₂ hs₂ => (hs₁.of_plain hs₂).toTracked
  · obtain ⟨pr, ty⟩ := r
    cases ty <;> exact hs₁.of_plain hs₂
  · dsimp only
    split
    · exact (hs₁.of_plain hs₂).ends.seq fun _ s₃ hs₃ =>
        runTemporaryScalar_ends hs₃
    · exact (hs₁.of_plain hs₂).undone

theorem keyboardUnits_ends {ru : Nat → β → KeyboardProgress →
      EngineM KeyboardRunError (KeyboardProgress × Bool)} (hu : ∀ i un pr s, Clear s →
      Clears (ru i un pr) s)
    (i : Nat) (u : List β) (pr) (h : Clear s) : Clears (keyboardUnits env ru dd i u pr) s := by
  induction u generalizing i pr s with
  | nil => exact h
  | cons un rest ih =>
    refine h.ends.seq fun st s₁ hs₁ => ?_
    cases st with
    | some st => exact hs₁
    | none =>
      refine (hu i un pr s₁ hs₁).seq fun ⟨pr, done⟩ s₂ hs₂ => ?_
      cases done with
      | false => exact hs₂
      | true =>
        dsimp only
        split
        · exact hs₂.ends.seq fun _ s₃ hs₃ => hs₃
        refine hs₂.ends.seq fun st s₃ hs₃ => ?_
        cases st with
        | some st => exact hs₃
        | none => exact ih (i + 1) _ hs₃

instance : Plain (singleUnit env dd r) := by
  obtain ⟨pr, d⟩ := r
  cases d <;> dsimp only [singleUnit] <;> infer_instance

theorem runKeyboardAction_ends {a dd} (h : Clear s) : Clears (runKeyboardAction env a dd) s := by
  unfold runKeyboardAction
  dsimp only
  split
  · exact h.ends
  · exact h.ends
  · exact keyboardUnits_ends
      (fun _ st pr s hs => hs.ends)
      0 _ _ h
  · exact keyboardUnits_ends (fun _ _ _ s hs => typeScalar_ends hs) 0 _ _ h

/-! ## Calls -/

/-- From an engine that is undone the method ends with one, unless it unwinds. -/
def Undoes (x : EngineM ε α) : Prop := ∀ s, Undone s → Ends x s (fun _ => Undone) (fun _ => Undone) Tracked

namespace Undoes

theorem of_plain {x : EngineM ε α} [hx : Plain x] : Undoes x := by
  intro s h
  have hs {s'} (hp : plain.rel s s') : Undone s' := h.steady (steady_of_plain hp)
  exact (hx.keeps.ends s).mono (fun _ _ h => hs h) (fun _ _ h => hs h) fun _ h => (hs h).toTracked

theorem bind {x : EngineM ε α} {f : α → EngineM ε β} (hx : Undoes x) (hf : ∀ a, Undoes (f a)) :
    Undoes (x >>= f) :=
  fun s h => (hx s h).seq fun a s' hs' => hf a s' hs'

theorem after {x : EngineM ε α} {f : α → EngineM ε β} [Plain x] (hf : ∀ a, Undoes (f a)) : Undoes (x >>= f) :=
  .bind .of_plain hf

theorem attempt {x : EngineM φ α} (hx : Undoes x) : Undoes (ε := ε) (attempt x) :=
  fun s h => ends_attempt.mpr (hx s h)

end Undoes

/-- Nothing is pending after the restoration of a reset, or the service ends
and the reset does not recover it. -/
theorem restoreInReset_ends {pr} (h : Tracked s) :
    Ends (restoreInReset env s.pendingKeyboardRestore.isSome pr : EngineM ε _) s
      (fun r s' => Clear s' ∨ Tracked s' ∧ s'.state.health ≠ .healthy ∧ r.1.proofSucceeded = false)
      (fun _ => Undone) Tracked := by
  unfold restoreInReset
  cases hp : s.pendingKeyboardRestore with
  | none => exact .inl ⟨h, hp⟩
  | some p =>
    refine Ends.attempt_bind (restorePending_ends h) (fun _ s' hs' => .inl hs'.1)
      (fun e s' hs' => ?_) fun _ h => h.toTracked
    exact .inr ⟨hs'.1, hs'.2, rfl⟩

theorem concludeReset_ends {healthBefore : InputHealth} {pr : ResetProgress}
    (h : Clear s ∨ Tracked s ∧ s.state.health ≠ .healthy ∧ pr.proofSucceeded = false) :
    Ends (concludeReset healthBefore pr : EngineM ε (ResetProgress × Bool)) s (fun _ => Undone)
      (fun _ => Undone) Tracked := by
  obtain h | ⟨h, hh, hp⟩ := h
  · have hk : Keeps (made (·.isUnmapped = true)) (concludeReset healthBefore pr : EngineM ε _) :=
      concludeReset_made (fun _ => Change.isUnmapped_of_isPlain) fun _ => rfl
    have hm := hk.ends s
    have hu {s'} (hs : (made (·.isUnmapped = true)).rel s s') : Undone s' := by
      have hs : unmapped.rel s s' := of_made (fun _ _ hc => unmapped_one hc) hs
      exact (Clear.mk (h.toTracked.unmapped hs) (hs.1.trans h.none)).undone
    exact hm.mono (fun _ _ h => hu h) (fun _ _ h => hu h) fun _ h => (hu h).toTracked
  · have hpl : Plain (concludeReset healthBefore pr : EngineM ε _) :=
      ⟨concludeReset_made (fun _ h => h) (by simp [hp])⟩
    exact Undoes.of_plain s (undone_of_not_healthy h hh)

instance {pr : ResetProgress} : Plain (answerReset pr sr rf r) := by
  cases rf <;> dsimp only [answerReset] <;> infer_instance

theorem runReset_undoes {healthBefore} : Undoes (runReset env healthBefore) := by
  intro s h
  have hu {s'} (hs : plain.rel s s') : Undone s' := h.steady (steady_of_plain hs)
  refine ends_read_bind.mpr (Ends.bind (Framed.keeps.ends s) (fun e s₁ hs₁ => ?_)
    (fun _ _ hs => hu hs) fun _ hs => (hu hs).toTracked)
  refine ends_read_bind.mpr
    (Ends.bind (Framed.keeps.ends s₁) (fun pr s₂ hs₂ => ?_)
    (fun _ _ hs => hu (plain.trans hs₁ hs)) fun _ hs => (hu (plain.trans hs₁ hs)).toTracked)
  have hs₂ := plain.trans hs₁ hs₂
  rw [← (plain_unmapped hs₂).1]
  refine (restoreInReset_ends (hu hs₂).toTracked).seq fun ⟨pr, failure⟩ s₃ hs₃ => ?_
  refine (concludeReset_ends hs₃).seq fun ⟨pr, recovered⟩ s₄ hs₄ => ?_
  have hh : Plain (update fun s => if pr.proofSucceeded then { s with capturedKeys := [], synthesizedModifiers := [] }
      else s : EngineM InputFailure Unit) := by
    refine update_plain fun s => ?_
    split
    · exact made_one (c := .holds [] []) rfl
    · exact plain.refl s
  refine ends_read_bind.mpr ?_
  dsimp only
  exact Undoes.of_plain s₄ hs₄

instance : Plain (mark (.resetStarted h) : EngineM ε Unit) := mark_plain rfl

instance : Plain (mark (.actionEnded f h) : EngineM ε Unit) := mark_plain rfl

instance : Plain (onState (·.beginAction k) : EngineM ε _) := onState_plain (.beginAction k) (by simp) fun _ => rfl

theorem resetOwnedInput_undoes : Undoes (resetOwnedInput env) := by
  refine .after fun s => .after fun _ => .after fun r => ?_
  cases r with
  | ok => exact runReset_undoes
  | error e => exact .of_plain

theorem cleanupAfter_undoes {k} : Undoes (ε := ε) (cleanupAfter env k) := by
  refine .after fun s => ?_
  split
  · exact .of_plain
  · refine .bind resetOwnedInput_undoes.attempt fun r => ?_
    cases r <;> exact .of_plain

theorem performAction_ends {run : EngineM φ α} (hr : Ends run s (fun _ => Undone) (fun _ => Undone) Tracked) :
    Ends (performAction run : EngineM ε _) s (fun _ => Undone) (fun _ => Undone) Tracked := by
  refine Ends.seq (Q := fun _ => Undone) (ends_attempt.mpr hr) fun result s₁ hs₁ => ?_
  exact Undoes.of_plain s₁ hs₁

instance : Plain (beginOrdinary cn rq) := by
  dsimp only [beginOrdinary]
  infer_instance

section

variable (cn : ActionContext)

theorem answerAction_undoes {r f} : Undoes (answerAction env cn r f) := by
  unfold answerAction
  split
  · exact .of_plain
  · exact .of_plain
  · split <;> exact .of_plain
  · exact .bind cleanupAfter_undoes fun _ => .of_plain

/-! ## Operations -/

instance {kind} : Plain (failBefore cn kind rq : EngineM InputFailure α) := by
  dsimp only [failBefore]
  infer_instance

instance : Plain (refuseIfStopped env cn rq) := by
  dsimp only [refuseIfStopped]
  infer_instance

instance : Plain (drainBefore env cn rq) := by
  dsimp only [drainBefore]
  infer_instance

instance : Plain (requireHealthy cn rq) := by
  dsimp only [requireHealthy]
  infer_instance

instance : Plain (checkPrecondition env cn pc rq) := by
  dsimp only [checkPrecondition]
  infer_instance

instance : Plain (observeStart env cn rq) := by
  dsimp only [observeStart]
  infer_instance

instance : Plain (resolvePointerEndpoint env cn e) := by
  refine .bind fun _ => .bind fun _ => .bind fun _ => .bind fun st => ?_
  cases e with
  | root tr => infer_instance
  | relative d =>
    dsimp only
    split <;> infer_instance

instance {r : Except φ α} : Plain (orReject cn rq r) := by
  cases r <;> dsimp only [orReject] <;> infer_instance

instance : Plain (clickMotion env cn r) := by
  dsimp only [clickMotion]
  split <;> infer_instance

theorem executePreparedAction_undoes (action : InputAction)
    (hasPrecondition : Bool) (staged : Option WindowClickRevalidation) :
    Undoes (executePreparedAction env cn action hasPrecondition staged) := by
  refine .after fun _ => .after fun _ => .after fun _ => .after fun _ => .after fun s => ?_
  split
  · exact .of_plain
  · exact .of_plain
  · refine .after fun _ => .after fun _ => ?_
    exact .bind (fun s h => performAction_ends (Undoes.of_plain s h)) fun ⟨result, finished⟩ => answerAction_undoes cn

theorem executeWindowPointerClick_undoes (r)
    (hasPrecondition : Bool) : Undoes (executeWindowPointerClick env cn r hasPrecondition) := by
  refine .after fun _ => .after fun _ => .after fun _ => .after fun rs => ?_
  cases rs with
  | error k => exact .of_plain
  | ok tr =>
    refine .after fun st => .after fun m => .after fun a => .after fun _ => ?_
    exact executePreparedAction_undoes _ _ _ _

theorem answerKeyboard_undoes {r f} : Undoes (answerKeyboard env cn r f) := by
  refine .after fun s => ?_
  split
  · exact .of_plain
  · exact .of_plain
  · split <;> exact .of_plain
  · exact .bind cleanupAfter_undoes fun _ => .of_plain

theorem Clear.keyboardStarted (h : Clear s) : Clear (s.addEntry (.mark .keyboardStarted)) := by
  have hn : pendingRestore s.trace = .none := h.pending.symm.trans h.none
  have hp : pendingRestore (s.trace ++ [.mark .keyboardStarted]) = pendingRestore s.trace := by
    rw [pendingRestore_snoc]
  exact ⟨⟨h.inOrder.append_singleton hn, h.pending.trans hp.symm⟩, h.none⟩

/-- With nothing to restore, a keyboard action starts from a clear engine. -/
theorem executeKeyboard_undoes {action hasPrecondition} : Undoes (executeKeyboard env cn action hasPrecondition) := by
  refine .after fun _ => .after fun _ => .after fun _ s h => ends_read_bind.mpr ?_
  split
  · exact Undoes.of_plain s h
  rename_i hs
  have hc : Clear s := ⟨h.toTracked, by simp_all⟩
  refine hc.ends.seq fun _ s₁ hs₁ => ?_
  refine hs₁.ends.seq fun _ s₂ hs₂ => ends_update_bind.mpr ?_
  have hr := Ends.mono (x := runKeyboardAction env action cn.deadline)
    (runKeyboardAction_ends hs₂.keyboardStarted) (fun _ _ h => h.undone)
    (fun _ _ h => h) fun _ h => h
  refine (performAction_ends hr).seq ?_
  exact fun ⟨result, finished⟩ s₃ hs₃ => answerKeyboard_undoes cn s₃ hs₃

theorem executeOperation_undoes {o hasPrecondition} :
    Undoes (executeOperationWithPrecondition env cn o hasPrecondition) := by
  cases o with
  | pointer a | pointerScroll a => exact executePreparedAction_undoes _ _ _ _
  | pointerMove r | pointerMoveRelative r | pointerClick r =>
    exact .after fun _ => .after fun _ => executePreparedAction_undoes _ _ _ _
  | pointerDrag r => exact .after fun _ => .after fun _ => .after fun _ => executePreparedAction_undoes _ _ _ _
  | windowPointerClick r => exact executeWindowPointerClick_undoes _ _ _
  | keyboard a => exact executeKeyboard_undoes _

end

instance {kind} : Plain (failActor kind : EngineM InputFailure α) := by
  dsimp only [failActor]
  infer_instance

instance : Plain (probeModel env) := by
  dsimp only [probeModel]
  infer_instance

instance : Plain (probe env) := by
  dsimp only [probe]
  infer_instance

/-! ## After an unwinding -/

/-- Even a call that unwinds keeps to the order, and an engine that is undone
stays so. -/
def kept : Frame InputEngine where
  rel s s' := (Tracked s → Tracked s') ∧ (Undone s → Undone s')
  refl _ := ⟨id, id⟩
  trans h h' := ⟨h'.1 ∘ h.1, h'.2 ∘ h.2⟩

theorem kept_of_plain {x : EngineM ε α} [h : Plain x] : Keeps kept x := by
  intro s
  have hs := steady_of_plain (h.keeps s)
  exact ⟨fun ht => ht.unmapped hs.1, fun hu => hu.steady hs⟩

instance : Plain (sendEvent env ev : EngineM ε _) := ask_plain fun _ => rfl

instance : Plain (sendAll env en ac ao : EngineM ε _) := by
  induction en generalizing ac ao <;> dsimp only [sendAll] <;> infer_instance

instance : Plain (emergencyRelease env e : EngineM ε _) := by
  dsimp only [emergencyRelease]
  infer_instance

instance : Plain (update (reconcileButtons o) : EngineM ε Unit) :=
  update_plain fun _ => made_one (c := .reconciled o) rfl

instance : Plain (emergencyReleaseButtons env : EngineM ε _) := by
  dsimp only [emergencyReleaseButtons]
  infer_instance

instance : Plain (emergencyReleaseKeys env m : EngineM ε _) := by
  dsimp only [emergencyReleaseKeys]
  infer_instance

/-- A stage always returns. -/
theorem stage_ends {F : Frame InputEngine} {x : EngineM Empty Bool} (h : Keeps F x) :
    Ends (stage x : EngineM ε Bool) s (fun _ s' => F.rel s s') (fun _ _ => False) fun _ => False := by
  have hs := h s
  rcases hr : x.run s with ⟨a | e | _, s'⟩ <;> simp only [hr] at hs
  · simp only [stage, Ends, bind_run, catchUnwind, hr]
    exact hs
  · exact e.elim
  · simp only [stage, Ends, bind_run, catchUnwind, hr]
    exact hs

theorem emergencyRestore_kept : Keeps (ε := ε) kept (emergencyRestore env) := by
  refine .bind (.attempt fun s => ?_) fun result => ?_
  · have he (hs : Tracked s) : Ends (restorePendingKeyboardMapping env {}) s _ _ _ := restorePending_ends hs
    rcases hr : (restorePendingKeyboardMapping env {}).run s with ⟨a | e | _, s'⟩ <;>
      simp only [Ends, hr] at he ⊢
    · exact ⟨fun h => (he h).1.toTracked, fun h => (he h.toTracked).1.undone⟩
    · exact ⟨fun h => (he h).1, fun h => undone_of_not_healthy (he h.toTracked).1 (he h.toTracked).2⟩
    · refine ⟨fun h => (he h).toTracked, fun h => ⟨(he h.toTracked).toTracked, fun hh => ?_⟩⟩
      obtain ⟨-, hk, hst⟩ := he h.toTracked
      exact hk.trans (h.healthy (hst ▸ hh))
  · cases result <;> exact .pure _

theorem emergencyCleanup_ends : Ends (emergencyCleanupAfterPanic env : EngineM ε Bool) s (fun _ => kept.rel s)
    (fun _ _ => False) fun _ => False := by
  unfold emergencyCleanupAfterPanic
  refine (stage_ends kept_of_plain).seq fun _ s₁ hs₁ => ?_
  refine (stage_ends kept_of_plain).seq fun _ s₂ hs₂ => ?_
  refine (stage_ends kept_of_plain).seq fun _ s₃ hs₃ => ?_
  refine (stage_ends emergencyRestore_kept).seq fun _ s₄ hs₄ => ?_
  exact kept.trans hs₁ (kept.trans hs₂ (kept.trans hs₃ hs₄))

theorem guarded_undone {x : EngineM φ α} (hx : Undoes x) (h : Undone s) :
    Undone (guarded env (x.run s).1 (x.run s).2) := by
  have hs := hx s h
  have hc (s₁) : Ends (emergencyCleanupAfterPanic env : EngineM Empty Bool) s₁ _ _ _ := emergencyCleanup_ends
  rcases hr : x.run s with ⟨_ | _ | _, s₁⟩ <;> simp only [Ends, hr] at hs <;> dsimp only [guarded] <;>
    specialize hc s₁ <;> rcases he : (emergencyCleanupAfterPanic env : EngineM Empty Bool).run s₁ with
      ⟨_ | _ | _, s₂⟩ <;> simp only [Ends, he] at hc
  · split
    · exact hc.2 hs
    · exact hs
  · split
    · exact hc.2 hs
    · exact hs
  · simp only [bind_run, he]
    have ht := hc.1 hs
    exact undone_of_not_healthy ⟨ht.inOrder, ht.pending⟩ (terminal_not_healthy rfl s₂.state)

theorem control_undoes {kind} : Undoes (control env kind) := by
  cases kind with
  | probe => exact .after fun _ => .of_plain
  | reset | shutdown => exact .bind resetOwnedInput_undoes fun _ => .of_plain

theorem step_undone (h : Undone s) {cl} : Undone (step env s cl).2 := by
  cases cl with
  | operation c => exact guarded_undone (executeOperation_undoes _) h
  | control => exact guarded_undone control_undoes h

theorem Started.undone (engine : Started) : Undone engine.1 := by
  obtain ⟨engine, startup, preflights, h⟩ := engine
  cases startup with
  | error | unwound => cases h
  | ok startup =>
    dsimp only [newWithKeyboard] at h
    split at h <;> cases h
    exact ⟨⟨justified_nil, rfl⟩, fun _ => rfl⟩

theorem run_undone {c} (engine : Started) : Undone (final (step env) engine.1 c) :=
  final_induction engine.undone (fun _ _ h => step_undone h) c

/-- Temporary keyboard mappings are undone, whatever the connections and the
keyboard model do. The trace of every run has these properties: a row is
written only for the one keycode whose original is kept; an original is kept
only when it was read blank and no other is kept; it is dropped only when it
was written back, read back equal and the model synchronized; no keyboard
action starts while one is kept. An engine that is healthy keeps none, and
each keycode it wrote was last written with its original and read back. -/
theorem temporary_mappings_undone (env : Environment) (engine : Started) (calls : List Call) :
    let s := final (step env) engine.1 calls
    s.pendingKeyboardRestore = pendingRestore s.trace ∧
    (∀ t₁ t₂ key row a, s.trace = t₁ ++ .writeKeyboardMapping key row a :: t₂ →
      ∃ og, pendingRestore t₁ = some ⟨key, og⟩ ∧ ∃ t₃ t₄,
        t₁ = t₃ ++ .mark (.restoreStored key og) :: t₄ ∧ pendingRestore t₃ = none ∧
        ReadBlank t₃ key og) ∧
    (∀ t₁ t₂ key, s.trace = t₁ ++ .mark (.restoreDropped key) :: t₂ →
      ∃ og, pendingRestore t₁ = some ⟨key, og⟩ ∧ WrittenBack t₁ key og) ∧
    (∀ t₁ t₂, s.trace = t₁ ++ .mark .keyboardStarted :: t₂ → pendingRestore t₁ = none) ∧
    (s.state.health = .healthy → s.pendingKeyboardRestore = none ∧
      ∀ key, Written s.trace key → LastWrittenBack s.trace key) := by
  intro s
  have hs : Undone s := run_undone engine
  refine ⟨hs.pending, ?_, ?_, ?_, ?_⟩
  · intro t₁ t₂ key row a ht
    obtain ⟨og, hp⟩ := hs.inOrder _ _ _ ht
    have hb : Restorations t₁ := (ht ▸ hs.inOrder).of_append
    obtain ⟨t₃, t₄, hst, hr⟩ := hb.stored hp
    exact ⟨og, hp, t₃, t₄, hst, (hb _ _ _ hst).1, hr⟩
  · intro t₁ t₂ key ht
    exact hs.inOrder _ _ _ ht
  · intro t₁ t₂ ht
    exact hs.inOrder _ _ _ ht
  · intro hh
    have hn := hs.healthy hh
    refine ⟨hn, fun key hw => ?_⟩
    obtain ⟨og, hp⟩ | hba := hs.inOrder.written hw
    · rw [← hs.pending, hn] at hp
      cases hp
    · exact hba

end InputEngine

end Xenoteer
