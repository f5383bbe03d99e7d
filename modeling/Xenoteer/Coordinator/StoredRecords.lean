/-
What the terminal records of the actor can hold. `T` is any property of
terminal results that the stops the actor stores itself have, and that the
results of its executions have; then every record the actor keeps or hands
out has it (`records_final`).
-/
import Xenoteer.Coordinator.RuntimeEffects

namespace Xenoteer

variable {C R E : Type}

namespace CommandLedger

variable {T : R → Prop} {l l' : CommandLedger R} {now : MonotonicMillis}

def Holds (T : R → Prop) (l : CommandLedger R) : Prop :=
  ∀ (k : CommandKey) (stored), l.records[k]? = some stored → stored.record.Holds T

theorem Holds.refreshed (h : l.Holds T) (hl : l.Refreshed l' now) : l'.Holds T := by
  intro k st' hk
  obtain ⟨st, hk, hr⟩ := hl.back hk
  rw [hr]
  exact h k st hk

theorem Holds.put {key st} (h : l.Holds T) (hs : st.record.Holds T) : (l.put key st).Holds T := by
  intro k st' hk
  obtain ⟨-, rfl⟩ | ⟨-, hk⟩ := Lib.TreeMapKeys.insert_cases hk
  · exact hs
  · exact h k st' hk

end CommandLedger

namespace CoordinatorTask

open Lib.TreeMapKeys Lib.Run

variable {T : CommandTerminal R → Prop} {s s' : CoordinatorTask C R E} {key : ActiveKey}
  {o : Option (ExecutionOutcome R)}

/-- Every record the actor keeps or sends has the property. -/
structure Records (T : CommandTerminal R → Prop) (s : CoordinatorTask C R E) : Prop where
  ledger : s.ledger.Holds T
  active : ∀ {key : ActiveKey} {active}, s.active[key]? = some active →
    active.record.Holds T ∧ active.updates.Holds T
  sent : ∀ x ∈ s.outbox, ∀ record ∈ x.records, record.Holds T

/-- The records that a step changes; those of active commands are unfinished. -/
structure Keeps (T : CommandTerminal R → Prop) (s : CoordinatorTask C R E) : Prop where
  ledger : s.ledger.Holds T
  sent : ∀ x ∈ s.outbox, x.Tells T

theorem Keeps.records (hc : Coupled s) (h : Keeps T s) : Records T s where
  __ := h
  active hk := by
    rw [(hc.active hk).updates]
    exact ⟨.of_open (hc.active hk).open, .of_open (hc.active hk).open⟩

theorem tells_append {sn out : List (Sent C R E)} (h : ∀ x ∈ sn, x.Tells T) (ho : ∀ x ∈ out, x.Tells T) :
    ∀ x ∈ sn ++ out, x.Tells T := by
  intro x hx
  obtain hx | hx := List.mem_append.mp hx
  · exact h x hx
  · exact ho x hx

/-! ## Each effect keeps the property -/

theorem Finishes.holds {l t} (h : Finishes s key t l) (hT : T t) (hs : s.ledger.Holds T) : l.Holds T := by
  cases h with
  | current => exact CommandLedger.Holds.put hs (.of_terminal rfl hT)
  | retired => exact hs

theorem Move.keeps (h : Move o s s') (hT : ∀ t, Ends o t → T t) (hs : Keeps T s) : Keeps T s' := by
  cases h with
  | sent ho =>
    refine { hs with sent := tells_append hs.sent fun x hx => ?_ }
    obtain ⟨_, rfl⟩ := ho x hx
    exact fun _ hr => (nomatch hr)
  | ledger h => exact { hs with ledger := hs.ledger.refreshed h }
  | finished r _ _ h he ht | joined r _ _ h he ht =>
    have hre : r.Holds T := .of_terminal ht (hT _ he)
    exact ⟨h.holds (hT _ he) hs.ledger, tells_append hs.sent (by simpa using Sent.tells_update hre)⟩
  | resetSpawned => exact { hs with sent := tells_append hs.sent (by simp [Sent.Tells, Sent.records]) }
  | _ => exact { hs with }

theorem Begins.keeps (h : Begins s key s') (hs : Keeps T s) : Keeps T s' := by
  cases h with | @mk rest st c a =>
  have hr : (st.begun s.latest).record.Holds T := .of_open rfl
  refine ⟨CommandLedger.Holds.put hs.ledger hr, tells_append hs.sent ?_⟩
  simpa [Sent.Tells, Sent.records] using hr

theorem Admits.keeps {a} (h : Admits s a s') (hs : Keeps T s) : Keeps T s' := by
  cases h with | mk d _ _ _ _ ha =>
  obtain ⟨-, -, -, b, hb, -, rfl⟩ := admitted_refreshed ha
  exact { hs with ledger := (hs.ledger.refreshed hb).put (.of_open rfl) }

theorem Rotated.keeps (h : Rotated s s') (hT : ∀ t, Ends none t → T t) (hs : Keeps T s) : Keeps T s' := by
  obtain ⟨out, ho, -, ht⟩ := h.outbox
  refine ⟨fun k st hk => by simp [h.records] at hk, ?_⟩
  rw [ho]
  exact tells_append hs.sent fun x hx r hr rs hre => hT _ (ht x hx r hr rs hre)

/-- Every stop without a retained result has the property. -/
def Stops (T : CommandTerminal R → Prop) : Prop :=
  ∀ cause effect, cause ≠ .returned → T (.stopped cause effect)

/-- The result an execution hands the actor in this step has the property,
whatever stop was requested. -/
def Step.Executes (T : CommandTerminal R → Prop) : Step C R E → Prop
  | .select (.completion _ (.executed outcome)) => ∀ stop, T (terminalOf stop (some outcome))
  | _ => True

theorem Stops.ends (hT : Stops T) {a : Step C R E} (ha : a.Executes T) : ∀ t, Ends a.outcome t → T t := by
  intro t h
  cases h with
  | stopped hc => exact hT _ _ hc
  | @returned ot st ho =>
    unfold Step.outcome at ho
    split at ho
    · cases ho
      exact ha st
    · cases ho

theorem Effect.keepsRecords {a : Step C R E} {replies} (hc : Coupled s) (h : Effect s a replies s')
    (hT : Stops T) (ha : a.Executes T) (hs : Keeps T s) : Keeps T (s'.answered replies) := by
  have hs' : Keeps T s' := h.keeps hc (fun _ hm ht => hm.keeps (hT.ends ha) ht) (fun _ _ _ had ht => had.keeps ht)
    (fun hr ht => hr.keeps (hT.ends (a := .drive (C := C) (E := E)) trivial) ht) (fun hb ht => hb.keeps ht)
    (fun _ _ _ ht => { ht with }) hs
  refine { hs' with sent := tells_append hs'.sent fun x hx => ?_ }
  obtain ⟨r, hr, rfl⟩ := List.mem_map.mp hx
  cases h with
  | quiet _ _ hkn =>
    -- a terminal record in a reply is one of the ledger
    intro rc hre rs hrs
    obtain ⟨k, st, hk, rfl⟩ := hkn r hr rc hre (by rw [hrs]; rfl)
    exact hs'.ledger k st hk rs hrs
  | admitted _ _ _ _ ho =>
    cases List.mem_singleton.mp hr
    have hre := CommandRecord.Holds.of_open (T := T) ho
    simpa [Sent.Tells, Sent.records, Reply.records] using hre
  | rotated =>
    cases List.mem_singleton.mp hr
    intro _ hr
    cases hr
  | begun | unwound | resetJoined => cases hr

/-! ## Runs -/

theorem keeps_spawn {st eventMapper clock} (h : spawn st eventMapper clock = .ok s) : Keeps T s := by
  rw [spawn_eq] at h
  cases h
  exact ⟨fun k sr hk => by simp [initial] at hk, fun x hx => by simp [initial] at hx⟩

/-- Every record the actor ever kept or sent has the property, when every
execution's result has it. -/
theorem records_final {sn eventMapper clock} (hT : Stops T) (h : spawn sn eventMapper clock = .ok s) {st}
    (hex : ∀ a ∈ st, a.Executes T) : Records T (final step s st) ∧
      ∀ e ∈ answers step s st, ∀ x ∈ e.2, ∀ r ∈ x.records, r.Holds T := by
  have hr := run_induction_along
    (P := fun t log => Coupled t ∧ Keeps T t ∧ ∀ e ∈ log, ∀ x ∈ e.2, x.Tells T)
    ⟨coupled_spawn h, keeps_spawn h, by simp⟩ ?_ st (along_of_forall step hex s)
  · exact ⟨hr.2.1.records hr.1, hr.2.2⟩
  intro t log a ⟨hc, ht, hl⟩ ha
  obtain ⟨rp, s', hef, heq⟩ := step_effect hc a
  have hc' : Coupled { t with outbox := [] } := { hc with }
  have hn := hef.keepsRecords hc' hT ha ⟨ht.ledger, by simp⟩
  refine ⟨hc.step a, by rw [heq]; exact hn, fun e he => ?_⟩
  obtain he | he := List.mem_append.mp he
  · exact hl e he
  · cases List.mem_singleton.mp he
    rw [heq]
    exact hn.sent

end CoordinatorTask

end Xenoteer
