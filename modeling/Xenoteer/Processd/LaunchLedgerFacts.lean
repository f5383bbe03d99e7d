/-
What the operations of the launch ledger keep and remove.
-/
import Mathlib.Data.List.Nodup
import Xenoteer.Processd.LaunchLedger

namespace Xenoteer.Processd

namespace LaunchLedger

variable {l l' : LaunchLedger} {key : LaunchKey} {e : LaunchLedgerEntry}

def keys (ledger : LaunchLedger) : List LaunchKey := ledger.map LaunchLedgerEntry.key

theorem entryOf_eq_none : l.entryOf key = none ↔ key ∉ l.keys := by
  rw [entryOf, List.find?_eq_none, keys, List.mem_map]
  constructor
  · rintro h ⟨e, he, rfl⟩
    exact h e he (by simp)
  · intro h e he hk
    exact h ⟨e, he, by simpa using hk⟩

theorem mem_of_entryOf (h : l.entryOf key = some e) : e ∈ l ∧ e.key = key :=
  ⟨List.mem_of_find?_eq_some h, by simpa using List.find?_some h⟩

theorem eq_of_key_eq (hn : l.keys.Nodup) {o} (he : e ∈ l) (ho : o ∈ l) (hk : e.key = o.key) : e = o :=
  List.inj_on_of_nodup_map hn he ho hk

/-- Where keys are unique, the entry of a key is the one with that key. -/
theorem entryOf_eq_some (hn : l.keys.Nodup) : l.entryOf key = some e ↔ e ∈ l ∧ e.key = key := by
  constructor
  · exact mem_of_entryOf
  rintro ⟨he, rfl⟩
  cases hf : l.entryOf e.key with
  | none => exact absurd (List.mem_map_of_mem he) (entryOf_eq_none.1 hf)
  | some o =>
    obtain ⟨ho, hk⟩ := mem_of_entryOf hf
    rw [eq_of_key_eq hn ho he hk]

theorem keys_append : (l ++ l').keys = l.keys ++ l'.keys := by simp [keys]

theorem remove_sublist : (l.remove key).Sublist l := List.filter_sublist

theorem mem_remove : e ∈ l.remove key ↔ e ∈ l ∧ e.key ≠ key := by
  simp [remove, List.mem_filter]

theorem mem_successes {p} : (key, p) ∈ l.successes ↔ ∃ e ∈ l, e.key = key ∧ e.outcome = .process p := by
  rw [successes, List.mem_filterMap]
  constructor
  · rintro ⟨⟨key', op, o⟩, he, h⟩
    cases o with
    | rejected c => cases h
    | process p' => cases h; exact ⟨_, he, rfl, rfl⟩
  · rintro ⟨⟨key', op, o⟩, he, rfl, ho⟩
    refine ⟨_, he, ?_⟩
    simp only at ho
    simp [LaunchLedgerEntry.success?, ho]

theorem rejections_append : LaunchLedger.rejections (l ++ l') = l.rejections + l'.rejections := by
  simp [rejections]

/-! ## Making room -/

/-- The entry is the oldest rejection. -/
def IsOldest (ledger : LaunchLedger) (entry : LaunchLedgerEntry) : Prop :=
  ledger.find? (fun entry => entry.outcome.isRejected) = some entry

theorem dropOldest_sublist {l} : (dropOldest l).Sublist l := by
  induction l with
  | nil => exact List.Sublist.refl _
  | cons head rest ih =>
    rw [dropOldest]
    split
    · exact List.sublist_cons_self _ _
    · exact ih.cons_cons head

theorem dropOldest_rejections (l) (h : 0 < l.rejections) : (dropOldest l).rejections + 1 = l.rejections := by
  induction l with
  | nil => simp [rejections] at h
  | cons head rest ih =>
    rw [dropOldest]
    split
    next hr => simp [rejections, hr]
    next hk =>
      simp only [rejections, List.countP_cons, hk, Bool.false_eq_true, if_false] at h ih ⊢
      exact ih h

theorem isOldest_of_dropped (hm : e ∈ l) (hg : e ∉ dropOldest l) : IsOldest l e := by
  induction l with
  | nil => cases hm
  | cons head rest ih =>
    rw [dropOldest] at hg
    split at hg
    next hre =>
      obtain rfl | hr := List.mem_cons.1 hm
      · simp [IsOldest, hre]
      · exact absurd hr hg
    next hk =>
      obtain rfl | hr := List.mem_cons.1 hm
      · exact absurd List.mem_cons_self hg
      · have h := ih hr fun hin => hg (List.mem_cons_of_mem _ hin)
        simpa [IsOldest, List.find?_cons, hk] using h

/-- With at most the capacity of rejections, room is made by dropping the
oldest, or not at all. -/
theorem makeRoom_of_le {c} (hp : 0 < c) (h : l.rejections ≤ c) :
    makeRoom c l.rejections l = if l.rejections = c then dropOldest l else l := by
  by_cases heq : l.rejections = c
  · obtain ⟨t, ht⟩ : ∃ t, c = t + 1 := ⟨c - 1, by omega⟩
    have hd := dropOldest_rejections l (by omega)
    rw [if_pos heq, heq, ht, makeRoom, if_pos (by omega)]
    cases t with
    | zero => rfl
    | succ t => rw [makeRoom, if_neg (by omega)]
  · rw [if_neg heq]
    cases hc : l.rejections with
    | zero => rfl
    | succ t => rw [makeRoom, if_neg (by omega)]

end LaunchLedger

end Xenoteer.Processd
