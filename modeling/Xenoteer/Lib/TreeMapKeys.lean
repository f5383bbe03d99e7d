/-
Lookups in a `Std.TreeMap` over a lawful order by equality of keys, the order of
its values, and how many keys with a property an update leaves.
-/
import Mathlib.Data.List.Perm.Subperm
import Std.Data.TreeMap.Lemmas

namespace Lib.TreeMapKeys

variable {α β : Type*} {cmp : α → α → Ordering} [Std.TransCmp cmp]
  {m : Std.TreeMap α β cmp} {k a : α} {v : β}

variable {m' : Std.TreeMap α β cmp}

/-- Fewer keys, fewer with the property. -/
theorem countP_keys_le {p} (h : m'.keys ⊆ m.keys) : m'.keys.countP p ≤ m.keys.countP p :=
  (Std.TreeMap.nodup_keys.subperm h).countP_le p

theorem size_le (h : m'.keys ⊆ m.keys) : m'.size ≤ m.size := by
  rw [← Std.TreeMap.length_keys, ← Std.TreeMap.length_keys]
  exact (Std.TreeMap.nodup_keys.subperm h).length_le

variable [Std.LawfulEqCmp cmp]

theorem mem_keys_iff : k ∈ m.keys ↔ ∃ v, m[k]? = some v := by
  rw [Std.TreeMap.mem_keys, Std.TreeMap.mem_iff_isSome_getElem?, Option.isSome_iff_exists]

/-- No more keys when every lookup that answers answered before. -/
theorem size_le_of_getElem?
    (h : ∀ (k : α) (v : β), m'[k]? = some v → ∃ w, m[k]? = some w) : m'.size ≤ m.size := by
  refine size_le ?_
  intro k hk
  obtain ⟨v, hv⟩ := mem_keys_iff.mp hk
  exact mem_keys_iff.mpr (h k v hv)

/-- Values that know their keys are in the order of the keys. -/
theorem pairwise_values {f : β → α} (h : ∀ k v, m[k]? = some v → f v = k) :
    (m.toList.map Prod.snd).Pairwise fun v w => cmp (f v) (f w) = .lt := by
  have hk {e} (he : e ∈ m.toList) : f e.2 = e.1 := h _ _ (Std.TreeMap.mem_toList_iff_getElem?_eq_some.mp he)
  refine List.pairwise_map.mpr (Std.TreeMap.ordered_keys_toList.imp_of_mem fun ha hb hlt => ?_)
  rwa [hk ha, hk hb]

variable [DecidableEq α]

theorem getElem?_insert_eq : (m.insert k v)[a]? = if k = a then some v else m[a]? := by
  simp [Std.TreeMap.getElem?_insert, Std.LawfulEqCmp.compare_eq_iff_eq]

theorem getElem?_erase_eq : (m.erase k)[a]? = if k = a then none else m[a]? := by
  simp [Std.TreeMap.getElem?_erase, Std.LawfulEqCmp.compare_eq_iff_eq]

theorem insert_cases {w} (h : (m.insert k v)[a]? = some w) : a = k ∧ w = v ∨ a ≠ k ∧ m[a]? = some w := by
  rw [getElem?_insert_eq] at h
  split at h
  next heq => cases h; exact .inl ⟨heq.symm, rfl⟩
  next hne => exact .inr ⟨Ne.symm hne, h⟩

theorem erase_cases {w} (h : (m.erase k)[a]? = some w) : a ≠ k ∧ m[a]? = some w := by
  rw [getElem?_erase_eq] at h
  split at h
  · cases h
  next hne => exact ⟨Ne.symm hne, h⟩

theorem getElem?_erase_ne (h : a ≠ k) : (m.erase k)[a]? = m[a]? := by
  rw [getElem?_erase_eq, if_neg (Ne.symm h)]

theorem getElem?_insert_ne (h : a ≠ k) : (m.insert k v)[a]? = m[a]? := by
  rw [getElem?_insert_eq, if_neg (Ne.symm h)]

theorem keys_erase_subset : (m.erase k).keys ⊆ m.keys := by
  intro a ha
  rw [mem_keys_iff] at ha ⊢
  obtain ⟨v, hv⟩ := ha
  exact ⟨v, (erase_cases hv).2⟩

theorem keys_insert_subset {v'} (h : m[k]? = some v') : (m.insert k v).keys ⊆ m.keys := by
  intro a ha
  rw [mem_keys_iff] at ha ⊢
  obtain ⟨w, hw⟩ := ha
  obtain ⟨rfl, -⟩ | ⟨-, hw⟩ := insert_cases hw
  · exact ⟨v', h⟩
  · exact ⟨w, hw⟩

/-- One more key, at most one more with the property. -/
theorem countP_keys_insert_le {p} :
    (m.insert k v).keys.countP p ≤ m.keys.countP p + if p k then 1 else 0 := by
  have hs : (m.insert k v).keys ⊆ k :: m.keys := by
    intro a ha
    rw [mem_keys_iff] at ha
    obtain ⟨w, hw⟩ := ha
    obtain ⟨rfl, -⟩ | ⟨-, hw⟩ := insert_cases hw
    · exact List.mem_cons_self
    · exact List.mem_cons_of_mem _ (mem_keys_iff.mpr ⟨w, hw⟩)
  have hle := (Std.TreeMap.nodup_keys.subperm hs).countP_le p
  rwa [List.countP_cons] at hle

section Set

variable {s : Std.TreeSet α cmp}

theorem contains_insert_eq : (s.insert k).contains a = (decide (k = a) || s.contains a) := by
  rw [Std.TreeSet.contains_insert]
  by_cases h : k = a <;> simp [h]

theorem contains_erase_eq : (s.erase k).contains a = (decide (k ≠ a) && s.contains a) := by
  rw [Std.TreeSet.contains_erase]
  by_cases h : k = a <;> simp [h]

end Set

end Lib.TreeMapKeys
