/-
What the manager knows of the processes it launched: every turn keeps a
subset of the references it has, except that a launch adds one, and a status
is refused as unknown only for a process of which it has no record.
-/
import Xenoteer.Processd.Manager

namespace Xenoteer.Processd

namespace Manager

/-- The references of the processes that run and of those in the history. -/
def refs (m : Manager) : List ProcessRef :=
  m.running.map ManagedProcess.process ++ m.exited.map fun event => event.exit.process

variable {l : ProcessManagerLimits} {turn : Turn} {m : Manager} {pr : ProcessRef}

theorem mem_refs : pr ∈ m.refs ↔ (∃ p ∈ m.running, p.process = pr) ∨ ∃ e ∈ m.exited, e.exit.process = pr := by
  simp [refs]

theorem evict_subset (c : Nat) (e) (d : Nat) : (evict c e d).1 ⊆ e := by
  induction e generalizing d with
  | nil => exact List.Subset.refl _
  | cons ev rest ih =>
    rw [evict]
    split
    · exact List.subset_cons_of_subset _ (ih _)
    · exact List.Subset.refl _

theorem forget_refs_subset {li} : (m.forget li).refs ⊆ m.refs := by
  intro q hq
  rw [mem_refs] at hq ⊢
  obtain ⟨p, hp, rfl⟩ | h := hq
  · exact .inl ⟨p, (List.mem_filter.1 hp).1, rfl⟩
  · exact .inr h

theorem recordExit_refs {exit} : (m.recordExit l exit).2.refs ⊆ exit.process :: m.refs := by
  intro q hq
  unfold recordExit at hq
  split at hq
  · rw [mem_refs] at hq
    obtain h | ⟨event, he, rfl⟩ := hq
    · exact List.mem_cons_of_mem _ (mem_refs.2 (.inl h))
    obtain h | h := List.mem_append.1 (evict_subset _ _ _ he)
    · exact List.mem_cons_of_mem _ (mem_refs.2 (.inr ⟨event, h, rfl⟩))
    · rw [List.mem_singleton.1 h]
      exact List.mem_cons_self
  · exact List.mem_cons_of_mem _ hq

@[simp] theorem recordExit_generation {exit} : (m.recordExit l exit).2.generation = m.generation := by
  unfold recordExit
  split <;> rfl

theorem collectEach_spec {f} : (collectEach l f m).2.refs ⊆ f.map (fun p => p.1.process) ++ m.refs ∧
    (collectEach l f m).2.generation = m.generation := by
  induction f generalizing m with
  | nil => simp [collectEach]
  | cons head rest ih =>
    obtain ⟨p, rs⟩ := head
    have hf : (m.forget p.process.launchId).refs ⊆
        ((p, rs) :: rest).map (fun p => p.1.process) ++ m.refs :=
      List.subset_append_of_subset_right _ forget_refs_subset
    cases rs with
    | error e => exact ⟨hf, rfl⟩
    | ok r =>
      have hr : ((m.forget p.process.launchId).recordExit l (p.exitOf r)).2.refs ⊆
          ((p, .ok r) :: rest).map (fun p => p.1.process) ++ m.refs := by
        refine List.Subset.trans recordExit_refs (List.cons_subset.2 ⟨?_, hf⟩)
        simp [ManagedProcess.exitOf]
      rw [collectEach]
      split
      next e m' heq =>
        rw [← show _ = m' from congrArg Prod.snd heq]
        exact ⟨hr, recordExit_generation⟩
      next m' heq =>
        rw [← show _ = m' from congrArg Prod.snd heq]
        refine ⟨List.Subset.trans ih.1 (List.append_subset.2 ⟨?_, hr⟩), ih.2.trans recordExit_generation⟩
        intro q hq
        exact List.mem_append_left _ (List.mem_cons_of_mem _ hq)

theorem finishedProcesses_refs : (m.finishedProcesses turn).map (fun p => p.1.process) ⊆ m.refs := by
  intro q hq
  obtain ⟨⟨p, r⟩, hp, rfl⟩ := List.mem_map.1 hq
  rw [finishedProcesses, List.mem_insertionSort] at hp
  obtain ⟨p', hp', heq⟩ := List.mem_filterMap.1 hp
  obtain ⟨r', -, heq⟩ := Option.map_eq_some_iff.1 heq
  cases heq
  exact mem_refs.2 (.inl ⟨p, hp', rfl⟩)

theorem collectFinished_refs : (m.collectFinished l turn).2.refs ⊆ m.refs := by
  refine List.Subset.trans collectEach_spec.1 (List.append_subset.2 ⟨finishedProcesses_refs, ?_⟩)
  exact List.Subset.refl _

/-- The joins of `shutdown_all` record exits of processes that ran. -/
theorem shutdownAll_spec : (m.shutdownAll l turn).refs ⊆ m.refs ∧
    (m.shutdownAll l turn).generation = m.generation := by
  have hf : ∀ {f : Manager → ManagedProcess → Manager},
      (∀ m p, f m p = m ∨ ∃ rp, f m p = (m.recordExit l (p.exitOf rp)).2) →
      ∀ (r : List ManagedProcess) (s : Manager), r.map ManagedProcess.process ⊆ m.refs →
      s.refs ⊆ m.refs → s.generation = m.generation →
      (r.foldl f s).refs ⊆ m.refs ∧ (r.foldl f s).generation = m.generation := by
    intro f hf r
    induction r with
    | nil => intro s _ hr hg; exact ⟨hr, hg⟩
    | cons p rest ih =>
      intro s hru hr hg
      rw [List.map_cons, List.cons_subset] at hru
      rw [List.foldl_cons]
      rcases hf s p with he | ⟨rp, he⟩ <;> rw [he]
      · exact ih _ hru.2 hr hg
      · refine ih _ hru.2 (List.Subset.trans recordExit_refs (List.cons_subset.2 ⟨hru.1, hr⟩)) ?_
        rw [recordExit_generation, hg]
  refine hf (fun s p => ?_) _ _ ?_ ?_ rfl
  · split
    · exact .inr ⟨_, rfl⟩
    · exact .inl rfl
  · intro q hq
    obtain ⟨p, hp, rfl⟩ := List.mem_map.1 hq
    exact mem_refs.2 (.inl ⟨p, (List.mem_insertionSort _).1 hp, rfl⟩)
  · intro q hq
    obtain h | h := mem_refs.1 hq
    · obtain ⟨p, hp, -⟩ := h
      cases hp
    · exact mem_refs.2 (.inr h)

theorem collect_refs : (m.collect l turn).refs ⊆ m.refs := by
  unfold collect
  split
  · exact List.Subset.refl _
  have hc : (m.collectFinished l turn).2.refs ⊆ m.refs := collectFinished_refs
  split
  next m' heq => rw [heq] at hc; exact hc
  next m' heq => rw [heq] at hc; exact List.Subset.trans shutdownAll_spec.1 hc

@[simp] theorem collect_generation : (m.collect l turn).generation = m.generation := by
  unfold collect
  split
  · rfl
  have hc : (m.collectFinished l turn).2.generation = m.generation := collectEach_spec.2
  split
  next m' heq => rw [heq] at hc; exact hc
  next m' heq => rw [heq] at hc; rw [shutdownAll_spec.2, hc]

theorem map_running_refs {f} (hf : ∀ p, (f p).process = p.process) :
    ({ m with running := m.running.map f } : Manager).refs ⊆ m.refs := by
  simp [refs, Function.comp_def, hf]

theorem finish_refs {li r} : (m.finish li r).refs ⊆ m.refs :=
  map_running_refs fun p => by split <;> rfl

theorem requestTermination_refs : (m.requestTermination pr).refs ⊆ m.refs :=
  map_running_refs fun p => by split <;> rfl

/-- A status is refused as unknown for a process without a record. -/
theorem not_mem_refs_of_status (h : m.status pr = .error .processNotManaged) : pr ∉ m.refs := by
  unfold status at h
  split at h
  · cases h
  split at h
  · split at h
    · cases h
    · split at h <;> cases h
  rename_i hr
  split at h
  · split at h <;> cases h
  rename_i he
  rw [mem_refs]
  rintro (⟨p, hp, rfl⟩ | ⟨e, hev, rfl⟩)
  · exact absurd (List.find?_eq_none.1 hr p hp) (by simp)
  · exact absurd (List.find?_eq_none.1 he e hev) (by simp)

/-- A process whose launch identifier no other one has is known or unknown. -/
theorem status_cases (hg : pr.desktopGeneration = m.generation)
    (hn : ∀ q ∈ m.refs, q.launchId = pr.launchId → q = pr) :
    (∃ status, m.status pr = .ok status) ∨ m.status pr = .error .processNotManaged := by
  unfold status
  rw [if_neg (not_not.2 hg)]
  split
  next p hp =>
    have hm := List.mem_of_find?_eq_some hp
    have hid : p.process.launchId = pr.launchId := by simpa using List.find?_some hp
    have heq := hn p.process (mem_refs.2 (.inl ⟨p, hm, rfl⟩)) hid
    rw [if_neg (not_not.2 heq.symm)]
    split
    · exact .inl ⟨_, rfl⟩
    · exact .inl ⟨_, rfl⟩
  · split
    next event he =>
      have hm := List.mem_of_find?_eq_some he
      have hid : event.exit.process.launchId = pr.launchId := by simpa using List.find?_some he
      have heq := hn event.exit.process (mem_refs.2 (.inr ⟨event, hm, rfl⟩)) hid
      rw [if_neg (not_not.2 heq.symm)]
      exact .inl ⟨_, rfl⟩
    · exact .inr rfl

/-- A launch under a new identifier adds one reference, or nothing. -/
theorem launch_cases {l r site} (hf : ∀ s, site = .ok s → ∀ q ∈ m.refs, q.launchId ≠ s.launchId) :
    (∃ e, m.launch l r site = (.error e, m)) ∨
    ∃ s p, site = .ok s ∧ (m.launch l r site).1 = .ok p ∧ p.launchId = s.launchId ∧
      p.desktopGeneration = m.generation ∧ (m.launch l r site).2.generation = m.generation ∧
      (m.launch l r site).2.refs ⊆ p :: m.refs := by
  unfold launch
  split
  · exact .inl ⟨_, rfl⟩
  split
  · exact .inl ⟨_, rfl⟩
  cases site with
  | error e => exact .inl ⟨_, rfl⟩
  | ok s =>
    have hn : m.find s.launchId = none := by
      rw [find, List.find?_eq_none]
      intro p hp
      simpa using hf s rfl p.process (mem_refs.2 (.inl ⟨p, hp, rfl⟩))
    refine .inr ⟨s, ⟨m.generation, s.pid, s.procStartTicks, s.launchId⟩, rfl, ?_⟩
    simp only [hn, Option.isSome_none, Bool.false_eq_true, if_false, true_and]
    refine ⟨rfl, ?_⟩
    intro q hq
    obtain ⟨p, hp, rfl⟩ | h := mem_refs.1 hq
    · obtain rfl | hp := List.mem_cons.1 hp
      · exact List.mem_cons_self
      · exact List.mem_cons_of_mem _ (mem_refs.2 (.inl ⟨p, (List.mem_filter.1 hp).1, rfl⟩))
    · exact List.mem_cons_of_mem _ (mem_refs.2 (.inr h))

end Manager

end Xenoteer.Processd
