/-
Protected elements leak nothing: two runs of the cache that differ only in
the text content, value and attributes they observe of protected births
answer alike and reach one cache, so every read of it answers alike.

An observation is protected when it says so itself, or when it refreshes a
live birth that was observed as protected before. For the second the cache
keeps `protectedBirths`, which is forgotten with the birth: an observation of
a birth that is no longer live is validated as it came.
-/
import Xenoteer.Accessibility.Fencing

namespace Xenoteer

open Lib.Run Lib.TreeMapKeys Lib.Lifetimes Lib.Trace

/-- The snapshot without text content, value and attributes. -/
def ElementSnapshot.hidden (snapshot : ElementSnapshot) : ElementSnapshot :=
  { snapshot with
    text := snapshot.text.map fun text => { text with content := none }, value := none, attributes := [] }

/-- Nothing that a protected element must not show. -/
structure ElementSnapshot.IsRedacted (snapshot : ElementSnapshot) : Prop where
  value : snapshot.value = none
  attributes : snapshot.attributes = []
  content : ∀ text, snapshot.text = some text → text.content = none

theorem redactProtected_isRedacted (s) : (redactProtected s true).IsRedacted where
  value := rfl
  attributes := rfl
  content := by
    intro t ht
    obtain ⟨o, -, rfl⟩ := Option.map_eq_some_iff.mp ht
    rfl

theorem snapshotDeclaresProtected_hidden (s) :
    snapshotDeclaresProtected s.hidden = snapshotDeclaresProtected s := by
  unfold snapshotDeclaresProtected ElementSnapshot.hidden
  cases s.text <;> rfl

theorem redactProtected_hidden (s : ElementSnapshot) :
    redactProtected s.hidden true = redactProtected s true := by
  unfold redactProtected ElementSnapshot.hidden
  cases s.text <;> rfl

namespace AccessibilityCache

variable {encodedBytes : ElementSnapshot → Option Nat} {c c' : AccessibilityCache} {op : AccessibilityOp}
  {reply : Except AccessibilityModelError AccessibilityReply}

/-! ## One observation -/

theorem treatsAsProtected_hidden (c : AccessibilityCache) (s : ElementSnapshot) :
    c.treatsAsProtected s.hidden = c.treatsAsProtected s := by
  unfold treatsAsProtected
  rw [snapshotDeclaresProtected_hidden]
  rfl

theorem observe_hidden {s} (h : c.treatsAsProtected s = true) :
    c.observe encodedBytes s.hidden = c.observe encodedBytes s := by
  have he : s.hidden.element = s.element := rfl
  unfold observe
  simp only [he, treatsAsProtected_hidden, h, redactProtected_hidden]

/-- What is observed of a protected element beside the hidden part changes
neither the answer nor the cache. -/
theorem observe_eq_of_hidden_eq {a b} (hidden : a.hidden = b.hidden)
    (h : c.treatsAsProtected a = true) : c.observe encodedBytes a = c.observe encodedBytes b := by
  have hb : c.treatsAsProtected b = true :=
    by rw [← treatsAsProtected_hidden, ← hidden, treatsAsProtected_hidden, h]
  rw [← observe_hidden h, hidden, observe_hidden hb]

/-! ## Protection lasts as long as the birth -/

/-- An accepted observation declared the birth protected. -/
def ObservedAsProtected (element : ElementRef)
    (log : List (AccessibilityOp × Except AccessibilityModelError AccessibilityReply)) : Prop :=
  ∃ snapshot revision, (.observe snapshot, .ok (.observed revision)) ∈ log ∧ snapshot.element = element ∧
    snapshotDeclaresProtected snapshot = true

/-- Births that were observed as protected are covered while they live, and
what is covered is stored redacted. -/
structure Covered (c : AccessibilityCache)
    (log : List (AccessibilityOp × Except AccessibilityModelError AccessibilityReply)) : Prop where
  covered : ∀ element, c.IsLive element → ObservedAsProtected element log →
    c.protectedBirths.contains (objectKey element) = true
  redacted : ∀ (key : ObjectKey) (node : ElementSnapshot), c.nodes[key]? = some node →
    c.protectedBirths.contains key = true → node.IsRedacted

variable {el : ElementRef}
  {log : List (AccessibilityOp × Except AccessibilityModelError AccessibilityReply)}

theorem ObservedAsProtected.append (h : ObservedAsProtected el (log ++ [(op, reply)])) :
    ObservedAsProtected el log ∨ ∃ s rv, op = .observe s ∧
      reply = .ok (.observed rv) ∧ s.element = el ∧ snapshotDeclaresProtected s = true := by
  obtain ⟨s, rv, hm, he, hd⟩ := h
  rcases List.mem_append.mp hm with hm | hm
  · exact .inl ⟨s, rv, hm, he, hd⟩
  · cases List.mem_singleton.mp hm
    exact .inr ⟨s, rv, rfl, rfl, he, hd⟩

/-- A call that observes nothing and lets nodes go only with their
protection. -/
theorem Covered.fewer (hc : c.Covered log) (hop : ∀ rv, reply ≠ .ok (.observed rv))
    (hno : ∀ (key : ObjectKey) (n : ElementSnapshot), c'.nodes[key]? = some n →
      c.nodes[key]? = some n ∧ c'.protectedBirths.contains key = c.protectedBirths.contains key) :
    c'.Covered (log ++ [(op, reply)]) where
  covered el := by
    rintro ⟨n, hn, hs⟩ ho
    obtain ⟨hold, hp⟩ := hno _ n hn
    rw [hp]
    refine hc.covered el ⟨n, hold, hs⟩ ?_
    rcases ho.append with h | ⟨s, rv, -, hr, -⟩
    · exact h
    · exact absurd hr (hop rv)
  redacted key n hn hp := by
    obtain ⟨hold, hs⟩ := hno key n hn
    exact hc.redacted key n hold (hs ▸ hp)

theorem removeApplicationNodesAt_protectedBirths (r rv) {key} (hk : key ∉ r.map objectKey) :
    ∀ c : AccessibilityCache, (c.removeApplicationNodesAt r rv).protectedBirths.contains key =
      c.protectedBirths.contains key := by
  induction r with
  | nil => exact fun c => rfl
  | cons el r ih =>
    intro c
    simp only [List.map_cons, List.mem_cons, not_or] at hk
    rw [removeApplicationNodesAt_cons, ih hk.2]
    simp [bury, pushTombstone, dropNode, Ne.symm hk.1]

variable {rv : AccessibilityRevision}

theorem retire_kept {a key node} (hn : (c.retire a rv).nodes[key]? = some node) : c.nodes[key]? = some node ∧
      (c.retire a rv).protectedBirths.contains key = c.protectedBirths.contains key := by
  unfold retire at hn ⊢
  rw [removeApplicationNodesAt_nodes] at hn
  split at hn
  · cases hn
  next hk => exact ⟨hn, removeApplicationNodesAt_protectedBirths _ _ hk c⟩

theorem bury_kept {key node} (hn : (c.bury el rv).nodes[key]? = some node) : c.nodes[key]? = some node ∧
      (c.bury el rv).protectedBirths.contains key = c.protectedBirths.contains key := by
  rw [bury_nodes] at hn
  split at hn
  · cases hn
  next hk =>
    exact ⟨hn, by simp [bury, pushTombstone, dropNode, hk]⟩

/-- An observation that was accepted covers its birth if it is protected, and
leaves the other births as they were. -/
theorem Covered.observed {s st ip a} (hc : c.Covered log) (hs : st = redactProtected s ip)
    (hno : ∀ key : ObjectKey, ∃ rv, c'.nodes[key]? =
      if objectKey st.element = key then some { st with revision := rv } else c.nodes[key]?)
    (hp : ∀ key, c'.protectedBirths.contains key =
      if objectKey st.element = key then ip else c.protectedBirths.contains key)
    (hpr : snapshotDeclaresProtected s = true ∨ ObservedAsProtected s.element log → ip = true) :
    c'.Covered (log ++ [(.observe s, .ok a)]) where
  covered el := by
    have he : st.element = s.element := by rw [hs, redactProtected_element]
    rintro ⟨n, hn, hsa⟩ hob
    obtain ⟨rv, hno⟩ := hno (objectKey el)
    rw [hno] at hn
    rw [hp]
    split at hn
    next hk =>
      rw [if_pos hk]
      cases hn
      have ht : s.element = el := he.symm.trans hsa
      rcases hob.append with h | ⟨_, _, ho, _, _, hd⟩
      · exact hpr (.inr (ht ▸ h))
      · cases ho
        exact hpr (.inl hd)
    next hk =>
      rw [if_neg hk]
      refine hc.covered el ⟨n, hn, hsa⟩ ?_
      rcases hob.append with h | ⟨_, _, ho, _, ht, _⟩
      · exact h
      · cases ho
        exact absurd (by rw [he, ht]) hk
  redacted key n hn hb := by
    obtain ⟨rv, hno⟩ := hno key
    rw [hno] at hn
    rw [hp] at hb
    split at hn
    next hk =>
      rw [if_pos hk] at hb
      cases hn
      have hr := redactProtected_isRedacted s
      rw [hb] at hs
      rw [hs]
      exact ⟨hr.value, hr.attributes, hr.content⟩
    next hk =>
      rw [if_neg hk] at hb
      exact hc.redacted key n hn hb

theorem ObservedAsProtected.seen (h : ObservedAsProtected el log) : .seen ∈ log.map (elementMark el) := by
  obtain ⟨s, rv, hm, rfl, -⟩ := h
  refine List.mem_map.mpr ⟨_, hm, ?_⟩
  simp [elementMark, isResync]

theorem born_protectedBirths {s ip} (key : ObjectKey) : (c.born s rv ip).protectedBirths.contains key =
      if objectKey s.element = key then ip else c.protectedBirths.contains key := by
  have hc : (c.clearBirth (objectKey s.element) rv s.element.cacheSequence).protectedBirths =
      c.protectedBirths.erase (objectKey s.element) := by
    unfold clearBirth
    cases c.nodes[objectKey s.element]? <;> rfl
  unfold born storeNode
  rw [hc]
  by_cases hk : objectKey s.element = key
  · cases ip <;> simp [hk]
  · cases ip <;> simp only [Bool.false_eq_true, if_true, if_false, contains_insert_eq,
      contains_erase_eq] <;>
      simp [hk]

theorem Covered.change (h : Change c op reply c') (hc : c.Covered log)
    (hi : ∀ el, .seen ∈ log.map (elementMark el) → c.IsIssued el) : c'.Covered (log ++ [(op, reply)]) := by
  cases h with
  | refused | referenced | resolved | found => exact hc.fewer (by simp) fun key n hn => ⟨hn, rfl⟩
  | resynced hre =>
    refine hc.fewer (fun rv => ?_) fun key n hn => ?_
    · rcases hre with rfl | rfl <;> simp
    · simp [cleared] at hn
  | installed | retired => exact hc.fewer (by simp) fun key n hn => retire_kept hn
  | @born s st rv ip hr hs hp hne hse =>
    refine hc.observed hs (fun key => ⟨rv, born_nodes key⟩) born_protectedBirths ?_
    rintro (hd | ho)
    · simp [hp, treatsAsProtected, hd]
    -- a birth that was observed before has taken its cache sequence
    have ha := (requireElementScope_ok hr).2.2.2.1
    rcases hi _ ho.seen with h | ⟨-, h⟩
    · rw [ha] at h
      exact absurd h (Nat.lt_irrefl _)
    · omega
  | @refreshed s st rv ip hr hs hp hl =>
    have he : st.element = s.element := by rw [hs, redactProtected_element]
    have hf : ip = (snapshotDeclaresProtected s || c.protectedBirths.contains (objectKey s.element)) := by
      rw [hp, treatsAsProtected, hl, Bool.true_and]
    refine hc.observed hs (fun key => ⟨rv, ?_⟩) (fun key => ?_) ?_
    · rw [← he, storeNode_nodes]
    · by_cases hk : objectKey st.element = key
      · rw [if_pos hk]
        subst hk
        cases ip <;> simp_all [storeNode]
      · rw [if_neg hk]
        cases ip <;> simp_all [storeNode]
    · rintro (hd | ho)
      · simp [hf, hd]
      · simp [hf, hc.covered _ (isRefresh_iff.mp hl) ho]
  | @removed el rv =>
    refine hc.fewer (by simp) fun key n hn => ?_
    exact bury_kept (c := c) (show (c.bury el rv).nodes[key]? = some n from hn)

theorem covered_final {c₀} (encodedBytes : ElementSnapshot → Option Nat) (hs₀ : c₀.Sound)
    (ha : c₀.applications = ∅) (hn : c₀.nodes = ∅) (ops) :
    (final (step encodedBytes) c₀ ops).Covered (answers (step encodedBytes) c₀ ops) := by
  induction ops using List.reverseRecOn with
  | nil => exact ⟨by simp [IsLive, hn], by simp [hn]⟩
  | append_singleton ops op ih =>
    have hc := (final (step encodedBytes) c₀ ops).step_change encodedBytes op
    have hi (el : ElementRef) := (lived_final encodedBytes hs₀ ha hn ops el).issued_of_seen
    simpa using Covered.change hc ih hi

/-! ## Two runs -/

/-- Two operations that differ at most in what they observe of a protected
birth: one that says so, or that is live and was observed as protected. -/
def AgreeOnPublic (c : AccessibilityCache)
    (log : List (AccessibilityOp × Except AccessibilityModelError AccessibilityReply))
    (a b : AccessibilityOp) : Prop :=
  a = b ∨ ∃ s t : ElementSnapshot, a = .observe s ∧ b = .observe t ∧ s.hidden = t.hidden ∧
    (snapshotDeclaresProtected s = true ∨ c.IsLive s.element ∧ ObservedAsProtected s.element log)

/-- The two operations of every step agree, along the run of the first ones. -/
def RunsAgree (encodedBytes : ElementSnapshot → Option Nat) (c₀ : AccessibilityCache)
    (pairs : List (AccessibilityOp × AccessibilityOp)) : Prop :=
  ∀ earlier pair later, pairs = earlier ++ pair :: later →
    AgreeOnPublic (final (step encodedBytes) c₀ (earlier.map Prod.fst))
      (answers (step encodedBytes) c₀ (earlier.map Prod.fst)) pair.1 pair.2

theorem step_eq_of_agree (encodedBytes : ElementSnapshot → Option Nat)
    {a b} (hc : c.Covered log) (h : AgreeOnPublic c log a b) :
    c.step encodedBytes a = c.step encodedBytes b := by
  obtain rfl | ⟨s, t, rfl, rfl, hidden, hp⟩ := h
  · rfl
  have ht : c.treatsAsProtected s = true := by
    rcases hp with hd | ⟨hl, ho⟩
    · simp [treatsAsProtected, hd]
    · simp [treatsAsProtected, isRefresh_iff.mpr hl, hc.covered _ hl ho]
  simp only [step, observe_eq_of_hidden_eq hidden ht]

/-- Two runs that differ only in the text content, value and attributes of
protected births cannot be told apart: every call returns the same in both,
and so does every read afterwards. A live birth that was observed as
protected is stored redacted. -/
theorem protected_elements_leak_nothing (encodedBytes : ElementSnapshot → Option Nat) {desktopId : DesktopId}
    {desktopGeneration : DesktopGeneration} {atspiGeneration : AtspiGeneration}
    {limits : AccessibilityModelLimits} {c₀ : AccessibilityCache}
    (h₀ : AccessibilityCache.new desktopId desktopGeneration atspiGeneration limits = .ok c₀)
    (pairs : List (AccessibilityOp × AccessibilityOp)) (hpairs : RunsAgree encodedBytes c₀ pairs) :
    let c := final (step encodedBytes) c₀ (pairs.map Prod.fst)
    let c' := final (step encodedBytes) c₀ (pairs.map Prod.snd)
    let log := answers (step encodedBytes) c₀ (pairs.map Prod.fst)
    let log' := answers (step encodedBytes) c₀ (pairs.map Prod.snd)
    log.map Prod.snd = log'.map Prod.snd ∧
    (∀ (env : QueryEnvironment) (rd : AccessibilityRead) (r : Nat),
      (c.read env rd).run r = (c'.read env rd).run r) ∧
    (∀ el, c.resolveExact el = c'.resolveExact el) ∧
    (∀ (key : ObjectKey) (n : ElementSnapshot), c.nodes[key]? = some n →
      ObservedAsProtected n.element log → n.IsRedacted) := by
  intro c c' log log'
  obtain ⟨hs₀, -, hno, ha⟩ := Sound.new h₀
  have hc := covered_final encodedBytes hs₀ ha hno
  -- the two runs are in the same cache after every step
  have hs : c = c' ∧ log.map Prod.snd = log'.map Prod.snd := by
    induction pairs using List.reverseRecOn with
    | nil => exact ⟨rfl, rfl⟩
    | append_singleton pairs p ih =>
      have hp : RunsAgree encodedBytes c₀ pairs := by
        intro e p' l heq
        exact hpairs e p' (l ++ [p]) (by simp [heq])
      obtain ⟨hca, hr⟩ := ih hp
      have hst := step_eq_of_agree encodedBytes (hc (pairs.map Prod.fst)) (hpairs pairs p [] rfl)
      simp only [c, c', log, log', List.map_append, List.map_cons, List.map_nil, final_append, final_cons,
        final_nil,
        answers_append, answers_cons, answers_nil]
      rw [← hca, ← hr, hst]
      exact ⟨rfl, rfl⟩
  refine ⟨hs.2, ?_, ?_, ?_⟩
  · intro env rd r
    rw [hs.1]
  · intro el
    rw [hs.1]
  · intro key n hn ho
    obtain rfl := ((hs₀.final (pairs.map Prod.fst)).keyed key n hn)
    exact (hc (pairs.map Prod.fst)).redacted _ n hn
      ((hc (pairs.map Prod.fst)).covered _ ⟨n, hn, rfl⟩ ho)

/-- The sample element as a password field with one attribute. -/
def passwordField (value : Text) : ElementSnapshot :=
  { ElementSnapshot.bare (.nth 1) .passwordText with attributes := [⟨"secret".toList, value⟩] }

theorem password_reads_alike :
    let encodedBytes : ElementSnapshot → Option Nat := fun _ => some 0
    let ops (sc : Text) : List AccessibilityOp :=
      [.registerApplication .sample .sample .allA, .observe (passwordField sc)]
    ∃ s, (final (step encodedBytes) empty (ops "hunter2".toList)).resolveExact (.nth 1) = .ok s ∧
      (final (step encodedBytes) empty (ops "letmein".toList)).resolveExact (.nth 1) = .ok s := by
  intro encodedBytes ops
  let p := (ops "hunter2".toList).zip (ops "letmein".toList)
  have hp : RunsAgree encodedBytes empty p := by
    intro er pr l heq
    have hm : pr ∈ p := by simp [heq]
    simp only [p, ops, List.zip_cons_cons, List.zip_nil_left, List.mem_cons, List.not_mem_nil,
      or_false] at hm
    rcases hm with rfl | rfl
    · exact .inl rfl
    · exact .inr ⟨_, _, rfl, rfl, rfl, .inl rfl⟩
  have hf : p.map Prod.fst = ops "hunter2".toList := rfl
  have hs : p.map Prod.snd = ops "letmein".toList := rfl
  have ha := (protected_elements_leak_nothing encodedBytes new_empty p hp).2.2.1 (.nth 1)
  rw [hf, hs] at ha
  have hok : ((final (step encodedBytes) empty (ops "hunter2".toList)).resolveExact (.nth 1)).isOk = true := by
    decide +kernel
  cases hr : (final (step encodedBytes) empty (ops "hunter2".toList)).resolveExact (.nth 1) with
  | ok s => exact ⟨s, rfl, ha.symm.trans hr⟩
  | error e =>
    rw [hr] at hok
    cases hok

/-- A birth that was observed as protected and then removed: what is supplied
for it afterwards decides between two errors. -/
theorem removed_birth_tells_attributes :
    let encodedBytes : ElementSnapshot → Option Nat := fun _ => some 0
    let ops : List AccessibilityOp := [.registerApplication .sample .sample .allA,
      .observe (.bare (.nth 1) .passwordText), .remove (.nth 1)]
    let c := final (step encodedBytes) empty ops
    let p := ElementSnapshot.bare (.nth 1) .label
    let n := { p with attributes := [⟨[], []⟩] }
    ObservedAsProtected (.nth 1) (answers (step encodedBytes) empty ops) ∧ n.hidden = p.hidden ∧
      (c.step encodedBytes (.observe n)).1 = .error (.invalidSnapshot .text) ∧
      (c.step encodedBytes (.observe p)).1 = .error .unexpectedCacheSequence := by
  intro encodedBytes ops c p n
  have hm : ((.observe (.bare (.nth 1) .passwordText), .ok (.observed ⟨3, by decide⟩)) :
      AccessibilityOp × Except AccessibilityModelError AccessibilityReply) ∈
        answers (step encodedBytes) empty ops := by decide +kernel
  have hn : (c.step encodedBytes (.observe n)).1 = .error (.invalidSnapshot .text) :=
    by decide +kernel
  have hp : (c.step encodedBytes (.observe p)).1 = .error .unexpectedCacheSequence :=
    by decide +kernel
  exact ⟨⟨_, _, hm, rfl, rfl⟩, rfl, hn, hp⟩

end AccessibilityCache

end Xenoteer
