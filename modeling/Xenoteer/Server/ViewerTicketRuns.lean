/-
What the viewer-ticket registry guarantees over every interleaving of its
calls (`tickets_single_use_and_bound`): a ticket is consumed at most once, by a request
with its bindings, before it expires; a refused attempt and an issue leave
every ticket that has not expired; the registry never holds more than its
capacity.

The order of the two clock-dependent parts carries it. The expiry and the
bindings are checked before the record is removed, so a mismatch burns
nothing; lookup and removal are in one critical section, so of two matching
attempts the second finds no record. No part of it needs the clock readings to
grow: a record carries its own expiry, and each section compares it with the
reading its own caller took.
-/
import Mathlib.Data.List.Nodup
import Mathlib.Data.Set.Function
import Xenoteer.Server.ViewerTickets

namespace Xenoteer.Server

open Viewer Lib

/-! ## Single critical sections -/

section Sections

variable {rr : Records} {now : Nat} {d : TicketDigest} {st : StoredViewerTicket}

theorem purgeExpired_getElem? : (purgeExpired rr now)[d]? =
    rr[d]?.filter (fun rc => now < rc.expiresAfterMonotonicNanos) := by
  simp [purgeExpired, ViewerTicketClaims.expiresAtNanos, Except.isOk, Except.toBool]

theorem purgeExpired_eq_some : (purgeExpired rr now)[d]? = some st ↔
    rr[d]? = some st ∧ now < st.expiresAfterMonotonicNanos := by
  rw [purgeExpired_getElem?, Option.filter_eq_some_iff, decide_eq_true_eq]

/-- Erasing a record that has expired first makes no difference to a purge. -/
theorem purgeExpired_erase (hd : rr[d]? = some st) (he : st.expiresAfterMonotonicNanos ≤ now)
    (d' : TicketDigest) : (purgeExpired (rr.erase d) now)[d']? = (purgeExpired rr now)[d']? := by
  rw [purgeExpired_getElem?, purgeExpired_getElem?, TreeMapKeys.getElem?_erase_eq]
  split
  next heq =>
    subst heq
    simp [hd, Option.filter, Nat.not_lt.mpr he]
  · rfl

end Sections

def recordsOf (records : Records) (d : TicketDigest) : Nat := if records.contains d then 1 else 0

section RecordsOf

variable {rr rr' : Records} {now : Nat} {d d' : TicketDigest} {st : StoredViewerTicket}

theorem recordsOf_le_one (rr : Records) (d) : recordsOf rr d ≤ 1 := by
  unfold recordsOf
  split <;> omega

theorem recordsOf_eq_one : recordsOf rr d = 1 ↔ ∃ st, rr[d]? = some st := by
  rw [← Option.isSome_iff_exists, ← Std.TreeMap.contains_eq_isSome_getElem?, recordsOf]
  split <;> simp_all

theorem recordsOf_mono (h : ∀ st, rr'[d]? = some st → ∃ sr', rr[d]? = some sr') :
    recordsOf rr' d ≤ recordsOf rr d := by
  obtain hz | ho := Nat.le_one_iff_eq_zero_or_eq_one.1 (recordsOf_le_one rr' d)
  · rw [hz]
    exact Nat.zero_le _
  · obtain ⟨st, hs⟩ := recordsOf_eq_one.1 ho
    rw [ho, recordsOf_eq_one.2 (h st hs)]

abbrev purgedAt (rr : Records) (now : ViewerTicketClockReading) : Records := purgeExpired rr now.monotonicElapsedNanos

theorem recordsOf_purgedAt_le (rr : Records) (now) (d) : recordsOf (purgedAt rr now) d ≤ recordsOf rr d :=
  recordsOf_mono fun st h => ⟨st, (purgeExpired_eq_some.1 h).1⟩

theorem recordsOf_insert_ne (h : d' ≠ d) : recordsOf (rr.insert d st) d' = recordsOf rr d' := by
  simp only [recordsOf, Std.TreeMap.contains_eq_isSome_getElem?, TreeMapKeys.getElem?_insert_ne h]

theorem recordsOf_erase_le : recordsOf (rr.erase d) d' ≤ recordsOf rr d' :=
  recordsOf_mono fun st h => ⟨st, (TreeMapKeys.erase_cases h).2⟩

theorem recordsOf_erase_self : recordsOf (rr.erase d) d = 0 := by
  simp [recordsOf]

end RecordsOf

section Issue

variable {r : InMemoryViewerTicketRegistry} {call : IssueCall} {p : PreparedIssue} {rr : Records}

/-- The ticket carries what its call asked for. -/
structure IssuedFor (call : IssueCall) (ticket : OneTimeViewerTicket) : Prop where
  audience : ticket.audience = call.context.audience
  desktopId : ticket.desktopId = call.request.desktopId
  desktopGeneration : ticket.desktopGeneration = call.request.desktopGeneration
  origin : ticket.origin = call.context.origin
  mode : ticket.mode = call.request.mode

/-- What a prepared issue carries of its call. -/
structure PreparedFrom (r : InMemoryViewerTicketRegistry) (call : IssueCall) (p : PreparedIssue) : Prop where
  now : call.now = .ok p.now
  secret : ∃ random, call.random = .ok random ∧ p.ticket.ticket.text = encodeTicketSecret random
  digest : p.digest = r.digest p.ticket.ticket.text
  expires : p.expiresAfterMonotonicNanos = p.now.monotonicElapsedNanos + r.config.ttl
  issuedFor : IssuedFor call p.ticket

theorem ViewerTicketSecret.new_text {v sc} (h : ViewerTicketSecret.new v = .ok sc) : sc.text = v := by
  unfold ViewerTicketSecret.new at h
  split at h
  · cases h
  · cases h; rfl

theorem checkedAddU128_eq {a b sum} (h : checkedAddU128 a b = some sum) : sum = a + b := by
  unfold checkedAddU128 at h
  split at h
  · exact (Option.some.inj h).symm
  · cases h

theorem elim_throw_eq_ok {ε α : Type} {v e a} :
    (v.elim (throw e) pure : Except ε α) = .ok a ↔ v = some a := by
  cases v with
  | none => constructor <;> intro h <;> cases h
  | some b => constructor <;> intro h <;> cases h <;> rfl

theorem prepareIssue_ok (h : r.prepareIssue call = .ok p) : PreparedFrom r call p := by
  unfold InMemoryViewerTicketRegistry.prepareIssue at h
  split at h
  · cases h
  simp only [Checks.bind_eq_ok, Checks.wrapped_eq_ok, elim_throw_eq_ok] at h
  obtain ⟨-, -, pi, -, now, hn, en, -, ia, -, ea, -, rn, hr, sc, hs, -, -, e, he, hp⟩ := h
  cases hp
  exact {
    now := hn
    secret := ⟨rn, hr, ViewerTicketSecret.new_text hs⟩
    digest := rfl
    expires := checkedAddU128_eq he
    issuedFor := ⟨rfl, rfl, rfl, rfl, rfl⟩ }

theorem commitIssue_cases (r : InMemoryViewerTicketRegistry) (p : PreparedIssue) (rr : Records) :
    (∃ e, r.commitIssue p rr = (.error e, purgedAt rr p.now)) ∨
    ((purgedAt rr p.now).size < r.config.capacity ∧
      (purgedAt rr p.now)[p.digest]? = none ∧
      r.commitIssue p rr = (.ok p.ticket, (purgedAt rr p.now).insert p.digest
        ⟨.fromTicket p.ticket, p.expiresAfterMonotonicNanos⟩)) := by
  unfold InMemoryViewerTicketRegistry.commitIssue
  dsimp only
  split
  · exact .inl ⟨_, rfl⟩
  rename_i hr
  split
  · exact .inl ⟨_, rfl⟩
  rename_i hf
  refine .inr ⟨Nat.lt_of_not_le hr, ?_, rfl⟩
  rwa [Std.TreeMap.contains_eq_isSome_getElem?, Bool.not_eq_true, Option.isSome_eq_false_iff,
    Option.isNone_iff_eq_none] at hf

end Issue

/-- The request names everything the claims bind. -/
structure Matches (request : ViewerTicketConsumeRequest) (claims : ViewerTicketClaims) : Prop where
  audience : audienceMatches request.audience claims.audience = true
  desktopId : request.desktopId = claims.desktopId
  desktopGeneration : request.desktopGeneration = claims.desktopGeneration
  origin : request.origin = claims.origin
  mode : request.mode = claims.mode

/-- A refused attempt purges what has expired and does nothing else; an
accepted one matches a record that has not, and removes it. -/
theorem commitConsume_cases {rq p rr} :
    (∃ e, (commitConsume rq p rr).1 = .error e ∧ ∀ d : TicketDigest, (commitConsume rq p rr).2[d]? =
        (purgedAt rr p.now)[d]?) ∨ ∃ st, rr[p.digest]? = some st ∧
      p.now.monotonicElapsedNanos < st.expiresAfterMonotonicNanos ∧ Matches rq st.claims ∧
      commitConsume rq p rr =
        (.ok st.claims, (purgedAt rr p.now).erase p.digest) := by
  cases ht : rr[p.digest]? with
  | none => exact .inl ⟨.notFound, by simp [commitConsume, ht], fun d => by simp [commitConsume, ht]⟩
  | some st =>
    by_cases he : st.expiresAfterMonotonicNanos ≤ p.now.monotonicElapsedNanos
    · have heq : commitConsume rq p rr =
          (.error .expired, purgedAt (rr.erase p.digest) p.now) := by
        simp [commitConsume, ht, he, ViewerTicketClaims.expiresAtNanos, Except.isOk, Except.toBool]
      exact .inl ⟨.expired, by rw [heq], fun d => by rw [heq]; exact purgeExpired_erase ht he d⟩
    · have hl : (purgedAt rr p.now)[p.digest]? = some st :=
        purgeExpired_eq_some.2 ⟨ht, Nat.lt_of_not_le he⟩
      by_cases hm : Matches rq st.claims
      · refine .inr ⟨st, rfl, Nat.lt_of_not_le he, hm, ?_⟩
        obtain ⟨h1, h2, h3, h4, h5⟩ := hm
        simp [commitConsume, ht, he, ViewerTicketClaims.expiresAtNanos, Except.isOk, Except.toBool,
          hl, h1, h2, h3, h4, h5]
      · have heq : commitConsume rq p rr =
            (.error .claimMismatch, purgedAt rr p.now) := by
          have hd : (!audienceMatches rq.audience st.claims.audience ||
              rq.desktopId ≠ st.claims.desktopId ||
              rq.desktopGeneration ≠ st.claims.desktopGeneration ||
              rq.origin ≠ st.claims.origin || rq.mode ≠ st.claims.mode) = true := by
            by_contra hs
            simp only [Bool.or_eq_true, Bool.not_eq_true', decide_eq_true_eq, not_or, Bool.not_eq_false,
              not_not, ne_eq] at hs
            obtain ⟨⟨⟨⟨h1, h2⟩, h3⟩, h4⟩, -⟩ := hs
            -- there is one mode
            exact hm ⟨h1, h2, h3, h4, rfl⟩
          simp only [commitConsume, ht, Option.any_some, ViewerTicketClaims.expiresAtNanos, Except.isOk,
            Except.toBool, Bool.not_true, Bool.false_eq_true, if_false, he, decide_false, hd, if_true]
        exact .inl ⟨.claimMismatch, by rw [heq], fun d => by rw [heq]⟩

/-! ## Histories -/

/-- The ticket a reply hands out, with the call it was issued to. -/
def TicketReply.issue? : TicketReply → Option (IssueCall × OneTimeViewerTicket)
  | .issued call (.ok ticket) => some (call, ticket)
  | _ => none

/-- The attempt that a reply accepts. -/
def TicketReply.consume? : TicketReply → Option (ConsumeCall × ViewerTicketClaims)
  | .consumed call (.ok claims) => some (call, claims)
  | _ => none

/-- The secret that the call of an event generates. -/
def TicketEvent.generated? : TicketEvent → Option Text
  | .startIssue call => call.random.toOption.map encodeTicketSecret
  | _ => none

/-- The secret that the call of an event generates or presents. -/
def TicketEvent.secret? : TicketEvent → Option Text
  | .startIssue call => call.random.toOption.map encodeTicketSecret
  | .startConsume call => some call.request.ticket.text
  | .enter _ => none

abbrev TicketLog := List (TicketEvent × TicketReply)

def issues (log : TicketLog) : List (IssueCall × OneTimeViewerTicket) := log.filterMap fun entry => entry.2.issue?

def consumptions (log : TicketLog) : List (ConsumeCall × ViewerTicketClaims) :=
  log.filterMap fun entry => entry.2.consume?

def generated (events : List TicketEvent) : List Text := events.filterMap TicketEvent.generated?

def usedSecrets (events : List TicketEvent) : List Text := events.filterMap TicketEvent.secret?

def timesConsumed (log : TicketLog) (secret : Text) : Nat :=
  (consumptions log).countP fun consumed => consumed.1.request.ticket.text = secret

def issuedSecrets (log : TicketLog) : List Text := (issues log).map fun issued => issued.2.ticket.text

section Runs

variable {r : InMemoryViewerTicketRegistry}

/-- The secret a caller generated or presents. -/
def TicketCaller.secret : TicketCaller r → Text
  | .issue _ prepared _ => prepared.ticket.ticket.text
  | .consume call _ _ => call.request.ticket.text

def TicketCaller.generated? : TicketCaller r → Option Text
  | .issue _ prepared _ => some prepared.ticket.ticket.text
  | .consume _ _ _ => none

/-- The state after the events, from a new registry. -/
def after (r : InMemoryViewerTicketRegistry) (events : List TicketEvent) : TicketSystem r :=
  Run.final TicketSystem.step (.initial r) events

def history (r : InMemoryViewerTicketRegistry) (events : List TicketEvent) : TicketLog :=
  Run.answers TicketSystem.step (.initial r) events

/-- What a step does: a call is refused before the lock or starts to wait, or
a caller runs its critical section. -/
theorem step_cases (s : TicketSystem r) (event : TicketEvent) :
    ((s.step event).1.issue? = none ∧ (s.step event).1.consume? = none ∧ (s.step event).2 = s) ∨
    (∃ c : TicketCaller r, (s.step event).1 = .waits ∧ event.secret? = some c.secret ∧
      event.generated? = c.generated? ∧
      (s.step event).2 = { s with waiting := s.waiting ++ [c] }) ∨
    ∃ pl c, event = .enter pl ∧ s.waiting[pl]? = some c ∧
      s.step event = ((c.commit s.records).1, ⟨(c.commit s.records).2, s.waiting.eraseIdx pl⟩) := by
  cases event with
  | startIssue call =>
    simp only [TicketSystem.step]
    split
    · exact .inl ⟨rfl, rfl, rfl⟩
    rename_i pr h
    obtain ⟨rn, hr, hs⟩ := (prepareIssue_ok h).secret
    have hg : call.random.toOption.map encodeTicketSecret = some pr.ticket.ticket.text := by
      rw [hr, hs]; rfl
    exact .inr (.inl ⟨.issue call pr h, rfl, hg, hg, rfl⟩)
  | startConsume call =>
    simp only [TicketSystem.step]
    split
    · exact .inl ⟨rfl, rfl, rfl⟩
    next pr h => exact .inr (.inl ⟨.consume call pr h, rfl, rfl, rfl, rfl⟩)
  | enter pl =>
    simp only [TicketSystem.step]
    cases hp : s.waiting[pl]? with
    | none => exact .inl ⟨rfl, rfl, rfl⟩
    | some c => exact .inr (.inr ⟨pl, c, rfl, hp, rfl⟩)

/-- What a critical section does to the records: it purges, and then issues,
consumes, or neither. -/
theorem commit_cases (c : TicketCaller r) (rr : Records) :
    (∃ now : Nat, (c.commit rr).1.issue? = none ∧ (c.commit rr).1.consume? = none ∧
      ∀ d : TicketDigest, (c.commit rr).2[d]? = (purgeExpired rr now)[d]?) ∨
    (∃ call pr h, c = .issue call pr h ∧ (c.commit rr).1 = .issued call (.ok pr.ticket) ∧
      (purgedAt rr pr.now).size < r.config.capacity ∧
      (purgedAt rr pr.now)[pr.digest]? = none ∧
      (c.commit rr).2 = (purgedAt rr pr.now).insert
        pr.digest ⟨.fromTicket pr.ticket, pr.expiresAfterMonotonicNanos⟩) ∨
    ∃ call pr h st, c = .consume call pr h ∧ rr[pr.digest]? = some st ∧
      pr.now.monotonicElapsedNanos < st.expiresAfterMonotonicNanos ∧
      Matches call.request st.claims ∧
      (c.commit rr).1 = .consumed call (.ok st.claims) ∧
      (c.commit rr).2 = (purgedAt rr pr.now).erase pr.digest := by
  cases c with
  | issue call pr h =>
    obtain ⟨e, hc⟩ | ⟨hr, hf, hc⟩ := commitIssue_cases r pr rr
    · refine .inl ⟨pr.now.monotonicElapsedNanos, ?_, ?_, ?_⟩ <;> simp [TicketCaller.commit, hc,
        TicketReply.issue?, TicketReply.consume?]
    · exact .inr (.inl ⟨call, pr, h, rfl, by simp [TicketCaller.commit, hc], hr, hf,
        by simp [TicketCaller.commit, hc]⟩)
  | consume call pr h =>
    obtain ⟨e, hre, hrc⟩ | ⟨st, hs, hl, hm, hc⟩ := commitConsume_cases
    · refine .inl ⟨pr.now.monotonicElapsedNanos, ?_, ?_, hrc⟩ <;> simp [TicketCaller.commit, hre,
        TicketReply.issue?, TicketReply.consume?]
    · exact .inr (.inr ⟨call, pr, h, st, rfl, hs, hl, hm,
        by simp [TicketCaller.commit, hc], by simp [TicketCaller.commit, hc]⟩)

/-! ## The invariant -/

/-- The record that an issue leaves under the digest of its ticket. -/
structure Backs (r : InMemoryViewerTicketRegistry) (issued : IssueCall × OneTimeViewerTicket) (d : TicketDigest)
    (stored : StoredViewerTicket) : Prop where
  digest : d = r.digest issued.2.ticket.text
  claims : stored.claims = .fromTicket issued.2
  expires : ∃ now, issued.1.now = .ok now ∧
    stored.expiresAfterMonotonicNanos = now.monotonicElapsedNanos + r.config.ttl

/-- An accepted attempt and the issue whose ticket it presents: it names
everything the ticket was issued for, comes before the ticket's time is over,
and is given the claims of the ticket. -/
structure Honours (r : InMemoryViewerTicketRegistry) (issued : IssueCall × OneTimeViewerTicket)
    (consumed : ConsumeCall × ViewerTicketClaims) : Prop where
  secret : consumed.1.request.ticket = issued.2.ticket
  claims : consumed.2 = .fromTicket issued.2
  bindings : Matches consumed.1.request (.fromTicket issued.2)
  inTime : ∃ issuedNow now, issued.1.now = .ok issuedNow ∧ consumed.1.now = .ok now ∧
    now.monotonicElapsedNanos < issuedNow.monotonicElapsedNanos + r.config.ttl

/-- What ties the registry to its history, for the secrets `used`. -/
structure Accounted (used : Set Text) (s : TicketSystem r) (log : TicketLog) : Prop where
  /-- Every record is that of an issued ticket. -/
  backed : ∀ (d : TicketDigest) (stored : StoredViewerTicket), s.records[d]? = some stored →
    ∃ issued ∈ issues log, Backs r issued d stored
  bounded : s.records.size ≤ r.config.capacity
  waiting_used : ∀ caller ∈ s.waiting, caller.secret ∈ used
  issued_used : ∀ secret ∈ issuedSecrets log, secret ∈ used
  issued_for : ∀ issued ∈ issues log, IssuedFor issued.1 issued.2
  /-- A generated secret is issued or waits, once. -/
  generated_once : List.Subperm (issuedSecrets log ++ s.waiting.filterMap TicketCaller.generated?)
    (generated (log.map Prod.fst))
  /-- A consumption takes a record away. -/
  spent : ∀ secret ∈ used, timesConsumed log secret + recordsOf s.records (r.digest secret) ≤
    (issuedSecrets log).count secret
  honoured : ∀ consumed ∈ consumptions log, ∃ issued ∈ issues log, Honours r issued consumed

theorem Accounted.initial (used : Set Text) : Accounted used (.initial r) [] where
  backed d st h := by simp [TicketSystem.initial] at h
  bounded := by simp [TicketSystem.initial]
  waiting_used caller h := by simp [TicketSystem.initial] at h
  issued_used secret h := by simp [issuedSecrets, issues] at h
  issued_for issued h := by simp [issues] at h
  generated_once := by simp [issuedSecrets, issues, TicketSystem.initial]
  spent secret _ := by simp [timesConsumed, consumptions, TicketSystem.initial, recordsOf]
  honoured consumed h := by simp [consumptions] at h

variable {used : Set Text} {s : TicketSystem r} {log : TicketLog} {event : TicketEvent} {reply : TicketReply}

theorem issues_append (log : TicketLog) (event) (reply : TicketReply) :
    issues (log ++ [(event, reply)]) = issues log ++ reply.issue?.toList := by
  cases h : reply.issue? <;> simp [issues, h]

theorem consumptions_append (log : TicketLog) (event) (reply : TicketReply) :
    consumptions (log ++ [(event, reply)]) = consumptions log ++ reply.consume?.toList := by
  cases h : reply.consume? <;> simp [consumptions, h]

theorem generated_map_fst (log : TicketLog) (event) (reply) :
    generated ((log ++ [(event, reply)]).map Prod.fst) =
      generated (log.map Prod.fst) ++ event.generated?.toList := by
  cases h : event.generated? <;> simp [generated, h]

/-- A step keeps the account when every record it leaves was there or is that
of the ticket it issues, every caller that waits uses one of the secrets, what
is issued or waits is generated by the event at most, and a consumption takes
its record away. -/
theorem Accounted.grow {s' : TicketSystem r} (hs : Accounted used s log)
    (hr : ∀ (d : TicketDigest) (st : StoredViewerTicket), s'.records[d]? = some st →
      s.records[d]? = some st ∨ ∃ i, reply.issue? = some i ∧ Backs r i d st)
    (hb : s'.records.size ≤ r.config.capacity) (hw : ∀ c ∈ s'.waiting, c.secret ∈ used)
    (hi : ∀ i, reply.issue? = some i → i.2.ticket.text ∈ used ∧ IssuedFor i.1 i.2)
    (hg : List.Subperm (reply.issue?.toList.map (·.2.ticket.text) ++ s'.waiting.filterMap TicketCaller.generated?)
      (s.waiting.filterMap TicketCaller.generated? ++ event.generated?.toList))
    (hsp : ∀ sc ∈ used, reply.consume?.toList.countP (·.1.request.ticket.text = sc) +
        recordsOf s'.records (r.digest sc) ≤
      recordsOf s.records (r.digest sc) + (reply.issue?.toList.map (·.2.ticket.text)).count sc)
    (hc : ∀ c, reply.consume? = some c → ∃ i ∈ issues log, Honours r i c) :
    Accounted used s' (log ++ [(event, reply)]) := by
  have hse : issuedSecrets (log ++ [(event, reply)]) =
      issuedSecrets log ++ reply.issue?.toList.map (·.2.ticket.text) := by
    simp [issuedSecrets, issues_append]
  constructor
  case backed =>
    intro d st hd
    rw [issues_append]
    obtain hd | ⟨i, hi, hb⟩ := hr d st hd
    · obtain ⟨i, hm, hb⟩ := hs.backed d st hd
      exact ⟨i, List.mem_append_left _ hm, hb⟩
    · exact ⟨i, by simp [hi], hb⟩
  case bounded => exact hb
  case waiting_used => exact hw
  case issued_used =>
    rw [hse]
    simpa [or_imp, forall_and] using ⟨hs.issued_used, fun _ i t h he => he ▸ (hi _ h).1⟩
  case issued_for =>
    rw [issues_append]
    simpa [or_imp, forall_and] using ⟨fun i t => hs.issued_for (i, t), fun i t h => (hi (i, t) h).2⟩
  case generated_once =>
    rw [hse, generated_map_fst, List.append_assoc]
    refine ((List.Subperm.append (List.Subperm.refl _) hg).trans ?_)
    rw [← List.append_assoc]
    exact hs.generated_once.append (List.Subperm.refl _)
  case spent =>
    intro sc hu
    have hbe := hs.spent sc hu
    have hno := hsp sc hu
    rw [hse, timesConsumed, consumptions_append, List.countP_append, List.count_append, ← timesConsumed]
    omega
  case honoured =>
    rw [issues_append, consumptions_append]
    intro c hm
    have hh : ∃ i ∈ issues log, Honours r i c := by
      obtain hm | hm := List.mem_append.1 hm
      · exact hs.honoured c hm
      · exact hc c (Option.mem_toList.1 hm)
    obtain ⟨i, hm, hh⟩ := hh
    exact ⟨i, List.mem_append_left _ hm, hh⟩

/-- A step that issues and consumes nothing. -/
theorem Accounted.quiet {s' : TicketSystem r} (hs : Accounted used s log) (hi : reply.issue? = none)
    (hc : reply.consume? = none)
    (hr : ∀ (d : TicketDigest) (st : StoredViewerTicket), s'.records[d]? = some st →
      s.records[d]? = some st) (hw : ∀ c ∈ s'.waiting, c.secret ∈ used)
    (hg : List.Subperm (s'.waiting.filterMap TicketCaller.generated?)
      (s.waiting.filterMap TicketCaller.generated? ++ event.generated?.toList)) :
    Accounted used s' (log ++ [(event, reply)]) := by
  have hz := TreeMapKeys.size_le_of_getElem? fun d st hd => ⟨st, hr d st hd⟩
  refine hs.grow (fun d st hd => .inl (hr d st hd)) (hz.trans hs.bounded) hw (by simp [hi])
    (by simpa [hi] using hg) (fun sc _ => ?_) (by simp [hc])
  simpa [hi, hc] using recordsOf_mono fun st hd => ⟨st, hr _ st hd⟩

/-- The caller that got the lock no longer waits. -/
theorem waiting_perm {pl c} (h : s.waiting[pl]? = some c) : (c :: s.waiting.eraseIdx pl).Perm s.waiting := by
  obtain ⟨hlt, rfl⟩ := List.getElem?_eq_some_iff.1 h
  exact List.getElem_cons_eraseIdx_perm hlt

theorem consume_digest {call pr} (h : r.prepareConsume call = .ok pr) :
    call.now = .ok pr.now ∧ pr.digest = r.digest call.request.ticket.text := by
  obtain ⟨now, hn, hp⟩ := Checks.bind_eq_ok.1 h
  cases hp
  exact ⟨hn, rfl⟩

/-- A ticket that is issued has a fresh secret and takes a free place. -/
theorem Accounted.issue (hin : Set.InjOn r.digest used) (hs : Accounted used s log) {pl call pr h}
    (hpl : s.waiting[pl]? = some (.issue call pr h))
    (hr : (purgedAt s.records pr.now).size < r.config.capacity) : Accounted used
      ⟨(purgedAt s.records pr.now).insert pr.digest
        ⟨.fromTicket pr.ticket, pr.expiresAfterMonotonicNanos⟩, s.waiting.eraseIdx pl⟩
      (log ++ [(.enter pl, .issued call (.ok pr.ticket))]) := by
  have hp := prepareIssue_ok h
  have hu : pr.ticket.ticket.text ∈ used := hs.waiting_used _ (List.mem_of_getElem? hpl)
  refine hs.grow ?_ (Std.TreeMap.size_insert_le.trans hr)
    (fun c hc => hs.waiting_used c (List.mem_of_mem_eraseIdx hc)) ?_ ?_ ?_ (by simp [TicketReply.consume?])
  · intro d st hd
    obtain ⟨rfl, rfl⟩ | ⟨-, hd⟩ := TreeMapKeys.insert_cases hd
    · exact .inr ⟨_, rfl, hp.digest, rfl, pr.now, hp.now, hp.expires⟩
    · exact .inl (purgeExpired_eq_some.1 hd).1
  · intro i hi
    cases hi
    exact ⟨hu, hp.issuedFor⟩
  · exact ((waiting_perm hpl).filterMap TicketCaller.generated?).subperm.trans (List.sublist_append_left _ _).subperm
  · intro sc hse
    dsimp only [TicketReply.issue?, TicketReply.consume?, Option.toList, List.map]
    by_cases heq : sc = pr.ticket.ticket.text
    · have ho := recordsOf_le_one ((purgedAt s.records pr.now).insert
        pr.digest ⟨.fromTicket pr.ticket, pr.expiresAfterMonotonicNanos⟩) (r.digest sc)
      rw [heq] at ho ⊢
      rw [List.count_singleton_self, List.countP_nil]
      omega
    · have hne : r.digest sc ≠ pr.digest := by
        rw [hp.digest]
        intro hsa
        exact heq (hin hse hu hsa)
      have hle := recordsOf_purgedAt_le s.records pr.now (r.digest sc)
      rw [recordsOf_insert_ne hne, List.countP_nil]
      omega

/-- A ticket that is consumed had a record, which is gone. -/
theorem Accounted.consume (hin : Set.InjOn r.digest used) (hs : Accounted used s log) {pl call pr h st}
    (hp : s.waiting[pl]? = some (.consume call pr h))
    (hst : s.records[pr.digest]? = some st)
    (hl : pr.now.monotonicElapsedNanos < st.expiresAfterMonotonicNanos)
    (hm : Matches call.request st.claims) : Accounted used
      ⟨(purgedAt s.records pr.now).erase pr.digest, s.waiting.eraseIdx pl⟩
      (log ++ [(.enter pl, .consumed call (.ok st.claims))]) := by
  obtain ⟨hn, hdi⟩ := consume_digest h
  have hu : call.request.ticket.text ∈ used := hs.waiting_used _ (List.mem_of_getElem? hp)
  obtain ⟨i, his, hb⟩ := hs.backed _ st hst
  refine hs.grow (fun d st hd => .inl (purgeExpired_eq_some.1 (TreeMapKeys.erase_cases hd).2).1)
    (Std.TreeMap.size_erase_le.trans (Std.TreeMap.size_filter_le_size.trans hs.bounded))
    (fun c hc => hs.waiting_used c (List.mem_of_mem_eraseIdx hc)) (by simp [TicketReply.issue?]) ?_ ?_ ?_
  · exact ((waiting_perm hp).filterMap TicketCaller.generated?).subperm.trans (List.sublist_append_left _ _).subperm
  · intro sc hsc
    have hle : recordsOf ((purgedAt s.records pr.now).erase pr.digest)
        (r.digest sc) ≤ recordsOf s.records (r.digest sc) :=
      recordsOf_erase_le.trans (recordsOf_purgedAt_le _ _ _)
    dsimp only [TicketReply.issue?, TicketReply.consume?, Option.toList, List.map]
    rw [List.countP_singleton]
    by_cases heq : call.request.ticket.text = sc
    · subst heq
      have ho : recordsOf s.records (r.digest call.request.ticket.text) = 1 :=
        recordsOf_eq_one.2 ⟨st, hdi ▸ hst⟩
      rw [hdi, recordsOf_erase_self, ho]
      simp
    · simpa [heq] using hle
  · intro c hc
    cases hc
    -- the digests agree, so the secrets do
    have hsc : call.request.ticket.text = i.2.ticket.text :=
      hin hu (hs.issued_used _ (List.mem_map_of_mem his)) (hdi.symm.trans hb.digest)
    obtain ⟨io, hiu, he⟩ := hb.expires
    refine ⟨i, his, congrArg ViewerTicketSecret.mk hsc, hb.claims, ?_, io, pr.now, hiu, hn, he ▸ hl⟩
    rw [← hb.claims]
    exact hm

theorem Accounted.step (hin : Set.InjOn r.digest used) (hs : Accounted used s log)
    (he : ∀ sc, event.secret? = some sc → sc ∈ used) :
    Accounted used (s.step event).2 (log ++ [(event, (s.step event).1)]) := by
  obtain ⟨hi, hc, hsa⟩ | ⟨c, hr, hse, hg, hwa⟩ | ⟨pl, c, rfl, hp, hst⟩ := step_cases s event
  · rw [hsa]
    exact hs.quiet hi hc (fun _ _ h => h) hs.waiting_used (List.sublist_append_left _ _).subperm
  · rw [hwa, hr]
    refine hs.quiet rfl rfl (fun _ _ h => h) ?_ ?_
    · intro w hw
      obtain hw | hw := List.mem_append.1 hw
      · exact hs.waiting_used w hw
      · obtain rfl := List.mem_singleton.1 hw
        exact he _ hse
    · rw [hg]
      cases hca : c.generated? <;> simp [hca, List.Subperm.refl]
  · rw [hst]
    obtain ⟨now, hi, hc, hre⟩ | ⟨call, pr, h, rfl, hr, hro, -, hre⟩ |
      ⟨call, pr, h, st, rfl, hso, hl, hm, hr, hre⟩ := commit_cases c s.records
    · refine hs.quiet hi hc ?_ ?_ ?_
      · intro d st hd
        rw [hre] at hd
        exact (purgeExpired_eq_some.1 hd).1
      · intro w hw
        exact hs.waiting_used w (List.mem_of_mem_eraseIdx hw)
      · exact (((List.eraseIdx_sublist _ _).filterMap _).subperm).trans
          (List.sublist_append_left _ _).subperm
    · rw [hr, hre]
      exact hs.issue hin hp hro
    · rw [hr, hre]
      exact hs.consume hin hp hso hl hm

/-! ## Every interleaving -/

/-- The clock reading that a caller took before it asked for the lock. -/
def TicketCaller.reading : TicketCaller r → Nat
  | .issue _ prepared _ => prepared.now.monotonicElapsedNanos
  | .consume _ prepared _ => prepared.now.monotonicElapsedNanos

/-- A record stays as it is through the step, unless the caller that runs
finds it expired or consumes it. -/
def Retains (s : TicketSystem r) (event : TicketEvent) : Prop :=
  ∀ (d : TicketDigest) (stored : StoredViewerTicket), s.records[d]? = some stored →
    (s.step event).2.records[d]? = some stored ∨
    ∃ place caller, event = .enter place ∧ s.waiting[place]? = some caller ∧
      (stored.expiresAfterMonotonicNanos ≤ caller.reading ∨
        ∃ call claims, (s.step event).1 = .consumed call (.ok claims) ∧ r.digest call.request.ticket.text = d)

/-- An issue that finds the capacity used up by tickets that have not expired
is refused. -/
def RefusesWhenFull (s : TicketSystem r) (event : TicketEvent) : Prop :=
  ∀ place call prepared h, event = .enter place → s.waiting[place]? = some (.issue call prepared h) →
    r.config.capacity ≤ (purgeExpired s.records prepared.now.monotonicElapsedNanos).size →
    (s.step event).1 = .issued call (.error .capacity)

theorem commit_reading {c : TicketCaller r} {rr : Records} {d : TicketDigest}
    {st : StoredViewerTicket} (hs : rr[d]? = some st)
    (hl : c.reading < st.expiresAfterMonotonicNanos) : (c.commit rr).2[d]? = some st ∨
      ∃ call cl, (c.commit rr).1 = .consumed call (.ok cl) ∧ r.digest call.request.ticket.text = d := by
  cases c with
  | issue call pr h =>
    left
    have hk : (purgedAt rr pr.now)[d]? = some st :=
      purgeExpired_eq_some.2 ⟨hs, hl⟩
    obtain ⟨e, hc⟩ | ⟨-, hf, hc⟩ := commitIssue_cases r pr rr
    · simpa only [TicketCaller.commit, hc] using hk
    have hne : d ≠ pr.digest := by
      rintro rfl
      rw [hf] at hk
      cases hk
    simpa only [TicketCaller.commit, hc, TreeMapKeys.getElem?_insert_ne hne] using hk
  | consume call pr h =>
    have hk : (purgedAt rr pr.now)[d]? = some st :=
      purgeExpired_eq_some.2 ⟨hs, hl⟩
    obtain ⟨e, -, hr⟩ | ⟨sr', -, -, -, hc⟩ := commitConsume_cases
    · exact .inl ((hr d).trans hk)
    by_cases hd : d = pr.digest
    · exact .inr ⟨call, sr'.claims, by simp only [TicketCaller.commit, hc],
        (consume_digest h).2.symm.trans hd.symm⟩
    · left
      simpa only [TicketCaller.commit, hc, TreeMapKeys.getElem?_erase_ne hd] using hk

theorem retains (s : TicketSystem r) (event : TicketEvent) : Retains s event := by
  intro d st hs
  obtain ⟨-, -, hsa⟩ | ⟨c, -, -, -, hw⟩ | ⟨pl, c, rfl, hp, hst⟩ := step_cases s event
  · exact .inl (by rw [hsa]; exact hs)
  · exact .inl (by rw [hw]; exact hs)
  by_cases hl : c.reading < st.expiresAfterMonotonicNanos
  · rw [hst]
    obtain hk | hc := commit_reading hs hl
    · exact .inl hk
    · exact .inr ⟨pl, c, rfl, hp, .inr hc⟩
  · exact .inr ⟨pl, c, rfl, hp, .inl (Nat.le_of_not_lt hl)⟩

theorem refusesWhenFull (s : TicketSystem r) (event : TicketEvent) : RefusesWhenFull s event := by
  rintro pl call pr h rfl hp hf
  simp only [TicketSystem.step, hp, TicketCaller.commit, InMemoryViewerTicketRegistry.commitIssue, if_pos hf]

theorem mem_usedSecrets {e sc} (hm : event ∈ e) (h : event.secret? = some sc) : sc ∈ usedSecrets e :=
  List.mem_filterMap.2 ⟨event, hm, h⟩

theorem accounted_run (hi : Set.InjOn r.digest used) {e}
    (hu : ∀ sc ∈ usedSecrets e, sc ∈ used) : Accounted used (after r e) (history r e) := by
  refine Run.run_induction_along (C := fun _ event => ∀ sc, event.secret? = some sc → sc ∈ used)
    (Accounted.initial used) ?_ e ?_
  · intro s log event hs he
    exact hs.step hi he
  · refine Run.along_of_forall _ ?_ _
    intro event hm sc hse
    exact hu sc (mem_usedSecrets hm hse)

theorem usedSecrets_subset {b e} (h : b ⊆ e) : usedSecrets b ⊆ usedSecrets e := by
  intro sc hs
  obtain ⟨event, he, hso⟩ := List.mem_filterMap.1 hs
  exact mem_usedSecrets (h he) hso

/-- Whatever the order in which callers get the lock and whatever their clocks
say: an issued ticket is consumed at most once; only a request with the
ticket's bindings, read before the ticket's time is over, consumes it, and
gets its claims; nothing else takes a ticket away before it expires; and the
registry refuses to issue rather than to exceed its capacity. The digest must
tell apart the secrets in play, and no secret may be generated twice. -/
theorem tickets_single_use_and_bound (r : InMemoryViewerTicketRegistry) (events : List TicketEvent)
    (hinj : Set.InjOn r.digest {secret | secret ∈ usedSecrets events}) (hdistinct : (generated events).Nodup) :
    (∀ issued ∈ issues (history r events), IssuedFor issued.1 issued.2 ∧
      timesConsumed (history r events) issued.2.ticket.text ≤ 1) ∧
    (∀ consumed ∈ consumptions (history r events), ∃ issued ∈ issues (history r events),
      Honours r issued consumed) ∧ ∀ before event rest, events = before ++ event :: rest →
      (after r before).records.size ≤ r.config.capacity ∧
      (after r (before ++ [event])).records.size ≤ r.config.capacity ∧
      Retains (after r before) event ∧ RefusesWhenFull (after r before) event := by
  have hr : Accounted {secret | secret ∈ usedSecrets events} (after r events) (history r events) :=
    accounted_run hinj fun _ h => h
  refine ⟨?_, hr.honoured, ?_⟩
  · intro issued hi
    refine ⟨hr.issued_for issued hi, ?_⟩
    have hsp := hr.spent _ (hr.issued_used _ (List.mem_map_of_mem hi))
    have hs := (List.sublist_append_left _ _).subperm.trans hr.generated_once
    rw [history, Run.answers_map_fst] at hs
    have ho := List.nodup_iff_count_le_one.1 hdistinct issued.2.ticket.text
    exact (Nat.le_add_right _ _).trans (hsp.trans ((hs.count_le _).trans ho))
  · rintro before event rest rfl
    have hb : ∀ some : List TicketEvent, some ⊆ before ++ event :: rest →
        (after r some).records.size ≤ r.config.capacity :=
      fun some hso => (accounted_run hinj fun _ h => usedSecrets_subset hso h).bounded
    exact ⟨hb before (List.subset_append_left _ _), hb (before ++ [event]) (by simp), retains _ _,
      refusesWhenFull _ _⟩

/-! ## Every ticket can be used -/

end Runs

/-! ## A ticket presented twice -/

/-- A registry for one ticket of one second, that reads every origin as
`http://a`. -/
def oneTicketRegistry : InMemoryViewerTicketRegistry where
  config := ⟨1, 10 ^ 9, Nat.one_pos, by decide, by decide, by decide⟩
  key := .replicate _ 0
  net := ⟨fun _ => some ⟨some "http".toList, some "a".toList⟩, fun _ => none, fun _ => none⟩
  hmacSha256 _ bytes := .ofFn fun i => bytes.getD (digestDomain.length + i) 0

/-- A viewer gets a ticket and two attempts to use it race. -/
def racingAttempts : List TicketEvent :=
  let issue : IssueCall :=
    { context := ⟨⟨['a'], [.viewerRead], by decide, by decide, by decide⟩, ⟨1⟩, ⟨1⟩, ⟨"http://a".toList⟩,
        .viewerWebsocket⟩
      request := ⟨⟨1⟩, ⟨1⟩, .viewOnly⟩
      now := .ok ⟨0, 5⟩
      random := .ok (.replicate _ 0) }
  let attempt : ConsumeCall :=
    { request := ⟨⟨List.replicate 43 'A'⟩, .viewerWebsocket, ⟨1⟩, ⟨1⟩, ⟨"http://a".toList⟩, .viewOnly⟩
      now := .ok ⟨0, 7⟩ }
  [.startIssue issue, .enter 0, .startConsume attempt, .startConsume attempt, .enter 1, .enter 0]

/-- The registry starts, the second attempt wins the race, and the ticket is
consumed once. -/
theorem racing_attempts_consume_once :
    InMemoryViewerTicketRegistry.withSources oneTicketRegistry.net oneTicketRegistry.hmacSha256
      oneTicketRegistry.config (.ok oneTicketRegistry.key) = .ok oneTicketRegistry ∧
    timesConsumed (history oneTicketRegistry racingAttempts) (List.replicate 43 'A') = 1 ∧
    (∀ issued ∈ issues (history oneTicketRegistry racingAttempts), IssuedFor issued.1 issued.2 ∧
      timesConsumed (history oneTicketRegistry racingAttempts) issued.2.ticket.text ≤ 1) ∧
    ∀ consumed ∈ consumptions (history oneTicketRegistry racingAttempts),
      ∃ issued ∈ issues (history oneTicketRegistry racingAttempts), Honours oneTicketRegistry issued consumed := by
  have hu : ∀ sc ∈ usedSecrets racingAttempts, sc = List.replicate 43 'A' := by decide +kernel
  have hi : Set.InjOn oneTicketRegistry.digest {sc | sc ∈ usedSecrets racingAttempts} := by
    intro a ha b hb _
    rw [hu a ha, hu b hb]
  obtain ⟨his, hc, -⟩ :=
    tickets_single_use_and_bound oneTicketRegistry racingAttempts hi (by decide +kernel)
  exact ⟨rfl, by decide +kernel, his, hc⟩

end Xenoteer.Server
