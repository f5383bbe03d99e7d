/-
The in-memory registry of one-time viewer tickets
(`xenoteer-server/src/viewer.rs`).

A call reads the clock and, to issue, the entropy source before it takes the
lock (`prepareIssue`, `prepareConsume`), and then runs one critical section
on the records (`commitIssue`, `commitConsume`). Between the two any other
call may run, so a critical section can use an older clock reading than one
before it. `TicketSystem.step` is that interleaving: callers that wait for the lock,
and the one that gets it next.

HMAC-SHA256 is a parameter: it takes a key of any length, so `digest` never
fails. An issued timestamp is an instant by its type, so `expires_at_nanos`
never fails either; the branches for its failure are kept.
-/
import Xenoteer.Lib.Run
import Xenoteer.Lib.TreeMapKeys
import Xenoteer.Lib.Utf8
import Xenoteer.Server.Auth

namespace Xenoteer.Server

open Viewer

inductive ViewerTicketRegistryError where
  | configuration
  | entropy
  | clock
  | capacity
  | invalidRequest
  | notFound
  | expired
  | claimMismatch
  | internal
deriving DecidableEq

abbrev ticketBytes : Nat := 32

def maxViewerTicketCapacity : Nat := 16384

/-- Durations in nanoseconds. -/
structure ViewerTicketRegistryConfig where
  capacity : Nat
  ttl : Nat
  capacity_pos : 0 < capacity
  capacity_le : capacity ≤ maxViewerTicketCapacity
  ttl_pos : 0 < ttl
  ttl_le : ttl ≤ maxViewerTicketTtlSeconds * 10 ^ 9

def ViewerTicketRegistryConfig.new (capacity ttl : Nat) :
    Except ViewerTicketRegistryError ViewerTicketRegistryConfig :=
  if h : capacity = 0 ∨ maxViewerTicketCapacity < capacity ∨ ttl = 0 ∨
      maxViewerTicketTtlSeconds * 10 ^ 9 < ttl then .error .configuration
  else .ok ⟨capacity, ttl, by omega, by omega, by omega, by omega⟩

/-- One sample of both clocks. -/
structure ViewerTicketClockReading where
  unixTimestampNanos : Int
  monotonicElapsedNanos : Nat

abbrev TicketDigest := Vector UInt8 ticketBytes

structure ViewerTicketClaims where
  principalId : ViewerPrincipalId
  audience : ViewerTicketAudience
  desktopId : DesktopId
  desktopGeneration : DesktopGeneration
  origin : ViewerOrigin
  mode : ViewerMode
  issuedAt : Timestamp
  expiresAt : Timestamp
  usePolicy : ViewerTicketUsePolicy
deriving DecidableEq

def ViewerTicketClaims.fromTicket (ticket : OneTimeViewerTicket) : ViewerTicketClaims where
  principalId := ticket.principalId
  audience := ticket.audience
  desktopId := ticket.desktopId
  desktopGeneration := ticket.desktopGeneration
  origin := ticket.origin
  mode := ticket.mode
  issuedAt := ticket.issuedAt
  expiresAt := ticket.expiresAt
  usePolicy := ticket.usePolicy

def ViewerTicketClaims.expiresAtNanos (claims : ViewerTicketClaims) : Except ViewerTicketRegistryError Int :=
  .ok claims.expiresAt.unixNanos

structure StoredViewerTicket where
  claims : ViewerTicketClaims
  expiresAfterMonotonicNanos : Nat
deriving DecidableEq

abbrev Records := Std.TreeMap TicketDigest StoredViewerTicket

def purgeExpired (records : Records) (monotonicElapsedNanos : Nat) : Records :=
  records.filter fun _ record =>
    monotonicElapsedNanos < record.expiresAfterMonotonicNanos && record.claims.expiresAtNanos.isOk

/-! ## Secrets -/

def ticketAlphabet : Text :=
  "ABCDEFGHIJKLMNOPQRSTUVWXYZabcdefghijklmnopqrstuvwxyz0123456789-_".toList

def ticketCharacter (index : UInt8) : Char := ticketAlphabet.getD index.toNat 'A'

/-- The loop of `encode_ticket_secret` over the chunks of three bytes, and its
remainder of two. -/
def encodeChunks : List UInt8 → Text
  | a :: b :: c :: rest =>
    ticketCharacter (a >>> 2) :: ticketCharacter (((a &&& 0x03) <<< 4) ||| (b >>> 4)) ::
      ticketCharacter (((b &&& 0x0f) <<< 2) ||| (c >>> 6)) :: ticketCharacter (c &&& 0x3f) :: encodeChunks rest
  | [first, second] =>
    [ticketCharacter (first >>> 2), ticketCharacter (((first &&& 0x03) <<< 4) ||| (second >>> 4)),
      ticketCharacter ((second &&& 0x0f) <<< 2)]
  | _ => []

def encodeTicketSecret (bytes : Vector UInt8 ticketBytes) : Text := encodeChunks bytes.toList

/-! ## The registry -/

structure ViewerTicketIssueContext where
  principal : Principal
  desktopId : DesktopId
  desktopGeneration : DesktopGeneration
  origin : ViewerOrigin
  audience : ViewerTicketAudience

inductive ViewerTicketConsumeAudience where
  | viewerWebsocket
  | unrecognized

structure ViewerTicketConsumeRequest where
  ticket : ViewerTicketSecret
  audience : ViewerTicketConsumeAudience
  desktopId : DesktopId
  desktopGeneration : DesktopGeneration
  origin : ViewerOrigin
  mode : ViewerMode

/-- The immutable part of `InMemoryViewerTicketRegistry`, with the libraries
it calls. -/
structure InMemoryViewerTicketRegistry where
  config : ViewerTicketRegistryConfig
  key : Vector UInt8 ticketBytes
  net : Net
  hmacSha256 : Vector UInt8 ticketBytes → List UInt8 → TicketDigest

def digestDomain : List UInt8 := Lib.Utf8.encode "xenoteer.viewer-ticket.v1\x00".toList

namespace InMemoryViewerTicketRegistry

/-- A registry for the key that the entropy source gave. -/
def withSources (net : Net) (hmacSha256 : Vector UInt8 ticketBytes → List UInt8 → TicketDigest)
    (config : ViewerTicketRegistryConfig) (key : Except ViewerTicketRegistryError (Vector UInt8 ticketBytes)) :
    Except ViewerTicketRegistryError InMemoryViewerTicketRegistry := do
  let config ← ViewerTicketRegistryConfig.new config.capacity config.ttl
  let key ← key
  return ⟨config, key, net, hmacSha256⟩

def digest (r : InMemoryViewerTicketRegistry) (secret : Text) : TicketDigest :=
  r.hmacSha256 r.key (digestDomain ++ Lib.Utf8.encode secret)

end InMemoryViewerTicketRegistry

/-- A call of `issue_ticket`, with what the clock and the entropy source
answer to it. -/
structure IssueCall where
  context : ViewerTicketIssueContext
  request : ViewerTicketRequest
  now : Except ViewerTicketRegistryError ViewerTicketClockReading
  random : Except ViewerTicketRegistryError (Vector UInt8 ticketBytes)

/-- A call of `consume`, with what the clock answers to it. -/
structure ConsumeCall where
  request : ViewerTicketConsumeRequest
  now : Except ViewerTicketRegistryError ViewerTicketClockReading

/-- What `issue_ticket` holds when it asks for the lock. -/
structure PreparedIssue where
  ticket : OneTimeViewerTicket
  digest : TicketDigest
  now : ViewerTicketClockReading
  expiresAfterMonotonicNanos : Nat

structure PreparedConsume where
  now : ViewerTicketClockReading
  digest : TicketDigest

/-- `i128::checked_add`. -/
def checkedAddI128 (a b : Int) : Option Int := if -2 ^ 127 ≤ a + b ∧ a + b < 2 ^ 127 then some (a + b) else none

/-- `u128::checked_add`. -/
def checkedAddU128 (a b : Nat) : Option Nat := if a + b < 2 ^ 128 then some (a + b) else none

namespace InMemoryViewerTicketRegistry

variable (r : InMemoryViewerTicketRegistry)

/-- `issue_ticket` up to the lock. -/
def prepareIssue (call : IssueCall) : Except ViewerTicketRegistryError PreparedIssue := do
  if !call.context.principal.hasGrant .viewerRead || !call.request.validate.isOk ||
      call.request.desktopId ≠ call.context.desktopId ||
      call.request.desktopGeneration ≠ call.context.desktopGeneration ||
      call.context.audience ≠ .viewerWebsocket then
    throw .invalidRequest
  discard ((ViewerOrigin.new r.net call.context.origin.text).mapError fun _ => .invalidRequest)
  let principalId ← (ViewerPrincipalId.new call.context.principal.id).mapError fun _ => .invalidRequest
  let now ← call.now
  let issuedNanos := now.unixTimestampNanos
  let expiresNanos ← (checkedAddI128 issuedNanos r.config.ttl).elim (throw .clock) pure
  let issuedAt ← (Timestamp.fromUnixTimestampNanos issuedNanos).mapError fun _ => .clock
  let expiresAt ← (Timestamp.fromUnixTimestampNanos expiresNanos).mapError fun _ => .clock
  let random ← call.random
  let secret ← (ViewerTicketSecret.new (encodeTicketSecret random)).mapError fun _ => .entropy
  let ticket : OneTimeViewerTicket :=
    { ticket := secret
      principalId
      audience := call.context.audience
      desktopId := call.request.desktopId
      desktopGeneration := call.request.desktopGeneration
      origin := call.context.origin
      mode := call.request.mode
      issuedAt
      expiresAt
      usePolicy := .singleUse }
  (ticket.validate r.net).mapError fun _ => .internal
  let expires ← (checkedAddU128 now.monotonicElapsedNanos r.config.ttl).elim (throw .clock) pure
  return ⟨ticket, r.digest secret.text, now, expires⟩

/-- `issue_ticket` under the lock. -/
def commitIssue (p : PreparedIssue) (records : Records) :
    Except ViewerTicketRegistryError OneTimeViewerTicket × Records :=
  let records := purgeExpired records p.now.monotonicElapsedNanos
  if r.config.capacity ≤ records.size then (.error .capacity, records)
  else if records.contains p.digest then (.error .entropy, records)
  else
    let stored : StoredViewerTicket := ⟨.fromTicket p.ticket, p.expiresAfterMonotonicNanos⟩
    (.ok p.ticket, records.insert p.digest stored)

/-- `consume` up to the lock. -/
def prepareConsume (call : ConsumeCall) : Except ViewerTicketRegistryError PreparedConsume := do
  let now ← call.now
  return ⟨now, r.digest call.request.ticket.text⟩

end InMemoryViewerTicketRegistry

/-- `matches!((request.audience, claims.audience), (ViewerWebsocket, ViewerWebsocket))`. -/
def audienceMatches : ViewerTicketConsumeAudience → ViewerTicketAudience → Bool
  | .viewerWebsocket, .viewerWebsocket => true
  | .unrecognized, _ => false

/-- `consume` under the lock. -/
def commitConsume (request : ViewerTicketConsumeRequest) (p : PreparedConsume) (records : Records) :
    Except ViewerTicketRegistryError ViewerTicketClaims × Records :=
  let now := p.now.monotonicElapsedNanos
  let target := records[p.digest]?
  if target.any (fun record => !record.claims.expiresAtNanos.isOk) then
    (.error .internal, purgeExpired (records.erase p.digest) now)
  else if target.any (fun record => record.expiresAfterMonotonicNanos ≤ now) then
    (.error .expired, purgeExpired (records.erase p.digest) now)
  else
    let records := purgeExpired records now
    match target with
    | none => (.error .notFound, records)
    | some ⟨claims, _⟩ =>
      if !audienceMatches request.audience claims.audience || request.desktopId ≠ claims.desktopId ||
          request.desktopGeneration ≠ claims.desktopGeneration || request.origin ≠ claims.origin ||
          request.mode ≠ claims.mode then
        (.error .claimMismatch, records)
      else
        (records[p.digest]?.elim (.error .notFound) fun record => .ok record.claims, records.erase p.digest)

/-! ## Interleaved calls -/

/-- A caller that has everything but the lock. -/
inductive TicketCaller (r : InMemoryViewerTicketRegistry) where
  | issue (call : IssueCall) (prepared : PreparedIssue) (h : r.prepareIssue call = .ok prepared)
  | consume (call : ConsumeCall) (prepared : PreparedConsume) (h : r.prepareConsume call = .ok prepared)

structure TicketSystem (r : InMemoryViewerTicketRegistry) where
  records : Records
  waiting : List (TicketCaller r)

/-- A new registry that nobody uses yet. -/
def TicketSystem.initial (r : InMemoryViewerTicketRegistry) : TicketSystem r := ⟨∅, []⟩

inductive TicketEvent where
  | startIssue (call : IssueCall)
  | startConsume (call : ConsumeCall)
  /-- The lock goes to the caller at this place among those that wait. -/
  | enter (place : Nat)

inductive TicketReply where
  /-- The call of this step now waits for the lock. -/
  | waits
  /-- Nobody waits at the place. -/
  | nobody
  | issued (call : IssueCall) (result : Except ViewerTicketRegistryError OneTimeViewerTicket)
  | consumed (call : ConsumeCall) (result : Except ViewerTicketRegistryError ViewerTicketClaims)

/-- The critical section of a caller. -/
def TicketCaller.commit {r : InMemoryViewerTicketRegistry} (records : Records) : TicketCaller r → TicketReply × Records
  | .issue call prepared _ =>
    let (result, records) := r.commitIssue prepared records
    (.issued call result, records)
  | .consume call prepared _ =>
    let (result, records) := commitConsume call.request prepared records
    (.consumed call result, records)

def TicketSystem.step {r : InMemoryViewerTicketRegistry} (s : TicketSystem r) : TicketEvent → TicketReply × TicketSystem r
  | .startIssue call =>
    match h : r.prepareIssue call with
    | .error error => (.issued call (.error error), s)
    | .ok prepared => (.waits, { s with waiting := s.waiting ++ [.issue call prepared h] })
  | .startConsume call =>
    match h : r.prepareConsume call with
    | .error error => (.consumed call (.error error), s)
    | .ok prepared => (.waits, { s with waiting := s.waiting ++ [.consume call prepared h] })
  | .enter place =>
    match s.waiting[place]? with
    | none => (.nobody, s)
    | some caller => ((caller.commit s.records).1, ⟨(caller.commit s.records).2, s.waiting.eraseIdx place⟩)

end Xenoteer.Server
