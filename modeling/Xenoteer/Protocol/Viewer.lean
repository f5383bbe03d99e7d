/-
Viewer tickets on the wire (`xenoteer-protocol/src/viewer.rs`): the exact
browser origin a ticket is bound to, the bearer secret, and the ticket's own
validation.

The URI parser and the address parsers belong to other libraries and are
parameters (`Net`): an address parser answers the canonical text of the
address it read. Nothing is assumed of them.
-/
import Xenoteer.Protocol.Result

namespace Xenoteer.Viewer

def maxViewerTicketTtlSeconds : Nat := 60

def maxViewerOriginBytes : Nat := 512

def minViewerTicketBytes : Nat := 43

def maxViewerTicketBytes : Nat := 128

def maxViewerPrincipalIdBytes : Nat := 128

inductive ViewerValidationError where
  | nilIdentifier
  | origin
  | principal
  | ticket
  | lifetime

/-! ## Origins -/

/-- What is read of an `http::Uri`. -/
structure Uri where
  scheme : Option Text
  authority : Option Text

structure Net where
  parseUri : Text → Option Uri
  ipv4 : Text → Option Text
  ipv6 : Text → Option Text

structure ViewerOrigin where
  text : Text
deriving DecidableEq

/-- `str::rsplit_once(separator)`. -/
def rsplitOnce (separator : Char) : Text → Option (Text × Text)
  | [] => none
  | c :: t =>
    match rsplitOnce separator t with
    | some (before, after) => some (c :: before, after)
    | none => if c = separator then some ([], t) else none

def isAsciiDigit (c : Char) : Bool := '0' ≤ c && c ≤ '9'

def isAsciiHexDigit (c : Char) : Bool := isLowerHexDigit c || ('A' ≤ c && c ≤ 'F')

/-- The number a text of digits stands for. -/
def decimal (digits : Text) : Nat := digits.foldl (fun n c => 10 * n + (c.toNat - '0'.toNat)) 0

def validLabel (label : Text) : Bool :=
  !label.isEmpty && label.byteLen ≤ 63 &&
    label.all (fun c => ('a' ≤ c && c ≤ 'z') || isAsciiDigit c || c = '-') &&
    label.head? ≠ some '-' && label.getLast? ≠ some '-'

def validateCanonicalRegNameOrIpv4 (net : Net) (host : Text) : Except ViewerValidationError Unit :=
  if host.isEmpty || 253 < host.byteLen || host.getLast? = some '.' then .error .origin
  else match net.ipv4 host with
    | some address => if address = host then .ok () else .error .origin
    | none =>
      let finalLabel := (host.split '.').getLastD host
      let numericFinalLabel := finalLabel.all isAsciiDigit ||
        ("0x".toList.isPrefixOf finalLabel && !(finalLabel.drop 2).isEmpty &&
          (finalLabel.drop 2).all isAsciiHexDigit)
      if numericFinalLabel then .error .origin
      else if (host.split '.').all validLabel then .ok ()
      else .error .origin

/-- A port after the host: decimal without leading zeros, not zero, and not
the scheme's default. -/
def validatePort (scheme port : Text) : Except ViewerValidationError Unit :=
  if port.isEmpty || !port.all isAsciiDigit || 65535 < decimal port then .error .origin
  else if decimal port = 0 || port ≠ Nat.toDigits 10 (decimal port) ||
      (scheme = "http".toList && decimal port = 80) || (scheme = "https".toList && decimal port = 443) then
    .error .origin
  else .ok ()

def validateCanonicalAuthority (net : Net) (scheme authority : Text) : Except ViewerValidationError Unit :=
  if authority.head? = some '[' then
    if ']' ∉ authority then .error .origin
    else
      let literal := (authority.drop 1).takeWhile (· ≠ ']')
      let remainder := authority.drop (literal.length + 2)
      if net.ipv6 literal ≠ some literal then .error .origin
      else match remainder with
        | [] => .ok ()
        | c :: port => if c = ':' then validatePort scheme port else .error .origin
  else
    match rsplitOnce ':' authority with
    | none => validateCanonicalRegNameOrIpv4 net authority
    | some (host, port) => do
      validateCanonicalRegNameOrIpv4 net host
      validatePort scheme port

def ViewerOrigin.new (net : Net) (value : Text) : Except ViewerValidationError ViewerOrigin :=
  if maxViewerOriginBytes < value.byteLen ||
      value.any (fun c => !(0x21 ≤ c.toNat && c.toNat ≤ 0x7e) || c = '%' || c = '\\') then .error .origin
  else
    let expectedScheme :=
      if "https://".toList.isPrefixOf value then some "https".toList
      else if "http://".toList.isPrefixOf value then some "http".toList
      else none
    match expectedScheme, net.parseUri value with
    | some expected, some ⟨some scheme, some authority⟩ =>
      if scheme ≠ expected || '@' ∈ authority || value ≠ scheme ++ "://".toList ++ authority then .error .origin
      else do
        validateCanonicalAuthority net scheme authority
        return ⟨value⟩
    | _, _ => .error .origin

/-! ## Principals and secrets -/

structure ViewerPrincipalId where
  text : Text
deriving DecidableEq

/-- `byte.is_ascii_alphanumeric() || matches!(byte, b'-' | b'_' | b'.' | b':' | b'@')`. -/
def isPrincipalCharacter (c : Char) : Bool := isAsciiAlphanumeric c || "-_.:@".toList.contains c

def ViewerPrincipalId.new (value : Text) : Except ViewerValidationError ViewerPrincipalId :=
  if value.isEmpty || maxViewerPrincipalIdBytes < value.byteLen || !value.all isPrincipalCharacter then
    .error .principal
  else .ok ⟨value⟩

structure ViewerTicketSecret where
  text : Text

def ViewerTicketSecret.new (value : Text) : Except ViewerValidationError ViewerTicketSecret :=
  if !(minViewerTicketBytes ≤ value.byteLen && value.byteLen ≤ maxViewerTicketBytes) ||
      !value.all (fun c => isAsciiAlphanumeric c || c = '_' || c = '-') then .error .ticket
  else .ok ⟨value⟩

/-! ## Tickets -/

inductive ViewerMode where
  | viewOnly
deriving DecidableEq

inductive ViewerTicketAudience where
  | viewerWebsocket
deriving DecidableEq

inductive ViewerTicketUsePolicy where
  | singleUse
deriving DecidableEq

structure ViewerTicketRequest where
  desktopId : DesktopId
  desktopGeneration : DesktopGeneration
  mode : ViewerMode

/-- The nil UUID is refused. -/
def ViewerTicketRequest.validate (r : ViewerTicketRequest) : Except ViewerValidationError Unit :=
  if r.desktopId.uuid = 0 ∨ r.desktopGeneration.uuid = 0 then .error .nilIdentifier else .ok ()

structure OneTimeViewerTicket where
  ticket : ViewerTicketSecret
  principalId : ViewerPrincipalId
  audience : ViewerTicketAudience
  desktopId : DesktopId
  desktopGeneration : DesktopGeneration
  origin : ViewerOrigin
  mode : ViewerMode
  issuedAt : Timestamp
  expiresAt : Timestamp
  usePolicy : ViewerTicketUsePolicy

def OneTimeViewerTicket.validate (net : Net) (t : OneTimeViewerTicket) : Except ViewerValidationError Unit := do
  ViewerTicketRequest.validate ⟨t.desktopId, t.desktopGeneration, t.mode⟩
  discard (ViewerPrincipalId.new t.principalId.text)
  discard (ViewerOrigin.new net t.origin.text)
  discard (ViewerTicketSecret.new t.ticket.text)
  let maximumNs : Int := maxViewerTicketTtlSeconds * 10 ^ 9
  if t.expiresAt.unixNanos ≤ t.issuedAt.unixNanos ∨
      maximumNs < t.expiresAt.unixNanos - t.issuedAt.unixNanos then .error .lifetime
  else .ok ()

end Xenoteer.Viewer
