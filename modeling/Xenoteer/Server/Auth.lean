/-
Principals and their grants (`xenoteer-server/src/auth.rs`).
-/
import Xenoteer.Protocol.Viewer

namespace Xenoteer.Server

inductive Grant where
  | desktopStatus
  | desktopObserve
  | inputControl
  | applicationLaunch
  | applicationTerminate
  | windowControl
  | clipboardRead
  | clipboardWrite
  | captureRead
  | artifactRead
  | artifactDelete
  | viewerRead
  | accessibilityRead
  | accessibilityWrite
deriving DecidableEq

/-- An authenticated identity: one to 128 characters of the identifier
alphabet, and the set of its grants. -/
structure Principal where
  id : Text
  grants : List Grant
  nonempty : id ≠ []
  bounded : id.byteLen ≤ 128
  alphabet : id.all Viewer.isPrincipalCharacter = true

def Principal.hasGrant (p : Principal) (grant : Grant) : Bool := p.grants.contains grant

end Xenoteer.Server
