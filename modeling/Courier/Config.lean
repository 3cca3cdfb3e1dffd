import Courier.Duration
import Courier.Text.Quoted

/-!
# Configuration

The protocol version that every frame must carry, the name of the session cookie, and the
longest delay between reconnect attempts.
-/

namespace Courier

/-- The settings of a client. -/
structure Config where
  version : UInt32
  cookieName : String
  maxBackoff : Duration
deriving DecidableEq

namespace Config

/-- The settings when nothing is said. -/
def standard : Config := ⟨1, "sirepo_dev", .ofSecs 60⟩

/-- Whether the longest delay is at least a second. -/
def isValid (c : Config) : Bool := 1 ≤ c.maxBackoff.secs

/-- The settings as they stand in a message. -/
def render (c : Config) : String :=
  "RouterConfig \x7b protocol_version: " ++ toString c.version.toNat
    ++ ", session_cookie_name: " ++ quote c.cookieName
    ++ ", max_backoff: " ++ c.maxBackoff.render ++ " \x7d"

end Config

end Courier
