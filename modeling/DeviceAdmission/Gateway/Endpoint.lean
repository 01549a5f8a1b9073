import DeviceAdmission.Http.Message
import DeviceAdmission.Http.Target

/-!
# Endpoints

The paths that the gateway knows and the methods that each of them takes. Paths are compared as they
were sent; only the id in a path may be escaped.
-/

namespace DeviceAdmission

inductive Endpoint where
  | health
  | authRequests
  | devices
  | device (id : String)
  | deviceStatus (id : String)
  | token (id : String)
  | verification
  deriving DecidableEq, Repr

namespace Endpoint

/-- The endpoint of a path between its slashes. Where the id is the last part it must not be
empty. -/
def ofSegments? : List String → Option Endpoint
  | ["", "api", "health"] => some health
  | ["", "api", "devices", "v1", "authentication", "auth_requests"] => some authRequests
  | ["", "api", "management", "v1", "devauth", "devices"] => some devices
  | ["", "api", "management", "v1", "devauth", "devices", id] =>
    if id.isEmpty then none else some (device id)
  | ["", "api", "management", "v1", "devauth", "devices", id, "status"] => some (deviceStatus id)
  | ["", "api", "management", "v1", "devauth", "tokens", id] =>
    if id.isEmpty then none else some (token id)
  | ["", "api", "internal", "v1", "devauth", "tokens", "verify"] => some verification
  | _ => none

/-- The endpoint that a target is for. -/
def ofTarget? (t : Http.Target) : Option Endpoint :=
  ofSegments? t.segments

/-- The methods that an endpoint takes. -/
def methods : Endpoint → List String
  | health | devices | device _ => ["GET", "HEAD"]
  | authRequests | verification => ["POST"]
  | deviceStatus _ => ["PUT"]
  | token _ => ["DELETE"]

/-- The answer to a method that the endpoint does not take. -/
def otherMethod (e : Endpoint) : Http.Response :=
  ⟨405, [("allow", ",".intercalate e.methods)], .empty⟩

end Endpoint

end DeviceAdmission
