import DeviceAdmission.Gateway.Command
import DeviceAdmission.Gateway.Link
import DeviceAdmission.Release
import DeviceAdmission.Service.Admission

/-!
# The gateway

The service over HTTP. Each request is read as a command, the command is carried out, and its
outcome is answered. A request that is no command never reaches the service.
-/

namespace DeviceAdmission

structure Gateway where
  service : Admission
  settings : GatewaySettings

namespace Gateway

open Http (Request Response)

/-- Carry out an action and answer with its value or its failure. -/
def answer {α : Type} (requestId : Option String) (x : Action α) (write : α → Response)
    (w : World) : Response × World :=
  match x.run w with
  | (.ok a, w) => (write a, w)
  | (.error f, w) => (((Refusal.ofFailure f).withRequestId requestId).response, w)

/-- What is told of the health of the service. -/
def healthDocument : Json.Value :=
  .object [("service", .text serviceName), ("status", .text "ok"), ("version", .text version)]

/-- The answer that hands out a token. -/
def tokenResponse (raw : String) : Response :=
  ⟨200, [("content-type", "application/jwt")], .text raw⟩

/-- The answer that shows a page of the listing at a path. -/
def pageResponse (path : String) (page : Page Device) : Response :=
  let r := Response.ofJson 200 (.list (page.items.map Device.json))
  { r with headers := r.headers ++ [("link", page.linkHeader path)] }

/-- Carry out a command and answer it. -/
def perform (g : Gateway) (ids : FreshIds) (requestId : Option String) :
    Command → World → Response × World
  | .health => fun w => (.ofJson 200 healthDocument, w)
  | .submit body signature =>
    answer requestId (g.service.submit ids body signature) tokenResponse
  | .setStatus tenant deviceId status =>
    answer requestId (g.service.setStatus tenant deviceId status) fun _ => .bare 204
  | .getDevice tenant deviceId =>
    answer requestId (g.service.getDevice tenant deviceId) fun d => .ofJson 200 d.json
  | .listDevices tenant path page =>
    answer requestId (g.service.listDevices tenant page) (pageResponse path)
  | .verify raw => answer requestId (g.service.verify raw) fun _ => .bare 200
  | .revokeToken tenant tokenId =>
    answer requestId (g.service.revokeToken tenant tokenId) fun _ => .bare 204

/-- A response as it is sent: with its length, and to `HEAD` without its body. -/
def send (method : String) (r : Response) : Response :=
  if method = "HEAD" then { r.sized with body := .empty } else r.sized

/-- Answer a request. -/
def handle (g : Gateway) (ids : FreshIds) (r : Request) (w : World) : Response × World :=
  match Command.ofRequest g.settings r with
  | .error response => (send r.method response, w)
  | .ok command =>
    let answered := g.perform ids (requestId? r) command w
    (send r.method answered.1, answered.2)

end Gateway

end DeviceAdmission
