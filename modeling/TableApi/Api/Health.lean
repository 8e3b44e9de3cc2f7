import TableApi.Api.Resource
import TableApi.Store.Connection

namespace TableApi.Api

def version : String := "0.1.0"

def healthResponse (reachable : Bool) : Response :=
  let (status, state, database) :=
    if reachable then (200, "ok", "ok") else (503, "degraded", "unreachable")
  .json status (.obj [("status", .str state), ("version", .str version),
    ("database", .str database)])

def health {m : Type → Type} [Monad m] (service : Store.Service m) : m Reply := do
  match ← service.probe with
  | .ok () => return { response := healthResponse true }
  | .error e =>
    return { response := healthResponse false, warnings := [.healthCheckFailed e.cause] }

end TableApi.Api
