import StorageBackends.Backend.Registry
import StorageBackends.Http.RateLimit
import StorageBackends.Lifecycle.Instances

namespace StorageBackends.Http

/-!
# Servers

A server is a value: its configuration, the registry, the collaborators and
the tallies of the requests counted so far. It starts once the plans of all
backends are registered. The pages below `/docs`, which describe the service,
are no part of a server here.
-/

/-- A server between two requests. -/
structure Server where
  config : Service.Config
  registry : Registry
  collaborators : Collaborators
  tallies : List RateLimit.Tally

namespace Server

/-- Run the plan registrations of some backends, up to the first failure. -/
def registerPlans
    (collaborators : Collaborators) :
    List Backend → Except Failure Collaborators
  | [] => .ok collaborators
  | backend :: rest =>
      let outcome := backend.registerPlan.run collaborators
      match outcome.result with
      | .ok () => registerPlans outcome.collaborators rest
      | .error failure => .error failure

/-- Start a server: the plans of all backends are registered first. -/
def start
    (config : Service.Config)
    (registry : Registry)
    (collaborators : Collaborators) :
    Except Failure Server :=
  match registerPlans collaborators registry.backends with
  | .error failure => .error failure
  | .ok ready =>
      .ok
        { config := config
          registry := registry
          collaborators := ready
          tallies := [] }

end Server

end StorageBackends.Http
