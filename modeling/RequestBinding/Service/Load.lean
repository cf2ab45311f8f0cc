import RequestBinding.Manifest.Load
import RequestBinding.Service.Basic

/-!
# Loading services

The service for the manifest in a file.
-/

namespace RequestBinding
namespace Service

/-- Builds the service of a manifest; a failure is one of the work that `context` names. -/
def buildWithin (context : String) (settings : ServiceSettings) (m : Manifest) :
    Logged (Except LoadError Service) := do
  let s ← build settings m
  return s.mapError fun e => .within context (.startup e)

/-- Loads the manifest in a file and builds its service. -/
def load (files : Files) (config : RuntimeConfig) (path : String) :
    Logged (Except LoadError Service) := do
  match ← Manifest.load files path with
  | .error e => return .error e
  | .ok m => buildWithin s!"failed to start binding service for {path}" { config } m

end Service
end RequestBinding
