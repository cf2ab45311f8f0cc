import RequestBinding.Binding.Run
import RequestBinding.Schema.Document
import RequestBinding.Service.Config

/-!
# Services

A service holds the operations of a manifest, the compiled schemas that their bodies need, a validator
and the greatest body. It is built once and does not change.
-/

namespace RequestBinding

structure Service where
  operations : List Operation
  schemas : NameMap CompiledSchema
  validator : Validator := .standard
  maxBodyOctets : Nat

/-- What a service is built with, beside its manifest. -/
structure ServiceSettings where
  config : RuntimeConfig := {}
  /-- A limit that goes before those of the manifest and of the environment. -/
  maxBodyOctets : Option Nat := none
  validator : Validator := .standard

namespace Service

/-- The limit that counts: the explicit one, else the manifest's, else that of the environment. -/
def limitOf (settings : ServiceSettings) (m : Manifest) : Nat :=
  (settings.maxBodyOctets.or m.maxBodyOctets).getD settings.config.maxBodyOctets

def readyEvent (settings : ServiceSettings) (s : Service) : LogEvent :=
  { level := .info
    message := "Binding service ready"
    fields := [("operations", toString s.operations.length), ("schemas", toString s.schemas.length),
      ("max_body_bytes", toString s.maxBodyOctets),
      ("validate_formats", toString settings.config.validateFormats)] }

/-- Builds the service of a manifest with a given way to compile schemas. -/
def buildWith (compiler : SchemaCompiler) (settings : ServiceSettings) (m : Manifest) :
    Logged (Except StartupError Service) := do
  match ← m.compileSchemas compiler with
  | .error e => return .error e
  | .ok schemas =>
    let service : Service :=
      { operations := m.operations, schemas, validator := settings.validator
        maxBodyOctets := limitOf settings m }
    Logged.emit (readyEvent settings service)
    return .ok service

/-- Builds the service of a manifest. -/
def build (settings : ServiceSettings) (m : Manifest) : Logged (Except StartupError Service) :=
  buildWith (CompiledSchema.compile settings.config.validateFormats) settings m

/-- The operations by their ids. -/
def table (s : Service) : NameMap Operation := .ofList (s.operations.map fun op => (op.id, op))

def operation? (s : Service) (id : String) : Option Operation := s.table.get? id

theorem operation?_eq_none_iff {s : Service} {id : String} :
    s.operation? id = none ↔ ∀ op ∈ s.operations, op.id ≠ id := by
  unfold operation? table
  rw [NameMap.get?_eq_none_iff, NameMap.mem_names_ofList, List.map_map]
  simp

/-- An operation is found under its own id. -/
theorem mem_of_operation?_eq_some {s : Service} {id : String} {op : Operation}
    (h : s.operation? id = some op) : op ∈ s.operations ∧ op.id = id := by
  obtain ⟨o, ho, heq⟩ := List.mem_map.mp (NameMap.mem_of_get?_ofList h)
  obtain ⟨rfl, rfl⟩ := Prod.mk.inj heq
  exact ⟨ho, rfl⟩

def schema? (s : Service) (name : String) : Option CompiledSchema := s.schemas.get? name

/-- What the service lends to each run. -/
def context (s : Service) : BindingContext where
  schemas := s.schemas
  validator := s.validator
  maxBodyOctets := s.maxBodyOctets

/-- Binds a request to one of the service's operations. -/
def bind (s : Service) (op : Operation) (r : Request) : Run := RequestBinding.bind s.context op r

/-- What a log says of a service. -/
def describe (s : Service) : String :=
  BindingError.record "BindingService" [("operations", toString s.operations.length),
    ("schemas", toString s.schemas.length), ("max_body_bytes", toString s.maxBodyOctets)]

end Service

/-- The service that a process shares; it is set at most once. -/
structure SharedService where
  service : Option Service := none

namespace SharedService

/-- Sets the service, or says why not. -/
def install (shared : SharedService) (s : Service) : Except String Service × SharedService :=
  match shared.service with
  | none => (.ok s, ⟨some s⟩)
  | some _ => (.error "a global binding service is already installed", shared)

end SharedService
end RequestBinding
