import RequestBinding.Log.Filter
import RequestBinding.Service.Config

/-!
# Log settings

Read from the environment. A process sets up its log once.
-/

namespace RequestBinding

inductive LogFormat where
  | json
  | pretty
deriving DecidableEq, Repr

namespace LogFormat

def name : LogFormat → String
  | json => "json"
  | pretty => "pretty"

/-- A name that is not known stands for JSON. -/
def ofName (text : String) : LogFormat := if Http.sameName text "pretty" then pretty else json

end LogFormat

structure LogConfig where
  level : String := "info"
  format : LogFormat := .json
  /-- Whether events are written by a worker of their own. -/
  async : Bool := true
  targetFilter : Option String := none
  includeLocation : Bool := false
deriving DecidableEq, Repr

namespace LogConfig

/-- The two words for flags. -/
def readFlag? : String → Option Bool
  | "true" => some true
  | "false" => some false
  | _ => none

def ofEnvironment (env : Environment) : LogConfig where
  level := (env "BRRTB_LOG_LEVEL").getD "info"
  format := (env "BRRTB_LOG_FORMAT").elim .json .ofName
  async := ((env "BRRTB_LOG_ASYNC").bind readFlag?).getD true
  targetFilter := env "BRRTB_LOG_TARGET_FILTER"
  includeLocation := ((env "BRRTB_LOG_INCLUDE_LOCATION").bind readFlag?).getD false

/-- The settings for work on a program. -/
def development : LogConfig :=
  { level := "debug", format := .pretty, async := false, includeLocation := true }

/-- The level that the settings name; an unknown name stands for `info`. -/
def baseLevel (c : LogConfig) : LogLevel :=
  ([LogLevel.trace, .debug, .warn, .error].find? (Http.sameName c.level ·.name)).getD .info

/-- The additional directives of the settings. -/
def additions (c : LogConfig) : List String :=
  match c.targetFilter with
  | none => []
  | some text => ((splitAt ',' text).map trimBlanks).filter (!·.isEmpty)

/-- The filter of the settings, and the directives that cannot be read. A filter of the environment
goes before the level of the settings. -/
def filter (env : Environment) (c : LogConfig) : LogFilter × List String :=
  let base := ((env "RUST_LOG").bind LogFilter.read?).getD ⟨[{ level := some c.baseLevel }]⟩
  let added := c.additions.filterMap LogDirective.read?
  (⟨base.directives ++ added⟩, c.additions.filter fun d => (LogDirective.read? d).isNone)

def warning (directive : String) : String := "Warning: Invalid log filter directive: " ++ directive

end LogConfig

/-- The log of a process: its most verbose level, once it is set up. -/
structure ProcessLog where
  level : Option LevelBound := none

/-- What setting up the log gives: whether a worker writes the events, and the warnings. -/
structure LogSetup where
  result : Except String Bool
  warnings : List String

namespace ProcessLog

/-- Sets up the log unless it has been set up already. -/
def setUp (env : Environment) (c : LogConfig) (log : ProcessLog) : LogSetup × ProcessLog :=
  let (filter, bad) := c.filter env
  let warnings := bad.map LogConfig.warning
  match log.level with
  | some _ => (⟨.error "Failed to initialize logging", warnings⟩, log)
  | none => (⟨.ok c.async, warnings⟩, ⟨some filter.maxLevel⟩)

end ProcessLog
end RequestBinding
