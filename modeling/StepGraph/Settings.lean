import StepGraph.Orchestrator.Builtin
import StepGraph.Settings.Datum

namespace StepGraph

/-- Where drafts come from. -/
inductive Backend where
  | template
  | agent
deriving Repr, DecidableEq, Inhabited

namespace Backend

def name : Backend → String
  | .template => "template"
  | .agent => "agent"

def ofName? : String → Option Backend
  | "template" => some .template
  | "agent" => some .agent
  | _ => none

def read (datum : Datum) : Checked Backend :=
  match datum with
  | .plain (.text name) =>
      match ofName? name with
      | some backend => .ok backend
      | none => .refuse .notListed
  | _ => .refuse .notListed

end Backend

/-- How drafts are generated. -/
structure Generation where
  backend : Backend := .template
  model : Option String := none
  systemPrompt : Option String := none
deriving Repr, DecidableEq, Inhabited

structure Settings where
  logLevel : String := "INFO"
  ceiling : Int := defaultCeiling
  historyLimit : Int := defaultHistoryLimit
  generation : Generation := {}
deriving Repr, DecidableEq, Inhabited

abbrev Environment := List (String × String)

def Environment.value? (environment : Environment) (name : String) : Option String :=
  (environment.lookup name).filter (!·.isEmpty)

def Generation.ofEntries (entries : List (String × Datum)) : Checked Generation :=
  Generation.mk
    <$> Form.field entries "backend" Backend.read (some .template)
    <*> Form.field entries "model" (Datum.optional Datum.text) (some none)
    <*> Form.field entries "system_prompt" (Datum.optional Datum.text) (some none)

namespace Settings

def readCeiling (entries : List (String × Datum)) : Checked Int :=
  Form.field entries "max_iterations" (Datum.intAtLeast 1) (some defaultCeiling)

def readHistoryLimit (entries : List (String × Datum)) : Checked Int :=
  Form.field entries "history_limit" (Datum.intAtLeast 1) (some defaultHistoryLimit)

def ofEntries (entries : List (String × Datum)) : Checked Settings :=
  Settings.mk
    <$> Form.field entries "log_level" Datum.text (some "INFO")
    <*> Form.field entries "engine" (Datum.nested readCeiling) (some defaultCeiling)
    <*> Form.field entries "orchestrator" (Datum.nested readHistoryLimit)
      (some defaultHistoryLimit)
    <*> Form.field entries "generation" (Datum.nested Generation.ofEntries) (some {})

/-- The settings in a document. One without content leaves everything at its default; one that is no
mapping, or has keys that are no texts, says nothing about settings. -/
def ofDocument (document : Datum) : Fallible Settings :=
  if document.holds then
    match document with
    | .record entries true => (ofEntries entries).toFallible
    | _ => .error (.fault .type "settings are not a mapping of names")
  else .ok {}

def wholeOf (text : String) : Fallible Datum :=
  (Numeral.whole 10 text).map fun n => .plain (.int n)

def override (environment : Environment) (name : String)
    (apply : String → Settings → Fallible Settings)
    (settings : Settings) : Fallible Settings :=
  match environment.value? name with
  | some text => apply text settings
  | none => .ok settings

def overridden (settings : Settings) (environment : Environment) : Fallible Settings :=
  override environment "LOG_LEVEL" (fun text settings => .ok { settings with logLevel := text })
      settings >>=
  override environment "MAX_ITERATIONS" (fun text settings => do
    let ceiling ← (readCeiling [("max_iterations", ← wholeOf text)]).toFallible
    return { settings with ceiling }) >>=
  override environment "HISTORY_LIMIT" (fun text settings => do
    let historyLimit ← (readHistoryLimit [("history_limit", ← wholeOf text)]).toFallible
    return { settings with historyLimit }) >>=
  override environment "GENERATION_BACKEND" (fun text settings => do
    let backend ← ((Backend.read (.plain (.text text))).under (.field "backend")).toFallible
    return { settings with generation := { settings.generation with backend } })

def load (document : Option Datum) (environment : Environment) : Fallible Settings := do
  let settings ← ofDocument (document.getD (.plain .null))
  settings.overridden environment

/-- The name under which settings are looked for: one that is given, else one in the environment,
else the usual one. -/
def sourceName (given : Option String) (environment : Environment) : String :=
  match given.filter (!·.isEmpty) with
  | some name => name
  | none => (environment.lookup "CONFIG").getD "config.yaml"

/-- The service for drafts. A backend that is named goes before the environment and the settings,
and its name may be in any case. -/
def drafting (settings : Settings) (backend : Option String) (environment : Environment) :
    Fallible DraftService :=
  let named := (backend.filter (!·.isEmpty)).orElse fun _ => environment.value? "GENERATION_BACKEND"
  let name := (named.getD settings.generation.backend.name).lowered
  match Backend.ofName? name with
  | some .template => .ok .template
  | some .agent =>
      let model := settings.generation.model.getD ""
      if model.isEmpty then
        .error (.fault .value "generation.model must be set for the agent backend")
      else .agent <$> Agent.ofModel model
  | none => .error (.fault .value s!"Unsupported generation backend: {name}")

def services (settings : Settings) (environment : Environment) : Fallible Services := do
  return { drafting := ← settings.drafting none environment }

def logLevels : List (String × Nat) :=
  [("NOTSET", 0), ("DEBUG", 10), ("INFO", 20), ("WARN", 30), ("WARNING", 30), ("ERROR", 40),
    ("FATAL", 50), ("CRITICAL", 50)]

def logThreshold (settings : Settings) : Fallible Nat :=
  let name := settings.logLevel.raised
  match logLevels.lookup name with
  | some threshold => .ok threshold
  | none =>
      let shown := name.quoted
      .error (.fault .value s!"Unknown level: {shown}")

def bareOrchestrator (settings : Settings) : Fallible Orchestrator :=
  Orchestrator.create settings.historyLimit settings.ceiling

/-- An orchestrator with the built-in workflows. Services that are not given follow from the
settings and the environment. -/
def orchestrator (settings : Settings) (services : Option Services) (environment : Environment) :
    Fallible Orchestrator := do
  let services ← (services.map .ok).getD (settings.services environment)
  let (orchestrator, failure) := (← settings.bareOrchestrator).registerBuiltin services 0
  match failure with
  | some failure => .error failure
  | none => .ok orchestrator

end Settings

end StepGraph
