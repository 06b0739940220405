import StepGraph.Plan.Choice
import StepGraph.Registry

namespace StepGraph.Plan

/-- A draft in the making, with what is to be complained of once it is assembled. -/
structure GraphPlan where
  families : List NamedFamily
  draft : Draft
  nameIssues : List Issue
  entryIssues : List Issue := []
  ceilingIssues : List Issue
  descriptionIssues : List Issue
  /-- Terminals as they were given, each once. -/
  terminals : List Value := []

def issuesAt (field : String) : Checked α → List Issue
  | .ok _ => []
  | .bad issues => issues.map (·.under (.field field))

def value? : Checked (Option α) → Option α
  | .ok a => a
  | .bad _ => none

def GraphPlan.start (plan : Value) : Fallible GraphPlan := do
  let families ← readFamilies (plan.getD "enums" .null)
  let name := plan.getD "name" .null
  let description := Form.optional Form.text (plan.getD "description" .null)
  let ceiling := Form.optional (Form.intAtLeast 1) (plan.getD "max_iterations" .null)
  return {
    families
    draft := { name := name.plain, description := value? description, ceiling := value? ceiling }
    nameIssues := issuesAt "name" (Form.text name)
    ceilingIssues := issuesAt "max_iterations" ceiling
    descriptionIssues := issuesAt "description" description }

def checkKey (value : Value) : Fallible Unit :=
  if value.key?.isNone then .error (.notAKey value) else .ok ()

/-- One name, or a collection of names, without the marks of the end. -/
def readSuccessors (value : Value) : Fallible (List Value) := do
  let names ←
    match value with
    | .text name => .ok [.text name]
    | value => value.itemsOf
  return names.filter (· != .text endMarker)

def checkSuccessors (key : Value) (names : List Value) : Checked (List String) :=
  let step : PathStep :=
    match key with
    | .int n => .index n
    | .bool b => .index (if b then 1 else 0)
    | key => .field key.plain
  (Checked.all Form.text 0 names).under step

namespace GraphPlan

def addStep (plan : GraphPlan) (name spec : Value) : Fallible GraphPlan := do
  checkKey name
  if let .text name := name then plan.draft.checkStep name
  let actions ← (spec.getD "do" .null).items.mapM Action.read
  let read : Checked StepSpec :=
    (fun name fatal description => ⟨name, stepOf actions, fatal, description⟩)
      <$> (Form.text name).under (.field "name")
      <*> Form.field spec.entries "fatal" Form.bool (some false)
      <*> Form.field spec.entries "description" (Form.optional Form.text) (some none)
  return { plan with draft := ← plan.draft.addStep (← read.toFallible) }

def checkSource (plan : GraphPlan) (source : Value) : Fallible Unit := do
  checkKey source
  if let .text source := source then plan.draft.checkSource source

def addEdge (plan : GraphPlan) (source target : Value) : Fallible GraphPlan := do
  plan.checkSource source
  let names ← readSuccessors target
  let read : Checked (String × List String) :=
    Prod.mk
      <$> (Form.text source).under (.field "source")
      <*> (checkSuccessors defaultOutcome.value names).under (.field "edges")
  let (source, names) ← read.toFallible
  return { plan with draft := ← plan.draft.addEdge source names }

def readPair (plan : GraphPlan) : Value → Fallible (Label × List Value)
  | .list [key, names] => do
      let label ← readLabel plan.families key
      let names ← readSuccessors names
      checkKey label.value
      return (label, names)
  | _ => .error (malformed "pair")

def checkMapping : List (Label × List Value) → Checked Mapping
  | [] => .ok []
  | (label, names) :: rest =>
      (fun names rest => (label, names) :: rest)
        <$> checkSuccessors label.value names
        <*> checkMapping rest

def addConditional (plan : GraphPlan) (source router mapping closing : Value) :
    Fallible GraphPlan := do
  let router ← RouterPlan.read plan.families router
  plan.checkSource source
  let pairs ← mapping.items.mapM plan.readPair
  let closing ← readClosing plan.families closing
  let _ ← closedOutcomes (pairs.map fun pair => (pair.1, [])) closing
  let read : Checked (String × Mapping) :=
    Prod.mk
      <$> (Form.text source).under (.field "source")
      <*> (checkMapping pairs).under (.field "edges")
  let (source, mapping) ← read.toFallible
  return { plan with draft := ← plan.draft.addConditional source router.router mapping closing }

def setEntry (plan : GraphPlan) (name : Value) : GraphPlan :=
  let read := Form.optional Form.text name
  { plan with
    draft := { plan.draft with entry := value? read }
    entryIssues := issuesAt "entry_point" read }

def addTerminals (plan : GraphPlan) (names : List Value) : GraphPlan :=
  { plan with
    draft := plan.draft.addTerminals (names.filterMap (·.text?))
    terminals := names.foldl
      (fun kept name => if kept.any (·.alike name) then kept else kept ++ [name]) plan.terminals }

def call (plan : GraphPlan) : Value → Fallible GraphPlan
  | .list (.text name :: args) =>
      match name, args with
      | "step", [name] => plan.addStep name .null
      | "step", [name, spec] => plan.addStep name spec
      | "edge", [source, target] => plan.addEdge source target
      | "cond", [source, router, mapping] => plan.addConditional source router mapping .null
      | "cond", [source, router, mapping, closing] =>
          plan.addConditional source router mapping closing
      | "entry", [name] => .ok (plan.setEntry name)
      | "terminal", names => .ok (plan.addTerminals names)
      | "finish", names => .ok (plan.addTerminals names)
      | _, _ => .error (malformed "call")
  | _ => .error (malformed "call")

def build (plan : GraphPlan) (tag : Nat) : Fallible Definition := do
  plan.terminals.forM checkKey
  let terminalIssues := issuesAt "terminals" (Checked.all Form.text 0 plan.terminals)
  let issues := plan.nameIssues ++ plan.entryIssues ++ terminalIssues ++ plan.ceilingIssues ++
    plan.descriptionIssues
  if issues.isEmpty then plan.draft.build tag else .error (.refused issues)

def compile (plan : GraphPlan) (tag : Nat) : Fallible Definition := do
  let definition ← plan.build tag
  definition.validate
  return definition

end GraphPlan

def calls (plan : Value) : List Value :=
  (plan.getD "calls" .null).items

/-- Applies the calls of a plan and assembles the definition, without validating it where the plan
says so. -/
def readGraph (plan : Value) (tag : Nat) : Fallible Definition := do
  let graph ← (calls plan).foldlM GraphPlan.call (← GraphPlan.start plan)
  if (plan.getD "unchecked" .null).holds then graph.build tag else graph.compile tag

/-- Applies the calls of a plan, skipping those that fail; says of each how it failed. -/
def tryCalls (plan : Value) : Fallible (GraphPlan × List (Option Failure)) := do
  let start ← GraphPlan.start plan
  return (calls plan).foldl
    (fun (graph, failures) call =>
      match graph.call call with
      | .ok graph => (graph, failures ++ [none])
      | .error failure => (graph, failures ++ [some failure]))
    (start, [])

end StepGraph.Plan
