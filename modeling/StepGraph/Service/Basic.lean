import StepGraph.Service.Knowledge
import StepGraph.Service.Review
import StepGraph.Service.Agent

namespace StepGraph

/-- Answers given one after another; the last one is repeated. -/
structure Script (α : Type) where
  answers : List (Fallible α)

namespace Script

def next (script : Script α) : Fallible α × Script α :=
  match script.answers with
  | [] => (.error (.fault .runtime "sequence exhausted"), script)
  | [answer] => (answer, script)
  | answer :: rest => (answer, ⟨rest⟩)

end Script

inductive KnowledgeService where
  | base (base : KnowledgeBase)
  | scripted (domains : List (String × Script Facts))

inductive DraftService where
  | template
  | agent (agent : Agent)
  | scripted (script : Script String)

inductive ReviewService where
  | rules (sections : List String)
  | scripted (script : Script Review)

/-- The services in their present state, with the prompts an agent has been given so far. -/
structure Services where
  knowledge : KnowledgeService := .base .standard
  drafting : DraftService := .template
  reviewing : ReviewService := .rules standardSections
  prompts : List String := []

namespace Services

def facts (services : Services) (domain : String) (params : Entries) : Fallible Facts × Services :=
  match services.knowledge with
  | .base base => (.ok (base.lookup domain (.record params)), services)
  | .scripted domains =>
      match domains.lookup domain with
      | none => (.ok [], services)
      | some script =>
          let (answer, script) := script.next
          let domains := domains.map fun entry =>
            if entry.1 = domain then (entry.1, script) else entry
          (answer, { services with knowledge := .scripted domains })

def draft (services : Services) (state : State) : Fallible String × Services :=
  match services.drafting with
  | .template => (draftFromTemplate state, services)
  | .agent agent =>
      (agent.draft, { services with prompts := services.prompts ++ [generationPrompt state] })
  | .scripted script =>
      let (answer, script) := script.next
      (answer, { services with drafting := .scripted script })

def review (services : Services) (content : String) (requirements : Entries) :
    Fallible Review × Services :=
  match services.reviewing with
  | .rules sections => (reviewByRules sections content requirements, services)
  | .scripted script =>
      let (answer, script) := script.next
      (answer, { services with reviewing := .scripted script })

def answer (services : Services) : (inquiry : Inquiry) → Fallible inquiry.Answer × Services
  | .facts domain params => services.facts domain params
  | .draft state => services.draft state
  | .review content requirements => services.review content requirements

end Services

end StepGraph
