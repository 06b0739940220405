import StepGraph.Plan.Label
import StepGraph.Service.Basic

namespace StepGraph.Plan

def readTexts (piece : String) (value : Value) : Fallible (List String) :=
  value.items.mapM (textOf piece)

def readFact (value : Value) : Fallible Fact := do
  return ⟨← textOf "fact" (value.getD "text" .null), ← textOf "fact" (value.getD "category" .null),
    ← readTexts "tag" (value.getD "tags" .null)⟩

def readAdded (base : KnowledgeBase) : Value → Fallible KnowledgeBase
  | .list [.text domain, fact] => return base.addFact domain (← readFact fact)
  | _ => .error (malformed "fact")

def readKnowledgeBase (plan : Value) : Fallible KnowledgeBase := do
  let domains ←
    match plan.get? "facts" with
    | some (.record domains) =>
        domains.mapM fun entry => do return (entry.1, ← entry.2.items.mapM readFact)
    | _ => .ok KnowledgeBase.standard.domains
  let limit := ((plan.getD "limit" .null).int?).getD KnowledgeBase.standard.limit
  (plan.getD "add" .null).items.foldlM readAdded ⟨domains, limit⟩

/-- Reads a script. An item may be a failure to be raised; one that cannot be read fails when its
turn comes. -/
def readScript (read : Value → Fallible α) (items : Value) : Script α :=
  ⟨items.items.map fun item =>
    match item.get? "raise" with
    | some message => .error (.fault .runtime message.plain)
    | none => read item⟩

def readFacts : Value → Fallible Facts
  | .record entries => entries.mapM fun entry => do return (entry.1, ← readTexts "fact" entry.2)
  | _ => .error (malformed "list of facts")

def readAgent (plan : Value) : Agent :=
  match plan.get? "raise" with
  | some message => ⟨.error (.fault .runtime message.plain)⟩
  | none => ⟨.ok ((plan.get? "output").getD (plan.getD "plain" .null))⟩

def readReview : Value → Fallible Review
  | .record entries => (Review.ofEntries entries).toFallible
  | _ => .error (malformed "review")

/-- The sections a reviewer requires, the standard ones where none are given; a text is taken as its
characters. -/
def readSections (value : Value) : Fallible (List String) :=
  if value.holds then value.itemsOf >>= fun items => items.mapM (textOf "section")
  else .ok standardSections

def readKnowledge (plan : Value) : Fallible KnowledgeService :=
  match plan.get? "script" with
  | some (.record domains) =>
      .ok (.scripted (domains.map fun entry => (entry.1, readScript readFacts entry.2)))
  | _ => .base <$> readKnowledgeBase plan

def readDrafting (plan : Value) : Fallible DraftService :=
  match plan.get? "script", plan.get? "agent" with
  | some items, _ => .ok (.scripted (readScript (textOf "draft") items))
  | none, some agent => .ok (.agent (readAgent agent))
  | none, none => .ok .template

def readReviewing (plan : Value) : Fallible ReviewService :=
  match plan.get? "script", plan.get? "required_sections" with
  | some items, _ => .ok (.scripted (readScript readReview items))
  | none, some sections => .rules <$> readSections sections
  | none, none => .ok (.rules standardSections)

def readServices (plan : Value) : Fallible Services := do
  let usual : Services := {}
  let part {α : Type} (name : String) (read : Value → Fallible α) (default : α) : Fallible α :=
    match plan.getD name .null with
    | .null => .ok default
    | value => read value
  return {
    knowledge := ← part "knowledge" readKnowledge usual.knowledge
    drafting := ← part "generator" readDrafting usual.drafting
    reviewing := ← part "validator" readReviewing usual.reviewing }

end StepGraph.Plan
