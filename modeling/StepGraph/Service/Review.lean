import StepGraph.Service.Template

namespace StepGraph

def standardSections : List String :=
  ["## Scope", "## Controls", "## Compliance"]

def reviewSection : String := "## Review Notes"

def mentions (text part : String) : Bool :=
  Text.occursIn part.toList text.toList

def sectionIssues (sections : List String) (content : String) : List String :=
  (sections.filter fun name => !mentions content name).map fun name =>
    "missing section " ++ name.quoted

def frameworkIssues (requirements : Entries) (content : String) : Fallible (List String) :=
  match (requirements.get? "compliance").getD .null with
  | .text framework =>
      if framework.isEmpty || mentions content framework then .ok []
      else .ok [s!"compliance framework {framework} is not referenced"]
  | value => if value.holds then .error (.notAText value) else .ok []

def requirementIssues (extra : List Value) (content : String) : List String :=
  let lowered := content.lowered
  (extra.filter fun item => !mentions lowered item.plain.lowered).map fun item =>
    "requirement not addressed: " ++ item.plain

def verdictOn (content : String) (requirements : Entries) (issues : List String) : Review :=
  let unsupported := mentions content noneIdentified
  let needsReview :=
    ((requirements.get? "require_review").getD .null).holds && !mentions content reviewSection
  { passed := issues.isEmpty && !needsReview
    issues := issues
    warnings := if unsupported then ["some sections have no supporting context"] else []
    recommendations :=
      if unsupported then ["retrieve additional knowledge before publishing"] else []
    needsReview := needsReview }

def reviewByRules (sections : List String) (content : String) (requirements : Entries) :
    Fallible Review :=
  if (Text.strip content.toList).isEmpty then
    .ok { passed := false, issues := ["content is empty"] }
  else do
    let framework ← frameworkIssues requirements content
    let extra ← additionalRequirements requirements
    let issues := sectionIssues sections content ++ framework ++ requirementIssues extra content
    return verdictOn content requirements issues

end StepGraph
