import StepGraph.Proofs.Run.Progress

namespace StepGraph

/-! ### Keys -/

namespace Draft

/-- A draft after further calls that succeeded. -/
inductive Onward (draft : Draft) : Draft → Prop
  | here : Onward draft draft
  | step {later after : Draft} {spec : StepSpec} (before : Onward draft later)
      (h : later.addStep spec = .ok after) : Onward draft after
  | edge {later after : Draft} {source : String} {targets : List String}
      (before : Onward draft later) (h : later.addEdge source targets = .ok after) :
      Onward draft after
  | conditional {later after : Draft} {source : String} {router : Router} {mapping : Mapping}
      {closing : Option Closing} (before : Onward draft later)
      (h : later.addConditional source router mapping closing = .ok after) : Onward draft after
  | entry {later : Draft} (before : Onward draft later) (name : String) :
      Onward draft (later.setEntry name)
  | terminals {later : Draft} (before : Onward draft later) (names : List String) :
      Onward draft (later.addTerminals names)

def assembled (draft : Draft) (tag : Nat) : Definition :=
  { draft with tag }

variable {draft wired later : Draft} {source : String} {router : Router} {mapping : Mapping}
  {family : Family}

end Draft

/-! ### Problems -/

namespace Definition

variable {definition : Definition} {route : Route} {problem : String}

end Definition

namespace Draft

theorem eq_assembled_of_build {draft : Draft} {tag : Nat} {definition : Definition}
    (built : draft.build tag = .ok definition) : definition = draft.assembled tag := by
  unfold build at built
  split at built
  · cases built
  · cases built
    rfl

end Draft

/-! ### The result -/

namespace Route.ClosedBy

variable {definition : Definition} {route : Route} {mapping : Mapping} {family : Family}

end Route.ClosedBy

namespace Draft

variable {draft wired later : Draft} {source : String} {router : Router} {mapping : Mapping}
  {family : Family}

def verdicts : Family where
  name := "Verdict"
  members := [("OK", .text "ok"), ("REDO", .text "redo")]

def review (ceiling : Option Int) : Draft where
  name := "review"
  ceiling := ceiling
  steps := [{ name := "check", action := .done .nothing },
    { name := "publish", action := .done .nothing }]
  entry := some "check"
  terminals := ["publish"]

end Draft

end StepGraph
