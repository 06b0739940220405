import StepGraph.Proofs.Graph.Registration

namespace StepGraph

namespace Definition

def Offers (definition : Definition) (step : String) (outcome : Outcome)
    (successors : List String) : Prop :=
  ∃ route, definition.route? step = some route ∧
    (∃ declared ∈ route.outcomes, declared.key = outcome.key) ∧
    route.successors? outcome.key = some successors

/-- Goes from a step on by some outcomes to a last one, starting further steps on the way. -/
inductive Walk (definition : Definition) : String → List Outcome → List String → String → Prop
  | here (name : String) : Walk definition name [] [] name
  | onward {name next last : String} {outcome : Outcome} {outcomes : List Outcome}
      {stages steps : List String} (offers : definition.Offers name outcome (stages ++ [next]))
      (walk : Walk definition next outcomes steps last) :
      Walk definition name (outcome :: outcomes) (stages ++ next :: steps) last

/-- Goes from a step on by some outcomes to an ending, starting further steps on the way. -/
inductive Leads (definition : Definition) : String → List Outcome → List String → Prop
  | terminal {name : String} (isTerminal : definition.isTerminal name = true) :
      Leads definition name [] []
  | concluded {name : String} {outcome : Outcome} (offers : definition.Offers name outcome []) :
      Leads definition name [outcome] []
  | onward {name next : String} {outcome : Outcome} {outcomes : List Outcome}
      {stages steps : List String} (offers : definition.Offers name outcome (stages ++ [next]))
      (leads : Leads definition next outcomes steps) :
      Leads definition name (outcome :: outcomes) (stages ++ next :: steps)

variable {definition : Definition}

theorem Offers.unique {step : String} {outcome : Outcome} {successors others : List String}
    (offers : definition.Offers step outcome successors)
    (again : definition.Offers step outcome others) : others = successors := by
  obtain ⟨route, routed, _, mapped⟩ := offers
  obtain ⟨_, same, _, further⟩ := again
  cases routed.symm.trans same
  exact Option.some.inj (further.symm.trans mapped)

theorem Offers.mem_successorLists {step : String} {outcome : Outcome} {successors : List String}
    (offers : definition.Offers step outcome successors) :
    successors ∈ definition.successorLists step := by
  obtain ⟨route, routed, _, mapped⟩ := offers
  unfold Route.successors? at mapped
  obtain ⟨edge, found, rfl⟩ := Option.map_eq_some_iff.mp mapped
  exact Definition.mem_successorLists.mpr
    ⟨route, routed, edge, List.mem_of_find?_eq_some found, rfl⟩

theorem Offers.not_isTerminal (structured : definition.Structured) {step : String}
    {outcome : Outcome} {successors : List String}
    (offers : definition.Offers step outcome successors) : definition.isTerminal step = false := by
  obtain ⟨route, routed, _⟩ := offers
  by_contra terminal
  have isTerminal := List.contains_iff_mem.mp (Bool.of_not_eq_false terminal)
  rw [structured.terminal_unrouted step isTerminal] at routed
  contradiction

namespace Walk

theorem leads {name last : String} {outcomes others : List Outcome} {steps further : List String}
    (walk : definition.Walk name outcomes steps last)
    (leads : definition.Leads last others further) :
    definition.Leads name (outcomes ++ others) (steps ++ further) := by
  induction walk with
  | here => exact leads
  | onward offers _ ih =>
      rw [List.append_assoc, List.cons_append]
      exact .onward offers (ih leads)

theorem continuation {name last : String} {outcomes : List Outcome} {steps : List String}
    (walk : definition.Walk name outcomes steps last)
    (continuation : definition.Continuation name) :
    definition.Continuation last := by
  induction walk with
  | here => exact continuation
  | onward offers _ ih =>
      obtain ⟨_, routed, _, member, heq⟩ :=
        Definition.mem_successorLists.mp offers.mem_successorLists
      exact ih (.last continuation routed member (by simp [heq]))

theorem reachable {name last : String} {outcomes : List Outcome} {steps : List String}
    (walk : definition.Walk name outcomes steps last)
    (continuation : definition.Continuation name) :
    ∀ step ∈ steps, definition.Reachable step := by
  induction walk with
  | here => exact fun _ member => absurd member List.not_mem_nil
  | @onward _ next _ _ _ stages _ offers _ ih =>
      obtain ⟨_, routed, _, member, heq⟩ :=
        Definition.mem_successorLists.mp offers.mem_successorLists
      intro step isStep
      rw [List.append_cons] at isStep
      rcases List.mem_append.mp isStep with passed | later
      · exact .successor continuation routed member (heq ▸ passed)
      · exact ih (.last continuation routed member (by simp [heq])) step later

end Walk

end Definition

end StepGraph
