import StepGraph.Proofs.Graph.Endings

namespace StepGraph

namespace Route

theorem unmapped_eq_nil_iff {route : Route} :
    route.unmapped = [] ↔
      ∀ outcome ∈ route.outcomes, ∃ edge ∈ route.edges, edge.outcome.key = outcome.key := by
  simp [unmapped]

theorem surplus_eq_nil_iff {route : Route} :
    route.surplus = [] ↔
      ∀ edge ∈ route.edges, ∃ outcome ∈ route.outcomes, outcome.key = edge.outcome.key := by
  simp [surplus]

theorem outcomes_eq_edges_iff {route : Route} :
    route.unmapped = [] ∧ route.surplus = [] ↔
      ∀ key, (∃ outcome ∈ route.outcomes, outcome.key = key) ↔
        ∃ edge ∈ route.edges, edge.outcome.key = key := by
  rw [unmapped_eq_nil_iff, surplus_eq_nil_iff]
  constructor
  · rintro ⟨hmapped, hanswered⟩ key
    constructor
    · rintro ⟨outcome, member, rfl⟩
      exact hmapped outcome member
    · rintro ⟨edge, member, rfl⟩
      exact hanswered edge member
  · intro hkeys
    exact ⟨fun outcome member => (hkeys outcome.key).mp ⟨outcome, member, rfl⟩,
      fun edge member => (hkeys edge.outcome.key).mpr ⟨edge, member, rfl⟩⟩

end Route

namespace Definition

/-- A definition whose parts fit together, whatever ways lead through it. -/
structure Structured (definition : Definition) : Prop where
  steps_ne_nil : definition.steps ≠ []
  entry_declared : ∃ entry, definition.entry = some entry ∧ definition.declares entry
  terminals_ne_nil : definition.terminals ≠ []
  terminal_declared : ∀ terminal ∈ definition.terminals, definition.declares terminal
  terminal_unrouted : ∀ terminal ∈ definition.terminals, definition.route? terminal = none
  source_declared : ∀ route ∈ definition.routes, definition.declares route.source
  outcomes_eq_edges : ∀ route ∈ definition.routes, ∀ key,
    (∃ outcome ∈ route.outcomes, outcome.key = key) ↔ ∃ edge ∈ route.edges, edge.outcome.key = key
  successor_declared : ∀ route ∈ definition.routes, ∀ edge ∈ route.edges,
    ∀ name ∈ edge.successors, definition.declares name
  terminal_last : ∀ route ∈ definition.routes, ∀ edge ∈ route.edges, ∀ earlier name later,
    edge.successors = earlier ++ name :: later → definition.isTerminal name → later = []

/-- A definition without parts that are never started and without ways that never end. -/
structure WellFormed (definition : Definition) : Prop extends Structured definition where
  reachable : ∀ step ∈ definition.steps, definition.Reachable step.name
  goes_on : ∀ name, definition.Continuation name →
    definition.isTerminal name ∨ ∃ route, definition.route? name = some route
  ends : ∀ name, definition.Continuation name → ∀ route, definition.route? name = some route →
    ∀ edge ∈ route.edges, definition.Ends edge.successors

@[simp] theorem mem_sortTexts {texts : List String} {text : String} :
    text ∈ sortTexts texts ↔ text ∈ texts := by
  simp [sortTexts]

theorem entryProblems_eq_nil_iff {definition : Definition} :
    definition.entryProblems = [] ↔
      ∃ entry, definition.entry = some entry ∧ definition.declares entry := by
  unfold entryProblems
  cases definition.entry with
  | none => simp
  | some entry => simp

theorem terminalProblem?_eq_none_iff {definition : Definition} {terminal : String} :
    definition.terminalProblem? terminal = none ↔
      definition.declares terminal ∧ definition.route? terminal = none := by
  unfold terminalProblem?
  cases definition.declares terminal <;> simp

theorem terminalProblems_eq_nil_iff {definition : Definition} :
    definition.terminalProblems = [] ↔
      definition.terminals ≠ [] ∧ ∀ terminal ∈ definition.terminals,
        definition.declares terminal ∧ definition.route? terminal = none := by
  simp [terminalProblems, terminalProblem?_eq_none_iff]

private theorem terminalLast_cons {definition : Definition} {first : String}
    {rest : List String} :
    (∀ earlier name later, first :: rest = earlier ++ name :: later →
        definition.isTerminal name → later = []) ↔
      (definition.isTerminal first → rest = []) ∧
        ∀ earlier name later, rest = earlier ++ name :: later →
          definition.isTerminal name → later = [] := by
  constructor
  · intro hlast
    refine ⟨hlast [] first rest rfl, fun earlier name later heq => ?_⟩
    exact hlast (first :: earlier) name later (by rw [heq, List.cons_append])
  · rintro ⟨hhead, htail⟩ earlier name later heq
    cases earlier with
    | nil =>
        cases heq
        exact hhead
    | cons head earlier =>
        cases heq
        exact htail earlier name later rfl

theorem successorProblems_eq_nil_iff {definition : Definition} {source : String}
    {outcome : Outcome} {successors : List String} :
    definition.successorProblems source outcome successors = [] ↔
      (∀ name ∈ successors, definition.declares name) ∧
        ∀ earlier name later, successors = earlier ++ name :: later →
          definition.isTerminal name → later = [] := by
  induction successors with
  | nil => simp [successorProblems]
  | cons first rest ih =>
      rw [terminalLast_cons, List.forall_mem_cons]
      simp only [successorProblems, List.append_eq_nil_iff, ih]
      cases definition.declares first <;> cases definition.isTerminal first <;>
        cases rest <;> simp

theorem routeProblems_eq_nil_iff {definition : Definition} {route : Route} :
    definition.routeProblems route = [] ↔
      definition.declares route.source ∧
        (∀ key, (∃ outcome ∈ route.outcomes, outcome.key = key) ↔
          ∃ edge ∈ route.edges, edge.outcome.key = key) ∧
        ∀ edge ∈ route.edges, (∀ name ∈ edge.successors, definition.declares name) ∧
          ∀ earlier name later, edge.successors = earlier ++ name :: later →
            definition.isTerminal name → later = [] := by
  rw [← Route.outcomes_eq_edges_iff]
  simp [routeProblems, successorProblems_eq_nil_iff, and_assoc]

theorem structuralProblems_eq_nil_iff {definition : Definition} :
    definition.structuralProblems = [] ↔ definition.Structured := by
  have hsteps : definition.stepProblems = [] ↔ definition.steps ≠ [] := by simp [stepProblems]
  simp only [structuralProblems, List.append_eq_nil_iff, List.flatMap_eq_nil_iff, hsteps,
    entryProblems_eq_nil_iff, terminalProblems_eq_nil_iff, routeProblems_eq_nil_iff]
  constructor
  · rintro ⟨⟨⟨hsteps, hentry⟩, hterminals, hterminal⟩, hroute⟩
    exact {
      steps_ne_nil := hsteps
      entry_declared := hentry
      terminals_ne_nil := hterminals
      terminal_declared := fun terminal member => (hterminal terminal member).1
      terminal_unrouted := fun terminal member => (hterminal terminal member).2
      source_declared := fun route member => (hroute route member).1
      outcomes_eq_edges := fun route member => (hroute route member).2.1
      successor_declared := fun route member edge hedge =>
        ((hroute route member).2.2 edge hedge).1
      terminal_last := fun route member edge hedge => ((hroute route member).2.2 edge hedge).2 }
  · intro structured
    exact ⟨⟨⟨structured.steps_ne_nil, structured.entry_declared⟩, structured.terminals_ne_nil,
        fun terminal member => ⟨structured.terminal_declared terminal member,
          structured.terminal_unrouted terminal member⟩⟩,
      fun route member => ⟨structured.source_declared route member,
        structured.outcomes_eq_edges route member,
        fun edge hedge => ⟨structured.successor_declared route member edge hedge,
          structured.terminal_last route member edge hedge⟩⟩⟩

theorem mem_unreachable {definition : Definition} {name : String} :
    name ∈ definition.unreachable ↔ definition.declares name ∧ ¬ definition.Reachable name := by
  simp [unreachable, declares, mem_reachable]

theorem unreachableProblems_eq_nil_iff {definition : Definition} :
    definition.unreachableProblems = [] ↔
      ∀ step ∈ definition.steps, definition.Reachable step.name := by
  have hempty : definition.unreachableProblems = [] ↔ definition.unreachable = [] := by
    unfold unreachableProblems
    cases definition.unreachable <;> simp
  rw [hempty, List.eq_nil_iff_forall_not_mem]
  simp [mem_unreachable, declares, stepNames]

theorem deadEndProblems_eq_nil_iff {definition : Definition} :
    definition.deadEndProblems = [] ↔ ∀ name, definition.Continuation name →
      definition.isTerminal name ∨ ∃ route, definition.route? name = some route := by
  simp only [deadEndProblems, List.filterMap_eq_nil_iff, mem_sortTexts, mem_continuations]
  apply forall_congr'
  intro name
  apply imp_congr_right
  intro _
  cases definition.isTerminal name <;> cases definition.route? name <;> simp

theorem endlessProblems_eq_nil_iff {definition : Definition} :
    definition.endlessProblems = [] ↔ ∀ name, definition.Continuation name →
      ∀ route, definition.route? name = some route →
        ∀ edge ∈ route.edges, definition.Ends edge.successors := by
  simp only [endlessProblems, List.flatMap_eq_nil_iff, mem_sortTexts, mem_continuations]
  apply forall_congr'
  intro name
  apply imp_congr_right
  intro continuation
  cases hroute : definition.route? name with
  | none => simp
  | some route =>
      simp only [Option.some.injEq, forall_eq', List.filterMap_eq_nil_iff]
      apply forall_congr'
      intro edge
      apply imp_congr_right
      intro member
      rw [← endsThrough_terminating_iff continuation hroute member]
      simp

theorem pathProblems_eq_nil_iff {definition : Definition} :
    definition.pathProblems = [] ↔
      (∀ step ∈ definition.steps, definition.Reachable step.name) ∧
      (∀ name, definition.Continuation name →
        definition.isTerminal name ∨ ∃ route, definition.route? name = some route) ∧
      ∀ name, definition.Continuation name → ∀ route, definition.route? name = some route →
        ∀ edge ∈ route.edges, definition.Ends edge.successors := by
  simp only [pathProblems, List.append_eq_nil_iff, unreachableProblems_eq_nil_iff,
    deadEndProblems_eq_nil_iff, endlessProblems_eq_nil_iff, and_assoc]

theorem wellFormed_iff {definition : Definition} :
    definition.WellFormed ↔
      definition.structuralProblems = [] ∧ definition.pathProblems = [] := by
  rw [structuralProblems_eq_nil_iff, pathProblems_eq_nil_iff]
  constructor
  · intro wellFormed
    exact ⟨wellFormed.toStructured, wellFormed.reachable, wellFormed.goes_on, wellFormed.ends⟩
  · rintro ⟨structured, hreachable, hgoesOn, hends⟩
    exact ⟨structured, hreachable, hgoesOn, hends⟩

theorem structured_of_checks {definition : Definition}
    (parts : definition.stepProblems ++ definition.entryProblems ++
      definition.routes.flatMap definition.routeProblems = [])
    (terminals : definition.terminals ≠ [])
    (closed : definition.terminals.all fun name =>
      definition.declares name && (definition.route? name).isNone) : definition.Structured := by
  have noTerminalProblems : definition.terminalProblems = [] := by
    refine terminalProblems_eq_nil_iff.mpr ⟨terminals, fun terminal member => ?_⟩
    have checked := List.all_eq_true.mp closed terminal member
    rwa [Bool.and_eq_true, Option.isNone_iff_eq_none] at checked
  obtain ⟨starts, routes⟩ := List.append_eq_nil_iff.mp parts
  refine structuralProblems_eq_nil_iff.mp ?_
  rw [structuralProblems, starts, noTerminalProblems, routes]
  rfl

theorem Structured.wellFormed {definition : Definition} (structured : definition.Structured)
    (reached : definition.steps.all fun step => definition.reachable.contains step.name)
    (goesOn : definition.continuations.all fun name =>
      definition.isTerminal name || (definition.route? name).isSome)
    (ends : definition.routes.all fun route => route.edges.all fun edge =>
      endsThrough definition.terminating edge.successors) : definition.WellFormed where
  toStructured := structured
  reachable step member :=
    mem_reachable.mp (List.contains_iff_mem.mp (List.all_eq_true.mp reached step member))
  goes_on name continuation := by
    have onward := List.all_eq_true.mp goesOn name (mem_continuations.mpr continuation)
    rwa [Bool.or_eq_true, Option.isSome_iff_exists] at onward
  ends name continuation route routed edge member := by
    have isRoute := List.mem_of_find?_eq_some routed
    exact (endsThrough_terminating_iff continuation routed member).mp
      (List.all_eq_true.mp (List.all_eq_true.mp ends route isRoute) edge member)

theorem validate_eq_ok_iff {definition : Definition} :
    definition.validate = .ok () ↔ definition.WellFormed := by
  rw [wellFormed_iff]
  unfold validate
  cases definition.structuralProblems <;> cases definition.pathProblems <;> simp

/-- Validation accepts exactly the well-formed definitions. Of any other it names some problems, and
where the parts fit together also the steps that are never started. -/
theorem validate_accepts_wellFormed (definition : Definition) :
    (definition.validate = .ok () ↔ definition.WellFormed) ∧
      (¬ definition.WellFormed → ∃ problems unreachable,
        definition.validate = .error (.invalidGraph definition.name problems unreachable) ∧
          problems ≠ [] ∧
          (definition.Structured → ∀ name, name ∈ unreachable ↔
            definition.declares name ∧ ¬ definition.Reachable name)) := by
  refine ⟨validate_eq_ok_iff, fun malformed => ?_⟩
  cases hstructural : definition.structuralProblems with
  | cons problem problems =>
      refine ⟨problem :: problems, [], by simp [validate, hstructural], by simp, ?_⟩
      intro structured
      rw [structuralProblems_eq_nil_iff.mpr structured] at hstructural
      contradiction
  | nil =>
      cases hpath : definition.pathProblems with
      | nil => exact absurd (wellFormed_iff.mpr ⟨hstructural, hpath⟩) malformed
      | cons problem problems =>
          refine ⟨problem :: problems, sortTexts definition.unreachable,
            by simp [validate, hstructural, hpath], by simp, ?_⟩
          intro _ name
          rw [mem_sortTexts, mem_unreachable]

end Definition

end StepGraph
