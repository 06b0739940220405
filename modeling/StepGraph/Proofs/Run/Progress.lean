import StepGraph.Proofs.Graph.Registration
import StepGraph.Proofs.Run.Course

namespace StepGraph

namespace Route

def decision (route : Route) : Router :=
  route.router.getD (.done (.plain defaultOutcome.value))

def Declares (route : Route) (label : Label) : Prop :=
  ∃ outcome ∈ route.outcomes, label.value.key? = some outcome.key

/-- A router that has failed, or has answered with something that is no declared outcome. -/
def Astray (route : Route) : Router → Prop
  | .done label => ¬ route.Declares label
  | .fail failure => failure ≠ .interrupted
  | _ => False

theorem successors?_eq_none_iff {route : Route} {key : Key} :
    route.successors? key = none ↔ ∀ edge ∈ route.edges, edge.outcome.key ≠ key := by
  simp [successors?]

theorem edge_of_successors? {route : Route} {key : Key} {successors : List String}
    (mapped : route.successors? key = some successors) :
    ∃ edge ∈ route.edges, edge.successors = successors := by
  unfold successors? at mapped
  obtain ⟨edge, found, rfl⟩ := Option.map_eq_some_iff.mp mapped
  exact ⟨edge, List.mem_of_find?_eq_some found, rfl⟩

theorem unconditional_declares (source : String) (successors : List String) :
    (unconditional source successors).Declares (.plain defaultOutcome.value) :=
  ⟨defaultOutcome, List.mem_singleton_self _, defaultOutcome.key_eq⟩

end Route

namespace Definition

theorem name_of_step? {definition : Definition} {name : String} {spec : StepSpec}
    (found : definition.step? name = some spec) : spec.name = name := by
  simpa using List.find?_some found

/-- The steps of a run as they follow one another: a step with those that come after it before the
next decision. -/
inductive Leg (definition : Definition) : String → List String → Prop
  | entry {step : String} (isEntry : definition.entry = some step) : Leg definition step []
  | part {name step : String} {rest : List String} {route : Route} {edge : Edge}
      (before : definition.Continuation name) (routed : definition.route? name = some route)
      (member : edge ∈ route.edges) (isSuffix : step :: rest <:+ edge.successors) :
      Leg definition step rest

theorem Leg.next {definition : Definition} {step next : String} {rest : List String}
    (leg : definition.Leg step (next :: rest)) : definition.Leg next rest := by
  cases leg with
  | part before routed member isSuffix =>
      exact .part before routed member ((List.suffix_cons step (next :: rest)).trans isSuffix)

theorem Leg.continuation {definition : Definition} {step : String}
    (leg : definition.Leg step []) : definition.Continuation step := by
  cases leg with
  | entry isEntry => exact .entry isEntry
  | part before routed member isSuffix =>
      obtain ⟨earlier, heq⟩ := isSuffix
      exact .last before routed member (by simp [← heq])

theorem Leg.declared {definition : Definition} (structured : definition.Structured)
    {step : String} {rest : List String} (leg : definition.Leg step rest) :
    ∃ spec, definition.step? step = some spec := by
  have declared : definition.declares step := by
    cases leg with
    | entry isEntry =>
        obtain ⟨entry, hentry, declared⟩ := structured.entry_declared
        cases hentry.symm.trans isEntry
        exact declared
    | part _ routed member isSuffix =>
        have hroute := List.mem_of_find?_eq_some routed
        have hstep := isSuffix.subset List.mem_cons_self
        exact structured.successor_declared _ hroute _ member step hstep
  obtain ⟨spec, member, hname⟩ := List.mem_map.mp (List.contains_iff_mem.mp declared)
  have : (definition.step? step).isSome := by
    rw [step?, List.find?_isSome]
    exact ⟨spec, member, by simp [hname]⟩
  exact Option.isSome_iff_exists.mp this

/-- Where a run of a definition can stand. -/
inductive OnTrack (definition : Definition) : Phase → Prop
  | fresh : OnTrack definition .fresh
  | entering {step : String} {rest : List String} (leg : definition.Leg step rest) :
      OnTrack definition (.entering step rest)
  | inside {spec : StepSpec} {rest : List String} (leg : definition.Leg spec.name rest)
      (program : Step) : OnTrack definition (.inside spec rest program)
  | routing {step : String} {route : Route} {program : Router}
      (continuation : definition.Continuation step) (routed : definition.route? step = some route)
      (comes : route.decision.ComesTo program) : OnTrack definition (.routing step route program)
  | concluded (step : String) : OnTrack definition (.concluded step)

theorem OnTrack.leg {definition : Definition} {spec : StepSpec} {rest : List String}
    {program : Step} (onTrack : definition.OnTrack (.inside spec rest program)) :
    definition.Leg spec.name rest := by
  cases onTrack with
  | inside leg => exact leg

theorem OnTrack.after {definition : Definition} {step : String} {route : Route} {edge : Edge}
    (continuation : definition.Continuation step) (routed : definition.route? step = some route)
    (member : edge ∈ route.edges) : definition.OnTrack (.after step edge.successors) := by
  cases hsuccessors : edge.successors with
  | nil => exact .concluded step
  | cons next rest =>
      exact .entering (.part continuation routed member (hsuccessors ▸ List.suffix_refl _))

end Definition

namespace Run

theorem Goes.onTrack {run next : Run} {circumstances : Circumstances} {events : List Event}
    (structured : run.definition.Structured) (onTrack : run.definition.OnTrack run.phase)
    (goes : run.Goes circumstances next events) : run.definition.OnTrack next.phase := by
  cases goes with
  | begin =>
      obtain ⟨entry, hentry, _⟩ := structured.entry_declared
      rw [hentry]
      exact .entering (.entry hentry)
  | enter phase _ _ found =>
      rw [phase] at onTrack
      cases onTrack with
      | entering leg =>
          exact .inside (Definition.name_of_step? found ▸ leg) _
  | read phase => exact .inside (phase ▸ onTrack).leg _
  | write phase => exact .inside (phase ▸ onTrack).leg _
  | adopt phase => exact .inside (phase ▸ onTrack).leg _
  | onward phase => exact .entering (phase ▸ onTrack).leg.next
  | route phase _ _ _ routed =>
      exact .routing (phase ▸ onTrack).leg.continuation routed .start
  | routerRead phase =>
      rw [phase] at onTrack
      cases onTrack with
      | routing continuation routed comes => exact .routing continuation routed (comes.read _)
  | routerWrite phase =>
      rw [phase] at onTrack
      cases onTrack with
      | routing continuation routed comes => exact .routing continuation routed comes.write
  -- The successors of a continuation step end in one, which is how the invariant comes back to
  -- itself after a decision.
  | follow phase _ mapped =>
      rw [phase] at onTrack
      cases onTrack with
      | routing continuation routed =>
          obtain ⟨edge, member, rfl⟩ := Route.edge_of_successors? mapped
          exact .after continuation routed member

theorem Asks.onTrack {run : Run} {effect : Effect} {next : effect.Reply → Phase}
    (onTrack : run.definition.OnTrack run.phase) (asks : run.Asks effect next)
    (reply : effect.Reply) : run.definition.OnTrack (next reply) := by
  cases asks with
  | step phase => exact .inside (phase ▸ onTrack).leg _
  | router phase =>
      rw [phase] at onTrack
      cases onTrack with
      | routing continuation routed comes => exact .routing continuation routed (comes.ask reply)

theorem Course.onTrack {definition : Definition} (structured : definition.Structured)
    {ceiling : Int} {state : State} {trace : List Event} {run : Run}
    (course : Course (create definition ceiling state) trace run) :
    definition.OnTrack run.phase := by
  induction course with
  | start => exact .fresh
  | go before _ moved ih =>
      have heq := before.definition_eq
      simp only [create] at heq
      subst heq
      exact (goes_of_move moved).onTrack structured ih
  | ask before _ asked reply ih =>
      have heq := before.definition_eq
      simp only [create] at heq
      subst heq
      exact (asks_of_move asked).onTrack ih reply
  | disturbed _ _ _ ih => exact ih

end Run

/-- The endings that the graph of a run allows for: a step without a way on, the ceiling, a failure
that is fatal, and cancellation. -/
inductive Ending.Regular : Ending → Prop
  | completed (step : String) : Regular (.completed step)
  | ceiling (graph : String) (ceiling : Int) (step : String) :
      Regular (.raised (.ceilingReached graph ceiling step) none)
  | fatal (step text : String) (failure : Failure) :
      Regular (.raised (.stepFailed step text true) (some failure))
  | cancelled (instanceId : Option String) : Regular (.raised (.instanceCancelled instanceId) none)

namespace Definition

/-- How a run of a definition may end where it stands at a phase. -/
inductive EndsAt (definition : Definition) (phase : Phase) : Ending → Prop
  | regular {ending : Ending} (regular : ending.Regular) : EndsAt definition phase ending
  | interrupted (interrupted : phase.Interrupted) :
      EndsAt definition phase (.raised .interrupted none)
  | astray {step : String} {route : Route} {program : Router} (value : Value)
      (text : Option String) (cause : Failure) (isPhase : phase = .routing step route program)
      (routed : definition.route? step = some route) (comes : route.decision.ComesTo program)
      (astray : route.Astray program) :
      EndsAt definition phase (.raised (.unroutable step value text) (some cause))

end Definition

namespace Run

/-- A key without an edge is not among the declared outcomes. -/
theorem not_declares_of_unmapped {definition : Definition}
    (structured : definition.Structured) {step : String} {route : Route} {label : Label} {key : Key}
    (routed : definition.route? step = some route) (isKey : label.value.key? = some key)
    (unmapped : route.successors? key = none) : ¬ route.Declares label := by
  rintro ⟨outcome, member, hkey⟩
  have hroute := List.mem_of_find?_eq_some routed
  obtain ⟨edge, hedge, heq⟩ :=
    (structured.outcomes_eq_edges route hroute outcome.key).mp ⟨outcome, member, rfl⟩
  have hsame : outcome.key = key := Option.some.inj (hkey.symm.trans isKey)
  exact Route.successors?_eq_none_iff.mp unmapped edge hedge (heq.trans hsame)

theorem Stops.endsAt {run last : Run} {circumstances : Circumstances} {ending : Ending}
    (wellFormed : run.definition.WellFormed) (onTrack : run.definition.OnTrack run.phase)
    (admitted : run.phase = .fresh → circumstances.admitted = true)
    (stops : run.Stops circumstances last ending) : run.definition.EndsAt run.phase ending := by
  cases stops with
  | refused phase refused =>
      rw [admitted phase] at refused
      contradiction
  | ceiling => exact .regular (.ceiling _ _ _)
  | cancelledBefore => exact .regular (.cancelled _)
  | undeclared phase missing =>
      rw [phase] at onTrack
      cases onTrack with
      | entering leg =>
          obtain ⟨spec, found⟩ := leg.declared wellFormed.toStructured
          rw [missing] at found
          contradiction
  | interrupted phase => exact .interrupted (phase ▸ .inside _ _)
  | fatal => exact .regular (.fatal _ _ _)
  | cancelledAfter => exact .regular (.cancelled _)
  | completed => exact .regular (.completed _)
  | deadEnd phase _ inner unrouted =>
      have continuation := (phase ▸ onTrack).leg.continuation
      rcases wellFormed.goes_on _ continuation with isTerminal | ⟨route, routed⟩
      · rw [inner] at isTerminal
        contradiction
      · rw [unrouted] at routed
        contradiction
  | routerInterrupted phase => exact .interrupted (phase ▸ .routing _ _)
  | routerFailed phase raised =>
      have onTrack := phase ▸ onTrack
      cases onTrack with
      | routing _ routed comes => exact .astray _ _ _ phase routed comes raised
  | noKey phase noKey =>
      have onTrack := phase ▸ onTrack
      cases onTrack with
      | routing _ routed comes =>
          refine .astray _ _ _ phase routed comes ?_
          rintro ⟨outcome, _, isKey⟩
          rw [noKey] at isKey
          contradiction
  | unmapped phase isKey unmapped =>
      have onTrack := phase ▸ onTrack
      cases onTrack with
      | routing _ routed comes =>
          exact .astray _ _ _ phase routed comes
            (not_declares_of_unmapped wellFormed.toStructured routed isKey unmapped)
  | concluded => exact .regular (.completed _)

theorem Course.endsAt {definition : Definition} (wellFormed : definition.WellFormed)
    {ceiling : Int} {state : State} {trace : List Event} {run last : Run}
    {circumstances : Circumstances} {ending : Ending}
    (course : Course (create definition ceiling state) trace run)
    (admitted : run.phase = .fresh → circumstances.admitted = true)
    (isOver : run.move circumstances = .over last ending) : definition.EndsAt run.phase ending := by
  have onTrack := course.onTrack wellFormed.toStructured
  have heq : run.definition = definition := course.definition_eq
  subst heq
  exact (stops_of_move isOver).endsAt wellFormed onTrack admitted

end Run

namespace Route

end Route

namespace Definition

end Definition

end StepGraph
