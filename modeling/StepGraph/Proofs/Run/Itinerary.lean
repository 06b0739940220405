import Mathlib.Data.List.Induction
import StepGraph.Proofs.Run.Progress

namespace StepGraph

inductive Waypoint where
  | step (name : String)
  | decision (step : String) (outcome : Value) (successors : List String)

def Event.waypoint? : Event → Option Waypoint
  | .started _ step _ _ => some (.step step)
  | .routed step outcome successors => some (.decision step outcome successors)
  | .adopted _ => none

def waypointsIn (trace : List Event) : List Waypoint :=
  trace.filterMap (·.waypoint?)

@[simp] theorem waypointsIn_append (earlier later : List Event) :
    waypointsIn (earlier ++ later) = waypointsIn earlier ++ waypointsIn later :=
  List.filterMap_append ..

theorem Route.keyed_edge_of_successors? {route : Route} {key : Key} {successors : List String}
    (mapped : route.successors? key = some successors) :
    ∃ edge ∈ route.edges, edge.outcome.key = key ∧ edge.successors = successors := by
  unfold successors? at mapped
  obtain ⟨edge, found, rfl⟩ := Option.map_eq_some_iff.mp mapped
  exact ⟨edge, List.mem_of_find?_eq_some found, by simpa using List.find?_some found, rfl⟩

private theorem split_concat {α : Type} {front earlier later : List α} {last item : α}
    (split : front ++ [last] = earlier ++ item :: later) :
    (later = [] ∧ earlier = front ∧ item = last) ∨
      ∃ between, later = between ++ [last] ∧ front = earlier ++ item :: between := by
  rcases later.eq_nil_or_concat' with rfl | ⟨between, final, rfl⟩
  · obtain ⟨rfl, same⟩ := List.append_inj' split rfl
    exact .inl ⟨rfl, rfl, (List.singleton_inj.mp same).symm⟩
  · rw [← List.cons_append, ← List.append_assoc] at split
    obtain ⟨rfl, same⟩ := List.append_inj' split rfl
    exact .inr ⟨between, by rw [List.singleton_inj.mp same], rfl⟩

namespace Definition

/-- The ways that can be gone through a graph, each with the steps that are still to be started
before the next decision. -/
inductive Itinerary (definition : Definition) : List Waypoint → List String → Prop
  | start {entry : String} (isEntry : definition.entry = some entry) :
      Itinerary definition [] [entry]
  | step {way : List Waypoint} {name : String} {rest : List String}
      (before : Itinerary definition way (name :: rest)) :
      Itinerary definition (way ++ [.step name]) rest
  | decision {way : List Waypoint} {name : String} {outcome : Value} {route : Route} {edge : Edge}
      (before : Itinerary definition (way ++ [.step name]) [])
      (inner : definition.isTerminal name = false) (routed : definition.route? name = some route)
      (member : edge ∈ route.edges) (isKey : outcome.key? = some edge.outcome.key) :
      Itinerary definition (way ++ [.step name] ++ [.decision name outcome edge.successors])
        edge.successors

/-- A way that begins at the entry point. Each decision is made for the step right before it, for
one of the outcomes of its route, and is followed by the successors for that outcome alone, all of
them unless the way ends among them; the next decision is for the last of them. -/
structure Walked (definition : Definition) (way : List Waypoint) : Prop where
  starts : ∀ first later, way = first :: later → ∃ entry, definition.entry = some entry ∧
    first = .step entry ∧
      (later = [] ∨ ∃ outcome successors more, later = .decision entry outcome successors :: more)
  decides : ∀ earlier name outcome successors later,
    way = earlier ++ .decision name outcome successors :: later →
      (∃ before, earlier = before ++ [.step name]) ∧
      ∃ route, definition.route? name = some route ∧
        ∃ edge ∈ route.edges, outcome.key? = some edge.outcome.key ∧ edge.successors = successors
  follows : ∀ earlier name outcome successors later,
    way = earlier ++ .decision name outcome successors :: later →
      (∃ started, started <+: successors ∧ later = started.map .step) ∨
        ∃ last next others more, successors.getLast? = some last ∧
          later = successors.map .step ++ .decision last next others :: more
  stops : ∀ earlier name later, way = earlier ++ .step name :: later →
    definition.isTerminal name = true → later = []
  reachable : ∀ name, .step name ∈ way → name ∈ definition.reachable
  continuation : ∀ name outcome successors, .decision name outcome successors ∈ way →
    name ∈ definition.continuations

theorem Leg.reachable {definition : Definition} {step : String} {rest : List String}
    (leg : definition.Leg step rest) : definition.Reachable step := by
  cases leg with
  | entry isEntry => exact .entry isEntry
  | part before routed member isSuffix =>
      exact .successor before routed member (isSuffix.subset List.mem_cons_self)

namespace Itinerary

variable {definition : Definition} {way : List Waypoint} {pending : List String}

/-- What is started next, and what has been started last, with what follows it. -/
theorem legs (itinerary : definition.Itinerary way pending) :
    (∀ name rest, pending = name :: rest → definition.Leg name rest) ∧
      ∀ earlier name, way = earlier ++ [.step name] → definition.Leg name pending := by
  induction itinerary with
  | start isEntry =>
      refine ⟨fun name rest same => ?_, fun earlier name same => ?_⟩
      · cases same
        exact .entry isEntry
      · simp at same
  | step _ ih =>
      have leg := ih.1 _ _ rfl
      refine ⟨fun name rest same => ?_, fun earlier name same => ?_⟩
      · subst same
        exact leg.next
      · cases List.singleton_inj.mp (List.append_inj' same rfl).2
        exact leg
  | decision _ _ routed member _ ih =>
      have continuation := (ih.2 _ _ rfl).continuation
      refine ⟨fun name rest same => ?_, fun earlier name same => ?_⟩
      · exact .part continuation routed member (same ▸ List.suffix_refl _)
      · cases List.singleton_inj.mp (List.append_inj' same rfl).2

theorem starts (itinerary : definition.Itinerary way pending) :
    ∃ entry, definition.entry = some entry ∧
      (way = [] ∧ pending = [entry] ∨ way = [.step entry] ∧ pending = [] ∨
        ∃ outcome successors more,
          way = .step entry :: .decision entry outcome successors :: more) := by
  induction itinerary with
  | start isEntry => exact ⟨_, isEntry, .inl ⟨rfl, rfl⟩⟩
  | step _ ih =>
      obtain ⟨entry, isEntry, ⟨rfl, same⟩ | ⟨-, none⟩ | ⟨outcome, successors, more, rfl⟩⟩ := ih
      · cases same
        exact ⟨_, isEntry, .inr (.inl ⟨rfl, rfl⟩)⟩
      · cases none
      · exact ⟨entry, isEntry, .inr (.inr ⟨outcome, successors, _, rfl⟩)⟩
  | @decision front name outcome _ edge _ _ _ _ _ ih =>
      obtain ⟨entry, isEntry, ⟨none, -⟩ | ⟨same, -⟩ | ⟨other, others, more, same⟩⟩ := ih
      · simp at none
      · have single : front ++ [.step name] = [] ++ [.step entry] := same
        obtain ⟨rfl, same⟩ := List.append_inj' single rfl
        cases List.singleton_inj.mp same
        exact ⟨_, isEntry, .inr (.inr ⟨outcome, edge.successors, [], rfl⟩)⟩
      · rw [same]
        exact ⟨entry, isEntry, .inr (.inr ⟨other, others, _, rfl⟩)⟩

/-- Of what was decided last the pending steps are still to be started; of all earlier decisions
nothing is left. -/
theorem follows (itinerary : definition.Itinerary way pending) {earlier later : List Waypoint}
    {name : String} {outcome : Value} {successors : List String}
    (split : way = earlier ++ .decision name outcome successors :: later) :
    (∃ started, later = started.map .step ∧ successors = started ++ pending) ∨
      ∃ last next others more, successors.getLast? = some last ∧
        later = successors.map .step ++ .decision last next others :: more := by
  induction itinerary generalizing later with
  | start => simp at split
  | @step _ final _ _ ih =>
      obtain ⟨-, -, same⟩ | ⟨between, rfl, shorter⟩ := split_concat split
      · cases same
      · rcases ih shorter with ⟨started, rfl, rfl⟩ | ⟨last, next, others, more, isLast, rfl⟩
        · exact .inl ⟨started ++ [final], by simp, by simp⟩
        · exact .inr ⟨last, next, others, more ++ [.step final], isLast, by simp⟩
  | @decision front final chosen _ edge _ _ _ _ _ ih =>
      obtain ⟨rfl, -, same⟩ | ⟨between, rfl, shorter⟩ := split_concat split
      · cases same
        exact .inl ⟨[], rfl, rfl⟩
      · rcases ih shorter with ⟨started, rfl, rfl⟩ | ⟨last, next, others, more, isLast, rfl⟩
        · rw [List.append_nil]
          rcases started.eq_nil_or_concat' with rfl | ⟨stages, last, rfl⟩
          · cases List.singleton_inj.mp (List.append_inj' shorter rfl).2
          · rw [List.map_append, ← List.cons_append, ← List.append_assoc] at shorter
            cases List.singleton_inj.mp (List.append_inj' shorter rfl).2
            exact .inr ⟨final, chosen, edge.successors, [], by simp, rfl⟩
        · exact .inr ⟨last, next, others, more ++ [.decision final chosen edge.successors],
            isLast, by simp⟩

theorem decides (itinerary : definition.Itinerary way pending) {earlier later : List Waypoint}
    {name : String} {outcome : Value} {successors : List String}
    (split : way = earlier ++ .decision name outcome successors :: later) :
    (∃ before, earlier = before ++ [.step name]) ∧ definition.Continuation name ∧
      ∃ route, definition.route? name = some route ∧
        ∃ edge ∈ route.edges,
          outcome.key? = some edge.outcome.key ∧ edge.successors = successors := by
  induction itinerary generalizing later with
  | start => simp at split
  | step _ ih =>
      obtain ⟨-, -, same⟩ | ⟨between, rfl, shorter⟩ := split_concat split
      · cases same
      · exact ih shorter
  | @decision front last next route edge before _ routed member isKey ih =>
      obtain ⟨rfl, rfl, same⟩ | ⟨between, rfl, shorter⟩ := split_concat split
      · cases same
        exact ⟨⟨front, rfl⟩, (before.legs.2 _ _ rfl).continuation, route, routed, edge, member,
          isKey, rfl⟩
      · exact ih shorter

/-- Only the last of some successors can be terminal, and no decision is made for it. -/
theorem stops (structured : definition.Structured) (itinerary : definition.Itinerary way pending)
    {earlier later : List Waypoint} {name : String} (split : way = earlier ++ .step name :: later)
    (isTerminal : definition.isTerminal name = true) : later = [] ∧ pending = [] := by
  have final : ∀ {rest}, definition.Leg name rest → rest = [] := by
    intro rest leg
    cases leg with
    | entry => rfl
    | part _ routed member isSuffix =>
        obtain ⟨stages, same⟩ := isSuffix
        have isRoute := List.mem_of_find?_eq_some routed
        exact structured.terminal_last _ isRoute _ member stages name rest same.symm isTerminal
  induction itinerary generalizing later with
  | start => simp at split
  | step before ih =>
      obtain ⟨rfl, rfl, same⟩ | ⟨between, rfl, shorter⟩ := split_concat split
      · cases same
        exact ⟨rfl, final (before.legs.1 _ _ rfl)⟩
      · cases (ih shorter).2
  | decision _ inner _ _ _ ih =>
      obtain ⟨-, -, same⟩ | ⟨between, rfl, shorter⟩ := split_concat split
      · cases same
      · obtain ⟨rfl, -⟩ := ih shorter
        cases List.singleton_inj.mp (List.append_inj' shorter rfl).2
        rw [inner] at isTerminal
        contradiction

theorem reachable (itinerary : definition.Itinerary way pending) {name : String}
    (member : .step name ∈ way) : definition.Reachable name := by
  induction itinerary with
  | start => simp at member
  | step before ih =>
      rcases List.mem_append.mp member with old | new
      · exact ih old
      · cases List.mem_singleton.mp new
        exact (before.legs.1 _ _ rfl).reachable
  | decision _ _ _ _ _ ih =>
      rcases List.mem_append.mp member with old | new
      · exact ih old
      · cases List.mem_singleton.mp new

theorem walked (structured : definition.Structured)
    (itinerary : definition.Itinerary way pending) : definition.Walked way where
  starts := by
    rintro first later rfl
    obtain ⟨entry, isEntry, ⟨none, -⟩ | ⟨same, -⟩ | ⟨outcome, successors, more, same⟩⟩ :=
      itinerary.starts
    · cases none
    · cases same
      exact ⟨entry, isEntry, rfl, .inl rfl⟩
    · cases same
      exact ⟨entry, isEntry, rfl, .inr ⟨outcome, successors, more, rfl⟩⟩
  decides := by
    intro earlier name outcome successors later split
    obtain ⟨before, -, chosen⟩ := itinerary.decides split
    exact ⟨before, chosen⟩
  follows := by
    intro earlier name outcome successors later split
    rcases itinerary.follows split with ⟨started, isLater, isPrefix⟩ | further
    · exact .inl ⟨started, ⟨pending, isPrefix.symm⟩, isLater⟩
    · exact .inr further
  stops _ _ _ split isTerminal := (itinerary.stops structured split isTerminal).1
  reachable _ member := mem_reachable.mpr (itinerary.reachable member)
  continuation := by
    intro name outcome successors member
    obtain ⟨earlier, later, split⟩ := List.append_of_mem member
    exact mem_continuations.mpr (itinerary.decides split).2.1

end Itinerary

inductive Stands (definition : Definition) : List Waypoint → Phase → Prop
  | fresh : Stands definition [] .fresh
  | entering {way : List Waypoint} {step : String} {rest : List String}
      (itinerary : definition.Itinerary way (step :: rest)) :
      Stands definition way (.entering step rest)
  | inside {way : List Waypoint} {spec : StepSpec} {rest : List String}
      (itinerary : definition.Itinerary (way ++ [.step spec.name]) rest) (program : Step) :
      Stands definition (way ++ [.step spec.name]) (.inside spec rest program)
  | routing {way : List Waypoint} {step : String} {route : Route}
      (itinerary : definition.Itinerary (way ++ [.step step]) [])
      (inner : definition.isTerminal step = false) (routed : definition.route? step = some route)
      (program : Router) : Stands definition (way ++ [.step step]) (.routing step route program)
  | concluded {way : List Waypoint} {step : String} {outcome : Value}
      (itinerary : definition.Itinerary (way ++ [.step step] ++ [.decision step outcome []]) []) :
      Stands definition (way ++ [.step step] ++ [.decision step outcome []]) (.concluded step)

namespace Stands

variable {definition : Definition} {way : List Waypoint}

theorem unmoved {phase : Phase} {events : List Event} (stands : definition.Stands way phase)
    (silent : waypointsIn events = []) : definition.Stands (way ++ waypointsIn events) phase := by
  rw [silent, List.append_nil]
  exact stands

theorem further {spec : StepSpec} {rest : List String} {program after : Step}
    (stands : definition.Stands way (.inside spec rest program)) :
    definition.Stands way (.inside spec rest after) := by
  cases stands with
  | inside itinerary => exact .inside itinerary after

theorem undecided {step : String} {route : Route} {program after : Router}
    (stands : definition.Stands way (.routing step route program)) :
    definition.Stands way (.routing step route after) := by
  cases stands with
  | routing itinerary inner routed => exact .routing itinerary inner routed after

theorem after {step : String} {outcome : Value} {successors : List String}
    (itinerary : definition.Itinerary (way ++ [.step step] ++ [.decision step outcome successors])
      successors) :
    definition.Stands (way ++ [.step step] ++ [.decision step outcome successors])
      (.after step successors) := by
  cases successors with
  | nil => exact .concluded itinerary
  | cons next rest => exact .entering itinerary

theorem walked (structured : definition.Structured) {phase : Phase}
    (stands : definition.Stands way phase) : definition.Walked way := by
  cases stands with
  | fresh =>
      obtain ⟨entry, isEntry, -⟩ := structured.entry_declared
      exact (Itinerary.start isEntry).walked structured
  | entering itinerary => exact itinerary.walked structured
  | inside itinerary => exact itinerary.walked structured
  | routing itinerary => exact itinerary.walked structured
  | concluded itinerary => exact itinerary.walked structured

end Stands

end Definition

namespace Run

variable {run next last : Run} {circumstances : Circumstances} {events : List Event}
  {way : List Waypoint}

theorem Goes.stands (structured : run.definition.Structured)
    (stands : run.definition.Stands way run.phase) (goes : run.Goes circumstances next events) :
    run.definition.Stands (way ++ waypointsIn events) next.phase := by
  cases goes with
  | begin phase =>
      rw [phase] at stands
      cases stands
      obtain ⟨entry, isEntry, -⟩ := structured.entry_declared
      rw [isEntry]
      exact .entering (.start isEntry)
  | enter phase _ _ found =>
      rw [phase] at stands
      cases Definition.name_of_step? found
      cases stands with
      | entering itinerary => exact .inside itinerary.step _
  | read phase => exact (phase ▸ stands).further.unmoved rfl
  | write phase => exact (phase ▸ stands).further.unmoved rfl
  | adopt phase => exact (phase ▸ stands).further.unmoved rfl
  | onward phase =>
      rw [phase] at stands
      cases stands with
      | inside itinerary => exact (Definition.Stands.entering itinerary).unmoved rfl
  | route phase _ _ inner routed =>
      rw [phase] at stands
      cases stands with
      | inside itinerary => exact (Definition.Stands.routing itinerary inner routed _).unmoved rfl
  | routerRead phase => exact (phase ▸ stands).undecided.unmoved rfl
  | routerWrite phase => exact (phase ▸ stands).undecided.unmoved rfl
  | follow phase isKey mapped =>
      rw [phase] at stands
      obtain ⟨edge, member, rfl, rfl⟩ := Route.keyed_edge_of_successors? mapped
      cases stands with
      | routing itinerary inner routed =>
          exact .after (itinerary.decision inner routed member isKey)

theorem Asks.stands {effect : Effect} {onward : effect.Reply → Phase}
    (stands : run.definition.Stands way run.phase) (asks : run.Asks effect onward)
    (reply : effect.Reply) : run.definition.Stands way (onward reply) := by
  cases asks with
  | step phase => exact (phase ▸ stands).further
  | router phase => exact (phase ▸ stands).undecided

theorem Course.stands {definition : Definition} (structured : definition.Structured)
    {ceiling : Int} {state : State} {trace : List Event}
    (course : Course (create definition ceiling state) trace run) :
    definition.Stands (waypointsIn trace) run.phase := by
  induction course with
  | start => exact .fresh
  | go before _ moved ih =>
      have same := before.definition_eq
      simp only [create] at same
      subst same
      rw [waypointsIn_append]
      exact (goes_of_move moved).stands structured ih
  | ask before _ asked reply ih =>
      have same := before.definition_eq
      simp only [create] at same
      subst same
      exact (asks_of_move asked).stands ih reply
  | disturbed _ _ _ ih => exact ih

theorem Stops.itinerary {step : String} (stands : run.definition.Stands way run.phase)
    (stops : run.Stops circumstances last (.completed step)) :
    run.definition.Itinerary way [] ∧ ∃ earlier,
      way = earlier ++ [.step step] ∧ run.definition.isTerminal step = true ∨
        ∃ outcome, way = earlier ++ [.step step, .decision step outcome []] := by
  cases stops with
  | completed phase _ isTerminal =>
      rw [phase] at stands
      cases stands with
      | @inside earlier _ _ itinerary => exact ⟨itinerary, earlier, .inl ⟨rfl, isTerminal⟩⟩
  | concluded phase =>
      rw [phase] at stands
      cases stands with
      | @concluded earlier _ outcome itinerary =>
          exact ⟨itinerary, earlier, .inr ⟨outcome, by simp⟩⟩

end Run

/-- The trace of a run of a registered definition is a walk through its graph. Where the run
completes, all successors of each decision have been started, and the step that it ends with is the
one started last. -/
theorem Run.Course.walks_graph {registry : Registry} {definition : Definition} {ceiling : Int}
    {state : State} {trace : List Event} {run : Run} (built : registry.Built)
    (accepted : registry.isRegistered definition = true) (identity : registry.TellsApart definition)
    (course : Run.Course (Run.create definition ceiling state) trace run) :
    definition.Walked (waypointsIn trace) ∧
    ∀ circumstances last step, run.move circumstances = .over last (.completed step) →
      (∃ earlier,
        waypointsIn trace = earlier ++ [.step step] ∧ definition.isTerminal step = true ∨
          ∃ outcome, waypointsIn trace = earlier ++ [.step step, .decision step outcome []]) ∧
      ∀ earlier name outcome successors later,
        waypointsIn trace = earlier ++ .decision name outcome successors :: later →
          successors.map .step <+: later := by
  have structured : definition.Structured :=
    (built.wellFormed definition (Registry.mem_of_isRegistered accepted identity)).toStructured
  have stands := course.stands structured
  refine ⟨stands.walked structured, ?_⟩
  intro circumstances last step isOver
  have same : run.definition = definition := course.definition_eq
  rw [← same] at stands ⊢
  obtain ⟨itinerary, ended⟩ := (stops_of_move isOver).itinerary stands
  refine ⟨ended, ?_⟩
  intro earlier name outcome successors later split
  rcases itinerary.follows split with
    ⟨started, rfl, rfl⟩ | ⟨last, next, others, more, -, rfl⟩
  · rw [List.append_nil]
  · exact List.prefix_append _ _

def reprinting : Definition where
  name := "reprinting"
  steps :=
    [{ name := "draft", action := .done .same }, { name := "proofread", action := .done .same },
      { name := "layout", action := .done .same }, { name := "publish", action := .done .same }]
  routes :=
    [.unconditional "draft" ["proofread", "layout"],
      { source := "layout"
        router := some (.done (.plain (.text "again")))
        edges := [⟨.ofText "again", ["proofread"]⟩, ⟨.ofText "stop", ["publish"]⟩]
        outcomes := [.ofText "again", .ofText "stop"] },
      .unconditional "proofread" []]
  entry := some "draft"
  terminals := ["publish"]
  ceiling := none
  description := none

theorem wellFormed_reprinting : reprinting.WellFormed := by
  refine (Definition.structured_of_checks rfl (List.cons_ne_nil _ _) rfl).wellFormed ?_ ?_ ?_ <;>
    decide +kernel

theorem Run.Course.walks_graph_reprinting :
    ∃ trace run last,
      Run.Course (Run.create reprinting defaultCeiling {}) trace run ∧
      run.move ⟨0, true, false⟩ = .over last (.completed "proofread") ∧
      waypointsIn trace =
        [.step "draft", .decision "draft" (.text "default") ["proofread", "layout"],
          .step "proofread", .step "layout", .decision "layout" (.text "again") ["proofread"],
          .step "proofread", .decision "proofread" (.text "default") []] ∧
      reprinting.Walked (waypointsIn trace) := by
  have built : Registry.Built ⟨[reprinting]⟩ := .singleton wellFormed_reprinting
  have identity := Registry.tellsApart_singleton reprinting
  have begun : Run.Course (Run.create reprinting defaultCeiling {}) _ _ :=
    .go .start ⟨0, true, false⟩ rfl
  have drafting := begun.go ⟨0, true, false⟩ rfl
  have drafted := drafting.go ⟨0, true, false⟩ rfl
  have proofreading := (drafted.go ⟨0, true, false⟩ rfl).go ⟨0, true, false⟩ rfl
  have layingOut := (proofreading.go ⟨0, true, false⟩ rfl).go ⟨0, true, false⟩ rfl
  have laidOut := layingOut.go ⟨0, true, false⟩ rfl
  have again := (laidOut.go ⟨0, true, false⟩ rfl).go ⟨0, true, false⟩ rfl
  have proofread := again.go ⟨0, true, false⟩ rfl
  have course := proofread.go ⟨0, true, false⟩ rfl
  exact ⟨_, _, _, course, rfl, rfl, (Run.Course.walks_graph built rfl identity course).1⟩

end StepGraph
