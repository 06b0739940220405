import StepGraph.Proofs.Run.Progress
import StepGraph.Proofs.Run.Restraint

namespace StepGraph

namespace Event

def isStart : Event → Bool
  | .started .. => true
  | _ => false

end Event

def startsIn (trace : List Event) : List Event :=
  trace.filter (·.isStart)

@[simp] theorem startsIn_append (earlier later : List Event) :
    startsIn (earlier ++ later) = startsIn earlier ++ startsIn later :=
  List.filter_append ..

namespace Run

/-! ### What a move does to the counters -/

theorem Settles.counters_eq {run settled : Run} {now : Instant} {spec : StepSpec} {program : Step}
    (settles : run.Settles now spec program settled) :
    settled.state.counters = run.state.counters := by
  cases settles <;> rfl

theorem Stops.counters_eq {run last : Run} {circumstances : Circumstances} {ending : Ending}
    (stops : run.Stops circumstances last ending) :
    last.state.counters = run.state.counters := by
  cases stops with
  | cancelledAfter _ settles => exact settles.counters_eq
  | completed _ settles => exact settles.counters_eq
  | deadEnd _ settles => exact settles.counters_eq
  | _ => rfl

theorem Settles.ceiling_eq {run settled : Run} {now : Instant} {spec : StepSpec} {program : Step}
    (settles : run.Settles now spec program settled) : settled.ceiling = run.ceiling := by
  cases settles <;> rfl

theorem Goes.ceiling_eq {run next : Run} {circumstances : Circumstances} {events : List Event}
    (goes : run.Goes circumstances next events) : next.ceiling = run.ceiling := by
  cases goes with
  | onward _ settles _ => exact settles.ceiling_eq
  | route _ settles _ _ _ => exact settles.ceiling_eq
  | _ => rfl

theorem Advances.definition_eq {run next : Run} {events : List Event}
    (advances : run.Advances events next) : next.definition = run.definition := by
  cases advances with
  | go _ moved => exact (goes_of_move moved).definition_eq
  | ask => rfl

theorem Advances.ceiling_eq {run next : Run} {events : List Event}
    (advances : run.Advances events next) : next.ceiling = run.ceiling := by
  cases advances with
  | go _ moved => exact (goes_of_move moved).ceiling_eq
  | ask => rfl

theorem Passage.ceiling_eq {first run : Run} {trace : List Event}
    (passage : Passage first trace run) : run.ceiling = first.ceiling := by
  induction passage with
  | start => rfl
  | advance _ advances ih => exact advances.ceiling_eq.trans ih

end Run

/-! ### The bound -/

/-- Steps that never lower the iteration count, and routers that never write the counters. -/
structure Definition.Frugal (definition : Definition) : Prop where
  steps : ∀ spec ∈ definition.steps, spec.action.NeverLowersCount
  routers : ∀ route ∈ definition.routes, ∀ router, route.router = some router →
    router.LeavesAlone State.counters

/-- Where the run stands, the iteration count is not below `floor`; or it will not be once the step
it is inside has come back. -/
def Phase.AtLeast (floor : Int) (state : State) : Phase → Prop
  | .inside _ _ program => program.CountsFrom floor state
  | .routing _ _ program =>
      floor ≤ state.iterationCount ∧ program.Keeps State.counters state.counters
  | _ => floor ≤ state.iterationCount

namespace Run

variable {run next : Run} {events : List Event} {floor : Int}

theorem Settles.floor_le {settled : Run} {now : Instant} {spec : StepSpec} {program : Step}
    (settles : run.Settles now spec program settled)
    (counts : program.CountsFrom floor run.state) : floor ≤ settled.state.iterationCount := by
  cases settles with
  | nothing => exact counts
  | same => exact counts
  | recorded fails =>
      cases program with
      | done => exact counts
      | fail => exact counts
      | _ => cases fails

/-- A move keeps the floor, or it starts a step below the ceiling and raises the floor by one. -/
theorem Goes.atLeast {circumstances : Circumstances} (frugal : run.definition.Frugal)
    (atLeast : run.phase.AtLeast floor run.state) (goes : run.Goes circumstances next events) :
    (startsIn events = [] ∧ next.phase.AtLeast floor next.state) ∨
      ((startsIn events).length = 1 ∧ floor < run.ceiling ∧
        next.phase.AtLeast (floor + 1) next.state) := by
  cases goes with
  | begin phase =>
      rw [phase] at atLeast
      exact .inl ⟨rfl, atLeast⟩
  | @enter step rest spec phase below _ found =>
      rw [phase] at atLeast
      have counts := frugal.steps spec (List.mem_of_find?_eq_some found)
          (run.started spec rest).state
      exact .inr ⟨rfl, Int.lt_of_le_of_lt atLeast below,
        counts.mono (Int.add_le_add_right atLeast 1)⟩
  | read phase =>
      rw [phase] at atLeast
      exact .inl ⟨rfl, atLeast⟩
  | write phase =>
      rw [phase] at atLeast
      exact .inl ⟨rfl, atLeast⟩
  | adopt phase =>
      rw [phase] at atLeast
      exact .inl ⟨rfl, atLeast⟩
  | onward phase settles =>
      rw [phase] at atLeast
      exact .inl ⟨rfl, settles.floor_le atLeast⟩
  | @route _ _ _ route phase settles _ _ routed =>
      rw [phase] at atLeast
      refine .inl ⟨rfl, settles.floor_le atLeast, ?_⟩
      cases hrouter : route.router with
      | none => exact trivial
      | some router =>
          exact frugal.routers route (List.mem_of_find?_eq_some routed) router hrouter _
  | routerRead phase =>
      rw [phase] at atLeast
      exact .inl ⟨rfl, atLeast.1, atLeast.2 run.state rfl⟩
  | routerWrite phase =>
      rw [phase] at atLeast
      obtain ⟨kept, same, keeps⟩ := atLeast
      exact .inl ⟨rfl, State.iterationCount_of_counters same ▸ kept, same ▸ keeps⟩
  | @follow _ _ _ _ successors phase =>
      rw [phase] at atLeast
      cases successors with
      | nil => exact .inl ⟨rfl, atLeast.1⟩
      | cons => exact .inl ⟨rfl, atLeast.1⟩

theorem Advances.atLeast (frugal : run.definition.Frugal)
    (atLeast : run.phase.AtLeast floor run.state) (advances : run.Advances events next) :
    (startsIn events = [] ∧ next.phase.AtLeast floor next.state) ∨
      ((startsIn events).length = 1 ∧ floor < run.ceiling ∧
        next.phase.AtLeast (floor + 1) next.state) := by
  cases advances with
  | go _ moved => exact (goes_of_move moved).atLeast frugal atLeast
  | ask _ asked reply state origin same =>
      cases asks_of_move asked with
      | step phase =>
          rw [phase] at atLeast
          exact .inl ⟨rfl, atLeast reply state same⟩
      | router phase =>
          rw [phase] at atLeast
          exact .inl ⟨rfl, State.iterationCount_of_counters same ▸ atLeast.1, atLeast.2 reply _⟩

theorem Passage.atLeast {first : Run} {trace : List Event} (frugal : first.definition.Frugal)
    (fresh : first.phase = .fresh) (passage : Passage first trace run) :
    run.phase.AtLeast (first.state.iterationCount + (startsIn trace).length) run.state ∧
      ((startsIn trace).length : Int) ≤ max 0 (first.ceiling - first.state.iterationCount) := by
  induction passage with
  | start =>
      rw [fresh]
      exact ⟨Int.le_of_eq (Int.add_zero _), Int.le_max_left _ _⟩
  | advance before advances ih =>
      obtain ⟨above, bound⟩ := ih
      have sameDefinition := before.course.definition_eq
      have sameCeiling := before.ceiling_eq
      rw [startsIn_append, List.length_append]
      rcases advances.atLeast (sameDefinition ▸ frugal) above with
        ⟨none, above⟩ | ⟨one, below, above⟩
      · rw [none]
        exact ⟨above, bound⟩
      · rw [one, Int.natCast_add, ← Int.add_assoc]
        refine ⟨above, ?_⟩
        omega

end Run

/-! ### Termination -/

/-- How a run goes from phase to phase as long as it starts no step. -/
inductive Phase.Passes : Phase → Phase → Prop
  | begin (step : String) : Passes .fresh (.entering step [])
  | read {spec : StepSpec} {rest : List String} {next : State → Step} (state : State) :
      Passes (.inside spec rest (.read next)) (.inside spec rest (next state))
  | write {spec : StepSpec} {rest : List String} {state : State} {next : Step} :
      Passes (.inside spec rest (.write state next)) (.inside spec rest next)
  | reply {spec : StepSpec} {rest : List String} {effect : Effect} {next : effect.Reply → Step}
      (reply : effect.Reply) :
      Passes (.inside spec rest (.ask effect next)) (.inside spec rest (next reply))
  | adopt {spec : StepSpec} {rest : List String} {state : State} :
      Passes (.inside spec rest (.done (.replacement state))) (.inside spec rest (.done .same))
  | onward {spec : StepSpec} {next : String} {rest : List String} {program : Step} :
      Passes (.inside spec (next :: rest) program) (.entering next rest)
  | route {spec : StepSpec} {program : Step} (route : Route) (router : Router) :
      Passes (.inside spec [] program) (.routing spec.name route router)
  | routerRead {step : String} {route : Route} {next : State → Router} (state : State) :
      Passes (.routing step route (.read next)) (.routing step route (next state))
  | routerWrite {step : String} {route : Route} {state : State} {next : Router} :
      Passes (.routing step route (.write state next)) (.routing step route next)
  | routerReply {step : String} {route : Route} {deed : Deed} {next : deed.Reply → Router}
      (reply : deed.Reply) :
      Passes (.routing step route (.ask deed next)) (.routing step route (next reply))
  | follow {step : String} {route : Route} {label : Label} (successors : List String) :
      Passes (.routing step route (.done label)) (.after step successors)

namespace Phase

def RunsOut : Phase → Prop :=
  Acc fun after before : Phase => before.Passes after

theorem runsOut_entering (step : String) (rest : List String) :
    RunsOut (.entering step rest) :=
  .intro _ nofun

theorem runsOut_after (step : String) (successors : List String) :
    RunsOut (.after step successors) := by
  cases successors with
  | nil => exact .intro _ nofun
  | cons next rest => exact runsOut_entering next rest

theorem runsOut_routing (step : String) (route : Route) (program : Router) :
    RunsOut (.routing step route program) := by
  induction program with
  | done label =>
      constructor
      rintro _ ⟨⟩
      exact runsOut_after step _
  | fail => exact .intro _ nofun
  | read next ih =>
      constructor
      rintro _ ⟨⟩
      exact ih _
  | write state next ih =>
      constructor
      rintro _ ⟨⟩
      exact ih
  | ask deed next ih =>
      constructor
      rintro _ ⟨⟩
      exact ih _

private theorem runsOut_inside {spec : StepSpec} {rest : List String} {program : Step}
    (inner : ∀ further, Passes (.inside spec rest program) (.inside spec rest further) →
      RunsOut (.inside spec rest further)) :
    RunsOut (.inside spec rest program) := by
  constructor
  rintro after passes
  cases passes with
  | read state => exact inner _ (.read state)
  | write => exact inner _ .write
  | reply reply => exact inner _ (.reply reply)
  | adopt => exact inner _ .adopt
  | onward => exact runsOut_entering _ _
  | route route router => exact runsOut_routing _ route router

theorem runsOut (phase : Phase) : phase.RunsOut := by
  cases phase with
  | fresh =>
      constructor
      rintro _ ⟨⟩
      exact runsOut_entering _ _
  | entering step rest => exact runsOut_entering step rest
  | routing step route program => exact runsOut_routing step route program
  | concluded => exact .intro _ nofun
  | inside spec rest program =>
      induction program with
      | done result =>
          have same : RunsOut (.inside spec rest (.done .same)) := runsOut_inside nofun
          refine runsOut_inside ?_
          rintro _ ⟨⟩
          exact same
      | fail => exact runsOut_inside nofun
      | read next ih =>
          refine runsOut_inside ?_
          rintro _ ⟨⟩
          exact ih _
      | write state next ih =>
          refine runsOut_inside ?_
          rintro _ ⟨⟩
          exact ih
      | ask effect next ih =>
          refine runsOut_inside ?_
          rintro _ ⟨⟩
          exact ih _

end Phase

namespace Run

variable {run next : Run} {events : List Event} {floor : Int}

theorem Goes.passes {circumstances : Circumstances} (goes : run.Goes circumstances next events)
    (quiet : startsIn events = []) : run.phase.Passes next.phase := by
  cases goes with
  | begin phase => exact phase ▸ .begin _
  | enter => cases quiet
  | read phase => exact phase ▸ .read _
  | write phase => exact phase ▸ .write
  | adopt phase => exact phase ▸ .adopt
  | onward phase => exact phase ▸ .onward
  | route phase => exact phase ▸ .route _ _
  | routerRead phase => exact phase ▸ .routerRead _
  | routerWrite phase => exact phase ▸ .routerWrite
  | follow phase => exact phase ▸ .follow _

theorem Advances.passes (advances : run.Advances events next) (quiet : startsIn events = []) :
    run.phase.Passes next.phase := by
  cases advances with
  | go _ moved => exact (goes_of_move moved).passes quiet
  | ask _ asked reply =>
      cases asks_of_move asked with
      | step phase => exact phase ▸ .reply reply
      | router phase => exact phase ▸ .routerReply reply

/-- However its surroundings behave, the run cannot go on for ever. -/
def Ends : Run → Prop :=
  Acc fun next run => ∃ events, run.Advances events next

/-- A start uses up some of what the ceiling leaves; without a start the run gets on in its
phases. -/
theorem ends_of_atLeast (frugal : run.definition.Frugal)
    (atLeast : run.phase.AtLeast floor run.state) : run.Ends := by
  generalize left : (run.ceiling - floor).toNat = budget
  induction budget using Nat.strong_induction_on generalizing run floor with
  | _ budget restart =>
      have accessible := run.phase.runsOut
      generalize stands : run.phase = phase at accessible
      induction accessible generalizing run with
      | intro phase _ onward =>
          subst stands
          constructor
          rintro next ⟨events, advances⟩
          have sameDefinition := advances.definition_eq
          have sameCeiling := advances.ceiling_eq
          rcases advances.atLeast frugal atLeast with ⟨quiet, above⟩ | ⟨_, below, above⟩
          · exact onward next.phase (advances.passes quiet) (sameDefinition ▸ frugal) above
              (by rw [sameCeiling]; exact left) rfl
          · exact restart (next.ceiling - (floor + 1)).toNat (by omega) (sameDefinition ▸ frugal)
              above rfl

theorem Ends.no_endless (ends : run.Ends) :
    ¬ ∃ runs : Nat → Run, runs 0 = run ∧
      ∀ k, ∃ events, (runs k).Advances events (runs (k + 1)) := by
  induction ends with
  | intro run _ ih =>
      rintro ⟨runs, rfl, advances⟩
      exact ih (runs 1) (advances 0) ⟨fun k => runs (k + 1), rfl, fun k => advances (k + 1)⟩

end Run

namespace Solo

theorem exists_finish {solo : Solo} (ends : solo.run.Ends) :
    ∃ moves after ending, solo.finish moves = (after, some ending) := by
  generalize stands : solo.run = run at ends
  induction ends generalizing solo with
  | intro run _ ih =>
      subst stands
      cases advanced : solo.advance with
      | mk after last =>
          cases last with
          | some ending => exact ⟨1, after, ending, by simp only [finish, advanced]⟩
          | none =>
              obtain ⟨_, events, advances, _⟩ := advances_advance advanced
              obtain ⟨moves, last, ending, finished⟩ := ih after.run ⟨events, advances⟩ rfl
              exact ⟨moves + 1, last, ending, by simp only [finish, advanced, finished]⟩

end Solo

/-! ### Exact counts -/

/-- Steps that write neither the iteration count nor the metadata, and routers that never write the
counters. -/
abbrev Definition.Sparing : Definition → Prop :=
  Definition.Spares State.bookkeeping State.counters

namespace Run

variable {run next : Run} {events : List Event}

/-- A move leaves the counters as they are, or it starts a step and raises both by one. -/
theorem Goes.counts {circumstances : Circumstances}
    (stands : run.phase.Spares State.bookkeeping State.counters run.state)
    (goes : run.Goes circumstances next events) :
    (startsIn events = [] ∧ next.state.counters = run.state.counters) ∨
      ∃ id step,
        startsIn events = [.started id step (run.state.iterationCount + 1) run.ceiling] ∧
        next.state.counters =
          (run.state.iterationCount + 1, run.state.metadata.totalSteps + 1) := by
  cases goes with
  | enter => exact .inr ⟨_, _, rfl, rfl⟩
  | write phase =>
      rw [phase] at stands
      exact .inl ⟨rfl, State.counters_of_bookkeeping stands.1⟩
  | onward _ settles => exact .inl ⟨rfl, settles.counters_eq⟩
  | route _ settles => exact .inl ⟨rfl, settles.counters_eq⟩
  | routerWrite phase =>
      rw [phase] at stands
      exact .inl ⟨rfl, stands.1⟩
  | _ => exact .inl ⟨rfl, rfl⟩

theorem Advances.counts (sparing : run.definition.Sparing)
    (stands : run.phase.Spares State.bookkeeping State.counters run.state)
    (advances : run.Advances events next) :
    next.phase.Spares State.bookkeeping State.counters next.state ∧
      ((startsIn events = [] ∧ next.state.counters = run.state.counters) ∨
        ∃ id step,
          startsIn events = [.started id step (run.state.iterationCount + 1) run.ceiling] ∧
          next.state.counters =
            (run.state.iterationCount + 1, run.state.metadata.totalSteps + 1)) := by
  cases advances with
  | go _ moved =>
      have goes := goes_of_move moved
      exact ⟨goes.spares sparing stands, goes.counts stands⟩
  | ask _ asked reply state origin same =>
      exact ⟨(asks_of_move asked).spares stands reply state, .inl ⟨rfl, same⟩⟩

def Counted (first : Run) (trace : List Event) (state : State) : Prop :=
  state.iterationCount = first.state.iterationCount + (startsIn trace).length ∧
    state.metadata.totalSteps = first.state.metadata.totalSteps + (startsIn trace).length

def StartsNumbered (first : Run) (trace : List Event) : Prop :=
  ∀ (k : Nat) (event : Event), (startsIn trace)[k]? = some event →
    ∃ id step, event = .started id step (first.state.iterationCount + k + 1) first.ceiling

theorem Counted.of_counters {first : Run} {trace : List Event} {state after : State}
    (counted : Counted first trace state) (same : after.counters = state.counters) :
    Counted first trace after := by
  obtain ⟨count, total⟩ := Prod.mk.inj same
  exact ⟨count.trans counted.1, total.trans counted.2⟩

theorem Passage.counted {first : Run} {trace : List Event} (sparing : first.definition.Sparing)
    (fresh : first.phase = .fresh) (passage : Passage first trace run) :
    run.phase.Spares State.bookkeeping State.counters run.state ∧
      Counted first trace run.state ∧ StartsNumbered first trace := by
  induction passage with
  | start =>
      rw [fresh]
      refine ⟨trivial, ⟨(Int.add_zero _).symm, (Int.add_zero _).symm⟩, ?_⟩
      intro k event found
      simp [startsIn] at found
  | @advance trace events run next before advances ih =>
      obtain ⟨spares, ⟨count, total⟩, numbered⟩ := ih
      have sameDefinition := before.course.definition_eq
      obtain ⟨spares, ⟨quiet, same⟩ | ⟨id, step, starts, after⟩⟩ :=
        advances.counts (sameDefinition ▸ sparing) spares
      · refine ⟨spares, ?_, ?_⟩
        · simp only [Counted, startsIn_append, quiet, List.append_nil]
          exact Counted.of_counters ⟨count, total⟩ same
        · simpa only [StartsNumbered, startsIn_append, quiet, List.append_nil] using numbered
      · obtain ⟨countAfter, totalAfter⟩ := Prod.mk.inj after
        refine ⟨spares, ?_, ?_⟩
        · simp only [Counted, startsIn_append, starts, List.length_append, List.length_singleton,
            countAfter, totalAfter, count, total]
          omega
        · intro k event found
          rw [startsIn_append, starts] at found
          rcases Nat.lt_or_ge k (startsIn trace).length with earlier | latest
          · rw [List.getElem?_append_left earlier] at found
            exact numbered k event found
          · rw [List.getElem?_append_right latest] at found
            obtain ⟨within, rfl⟩ := List.getElem?_eq_some_iff.mp found
            rw [List.length_singleton] at within
            have isLast : k = (startsIn trace).length := by omega
            subst isLast
            simp only [Nat.sub_self, List.getElem_cons_zero]
            exact ⟨id, step, by rw [count, before.ceiling_eq]⟩

/-- The ceiling ends a run before a step that would have been started but for it. -/
theorem Stops.of_ceilingReached {last : Run} {circumstances : Circumstances} {graph step : String}
    {ceiling : Int} {cause : Option Failure}
    (stops : run.Stops circumstances last (.raised (.ceilingReached graph ceiling step) cause)) :
    graph = run.definition.name ∧ ceiling = run.ceiling ∧ last = run ∧
      run.ceiling ≤ run.state.iterationCount ∧ ∃ rest, run.phase = .entering step rest := by
  cases stops with
  | ceiling phase reached => exact ⟨rfl, rfl, rfl, reached, _, phase⟩

theorem move_entering {step : String} {rest : List String} {spec : StepSpec}
    {circumstances : Circumstances} (phase : run.phase = .entering step rest)
    (below : run.state.iterationCount < run.ceiling) (live : circumstances.cancelled = false)
    (found : run.definition.step? step = some spec) :
    run.move circumstances =
      .go (run.started spec rest)
        [.started run.state.metadata.instanceId step (run.state.iterationCount + 1)
          run.ceiling] := by
  have notReached : ¬ run.ceiling ≤ run.state.iterationCount := Int.not_le.mpr below
  simp [move, phase, enter, notReached, live, found, started]

end Run

/-- A registered definition whose steps never lower the iteration count starts no more steps than
its ceiling leaves, so that every run of it comes to an end once its questions are answered. If the
steps leave the count and the metadata alone, both counters tell the number of starts at every
point, and the ceiling is reported just where one more step would be started. -/
theorem Run.Passage.step_budget {executor : Executor} {definition : Definition} {state : State}
    (built : executor.registry.Built)
    (accepted : executor.registry.isRegistered definition = true)
    (identity : executor.registry.TellsApart definition) (frugal : definition.Frugal) :
    let first := Run.create definition executor.ceiling state
    let left := max 0 (definition.ceiling.getD executor.ceiling - state.iterationCount)
    (∀ trace run, Run.Passage first trace run → ((startsIn trace).length : Int) ≤ left) ∧
    (¬ ∃ runs : Nat → Run, runs 0 = first ∧
      ∀ k, ∃ events, (runs k).Advances events (runs (k + 1))) ∧
    (∀ token, ∃ moves after ending,
      (executor.begin definition state token).finish moves = (after, some ending) ∧
      ((startsIn after.events).length : Int) ≤ left) ∧
    ((∀ spec ∈ definition.steps, spec.action.LeavesAlone State.bookkeeping) →
      ∀ trace run, Run.Passage first trace run →
        Run.Counted first trace run.state ∧ Run.StartsNumbered first trace ∧
        ∀ circumstances last ending, run.move circumstances = .over last ending →
          Run.Counted first trace last.state ∧
          ∀ graph ceiling step cause,
            ending = .raised (.ceilingReached graph ceiling step) cause →
            graph = definition.name ∧ ceiling = definition.ceiling.getD executor.ceiling ∧
            ((startsIn trace).length : Int) = left ∧
            ∀ higher now admitted, run.state.iterationCount < higher →
              ∃ id next, Run.move { run with ceiling := higher } ⟨now, admitted, false⟩ =
                .go next [.started id step (run.state.iterationCount + 1) higher]) := by
  intro first left
  have bounded : ∀ trace run, Run.Passage first trace run →
      ((startsIn trace).length : Int) ≤ left :=
    fun trace run passage => (passage.atLeast frugal rfl).2
  have ends : first.Ends := Run.ends_of_atLeast frugal (Run.Passage.start.atLeast frugal rfl).1
  refine ⟨bounded, ends.no_endless, ?_, ?_⟩
  · intro token
    have ends : (executor.begin definition state token).run.Ends := ends
    obtain ⟨moves, after, ending, finished⟩ := Solo.exists_finish ends
    obtain ⟨trace, run, _, passage, hevents, _⟩ := Solo.passage_finish finished
    refine ⟨moves, after, ending, finished, ?_⟩
    have hlength : (startsIn after.events).length = (startsIn trace).length := by
      simp [hevents, startsIn, Executor.begin, List.filter_reverse]
    rw [hlength]
    exact bounded trace run passage
  · intro sparing trace run passage
    obtain ⟨_, counted, numbered⟩ := passage.counted ⟨sparing, frugal.routers⟩ rfl
    refine ⟨counted, numbered, fun circumstances last ending isOver => ?_⟩
    have stops := Run.stops_of_move isOver
    refine ⟨counted.of_counters stops.counters_eq, ?_⟩
    rintro graph ceiling step cause rfl
    obtain ⟨hgraph, hceiling, _, reached, rest, phase⟩ := stops.of_ceilingReached
    have sameDefinition := passage.course.definition_eq
    have sameCeiling := passage.ceiling_eq
    have wellFormed := built.wellFormed definition (Registry.mem_of_isRegistered accepted identity)
    have onTrack := phase ▸ passage.course.onTrack wellFormed.toStructured
    refine ⟨hgraph.trans (congrArg _ sameDefinition), hceiling.trans sameCeiling, ?_, ?_⟩
    · -- The bound is met since the ceiling has been passed as well.
      have atMost := bounded trace run passage
      have count : run.state.iterationCount = state.iterationCount + (startsIn trace).length :=
        counted.1
      have same : run.ceiling = definition.ceiling.getD executor.ceiling := sameCeiling
      omega
    · intro higher now admitted below
      cases onTrack with
      | entering leg =>
          obtain ⟨spec, found⟩ := leg.declared wellFormed.toStructured
          have found : run.definition.step? step = some spec := by
            rw [sameDefinition]
            exact found
          exact ⟨_, _, Run.move_entering phase below rfl found⟩

/-- A graph that tries again for ever. Its step hands back states that claim to have come far, and
what it does before each further try fails. -/
def looping : Definition where
  name := "looping"
  steps :=
    [{ name := "attempt"
       action := .ask .pause fun _ => .read fun state =>
         .done (.replacement { state with iterationCount := 40 }) },
      { name := "prepare", action := .fail (.fault .value "not ready") },
      { name := "finish", action := .done .same }]
  routes :=
    [{ source := "attempt"
       router := some (.read fun _ => .done (.plain (.text "retry")))
       edges := [⟨.ofText "retry", ["prepare", "attempt"]⟩, ⟨.ofText "done", ["finish"]⟩]
       outcomes := [.ofText "retry", .ofText "done"] }]
  entry := some "attempt"
  terminals := ["finish"]
  ceiling := some 3
  description := none

theorem wellFormed_looping : looping.WellFormed := by
  refine (Definition.structured_of_checks rfl (List.cons_ne_nil _ _) rfl).wellFormed ?_ ?_ ?_ <;>
    decide +kernel

theorem frugal_looping : looping.Frugal where
  steps := by
    intro spec member
    simp only [looping, List.mem_cons, List.not_mem_nil, or_false] at member
    rcases member with rfl | rfl | rfl
    · intro state reply after same
      exact Int.le_of_eq (State.iterationCount_of_counters same).symm
    · exact fun state => Int.le_refl _
    · exact fun state => Int.le_refl _
  routers := by
    intro route member router routed
    simp only [looping, List.mem_singleton] at member
    subst member
    cases routed
    exact fun kept state same => trivial

theorem sparing_looping : ∀ spec ∈ looping.steps, spec.action.LeavesAlone State.bookkeeping := by
  intro spec member
  simp only [looping, List.mem_cons, List.not_mem_nil, or_false] at member
  rcases member with rfl | rfl | rfl
  · exact fun _ _ _ _ _ => trivial
  · exact fun _ => trivial
  · exact fun _ => trivial

/-- With one iteration behind it the graph starts two more steps, and the third would have been the
next try. -/
theorem Run.Passage.step_budget_looping :
    ∃ trace run last,
      Run.Passage (Run.create looping defaultCeiling { iterationCount := 1 }) trace run ∧
      run.move ⟨0, true, false⟩ =
        .over last (.raised (.ceilingReached "looping" 3 "attempt") none) ∧
      (startsIn trace).length = 2 ∧ last.state.iterationCount = 3 ∧
      last.state.metadata.totalSteps = 2 := by
  have built : Registry.Built ⟨[looping]⟩ := .singleton wellFormed_looping
  have identity := Registry.tellsApart_singleton looping
  have begun : Run.Passage (Run.create looping defaultCeiling { iterationCount := 1 }) _ _ :=
    .advance .start (.go ⟨0, true, false⟩ rfl)
  have entered := begun.advance (.go ⟨0, true, false⟩ rfl)
  have paused := entered.advance (.ask ⟨0, true, false⟩ rfl false _ none rfl)
  have read := paused.advance (.go ⟨0, true, false⟩ rfl)
  have adopted := read.advance (.go ⟨0, true, false⟩ rfl)
  have returned := adopted.advance (.go ⟨0, true, false⟩ rfl)
  have routing := returned.advance (.go ⟨0, true, false⟩ rfl)
  have routed := routing.advance (.go ⟨0, true, false⟩ rfl)
  have prepared := routed.advance (.go ⟨0, true, false⟩ rfl)
  have passage := prepared.advance (.go ⟨0, true, false⟩ rfl)
  obtain ⟨_, _, _, counts⟩ :=
    @Run.Passage.step_budget ⟨⟨[looping]⟩, defaultCeiling⟩ looping { iterationCount := 1 } built rfl
      identity frugal_looping
  obtain ⟨_, _, counted⟩ := counts sparing_looping _ _ passage
  obtain ⟨⟨count, total⟩, reached⟩ := counted ⟨0, true, false⟩ _ _ rfl
  obtain ⟨_, _, starts, _⟩ := reached _ _ _ _ rfl
  refine ⟨_, _, _, passage, rfl, ?_, ?_, ?_⟩
  · exact Int.ofNat.inj starts
  · exact count.trans (by rw [starts]; rfl)
  · exact total.trans (by rw [starts]; rfl)

end StepGraph
