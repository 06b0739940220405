import StepGraph.Proofs.Run.Budget
import StepGraph.Proofs.Run.Dialogue

namespace StepGraph

namespace Phase

def Ahead : Phase → Prop
  | .fresh => True
  | .entering .. => True
  | .inside .. => True
  | _ => False

/-- How far a run has wound up, with what has been seen of it since its token was set at a phase. -/
inductive WindsUp : Phase → List Event → Phase → Prop
  | fresh : WindsUp .fresh [] .fresh
  | begun (step : String) : WindsUp .fresh [] (.entering step [])
  | entering (step : String) (rest : List String) :
      WindsUp (.entering step rest) [] (.entering step rest)
  | inside {spec : StepSpec} {rest : List String} {first program : Step}
      (comes : first.ComesTo program) :
      WindsUp (.inside spec rest first) [] (.inside spec rest program)
  | adopted {spec : StepSpec} {rest : List String} {first : Step} {replacement state : State}
      (comes : first.ComesTo (.done (.replacement replacement)))
      (data : state.data = replacement.data) (errors : state.errors = replacement.errors) :
      WindsUp (.inside spec rest first) [.adopted state] (.inside spec rest (.done .same))
  | routing {step : String} {route : Route} {first program : Router}
      (comes : first.ComesTo program) :
      WindsUp (.routing step route first) [] (.routing step route program)
  | sent {step : String} {route : Route} {first : Router} (outcome : Value) (next : String)
      (rest : List String) :
      WindsUp (.routing step route first) [.routed step outcome (next :: rest)]
        (.entering next rest)
  | ended {step : String} {route : Route} {first : Router} (outcome : Value) :
      WindsUp (.routing step route first) [.routed step outcome []] (.concluded step)
  | concluded (step : String) : WindsUp (.concluded step) [] (.concluded step)

theorem windsUp_refl (phase : Phase) : phase.WindsUp [] phase := by
  cases phase with
  | fresh => exact .fresh
  | entering step rest => exact .entering step rest
  | inside => exact .inside .start
  | routing => exact .routing .start
  | concluded step => exact .concluded step

theorem WindsUp.ahead {stood phase : Phase} {trace : List Event}
    (winds : stood.WindsUp trace phase) (ahead : stood.Ahead) : phase.Ahead := by
  cases winds <;> first | exact trivial | exact ahead.elim

theorem WindsUp.startsIn_eq_nil {stood phase : Phase} {trace : List Event}
    (winds : stood.WindsUp trace phase) : startsIn trace = [] := by
  cases winds <;> rfl

end Phase

/-- The endings that keep back what a step has handed back. -/
inductive Ending.Withheld (last : Run) (phase : Phase) : Ending → Prop
  | cancelled : Withheld last phase (.raised last.cancelledFailure none)
  | ceiling {step : String} {rest : List String} (isPhase : phase = .entering step rest)
      (reached : last.ceiling ≤ last.state.iterationCount) :
      Withheld last phase (.raised (.ceilingReached last.definition.name last.ceiling step) none)
  | fatal {spec : StepSpec} {rest : List String} {program : Step} {failure : Failure}
      (isPhase : phase = .inside spec rest program) (fails : program.failure? = some failure)
      (stops : spec.stopsOn failure = true) :
      Withheld last phase
        (.raised (.stepFailed spec.name (StepSpec.recordedText failure) true) (some failure))
  | interrupted (interrupted : phase.Interrupted) : Withheld last phase (.raised .interrupted none)

namespace Run

/-- A move of a run whose token is set, after which others may have changed its state. -/
inductive Lingers (run : Run) : List Event → Run → Prop
  | go {events : List Event} {next : Run} (circumstances : Circumstances)
      (cancelled : circumstances.cancelled = true)
      (moved : run.move circumstances = .go next events) (state : State) (origin : Option State) :
      Lingers run events { next with state, origin }
  | ask {effect : Effect} {next : effect.Reply → Phase} (circumstances : Circumstances)
      (cancelled : circumstances.cancelled = true)
      (asked : run.move circumstances = .ask effect next) (reply : effect.Reply) (state : State)
      (origin : Option State) :
      Lingers run [] { run with state, origin, phase := next reply }

theorem Lingers.undisturbed {run next : Run} {events : List Event}
    (circumstances : Circumstances) (cancelled : circumstances.cancelled = true)
    (moved : run.move circumstances = .go next events) : run.Lingers events next :=
  .go circumstances cancelled moved next.state next.origin

/-- A run whose token was set, by whomever, while the run stood at a phase, with what has been seen
of it before and since. -/
inductive Withdrawn (first : Run) (before : List Event) (stood : Phase) : List Event → Run → Prop
  | set {run : Run} (course : first.Course before run) (stands : run.phase = stood) :
      Withdrawn first before stood [] run
  | further {trace events : List Event} {run next : Run}
      (withdrawn : Withdrawn first before stood trace run) (lingers : run.Lingers events next) :
      Withdrawn first before stood (trace ++ events) next

/-- What becomes of a run whose token was set while it stood at a phase. -/
structure Discards (stood : Phase) (trace : List Event) (run : Run) : Prop where
  unstarted : startsIn trace = []
  /-- Only the step in flight can have handed a state to the listener, and that once. -/
  adopts : ∀ state, .adopted state ∈ trace → trace = [.adopted state] ∧
    ∃ spec rest program replacement, stood = .inside spec rest program ∧
      program.ComesTo (.done (.replacement replacement)) ∧
      state.data = replacement.data ∧ state.errors = replacement.errors
  /-- If it comes back with a state the listener gets that, and the run is over as cancelled. -/
  delivers : ∀ spec rest replacement,
    run.phase = .inside spec rest (.done (.replacement replacement)) →
    ∀ circumstances, ∃ next,
      run.move circumstances = .go next [.adopted (run.adopt replacement).state] ∧
      ∀ state origin later, later.cancelled = true →
        let disturbed : Run := { next with state, origin }
        disturbed.move later = .over disturbed (.raised disturbed.cancelledFailure none)
  halts : ¬ ∃ runs : Nat → Run, runs 0 = run ∧
    ∀ k, ∃ events, (runs k).Lingers events (runs (k + 1))
  withholds : stood.Ahead → ∀ circumstances last ending, circumstances.admitted = true →
    circumstances.cancelled = true → run.move circumstances = .over last ending →
    ending.Withheld last run.phase
  /-- It completes only behind a router that named no successors. -/
  completes : ∀ circumstances last step, circumstances.cancelled = true →
    run.move circumstances = .over last (.completed step) →
    stood = .concluded step ∨ ∃ route program outcome,
      stood = .routing step route program ∧ trace = [.routed step outcome []]

section

variable {first run next last : Run} {stood : Phase} {before trace events : List Event}
  {circumstances : Circumstances} {ending : Ending}

theorem Goes.windsUp (winds : stood.WindsUp trace run.phase)
    (cancelled : circumstances.cancelled = true) (goes : run.Goes circumstances next events) :
    stood.WindsUp (trace ++ events) next.phase := by
  cases goes with
  | begin phase =>
      rw [phase] at winds
      cases winds with
      | fresh => exact .begun _
  | enter _ _ live => exact absurd (live.symm.trans cancelled) Bool.false_ne_true
  | read phase =>
      rw [phase] at winds
      cases winds with
      | inside comes => exact .inside (comes.read _)
  | write phase =>
      rw [phase] at winds
      cases winds with
      | inside comes => exact .inside comes.write
  | adopt phase =>
      rw [phase] at winds
      cases winds with
      | inside comes => exact .adopted comes rfl rfl
  | onward _ _ live => exact absurd (live.symm.trans cancelled) Bool.false_ne_true
  | route _ _ live => exact absurd (live.symm.trans cancelled) Bool.false_ne_true
  | routerRead phase =>
      rw [phase] at winds
      cases winds with
      | routing comes => exact .routing (comes.read _)
  | routerWrite phase =>
      rw [phase] at winds
      cases winds with
      | routing comes => exact .routing comes.write
  | @follow _ _ label _ successors phase =>
      rw [phase] at winds
      cases winds with
      | routing =>
          cases successors with
          | nil => exact .ended label.value
          | cons next rest => exact .sent label.value next rest

theorem Asks.windsUp {effect : Effect} {onward : effect.Reply → Phase}
    (winds : stood.WindsUp trace run.phase) (asks : run.Asks effect onward) (reply : effect.Reply) :
    stood.WindsUp trace (onward reply) := by
  cases asks with
  | step phase =>
      rw [phase] at winds
      cases winds with
      | inside comes => exact .inside (comes.ask reply)
  | router phase =>
      rw [phase] at winds
      cases winds with
      | routing comes => exact .routing (comes.ask reply)

theorem Withdrawn.windsUp (withdrawn : first.Withdrawn before stood trace run) :
    stood.WindsUp trace run.phase := by
  induction withdrawn with
  | set _ stands => exact stands ▸ Phase.windsUp_refl _
  | further _ lingers ih =>
      cases lingers with
      | go circumstances cancelled moved =>
          have winds := (goes_of_move moved).windsUp ih cancelled
          exact winds
      | ask circumstances _ asked reply =>
          rw [List.append_nil]
          exact (asks_of_move asked).windsUp ih reply

theorem Lingers.passes (lingers : run.Lingers events next) : run.phase.Passes next.phase := by
  cases lingers with
  | go circumstances cancelled moved =>
      have goes := goes_of_move moved
      have winds := goes.windsUp (Phase.windsUp_refl run.phase) cancelled
      exact goes.passes winds.startsIn_eq_nil
  | ask circumstances _ asked reply =>
      cases asks_of_move asked with
      | step phase => exact phase ▸ .reply reply
      | router phase => exact phase ▸ .routerReply reply

theorem no_endless_lingering (run : Run) :
    ¬ ∃ runs : Nat → Run, runs 0 = run ∧
      ∀ k, ∃ events, (runs k).Lingers events (runs (k + 1)) := by
  have accessible := run.phase.runsOut
  generalize stands : run.phase = phase at accessible
  induction accessible generalizing run with
  | intro phase _ onward =>
      subst stands
      rintro ⟨runs, rfl, lingers⟩
      obtain ⟨events, lingering⟩ := lingers 0
      exact onward _ lingering.passes (runs 1) rfl
        ⟨fun k => runs (k + 1), rfl, fun k => lingers (k + 1)⟩

/-! ### How a run ends whose token is set -/

theorem proceed_withdrawn (run : Run) (cancelled : circumstances.cancelled = true) (step : String)
    (rest : List String) (events : List Event) :
    run.proceed circumstances step rest events = .over run (.raised run.cancelledFailure none) :=
  if_pos cancelled

theorem withheld_of_enter {step : String} {rest : List String}
    (cancelled : circumstances.cancelled = true)
    (isOver : run.enter circumstances step rest = .over last ending) :
    ending.Withheld last (.entering step rest) := by
  unfold enter at isOver
  split at isOver
  · next reached =>
      cases isOver
      exact .ceiling rfl reached
  · cases isOver
    exact .cancelled

theorem withheld_of_failStep {spec : StepSpec} {rest : List String} {program : Step}
    {failure : Failure} (cancelled : circumstances.cancelled = true)
    (fails : program.failure? = some failure)
    (isOver : run.failStep circumstances spec rest failure = .over last ending) :
    ending.Withheld last (.inside spec rest program) := by
  rw [failStep_eq] at isOver
  split at isOver
  · next stops =>
      cases isOver
      exact .fatal rfl fails stops
  · rw [proceed_withdrawn _ cancelled] at isOver
    cases isOver
    exact .cancelled

theorem withheld_of_moveStep {spec : StepSpec} {rest : List String} {program : Step}
    (cancelled : circumstances.cancelled = true)
    (isOver : run.moveStep circumstances spec rest program = .over last ending) :
    ending.Withheld last (.inside spec rest program) := by
  have settled : ∀ {step : String}, run.proceed circumstances step rest [] = .over last ending →
      ending.Withheld last (.inside spec rest program) := by
    intro step isOver
    rw [proceed_withdrawn _ cancelled] at isOver
    cases isOver
    exact .cancelled
  cases program with
  | done result =>
      cases result with
      | nothing => exact settled isOver
      | same => exact settled isOver
      | other => exact withheld_of_failStep cancelled rfl isOver
      | replacement => cases isOver
  | fail failure =>
      cases failure with
      | interrupted =>
          cases isOver
          exact .interrupted (.inside spec rest)
      | _ => exact withheld_of_failStep cancelled rfl isOver
  | _ => cases isOver

/-- Before a step and inside it the token is looked at before anything is handed on. -/
theorem withheld_of_move (ahead : run.phase.Ahead) (admitted : circumstances.admitted = true)
    (cancelled : circumstances.cancelled = true)
    (isOver : run.move circumstances = .over last ending) : ending.Withheld last run.phase := by
  unfold move at isOver
  cases phase : run.phase with
  | fresh => simp [phase, admitted] at isOver
  | entering =>
      rw [phase] at isOver
      exact withheld_of_enter cancelled isOver
  | inside =>
      rw [phase] at isOver
      exact withheld_of_moveStep cancelled isOver
  | _ =>
      rw [phase] at ahead
      exact ahead.elim

theorem concluded_of_completed {step : String} (cancelled : circumstances.cancelled = true)
    (isOver : run.move circumstances = .over last (.completed step)) :
    run.phase = .concluded step := by
  cases stops_of_move isOver with
  | concluded phase => exact phase
  | completed phase =>
      unfold move at isOver
      rw [phase] at isOver
      cases withheld_of_moveStep cancelled isOver

theorem Withdrawn.toDiscards (withdrawn : first.Withdrawn before stood trace run) :
    Discards stood trace run where
  unstarted := withdrawn.windsUp.startsIn_eq_nil
  adopts state member := by
    have winds := withdrawn.windsUp
    generalize run.phase = phase at winds
    cases winds with
    | adopted comes data errors =>
        cases List.mem_singleton.mp member
        exact ⟨rfl, _, _, _, _, rfl, comes, data, errors⟩
    | _ => simp at member
  delivers spec rest replacement phase circumstances := by
    refine ⟨_, by simp only [move, phase, moveStep, leave]; rfl, fun state origin later isSet => ?_⟩
    exact proceed_withdrawn _ isSet spec.name rest []
  halts := no_endless_lingering run
  withholds ahead _ _ _ admitted cancelled isOver :=
    withheld_of_move (withdrawn.windsUp.ahead ahead) admitted cancelled isOver
  completes _ _ step cancelled isOver := by
    have winds := withdrawn.windsUp
    rw [concluded_of_completed cancelled isOver] at winds
    cases winds with
    | ended outcome => exact .inr ⟨_, _, outcome, rfl, rfl⟩
    | concluded => exact .inl rfl

end

end Run

namespace Solo

variable {first : Run} {solo next : Solo} {stood : Phase} {before trace : List Event}

theorem token_answer_of_set (isSet : solo.token = some true) (effect : Effect) :
    (solo.answer effect).1.token = some true := by
  cases effect with
  | act deed => cases deed <;> simp only [answer, perform, isSet, Option.map_some]
  | _ => exact isSet

theorem cancelled_of_set (isSet : solo.token = some true) : solo.cancelled = true := by
  rw [cancelled, isSet]
  rfl

theorem lingers_advance (isSet : solo.token = some true) (advanced : solo.advance = (next, none)) :
    next.token = some true ∧ next.admitted = solo.admitted ∧
      ∃ events, solo.run.Lingers events next.run ∧
        next.events = events.reverse ++ solo.events := by
  have cancelled := cancelled_of_set isSet
  cases moved : solo.run.move ⟨solo.now, solo.admitted, solo.cancelled⟩ with
  | go run events =>
      cases (advance_of_moved moved).symm.trans advanced
      exact ⟨isSet, rfl, events, .undisturbed _ cancelled moved, rfl⟩
  | ask effect onward =>
      obtain ⟨hrun, _, sameEvents, sameAdmitted⟩ := advance_of_asked moved advanced
      refine ⟨?_, sameAdmitted, [], ?_, sameEvents⟩
      · have kept := token_answer_of_set isSet effect
        unfold advance at advanced
        rw [moved] at advanced
        cases advanced
        exact kept
      · rw [hrun]
        exact .ask _ cancelled moved _ solo.run.state solo.run.origin
  | _ =>
      unfold advance at advanced
      rw [moved] at advanced
      cases advanced

theorem finish_of_set (isSet : solo.token = some true)
    (withdrawn : first.Withdrawn before stood trace solo.run) :
    ∃ moves after ending later run circumstances, solo.finish moves = (after, some ending) ∧
      first.Withdrawn before stood (trace ++ later) run ∧
      circumstances.admitted = solo.admitted ∧ circumstances.cancelled = true ∧
      run.move circumstances = .over after.run ending ∧
      after.events = later.reverse ++ solo.events := by
  -- Without a start every move gets on in the phases, and these run out.
  have accessible := solo.run.phase.runsOut
  generalize stands : solo.run.phase = phase at accessible
  induction accessible generalizing solo trace with
  | intro phase _ onward =>
      subst stands
      cases advanced : solo.advance with
      | mk next last =>
          cases last with
          | some ending =>
              obtain ⟨isOver, same⟩ := over_of_advance advanced
              refine ⟨1, next, ending, [], solo.run, _, ?_, ?_, rfl, cancelled_of_set isSet, isOver,
                same⟩
              · simp only [finish, advanced]
              · rwa [List.append_nil]
          | none =>
              obtain ⟨stillSet, sameAdmitted, events, lingers, hevents⟩ :=
                lingers_advance isSet advanced
              obtain ⟨moves, after, ending, later, run, circumstances, finished, further, admitted,
                cancelled, isOver, hlater⟩ :=
                onward _ lingers.passes stillSet (withdrawn.further lingers) rfl
              refine ⟨moves + 1, after, ending, events ++ later, run, circumstances, ?_, ?_,
                admitted.trans sameAdmitted, cancelled, isOver, ?_⟩
              · simp only [finish, advanced, finished]
              · rwa [← List.append_assoc]
              · rw [hlater, hevents, List.reverse_append, List.append_assoc]

end Solo

/-- Once the token of a run is set, at whatever moment and by whomever, no step of it is started and
it comes to an end, without a result unless all that was left was a router's decision to stop. The
listener gets nothing more but what the step in flight hands back in place of the state: that it
does get, although the run then ends as cancelled. -/
theorem Run.Withdrawn.discards {executor : Executor} {definition : Definition} {state : State}
    (accepted : executor.registry.isRegistered definition = true) :
    let first := Run.create definition executor.ceiling state
    (∀ before stood trace run, first.Withdrawn before stood trace run →
      Run.Discards stood trace run) ∧
    ∀ isSet moves solo, (executor.begin definition state (some isSet)).Comes moves solo →
      solo.token = some true →
      ∃ more after ending trace run circumstances, solo.finish more = (after, some ending) ∧
        first.Withdrawn solo.events.reverse solo.run.phase trace run ∧
        circumstances.admitted = true ∧ circumstances.cancelled = true ∧
        run.move circumstances = .over after.run ending ∧
        after.events = trace.reverse ++ solo.events := by
  intro first
  refine ⟨fun _ _ _ _ withdrawn => withdrawn.toDiscards, fun isSet moves solo comes set => ?_⟩
  obtain ⟨_, trace, dialogue, hevents, sameAdmitted, _⟩ := comes.dialogue
  have course : first.Course solo.events.reverse solo.run := by
    have course := dialogue.passage.course
    simpa [hevents, Executor.begin] using course
  obtain ⟨more, after, ending, later, run, circumstances, finished, withdrawn, admitted, rest⟩ :=
    Solo.finish_of_set set (.set course rfl)
  exact ⟨more, after, ending, later, run, circumstances, finished, withdrawn,
    admitted.trans (sameAdmitted.trans accepted), rest⟩

/-- A graph whose only step sets the token of its run and hands back another state. -/
def swapping : Definition where
  name := "swap"
  steps :=
    [{ name := "only"
       action := .ask (.act .setToken) fun _ =>
         .done (.replacement { data := .plain (.record [("swapped", .bool true)]) }) }]
  routes := []
  entry := some "only"
  terminals := ["only"]
  ceiling := none
  description := none

theorem wellFormed_swapping : swapping.WellFormed := by
  refine (Definition.structured_of_checks rfl (List.cons_ne_nil _ _) rfl).wellFormed ?_ ?_ ?_ <;>
    decide +kernel

/-- The step has set the token and is about to hand back the other state. -/
theorem Run.Withdrawn.discards_swapping :
    let executor : Executor := ⟨⟨[swapping]⟩, defaultCeiling⟩
    ∃ solo more after ending trace run,
      (executor.begin swapping {} (some false)).Comes 3 solo ∧ solo.token = some true ∧
      solo.finish more = (after, some ending) ∧ after.events = trace.reverse ++ solo.events ∧
      Run.Discards solo.run.phase trace run ∧ ending.Withheld after.run run.phase := by
  intro executor
  have begun : (executor.begin swapping {} (some false)).Comes 1 _ := .advance .start rfl
  have entered : (executor.begin swapping {} (some false)).Comes 2 _ := .advance begun rfl
  have isSet : (executor.begin swapping {} (some false)).Comes 3 _ := .advance entered rfl
  obtain ⟨discards, finishes⟩ := @Run.Withdrawn.discards executor swapping {} rfl
  obtain ⟨more, after, ending, trace, run, _, finished, withdrawn, admitted, cancelled, isOver,
    hevents⟩ := finishes false 3 _ isSet rfl
  have discarded := discards _ _ _ _ withdrawn
  exact ⟨_, more, after, ending, trace, run, isSet, rfl, finished, hevents, discarded,
    discarded.withholds trivial _ _ _ admitted cancelled isOver⟩

/-- The listener is handed a state by a step during which the token was set. -/
theorem Run.Withdrawn.delivers_discarded :
    let executor : Executor := ⟨⟨[swapping]⟩, defaultCeiling⟩
    executor.registry.Built ∧ executor.registry.isRegistered swapping = true ∧
    (∃ spec program run state, program = .done (.replacement state) ∧
      (Run.create swapping executor.ceiling {}).Withdrawn [.started "" "only" 1 5]
        (.inside spec [] program)
        [.adopted { state with iterationCount := 1, metadata := { totalSteps := 1 } }] run) ∧
    ∃ after state,
      (executor.begin swapping {} (some false)).finish 5 =
        (after, some (.raised (.instanceCancelled (some "")) none)) ∧
      after.token = some true ∧ after.events = [.adopted state, .started "" "only" 1 5] ∧
      state.data = .plain (.record [("swapped", .bool true)]) := by
  intro executor
  refine ⟨.singleton wellFormed_swapping, rfl, ?_, _, _, rfl, rfl, rfl, rfl⟩
  have begun : (Run.create swapping executor.ceiling {}).Course _ _ :=
    .go .start ⟨0, true, false⟩ rfl
  have entered := begun.go ⟨0, true, false⟩ rfl
  have returned := entered.ask ⟨0, true, false⟩ rfl ()
  have adopted := (Run.Withdrawn.set returned rfl).further (.undisturbed ⟨0, true, true⟩ rfl rfl)
  exact ⟨_, _, _, _, rfl, adopted⟩

end StepGraph
