import StepGraph.Proofs.Run.Course

/-! Runs that are alike, ids and times aside. Steps and routers that keep to the state they are
handed, and read neither its id nor its times, do the same on states that come to the same; so two
runs of one graph that are alike stay so, move by move, and end alike. -/

namespace StepGraph

/-- What a state comes to, ids and times aside. -/
structure Essence where
  data : Data
  errors : List (String × String)
  iterationCount : Int
  totalSteps : Int

namespace State

def essence (state : State) : Essence where
  data := state.data
  errors := state.errors.map fun error => (error.step, error.message)
  iterationCount := state.iterationCount
  totalSteps := state.metadata.totalSteps

variable {state other : State}

theorem essence_addError (same : other.essence = state.essence) (now later : Instant)
    (step message : String) :
    (other.addError later step message).essence = (state.addError now step message).essence := by
  obtain ⟨data, errors, iterationCount, totalSteps⟩ := Essence.mk.inj same
  simp only [essence, data_addError, errors_addError, iterationCount_addError, metadata_addError,
    List.map_append, List.map_cons, List.map_nil, data, errors, iterationCount, totalSteps]

end State

inductive Effect.IsWait : Effect → Prop
  | pause : IsWait .pause
  | gate (name : String) : IsWait (.gate name)

/-- Programs that do the same on states that come to the same. They ask questions of one kind only,
and their results are `same`. -/
inductive Program.Alike {E : Type} {Reply : E → Type} {α : Type} (asks : E → Prop)
    (same : α → α → Prop) : Program E Reply α → Program E Reply α → Prop
  | done {result other : α} (results : same result other) :
      Alike asks same (.done result) (.done other)
  | fail (failure : Failure) : Alike asks same (.fail failure) (.fail failure)
  | read {next onward : State → Program E Reply α}
      (nexts : ∀ state other, other.essence = state.essence →
        Alike asks same (next state) (onward other)) : Alike asks same (.read next) (.read onward)
  | write {state other : State} {next onward : Program E Reply α}
      (states : other.essence = state.essence) (nexts : Alike asks same next onward) :
      Alike asks same (.write state next) (.write other onward)
  | ask {question : E} {next onward : Reply question → Program E Reply α} (allowed : asks question)
      (nexts : ∀ reply, Alike asks same (next reply) (onward reply)) :
      Alike asks same (.ask question next) (.ask question onward)

inductive StepReturn.Alike : StepReturn → StepReturn → Prop
  | nothing : Alike .nothing .nothing
  | same : Alike .same .same
  | replacement {state other : State} (states : other.essence = state.essence) :
      Alike (.replacement state) (.replacement other)
  | other (kindName : String) : Alike (.other kindName) (.other kindName)

/-- Steps may give up the turn and ask for nothing else; routers ask for nothing. -/
abbrev Step.Alike : Step → Step → Prop :=
  Program.Alike Effect.IsWait StepReturn.Alike

abbrev Router.Alike : Router → Router → Prop :=
  Program.Alike (fun _ => False) Eq

/-- Steps and routers that read and write only the state they are handed, and do not read its id or
its times. -/
structure Definition.Blind (definition : Definition) : Prop where
  steps : ∀ spec ∈ definition.steps, Step.Alike spec.action spec.action
  routers : ∀ route ∈ definition.routes, ∀ router, route.router = some router →
    Router.Alike router router

inductive Phase.Alike : Phase → Phase → Prop
  | fresh : Alike .fresh .fresh
  | entering (step : String) (rest : List String) :
      Alike (.entering step rest) (.entering step rest)
  | inside (spec : StepSpec) (rest : List String) {program other : Step}
      (programs : Step.Alike program other) :
      Alike (.inside spec rest program) (.inside spec rest other)
  | routing (step : String) (route : Route) {program other : Router}
      (programs : Router.Alike program other) :
      Alike (.routing step route program) (.routing step route other)
  | concluded (step : String) : Alike (.concluded step) (.concluded step)

theorem Phase.alike_after (step : String) (successors : List String) :
    (Phase.after step successors).Alike (.after step successors) := by
  cases successors with
  | nil => exact .concluded step
  | cons next rest => exact .entering next rest

namespace Run

/-- Runs of one definition whose states come to the same, wherever they stand. -/
structure Matches (run other : Run) : Prop where
  definition : other.definition = run.definition
  ceiling : other.ceiling = run.ceiling
  essence : other.state.essence = run.state.essence

structure Alike (run other : Run) : Prop extends Matches run other where
  phase : run.phase.Alike other.phase

end Run

/-- Two moves of the same kind that lead on alike, or end the run in the same way. -/
inductive Move.Alike : Move → Move → Prop
  | go {run other : Run} (events others : List Event) (runs : run.Alike other) :
      Alike (.go run events) (.go other others)
  | ask {effect : Effect} {next onward : effect.Reply → Phase} (isWait : effect.IsWait)
      (phases : ∀ reply, (next reply).Alike (onward reply)) :
      Alike (.ask effect next) (.ask effect onward)
  | ended {last other : Run} (ending : Ending) (runs : last.Matches other) :
      Alike (.over last ending) (.over other ending)

/-- What two runs are told when both are admitted or neither is, and nobody cancels them. -/
structure Circumstances.Alike (here there : Circumstances) : Prop where
  admitted : there.admitted = here.admitted
  live : here.cancelled = false
  alive : there.cancelled = false

namespace Run

variable {run other : Run} {here there : Circumstances}

theorem Matches.iterationCount (runs : run.Matches other) :
    other.state.iterationCount = run.state.iterationCount :=
  congrArg Essence.iterationCount runs.essence

theorem Matches.totalSteps (runs : run.Matches other) :
    other.state.metadata.totalSteps = run.state.metadata.totalSteps :=
  congrArg Essence.totalSteps runs.essence

theorem Matches.enter (runs : run.Matches other) (blind : run.definition.Blind)
    (told : here.Alike there) (step : String) (rest : List String) :
    (run.enter here step rest).Alike (other.enter there step rest) := by
  unfold Run.enter
  rw [runs.ceiling, runs.iterationCount, runs.definition, told.live, told.alive]
  split
  · exact .ended _ runs
  · simp only [Bool.false_eq_true, if_false]
    cases found : run.definition.step? step with
    | none => exact .ended _ runs
    | some spec =>
        refine .go _ _ ⟨⟨rfl, rfl, ?_⟩, ?_⟩
        · obtain ⟨data, errors, _, totalSteps⟩ := Essence.mk.inj runs.essence
          simp only [State.essence, data, errors, totalSteps]
        · exact .inside spec rest (blind.steps spec (List.mem_of_find?_eq_some found))

theorem Matches.proceed (runs : run.Matches other) (blind : run.definition.Blind)
    (told : here.Alike there) (step : String) (rest : List String) (events others : List Event) :
    (run.proceed here step rest events).Alike (other.proceed there step rest others) := by
  unfold Run.proceed
  rw [runs.definition, told.live, told.alive]
  simp only [Bool.false_eq_true, if_false]
  cases rest with
  | cons next rest => exact .go _ _ ⟨⟨rfl, runs.ceiling, runs.essence⟩, .entering next rest⟩
  | nil =>
      dsimp only
      split
      · exact .ended _ runs
      · cases found : run.definition.route? step with
        | none => exact .ended _ runs
        | some route =>
            refine .go _ _ ⟨⟨rfl, runs.ceiling, runs.essence⟩, .routing step route ?_⟩
            cases hrouter : route.router with
            | none => exact .done rfl
            | some router =>
                exact blind.routers route (List.mem_of_find?_eq_some found) router hrouter

theorem Matches.failed (runs : run.Matches other) (now later : Instant) (spec : StepSpec)
    (failure : Failure) : (run.failed now spec failure).Matches (other.failed later spec failure) :=
  ⟨runs.definition, runs.ceiling, State.essence_addError runs.essence _ _ _ _⟩

theorem Matches.failStep (runs : run.Matches other) (blind : run.definition.Blind)
    (told : here.Alike there) (spec : StepSpec) (rest : List String) (failure : Failure) :
    (run.failStep here spec rest failure).Alike (other.failStep there spec rest failure) := by
  have failed := runs.failed here.now there.now spec failure
  rw [failStep_eq, failStep_eq]
  split
  · exact .ended _ failed
  · exact failed.proceed blind told spec.name rest [] []

theorem Matches.adopt (runs : run.Matches other) {state replacement : State}
    (states : replacement.essence = state.essence) :
    (run.adopt state).Matches (other.adopt replacement) := by
  refine ⟨runs.definition, runs.ceiling, ?_⟩
  obtain ⟨data, errors, _, _⟩ := Essence.mk.inj states
  simp only [State.essence, data_adopt, errors_adopt, iterationCount_adopt, metadata_adopt, data,
    errors, runs.iterationCount, runs.totalSteps]

theorem Matches.leave (runs : run.Matches other) (blind : run.definition.Blind)
    (told : here.Alike there) (spec : StepSpec) (rest : List String) {result outcome : StepReturn}
    (results : result.Alike outcome) :
    (run.leave here spec rest result).Alike (other.leave there spec rest outcome) := by
  cases results with
  | nothing => exact runs.proceed blind told spec.name rest [] []
  | same => exact runs.proceed blind told spec.name rest [] []
  | other kindName => exact runs.failStep blind told spec rest (.fault .type _)
  | replacement states =>
      have adopted := runs.adopt states
      exact .go _ _
        ⟨⟨adopted.definition, adopted.ceiling, adopted.essence⟩, .inside spec rest (.done .same)⟩

theorem Matches.moveStep (runs : run.Matches other) (blind : run.definition.Blind)
    (told : here.Alike there) (spec : StepSpec) (rest : List String) {program twin : Step}
    (programs : Step.Alike program twin) :
    (run.moveStep here spec rest program).Alike (other.moveStep there spec rest twin) := by
  cases programs with
  | done results => exact runs.leave blind told spec rest results
  | fail failure =>
      cases failure with
      | interrupted => exact .ended _ runs
      | _ => simpa only [Run.moveStep] using runs.failStep blind told spec rest _
  | read nexts =>
      exact .go _ _ ⟨⟨runs.definition, runs.ceiling, runs.essence⟩,
        .inside spec rest (nexts _ _ runs.essence)⟩
  | write states nexts =>
      exact .go _ _ ⟨⟨runs.definition, runs.ceiling, states⟩, .inside spec rest nexts⟩
  | ask allowed nexts => exact .ask allowed fun reply => .inside spec rest (nexts reply)

theorem Matches.follow (runs : run.Matches other) (step : String) (route : Route) (label : Label) :
    (run.follow step route label).Alike (other.follow step route label) := by
  unfold Run.follow
  dsimp only
  split
  · exact .ended _ runs
  · split
    · exact .ended _ runs
    · exact .go _ _ ⟨⟨runs.definition, runs.ceiling, runs.essence⟩, Phase.alike_after _ _⟩

theorem Matches.moveRouter (runs : run.Matches other) (step : String) (route : Route)
    {program twin : Router} (programs : Router.Alike program twin) :
    (run.moveRouter step route program).Alike (other.moveRouter step route twin) := by
  cases programs with
  | done results =>
      subst results
      exact runs.follow step route _
  | fail failure => cases failure <;> exact .ended _ runs
  | read nexts =>
      exact .go _ _ ⟨⟨runs.definition, runs.ceiling, runs.essence⟩,
        .routing step route (nexts _ _ runs.essence)⟩
  | write states nexts =>
      exact .go _ _ ⟨⟨runs.definition, runs.ceiling, states⟩, .routing step route nexts⟩
  | ask allowed => contradiction

theorem Alike.move (runs : run.Alike other) (blind : run.definition.Blind)
    (told : here.Alike there) : (run.move here).Alike (other.move there) := by
  have alike := runs.toMatches
  obtain ⟨_, phases⟩ := runs
  unfold Run.move
  generalize run.phase = phase at phases ⊢
  generalize other.phase = twin at phases ⊢
  cases phases with
  | fresh =>
      dsimp only
      rw [told.admitted, alike.definition]
      split
      · exact .ended _ alike
      · exact .go _ _ ⟨⟨rfl, alike.ceiling, alike.essence⟩, .entering _ _⟩
  | entering step rest => exact alike.enter blind told step rest
  | inside spec rest programs => exact alike.moveStep blind told spec rest programs
  | routing step route programs => exact alike.moveRouter step route programs
  | concluded step => exact .ended _ alike

def Waits (run : Run) : Prop :=
  ∃ (spec : StepSpec) (rest : List String) (effect : Effect) (next : effect.Reply → Step),
    run.phase = .inside spec rest (.ask effect next) ∧ effect.IsWait

theorem Alike.waits (runs : run.Alike other) {effect : Effect} {onward : effect.Reply → Phase}
    (asks : run.Asks effect onward) : effect.IsWait ∧ run.Waits := by
  have phases := runs.phase
  cases asks with
  | step phase =>
      rw [phase] at phases
      generalize other.phase = twin at phases
      cases phases with
      | inside _ _ programs =>
          cases programs with
          | ask allowed => exact ⟨allowed, _, _, _, _, phase, allowed⟩
  | router phase =>
      rw [phase] at phases
      generalize other.phase = twin at phases
      cases phases with
      | routing _ _ programs =>
          cases programs with
          | ask allowed => contradiction

theorem Stops.not_cancelled {last : Run} {ending : Ending}
    (stops : run.Stops here last ending) (live : here.cancelled = false)
    (id : Option String) (cause : Option Failure) :
    ending ≠ .raised (.instanceCancelled id) cause := by
  cases stops with
  | cancelledBefore _ cancelled => exact absurd (live.symm.trans cancelled) Bool.false_ne_true
  | cancelledAfter _ _ cancelled => exact absurd (live.symm.trans cancelled) Bool.false_ne_true
  | _ =>
      intro same
      cases same

end Run

namespace Solo

/-- What a run by itself comes to in some moves, none of which was the last. -/
inductive Comes (first : Solo) : Nat → Solo → Prop
  | start : Comes first 0 first
  | advance {moves : Nat} {solo next : Solo} (before : Comes first moves solo)
      (advanced : solo.advance = (next, none)) : Comes first (moves + 1) next

variable {first solo other last : Solo}

theorem token_answer (live : solo.token = none) (effect : Effect) :
    (solo.answer effect).1.token = none := by
  cases effect with
  | act deed => cases deed <;> simp only [answer, perform, live, Option.map_none]
  | _ => exact live

theorem token_advance {next : Solo} (live : solo.token = none)
    (advanced : solo.advance = (next, none)) : next.token = none := by
  unfold advance at advanced
  split at advanced
  · cases advanced
    exact live
  · next effect onward _ =>
      have free := token_answer live effect
      generalize solo.answer effect = answered at advanced free
      cases advanced
      exact free
  · cases advanced

theorem Comes.keeps {moves : Nat} (comes : first.Comes moves solo) (live : first.token = none) :
    solo.run.definition = first.run.definition ∧ solo.admitted = first.admitted ∧
      solo.token = none := by
  induction comes with
  | start => exact ⟨rfl, rfl, live⟩
  | advance _ advanced ih =>
      obtain ⟨definition, admitted, free⟩ := ih
      obtain ⟨same, _, advances, _⟩ := advances_advance advanced
      have course := (Run.Passage.start.advance advances).course
      exact ⟨course.definition_eq.trans definition, same.trans admitted,
        token_advance free advanced⟩

theorem Comes.unique {moves : Nat} (comes : first.Comes moves solo)
    (again : first.Comes moves other) : other = solo := by
  induction comes generalizing other with
  | start => cases again with | start => rfl
  | advance _ advanced ih =>
      cases again with
      | advance before once =>
          cases ih before
          rw [advanced] at once
          cases once
          rfl

theorem Comes.le_of_over {moves more : Nat} {ending : Ending} (comes : first.Comes moves solo)
    (isOver : solo.advance = (last, some ending)) (further : first.Comes more other) :
    more ≤ moves := by
  induction further with
  | start => exact Nat.zero_le _
  | advance before advanced ih =>
      apply Nat.lt_of_le_of_ne ih
      rintro rfl
      cases comes.unique before
      rw [isOver] at advanced
      cases advanced

theorem Comes.over_unique {moves more : Nat} {ending another : Ending} {final : Solo}
    (comes : first.Comes moves solo) (isOver : solo.advance = (last, some ending))
    (further : first.Comes more other) (again : other.advance = (final, some another)) :
    final = last ∧ another = ending := by
  have same : more = moves :=
    Nat.le_antisymm (comes.le_of_over isOver further) (further.le_of_over again comes)
  subst same
  cases comes.unique further
  rw [isOver] at again
  cases again
  exact ⟨rfl, rfl⟩

variable {run : Run} {here : Circumstances}

theorem advance_of_go {next : Run} {events : List Event} (runs : run.Alike solo.run)
    (blind : run.definition.Blind)
    (told : here.Alike ⟨solo.now, solo.admitted, solo.cancelled⟩)
    (moved : run.move here = .go next events) :
    ∃ after, solo.advance = (after, none) ∧ next.Alike after.run := by
  have moves := runs.move blind told
  rw [moved] at moves
  unfold advance
  generalize solo.run.move ⟨solo.now, solo.admitted, solo.cancelled⟩ = twin at moves
  cases moves with
  | go _ _ runs => exact ⟨_, rfl, runs⟩

/-- A run by itself is told to go on as soon as it gives up the turn. -/
theorem advance_of_ask {effect : Effect} {onward : effect.Reply → Phase}
    (runs : run.Alike solo.run) (blind : run.definition.Blind)
    (told : here.Alike ⟨solo.now, solo.admitted, solo.cancelled⟩)
    (asked : run.move here = .ask effect onward) :
    ∃ after, solo.advance = (after, none) ∧
      ({ run with phase := onward (solo.answer effect).2 } : Run).Alike after.run := by
  have moves := runs.move blind told
  rw [asked] at moves
  unfold advance
  generalize solo.run.move ⟨solo.now, solo.admitted, solo.cancelled⟩ = twin at moves
  cases moves with
  | ask isWait phases =>
      have alike := runs.toMatches
      cases isWait <;>
        exact ⟨_, rfl, ⟨alike.definition, alike.ceiling, alike.essence⟩, phases _⟩

theorem advance_of_over {after : Run} {ending : Ending} (runs : run.Alike solo.run)
    (blind : run.definition.Blind)
    (told : here.Alike ⟨solo.now, solo.admitted, solo.cancelled⟩)
    (isOver : run.move here = .over after ending) :
    ∃ last, solo.advance = (last, some ending) ∧ after.Matches last.run := by
  have moves := runs.move blind told
  rw [isOver] at moves
  unfold advance
  generalize solo.run.move ⟨solo.now, solo.admitted, solo.cancelled⟩ = twin at moves
  cases moves with
  | ended _ runs => exact ⟨_, rfl, runs⟩

end Solo

end StepGraph
