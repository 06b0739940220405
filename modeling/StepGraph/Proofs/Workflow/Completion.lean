import StepGraph.Proofs.Workflow.Chart

namespace StepGraph

namespace PolicyGeneration

/-- An exception that a step may be left by without ending the run. -/
def Ordinary (failure : Failure) : Prop :=
  failure ≠ .interrupted ∧ ∀ step text, failure ≠ .stepFailed step text true

/-- The services answer, or they fail with ordinary exceptions. -/
def Harmless (talk : Talk) : Prop :=
  ∀ inquiry failure, ⟨.consult inquiry, .error failure⟩ ∈ talk → Ordinary failure

theorem ordinary_fault (kind : FaultKind) (text : String) : Ordinary (.fault kind text) :=
  ⟨nofun, nofun⟩

theorem Harmless.right {talk words : Talk} (harmless : Harmless (talk ++ words)) : Harmless words :=
  fun inquiry failure member => harmless inquiry failure (List.mem_append_right _ member)

end PolicyGeneration

open PolicyGeneration (Ordinary Harmless)

namespace Services

/-- Services of which one has the same answer for all questions about a domain. Nothing is known
about other domains, and neither writer nor reviewer has anything to say. -/
def knowing (domain : String) (answer : Fallible Facts) : Services where
  knowledge := .scripted [(domain, ⟨[answer]⟩)]
  drafting := .scripted ⟨[]⟩
  reviewing := .scripted ⟨[]⟩

theorem answer_knowing {domain : String} {answer : Fallible Facts}
    (ordinary : ∀ failure, answer = .error failure → Ordinary failure) (inquiry : Inquiry) :
    ((knowing domain answer).answer inquiry).2 = knowing domain answer ∧
      ∀ failure, ((knowing domain answer).answer inquiry).1 = .error failure →
        Ordinary failure := by
  have silent : Ordinary (.fault .runtime "sequence exhausted") :=
    PolicyGeneration.ordinary_fault _ _
  cases inquiry with
  | facts asked params =>
      cases named : asked == domain with
      | true =>
          cases eq_of_beq named
          have known : (knowing domain answer).answer (.facts domain params) =
              (answer, knowing domain answer) := by
            simp [knowing, Services.answer, Services.facts, Script.next]
          rw [known]
          exact ⟨rfl, ordinary⟩
      | false =>
          have unknown : (knowing domain answer).answer (.facts asked params) =
              (.ok [], knowing domain answer) := by
            simp only [knowing, Services.answer, Services.facts, List.lookup_cons, List.lookup_nil,
              named]
          rw [unknown]
          exact ⟨rfl, nofun⟩
  | draft => exact ⟨rfl, fun _ fails => by cases fails; exact silent⟩
  | review => exact ⟨rfl, fun _ fails => by cases fails; exact silent⟩

end Services

namespace StepProgram

variable {α β : Type}

def Mild (program : StepProgram α) : Prop :=
  ∀ state talk failure after, program.Gives state talk (.error failure) after →
    Harmless talk → Ordinary failure

theorem Mild.done (value : α) : Mild (.done value) := by
  rintro _ _ _ _ ⟨_, fails, _⟩
  cases fails

theorem Mild.read {next : State → StepProgram α} (mild : ∀ state, (next state).Mild) :
    Mild (.read next) :=
  fun state => mild state state

theorem Mild.act (deed : Deed) : Mild (act deed) := by
  rintro _ _ _ _ ⟨_, _, _, _, fails, _⟩
  cases fails

theorem Mild.consult (inquiry : Inquiry) : Mild (consult inquiry) := by
  rintro state _ failure after ⟨reply, rest, rfl, gives⟩ harmless
  cases reply with
  | ok answer =>
      obtain ⟨-, fails, -⟩ := gives
      cases fails
  | error other =>
      obtain ⟨-, fails, -⟩ := gives
      cases fails
      exact harmless inquiry failure List.mem_cons_self

theorem Mild.lift {result : Fallible α}
    (ordinary : ∀ failure, result = .error failure → Ordinary failure) :
    Mild (Program.lift result) := by
  intro state talk failure after gives _
  obtain ⟨-, same, -⟩ := Program.gives_lift_iff.mp gives
  exact ordinary failure same.symm

theorem Mild.bind {program : StepProgram α} {next : α → StepProgram β} (mild : program.Mild)
    (onward : ∀ value, (next value).Mild) : Mild (program.bind next) := by
  intro state talk failure after gives harmless
  rcases Program.gives_bind gives with
    ⟨other, fails, same⟩ | ⟨value, said, rest, between, -, fails, rfl⟩
  · cases same
    exact mild _ _ _ _ fails harmless
  · exact onward value _ _ _ _ fails harmless.right

end StepProgram

/-- A mild step that hands back nothing but the state it was given and leaves the counters to the
run. -/
structure Step.Modest (step : Step) : Prop where
  mild : StepProgram.Mild step
  returns : ∀ state talk returned after, step.Gives state talk (.ok returned) after →
    returned = .nothing
  sparing : step.LeavesAlone State.bookkeeping
  frugal : step.NeverLowersCount

theorem PayloadLens.modest_step {α : Type} {lens : PayloadLens α} {work : α → StepProgram α}
    (mild : ∀ payload, (work payload).Mild) (silent : ∀ payload, (work payload).Silent) :
    (lens.step work).Modest where
  mild := by
    intro state talk failure after gives harmless
    unfold step at gives
    simp only [Program.Gives] at gives
    cases found : lens.find? state.data with
    | none =>
        rw [found] at gives
        obtain ⟨-, fails, -⟩ := gives
        cases fails
        exact PolicyGeneration.ordinary_fault _ _
    | some payload =>
        rw [found] at gives
        refine (mild payload).bind (fun updated => ?_) _ _ _ _ gives harmless
        rintro _ _ _ _ ⟨_, fails, _⟩
        cases fails
  returns := by
    intro state talk returned after gives
    unfold step at gives
    simp only [Program.Gives] at gives
    cases found : lens.find? state.data with
    | none =>
        rw [found] at gives
        obtain ⟨-, same, -⟩ := gives
        cases same
    | some payload =>
        rw [found] at gives
        rcases Program.gives_bind gives with ⟨_, -, same⟩ | ⟨_, _, _, _, -, second, -⟩
        · cases same
        · obtain ⟨-, same, -⟩ := second
          cases same
          rfl
  sparing := leavesAlone_step fun payload => (silent payload).leavesAlone _
  frugal := neverLowersCount_step fun payload => (silent payload).leavesAlone _

theorem PayloadLens.modest_computing {α : Type} {lens : PayloadLens α} {compute : α → Fallible α}
    (ordinary : ∀ payload failure, compute payload = .error failure → Ordinary failure) :
    (lens.step fun payload => .lift (compute payload)).Modest :=
  modest_step (fun payload => .lift (ordinary payload)) fun _ => Program.silent_lift _

theorem PayloadLens.modest_change {α : Type} {lens : PayloadLens α} (f : α → α) :
    (lens.change f).Modest :=
  modest_step (fun _ => .done _) fun _ => trivial

theorem PayloadLens.modest_consulting {α : Type} {lens : PayloadLens α} (inquiry : α → Inquiry)
    (use : (payload : α) → (inquiry payload).Answer → α) :
    (lens.step fun payload =>
      (StepProgram.consult (inquiry payload)).bind fun answer =>
        .done (use payload answer)).Modest :=
  modest_step (fun _ => (StepProgram.Mild.consult _).bind fun _ => .done _)
    fun _ reply => (Program.silent_lift reply).bind fun _ => trivial

/-- No step of the graph stops a run on account of an ordinary exception, and only the run itself
counts. -/
structure Definition.Modest (definition : Definition) : Prop where
  steps : ∀ spec ∈ definition.steps, spec.action.Modest ∧ spec.fatal = false
  routers : ∀ route ∈ definition.routes, ∀ router, route.router = some router →
    router.LeavesAlone State.counters

namespace Definition.Modest

variable {definition : Definition}

theorem frugal (modest : definition.Modest) : definition.Frugal :=
  ⟨fun spec member => (modest.steps spec member).1.frugal, modest.routers⟩

theorem sparing (modest : definition.Modest) : definition.Sparing :=
  ⟨fun spec member => (modest.steps spec member).1.sparing, modest.routers⟩

theorem comes_to_end (modest : definition.Modest) (ceiling : Int) (first : State) :
    (¬ ∃ runs : Nat → Run, runs 0 = Run.create definition ceiling first ∧
      ∀ k, ∃ events, (runs k).Advances events (runs (k + 1))) ∧
    ∀ solo : Solo, solo.run = Run.create definition ceiling first →
      ∃ moves after ending, solo.finish moves = (after, some ending) := by
  have frugal : (Run.create definition ceiling first).definition.Frugal := modest.frugal
  have ends : (Run.create definition ceiling first).Ends :=
    Run.ends_of_atLeast frugal (Run.Passage.start.atLeast frugal rfl).1
  exact ⟨ends.no_endless, fun solo same => Solo.exists_finish (same ▸ ends)⟩

end Definition.Modest

namespace Run

variable {first : Run} {talk : Talk} {trace : List Event} {state : State}

theorem Underway.ordinary (modest : first.definition.Modest) (harmless : Harmless talk)
    {spec : StepSpec} {rest : List String} {program : Step} {failure : Failure}
    (underway : first.Underway talk trace state (.inside spec rest program))
    (fails : program.failure? = some failure ∨ program = .fail failure) :
    Ordinary failure ∧ spec.fatal = false := by
  obtain ⟨result, rfl⟩ : ∃ result, program = Program.lift result := by
    rcases fails with fails | rfl
    · exact exists_lift_of_failure? fails
    · exact ⟨.error failure, rfl⟩
  generalize back : (Program.lift result : Step) = program at underway fails
  cases underway with
  | between journey => cases journey
  | inside journey _ found left =>
      obtain ⟨⟨mild, returns, -, -⟩, tame⟩ := modest.steps spec (List.mem_of_find?_eq_some found)
      subst back
      refine ⟨?_, tame⟩
      cases result with
      | error other =>
          have same : other = failure := by
            rcases fails with fails | fails
            · cases other <;> cases fails <;> rfl
            · cases fails
              rfl
          exact same ▸ mild _ _ _ _ left.gives harmless.right
      | ok returned =>
          cases returns _ _ _ _ left.gives
          rcases fails with fails | fails <;> cases fails
  | adopted => rcases fails with fails | fails <;> cases fails

/-- The states in which a step is left before the decision on what follows it. -/
inductive AwaitsDecision (first : Run) : String → State → Prop
  | mk {talk words : Talk} {trace events : List Event} {before after : State} {step : String}
      (journey : first.Journey talk trace before (.entering step []))
      (takes : first.definition.Takes first.ceiling step before words events after) :
      AwaitsDecision first step after

/-- A router that leaves the state alone has come to its answer in the state that the step left. -/
theorem Underway.awaitsDecision {fails : String → State → Failure → Prop}
    (ponders : ∀ route ∈ first.definition.routes, route.Ponders (fails route.source))
    {step : String}
    {route : Route} {program : Router} {result : Fallible Label}
    (underway : first.Underway talk trace state (.routing step route program))
    (back : program = Program.lift result) : first.AwaitsDecision step state := by
  cases underway with
  | between journey => cases journey
  | routing journey takes inner routed left =>
      subst back
      obtain ⟨-, same, -⟩ := ponders route (List.mem_of_find?_eq_some routed) _ _ _ _ left.gives
      exact same ▸ .mk journey takes

theorem Dialogue.awaitsDecision {definition : Definition} (wellFormed : definition.WellFormed)
    {fails : String → State → Failure → Prop}
    (ponders : ∀ route ∈ definition.routes, route.Ponders (fails route.source)) {ceiling : Int}
    {first : State} {run last : Run} {circumstances : Circumstances} {step : String} {value : Value}
    {text : Option String} {cause : Option Failure}
    (dialogue : (Run.create definition ceiling first).Dialogue talk trace run)
    (admitted : circumstances.admitted = true)
    (isOver : run.move circumstances = .over last (.raised (.unroutable step value text) cause)) :
    (Run.create definition ceiling first).AwaitsDecision step run.state := by
  have underway := dialogue.underway rfl
  cases dialogue.passage.course.endsAt wellFormed (fun _ => admitted) isOver with
  | regular regular => cases regular
  | @astray _ _ program _ _ _ phase _ _ astray =>
      rw [phase] at underway
      cases program with
      | done label =>
          have back : (.done label : Router) = Program.lift (.ok label) := rfl
          exact underway.awaitsDecision ponders back
      | fail failure =>
          have back : (.fail failure : Router) = Program.lift (.error failure) := rfl
          exact underway.awaitsDecision ponders back
      | _ => exact astray.elim

/-- As long as the services fail with ordinary exceptions only and nobody cancels it, a run that has
not come to its ceiling and whose decisions do not fail ends by completing. -/
theorem Dialogue.completed_of_decided {definition : Definition} (wellFormed : definition.WellFormed)
    (modest : definition.Modest) (fails : String → State → Failure → Prop)
    (ponders : ∀ route ∈ definition.routes, route.Ponders (fails route.source)) {ceiling : Int}
    {first : State} {run last : Run} {circumstances : Circumstances} {ending : Ending}
    (dialogue : (Run.create definition ceiling first).Dialogue talk trace run)
    (harmless : Harmless talk)
    (below : ∀ step rest, run.phase = .entering step rest →
      run.state.iterationCount < run.ceiling)
    (decided : ∀ step failure,
      (Run.create definition ceiling first).AwaitsDecision step run.state →
        ¬ fails step run.state failure)
    (admitted : circumstances.admitted = true) (live : circumstances.cancelled = false)
    (isOver : run.move circumstances = .over last ending) : ∃ step, ending = .completed step := by
  have underway := dialogue.underway rfl
  have course := dialogue.passage.course
  have unroutable : ∀ step value text cause,
      ending ≠ .raised (.unroutable step value text) cause := by
    rintro step value text cause rfl
    obtain ⟨failure, -, failed⟩ := dialogue.cause_of_unroutable wellFormed ponders isOver
    exact decided step failure (dialogue.awaitsDecision wellFormed ponders admitted isOver) failed
  cases Run.stops_of_move isOver with
  | refused _ refused => rw [admitted] at refused; cases refused
  | ceiling phase reached => exact absurd (below _ _ phase) (Int.not_lt.mpr reached)
  | cancelledBefore _ cancelled => rw [live] at cancelled; cases cancelled
  | undeclared phase missing =>
      have onTrack := phase ▸ course.onTrack wellFormed.toStructured
      have same : run.definition = definition := course.definition_eq
      cases onTrack with
      | entering leg =>
          obtain ⟨spec, found⟩ := leg.declared wellFormed.toStructured
          rw [same, found] at missing
          cases missing
  | interrupted phase =>
      rw [phase] at underway
      obtain ⟨⟨raised, -⟩, -⟩ := underway.ordinary modest harmless (.inr rfl)
      contradiction
  | @fatal spec rest program failure phase fails stops =>
      rw [phase] at underway
      obtain ⟨⟨-, ordinary⟩, tame⟩ := underway.ordinary modest harmless (.inl fails)
      cases failure <;> simp_all [StepSpec.stopsOn]
  | cancelledAfter _ _ cancelled => rw [live] at cancelled; cases cancelled
  | completed => exact ⟨_, rfl⟩
  | deadEnd => exact absurd rfl (unroutable _ _ _ _)
  | routerInterrupted phase =>
      rw [phase] at underway
      have back : (.fail .interrupted : Router) = Program.lift (.error .interrupted) := rfl
      obtain ⟨-, ⟨_, same, -⟩ | ⟨_, same, failed⟩⟩ := underway.decision ponders back
      · cases same
      · exact absurd failed (decided _ _ (underway.awaitsDecision ponders back))
  | routerFailed => exact absurd rfl (unroutable _ _ _ _)
  | noKey => exact absurd rfl (unroutable _ _ _ _)
  | unmapped => exact absurd rfl (unroutable _ _ _ _)
  | concluded => exact ⟨_, rfl⟩

theorem Dialogue.iterationCount_eq {definition : Definition} (modest : definition.Modest)
    {ceiling : Int} {first : State} {run : Run}
    (dialogue : (Run.create definition ceiling first).Dialogue talk trace run) :
    run.state.iterationCount = first.iterationCount + (stepsIn trace).length := by
  have same : ∀ trace : List Event, (startsIn trace).length = (stepsIn trace).length := by
    intro trace
    induction trace with
    | nil => rfl
    | cons event trace ih =>
        cases event with
        | started => exact congrArg (· + 1) ih
        | _ => exact ih
  have counted : Run.Counted (Run.create definition ceiling first) trace run.state :=
    (dialogue.passage.counted modest.sparing rfl).2.1
  rw [← same]
  exact counted.1

end Run

namespace Chart

variable {α Place : Type} {chart : Chart α Place} {definition : Definition} {toGo : Place → Nat}
  {ceiling : Int} {first : State} {payload : α}

/-- With room for all its steps below the ceiling, and decisions that do not fail on what the steps
leave, a run completes at the end of a way. -/
theorem Maps.ends_of_decided (maps : chart.Maps definition) (descends : chart.Descends toGo)
    (wellFormed : definition.WellFormed) (modest : definition.Modest)
    (fails : String → State → Failure → Prop)
    (ponders : ∀ route ∈ definition.routes, route.Ponders (fails route.source))
    (carries : chart.Carries first payload)
    (room : first.iterationCount + (toGo chart.first + 1 : Nat) < definition.ceiling.getD ceiling)
    {talk : Talk} {trace : List Event} {run last : Run} {circumstances : Circumstances}
    {ending : Ending} (dialogue : (Run.create definition ceiling first).Dialogue talk trace run)
    (harmless : Harmless talk)
    (decided : ∀ said steps before place words failure,
      chart.Way first said steps before place → chart.rest place = [] →
        chart.Takes place before words run.state → ¬ fails (chart.step place) run.state failure)
    (admitted : circumstances.admitted = true) (live : circumstances.cancelled = false)
    (isOver : run.move circumstances = .over last ending) :
    ∃ step, ending = .completed step ∧
      chart.Ends first talk (stepsIn trace) last.state step := by
  have counted := dialogue.iterationCount_eq modest
  have bounded := maps.bounded descends carries dialogue
  have sameCeiling : run.ceiling = definition.ceiling.getD ceiling := dialogue.passage.ceiling_eq
  have below : run.state.iterationCount < run.ceiling := by omega
  obtain ⟨step, rfl⟩ := dialogue.completed_of_decided wellFormed modest fails ponders harmless
    (fun _ _ _ => below) (fun step failure awaits => by
      obtain ⟨journey, takes⟩ := awaits
      cases maps.stands carries journey with
      | between way same =>
          obtain ⟨rfl, last⟩ := Phase.entering.inj same
          obtain ⟨_, carries⟩ := way.carries carries
          exact decided _ _ _ _ _ failure way last.symm (maps.takes carries takes))
    admitted live isOver
  exact ⟨step, rfl, maps.ends carries (dialogue.completes rfl isOver)⟩

/-- The same where no decision can fail on the state that the run has come to. -/
theorem Maps.ends_of_over (maps : chart.Maps definition) (descends : chart.Descends toGo)
    (wellFormed : definition.WellFormed) (modest : definition.Modest)
    (fails : String → State → Failure → Prop)
    (ponders : ∀ route ∈ definition.routes, route.Ponders (fails route.source))
    (carries : chart.Carries first payload)
    (room : first.iterationCount + (toGo chart.first + 1 : Nat) < definition.ceiling.getD ceiling)
    {talk : Talk} {trace : List Event} {run last : Run} {circumstances : Circumstances}
    {ending : Ending} (dialogue : (Run.create definition ceiling first).Dialogue talk trace run)
    (harmless : Harmless talk) (decided : ∀ step failure, ¬ fails step run.state failure)
    (admitted : circumstances.admitted = true) (live : circumstances.cancelled = false)
    (isOver : run.move circumstances = .over last ending) :
    ∃ step, ending = .completed step ∧
      chart.Ends first talk (stepsIn trace) last.state step :=
  maps.ends_of_decided descends wellFormed modest fails ponders carries room dialogue harmless
    (fun _ _ _ _ _ failure _ _ _ => decided _ failure) admitted live isOver

end Chart

end StepGraph
