import StepGraph.Proofs.Policy.Steps

namespace StepGraph.PolicyGeneration

inductive Stage.Leaves (stage : Stage) (state : State) : Fallible PolicyRequest → State → Prop
  | updated (request : PolicyRequest) :
      Leaves stage state (.ok request) (state.counted.withPayload (.policy request))
  | recorded (failure : Failure) (now : Instant) :
      Leaves stage state (.error failure)
        (state.counted.addError now stage.name (StepSpec.recordedText failure))

inductive Stage.Takes (stage : Stage) (state : State) (talk : Talk) (after : State) : Prop
  | mk {request : PolicyRequest} {outcome : Fallible PolicyRequest}
      (carries : state.data = .payload (.policy request))
      (yields : stage.Yields state.counted request talk outcome)
      (leaves : stage.Leaves state outcome after) : Takes stage state talk after

inductive Position where
  | analysis
  | context
  | assessment
  | threats
  | security
  | compliance
  | generation
  | validation
  | reviewThreats
  | reviewCompliance
  | refinement
  | completion
deriving DecidableEq

namespace Position

def stage : Position → Stage
  | analysis => .analyze
  | context => .retrieve
  | assessment => .assess
  | threats => .threats
  | security => .security
  | compliance => .compliance
  | generation => .generate
  | validation => .validate
  | reviewThreats => .threats
  | reviewCompliance => .compliance
  | refinement => .refine
  | completion => .finalize

def rest : Position → List String
  | context => ["assess_risk"]
  | threats => ["security_validation", "generate_policy"]
  | security => ["generate_policy"]
  | compliance => ["generate_policy"]
  | reviewThreats => ["compliance_check", "refine_policy"]
  | reviewCompliance => ["refine_policy"]
  | _ => []

def next (position : Position) (state : State) : Option Position :=
  match position with
  | analysis =>
      match routeOnComplexity state with
      | .simple => some assessment
      | .complex => some context
  | context => some assessment
  | assessment =>
      match routeOnRisk state with
      | .high => some threats
      | .medium => some compliance
      | .low => some generation
  | threats => some security
  | security => some generation
  | compliance => some generation
  | generation =>
      match routeAfterGeneration state with
      | .needsValidation => some validation
      | .needsRefinement => some refinement
      | .complete => some completion
  | validation =>
      match routeAfterValidation state with
      | .pass => some completion
      | .fail => some refinement
      | .needsReview => some reviewThreats
      | .maxIterations => some completion
  | reviewThreats => some reviewCompliance
  | reviewCompliance => some refinement
  | refinement =>
      match routeAfterRefinement state with
      | .retry => some generation
      | .maxIterations => some completion
      | .error => none
  | completion => none

/-- The ways from one position to another, each with the decision that takes a run there. -/
inductive Goes (state : State) : Position → Position → Prop
  | simple (decided : routeOnComplexity state = .simple) : Goes state analysis assessment
  | complex (decided : routeOnComplexity state = .complex) : Goes state analysis context
  | informed : Goes state context assessment
  | high (decided : routeOnRisk state = .high) : Goes state assessment threats
  | medium (decided : routeOnRisk state = .medium) : Goes state assessment compliance
  | low (decided : routeOnRisk state = .low) : Goes state assessment generation
  | analyzed : Goes state threats security
  | secured : Goes state security generation
  | checked : Goes state compliance generation
  | drafted (decided : routeAfterGeneration state = .needsValidation) :
      Goes state generation validation
  | blank (decided : routeAfterGeneration state = .needsRefinement) :
      Goes state generation refinement
  | complete (decided : routeAfterGeneration state = .complete) : Goes state generation completion
  | passed (decided : routeAfterValidation state = .pass) : Goes state validation completion
  | failed (decided : routeAfterValidation state = .fail) : Goes state validation refinement
  | doubtful (decided : routeAfterValidation state = .needsReview) :
      Goes state validation reviewThreats
  | exhausted (decided : routeAfterValidation state = .maxIterations) :
      Goes state validation completion
  | warned : Goes state reviewThreats reviewCompliance
  | reviewed : Goes state reviewCompliance refinement
  | retried (decided : routeAfterRefinement state = .retry) : Goes state refinement generation
  | spent (decided : routeAfterRefinement state = .maxIterations) : Goes state refinement completion

theorem goes_of_next {position onward : Position} {state : State}
    (leads : position.next state = some onward) : position.Goes state onward := by
  cases position with
  | analysis =>
      simp only [next] at leads
      split at leads <;> cases leads
      · next decided => exact .simple decided
      · next decided => exact .complex decided
  | context => cases leads; exact .informed
  | assessment =>
      simp only [next] at leads
      split at leads <;> cases leads
      · next decided => exact .high decided
      · next decided => exact .medium decided
      · next decided => exact .low decided
  | threats => cases leads; exact .analyzed
  | security => cases leads; exact .secured
  | compliance => cases leads; exact .checked
  | generation =>
      simp only [next] at leads
      split at leads <;> cases leads
      · next decided => exact .drafted decided
      · next decided => exact .blank decided
      · next decided => exact .complete decided
  | validation =>
      simp only [next] at leads
      split at leads <;> cases leads
      · next decided => exact .passed decided
      · next decided => exact .failed decided
      · next decided => exact .doubtful decided
      · next decided => exact .exhausted decided
  | reviewThreats => cases leads; exact .warned
  | reviewCompliance => cases leads; exact .reviewed
  | refinement =>
      simp only [next] at leads
      split at leads <;> cases leads
      · next decided => exact .retried decided
      · next decided => exact .spent decided
  | completion => cases leads

def successors (position : Position) (state : State) : List String :=
  match position.next state with
  | some next => next.stage.name :: next.rest
  | none => []

theorem next_of_rest {position : Position} {step : String} {rest : List String}
    (follows : position.rest = step :: rest) (state : State) :
    ∃ next, position.next state = some next ∧ step = next.stage.name ∧ rest = next.rest := by
  cases position with
  | context => cases follows; exact ⟨assessment, rfl, rfl, rfl⟩
  | threats => cases follows; exact ⟨security, rfl, rfl, rfl⟩
  | security => cases follows; exact ⟨generation, rfl, rfl, rfl⟩
  | compliance => cases follows; exact ⟨generation, rfl, rfl, rfl⟩
  | reviewThreats => cases follows; exact ⟨reviewCompliance, rfl, rfl, rfl⟩
  | reviewCompliance => cases follows; exact ⟨refinement, rfl, rfl, rfl⟩
  | _ => cases follows

theorem errors_of_next {state : State} (stops : refinement.next state = none) :
    3 < state.errors.length := by
  simp only [next] at stops
  split at stops
  · cases stops
  · cases stops
  · next decided =>
      unfold routeAfterRefinement at decided
      split at decided
      · next many => exact many
      · split at decided
        · cases decided
        · split at decided <;> cases decided

theorem completion_of_isTerminal {tag : Nat} {position : Position}
    (isTerminal : (definition tag).isTerminal position.stage.name = true) :
    position = completion := by
  have isLast : position.stage.name = "finalize_policy" := by
    simpa [Definition.isTerminal, definition, drawn] using isTerminal
  cases position with
  | completion => rfl
  | _ => exact absurd isLast (by decide)

theorem refinement_of_stage {position : Position} (isRefine : position.stage = .refine) :
    position = refinement := by
  cases position <;> first | rfl | cases isRefine

theorem validation_of_stage {position : Position} (isValidate : position.stage = .validate) :
    position = validation := by
  cases position <;> first | rfl | cases isValidate

theorem completion_of_stage {position : Position} (isFinalize : position.stage = .finalize) :
    position = completion := by
  cases position <;> first | rfl | cases isFinalize

theorem decides {tag : Nat} {position : Position} {route : Route} (last : position.rest = [])
    (routed : (definition tag).route? position.stage.name = some route) {state after : State}
    {deeds : List (Exchange Deed.Reply)} {result : Fallible Label}
    (gives : route.decision.Gives state deeds result after) :
    deeds = [] ∧ after = state ∧ ∃ label key, result = .ok label ∧ label.value.key? = some key ∧
      route.successors? key = some (position.successors state) := by
  cases position with
  | analysis =>
      cases routed
      obtain ⟨rfl, rfl, rfl⟩ := gives
      refine ⟨rfl, rfl, _, _, rfl, rfl, ?_⟩
      rw [successors, next]
      cases routeOnComplexity after <;> rfl
  | assessment =>
      cases routed
      obtain ⟨rfl, rfl, rfl⟩ := gives
      refine ⟨rfl, rfl, _, _, rfl, rfl, ?_⟩
      rw [successors, next]
      cases routeOnRisk after <;> rfl
  | generation =>
      cases routed
      obtain ⟨rfl, rfl, rfl⟩ := gives
      refine ⟨rfl, rfl, _, _, rfl, rfl, ?_⟩
      rw [successors, next]
      cases routeAfterGeneration after <;> rfl
  | validation =>
      cases routed
      obtain ⟨rfl, rfl, rfl⟩ := gives
      refine ⟨rfl, rfl, _, _, rfl, rfl, ?_⟩
      rw [successors, next]
      cases routeAfterValidation after <;> rfl
  | refinement =>
      cases routed
      obtain ⟨rfl, rfl, rfl⟩ := gives
      refine ⟨rfl, rfl, _, _, rfl, rfl, ?_⟩
      rw [successors, next]
      cases routeAfterRefinement after <;> rfl
  | completion => cases routed
  | _ => cases last

theorem refinement_of_next {position : Position} {state : State}
    (stops : position.next state = none) (inner : position ≠ completion) :
    position = refinement := by
  cases position with
  | refinement => rfl
  | completion => contradiction
  | analysis =>
      simp only [next] at stops
      split at stops <;> cases stops
  | assessment =>
      simp only [next] at stops
      split at stops <;> cases stops
  | generation =>
      simp only [next] at stops
      split at stops <;> cases stops
  | validation =>
      simp only [next] at stops
      split at stops <;> cases stops
  | _ => cases stops

end Position

namespace Stage

theorem takes_of_takes {tag : Nat} {ceiling : Int} {stage : Stage} {state after : State}
    {request : PolicyRequest} {talk : Talk} {events : List Event}
    (carries : state.data = .payload (.policy request))
    (takes : (definition tag).Takes ceiling stage.name state talk events after) :
    stage.Takes state talk after := by
  have counted : state.counted.data = .payload (.policy request) := carries
  cases takes with
  | settled below found gives leaves =>
      cases (step?_name tag stage).symm.trans found
      obtain ⟨outcome, yields, lands⟩ := Stage.yields counted gives
      refine ⟨carries, yields, ?_⟩
      cases lands with
      | written updated =>
          cases leaves with
          | nothing => exact .updated updated
          | recorded _ fails => cases fails
      | failed failure =>
          cases leaves with
          | recorded now fails =>
              cases failure <;> cases fails <;> exact .recorded _ now
  | adopted below found gives =>
      cases (step?_name tag stage).symm.trans found
      obtain ⟨outcome, -, lands⟩ := Stage.yields counted gives
      cases lands

theorem Takes.carries {stage : Stage} {state after : State} {talk : Talk}
    (takes : stage.Takes state talk after) :
    ∃ request, after.data = .payload (.policy request) := by
  obtain ⟨carries, yields, leaves⟩ := takes
  cases leaves with
  | updated request => exact ⟨request, rfl⟩
  | recorded => exact ⟨_, carries⟩

end Stage

/-- The ways that a run can take from a state, with all that is asked, the steps that are started,
and the states in which it stands between them. -/
inductive Way (first : State) : Talk → List String → State → Position → Prop
  | start : Way first [] [] first .analysis
  | onward {talk words : Talk} {steps : List String} {state after : State}
      {position next : Position} (way : Way first talk steps state position)
      (below : state.iterationCount < 25) (takes : position.stage.Takes state words after)
      (goes : position.next after = some next) :
      Way first (talk ++ words) (steps ++ [position.stage.name]) after next

inductive Way.Ends (first : State) : Talk → List String → State → String → Prop
  | completion {talk words : Talk} {steps : List String} {state after : State}
      (way : Way first talk steps state .completion) (below : state.iterationCount < 25)
      (takes : Stage.finalize.Takes state words after) :
      Ends first (talk ++ words) (steps ++ ["finalize_policy"]) after "finalize_policy"
  | refinement {talk words : Talk} {steps : List String} {state after : State}
      (way : Way first talk steps state .refinement) (below : state.iterationCount < 25)
      (takes : Stage.refine.Takes state words after)
      (stops : Position.refinement.next after = none) :
      Ends first (talk ++ words) (steps ++ ["refine_policy"]) after "refine_policy"

variable {first : State} {request : PolicyRequest}

theorem Way.carries (carries : first.data = .payload (.policy request)) {talk : Talk}
    {steps : List String} {state : State} {position : Position}
    (way : Way first talk steps state position) :
    ∃ request, state.data = .payload (.policy request) := by
  cases way with
  | start => exact ⟨request, carries⟩
  | onward _ _ takes => exact takes.carries

/-- A place of a journey, as a position on a way or as the end of one. -/
inductive Stands (first : State) (talk : Talk) (steps : List String) (state : State) : Phase → Prop
  | between {position : Position} {phase : Phase} (way : Way first talk steps state position)
      (same : phase = .entering position.stage.name position.rest) :
      Stands first talk steps state phase
  | ended {step : String} (ends : Way.Ends first talk steps state step) :
      Stands first talk steps state (.concluded step)

def runFrom (tag : Nat) (ceiling : Int) (first : State) : Run :=
  .create (definition tag) ceiling first

theorem below_of_takes {tag : Nat} {ceiling : Int} {step : String} {before after : State}
    {talk : Talk} {events : List Event}
    (takes : (definition tag).Takes ceiling step before talk events after) :
    before.iterationCount < ceiling := by
  cases takes with
  | settled below => exact below
  | adopted below => exact below

theorem goes_of_decides {tag : Nat} {ceiling : Int} {position : Position} {state after : State}
    {talk : Talk} {events : List Event} {successors : List String}
    (carries : state.data = .payload (.policy request)) (last : position.rest = [])
    (decides : (definition tag).Decides ceiling position.stage.name state talk events after
      successors) :
    state.iterationCount < ceiling ∧ position.stage.Takes state talk after ∧
      position ≠ .completion ∧ successors = position.successors after := by
  obtain ⟨takes, inner, routed, gives, isKey, mapped⟩ := decides
  obtain ⟨rfl, rfl, label, key, same, isKey', mapped'⟩ := Position.decides last routed gives
  cases same
  cases isKey.symm.trans isKey'
  refine ⟨below_of_takes takes, ?_, ?_, Option.some.inj (mapped.symm.trans mapped')⟩
  · rw [Talk.ofDeeds, List.map_nil, List.append_nil]
    exact Stage.takes_of_takes carries takes
  · rintro rfl
    cases inner

theorem stands_of_journey {tag : Nat} {ceiling : Int}
    (carries : first.data = .payload (.policy request)) {talk : Talk} {trace : List Event}
    {state : State} {phase : Phase}
    (journey : (runFrom tag ceiling first).Journey talk trace state phase) :
    Stands first talk (stepsIn trace) state phase := by
  induction journey with
  | start =>
      have way : Way first [] [] first .analysis := .start
      exact .between way rfl
  | stage before takes ih =>
      rw [stepsIn_append, takes.stepsIn_eq]
      cases ih with
      | @between position _ way same =>
          obtain ⟨rfl, follows⟩ := Phase.entering.inj same
          obtain ⟨_, carries⟩ := way.carries carries
          have takes : (definition tag).Takes 25 position.stage.name _ _ _ _ := takes
          have takenStage := Stage.takes_of_takes carries takes
          obtain ⟨next, goes, rfl, rfl⟩ := Position.next_of_rest follows.symm _
          exact .between (way.onward (below_of_takes takes) takenStage goes) rfl
  | decision before decides ih =>
      rw [stepsIn_append, decides.stepsIn_eq]
      cases ih with
      | @between position _ way same =>
          obtain ⟨rfl, last⟩ := Phase.entering.inj same
          obtain ⟨_, carries⟩ := way.carries carries
          obtain ⟨below, takes, -, heq⟩ := goes_of_decides carries last.symm decides
          cases goes : position.next _ with
          | some next =>
              rw [Position.successors, goes] at heq
              obtain ⟨rfl, rfl⟩ := List.cons.inj heq
              exact .between (way.onward below takes goes) rfl
          | none =>
              rw [Position.successors, goes] at heq
              cases heq
  | conclusion before decides ih =>
      rw [stepsIn_append, decides.stepsIn_eq]
      cases ih with
      | @between position _ way same =>
          obtain ⟨rfl, last⟩ := Phase.entering.inj same
          obtain ⟨_, carries⟩ := way.carries carries
          obtain ⟨below, takes, inner, heq⟩ := goes_of_decides carries last.symm decides
          cases goes : position.next _ with
          | some next =>
              rw [Position.successors, goes] at heq
              cases heq
          | none =>
              cases Position.refinement_of_next goes inner
              exact .ended (.refinement way below takes goes)

theorem way_of_journey {tag : Nat} {ceiling : Int} {talk : Talk} {trace : List Event}
    {state : State} {step : String} {rest : List String}
    (carries : first.data = .payload (.policy request))
    (journey : (runFrom tag ceiling first).Journey talk trace state (.entering step rest)) :
    ∃ position current, Way first talk (stepsIn trace) state position ∧
      state.data = .payload (.policy current) ∧ step = position.stage.name ∧
      rest = position.rest := by
  cases stands_of_journey carries journey with
  | between way same =>
      obtain ⟨current, carried⟩ := way.carries carries
      exact ⟨_, current, way, carried, Phase.entering.inj same⟩

theorem ends_of_completes {tag : Nat} {ceiling : Int}
    (carries : first.data = .payload (.policy request)) {talk : Talk} {trace : List Event}
    {state : State} {step : String}
    (completes : (runFrom tag ceiling first).Completes talk trace state step) :
    Way.Ends first talk (stepsIn trace) state step := by
  cases completes with
  | terminal journey takes isTerminal =>
      rw [stepsIn_append, takes.stepsIn_eq]
      cases stands_of_journey carries journey with
      | @between position _ way same =>
          obtain ⟨rfl, -⟩ := Phase.entering.inj same
          obtain ⟨_, carries⟩ := way.carries carries
          cases Position.completion_of_isTerminal isTerminal
          exact .completion way (below_of_takes takes) (Stage.takes_of_takes carries takes)
  | concluded journey =>
      cases stands_of_journey carries journey with
      | between way same => cases same
      | ended ends => exact ends

/-! ### How runs end -/

variable {tag : Nat} {ceiling : Int} {talk : Talk} {trace : List Event} {state : State}

theorem position_of_entering {step : String} {rest : List String}
    (carries : first.data = .payload (.policy request))
    (underway : (runFrom tag ceiling first).Underway talk trace state (.entering step rest)) :
    ∃ position, Way first talk (stepsIn trace) state position := by
  cases underway with
  | between journey =>
      cases stands_of_journey carries journey with
      | between way => exact ⟨_, way⟩

/-- As long as the ceiling is out of reach, nobody cancels it and the services fail with ordinary
exceptions only, a run of the graph ends by completing. -/
theorem completed_of_over {run last : Run} {circumstances : Circumstances} {ending : Ending}
    (carries : first.data = .payload (.policy request)) (harmless : Harmless talk)
    (within : ∀ steps state position, Way first talk steps state position →
      state.iterationCount < 25)
    (dialogue : (runFrom tag ceiling first).Dialogue talk trace run)
    (admitted : circumstances.admitted = true) (live : circumstances.cancelled = false)
    (isOver : run.move circumstances = .over last ending) : ∃ step, ending = .completed step := by
  have below : ∀ step rest, run.phase = .entering step rest →
      run.state.iterationCount < run.ceiling := by
    intro step rest phase
    have underway := dialogue.underway rfl
    rw [phase] at underway
    obtain ⟨_, way⟩ := position_of_entering carries underway
    have sameCeiling : run.ceiling = 25 := dialogue.passage.ceiling_eq
    rw [sameCeiling]
    exact within _ _ _ way
  exact Run.Dialogue.completed_of_decided (wellFormed_definition tag) (modest_definition tag)
    (fun _ _ _ => False) (ponders_definition tag) dialogue harmless below (fun _ _ _ => id) admitted
    live isOver

end StepGraph.PolicyGeneration
