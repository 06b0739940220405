import StepGraph.Proofs.Policy.Course

namespace StepGraph.PolicyGeneration

def left (request : PolicyRequest) : Int :=
  max 0 (request.maxRefinements - request.refinementCount)

/-- The most steps that a run still starts from a position on, with some refinements left. A draft
is reviewed only if there are some; without any, a refinement is the last before the end. -/
def Position.toGo (position : Position) (left : Int) : Int :=
  match position with
  | analysis => 9 + 5 * left
  | context => 8 + 5 * left
  | assessment => 7 + 5 * left
  | threats => 6 + 5 * left
  | security => 5 + 5 * left
  | compliance => 5 + 5 * left
  | generation => 4 + 5 * left
  | validation => 3 + 5 * left
  | reviewThreats => 2 + max 2 (5 * left)
  | reviewCompliance => 1 + max 2 (5 * left)
  | refinement => max 2 (5 * left)
  | completion => 1

def Position.refinements (position : Position) (left : Int) : Int :=
  match position with
  | completion => 0
  | _ => left + 1

theorem Position.toGo_pos {position : Position} {left : Int} (nonneg : 0 ≤ left) :
    1 ≤ position.toGo left := by
  cases position <;> simp only [toGo] <;> omega

theorem left_nonneg (request : PolicyRequest) : 0 ≤ left request :=
  Int.le_max_left _ _

theorem Stage.Yields.limits {stage : Stage} {state : State} {request updated : PolicyRequest}
    {talk : Talk} {outcome : Fallible PolicyRequest}
    (yields : stage.Yields state request talk outcome) (succeeds : outcome = .ok updated) :
    updated.maxRefinements = request.maxRefinements ∧
      updated.refinementCount = request.refinementCount + if stage = .refine then 1 else 0 := by
  cases yields with
  | analyze =>
      obtain ⟨_, rfl⟩ := eq_of_analyzed succeeds
      exact ⟨rfl, (Int.add_zero _).symm⟩
  | assess =>
      obtain ⟨_, rfl⟩ := eq_of_assessed succeeds
      exact ⟨rfl, (Int.add_zero _).symm⟩
  | refine => cases succeeds; exact ⟨rfl, rfl⟩
  | finalize =>
      cases succeeds
      unfold finalized
      split <;> exact ⟨rfl, (Int.add_zero _).symm⟩
  | retrieve reply => cases reply <;> cases succeeds; exact ⟨rfl, (Int.add_zero _).symm⟩
  | threats reply => cases reply <;> cases succeeds; exact ⟨rfl, (Int.add_zero _).symm⟩
  | compliance reply => cases reply <;> cases succeeds; exact ⟨rfl, (Int.add_zero _).symm⟩
  | security reply => cases reply <;> cases succeeds; exact ⟨rfl, (Int.add_zero _).symm⟩
  | generate reply => cases reply <;> cases succeeds; exact ⟨rfl, (Int.add_zero _).symm⟩
  | validate reply => cases reply <;> cases succeeds; exact ⟨rfl, (Int.add_zero _).symm⟩

theorem Stage.Takes.limits {stage : Stage} {state after : State} {request : PolicyRequest}
    {talk : Talk} (carries : state.data = .payload (.policy request))
    (takes : stage.Takes state talk after) :
    ∃ updated, after.data = .payload (.policy updated) ∧
      after.iterationCount = state.iterationCount + 1 ∧
      updated.maxRefinements = request.maxRefinements ∧
      updated.refinementCount = request.refinementCount + if stage = .refine then 1 else 0 := by
  obtain ⟨same, yields, leaves⟩ := takes
  cases carries.symm.trans same
  cases leaves with
  | updated updated => exact ⟨updated, rfl, rfl, yields.limits rfl⟩
  | recorded failure now =>
      have notRefine : stage ≠ .refine := by
        rintro rfl
        cases yields
      refine ⟨request, carries, rfl, rfl, ?_⟩
      rw [if_neg notRefine, Int.add_zero]

theorem le_of_retry {state : State} {request : PolicyRequest}
    (carries : state.data = .payload (.policy request))
    (decided : routeAfterRefinement state = .retry) :
    request.refinementCount ≤ request.maxRefinements := by
  unfold routeAfterRefinement at decided
  rw [carries] at decided
  simp only [Data.policy?] at decided
  split at decided
  · cases decided
  · split at decided
    · cases decided
    · next notOver => exact Int.not_lt.mp notOver

theorem lt_of_needsReview {state : State} {request : PolicyRequest}
    (carries : state.data = .payload (.policy request))
    (decided : routeAfterValidation state = .needsReview) :
    request.refinementCount < request.maxRefinements := by
  unfold routeAfterValidation at decided
  rw [carries] at decided
  simp only [Data.policy?] at decided
  split at decided
  · cases decided
  · split at decided
    · cases decided
    · split at decided
      · cases decided
      · next notUsedUp => exact Int.not_le.mp notUsedUp

theorem Position.toGo_next {position next : Position} {state : State}
    {request updated : PolicyRequest}
    (carries : state.data = .payload (.policy updated))
    (sameMax : updated.maxRefinements = request.maxRefinements)
    (sameCount : updated.refinementCount =
      request.refinementCount + if position.stage = .refine then 1 else 0)
    (goes : position.Goes state next) :
    1 + next.toGo (left updated) ≤ position.toGo (left request) ∧
      (if position.stage = .refine then 1 else 0) + next.refinements (left updated) ≤
        position.refinements (left request) := by
  have nonneg := left_nonneg request
  by_cases isRefine : position.stage = .refine
  · rw [if_pos isRefine] at sameCount ⊢
    cases refinement_of_stage isRefine
    cases goes with
    | retried decided =>
        have within := le_of_retry carries decided
        simp only [toGo, refinements, left]
        omega
    | spent =>
        simp only [toGo, refinements, left]
        omega
  · rw [if_neg isRefine, Int.add_zero] at sameCount
    rw [if_neg isRefine]
    have sameLeft : left updated = left request := by rw [left, sameMax, sameCount, left]
    rw [sameLeft]
    cases goes with
    | retried => exact absurd rfl isRefine
    | spent => exact absurd rfl isRefine
    | doubtful decided =>
        have more := lt_of_needsReview carries decided
        have some : 1 ≤ left request := by
          rw [← sameLeft, left]
          omega
        simp only [toGo, refinements]
        omega
    | _ =>
        simp only [toGo, refinements]
        omega

theorem Position.count_name (position : Position) :
    ([position.stage.name].count "refine_policy" : Int) =
      if position.stage = .refine then 1 else 0 := by
  cases position <;> rfl

structure Bounded (first : PolicyRequest) (steps : List String) (position : Position)
    (state : State) (request : PolicyRequest) : Prop where
  carries : state.data = .payload (.policy request)
  counts : state.iterationCount = steps.length
  toGo : steps.length + position.toGo (left request) ≤ 9 + 5 * left first
  refinements : steps.count "refine_policy" + position.refinements (left request) ≤ left first + 1

theorem Way.bounded {first : State} {request : PolicyRequest}
    (carries : first.data = .payload (.policy request)) (fresh : first.iterationCount = 0)
    {talk : Talk} {steps : List String} {state : State} {position : Position}
    (way : Way first talk steps state position) :
    ∃ current, Bounded request steps position state current := by
  induction way with
  | start =>
      refine ⟨request, carries, fresh, ?_, ?_⟩
      · simp [Position.toGo]
      · simp [Position.refinements]
  | @onward _ _ steps _ _ position next _ below takes goes ih =>
      obtain ⟨current, carries, counts, toGo, refinements⟩ := ih
      obtain ⟨updated, carried, more, sameMax, sameCount⟩ := takes.limits carries
      obtain ⟨paid, spent⟩ :=
        Position.toGo_next carried sameMax sameCount (Position.goes_of_next goes)
      refine ⟨updated, carried, ?_, ?_, ?_⟩
      · simp [more, counts]
      · simp only [List.length_append, List.length_singleton]
        omega
      · rw [List.count_append, Int.natCast_add, position.count_name]
        omega

theorem Bounded.within {first request : PolicyRequest} {steps : List String} {position : Position}
    {state : State} (bounded : Bounded first steps position state request) {begun : List String}
    (starts : begun = [] ∨ begun = [position.stage.name]) :
    ((steps ++ begun).count "refine_policy" : Int) ≤ left first + 1 ∧
      ((steps ++ begun).length : Int) ≤ 9 + 5 * left first := by
  obtain ⟨-, -, toGo, refinements⟩ := bounded
  have nonneg := left_nonneg request
  have further : 1 ≤ position.toGo (left request) := Position.toGo_pos nonneg
  have one : (begun.length : Int) ≤ 1 := by rcases starts with rfl | rfl <;> simp
  have refines : (begun.count "refine_policy" : Int) ≤ position.refinements (left request) := by
    rcases starts with rfl | rfl
    · rw [List.count_nil]
      cases position <;> simp only [Position.refinements] <;> omega
    · rw [Position.count_name]
      cases position <;> simp [Position.refinements, Position.stage] <;> omega
  rw [List.count_append, List.length_append, Int.natCast_add, Int.natCast_add]
  omega

/-- A run is refined at most once more than refinements are left, and starts at most nine steps and
five more for each of them. With three left at most the ceiling is out of reach: unless it is
cancelled, or a service fails in a way that ends the step, the run completes at the end of the
graph, or gives up with more errors than are tolerated. -/
theorem refinement_bounded {tag : Nat} {graph : Definition}
    (isGraph : PolicyGeneration.graph tag = .ok graph) {first : State} {request : PolicyRequest}
    (carries : first.data = .payload (.policy request)) (fresh : first.iterationCount = 0)
    (ceiling : Int) :
    let start := Run.create graph ceiling first
    let bound := max 0 (request.maxRefinements - request.refinementCount)
    (∀ talk trace run, start.Dialogue talk trace run →
      ((stepsIn trace).count "refine_policy" : Int) ≤ bound + 1 ∧
        ((stepsIn trace).length : Int) ≤ 9 + 5 * bound) ∧
    (request.maxRefinements - request.refinementCount ≤ 3 →
      (¬ ∃ runs : Nat → Run, runs 0 = start ∧
        ∀ k, ∃ events, (runs k).Advances events (runs (k + 1))) ∧
      (∀ solo : Solo, solo.run = start →
        ∃ moves after ending, solo.finish moves = (after, some ending)) ∧
      ∀ talk trace run circumstances last ending, start.Dialogue talk trace run → Harmless talk →
        circumstances.admitted = true → circumstances.cancelled = false →
        run.move circumstances = .over last ending →
          ending = .completed "finalize_policy" ∨
            ending = .completed "refine_policy" ∧ 3 < last.state.errors.length) := by
  cases (graph_eq tag).symm.trans isGraph
  intro start bound
  have frugal : start.definition.Frugal := frugal_definition tag
  have endsSoon : start.Ends :=
    Run.ends_of_atLeast frugal (Run.Passage.start.atLeast frugal rfl).1
  refine ⟨fun talk trace run dialogue => ?_, fun few =>
    ⟨endsSoon.no_endless, fun solo same => Solo.exists_finish (same ▸ endsSoon), ?_⟩⟩
  · have underway : (runFrom tag ceiling first).Underway talk trace run.state run.phase :=
      dialogue.underway rfl
    obtain ⟨_, earlier, events, before, place, journey, rfl, more⟩ := underway.place
    rw [stepsIn_append]
    have stands := stands_of_journey carries journey
    generalize stepsIn earlier = steps at stands ⊢
    cases stands with
    | between way same =>
        obtain ⟨_, bounded⟩ := way.bounded carries fresh
        refine bounded.within ?_
        rcases more with rfl | ⟨_, _, place, shows⟩
        · exact .inl rfl
        · rw [shows.stepsIn_eq, (Phase.entering.inj (place.symm.trans same)).1]
          exact .inr rfl
    | ended ends =>
        rcases more with rfl | ⟨_, _, place, -⟩
        · have none : stepsIn [] = [] := rfl
          rw [none, List.append_nil]
          cases ends with
          | completion way =>
              obtain ⟨_, bounded⟩ := way.bounded carries fresh
              exact bounded.within (.inr rfl)
          | refinement way =>
              obtain ⟨_, bounded⟩ := way.bounded carries fresh
              exact bounded.within (.inr rfl)
        · cases place
  · intro talk trace run circumstances last ending dialogue harmless admitted live isOver
    have within : ∀ steps state position, Way first talk steps state position →
        state.iterationCount < 25 := by
      intro steps state position way
      obtain ⟨current, bounded⟩ := way.bounded carries fresh
      have further : 1 ≤ position.toGo (left current) := Position.toGo_pos (left_nonneg current)
      have toGo := bounded.toGo
      rw [bounded.counts]
      simp only [left] at toGo further
      omega
    obtain ⟨step, rfl⟩ :=
      completed_of_over carries harmless within dialogue admitted live isOver
    have ends := ends_of_completes carries (dialogue.completes rfl isOver)
    generalize stepsIn trace = steps at ends
    generalize last.state = final at ends ⊢
    cases ends with
    | completion => exact .inl rfl
    | refinement _ _ _ stops => exact .inr ⟨rfl, Position.errors_of_next stops⟩

/-- A request with two refinements is refined three times at most, within nineteen steps, and its
run by itself comes to an end. -/
theorem refinement_bounded_two :
    (∀ talk trace run,
      (Run.create (definition 0) defaultCeiling (initial "S3" [] 2)).Dialogue talk trace run →
        (stepsIn trace).count "refine_policy" ≤ 3 ∧ (stepsIn trace).length ≤ 19) ∧
    ∃ moves after ending,
      Solo.finish moves
        ⟨.create (definition 0) defaultCeiling (initial "S3" [] 2), true, 0, none, {}, []⟩ =
          (after, some ending) := by
  have carries : (initial "S3" [] 2).data =
      .payload (.policy { service := "S3", maxRefinements := 2 }) := rfl
  obtain ⟨bounds, completes⟩ := refinement_bounded (graph_eq 0) carries rfl defaultCeiling
  obtain ⟨-, finishes, -⟩ := completes (by decide)
  refine ⟨fun talk trace run dialogue => ?_, finishes _ rfl⟩
  obtain ⟨count, length⟩ := bounds talk trace run dialogue
  simp only [Int.sub_zero] at count length
  omega

end StepGraph.PolicyGeneration
