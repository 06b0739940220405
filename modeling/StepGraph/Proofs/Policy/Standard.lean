import StepGraph.Proofs.Policy.Document
import StepGraph.Proofs.Policy.Verdict

namespace StepGraph

namespace Services

theorem steady_standard : Services.Steady {} := by
  intro inquiry
  cases inquiry <;> rfl

variable {services : Services} {talk words : Talk}

theorem Answer.right (answer : services.Answer (talk ++ words)) : services.Answer words :=
  fun inquiry reply member => answer inquiry reply (List.mem_append_right _ member)

theorem Answer.left (answer : services.Answer (talk ++ words)) : services.Answer talk :=
  fun inquiry reply member => answer inquiry reply (List.mem_append_left _ member)

theorem Answer.facts {domain : String} {params : Entries} {reply : Fallible Facts}
    (answer : Services.Answer {} [⟨.consult (.facts domain params), reply⟩]) :
    ∃ facts, reply = .ok facts :=
  ⟨KnowledgeBase.standard.lookup domain (.record params), answer _ _ List.mem_cons_self⟩

theorem Answer.draft {state : State} {reply : Fallible String}
    (answer : Services.Answer {} [⟨.consult (.draft state), reply⟩]) :
    reply = draftFromTemplate state :=
  answer _ _ List.mem_cons_self

theorem Answer.review {content : String} {requirements : Entries} {reply : Fallible Review}
    (answer : Services.Answer {} [⟨.consult (.review content requirements), reply⟩]) :
    reply = reviewByRules standardSections content requirements :=
  answer _ _ List.mem_cons_self

end Services

namespace PolicyGeneration

def outline (request : PolicyRequest) : Outline where
  service := if request.service.isEmpty then "service" else request.service
  requirements := request.requirements
  bestPractices := request.bestPractices
  complianceContext := request.complianceContext
  threatContext := request.threatContext
  notes := request.reviewNotes ++ request.refinementNotes

def Drafted (request : PolicyRequest) : Prop :=
  ∃ extra, additionalRequirements request.requirements = .ok extra ∧
    request.policyDraft = (outline request).document extra

def asked (request : PolicyRequest) : String × Entries × Int :=
  (request.service, request.requirements, request.maxRefinements)

/-! ### What the services make of a request -/

section

variable {request : PolicyRequest}

theorem exists_frameworkScore {requirements : Entries} (readable : Readable requirements)
    (table : List (String × Int)) :
    ∃ score, frameworkScore table (compliance requirements) = .ok score := by
  unfold frameworkScore compliance
  rcases readable.framework with absent | ⟨name, named⟩
  · rw [absent]
    exact ⟨1, rfl⟩
  · rw [named]
    simp only [Option.getD_some]
    split <;> exact ⟨_, rfl⟩

theorem exists_analyzed (readable : Readable request.requirements) :
    ∃ complexity, analyzed request = .ok { request with complexity } := by
  obtain ⟨score, scored⟩ := exists_frameworkScore readable frameworkComplexity
  unfold analyzed complianceComplexity
  rw [scored]
  exact ⟨_, rfl⟩

theorem level_cases (total : Int) :
    let level := if 8 ≤ total then "high" else if 5 ≤ total then "medium" else "low"
    level = "high" ∨ level = "medium" ∨ level = "low" := by
  dsimp only
  split
  · exact .inl rfl
  · split
    · exact .inr (.inl rfl)
    · exact .inr (.inr rfl)

theorem exists_assessed (readable : Readable request.requirements) :
    ∃ level, riskLevel request.service request.requirements = .ok level ∧
      (level = "high" ∨ level = "medium" ∨ level = "low") ∧
      assessed request = .ok ({ request with riskLevel := level }.updateConfidence 0.8) := by
  obtain ⟨score, scored⟩ := exists_frameworkScore readable frameworkRisk
  unfold assessed riskLevel
  rw [scored]
  exact ⟨_, rfl, level_cases _, rfl⟩

theorem exists_draft (readable : Readable request.requirements) {state : State}
    (carries : state.data = .payload (.policy request)) :
    ∃ content, draftFromTemplate state = .ok content ∧ Drafted (withDraft request content) := by
  obtain ⟨extra, listed⟩ := readable.exists_extra
  have isOutline : Outline.ofData state.data = .ok (outline request) := by
    rw [carries]
    rfl
  exact ⟨_, draftFromTemplate_eq isOutline listed, extra, listed, rfl⟩

/-- The rules find nothing missing in it. They pass it, or they ask for a review. -/
theorem exists_review (readable : Readable request.requirements) (drafted : Drafted request) :
    ∃ review, reviewByRules standardSections request.policyDraft request.requirements = .ok review ∧
      ((outline request).Lenient → review.passed = true) ∧
      (review.passed = false → review.needsReview = true) := by
  obtain ⟨extra, listed, isDocument⟩ := drafted
  have readable : Readable (outline request).requirements := readable
  rw [isDocument]
  exact ⟨_, Outline.reviewByRules_document readable listed, Outline.passed_verdictOn,
    needsReview_verdictOn⟩

end

/-- What a step makes of a request when the services at hand answer. -/
inductive Stage.Makes (request : PolicyRequest) : Stage → PolicyRequest → Prop
  | analyze (complexity : String) : Makes request .analyze { request with complexity }
  | assess (level : String) (assesses : riskLevel request.service request.requirements = .ok level)
      (isLevel : level = "high" ∨ level = "medium" ∨ level = "low") :
      Makes request .assess ({ request with riskLevel := level }.updateConfidence 0.8)
  | retrieve (facts : Facts) : Makes request .retrieve (withContext request facts)
  | threats (facts : Facts) : Makes request .threats (withThreats request facts)
  | compliance (facts : Facts) : Makes request .compliance (withCompliance request facts)
  | security (facts : Facts) : Makes request .security (withSecurity request facts)
  | generate (content : String) (drafted : Drafted (withDraft request content)) :
      Makes request .generate (withDraft request content)
  | validate (review : Review) (passes : (outline request).Lenient → review.passed = true)
      (asks : review.passed = false → review.needsReview = true) :
      Makes request .validate (withReview request review)
  | refine : Makes request .refine (refined request)
  | finalize : Makes request .finalize (finalized request)

theorem Stage.Takes.makes {stage : Stage} {state after : State} {request : PolicyRequest}
    {words : Talk} (carries : state.data = .payload (.policy request))
    (readable : Readable request.requirements) (drafted : stage = .validate → Drafted request)
    (answer : Services.Answer {} words) (takes : stage.Takes state words after) :
    ∃ updated, stage.Makes request updated ∧
      after = state.counted.withPayload (.policy updated) := by
  obtain ⟨same, yields, leaves⟩ := takes
  cases carries.symm.trans same
  have succeeds : ∀ {outcome : Fallible PolicyRequest} {updated : PolicyRequest},
      stage.Leaves state outcome after → outcome = .ok updated →
      after = state.counted.withPayload (.policy updated) := by
    intro _ _ leaves isOk
    cases leaves with
    | updated => rw [Except.ok.inj isOk]
    | recorded => cases isOk
  cases yields with
  | analyze =>
      obtain ⟨complexity, isOk⟩ := exists_analyzed readable
      exact ⟨_, .analyze complexity, succeeds leaves isOk⟩
  | assess =>
      obtain ⟨level, assesses, isLevel, isOk⟩ := exists_assessed readable
      exact ⟨_, .assess level assesses isLevel, succeeds leaves isOk⟩
  | retrieve =>
      obtain ⟨facts, rfl⟩ := answer.facts
      exact ⟨_, .retrieve facts, succeeds leaves rfl⟩
  | threats =>
      obtain ⟨facts, rfl⟩ := answer.facts
      exact ⟨_, .threats facts, succeeds leaves rfl⟩
  | compliance =>
      obtain ⟨facts, rfl⟩ := answer.facts
      exact ⟨_, .compliance facts, succeeds leaves rfl⟩
  | security =>
      obtain ⟨facts, rfl⟩ := answer.facts
      exact ⟨_, .security facts, succeeds leaves rfl⟩
  | generate reply =>
      have counted : state.counted.data = .payload (.policy request) := carries
      obtain ⟨content, written, drafted⟩ := exists_draft readable counted
      have replied : reply = .ok content := answer.draft.trans written
      exact ⟨_, .generate content drafted, succeeds leaves (by rw [replied]; rfl)⟩
  | validate reply =>
      obtain ⟨review, reviewed, passes, asks⟩ := exists_review readable (drafted rfl)
      have replied : reply = .ok review := answer.review.trans reviewed
      exact ⟨_, .validate review passes asks, succeeds leaves (by rw [replied]; rfl)⟩
  | refine => exact ⟨_, .refine, succeeds leaves rfl⟩
  | finalize => exact ⟨_, .finalize, succeeds leaves rfl⟩

/-! ### The way of a request -/

def Promising (request : PolicyRequest) : Prop :=
  (outline request).Lenient ∧ request.refinementCount ≤ 1 ∨
    request.refinementCount = 0 ∧ 1 ≤ request.maxRefinements

namespace Position

def Fits (position : Position) (request : PolicyRequest) : Prop :=
  match position with
  | security => request.refinementCount = 0 ∧ request.reviewNotes ≠ []
  | generation => Promising request
  | validation => Promising request ∧ Drafted request
  | reviewThreats => request.refinementCount = 0 ∧ 1 ≤ request.maxRefinements
  | reviewCompliance | refinement =>
      request.refinementCount = 0 ∧ request.reviewNotes ≠ [] ∧ 1 ≤ request.maxRefinements
  | completion => request.refinementCount ≤ 1 ∧ approved request = true
  | _ => request.refinementCount = 0

def begun (position : Position) (refinements : Int) : Int :=
  match position with
  | analysis => 0
  | context => 1
  | assessment => 2
  | threats => 3
  | compliance => 3
  | security => 4
  | generation => 5 + 5 * refinements
  | validation => 6 + 5 * refinements
  | reviewThreats => 7
  | reviewCompliance => 8
  | refinement => 9
  | completion => 12

end Position

/-- A review can be had where one is asked for. -/
def Reviewable (service : String) (requirements : Entries) (bound : Int) : Prop :=
  ((requirements.get? "require_review").getD .null).holds = false ∨ 1 ≤ bound ∨
    riskLevel service requirements ≠ .ok "low"

/-- What holds wherever a run stands that is served from memory. -/
structure Clear (service : String) (requirements : Entries) (bound : Int) (position : Position)
    (state : State) (request : PolicyRequest) : Prop where
  carries : state.data = .payload (.policy request)
  errors : state.errors = []
  asked_eq : asked request = (service, requirements, bound)
  begun : state.iterationCount ≤ position.begun request.refinementCount
  fits : position.Fits request

theorem lenient_of_noted {request : PolicyRequest} (noted : request.reviewNotes ≠ []) :
    (outline request).Lenient :=
  .inl (List.append_ne_nil_of_left_ne_nil noted request.refinementNotes)

theorem promising_of_noted {request : PolicyRequest} (noted : request.reviewNotes ≠ [])
    (atMost : request.refinementCount ≤ 1) : Promising request :=
  .inl ⟨lenient_of_noted noted, atMost⟩

theorem Promising.refinementCount_le {request : PolicyRequest} (promising : Promising request) :
    request.refinementCount ≤ 1 := by
  rcases promising with ⟨-, atMost⟩ | ⟨none, -⟩ <;> omega

theorem policyDraft_ne_empty {request : PolicyRequest} (drafted : Drafted request) :
    request.policyDraft ≠ "" := by
  obtain ⟨extra, -, isDocument⟩ := drafted
  intro blank
  have visible := Outline.not_blank (outline request) extra
  rw [← isDocument, blank] at visible
  cases visible

theorem needsValidation_of_open {state : State} {request : PolicyRequest}
    (carries : state.data = .payload (.policy request)) (isOpen : approved request = false)
    (drafted : Drafted request) : routeAfterGeneration state = .needsValidation := by
  unfold routeAfterGeneration
  rw [carries]
  simp only [Data.policy?, String.isEmpty_iff, policyDraft_ne_empty drafted, if_false]
  cases verdict : request.validation with
  | none => rfl
  | some review =>
      have failed : review.passed = false := by
        rw [approved, verdict] at isOpen
        exact isOpen
      simp [failed]

theorem retry_of_le {state : State} {request : PolicyRequest}
    (carries : state.data = .payload (.policy request)) (calm : state.errors = [])
    (within : request.refinementCount ≤ request.maxRefinements) :
    routeAfterRefinement state = .retry := by
  unfold routeAfterRefinement
  rw [calm, carries]
  simp only [Data.policy?, if_neg (Int.not_lt.mpr within)]
  rfl

namespace Clear

variable {service : String} {requirements : Entries} {bound : Int} {position next : Position}
  {state after : State} {request updated : PolicyRequest} {words : Talk}

theorem update (clear : Clear service requirements bound position state request)
    (same : asked updated = asked request)
    (begun : position.begun request.refinementCount + 1 ≤ next.begun updated.refinementCount)
    (fits : next.Fits updated) :
    Clear service requirements bound next (state.counted.withPayload (.policy updated))
      updated where
  carries := rfl
  errors := clear.errors
  asked_eq := same.trans clear.asked_eq
  begun := Int.le_trans (Int.add_le_add_right clear.begun 1) begun
  fits := fits

theorem analysis (clear : Clear service requirements bound .analysis state request)
    (makes : Stage.Makes request .analyze updated)
    (goes : Position.next .analysis (state.counted.withPayload (.policy updated)) = some next) :
    Clear service requirements bound next (state.counted.withPayload (.policy updated))
      updated := by
  cases makes with
  | analyze =>
      cases Position.goes_of_next goes with
      | simple => exact clear.update rfl (by simp [Position.begun]) clear.fits
      | complex => exact clear.update rfl (by simp [Position.begun]) clear.fits

theorem context (clear : Clear service requirements bound .context state request)
    (makes : Stage.Makes request .retrieve updated)
    (goes : Position.next .context (state.counted.withPayload (.policy updated)) = some next) :
    Clear service requirements bound next (state.counted.withPayload (.policy updated))
      updated := by
  cases makes with
  | retrieve =>
      cases goes
      exact clear.update rfl (by simp [Position.begun]) clear.fits

/-- A request that is taken for low risk goes to the generation without notes. -/
theorem assessment (clear : Clear service requirements bound .assessment state request)
    (reviewable : Reviewable request.service request.requirements request.maxRefinements)
    (makes : Stage.Makes request .assess updated)
    (goes : Position.next .assessment (state.counted.withPayload (.policy updated)) = some next) :
    Clear service requirements bound next (state.counted.withPayload (.policy updated))
      updated := by
  cases makes with
  | assess level assesses isLevel =>
      rcases isLevel with rfl | rfl | rfl
      · cases goes
        exact clear.update rfl (by simp [Position.begun]) clear.fits
      · cases goes
        exact clear.update rfl (by simp [Position.begun]) clear.fits
      · cases goes
        have none : request.refinementCount = 0 := clear.fits
        refine clear.update rfl ?_ ?_
        · simp [Position.begun, PolicyRequest.updateConfidence, none]
        · rcases reviewable with unasked | some | notLow
          · exact .inl ⟨.inr unasked, none.trans_le Int.one_nonneg⟩
          · exact .inr ⟨none, some⟩
          · exact absurd assesses notLow

theorem threats (clear : Clear service requirements bound .threats state request)
    (makes : Stage.Makes request .threats updated)
    (goes : Position.next .threats (state.counted.withPayload (.policy updated)) = some next) :
    Clear service requirements bound next (state.counted.withPayload (.policy updated))
      updated := by
  cases makes with
  | threats =>
      cases goes
      exact clear.update rfl (by simp [Position.begun]) ⟨clear.fits, List.concat_ne_nil _ _⟩

theorem security (clear : Clear service requirements bound .security state request)
    (makes : Stage.Makes request .security updated)
    (goes : Position.next .security (state.counted.withPayload (.policy updated)) = some next) :
    Clear service requirements bound next (state.counted.withPayload (.policy updated))
      updated := by
  cases makes with
  | security facts =>
      cases goes
      have noted : (withSecurity request facts).reviewNotes ≠ [] := List.concat_ne_nil _ _
      have none : (withSecurity request facts).refinementCount = 0 := clear.fits.1
      exact clear.update rfl (by simp [Position.begun, none])
        (promising_of_noted noted (none.trans_le Int.one_nonneg))

theorem compliance (clear : Clear service requirements bound .compliance state request)
    (makes : Stage.Makes request .compliance updated)
    (goes : Position.next .compliance (state.counted.withPayload (.policy updated)) = some next) :
    Clear service requirements bound next (state.counted.withPayload (.policy updated))
      updated := by
  cases makes with
  | compliance facts =>
      cases goes
      have noted : (withCompliance request facts).reviewNotes ≠ [] := List.concat_ne_nil _ _
      have none : (withCompliance request facts).refinementCount = 0 := clear.fits
      exact clear.update rfl (by simp [Position.begun, none])
        (promising_of_noted noted (none.trans_le Int.one_nonneg))

theorem generation (clear : Clear service requirements bound .generation state request)
    (isOpen : approved request = false)
    (makes : Stage.Makes request .generate updated)
    (goes : Position.next .generation (state.counted.withPayload (.policy updated)) = some next) :
    Clear service requirements bound next (state.counted.withPayload (.policy updated))
      updated := by
  cases makes with
  | generate content drafted =>
      have stillOpen : approved (withDraft request content) = false := isOpen
      rw [Position.next, needsValidation_of_open rfl stillOpen drafted] at goes
      cases goes
      refine clear.update rfl ?_ ⟨clear.fits, drafted⟩
      simp only [Position.begun, withDraft, PolicyRequest.updateConfidence]
      omega

/-- Only a request without notes fails, and then a refinement is left. -/
theorem validation (clear : Clear service requirements bound .validation state request)
    (makes : Stage.Makes request .validate updated)
    (goes : Position.next .validation (state.counted.withPayload (.policy updated)) = some next) :
    Clear service requirements bound next (state.counted.withPayload (.policy updated))
      updated := by
  obtain ⟨promising, -⟩ := clear.fits
  cases makes with
  | validate review passes asks =>
      rw [Position.next, routeAfterValidation_of_reviewed rfl rfl] at goes
      cases passed : review.passed with
      | true =>
          have atMost := promising.refinementCount_le
          rw [if_pos passed] at goes
          cases goes
          exact clear.update rfl (by simp only [Position.begun]; omega) ⟨atMost, passed⟩
      | false =>
          have strict : ¬ (outline request).Lenient := fun lenient =>
            Bool.false_ne_true (passed.symm.trans (passes lenient))
          obtain ⟨none, some⟩ := promising.resolve_left fun both => strict both.1
          have notUsedUp : ¬ (withReview request review).maxRefinements ≤
              (withReview request review).refinementCount :=
            Int.not_le.mpr (none.trans_lt some)
          rw [if_neg (Bool.not_eq_true _ ▸ passed), if_neg notUsedUp, if_pos (asks passed)] at goes
          cases goes
          exact clear.update rfl (by simp [Position.begun, none]) ⟨none, some⟩

theorem reviewThreats (clear : Clear service requirements bound .reviewThreats state request)
    (makes : Stage.Makes request .threats updated)
    (goes : Position.next .reviewThreats (state.counted.withPayload (.policy updated)) =
      some next) :
    Clear service requirements bound next (state.counted.withPayload (.policy updated))
      updated := by
  cases makes with
  | threats =>
      cases goes
      exact clear.update rfl (by simp [Position.begun])
        ⟨clear.fits.1, List.concat_ne_nil _ _, clear.fits.2⟩

theorem reviewCompliance (clear : Clear service requirements bound .reviewCompliance state request)
    (makes : Stage.Makes request .compliance updated)
    (goes : Position.next .reviewCompliance (state.counted.withPayload (.policy updated)) =
      some next) :
    Clear service requirements bound next (state.counted.withPayload (.policy updated))
      updated := by
  cases makes with
  | compliance =>
      cases goes
      exact clear.update rfl (by simp [Position.begun])
        ⟨clear.fits.1, List.concat_ne_nil _ _, clear.fits.2.2⟩

theorem refinement (clear : Clear service requirements bound .refinement state request)
    (makes : Stage.Makes request .refine updated)
    (goes : Position.next .refinement (state.counted.withPayload (.policy updated)) = some next) :
    Clear service requirements bound next (state.counted.withPayload (.policy updated))
      updated := by
  obtain ⟨none, noted, some⟩ := clear.fits
  cases makes with
  | refine =>
      have once : (refined request).refinementCount = 1 := by
        rw [refined, none]
        rfl
      have within : (refined request).refinementCount ≤ (refined request).maxRefinements :=
        once.trans_le some
      have calm : (state.counted.withPayload (.policy (refined request))).errors = [] :=
        clear.errors
      rw [Position.next, retry_of_le rfl calm within] at goes
      cases goes
      exact clear.update rfl (by simp [Position.begun, once]) (promising_of_noted noted once.le)

theorem step (clear : Clear service requirements bound position state request)
    (readable : Readable requirements) (reviewable : Reviewable service requirements bound)
    (isOpen : position ≠ .completion → approved request = false)
    (answer : Services.Answer {} words) (takes : position.stage.Takes state words after)
    (goes : position.next after = some next) :
    ∃ updated, Clear service requirements bound next after updated := by
  have same := clear.asked_eq
  unfold asked at same
  cases same
  have drafted : position.stage = .validate → Drafted request := by
    intro isValidate
    cases Position.validation_of_stage isValidate
    exact clear.fits.2
  obtain ⟨updated, makes, rfl⟩ := takes.makes clear.carries readable drafted answer
  refine ⟨updated, ?_⟩
  cases position with
  | analysis => exact clear.analysis makes goes
  | context => exact clear.context makes goes
  | assessment => exact clear.assessment reviewable makes goes
  | threats => exact clear.threats makes goes
  | security => exact clear.security makes goes
  | compliance => exact clear.compliance makes goes
  | generation => exact clear.generation (isOpen (by decide)) makes goes
  | validation => exact clear.validation makes goes
  | reviewThreats => exact clear.reviewThreats makes goes
  | reviewCompliance => exact clear.reviewCompliance makes goes
  | refinement => exact clear.refinement makes goes
  | completion => cases goes

end Clear

section

variable {service : String} {requirements : Entries} {bound : Int} {talk : Talk}
  {steps : List String} {state : State}

theorem clear_initial (service : String) (requirements : Entries) (bound : Int) :
    Clear service requirements bound .analysis (initial service requirements bound)
      { service, requirements, maxRefinements := bound } where
  carries := rfl
  errors := rfl
  asked_eq := rfl
  begun := Int.le_refl 0
  fits := rfl

theorem Way.clear (readable : Readable requirements)
    (reviewable : Reviewable service requirements bound) {position : Position}
    (way : Way (initial service requirements bound) talk steps state position)
    (answer : Services.Answer {} talk) :
    ∃ request, Clear service requirements bound position state request := by
  induction way with
  | start => exact ⟨_, clear_initial service requirements bound⟩
  | onward way _ takes goes ih =>
      obtain ⟨request, clear⟩ := ih answer.left
      obtain ⟨same, carries, sound⟩ := way.sound
      cases clear.carries.symm.trans carries
      exact clear.step readable reviewable sound.not_approved answer.right takes goes

theorem Clear.below {position : Position} {request : PolicyRequest}
    (clear : Clear service requirements bound position state request) :
    state.iterationCount < 25 := by
  have begun := clear.begun
  have fits := clear.fits
  cases position with
  | generation =>
      have atMost := Promising.refinementCount_le fits
      simp only [Position.begun] at begun
      omega
  | validation =>
      have atMost := Promising.refinementCount_le fits.1
      simp only [Position.begun] at begun
      omega
  | _ =>
      simp only [Position.begun] at begun
      omega

theorem Way.Ends.finalized_of_answer (readable : Readable requirements)
    (reviewable : Reviewable service requirements bound) {step : String}
    (ends : Way.Ends (initial service requirements bound) talk steps state step)
    (answer : Services.Answer {} talk) :
    step = "finalize_policy" ∧ state.errors = [] ∧
      ∃ final, state.data = .payload (.policy final) ∧ final.status = "finalized" ∧
        final.refinementCount ≤ 1 := by
  cases ends with
  | completion way _ takes =>
      obtain ⟨request, clear⟩ := way.clear readable reviewable answer.left
      obtain ⟨same, yields, leaves⟩ := takes
      cases clear.carries.symm.trans same
      obtain ⟨atMost, isApproved⟩ := clear.fits
      cases yields with
      | finalize =>
          cases leaves with
          | updated =>
              refine ⟨rfl, clear.errors, finalized request, rfl, ?_⟩
              rw [finalized_of_approved isApproved]
              exact ⟨rfl, atMost⟩
  | refinement way _ takes stops =>
      -- A refinement is given up for its errors only, and there are none.
      obtain ⟨request, clear⟩ := way.clear readable reviewable answer.left
      obtain ⟨-, yields, leaves⟩ := takes
      have many := Position.errors_of_next stops
      cases yields with
      | refine =>
          cases leaves with
          | updated =>
              have calm := clear.errors
              simp [State.withPayload, calm] at many

end

/-! ### How the services fail -/

theorem ordinary_of_additionalRequirements {requirements : Entries} {failure : Failure}
    (fails : additionalRequirements requirements = .error failure) : Ordinary failure := by
  unfold additionalRequirements at fails
  generalize (requirements.get? "additional_requirements").getD .null = value at fails
  split at fails
  · cases fails
  · split at fails
    · cases value <;> cases fails <;> exact ⟨nofun, nofun⟩
    · cases fails

theorem ordinary_of_ofData {data : Data} {failure : Failure}
    (fails : Outline.ofData data = .error failure) : Ordinary failure := by
  unfold Outline.ofData at fails
  split at fails
  · cases fails
  · split at fails <;> cases fails
    exact ⟨nofun, nofun⟩
  · cases fails

theorem ordinary_of_frameworkIssues {requirements : Entries} {content : String} {failure : Failure}
    (fails : frameworkIssues requirements content = .error failure) : Ordinary failure := by
  unfold frameworkIssues at fails
  split at fails
  · split at fails <;> cases fails
  · split at fails <;> cases fails
    exact ⟨nofun, nofun⟩

theorem ordinary_of_answer {inquiry : Inquiry} {failure : Failure}
    (fails : (Services.answer {} inquiry).1 = .error failure) : Ordinary failure := by
  cases inquiry with
  | facts => cases fails
  | draft state =>
      change draftFromTemplate state = _ at fails
      rcases Fallible.bind_eq_error_iff.mp fails with fails | ⟨outline, -, fails⟩
      · exact ordinary_of_ofData fails
      · rcases Fallible.bind_eq_error_iff.mp fails with fails | ⟨_, -, fails⟩
        · exact ordinary_of_additionalRequirements fails
        · cases fails
  | review content requirements =>
      change reviewByRules standardSections content requirements = _ at fails
      unfold reviewByRules at fails
      split at fails
      · cases fails
      · rcases Fallible.bind_eq_error_iff.mp fails with fails | ⟨_, -, fails⟩
        · exact ordinary_of_frameworkIssues fails
        · rcases Fallible.bind_eq_error_iff.mp fails with fails | ⟨_, -, fails⟩
          · exact ordinary_of_additionalRequirements fails
          · cases fails

theorem harmless_of_answer {talk : Talk} (answer : Services.Answer {} talk) : Harmless talk :=
  fun inquiry _ member => ordinary_of_answer (answer inquiry _ member).symm

theorem initialFrom_record {bound : Int} (nonneg : 0 ≤ bound) (service : String)
    (requirements : Entries) :
    initialFrom (.text service) (.record requirements) (.int bound) =
      .ok (initial service requirements bound) := by
  have given : (if (Value.record requirements).holds then Value.record requirements
      else .record []) = .record requirements := by
    cases requirements <;> rfl
  have within : Form.intAtLeast 0 (.int bound) = .ok bound := if_neg (Int.not_lt.mpr nonneg)
  unfold initialFrom
  dsimp only
  rw [given, ofEntries_eq, within]
  rfl

/-- A run that is served from memory ends with a policy that is finalized, without errors and after
one refinement at most, whatever the service and whatever else the requirements say, as long as they
can be read and a review can be had where one is asked for. -/
theorem finalized_of_standard {tag : Nat} {graph : Definition}
    (isGraph : PolicyGeneration.graph tag = .ok graph) {service : String} {requirements : Entries}
    {bound : Int} (nonneg : 0 ≤ bound) (readable : Readable requirements)
    (reviewable : Reviewable service requirements bound) {executor : Executor}
    (registered : executor.registry.isRegistered graph = true) :
    ∃ first, initialFrom (.text service) (.record requirements) (.int bound) = .ok first ∧
      ∃ moves after final,
        (executor.begin graph first none).finish moves =
          (after, some (.completed "finalize_policy")) ∧
        after.run.state.data = .payload (.policy final) ∧ final.status = "finalized" ∧
        after.run.state.errors = [] ∧ final.refinementCount ≤ 1 := by
  cases (graph_eq tag).symm.trans isGraph
  refine ⟨_, initialFrom_record nonneg service requirements, ?_⟩
  let first := initial service requirements bound
  let solo := executor.begin (definition tag) first none
  have carries : first.data = .payload (.policy _) := rfl
  have frugal : solo.run.definition.Frugal := frugal_definition tag
  have ends : solo.run.Ends :=
    Run.ends_of_atLeast frugal (Run.Passage.start.atLeast frugal rfl).1
  obtain ⟨moves, after, ending, finished⟩ := Solo.exists_finish ends
  obtain ⟨_, before, comes, isOver⟩ := Solo.comes_of_finish finished
  obtain ⟨talk, trace, dialogue, -, -, answers⟩ := comes.dialogue
  obtain ⟨-, answer⟩ := answers Services.steady_standard
  obtain ⟨-, sameAdmitted, token⟩ := comes.keeps rfl
  have admitted : before.admitted = true := sameAdmitted.trans registered
  have live : before.cancelled = false := by rw [Solo.cancelled, token]; rfl
  have isOver := (Solo.over_of_advance isOver).1
  have within : ∀ steps state position, Way first talk steps state position →
      state.iterationCount < 25 := by
    intro steps state position way
    obtain ⟨request, clear⟩ := way.clear readable reviewable answer
    exact clear.below
  obtain ⟨step, rfl⟩ :=
    completed_of_over carries (harmless_of_answer answer) within dialogue admitted live isOver
  have ends := ends_of_completes carries (dialogue.completes rfl isOver)
  obtain ⟨rfl, calm, final, carries, status, atMost⟩ :=
    ends.finalized_of_answer readable reviewable answer
  exact ⟨moves, after, final, finished, carries, status, calm, atMost⟩

/-- At low risk a review that is asked for is had by a refinement. -/
theorem finalized_of_standard_reviewing :
    let requirements : Entries :=
      [("additional_requirements", .list [.text "encryption"]), ("require_review", .bool true)]
    riskLevel "SQS" requirements = .ok "low" ∧
      ∃ moves after final,
        (Executor.begin ⟨⟨[definition 0]⟩, defaultCeiling⟩ (definition 0)
            (initial "SQS" requirements 1) none).finish moves =
          (after, some (.completed "finalize_policy")) ∧
        after.run.state.data = .payload (.policy final) ∧ final.status = "finalized" ∧
        final.refinementCount ≤ 1 := by
  intro requirements
  have readable : Readable requirements := ⟨.inl rfl, .inr (.inr (.inl ⟨_, rfl⟩))⟩
  have reviewable : Reviewable "SQS" requirements 1 := .inr (.inl (Int.le_refl 1))
  have registered : Registry.isRegistered ⟨[definition 0]⟩ (definition 0) = true := rfl
  obtain ⟨first, accepted, moves, after, final, finished, carries, status, -, atMost⟩ :=
    @finalized_of_standard 0 _ (graph_eq 0) "SQS" requirements 1 Int.one_nonneg readable reviewable
      ⟨⟨[definition 0]⟩, defaultCeiling⟩ registered
  cases (initialFrom_record Int.one_nonneg "SQS" requirements).symm.trans accepted
  exact ⟨rfl, moves, after, final, finished, carries, status, atMost⟩

end PolicyGeneration

end StepGraph
