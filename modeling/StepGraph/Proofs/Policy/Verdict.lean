import StepGraph.Proofs.Payload.Settled
import StepGraph.Proofs.Policy.Course

namespace StepGraph

/-- A call of the reviewer: what was shown, and what came of it. -/
structure Verdict where
  content : String
  requirements : Entries
  reply : Fallible Review

namespace Verdict

def Passed (verdict : Verdict) : Prop :=
  ∃ review, verdict.reply = .ok review ∧ review.passed = true

def ofExchange? : Exchange Effect.Reply → Option Verdict
  | ⟨.consult (.review content requirements), reply⟩ => some ⟨content, requirements, reply⟩
  | _ => none

end Verdict

def Talk.verdicts (talk : Talk) : List Verdict :=
  talk.filterMap Verdict.ofExchange?

theorem Talk.verdicts_append (talk words : Talk) :
    Talk.verdicts (talk ++ words) = talk.verdicts ++ words.verdicts :=
  List.filterMap_append ..

def Talk.lastVerdict? (talk : Talk) : Option Verdict :=
  (talk.filterMap Verdict.ofExchange?).getLast?

theorem Talk.lastVerdict?_append (talk words : Talk) :
    Talk.lastVerdict? (talk ++ words) = words.lastVerdict?.or talk.lastVerdict? := by
  simp only [lastVerdict?, List.filterMap_append, List.getLast?_append]

namespace PolicyGeneration

/-! ### The initial state -/

/-- The three fields of a request that a run is begun with are read one by one; the others keep
their defaults. -/
theorem ofEntries_eq (service requirements maxRefinements : Value) :
    PolicyRequest.ofEntries [("service", service), ("requirements", requirements),
        ("max_refinements", maxRefinements)] =
      (fun service requirements maxRefinements =>
        ({ service, requirements, maxRefinements } : PolicyRequest))
        <$> (Form.text service).under (.field "service")
        <*> (Form.record requirements).under (.field "requirements")
        <*> (Form.intAtLeast 0 maxRefinements).under (.field "max_refinements") := by
  generalize hfields : [("service", service), ("requirements", requirements),
    ("max_refinements", maxRefinements)] = fields
  have hservice : Form.field fields "service" Form.text (some "") =
      (Form.text service).under (.field "service") := hfields ▸ rfl
  have hrequirements : Form.field fields "requirements" Form.record (some []) =
      (Form.record requirements).under (.field "requirements") := hfields ▸ rfl
  have hmaxRefinements : Form.field fields "max_refinements" (Form.intAtLeast 0) (some 2) =
      (Form.intAtLeast 0 maxRefinements).under (.field "max_refinements") := hfields ▸ rfl
  rw [PolicyRequest.ofEntries, hservice, hrequirements, hmaxRefinements]
  subst hfields
  cases Form.text service <;> cases Form.record requirements <;>
    cases Form.intAtLeast 0 maxRefinements <;> rfl

/-- The initial states for plain data are those for the requests that the data stand for. -/
theorem initial_of_initialFrom {service requirements maxRefinements : Value} {state : State}
    (accepted : initialFrom service requirements maxRefinements = .ok state) :
    ∃ name entries bound, service = .text name ∧
      (if requirements.holds then requirements else .record []) = .record entries ∧ 0 ≤ bound ∧
      state = initial name entries bound := by
  unfold initialFrom at accepted
  generalize (if requirements.holds then requirements else Value.record []) = given at accepted ⊢
  dsimp only at accepted
  rw [ofEntries_eq] at accepted
  generalize hname : Form.text service = name at accepted
  generalize hentries : Form.record given = entries at accepted
  generalize hleast : Form.intAtLeast 0 maxRefinements = bound at accepted
  cases name <;> cases entries <;> cases bound <;> cases accepted
  refine ⟨_, _, _, ?_, ?_, Form.le_of_intAtLeast hleast, rfl⟩
  · cases service <;> cases hname
    rfl
  · cases given <;> cases hentries
    rfl

/-! ### The invariant -/

def approved (request : PolicyRequest) : Bool :=
  request.validation.any (·.passed)

/-- What holds of the request wherever a run stands: a stored verdict in its favour is the last one
given, on the draft that the request holds, and the run is about to be finalized. -/
structure Sound (requirements : Entries) (talk : Talk) (position : Position)
    (request : PolicyRequest) : Prop where
  requirements_eq : request.requirements = requirements
  status_eq : request.status = "draft"
  drafted : position = .validation → request.policyDraft ≠ ""
  passed : approved request = true → position = .completion ∧ request.policyDraft ≠ "" ∧
    request.validatedDraft = some request.policyDraft ∧
    ∃ review, talk.lastVerdict? = some ⟨request.policyDraft, requirements, .ok review⟩ ∧
      review.passed = true
  pending : approved request = false →
    ∀ verdict, talk.lastVerdict? = some verdict → ¬ verdict.Passed

def judged (request : PolicyRequest) : Entries × String × Option Review :=
  (request.requirements, request.status, request.validation)

theorem drafted_of_goes {position : Position} {state : State} {request : PolicyRequest}
    (carries : state.data = .payload (.policy request))
    (goes : position.Goes state .validation) : request.policyDraft ≠ "" := by
  cases goes with
  | drafted decided =>
      intro blank
      have isBlank : routeAfterGeneration state = .needsRefinement := by
        simp [routeAfterGeneration, carries, Data.policy?, blank]
      cases isBlank.symm.trans decided

/-- No step writes the requirements, only the last one the status, and only the validation what is
known of the verdict. -/
theorem Stage.Yields.frame {stage : Stage} {state : State} {request updated : PolicyRequest}
    {talk : Talk} {outcome : Fallible PolicyRequest}
    (yields : stage.Yields state request talk outcome) (succeeds : outcome = .ok updated) :
    updated.requirements = request.requirements ∧
      (stage ≠ .finalize → updated.status = request.status) ∧
      (stage ≠ .validate → updated.validation = request.validation ∧
        updated.validatedDraft = request.validatedDraft) := by
  cases yields with
  | analyze =>
      obtain ⟨_, rfl⟩ := eq_of_analyzed succeeds
      exact ⟨rfl, fun _ => rfl, fun _ => ⟨rfl, rfl⟩⟩
  | assess =>
      obtain ⟨_, rfl⟩ := eq_of_assessed succeeds
      exact ⟨rfl, fun _ => rfl, fun _ => ⟨rfl, rfl⟩⟩
  | validate reply =>
      cases reply <;> cases succeeds
      exact ⟨rfl, fun _ => rfl, fun notValidate => absurd rfl notValidate⟩
  | finalize =>
      cases succeeds
      unfold finalized
      split <;> exact ⟨rfl, fun notFinalize => absurd rfl notFinalize, fun _ => ⟨rfl, rfl⟩⟩
  | refine => cases succeeds; exact ⟨rfl, fun _ => rfl, fun _ => ⟨rfl, rfl⟩⟩
  | retrieve reply => cases reply <;> cases succeeds; exact ⟨rfl, fun _ => rfl, fun _ => ⟨rfl, rfl⟩⟩
  | threats reply => cases reply <;> cases succeeds; exact ⟨rfl, fun _ => rfl, fun _ => ⟨rfl, rfl⟩⟩
  | compliance reply =>
      cases reply <;> cases succeeds
      exact ⟨rfl, fun _ => rfl, fun _ => ⟨rfl, rfl⟩⟩
  | security reply => cases reply <;> cases succeeds; exact ⟨rfl, fun _ => rfl, fun _ => ⟨rfl, rfl⟩⟩
  | generate reply => cases reply <;> cases succeeds; exact ⟨rfl, fun _ => rfl, fun _ => ⟨rfl, rfl⟩⟩

theorem Stage.Yields.judged_eq {stage : Stage} {state : State} {request updated : PolicyRequest}
    {talk : Talk} {outcome : Fallible PolicyRequest}
    (yields : stage.Yields state request talk outcome) (succeeds : outcome = .ok updated)
    (notValidate : stage ≠ .validate) (notFinalize : stage ≠ .finalize) :
    judged updated = judged request := by
  obtain ⟨requirements, status, verdict⟩ := yields.frame succeeds
  rw [judged, requirements, status notFinalize, (verdict notValidate).1, judged]

theorem Stage.Yields.verdicts_eq {stage : Stage} {state : State} {request : PolicyRequest}
    {talk : Talk} {outcome : Fallible PolicyRequest}
    (yields : stage.Yields state request talk outcome) (notValidate : stage ≠ .validate) :
    talk.verdicts = [] := by
  cases yields with
  | validate => contradiction
  | _ => rfl

theorem Stage.Yields.lastVerdict?_eq {stage : Stage} {state : State} {request : PolicyRequest}
    {talk : Talk} {outcome : Fallible PolicyRequest}
    (yields : stage.Yields state request talk outcome) (notValidate : stage ≠ .validate) :
    talk.lastVerdict? = none :=
  congrArg List.getLast? (yields.verdicts_eq notValidate)

theorem routeAfterValidation_of_reviewed {state : State} {request : PolicyRequest} {review : Review}
    (carries : state.data = .payload (.policy request))
    (reviewed : request.validation = some review) :
    routeAfterValidation state =
      if review.passed then .pass
      else if request.maxRefinements ≤ request.refinementCount then .maxIterations
      else if review.needsReview then .needsReview
      else .fail := by
  unfold routeAfterValidation
  rw [carries]
  simp only [Data.policy?, reviewed]

namespace Sound

variable {requirements : Entries} {talk words : Talk} {position next : Position}
  {request updated : PolicyRequest} {state after : State}

theorem not_approved (sound : Sound requirements talk position request)
    (inner : position ≠ .completion) : approved request = false := by
  cases isApproved : approved request with
  | false => rfl
  | true => exact absurd (sound.passed isApproved).1 inner

/-- A request is approved just in case the last call of the reviewer passed what it was shown. -/
theorem approved_iff (sound : Sound requirements talk position request) :
    approved request = true ↔
      ∃ verdict, talk.lastVerdict? = some verdict ∧ verdict.Passed := by
  constructor
  · intro isApproved
    obtain ⟨-, -, -, review, isLast, passed⟩ := sound.passed isApproved
    exact ⟨_, isLast, review, rfl, passed⟩
  · rintro ⟨verdict, isLast, passed⟩
    by_contra failed
    exact sound.pending (Bool.eq_false_of_not_eq_true failed) verdict isLast passed

/-- As long as the verdict stays open and none is given, the invariant is kept. -/
theorem keep (sound : Sound requirements talk position request) (inner : position ≠ .completion)
    (same : judged updated = judged request) (silent : words.lastVerdict? = none)
    (drafted : next = .validation → updated.policyDraft ≠ "") :
    Sound requirements (talk ++ words) next updated := by
  have isOpen := sound.not_approved inner
  obtain ⟨sameRequirements, same⟩ := Prod.mk.inj same
  obtain ⟨sameStatus, sameValidation⟩ := Prod.mk.inj same
  have stillOpen : approved updated = false := by
    rw [approved, sameValidation]
    exact isOpen
  refine ⟨sameRequirements.trans sound.requirements_eq, sameStatus.trans sound.status_eq, drafted,
    ?_, fun _ => ?_⟩
  · rw [stillOpen]
    exact nofun
  · rw [Talk.lastVerdict?_append, silent]
    exact sound.pending isOpen

/-- The verdict on the draft that the request holds goes on record. -/
theorem judge {review : Review} (sound : Sound requirements talk .validation request)
    (isVerdict : words.lastVerdict? = some ⟨request.policyDraft, requirements, .ok review⟩)
    (goes : review.passed = true → next = .completion) (further : next ≠ .validation) :
    Sound requirements (talk ++ words) next (withReview request review) := by
  have last : Talk.lastVerdict? (talk ++ words) =
      some ⟨request.policyDraft, requirements, .ok review⟩ := by
    rw [Talk.lastVerdict?_append, isVerdict]
    rfl
  refine ⟨sound.requirements_eq, sound.status_eq, fun same => absurd same further, fun passed => ?_,
    fun failed verdict isLast => ?_⟩
  · exact ⟨goes passed, sound.drafted rfl, rfl, review, last, passed⟩
  · cases last.symm.trans isLast
    rintro ⟨other, same, passed⟩
    cases same
    exact Bool.false_ne_true (failed.symm.trans passed)

/-- A call of the reviewer that fails leaves the verdict open. -/
theorem fail {failure : Failure} (sound : Sound requirements talk .validation request)
    (isVerdict : words.lastVerdict? = some ⟨request.policyDraft, requirements, .error failure⟩)
    (further : next ≠ .validation) : Sound requirements (talk ++ words) next request := by
  have isOpen := sound.not_approved (by decide)
  refine ⟨sound.requirements_eq, sound.status_eq, fun same => absurd same further, ?_,
    fun _ verdict isLast => ?_⟩
  · rw [isOpen]
    exact nofun
  · rw [Talk.lastVerdict?_append, isVerdict] at isLast
    cases isLast
    rintro ⟨_, same, _⟩
    cases same

theorem step (sound : Sound requirements talk position request)
    (carries : state.data = .payload (.policy request))
    (takes : position.stage.Takes state words after) (goes : position.next after = some next) :
    ∃ updated, after.data = .payload (.policy updated) ∧
      Sound requirements (talk ++ words) next updated := by
  have inner : position ≠ .completion := by
    rintro rfl
    cases goes
  have leads := Position.goes_of_next goes
  obtain ⟨same, yields, leaves⟩ := takes
  cases carries.symm.trans same
  by_cases isValidation : position = .validation
  · subst isValidation
    have further : next ≠ .validation := by
      rintro rfl
      cases leads
    cases yields with
    | validate reply =>
        have isVerdict : Talk.lastVerdict? [⟨.consult (reviewInquiry request), reply⟩] =
            some ⟨request.policyDraft, requirements, reply⟩ := by
          rw [← sound.requirements_eq]
          rfl
        cases reply with
        | ok review =>
            cases leaves with
            | updated =>
                refine ⟨_, rfl, sound.judge isVerdict (fun passed => ?_) further⟩
                rw [Position.next, routeAfterValidation_of_reviewed rfl rfl, if_pos passed] at goes
                exact (Option.some.inj goes).symm
        | error failure =>
            cases leaves with
            | recorded => exact ⟨request, carries, sound.fail isVerdict further⟩
  · have notValidate : position.stage ≠ .validate := mt Position.validation_of_stage isValidation
    have notFinalize : position.stage ≠ .finalize := mt Position.completion_of_stage inner
    have silent := yields.lastVerdict?_eq notValidate
    cases leaves with
    | updated updated =>
        refine ⟨updated, rfl, sound.keep inner (yields.judged_eq rfl notValidate notFinalize)
          silent ?_⟩
        rintro rfl
        exact drafted_of_goes rfl leads
    | recorded failure now =>
        have carried : (state.counted.addError now position.stage.name
            (StepSpec.recordedText failure)).data = .payload (.policy request) := carries
        refine ⟨request, carried, sound.keep inner rfl silent ?_⟩
        rintro rfl
        exact drafted_of_goes carried leads

end Sound

theorem sound_initial (name : String) (requirements : Entries) (bound : Int) :
    Sound requirements [] .analysis { service := name, requirements, maxRefinements := bound } where
  requirements_eq := rfl
  status_eq := rfl
  drafted := nofun
  passed := nofun
  pending := nofun

theorem Way.sound {name : String} {requirements : Entries} {bound : Int} {talk : Talk}
    {steps : List String} {state : State} {position : Position}
    (way : Way (initial name requirements bound) talk steps state position) :
    ∃ request, state.data = .payload (.policy request) ∧
      Sound requirements talk position request := by
  induction way with
  | start => exact ⟨_, rfl, sound_initial name requirements bound⟩
  | onward _ _ takes goes ih =>
      obtain ⟨_, carries, sound⟩ := ih
      exact sound.step carries takes goes

/-! ### The result -/

theorem finalized_of_approved {request : PolicyRequest} (isApproved : approved request = true) :
    finalized request = { request with status := "finalized" } :=
  if_pos isApproved

theorem status_of_open {request : PolicyRequest} (isOpen : approved request = false) :
    (finalized request).status = "needs_attention" := by
  rw [finalized, if_neg (Bool.not_eq_true _ ▸ isOpen)]
  rfl

/-- A run that completes has finalized its draft just in case the last call of the reviewer passed
it; by then the call was about this very draft, which is not blank. Otherwise it ends with a request
that needs attention, or gives up the refinement with more errors than are tolerated. -/
theorem finalized_iff_passed {tag : Nat} {graph : Definition}
    (isGraph : PolicyGeneration.graph tag = .ok graph)
    {service requirements maxRefinements : Value} {first : State}
    (accepted : initialFrom service requirements maxRefinements = .ok first) {ceiling : Int}
    {talk : Talk} {trace : List Event} {run last : Run} {circumstances : Circumstances}
    {step : String} (dialogue : (Run.create graph ceiling first).Dialogue talk trace run)
    (isOver : run.move circumstances = .over last (.completed step)) :
    ∃ entries final,
      (if requirements.holds then requirements else .record []) = .record entries ∧
      last.state.data = .payload (.policy final) ∧
      (final.status = "finalized" ↔ ∃ verdict, talk.lastVerdict? = some verdict ∧ verdict.Passed) ∧
      (final.status = "finalized" →
        (∃ review, talk.lastVerdict? = some ⟨final.policyDraft, entries, .ok review⟩ ∧
          review.passed = true) ∧
        final.policyDraft ≠ "" ∧ final.validatedDraft = some final.policyDraft) ∧
      (final.status ≠ "finalized" →
        (step = "finalize_policy" ∧ final.status = "needs_attention") ∨
        (step = "refine_policy" ∧ 3 < last.state.errors.length ∧ final.status = "draft")) := by
  cases (graph_eq tag).symm.trans isGraph
  obtain ⟨name, entries, bound, -, hentries, -, rfl⟩ := initial_of_initialFrom accepted
  have completes :
      (runFrom tag ceiling (initial name entries bound)).Completes talk trace last.state step :=
    dialogue.completes rfl isOver
  have ends := ends_of_completes rfl completes
  generalize stepsIn trace = steps at ends
  generalize last.state = left at ends ⊢
  refine ⟨entries, ?_⟩
  cases ends with
  | completion way below takes =>
      obtain ⟨request, carries, sound⟩ := way.sound
      obtain ⟨same, yields, leaves⟩ := takes
      cases carries.symm.trans same
      cases yields with
      | finalize =>
          cases leaves with
          | updated =>
              rw [List.append_nil]
              refine ⟨finalized request, hentries, rfl, ?_⟩
              have given := sound.approved_iff
              cases isApproved : approved request with
              | true =>
                  obtain ⟨-, notBlank, isValidated, passed⟩ := sound.passed isApproved
                  rw [finalized_of_approved isApproved]
                  exact ⟨iff_of_true rfl (given.mp isApproved),
                    fun _ => ⟨passed, notBlank, isValidated⟩,
                    fun unfinished => absurd rfl unfinished⟩
              | false =>
                  have status := status_of_open isApproved
                  have unfinished : (finalized request).status ≠ "finalized" := by
                    rw [status]
                    decide
                  rw [isApproved] at given
                  exact ⟨iff_of_false unfinished (given.not.mp Bool.false_ne_true),
                    fun isFinal => absurd isFinal unfinished, fun _ => .inl ⟨rfl, status⟩⟩
  | refinement way below takes stops =>
      obtain ⟨request, carries, sound⟩ := way.sound
      have isOpen := sound.not_approved (by decide)
      obtain ⟨same, yields, leaves⟩ := takes
      cases carries.symm.trans same
      cases yields with
      | refine =>
          cases leaves with
          | updated =>
              rw [List.append_nil]
              have status : (refined request).status = "draft" := sound.status_eq
              have unfinished : (refined request).status ≠ "finalized" := by
                rw [status]
                decide
              have given := sound.approved_iff
              rw [isOpen] at given
              exact ⟨refined request, hentries, rfl,
                iff_of_false unfinished (given.not.mp Bool.false_ne_true),
                fun isFinal => absurd isFinal unfinished,
                fun _ => .inr ⟨rfl, Position.errors_of_next stops, status⟩⟩

def approving : Solo where
  run := .create (definition 0) defaultCeiling (initial "S3" [] 0)
  admitted := true
  services :=
    { drafting := .scripted ⟨[.ok "text"]⟩, reviewing := .scripted ⟨[.ok { passed := true }]⟩ }

theorem finalized_iff_passed_approving :
    ∃ talk trace run last circumstances,
      (Run.create (definition 0) defaultCeiling (initial "S3" [] 0)).Dialogue talk trace run ∧
      run.move circumstances = .over last (.completed "finalize_policy") ∧
      ∃ review, talk.lastVerdict? = some ⟨"text", [], .ok review⟩ ∧ review.passed = true := by
  have ending : (approving.finish 60).2 = some (.completed "finalize_policy") := rfl
  have result : (approving.finish 60).1.run.state.data.policy?.map
      (fun request => (request.status, request.policyDraft)) = some ("finalized", "text") := rfl
  obtain ⟨_, solo, comes, isOver⟩ := Solo.comes_of_finish (Prod.ext rfl ending)
  obtain ⟨talk, trace, dialogue, -⟩ := comes.dialogue
  have isOver := (Solo.over_of_advance isOver).1
  have accepted : initialFrom (.text "S3") .null (.int 0) = .ok (initial "S3" [] 0) := rfl
  obtain ⟨entries, final, hentries, carries, -, finalized, -⟩ :=
    finalized_iff_passed (graph_eq 0) accepted dialogue isOver
  rw [carries] at result
  obtain ⟨status, draft⟩ := Prod.mk.inj (Option.some.inj result)
  cases hentries
  obtain ⟨⟨review, isLast, passed⟩, -⟩ := finalized status
  exact ⟨talk, trace, _, _, _, dialogue, isOver, review, draft ▸ isLast, passed⟩

end PolicyGeneration

end StepGraph
