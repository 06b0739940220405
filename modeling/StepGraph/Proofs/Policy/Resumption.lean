import StepGraph.Proofs.Policy.Verdict

namespace StepGraph

/-- The reviewer has come to a verdict. -/
def Talk.Reviewed (talk : Talk) : Prop :=
  ∃ verdict ∈ talk.verdicts, ∃ review, verdict.reply = .ok review

theorem Talk.reviewed_append_iff {talk words : Talk} :
    Talk.Reviewed (talk ++ words) ↔ talk.Reviewed ∨ words.Reviewed := by
  simp only [Reviewed, verdicts_append, List.mem_append, or_and_right, exists_or]

theorem Talk.mem_of_mem_verdicts {talk : Talk} {verdict : Verdict}
    (member : verdict ∈ talk.verdicts) :
    ⟨.consult (.review verdict.content verdict.requirements), verdict.reply⟩ ∈ talk := by
  obtain ⟨exchange, said, same⟩ := List.mem_filterMap.mp member
  unfold Verdict.ofExchange? at same
  split at same
  · cases same
    exact said
  · cases same

namespace PolicyGeneration

/-! ### The steps -/

theorem Stage.Yields.not_reviewed {stage : Stage} {state : State} {request : PolicyRequest}
    {talk : Talk} {outcome : Fallible PolicyRequest}
    (yields : stage.Yields state request talk outcome) (notValidate : stage ≠ .validate) :
    ¬ talk.Reviewed := by
  rintro ⟨_, member, -⟩
  rw [yields.verdicts_eq notValidate] at member
  cases member

theorem Stage.Yields.judges {state : State} {request : PolicyRequest} {talk : Talk}
    {outcome : Fallible PolicyRequest} (yields : Stage.validate.Yields state request talk outcome) :
    ∃ reply, talk.verdicts = [⟨request.policyDraft, request.requirements, reply⟩] ∧
      outcome = reply.map (withReview request) := by
  cases yields with
  | validate reply => exact ⟨reply, rfl, rfl⟩

/-! ### The invariant -/

/-- What holds of the request wherever a run stands that was begun on another. Before the reviewer
has answered, the verdict is the one that came with the first request; after that, one in favour of
the request is about its present draft, and the run is about to be finalized. -/
structure Resumed (first : PolicyRequest) (talk : Talk) (position : Position)
    (request : PolicyRequest) : Prop where
  requirements_eq : request.requirements = first.requirements
  unreviewed : ¬ talk.Reviewed →
    request.validation = first.validation ∧ request.validatedDraft = first.validatedDraft
  reviewed : talk.Reviewed → approved request = true →
    position = .completion ∧ request.validatedDraft = some request.policyDraft ∧
      ∃ review, talk.lastVerdict? = some ⟨request.policyDraft, first.requirements, .ok review⟩ ∧
        request.validation = some review

namespace Resumed

variable {first request updated : PolicyRequest} {talk words : Talk} {position next : Position}
  {state after : State}

theorem keep (resumed : Resumed first talk position request) (inner : position ≠ .completion)
    (same : updated.requirements = request.requirements ∧ updated.validation = request.validation ∧
      updated.validatedDraft = request.validatedDraft) (silent : ¬ words.Reviewed) :
    Resumed first (talk ++ words) next updated := by
  obtain ⟨sameRequirements, sameValidation, sameDraft⟩ := same
  have reviewed_iff : Talk.Reviewed (talk ++ words) ↔ talk.Reviewed := by
    rw [Talk.reviewed_append_iff, or_iff_left silent]
  refine ⟨sameRequirements.trans resumed.requirements_eq, fun unreviewed => ?_,
    fun reviewed isApproved => ?_⟩
  · obtain ⟨validation, validatedDraft⟩ := resumed.unreviewed (reviewed_iff.not.mp unreviewed)
    exact ⟨sameValidation.trans validation, sameDraft.trans validatedDraft⟩
  · -- A verdict in favour of the request would have taken the run to its end.
    rw [approved, sameValidation] at isApproved
    exact absurd (resumed.reviewed (reviewed_iff.mp reviewed) isApproved).1 inner

theorem judge {review : Review} (resumed : Resumed first talk .validation request)
    (isVerdict : words.verdicts = [⟨request.policyDraft, first.requirements, .ok review⟩])
    (goes : review.passed = true → next = .completion) :
    Resumed first (talk ++ words) next (withReview request review) where
  requirements_eq := resumed.requirements_eq
  unreviewed unreviewed := by
    refine absurd (Talk.reviewed_append_iff.mpr (.inr ?_)) unreviewed
    exact ⟨_, isVerdict ▸ List.mem_singleton_self _, review, rfl⟩
  reviewed _ passed := by
    refine ⟨goes passed, rfl, review, ?_, rfl⟩
    rw [Talk.lastVerdict?_append]
    have isLast : words.lastVerdict? =
        some ⟨request.policyDraft, first.requirements, .ok review⟩ :=
      congrArg List.getLast? isVerdict
    rw [isLast]
    rfl

theorem step (resumed : Resumed first talk position request)
    (carries : state.data = .payload (.policy request))
    (takes : position.stage.Takes state words after) (goes : position.next after = some next) :
    ∃ updated, after.data = .payload (.policy updated) ∧
      Resumed first (talk ++ words) next updated := by
  have inner : position ≠ .completion := by
    rintro rfl
    cases goes
  obtain ⟨same, yields, leaves⟩ := takes
  cases carries.symm.trans same
  by_cases isValidation : position = .validation
  · subst isValidation
    obtain ⟨reply, asked, rfl⟩ := Stage.Yields.judges yields
    rw [resumed.requirements_eq] at asked
    cases reply with
    | ok review =>
        cases leaves with
        | updated =>
            refine ⟨_, rfl, resumed.judge asked fun passed => ?_⟩
            rw [Position.next, routeAfterValidation_of_reviewed rfl rfl, if_pos passed] at goes
            exact (Option.some.inj goes).symm
    | error failure =>
        have silent : ¬ words.Reviewed := by
          rintro ⟨verdict, member, review, answered⟩
          rw [asked] at member
          cases List.mem_singleton.mp member
          cases answered
        cases leaves with
        | recorded => exact ⟨request, carries, resumed.keep inner ⟨rfl, rfl, rfl⟩ silent⟩
  · have notValidate : position.stage ≠ .validate := mt Position.validation_of_stage isValidation
    have silent := yields.not_reviewed notValidate
    cases leaves with
    | updated updated =>
        obtain ⟨requirements, -, verdict⟩ := yields.frame rfl
        exact ⟨updated, rfl, resumed.keep inner ⟨requirements, verdict notValidate⟩ silent⟩
    | recorded failure now =>
        exact ⟨request, carries, resumed.keep inner ⟨rfl, rfl, rfl⟩ silent⟩

end Resumed

theorem Way.resumed {first : State} {request : PolicyRequest}
    (carries : first.data = .payload (.policy request)) {talk : Talk} {steps : List String}
    {state : State} {position : Position} (way : Way first talk steps state position) :
    ∃ current, state.data = .payload (.policy current) ∧
      Resumed request talk position current := by
  induction way with
  | start =>
      refine ⟨request, carries, rfl, fun _ => ⟨rfl, rfl⟩, ?_⟩
      rintro ⟨_, member, -⟩
      cases member
  | onward _ _ takes goes ih =>
      obtain ⟨_, carries, resumed⟩ := ih
      exact resumed.step carries takes goes

/-! ### The result -/

theorem status_eq_finalized_iff {request : PolicyRequest} :
    (finalized request).status = "finalized" ↔ approved request = true := by
  cases isApproved : approved request with
  | true => exact iff_of_true (by rw [finalized_of_approved isApproved]) rfl
  | false =>
      refine iff_of_false ?_ Bool.false_ne_true
      rw [status_of_open isApproved]
      decide

theorem validation_finalized (request : PolicyRequest) :
    (finalized request).validation = request.validation := by
  unfold finalized
  split <;> rfl

/-- A draft is finalized on a verdict in its favour. The verdict is about this draft if the reviewer
has answered since the request was taken up; then it is the last answer. Otherwise it is the one
that came with the request, about whatever draft came with it. -/
theorem finalized_on_record {tag : Nat} {graph : Definition}
    (isGraph : PolicyGeneration.graph tag = .ok graph) {first : State} {request : PolicyRequest}
    (carries : first.data = .payload (.policy request)) {ceiling : Int} {talk : Talk}
    {trace : List Event} {run last : Run} {circumstances : Circumstances}
    (dialogue : (Run.create graph ceiling first).Dialogue talk trace run)
    (isOver : run.move circumstances = .over last (.completed "finalize_policy")) :
    ∃ final, last.state.data = .payload (.policy final) ∧
      (final.status = "finalized" ↔
        ∃ review, final.validation = some review ∧ review.passed = true) ∧
      (final.status = "finalized" →
        (final.validatedDraft = some final.policyDraft ↔
          talk.Reviewed ∨ request.validatedDraft = some final.policyDraft) ∧
        (talk.Reviewed → ∃ review, final.validation = some review ∧
          talk.lastVerdict? = some ⟨final.policyDraft, request.requirements, .ok review⟩) ∧
        (¬ talk.Reviewed → final.validation = request.validation ∧
          final.validatedDraft = request.validatedDraft)) := by
  cases (graph_eq tag).symm.trans isGraph
  generalize isLast : "finalize_policy" = step at isOver
  have completes : (runFrom tag ceiling first).Completes talk trace last.state step :=
    dialogue.completes rfl isOver
  have ends := ends_of_completes carries completes
  generalize stepsIn trace = steps at ends
  generalize last.state = left at ends ⊢
  cases ends with
  | refinement => exact absurd isLast (by decide)
  | @completion talk _ _ _ _ way below takes =>
      obtain ⟨current, carries, resumed⟩ := way.resumed carries
      obtain ⟨same, yields, leaves⟩ := takes
      cases carries.symm.trans same
      cases yields with
      | finalize =>
          cases leaves with
          | updated =>
              rw [List.append_nil]
              refine ⟨finalized current, rfl, ?_, fun isFinal => ?_⟩
              · rw [status_eq_finalized_iff, approved, Option.any_eq_true, validation_finalized]
              · have isApproved := status_eq_finalized_iff.mp isFinal
                rw [finalized_of_approved isApproved]
                refine ⟨?_, fun reviewed => ?_, resumed.unreviewed⟩
                · by_cases reviewed : talk.Reviewed
                  · exact iff_of_true (resumed.reviewed reviewed isApproved).2.1 (.inl reviewed)
                  · rw [or_iff_right reviewed, ← (resumed.unreviewed reviewed).2]
                · obtain ⟨-, -, review, isLast, isValidation⟩ :=
                    resumed.reviewed reviewed isApproved
                  exact ⟨review, isValidation, isLast⟩

/-- A request that has been passed before with a draft that is gone by now, taken up by a writer who
has another text to offer and a reviewer who is out. -/
def stale : Solo where
  run := .create (definition 0) defaultCeiling
    { data := .payload (.policy
        { validation := some { passed := true }, validatedDraft := some "old" }) }
  admitted := true
  services :=
    { drafting := .scripted ⟨[.ok "new"]⟩
      reviewing := .scripted ⟨[.error (.fault .runtime "down")]⟩ }

theorem answer_stale (inquiry : Inquiry) :
    (stale.services.answer inquiry).2 = stale.services ∧
      (∀ failure, (stale.services.answer inquiry).1 = .error failure → Ordinary failure) := by
  cases inquiry with
  | facts => exact ⟨rfl, nofun⟩
  | draft => exact ⟨rfl, nofun⟩
  | review => exact ⟨rfl, fun _ fails => by cases fails; exact ordinary_fault _ _⟩

theorem finalized_on_record_stale :
    ∃ talk trace run last circumstances final,
      stale.run.Dialogue talk trace run ∧
      run.move circumstances = .over last (.completed "finalize_policy") ∧
      last.state.data = .payload (.policy final) ∧ final.status = "finalized" ∧
      final.validation = some { passed := true } ∧ final.validatedDraft = some "old" ∧
      ¬ talk.Reviewed := by
  have ending : (stale.finish 60).2 = some (.completed "finalize_policy") := rfl
  have result : (stale.finish 60).1.run.state.data.policy?.map (·.status) = some "finalized" := rfl
  obtain ⟨_, solo, comes, isOver⟩ := Solo.comes_of_finish (Prod.ext rfl ending)
  obtain ⟨talk, trace, dialogue, -, -, answers⟩ := comes.dialogue
  obtain ⟨-, answer⟩ := answers fun inquiry => (answer_stale inquiry).1
  have isOver := (Solo.over_of_advance isOver).1
  obtain ⟨final, carries, -, finalized⟩ := finalized_on_record (graph_eq 0) rfl dialogue isOver
  rw [carries] at result
  have status := Option.some.inj result
  have unheard : ¬ talk.Reviewed := by
    rintro ⟨verdict, member, review, answered⟩
    have refused := answer _ _ (Talk.mem_of_mem_verdicts member)
    rw [answered] at refused
    cases refused
  obtain ⟨-, -, given⟩ := finalized status
  obtain ⟨validation, validatedDraft⟩ := given unheard
  exact ⟨talk, trace, _, _, _, final, dialogue, isOver, carries, status, validation,
    validatedDraft, unheard⟩

/-- A draft that nobody has reviewed can be finalized on the verdict about another. -/
theorem finalizes_unreviewed_draft :
    ∃ payload talk trace run last circumstances final,
      Payload.parse "policy_generation" (.record [("validation", .record [("passed", .bool true)]),
        ("validated_draft", .text "old")]) = .ok payload ∧
      (Run.create (definition 0) defaultCeiling { data := .payload payload }).Dialogue talk trace
        run ∧
      Harmless talk ∧ run.move circumstances = .over last (.completed "finalize_policy") ∧
      last.state.data = .payload (.policy final) ∧ final.status = "finalized" ∧
      final.validatedDraft = some "old" ∧ final.policyDraft = "new" := by
  have parsed : Payload.parse "policy_generation"
      (.record [("validation", .record [("passed", .bool true)]),
        ("validated_draft", .text "old")]) =
      .ok (.policy { validation := some { passed := true }, validatedDraft := some "old" }) := rfl
  have ending : (stale.finish 60).2 = some (.completed "finalize_policy") := rfl
  obtain ⟨final, carries, status, validatedDraft, policyDraft⟩ :
      ∃ final, (stale.finish 60).1.run.state.data = .payload (.policy final) ∧
        final.status = "finalized" ∧ final.validatedDraft = some "old" ∧
        final.policyDraft = "new" :=
    ⟨_, rfl, rfl, rfl, rfl⟩
  obtain ⟨_, solo, comes, isOver⟩ := Solo.comes_of_finish (Prod.ext rfl ending)
  obtain ⟨talk, trace, dialogue, -, -, answers⟩ := comes.dialogue
  obtain ⟨-, answer⟩ := answers fun inquiry => (answer_stale inquiry).1
  have harmless : Harmless talk := fun inquiry failure member =>
    (answer_stale inquiry).2 failure (answer _ _ member).symm
  exact ⟨_, talk, trace, _, _, _, final, parsed, dialogue, harmless,
    (Solo.over_of_advance isOver).1, carries, status, validatedDraft, policyDraft⟩

end PolicyGeneration

end StepGraph
