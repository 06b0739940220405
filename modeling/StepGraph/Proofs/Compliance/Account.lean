import StepGraph.Proofs.Compliance.Steps
import StepGraph.Proofs.Policy.Verdict

namespace StepGraph

open PolicyGeneration (Harmless)

namespace Talk

def answeredFacts? : Exchange Effect.Reply → Option Facts
  | ⟨.consult (.facts ..), .ok facts⟩ => some facts
  | _ => none

def retrieved (talk : Talk) : List String :=
  (talk.filterMap answeredFacts?).flatMap (·.of "requirements")

theorem retrieved_append (talk words : Talk) :
    Talk.retrieved (talk ++ words) = talk.retrieved ++ words.retrieved := by
  simp [retrieved]

end Talk

namespace ComplianceValidation

/-! ### Verdicts -/

theorem text_eq_compliant_iff {verdict : Verdict} :
    verdict.text = "compliant" ↔ verdict = .compliant := by
  cases verdict <;> decide

theorem routeOnVerdict_eq_compliant_iff {state : State} {examined : ComplianceCase}
    (carries : chart.Carries state examined) :
    routeOnVerdict state = .compliant ↔ examined.verdict = "compliant" := by
  have found : state.data.compliance? = some examined := by
    rw [show state.data = .payload (.compliance examined) from carries]
    rfl
  have route : routeOnVerdict state =
      (OutcomeFamily.ofText? Verdict examined.verdict).getD .nonCompliant := by
    rw [routeOnVerdict, found]
  rw [route]
  constructor
  · intro isCompliant
    cases given : OutcomeFamily.ofText? Verdict examined.verdict with
    | none => rw [given] at isCompliant; cases isCompliant
    | some verdict =>
        rw [given] at isCompliant
        cases isCompliant
        exact (OutcomeFamily.outcomeText_of_ofText? given).symm
  · intro isCompliant
    rw [isCompliant]
    rfl

theorem decided_eq_compliant_iff {examined : ComplianceCase} {review : Review} {verdict : Verdict}
    (decides : decided examined review = .ok verdict) :
    verdict = .compliant ↔ review.passed = true ∧
      ∀ requirement ∈ examined.requirements,
        requirementCovered requirement examined.policy = true := by
  have passed : (combinedReview examined review).passed = true ↔ review.passed = true ∧
      ∀ requirement ∈ examined.requirements,
        requirementCovered requirement examined.policy = true := by
    simp [combinedReview, List.filter_eq_nil_iff]
  rw [← passed]
  simp only [decided, complianceVerdict] at decides
  split at decides
  · next isPassed =>
      cases decides
      exact iff_of_true rfl isPassed
  · next notPassed =>
      refine iff_of_false ?_ notPassed
      split at decides
      · cases decides
      · split at decides
        · cases decides
        · cases decides
          split <;> decide

def Holdable (talk : Talk) : Prop :=
  ∀ content requirements review, ⟨.consult (.review content requirements), .ok review⟩ ∈ talk →
    review.issues.length < Nat.pow 2 63

theorem Holdable.left {talk words : Talk} (holdable : Holdable (talk ++ words)) : Holdable talk :=
  fun content requirements review member =>
    holdable content requirements review (List.mem_append_left _ member)

theorem Holdable.right {talk words : Talk} (holdable : Holdable (talk ++ words)) : Holdable words :=
  fun content requirements review member =>
    holdable content requirements review (List.mem_append_right _ member)

/-- However many requirements go without cover, the issues are no more than they and those of the
review, and their ratio to the requirements stays within the range of doubles. -/
theorem quotientOverflows_eq_false {issues ofReview requirements : Nat}
    (few : ofReview < Nat.pow 2 63) (bounded : issues ≤ ofReview + requirements) :
    quotientOverflows issues (requirements + 1) = false := by
  have weight : ((requirements : Int) + 1).natAbs = requirements + 1 := by omega
  rw [quotientOverflows, decide_eq_false_iff_not, Nat.not_le, Int.natAbs_natCast, weight]
  have large : Nat.pow 2 63 + 1 ≤ Nat.pow 2 1024 - Nat.pow 2 970 := by decide +kernel
  have product := Nat.mul_le_mul_right (requirements + 1) large
  have spread : (Nat.pow 2 63 + 1) * (requirements + 1) =
      Nat.pow 2 63 * requirements + Nat.pow 2 63 + (requirements + 1) := by
    rw [Nat.add_mul, Nat.mul_add, Nat.mul_one, Nat.one_mul]
  rw [spread] at product
  exact Nat.lt_of_lt_of_le (by omega) product

theorem exists_decided {examined : ComplianceCase} {review : Review}
    (few : review.issues.length < Nat.pow 2 63) :
    ∃ verdict, decided examined review = .ok verdict := by
  have bounded : (combinedReview examined review).issues.length ≤
      review.issues.length + examined.requirements.length := by
    simp only [combinedReview, List.length_append, List.length_map]
    exact Nat.add_le_add_left (List.length_filter_le _ _) _
  simp only [decided, complianceVerdict]
  split
  · exact ⟨_, rfl⟩
  · rw [if_neg (by omega), quotientOverflows_eq_false few bounded]
    exact ⟨_, rfl⟩

/-! ### The case at each place -/

def submitted (policyId policy framework : String) : ComplianceCase :=
  { policyId, policy, framework }

def prepared (policyId policy framework : String) (requirements : List String) : ComplianceCase :=
  { policyId, policy, framework, requirements }

/-- What has been asked for requirements, and what has come of it. -/
inductive Retrieval (examined : ComplianceCase) : Talk → List String → Prop
  | skipped : Retrieval examined [] []
  | answered (facts : Facts) :
      Retrieval examined [⟨.consult (factsInquiry examined), .ok facts⟩] (facts.of "requirements")
  | failed (failure : Failure) :
      Retrieval examined [⟨.consult (factsInquiry examined), .error failure⟩] []

/-- A case once its policy has been reviewed, with all that has been asked for that. -/
inductive Reviewed (policyId policy framework : String) : Talk → ComplianceCase → Prop
  | mk {talk words : Talk} {requirements : List String} {outcome : Fallible ComplianceCase}
      (retrieval : Retrieval (prepared policyId policy framework []) talk requirements)
      (yields : Stage.Yields (prepared policyId policy framework requirements) .validate words
        outcome) :
      Reviewed policyId policy framework (talk ++ words)
        (outcome.toOption.getD (prepared policyId policy framework requirements))

/-- The case where a run stands, past its first step with the name of its framework. -/
inductive Reached (policyId policy framework : String) : Stage → Talk → ComplianceCase → Prop
  | retrieve :
      Reached policyId policy framework .retrieve [] (prepared policyId policy framework [])
  | validate {talk : Talk} {requirements : List String}
      (retrieval : Retrieval (prepared policyId policy framework []) talk requirements) :
      Reached policyId policy framework .validate talk
        (prepared policyId policy framework requirements)
  | gaps {talk : Talk} {examined : ComplianceCase}
      (reviewed : Reviewed policyId policy framework talk examined)
      (short : examined.verdict ≠ "compliant") :
      Reached policyId policy framework .gaps talk examined
  | suggest {talk : Talk} {examined : ComplianceCase}
      (reviewed : Reviewed policyId policy framework talk examined)
      (short : examined.verdict ≠ "compliant") :
      Reached policyId policy framework .suggest talk (withGaps examined)
  | compliant {talk : Talk} {examined : ComplianceCase}
      (reviewed : Reviewed policyId policy framework talk examined)
      (compliant : examined.verdict = "compliant") :
      Reached policyId policy framework .close talk examined
  | advised {talk : Talk} {examined : ComplianceCase}
      (reviewed : Reviewed policyId policy framework talk examined)
      (short : examined.verdict ≠ "compliant") :
      Reached policyId policy framework .close talk (withRecommendations (withGaps examined))

section

variable {policyId policy framework : String}

theorem Reached.first {onward : Stage} {state : State}
    (goes : Stage.next .identify state = some onward) :
    Reached policyId policy framework onward [] (prepared policyId policy framework []) := by
  simp only [Stage.next] at goes
  split at goes <;> cases goes
  · exact .validate .skipped
  · exact .retrieve

theorem Reached.step {stage onward : Stage} {talk words : Talk}
    {examined : ComplianceCase} {outcome : Fallible ComplianceCase} {after : State}
    (reached : Reached policyId policy framework stage talk examined)
    (yields : Stage.Yields examined stage words outcome)
    (carries : chart.Carries after (outcome.toOption.getD examined))
    (goes : stage.next after = some onward) :
    Reached policyId policy framework onward (talk ++ words) (outcome.toOption.getD examined) := by
  cases reached with
  | retrieve =>
      cases goes
      cases yields with
      | retrieve reply =>
          cases reply with
          | ok facts => exact .validate (.answered facts)
          | error failure => exact .validate (.failed failure)
  | validate retrieval =>
      have decision := routeOnVerdict_eq_compliant_iff carries
      simp only [Stage.next] at goes
      split at goes
      · next isCompliant =>
          cases goes
          exact .compliant (.mk retrieval yields) (decision.mp isCompliant)
      · next short =>
          cases goes
          exact .gaps (.mk retrieval yields) fun isCompliant => short (decision.mpr isCompliant)
  | gaps reviewed short =>
      cases goes
      cases yields
      rw [List.append_nil]
      exact .suggest reviewed short
  | suggest reviewed short =>
      cases goes
      cases yields
      rw [List.append_nil]
      exact .advised reviewed short
  | compliant => cases goes
  | advised => cases goes

/-- Past its first step, a run stands at a case that has come of what has been asked. -/
theorem reached_of_way {talk : Talk} {steps : List String} {state : State} {stage : Stage}
    (way : chart.Way (initial policyId policy framework) talk steps state stage) :
    stage = .identify ∧ talk = [] ∧ chart.Carries state (submitted policyId policy framework) ∨
      ∃ examined, chart.Carries state examined ∧
        Reached policyId policy (normaliseFramework framework).text stage talk examined := by
  induction way with
  | start => exact .inl ⟨rfl, rfl, rfl⟩
  | onward _ takes goes ih =>
      rcases ih with ⟨rfl, rfl, carries⟩ | ⟨examined, carries, reached⟩
      · obtain ⟨_, yields, carried⟩ := (maps_definition 0).left carries takes
        cases yields
        exact .inr ⟨_, carried, .first goes⟩
      · obtain ⟨outcome, yields, carried⟩ := (maps_definition 0).left carries takes
        exact .inr ⟨_, carried, reached.step yields carried goes⟩

end

/-! ### The result -/

def auditEntry (now : Instant) (event : String) (details : Entries) : Entries :=
  ("event", .text event) :: ("timestamp", .text (Moment.ofInstant now).text) :: details

def advice : Fallible Review → List String
  | .ok review => review.recommendations
  | .error _ => []

/-- A case that has been closed after the reviewer has been heard on a policy. -/
structure Account (policy framework : String) (talk : Talk) (reply : Fallible Review)
    (final : ComplianceCase) : Prop where
  status : final.status = "validated"
  policy_eq : final.policy = policy
  framework_eq : final.framework = framework
  verdicts : talk.verdicts = [⟨policy, [("compliance", .text framework)], reply⟩]
  requirements : final.requirements = talk.retrieved
  compliant : final.verdict = "compliant" ↔ ∃ review, reply = .ok review ∧ review.passed = true ∧
    ∀ requirement ∈ talk.retrieved, requirementCovered requirement policy = true
  gapless : final.verdict = "compliant" ↔ final.gaps = []
  recommendations : final.verdict ≠ "compliant" →
    final.recommendations = final.gaps.map ("Resolve: " ++ ·) ++ advice reply
  trail : ∃ validation now,
    final.auditTrail = validation ++
      [auditEntry now "completed"
        [("framework", .text final.framework), ("verdict", .text final.verdict),
          ("gaps", .int final.gaps.length)]] ∧
    (∀ failure, reply = .error failure → validation = []) ∧
    ∀ review, reply = .ok review → ∃ earlier, validation =
      [auditEntry earlier "validated"
        [("verdict", .text final.verdict),
          ("issues", .int (combinedReview final review).issues.length)]]

structure Unexamined (examined : ComplianceCase) : Prop where
  verdict : examined.verdict = "pending"
  validation : examined.validation = none
  gaps : examined.gaps = []
  auditTrail : examined.auditTrail = []

inductive Heard (examined : ComplianceCase) : Fallible Review → ComplianceCase → Prop
  | unreviewed (failure : Failure) : Heard examined (.error failure) examined
  | reviewed {review : Review} {verdict : Verdict} (now : Instant)
      (decides : decided examined review = .ok verdict) :
      Heard examined (.ok review) (withVerdict examined review verdict now)

theorem Retrieval.said {examined : ComplianceCase} {talk : Talk} {requirements : List String}
    (retrieval : Retrieval examined talk requirements) :
    talk.verdicts = [] ∧ talk.retrieved = requirements := by
  cases retrieval with
  | skipped => exact ⟨rfl, rfl⟩
  | answered facts => exact ⟨rfl, List.append_nil _⟩
  | failed => exact ⟨rfl, rfl⟩

theorem gaps_withGaps_ne_nil (examined : ComplianceCase) : (withGaps examined).gaps ≠ [] := by
  simp only [withGaps]
  split
  · exact List.cons_ne_nil _ _
  · next some => simpa using some

section

variable {policyId policy framework : String} {talk : Talk} {before examined : ComplianceCase}
  {reply : Fallible Review}

theorem Heard.of_yields {outcome : Fallible ComplianceCase} (holdable : Holdable talk)
    (yields : Stage.Yields before .validate talk outcome) :
    ∃ reply,
      talk.verdicts = [⟨before.policy, [("compliance", .text before.framework)], reply⟩] ∧
      talk.retrieved = [] ∧ Heard before reply (outcome.toOption.getD before) := by
  cases yields with
  | unreviewed failure => exact ⟨.error failure, rfl, rfl, .unreviewed failure⟩
  | undecided review failure fails =>
      obtain ⟨verdict, decides⟩ : ∃ verdict, decided before review = .ok verdict :=
        exists_decided (holdable _ _ review List.mem_cons_self)
      rw [fails] at decides
      cases decides
  | reviewed review verdict now decides => exact ⟨.ok review, rfl, rfl, .reviewed now decides⟩

theorem Reviewed.heard (holdable : Holdable talk)
    (reviewed : Reviewed policyId policy framework talk examined) :
    ∃ reply,
      talk.verdicts = [⟨policy, [("compliance", .text framework)], reply⟩] ∧
      Heard (prepared policyId policy framework talk.retrieved) reply examined := by
  obtain ⟨retrieval, yields⟩ := reviewed
  obtain ⟨unheard, rfl⟩ := retrieval.said
  obtain ⟨reply, verdicts, unasked, heard⟩ := Heard.of_yields holdable.right yields
  refine ⟨reply, ?_, ?_⟩
  · rw [Talk.verdicts_append, unheard]
    exact verdicts
  · rw [Talk.retrieved_append, unasked, List.append_nil]
    exact heard

theorem Heard.compliant_iff (unexamined : Unexamined before) (heard : Heard before reply examined) :
    examined.verdict = "compliant" ↔ ∃ review, reply = .ok review ∧ review.passed = true ∧
      ∀ requirement ∈ before.requirements,
        requirementCovered requirement before.policy = true := by
  cases heard with
  | unreviewed failure =>
      rw [unexamined.verdict]
      exact iff_of_false (by decide) nofun
  | @reviewed review verdict now decides =>
      refine (text_eq_compliant_iff.trans (decided_eq_compliant_iff decides)).trans ?_
      exact ⟨fun holds => ⟨review, rfl, holds⟩, fun ⟨_, same, holds⟩ => by cases same; exact holds⟩

theorem Heard.trail (unexamined : Unexamined before) (heard : Heard before reply examined) :
    (∀ failure, reply = .error failure → examined.auditTrail = []) ∧
    ∀ review, reply = .ok review → ∃ now, examined.auditTrail =
      [auditEntry now "validated"
        [("verdict", .text examined.verdict),
          ("issues", .int (combinedReview examined review).issues.length)]] := by
  cases heard with
  | unreviewed failure => exact ⟨fun _ _ => unexamined.auditTrail, nofun⟩
  | @reviewed review verdict now decides =>
      refine ⟨nofun, fun _ same => ⟨now, ?_⟩⟩
      cases same
      have entered : (withVerdict before review verdict now).auditTrail =
          before.auditTrail ++ [auditEntry now "validated"
            [("verdict", .text verdict.text),
              ("issues", .int (combinedReview before review).issues.length)]] := rfl
      rw [entered, unexamined.auditTrail]
      rfl

theorem Heard.gaps_eq (unexamined : Unexamined before) (heard : Heard before reply examined) :
    examined.gaps = [] := by
  cases heard <;> exact unexamined.gaps

theorem Heard.recommendations (unexamined : Unexamined before)
    (heard : Heard before reply examined) :
    (examined.validation.map (·.recommendations)).getD [] = advice reply := by
  cases heard with
  | unreviewed failure => rw [unexamined.validation]; rfl
  | reviewed => rfl

/-- A case that is closed after its review tells one story, with or without gaps. -/
theorem Heard.account {gaps recommendations : List String} (unexamined : Unexamined before)
    (heard : Heard before reply examined)
    (verdicts : talk.verdicts =
      [⟨before.policy, [("compliance", .text before.framework)], reply⟩])
    (requirements : before.requirements = talk.retrieved)
    (gapless : examined.verdict = "compliant" ↔ gaps = [])
    (advised : examined.verdict ≠ "compliant" →
      recommendations = gaps.map ("Resolve: " ++ ·) ++ advice reply) (now : Instant) :
    Account before.policy before.framework talk reply
      (closed { examined with gaps, recommendations } now) := by
  have kept : examined.policy = before.policy ∧ examined.framework = before.framework ∧
      examined.requirements = before.requirements := by
    cases heard <;> exact ⟨rfl, rfl, rfl⟩
  obtain ⟨samePolicy, sameFramework, sameRequirements⟩ := kept
  have compliant := heard.compliant_iff unexamined
  exact {
    status := rfl
    policy_eq := samePolicy
    framework_eq := sameFramework
    verdicts := verdicts
    requirements := sameRequirements.trans requirements
    compliant := requirements ▸ compliant
    gapless := gapless
    recommendations := advised
    trail := ⟨examined.auditTrail, now, rfl, heard.trail unexamined⟩ }

theorem unexamined_prepared (requirements : List String) :
    Unexamined (prepared policyId policy framework requirements) :=
  ⟨rfl, rfl, rfl, rfl⟩

theorem Reached.account (holdable : Holdable talk)
    (reached : Reached policyId policy framework .close talk examined) (now : Instant) :
    ∃ reply, Account policy framework (talk ++ [⟨.act .now, now⟩]) reply (closed examined now) := by
  have verdicts : Talk.verdicts (talk ++ [⟨.act .now, now⟩]) = talk.verdicts :=
    (Talk.verdicts_append ..).trans (List.append_nil _)
  have retrieved : Talk.retrieved (talk ++ [⟨.act .now, now⟩]) = talk.retrieved :=
    (Talk.retrieved_append ..).trans (List.append_nil _)
  have unexamined : Unexamined (prepared policyId policy framework talk.retrieved) :=
    unexamined_prepared _
  cases reached with
  | compliant reviewed compliant =>
      obtain ⟨reply, asked, heard⟩ := reviewed.heard holdable
      exact ⟨reply, heard.account unexamined (verdicts.trans asked) retrieved.symm
        (iff_of_true compliant (heard.gaps_eq unexamined))
        (fun short => absurd compliant short) now⟩
  | @advised _ before reviewed short =>
      obtain ⟨reply, asked, heard⟩ := reviewed.heard holdable
      have advice : (withRecommendations (withGaps before)).recommendations =
          (withGaps before).gaps.map ("Resolve: " ++ ·) ++ advice reply :=
        congrArg (_ ++ ·) (heard.recommendations unexamined)
      exact ⟨reply, heard.account unexamined (verdicts.trans asked) retrieved.symm
        (iff_of_false short (gaps_withGaps_ne_nil before)) (fun _ => advice) now⟩

end

theorem Stage.eq_close {stage : Stage} {state : State} (stops : stage.next state = none) :
    stage = .close := by
  cases stage with
  | close => rfl
  | identify | validate =>
      simp only [Stage.next] at stops
      split at stops <;> cases stops
  | _ => cases stops

/-- An examination takes six steps at most and comes to an end. Unless it is cancelled, or a service
fails in a way that ends the step, it completes with a case that tells one story. -/
theorem examination_accounted {tag : Nat} {graph : Definition}
    (isGraph : ComplianceValidation.graph tag = .ok graph) (policyId policy framework : String)
    (ceiling : Int) :
    let start := Run.create graph ceiling (initial policyId policy framework)
    (∀ talk trace run, start.Dialogue talk trace run → (stepsIn trace).length ≤ 6) ∧
    (¬ ∃ runs : Nat → Run, runs 0 = start ∧
      ∀ k, ∃ events, (runs k).Advances events (runs (k + 1))) ∧
    (∀ solo : Solo, solo.run = start →
      ∃ moves after ending, solo.finish moves = (after, some ending)) ∧
    ∀ talk trace run circumstances last ending, start.Dialogue talk trace run →
      Harmless talk → Holdable talk → circumstances.admitted = true →
      circumstances.cancelled = false → run.move circumstances = .over last ending →
        ending = .completed "generate_audit_trail" ∧ ∃ final reply,
          last.state.data = .payload (.compliance final) ∧
            Account policy (normaliseFramework framework).text talk reply final := by
  cases (graph_eq tag).symm.trans isGraph
  intro start
  have carries : chart.Carries (initial policyId policy framework)
      (submitted policyId policy framework) := rfl
  obtain ⟨endless, finishes⟩ := (modest_definition tag).comes_to_end ceiling
    (initial policyId policy framework)
  refine ⟨fun talk trace run dialogue =>
    (maps_definition tag).bounded descends_chart carries dialogue, endless, finishes, ?_⟩
  intro talk trace run circumstances last ending dialogue harmless holdable admitted live isOver
  obtain ⟨step, rfl, ends⟩ := (maps_definition tag).ends_of_over descends_chart
    (wellFormed_definition tag) (modest_definition tag) (fun _ _ _ => False)
    (ponders_definition tag) carries (by decide : (0 : Int) + (5 + 1 : Nat) < 10) dialogue harmless
    (fun _ _ => id) admitted live isOver
  generalize stepsIn trace = steps at ends
  generalize last.state = after at ends ⊢
  cases ends with
  | @mk talk words _ _ _ stage way takes stops =>
      cases Stage.eq_close stops
      rcases reached_of_way way with ⟨atFirst, -⟩ | ⟨examined, carries, reached⟩
      · cases atFirst
      · obtain ⟨_, yields, carried⟩ := (maps_definition tag).left carries takes
        cases yields with
        | close now =>
            obtain ⟨reply, account⟩ := reached.account holdable.left now
            exact ⟨rfl, _, reply, carried, account⟩

def unheard : Solo where
  run := .create (definition 0) defaultCeiling (initial "p" "passwords" "nist")
  admitted := true
  services :=
    { knowledge := .scripted [("compliance", ⟨[.ok [("requirements", ["audit trails"])]]⟩)]
      drafting := .scripted ⟨[]⟩
      reviewing := .scripted ⟨[]⟩ }

theorem answer_unheard (inquiry : Inquiry) :
    (unheard.services.answer inquiry).2 = unheard.services ∧
      ∀ failure, (unheard.services.answer inquiry).1 = .error failure →
        PolicyGeneration.Ordinary failure :=
  Services.answer_knowing (fun _ fails => by cases fails) inquiry

theorem examination_accounted_unheard :
    ∃ talk trace run last circumstances,
      unheard.run.Dialogue talk trace run ∧ Harmless talk ∧ Holdable talk ∧
      (stepsIn trace).length ≤ 6 ∧
      run.move circumstances = .over last (.completed "generate_audit_trail") ∧
      ∃ final reply, last.state.data = .payload (.compliance final) ∧
        Account "passwords" "NIST" talk reply final ∧ final.verdict = "pending" ∧
          final.recommendations = ["Resolve: policy does not satisfy NIST"] := by
  have ending : (unheard.finish 60).2 = some (.completed "generate_audit_trail") := rfl
  have result : (unheard.finish 60).1.run.state.data.compliance?.map
      (fun final => (final.verdict, final.recommendations)) =
        some ("pending", ["Resolve: policy does not satisfy NIST"]) := rfl
  obtain ⟨_, solo, comes, isOver⟩ := Solo.comes_of_finish (Prod.ext rfl ending)
  obtain ⟨-, admitted, free⟩ := comes.keeps rfl
  obtain ⟨talk, trace, dialogue, -, -, answers⟩ := comes.dialogue
  obtain ⟨-, answer⟩ := answers fun inquiry => (answer_unheard inquiry).1
  have isOver := (Solo.over_of_advance isOver).1
  have harmless : Harmless talk := fun inquiry failure member =>
    (answer_unheard inquiry).2 failure (answer _ _ member).symm
  have holdable : Holdable talk := fun content requirements review member =>
    nomatch (answer (.review content requirements) (.ok review) member)
  obtain ⟨bounded, -, -, accounted⟩ :=
    examination_accounted (graph_eq 0) "p" "passwords" "nist" defaultCeiling
  obtain ⟨-, final, reply, carries, account⟩ := accounted talk trace _ _ _ _ dialogue harmless
    holdable admitted (by rw [Solo.cancelled, free]; rfl) isOver
  rw [carries] at result
  obtain ⟨verdict, recommendations⟩ := Prod.mk.inj (Option.some.inj result)
  exact ⟨talk, trace, _, _, _, dialogue, harmless, holdable, bounded talk trace _ dialogue, isOver,
    final, reply, carries, account, verdict, recommendations⟩

end ComplianceValidation

end StepGraph
