import StepGraph.Proofs.Policy.Verdict

/-! Two runs on one request, side by side. As long as whoever is asked has the same to say to both,
drafts aside, the runs take the same steps and keep the same request but for its drafts: no step and
no decision looks at a draft, except for whether it is blank. -/

namespace StepGraph

inductive Fallible.Agree {α β : Type} (same : α → β → Prop) : Fallible α → Fallible β → Prop
  | ok {value : α} {other : β} (values : same value other) : Agree same (.ok value) (.ok other)
  | error (failure : Failure) : Agree same (.error failure) (.error failure)

theorem Fallible.agree_map {α β : Type} {same : β → β → Prop} {f g : α → β}
    (values : ∀ value, same (f value) (g value)) (result : Fallible α) :
    Fallible.Agree same (result.map f) (result.map g) := by
  cases result with
  | ok value => exact .ok (values value)
  | error failure => exact .error failure

/-! ### Who is asked -/

inductive Inquiry.Kind where
  | facts
  | draft
  | review
deriving DecidableEq

def Inquiry.kind : Inquiry → Inquiry.Kind
  | .facts .. => .facts
  | .draft _ => .draft
  | .review .. => .review

def Effect.kind? : Effect → Option Inquiry.Kind
  | .consult inquiry => some inquiry.kind
  | _ => none

namespace Talk

def kinds (talk : Talk) : List (Option Inquiry.Kind) :=
  talk.map (·.1.kind?)

@[simp] theorem kinds_append (talk words : Talk) :
    Talk.kinds (talk ++ words) = talk.kinds ++ words.kinds :=
  List.map_append

/-- Two talks in which the services, after they have been asked in the same order, have the same to
say, drafts up to a relation. -/
structure Concord (same : String → String → Prop) (talk other : Talk) : Prop where
  facts : ∀ {said words later rest : Talk} {domain params} {reply reply' : Fallible Facts},
    talk = said ++ ⟨.consult (.facts domain params), reply⟩ :: later →
    other = words ++ ⟨.consult (.facts domain params), reply'⟩ :: rest →
    said.kinds = words.kinds → reply = reply'
  drafts : ∀ {said words later rest : Talk} {state state' : State} {reply reply' : Fallible String},
    talk = said ++ ⟨.consult (.draft state), reply⟩ :: later →
    other = words ++ ⟨.consult (.draft state'), reply'⟩ :: rest →
    said.kinds = words.kinds → Fallible.Agree same reply reply'
  reviews : ∀ {said words later rest : Talk} {content content' requirements}
    {reply reply' : Fallible Review},
    talk = said ++ ⟨.consult (.review content requirements), reply⟩ :: later →
    other = words ++ ⟨.consult (.review content' requirements), reply'⟩ :: rest →
    said.kinds = words.kinds → reply = reply'

theorem Concord.left {same : String → String → Prop} {talk words other more : Talk}
    (concord : Concord same (talk ++ words) (other ++ more)) : Concord same talk other where
  facts here there := concord.facts (by rw [here, List.append_assoc]; rfl)
    (by rw [there, List.append_assoc]; rfl)
  drafts here there := concord.drafts (by rw [here, List.append_assoc]; rfl)
    (by rw [there, List.append_assoc]; rfl)
  reviews here there := concord.reviews (by rw [here, List.append_assoc]; rfl)
    (by rw [there, List.append_assoc]; rfl)

end Talk

open Talk (Concord)

namespace PolicyGeneration

/-! ### Twins -/

inductive Twin (same : String → String → Prop) (request : PolicyRequest) : PolicyRequest → Prop
  | mk {draft : String} {reviewed : Option String} (drafts : same request.policyDraft draft)
      (reviews : Option.Rel same request.validatedDraft reviewed) :
      Twin same request { request with policyDraft := draft, validatedDraft := reviewed }

/-- States that carry the same request but for its drafts, and on which the same has been noted. -/
inductive Twins (same : String → String → Prop) (state other : State) : Prop
  | mk {request twin : PolicyRequest} (carries : state.data = .payload (.policy request))
      (carried : other.data = .payload (.policy twin)) (requests : Twin same request twin)
      (messages : state.errors.map (·.message) = other.errors.map (·.message))
      (counts : state.iterationCount = other.iterationCount)

variable {same : String → String → Prop} {request twin : PolicyRequest}
  {state state' after after' : State} {talk other words words' : Talk}

theorem analyzed_twin (requests : Twin same request twin) :
    Fallible.Agree (Twin same) (analyzed request) (analyzed twin) := by
  obtain ⟨drafts, reviews⟩ := requests
  unfold analyzed
  dsimp only
  cases complianceComplexity (compliance request.requirements) with
  | ok framework => exact .ok (.mk drafts reviews)
  | error failure => exact .error failure

theorem assessed_twin (requests : Twin same request twin) :
    Fallible.Agree (Twin same) (assessed request) (assessed twin) := by
  obtain ⟨drafts, reviews⟩ := requests
  unfold assessed
  dsimp only
  cases riskLevel request.service request.requirements with
  | ok level => exact .ok (.mk drafts reviews)
  | error failure => exact .error failure

theorem finalized_twin (requests : Twin same request twin) :
    Twin same (finalized request) (finalized twin) := by
  obtain ⟨drafts, reviews⟩ := requests
  unfold finalized
  dsimp only
  split <;> exact .mk drafts reviews

theorem Stage.Yields.agree {stage : Stage} {outcome outcome' : Fallible PolicyRequest}
    (requests : Twin same request twin) (level : talk.kinds = other.kinds)
    (concord : Concord same (talk ++ words) (other ++ words'))
    (yields : stage.Yields state request words outcome)
    (yields' : stage.Yields state' twin words' outcome') :
    words.kinds = words'.kinds ∧ Fallible.Agree (Twin same) outcome outcome' := by
  cases yields with
  | analyze =>
      cases yields'
      exact ⟨rfl, analyzed_twin requests⟩
  | assess =>
      cases yields'
      exact ⟨rfl, assessed_twin requests⟩
  | finalize =>
      cases yields'
      exact ⟨rfl, .ok (finalized_twin requests)⟩
  | refine =>
      cases yields'
      obtain ⟨drafts, reviews⟩ := requests
      exact ⟨rfl, .ok (.mk drafts reviews)⟩
  | retrieve reply =>
      obtain ⟨drafts, reviews⟩ := requests
      cases yields' with
      | retrieve reply' =>
          cases concord.facts rfl rfl level
          exact ⟨rfl, Fallible.agree_map (fun _ => .mk drafts reviews) reply⟩
  | threats reply =>
      obtain ⟨drafts, reviews⟩ := requests
      cases yields' with
      | threats reply' =>
          cases concord.facts rfl rfl level
          exact ⟨rfl, Fallible.agree_map (fun _ => .mk drafts reviews) reply⟩
  | compliance reply =>
      obtain ⟨drafts, reviews⟩ := requests
      cases yields' with
      | compliance reply' =>
          cases concord.facts rfl rfl level
          exact ⟨rfl, Fallible.agree_map (fun _ => .mk drafts reviews) reply⟩
  | security reply =>
      obtain ⟨drafts, reviews⟩ := requests
      cases yields' with
      | security reply' =>
          cases concord.facts rfl rfl level
          exact ⟨rfl, Fallible.agree_map (fun _ => .mk drafts reviews) reply⟩
  | generate reply =>
      obtain ⟨drafts, reviews⟩ := requests
      cases yields' with
      | generate reply' =>
          -- The one place where the drafts come apart.
          cases concord.drafts rfl rfl level with
          | ok texts => exact ⟨rfl, .ok (.mk texts reviews)⟩
          | error failure => exact ⟨rfl, .error failure⟩
  | validate reply =>
      obtain ⟨drafts, reviews⟩ := requests
      cases yields' with
      | validate reply' =>
          cases concord.reviews rfl rfl level
          exact ⟨rfl, Fallible.agree_map (fun _ => .mk drafts (.some drafts)) reply⟩

theorem Stage.Takes.twins {stage : Stage} (twins : Twins same state state')
    (level : talk.kinds = other.kinds) (concord : Concord same (talk ++ words) (other ++ words'))
    (takes : stage.Takes state words after) (takes' : stage.Takes state' words' after') :
    words.kinds = words'.kinds ∧ Twins same after after' := by
  obtain ⟨carries, carried, requests, messages, counts⟩ := twins
  obtain ⟨sameRequest, yields, leaves⟩ := takes
  obtain ⟨sameTwin, yields', leaves'⟩ := takes'
  cases carries.symm.trans sameRequest
  cases carried.symm.trans sameTwin
  obtain ⟨asked, outcomes⟩ := yields.agree requests level concord yields'
  refine ⟨asked, ?_⟩
  have more : state.counted.iterationCount = state'.counted.iterationCount := by
    simp only [State.iterationCount_counted, counts]
  cases outcomes with
  | ok requests =>
      cases leaves
      cases leaves'
      exact .mk rfl rfl requests messages more
  | error failure =>
      cases leaves
      cases leaves'
      refine .mk carries carried requests ?_ more
      simp only [State.errors_addError, List.map_append, State.errors_counted, messages,
        List.map_cons, List.map_nil]

/-! ### Decisions -/

def KeepsBlanks (same : String → String → Prop) : Prop :=
  ∀ draft other, same draft other → (draft = "" ↔ other = "")

theorem routeAfterGeneration_of_open (carries : state.data = .payload (.policy request))
    (isOpen : approved request = false) :
    routeAfterGeneration state =
      if request.policyDraft = "" then .needsRefinement else .needsValidation := by
  unfold routeAfterGeneration
  rw [carries]
  simp only [Data.policy?, String.isEmpty_iff]
  split
  · rfl
  · unfold approved at isOpen
    cases hvalidation : request.validation with
    | none => rfl
    | some review =>
        rw [hvalidation] at isOpen
        have failed : review.passed = false := isOpen
        simp only [failed, Bool.false_and, Bool.false_eq_true, if_false]

/-- Where no draft has been approved, both runs go on at the same position. -/
theorem Position.next_twins {position : Position} (blanks : KeepsBlanks same)
    (twins : Twins same state state')
    (isOpen : position = .generation →
      ∀ request, state.data = .payload (.policy request) → approved request = false) :
    position.next state = position.next state' := by
  obtain ⟨carries, carried, ⟨drafts, reviews⟩, messages, -⟩ := twins
  have errors : state.errors.length = state'.errors.length := by
    simpa using congrArg List.length messages
  cases position with
  | analysis => simp only [next, routeOnComplexity, carries, carried, Data.policy?]
  | assessment => simp only [next, routeOnRisk, carries, carried, Data.policy?]
  | generation =>
      have isOpen := isOpen rfl _ carries
      simp only [next, routeAfterGeneration_of_open carries isOpen,
        routeAfterGeneration_of_open carried isOpen, blanks _ _ drafts]
  | validation => simp only [next, routeAfterValidation, carries, carried, Data.policy?]
  | refinement => simp only [next, routeAfterRefinement, carries, carried, Data.policy?, errors]
  | _ => rfl

theorem Way.open_of_generates {name : String} {requirements : Entries} {bound : Int}
    {steps : List String} {position : Position}
    (way : Way (initial name requirements bound) talk steps state position)
    (takes : position.stage.Takes state words after) (isGeneration : position = .generation)
    (request : PolicyRequest) (carries : after.data = .payload (.policy request)) :
    approved request = false := by
  subst isGeneration
  obtain ⟨current, carried, sound⟩ := way.sound
  have isOpen := sound.not_approved (by decide)
  obtain ⟨sameRequest, yields, leaves⟩ := takes
  cases carried.symm.trans sameRequest
  cases leaves with
  | updated updated =>
      cases carries
      rw [approved, ((yields.frame rfl).2.2 (by decide)).1]
      exact isOpen
  | recorded =>
      cases carried.symm.trans carries
      exact isOpen

/-! ### Ways -/

section

variable {name : String} {requirements : Entries} {bound : Int} {steps steps' : List String}
  {position position' : Position}

theorem twins_initial (blank : same "" "") :
    Twins same (initial name requirements bound) (initial name requirements bound) :=
  .mk rfl rfl (.mk blank .none) rfl rfl

/-- Two ways of one length come to one position, with twin states. -/
theorem Way.lockstep (blanks : KeepsBlanks same) (blank : same "" "")
    (concord : Concord same talk other)
    (way : Way (initial name requirements bound) talk steps state position)
    (way' : Way (initial name requirements bound) other steps' state' position')
    (length : steps.length = steps'.length) :
    position = position' ∧ talk.kinds = other.kinds ∧ Twins same state state' := by
  induction way generalizing other steps' state' position' with
  | start =>
      cases way' with
      | start => exact ⟨rfl, rfl, twins_initial blank⟩
      | onward => simp at length
  | onward way below takes goes ih =>
      cases way' with
      | start => simp at length
      | onward way' below' takes' goes' =>
          obtain ⟨rfl, level, twins⟩ := ih concord.left way' (by simpa using length)
          obtain ⟨asked, twins⟩ := takes.twins twins level concord takes'
          have onward := Position.next_twins blanks twins (way.open_of_generates takes)
          rw [goes, goes'] at onward
          exact ⟨Option.some.inj onward, by rw [Talk.kinds_append, Talk.kinds_append, level, asked],
            twins⟩

/-- Where one way is shorter than the other, the other goes on from its end. -/
theorem Way.overtaken (blanks : KeepsBlanks same) (blank : same "" "")
    (concord : Concord same talk other)
    (way : Way (initial name requirements bound) talk steps state position)
    (way' : Way (initial name requirements bound) other steps' state' position')
    (shorter : steps.length < steps'.length) :
    ∃ said words rest between after next, other = said ++ words ++ rest ∧
      talk.kinds = said.kinds ∧ Twins same state between ∧ between.iterationCount < 25 ∧
      position.stage.Takes between words after ∧ position.next after = some next := by
  induction way' with
  | start => exact absurd shorter (Nat.not_lt_zero _)
  | @onward said words steps' _ _ _ next way' below takes goes ih =>
      rw [List.length_append, List.length_singleton, Nat.lt_succ_iff_lt_or_eq] at shorter
      have further : Concord same (talk ++ []) (said ++ words) := by rwa [List.append_nil]
      rcases shorter with shorter | level
      · obtain ⟨said, between, rest, _, _, _, rfl, there⟩ := ih further.left shorter
        exact ⟨said, between, rest ++ words, _, _, _, by rw [List.append_assoc], there⟩
      · obtain ⟨rfl, asked, twins⟩ := way.lockstep blanks blank further.left way' level
        exact ⟨said, words, [], _, _, next, (List.append_nil _).symm, asked, twins, below, takes,
          goes⟩

end

end PolicyGeneration

end StepGraph
