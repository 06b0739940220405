import StepGraph.Proofs.Policy.Lockstep

namespace StepGraph

/-! ### Adding what is new -/

section

variable {known : List String}

theorem mergeNew_concat (known items : List String) (item : String) :
    mergeNew known (items ++ [item]) =
      if item ∈ mergeNew known items then mergeNew known items
      else mergeNew known items ++ [item] := by
  simp only [mergeNew, List.foldl_append, List.foldl_cons, List.foldl_nil, List.contains_iff_mem]

theorem prefix_mergeNew (known items : List String) : known <+: mergeNew known items := by
  induction items using List.reverseRecOn with
  | nil => exact List.prefix_rfl
  | append_singleton items item ih =>
      rw [mergeNew_concat]
      split
      · exact ih
      · exact ih.trans (List.prefix_append _ _)

theorem nodup_mergeNew (distinct : known.Nodup) (items : List String) :
    (mergeNew known items).Nodup := by
  induction items using List.reverseRecOn with
  | nil => exact distinct
  | append_singleton items item ih =>
      rw [mergeNew_concat]
      split
      · exact ih
      · next fresh => exact List.concat_eq_append ▸ ih.concat fresh

theorem mem_mergeNew {items : List String} {item : String} (member : item ∈ items) :
    item ∈ mergeNew known items := by
  induction items using List.reverseRecOn with
  | nil => cases member
  | append_singleton items last ih =>
      rw [mergeNew_concat]
      rcases List.mem_append.mp member with earlier | isLast
      · split
        · exact ih earlier
        · exact List.mem_append_left _ (ih earlier)
      · cases List.mem_singleton.mp isLast
        split
        · next known => exact known
        · exact List.mem_append_right _ (List.mem_singleton_self _)

end

/-! ### Between two steps -/

/-- No step is under way: none has been started yet, or the one that was started last has come
back. -/
def Phase.Settled : Phase → Prop
  | .inside _ _ (.done _) => True
  | .inside _ _ (.fail _) => True
  | .inside .. => False
  | _ => True

theorem Phase.Settled.back {spec : StepSpec} {rest : List String} {program : Step}
    (settled : (Phase.inside spec rest program).Settled) :
    ∃ result, program = Program.lift result := by
  cases program with
  | done value => exact ⟨.ok value, rfl⟩
  | fail failure => exact ⟨.error failure, rfl⟩
  | _ => exact settled.elim

theorem Phase.settled_lift (spec : StepSpec) (rest : List String) (result : Fallible StepReturn) :
    (Phase.inside spec rest (Program.lift result)).Settled := by
  cases result <;> trivial

namespace Run

variable {run last later : Run} {circumstances : Circumstances} {ending : Ending}

theorem settled_of_over (isOver : run.move circumstances = .over last ending) :
    run.phase.Settled ∧ last.state.data = run.state.data := by
  have settled_of_settles {spec : StepSpec} {rest : List String} {program : Step} {settled : Run}
      (phase : run.phase = .inside spec rest program)
      (settles : run.Settles circumstances.now spec program settled) :
      run.phase.Settled ∧ settled.state.data = run.state.data := by
    obtain ⟨result, back, -⟩ := settles.leaves
    refine ⟨?_, by cases settles <;> rfl⟩
    rw [phase, back]
    exact Phase.settled_lift spec rest result
  cases stops_of_move isOver with
  | fatal phase fails =>
      obtain ⟨result, rfl⟩ := exists_lift_of_failure? fails
      exact ⟨phase ▸ Phase.settled_lift _ _ result, rfl⟩
  | cancelledAfter phase settles => exact settled_of_settles phase settles
  | completed phase settles => exact settled_of_settles phase settles
  | deadEnd phase settles => exact settled_of_settles phase settles
  | refused phase => exact ⟨phase ▸ trivial, rfl⟩
  | ceiling phase => exact ⟨phase ▸ trivial, rfl⟩
  | cancelledBefore phase => exact ⟨phase ▸ trivial, rfl⟩
  | undeclared phase => exact ⟨phase ▸ trivial, rfl⟩
  | interrupted phase => exact ⟨phase ▸ trivial, rfl⟩
  | routerInterrupted phase => exact ⟨phase ▸ trivial, rfl⟩
  | routerFailed phase => exact ⟨phase ▸ trivial, rfl⟩
  | noKey phase => exact ⟨phase ▸ trivial, rfl⟩
  | unmapped phase => exact ⟨phase ▸ trivial, rfl⟩
  | concluded phase => exact ⟨phase ▸ trivial, rfl⟩

theorem Dialogue.append {first : Run} {talk words : Talk} {trace events : List Event}
    (dialogue : first.Dialogue talk trace run) (onward : run.Dialogue words events later) :
    first.Dialogue (talk ++ words) (trace ++ events) later := by
  induction onward with
  | start =>
      rw [List.append_nil, List.append_nil]
      exact dialogue
  | go _ circumstances moved ih =>
      rw [← List.append_assoc]
      exact ih.go circumstances moved
  | ask _ circumstances asked reply ih =>
      rw [← List.append_assoc]
      exact ih.ask circumstances asked reply

end Run

theorem Router.gives_of_comesTo_decide {α : Type} [OutcomeFamily α] {choose : State → α}
    {program : Router} (comes : (Router.decide choose).ComesTo program) (state : State) :
    ∃ label, program.Gives state [] (.ok label) state := by
  have either : program = Router.decide choose ∨ ∃ label, program = .done label := by
    induction comes with
    | start => exact .inl rfl
    | read _ _ ih =>
        rcases ih with same | ⟨_, same⟩
        · cases same
          exact .inr ⟨_, rfl⟩
        · cases same
    | write _ ih => rcases ih with same | ⟨_, same⟩ <;> cases same
    | ask _ _ ih => rcases ih with same | ⟨_, same⟩ <;> cases same
  rcases either with rfl | ⟨label, rfl⟩
  · exact ⟨_, rfl, rfl, rfl⟩
  · exact ⟨label, rfl, rfl, rfl⟩

/-- The services know nothing twice: no category of any answer has a repetition. -/
def Talk.DistinctFacts (talk : Talk) : Prop :=
  ∀ domain params facts, ⟨.consult (.facts domain params), .ok facts⟩ ∈ talk →
    ∀ category, (Facts.of facts category).Nodup

theorem Talk.DistinctFacts.left {talk words : Talk} (given : Talk.DistinctFacts (talk ++ words)) :
    talk.DistinctFacts :=
  fun domain params facts member => given domain params facts (List.mem_append_left _ member)

theorem Talk.DistinctFacts.right {talk words : Talk} (given : Talk.DistinctFacts (talk ++ words)) :
    words.DistinctFacts :=
  fun domain params facts member => given domain params facts (List.mem_append_right _ member)

namespace PolicyGeneration

/-! ### The lists of a request -/

/-- Nothing is on a list twice. -/
structure Distinct (request : PolicyRequest) : Prop where
  threats : request.threatContext.Nodup
  compliance : request.complianceContext.Nodup
  practices : request.bestPractices.Nodup
  notes : request.refinementNotes.Nodup

/-- Whatever is on a list is still there later, in its place. -/
structure Grows (request later : PolicyRequest) : Prop where
  threats : request.threatContext <+: later.threatContext
  compliance : request.complianceContext <+: later.complianceContext
  practices : request.bestPractices <+: later.bestPractices
  notes : request.refinementNotes <+: later.refinementNotes

theorem grows_refl (request : PolicyRequest) : Grows request request :=
  ⟨List.prefix_rfl, List.prefix_rfl, List.prefix_rfl, List.prefix_rfl⟩

theorem Grows.trans {request between later : PolicyRequest} (first : Grows request between)
    (second : Grows between later) : Grows request later where
  threats := first.threats.trans second.threats
  compliance := first.compliance.trans second.compliance
  practices := first.practices.trans second.practices
  notes := first.notes.trans second.notes

def Noted (request : PolicyRequest) : Prop :=
  ∀ review, request.validation = some review →
    ∀ issue ∈ review.issues, "Address: " ++ issue ∈ request.refinementNotes

def kept (request : PolicyRequest) : Fallible PolicyRequest → PolicyRequest
  | .ok updated => updated
  | .error _ => request

variable {stage : Stage} {state : State} {request : PolicyRequest} {talk words : Talk}
  {outcome : Fallible PolicyRequest}

theorem noted_refined (request : PolicyRequest) : Noted (refined request) := by
  intro review isReview issue member
  refine mem_mergeNew ?_
  have isReview : request.validation = some review := isReview
  rw [isReview]
  exact List.mem_map_of_mem member

/-- To each list what is new has been added, if anything. -/
structure Adds (request updated : PolicyRequest) : Prop where
  threats : ∃ items, updated.threatContext = mergeNew request.threatContext items
  compliance : ∃ items, updated.complianceContext = mergeNew request.complianceContext items
  practices : ∃ items, updated.bestPractices = mergeNew request.bestPractices items
  notes : ∃ items, updated.refinementNotes = mergeNew request.refinementNotes items

namespace Adds

variable {updated : PolicyRequest}

theorem grows (adds : Adds request updated) : Grows request updated := by
  obtain ⟨⟨_, threats⟩, ⟨_, compliance⟩, ⟨_, practices⟩, ⟨_, notes⟩⟩ := adds
  refine ⟨?_, ?_, ?_, ?_⟩
  · exact threats ▸ prefix_mergeNew _ _
  · exact compliance ▸ prefix_mergeNew _ _
  · exact practices ▸ prefix_mergeNew _ _
  · exact notes ▸ prefix_mergeNew _ _

theorem distinct (adds : Adds request updated) (distinct : Distinct request) :
    Distinct updated := by
  obtain ⟨⟨_, threats⟩, ⟨_, compliance⟩, ⟨_, practices⟩, ⟨_, notes⟩⟩ := adds
  refine ⟨?_, ?_, ?_, ?_⟩
  · exact threats ▸ nodup_mergeNew distinct.threats _
  · exact compliance ▸ nodup_mergeNew distinct.compliance _
  · exact practices ▸ nodup_mergeNew distinct.practices _
  · exact notes ▸ nodup_mergeNew distinct.notes _

end Adds

/-- Only the retrieval of context takes anything off a list. -/
theorem Stage.Yields.adds (yields : stage.Yields state request words outcome)
    (further : stage ≠ .retrieve) : Adds request (kept request outcome) := by
  have same (known : List String) : ∃ items, known = mergeNew known items := ⟨[], rfl⟩
  have idle : Adds request request := ⟨same _, same _, same _, same _⟩
  cases yields with
  | analyze =>
      cases succeeds : analyzed request with
      | error => exact idle
      | ok updated =>
          obtain ⟨_, rfl⟩ := eq_of_analyzed succeeds
          exact ⟨same _, same _, same _, same _⟩
  | assess =>
      cases succeeds : assessed request with
      | error => exact idle
      | ok updated =>
          obtain ⟨_, rfl⟩ := eq_of_assessed succeeds
          exact ⟨same _, same _, same _, same _⟩
  | retrieve => contradiction
  | threats reply =>
      cases reply with
      | error => exact idle
      | ok facts => exact ⟨⟨_, rfl⟩, same _, same _, same _⟩
  | compliance reply =>
      cases reply with
      | error => exact idle
      | ok facts => exact ⟨same _, ⟨_, rfl⟩, same _, same _⟩
  | security reply =>
      cases reply with
      | error => exact idle
      | ok facts => exact ⟨same _, same _, ⟨_, rfl⟩, same _⟩
  | generate reply => cases reply <;> exact ⟨same _, same _, same _, same _⟩
  | validate reply => cases reply <;> exact ⟨same _, same _, same _, same _⟩
  | refine => exact ⟨same _, same _, same _, ⟨_, rfl⟩⟩
  | finalize =>
      change Adds request (finalized request)
      unfold finalized
      split <;> exact ⟨same _, same _, same _, same _⟩

theorem Stage.Yields.distinct (yields : stage.Yields state request words outcome)
    (distinct : Distinct request) (given : words.DistinctFacts) :
    Distinct (kept request outcome) := by
  by_cases isRetrieve : stage = .retrieve
  · subst isRetrieve
    cases yields with
    | retrieve reply =>
        cases reply with
        | error => exact distinct
        | ok facts =>
            have each := given _ _ facts List.mem_cons_self
            exact ⟨each _, each _, each _, distinct.notes⟩
  · exact (yields.adds isRetrieve).distinct distinct

/-! ### Between the steps -/

inductive Holds (first : State) : Talk → List String → PolicyRequest → Prop
  | start {request : PolicyRequest} (carries : first.data = .payload (.policy request)) :
      Holds first [] [] request
  | after {talk words : Talk} {steps : List String} {state : State} {position : Position}
      {request : PolicyRequest} {outcome : Fallible PolicyRequest}
      (way : Way first talk steps state position)
      (carries : state.data = .payload (.policy request))
      (yields : position.stage.Yields state.counted request words outcome) :
      Holds first (talk ++ words) (steps ++ [position.stage.name]) (kept request outcome)

theorem Stage.Takes.kept {after : State} (takes : stage.Takes state words after) :
    ∃ request outcome, state.data = .payload (.policy request) ∧
      stage.Yields state.counted request words outcome ∧
      after.data = .payload (.policy (kept request outcome)) := by
  obtain ⟨carries, yields, leaves⟩ := takes
  cases leaves with
  | updated => exact ⟨_, _, carries, yields, rfl⟩
  | recorded => exact ⟨_, _, carries, yields, carries⟩

variable {first : State} {steps : List String} {position : Position}

theorem Holds.last {step : String} (holds : Holds first talk (steps ++ [step]) request) :
    ∃ said words state, ∃ position : Position, ∃ current outcome, talk = said ++ words ∧
      step = position.stage.name ∧ Way first said steps state position ∧
      state.data = .payload (.policy current) ∧
      position.stage.Yields state.counted current words outcome ∧
      request = kept current outcome := by
  generalize same : steps ++ [step] = all at holds
  cases holds with
  | start => simp at same
  | after way carries yields =>
      obtain ⟨rfl, isStep⟩ := List.append_inj' same rfl
      exact ⟨_, _, _, _, _, _, rfl, (List.cons.inj isStep).1, way, carries, yields, rfl⟩

theorem Way.holds (carries : first.data = .payload (.policy request))
    (way : Way first talk steps state position) :
    ∃ current, state.data = .payload (.policy current) ∧ Holds first talk steps current := by
  cases way with
  | start => exact ⟨request, carries, .start carries⟩
  | onward way _ takes _ =>
      obtain ⟨_, _, carried, yields, left⟩ := takes.kept
      exact ⟨_, left, .after way carried yields⟩

theorem Way.Ends.holds {step : String} (ends : Way.Ends first talk steps state step) :
    ∃ current, state.data = .payload (.policy current) ∧ Holds first talk steps current := by
  cases ends with
  | completion way _ takes =>
      obtain ⟨_, _, carried, yields, left⟩ := takes.kept
      exact ⟨_, left, .after way carried yields⟩
  | refinement way _ takes =>
      obtain ⟨_, _, carried, yields, left⟩ := takes.kept
      exact ⟨_, left, .after way carried yields⟩

/-- A step that has come back leaves the request in the state, whether or not its failure is on
record by now. -/
theorem data_of_lands {result : Fallible StepReturn} {after : State}
    (carries : state.data = .payload (.policy request))
    (lands : PayloadLens.policy.Lands state outcome result after) :
    after.data = .payload (.policy (kept request outcome)) := by
  cases lands with
  | written => rfl
  | failed => exact carries

theorem gives_of_comesTo_decision {tag : Nat} {route : Route}
    (member : route ∈ (definition tag).routes) {program : Router}
    (comes : route.decision.ComesTo program) (state : State) :
    ∃ label, program.Gives state [] (.ok label) state := by
  simp only [definition, drawn, List.mem_cons, List.not_mem_nil, or_false] at member
  rcases member with rfl | rfl | rfl | rfl | rfl <;>
    exact Router.gives_of_comesTo_decide comes state

theorem holds_of_dialogue {tag : Nat} {ceiling : Int} {trace : List Event} {run : Run}
    (carries : first.data = .payload (.policy request))
    (dialogue : (runFrom tag ceiling first).Dialogue talk trace run)
    (settled : run.phase.Settled) :
    ∃ current, run.state.data = .payload (.policy current) ∧
      Holds first talk (stepsIn trace) current := by
  have underway := dialogue.underway rfl
  have course := dialogue.passage.course
  generalize run.state = state at underway
  generalize phase_eq : run.phase = phase at underway settled
  cases underway with
  | fresh => exact ⟨request, carries, .start carries⟩
  | between journey =>
      cases stands_of_journey carries journey with
      | between way => exact way.holds carries
      | ended ends => exact ends.holds
  | inside journey below found left =>
      obtain ⟨result, rfl⟩ := settled.back
      obtain ⟨position, _, way, carried, rfl, -⟩ := way_of_journey carries journey
      cases (Stage.step?_name tag position.stage).symm.trans found
      have counted := (State.data_counted _).trans carried
      obtain ⟨outcome, yields, lands⟩ := Stage.yields counted left.gives
      rw [stepsIn_append]
      exact ⟨_, data_of_lands counted lands, .after way carried yields⟩
  | adopted journey below found gives =>
      obtain ⟨position, _, way, carried, rfl, -⟩ := way_of_journey carries journey
      cases (Stage.step?_name tag position.stage).symm.trans found
      have counted := (State.data_counted _).trans carried
      obtain ⟨_, -, lands⟩ := Stage.yields counted gives
      cases lands
  | @routing _ words _ events _ between _ _ route deeds program journey takes inner routed left =>
      obtain ⟨position, _, way, carried, rfl, last⟩ := way_of_journey carries journey
      have onTrack := phase_eq ▸ course.onTrack (wellFormed_definition tag).toStructured
      obtain ⟨label, answers⟩ : ∃ label, program.Gives state [] (.ok label) state := by
        cases onTrack with
        | routing _ found comes =>
            exact gives_of_comesTo_decision (List.mem_of_find?_eq_some found) comes state
      obtain ⟨silent, rfl, -⟩ := Position.decides last.symm routed (left _ _ _ answers)
      cases (List.append_nil deeds).symm.trans silent
      obtain ⟨_, _, carried, yields, data⟩ := (Stage.takes_of_takes carried takes).kept
      rw [stepsIn_append, takes.stepsIn_eq, Talk.ofDeeds, List.map_nil, List.append_nil]
      exact ⟨_, data, .after way carried yields⟩

/-! ### One run at two moments -/

theorem concord_of_prefix {talk other whole : Talk} (here : talk <+: whole)
    (there : other <+: whole) : Talk.Concord Eq talk other := by
  obtain ⟨more, rfl⟩ := here
  obtain ⟨rest, there⟩ := there
  -- What is asked at one place of a talk is answered there once.
  have meet {said words later onward : Talk} {exchange reply : Exchange Effect.Reply}
      (split : talk = said ++ exchange :: later) (split' : other = words ++ reply :: onward)
      (level : said.kinds = words.kinds) : exchange = reply := by
    have length : words.length = said.length := by
      simpa [Talk.kinds] using congrArg List.length level.symm
    rw [split, split', List.append_assoc, List.append_assoc] at there
    exact (List.cons.inj (List.append_inj there length).2).1.symm
  constructor
  · intro said words later rest domain params reply reply' split split' level
    cases meet split split' level
    rfl
  · intro said words later rest state state' reply reply' split split' level
    cases meet split split' level
    cases reply with
    | ok text => exact .ok rfl
    | error failure => exact .error failure
  · intro said words later rest content content' requirements reply reply' split split' level
    cases meet split split' level
    rfl

theorem keepsBlanks_eq : KeepsBlanks Eq := by
  rintro draft _ rfl
  exact Iff.rfl

theorem eq_of_twin {twin : PolicyRequest} (requests : Twin Eq request twin) : request = twin := by
  obtain ⟨drafts, reviews⟩ := requests
  subst drafts
  generalize hreviewed : request.validatedDraft = reviewed at reviews
  cases reviews with
  | none => rw [← hreviewed]
  | some same => rw [← same, ← hreviewed]

section

variable {name : String} {requirements : Entries} {bound : Int} {other whole : Talk}
  {later : PolicyRequest} {more : List String}

/-- After the same steps of one run the request is the same. -/
theorem Holds.unique (here : talk <+: whole) (there : other <+: whole)
    (holds : Holds (initial name requirements bound) talk steps request)
    (holds' : Holds (initial name requirements bound) other steps later) : request = later := by
  have concord := concord_of_prefix here there
  cases holds with
  | start carries =>
      generalize none : ([] : List String) = steps at holds'
      cases holds' with
      | start carries' => cases carries.symm.trans carries'; rfl
      | after => simp at none
  | after way carries yields =>
      obtain ⟨_, _, _, _, _, _, rfl, -, way', carries', yields', rfl⟩ := holds'.last
      -- Two ways of one length through one talk are in lockstep, with nothing to tell them apart.
      obtain ⟨rfl, level, twins⟩ := way.lockstep keepsBlanks_eq rfl concord.left way' rfl
      obtain ⟨carried, carried', requests, -, -⟩ := twins
      cases carries.symm.trans carried
      cases carries'.symm.trans carried'
      obtain ⟨-, outcomes⟩ := yields.agree requests level concord yields'
      cases outcomes with
      | ok updated => exact eq_of_twin updated
      | error => exact eq_of_twin requests

theorem Holds.earlier
    (holds : Holds (initial name requirements bound) talk (steps ++ more) request) :
    ∃ said current, said <+: talk ∧ Holds (initial name requirements bound) said steps current := by
  induction more using List.reverseRecOn generalizing talk request with
  | nil =>
      rw [List.append_nil] at holds
      exact ⟨talk, request, List.prefix_rfl, holds⟩
  | append_singleton more step ih =>
      rw [← List.append_assoc] at holds
      obtain ⟨_, _, _, _, _, _, rfl, -, way, -⟩ := holds.last
      obtain ⟨_, -, holds⟩ := way.holds rfl
      obtain ⟨said, current, sooner, holds⟩ := ih holds
      exact ⟨said, current, sooner.trans (List.prefix_append _ _), holds⟩

/-- Nothing is lost between two moments of a run, unless the context is retrieved in between. -/
theorem Holds.grows (here : talk <+: whole) (there : other <+: whole)
    (holds : Holds (initial name requirements bound) talk steps request)
    (holds' : Holds (initial name requirements bound) other (steps ++ more) later)
    (further : "retrieve_context" ∉ more) : Grows request later := by
  induction more using List.reverseRecOn generalizing other later with
  | nil =>
      rw [List.append_nil] at holds'
      exact holds.unique here there holds' ▸ grows_refl request
  | append_singleton more step ih =>
      rw [← List.append_assoc] at holds'
      obtain ⟨_, _, _, position, _, _, rfl, rfl, way, carries, yields, rfl⟩ := holds'.last
      obtain ⟨_, carried, holds'⟩ := way.holds rfl
      cases carries.symm.trans carried
      have sooner := (List.prefix_append _ _).trans there
      have notRetrieve : position.stage ≠ .retrieve := by
        intro isRetrieve
        refine further (List.mem_append_right _ ?_)
        rw [isRetrieve]
        exact List.mem_singleton_self _
      exact (ih sooner holds' fun member => further (List.mem_append_left _ member)).trans
        (yields.adds notRetrieve).grows

theorem Way.steps_of_context (way : Way first talk steps state .context) :
    steps = ["analyze_requirements"] := by
  cases way with
  | onward way _ _ goes =>
      cases Position.goes_of_next goes with
      | complex =>
          cases way with
          | start => rfl
          | onward _ _ _ goes => cases Position.goes_of_next goes

theorem Holds.not_retrieved (assessed : "assess_risk" ∈ steps)
    (holds : Holds (initial name requirements bound) talk (steps ++ more) request) :
    "retrieve_context" ∉ more := by
  intro member
  obtain ⟨before, after, rfl⟩ := List.append_of_mem member
  have split : steps ++ (before ++ "retrieve_context" :: after) =
      (steps ++ before ++ ["retrieve_context"]) ++ after := by simp
  obtain ⟨_, _, -, holds⟩ := (split ▸ holds).earlier
  obtain ⟨_, _, _, position, _, _, rfl, isStep, way, -⟩ := holds.last
  have isContext : position = .context := by
    cases position <;> first | rfl | exact absurd isStep (by decide)
  subst isContext
  have only := way.steps_of_context
  have among : "assess_risk" ∈ ["analyze_requirements"] :=
    only ▸ List.mem_append_left _ assessed
  exact absurd among (by decide)

end

/-! ### The result -/

section

variable {name : String} {requirements : Entries} {bound : Int}

theorem Way.distinct (way : Way (initial name requirements bound) talk steps state position)
    (given : talk.DistinctFacts) :
    ∃ current, state.data = .payload (.policy current) ∧ Distinct current := by
  induction way with
  | start => exact ⟨_, rfl, .nil, .nil, .nil, .nil⟩
  | onward _ _ takes _ ih =>
      obtain ⟨_, carried, distinct⟩ := ih given.left
      obtain ⟨_, _, carries, yields, left⟩ := takes.kept
      cases carried.symm.trans carries
      exact ⟨_, left, yields.distinct distinct given.right⟩

theorem Holds.distinct (holds : Holds (initial name requirements bound) talk steps request)
    (given : talk.DistinctFacts) : Distinct request := by
  cases holds with
  | start carries =>
      cases carries
      exact ⟨.nil, .nil, .nil, .nil⟩
  | after way carries yields =>
      obtain ⟨_, carried, distinct⟩ := way.distinct given.left
      cases carries.symm.trans carried
      exact yields.distinct distinct given.right

end

theorem Holds.noted (holds : Holds first talk steps request)
    (refines : steps.getLast? = some "refine_policy") : Noted request := by
  cases holds with
  | start => cases refines
  | @after _ _ _ _ position request _ _ _ yields =>
      rw [List.getLast?_concat] at refines
      have isRefinement : position = .refinement := by
        cases position <;> first | rfl | exact absurd refines (by decide)
      subst isRefinement
      cases yields with
      | refine => exact noted_refined request

/-- Wherever no step is under way, and so also where a run ends, nothing is on a list of its request
twice, the issues of the verdict on record have been noted if the draft was refined last, and
nothing is lost from then on, unless the context is retrieved after that, which does not happen once
the risk has been assessed. -/
theorem context_kept {tag : Nat} {graph : Definition}
    (isGraph : PolicyGeneration.graph tag = .ok graph)
    {service requirements maxRefinements : Value} {first : State}
    (accepted : initialFrom service requirements maxRefinements = .ok first) {ceiling : Int}
    {talk : Talk} {trace : List Event} {run : Run}
    (dialogue : (Run.create graph ceiling first).Dialogue talk trace run)
    (given : talk.DistinctFacts) :
    (∀ circumstances last ending, run.move circumstances = .over last ending →
      run.phase.Settled ∧ last.state.data = run.state.data) ∧
    (run.phase.Settled → ∃ request, run.state.data = .payload (.policy request) ∧
      Distinct request ∧
      ((stepsIn trace).getLast? = some "refine_policy" → Noted request) ∧
      ∀ words events later, run.Dialogue words events later → later.phase.Settled →
        "assess_risk" ∈ stepsIn trace ∨ "retrieve_context" ∉ stepsIn events →
        ∃ grown, later.state.data = .payload (.policy grown) ∧ Grows request grown) := by
  cases (graph_eq tag).symm.trans isGraph
  obtain ⟨name, entries, bound, -, -, -, rfl⟩ := initial_of_initialFrom accepted
  refine ⟨fun _ _ _ => Run.settled_of_over, fun settled => ?_⟩
  obtain ⟨request, carries, holds⟩ := holds_of_dialogue rfl dialogue settled
  refine ⟨request, carries, holds.distinct given, holds.noted,
    fun words events later onward settledLater lasting => ?_⟩
  obtain ⟨grown, carried, holds'⟩ := holds_of_dialogue rfl (dialogue.append onward) settledLater
  rw [stepsIn_append] at holds'
  have further : "retrieve_context" ∉ stepsIn events := by
    rcases lasting with assessed | further
    · exact holds'.not_retrieved assessed
    · exact further
  exact ⟨grown, carried, holds.grows (List.prefix_append _ _) List.prefix_rfl holds' further⟩

/-- A run on a service at some risk, with a requirement to be met and a reviewer who finds a gap. -/
def gathering : Solo where
  run := .create (definition 0) defaultCeiling (initial "S3" [] 1)
  admitted := true
  services :=
    { knowledge := .scripted [("compliance", ⟨[.ok [("requirements", ["encrypt"])]]⟩)]
      drafting := .scripted ⟨[.ok "text"]⟩
      reviewing := .scripted ⟨[.ok { passed := false, issues := ["gap"] }]⟩ }

theorem answer_gathering (inquiry : Inquiry) :
    (gathering.services.answer inquiry).2 = gathering.services := by
  cases inquiry with
  | facts domain params =>
      change (gathering.services.facts domain params).2 = _
      cases known : domain == "compliance" <;>
        simp [gathering, Services.facts, Script.next, List.lookup_cons, known]
  | _ => rfl

theorem distinct_gathering (domain : String) (params : Entries) (facts : Facts)
    (answers : (gathering.services.answer (.facts domain params)).1 = .ok facts)
    (category : String) : (facts.of category).Nodup := by
  change (gathering.services.facts domain params).1 = _ at answers
  cases known : domain == "compliance" with
  | false =>
      have nothing : facts = [] := by
        simpa [gathering, Services.facts, List.lookup_cons, known] using answers.symm
      exact nothing ▸ .nil
  | true =>
      have one : facts = [("requirements", ["encrypt"])] := by
        simpa [gathering, Services.facts, Script.next, List.lookup_cons, known] using answers.symm
      subst one
      cases isCategory : category == "requirements" <;>
        simp [Facts.of, List.lookup_cons, isCategory]

theorem context_kept_gathering :
    ∃ talk trace run circumstances last request,
      gathering.run.Dialogue talk trace run ∧ Talk.DistinctFacts talk ∧
      run.move circumstances = .over last (.completed "finalize_policy") ∧
      run.state.data = .payload (.policy request) ∧ Distinct request ∧
      request.complianceContext = ["encrypt"] ∧ request.refinementNotes = ["Address: gap"] := by
  have ending : (gathering.finish 80).2 = some (.completed "finalize_policy") := rfl
  have result : (gathering.finish 80).1.run.state.data.policy?.map
      (fun request => (request.complianceContext, request.refinementNotes)) =
        some (["encrypt"], ["Address: gap"]) := rfl
  obtain ⟨_, solo, comes, isOver⟩ := Solo.comes_of_finish (Prod.ext rfl ending)
  obtain ⟨talk, trace, dialogue, -, -, answers⟩ := comes.dialogue
  obtain ⟨-, answers⟩ := answers answer_gathering
  have isOver := (Solo.over_of_advance isOver).1
  have given : Talk.DistinctFacts talk := fun domain params facts member =>
    distinct_gathering domain params facts (answers _ _ member).symm
  have accepted : initialFrom (.text "S3") .null (.int 1) = .ok (initial "S3" [] 1) := rfl
  obtain ⟨ends, moments⟩ := context_kept (graph_eq 0) accepted dialogue given
  obtain ⟨settled, sameData⟩ := ends _ _ _ isOver
  obtain ⟨request, carries, distinct, -, -⟩ := moments settled
  rw [sameData, carries] at result
  obtain ⟨compliance, notes⟩ := Prod.mk.inj (Option.some.inj result)
  exact ⟨talk, trace, _, _, _, request, dialogue, given, isOver, carries, distinct, compliance,
    notes⟩

end PolicyGeneration

end StepGraph
