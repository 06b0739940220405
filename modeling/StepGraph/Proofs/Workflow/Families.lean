import StepGraph.Proofs.Run.Progress
import StepGraph.Proofs.Run.Journey
import StepGraph.Workflow.Basic

namespace StepGraph

namespace OutcomeFamily

variable {α : Type} [OutcomeFamily α]

def outcome (a : α) : Outcome :=
  .ofText (OutcomeFamily.outcomeText a)

structure Lawful (α : Type) [OutcomeFamily α] : Prop where
  listed : ∀ a : α, a ∈ members (α := α)
  apart : ∀ a b : α, outcomeText a = outcomeText b → a = b

theorem outcomeText_of_ofText? {text : String} {a : α} (found : ofText? α text = some a) :
    outcomeText a = text := by
  unfold ofText? at found
  have same := List.find?_some found
  exact eq_of_beq same

theorem Lawful.ofText?_outcomeText (lawful : Lawful α) (a : α) :
    ofText? α (outcomeText a) = some a := by
  cases found : ofText? α (outcomeText a) with
  | none =>
      have absent := List.find?_eq_none.mp found a (lawful.listed a)
      simp at absent
  | some b => rw [lawful.apart b a (outcomeText_of_ofText? found)]

end OutcomeFamily

open OutcomeFamily

namespace Router

variable {α : Type} [OutcomeFamily α]

theorem gives_tryDecide_iff {choose : State → Fallible α} {state after : State}
    {deeds : List (Exchange Deed.Reply)} {result : Fallible Label} :
    (tryDecide choose).Gives state deeds result after ↔
      deeds = [] ∧ result = (choose state).map label ∧ after = state := by
  simp only [tryDecide, Program.Gives]
  cases choose state <;> exact Iff.rfl

theorem leavesAlone_decide {β : Type} (choose : State → α) (part : State → β) :
    (Router.decide choose).LeavesAlone part :=
  fun _ _ _ => trivial

theorem leavesAlone_tryDecide {β : Type} (choose : State → Fallible α) (part : State → β) :
    (Router.tryDecide choose).LeavesAlone part := by
  intro _ state _
  dsimp only
  cases choose state <;> trivial

end Router

namespace Route

variable {α : Type} [OutcomeFamily α] {route : Route} {successors : α → List String}

def deciding (source : String) (choose : State → α) (successors : α → List String) : Route where
  source := source
  router := some (Router.decide choose)
  edges := (OutcomeFamily.members (α := α)).map fun a => ⟨OutcomeFamily.outcome a, successors a⟩
  outcomes := (OutcomeFamily.members (α := α)).map OutcomeFamily.outcome

def venturing (source : String) (choose : State → Fallible α) (successors : α → List String) :
    Route where
  source := source
  router := some (Router.tryDecide choose)
  edges := (members (α := α)).map fun a => ⟨outcome a, successors a⟩
  outcomes := (members (α := α)).map outcome

structure Spans (route : Route) (successors : α → List String) : Prop where
  edges_eq : route.edges = (members (α := α)).map fun a => ⟨outcome a, successors a⟩
  outcomes_eq : route.outcomes = (members (α := α)).map outcome

theorem spans_deciding (source : String) (choose : State → α) (successors : α → List String) :
    (deciding source choose successors).Spans successors :=
  ⟨rfl, rfl⟩

theorem spans_venturing (source : String) (choose : State → Fallible α)
    (successors : α → List String) : (venturing source choose successors).Spans successors :=
  ⟨rfl, rfl⟩

theorem Spans.declares (spans : route.Spans successors) (lawful : Lawful α) (a : α) :
    route.Declares (label a) := by
  refine ⟨outcome a, ?_, rfl⟩
  rw [spans.outcomes_eq]
  exact List.mem_map_of_mem (lawful.listed a)

theorem Spans.successors?_eq (spans : route.Spans successors) (lawful : Lawful α) (a : α) :
    route.successors? (.text (outcomeText a)) = some (successors a) := by
  have same : (fun edge : Edge => edge.outcome.key == .text (outcomeText a)) ∘
      (fun b : α => (⟨outcome b, successors b⟩ : Edge)) =
        fun b => outcomeText b == outcomeText a := by
    funext b
    rw [Bool.eq_iff_iff, beq_iff_eq]
    simp [outcome, Outcome.ofText]
  have found := lawful.ofText?_outcomeText a
  rw [successors?, spans.edges_eq, List.find?_map, same]
  rw [ofText?] at found
  rw [found]
  rfl

theorem Spans.successors?_label (spans : route.Spans successors) (lawful : Lawful α) (a : α) :
    ∃ key, (label a).value.key? = some key ∧ route.successors? key = some (successors a) :=
  ⟨_, rfl, spans.successors?_eq lawful a⟩

def Ponders (route : Route) (fails : State → Failure → Prop) : Prop :=
  ∀ state deeds result after, route.decision.Gives state deeds result after →
    deeds = [] ∧ after = state ∧
      ((∃ label, result = .ok label ∧ route.Declares label) ∨
        ∃ failure, result = .error failure ∧ fails state failure)

theorem Ponders.mono {fails others : State → Failure → Prop} (ponders : route.Ponders fails)
    (included : ∀ state failure, fails state failure → others state failure) :
    route.Ponders others := by
  intro state deeds result after gives
  obtain ⟨silent, same, decided | ⟨failure, failed, isFailure⟩⟩ := ponders _ _ _ _ gives
  · exact ⟨silent, same, .inl decided⟩
  · exact ⟨silent, same, .inr ⟨failure, failed, included _ _ isFailure⟩⟩

theorem ponders_deciding (lawful : Lawful α) (source : String) (choose : State → α)
    (fails : State → Failure → Prop) : (deciding source choose successors).Ponders fails := by
  rintro state deeds result after ⟨rfl, rfl, rfl⟩
  exact ⟨rfl, rfl, .inl ⟨_, rfl, (spans_deciding source choose successors).declares lawful _⟩⟩

theorem ponders_venturing (lawful : Lawful α) (source : String) (choose : State → Fallible α) :
    (venturing source choose successors).Ponders fun state failure =>
      choose state = .error failure := by
  intro state deeds result after gives
  obtain ⟨rfl, rfl, rfl⟩ := Router.gives_tryDecide_iff.mp gives
  refine ⟨rfl, rfl, ?_⟩
  cases chosen : choose after with
  | ok a => exact .inl ⟨_, rfl, (spans_venturing source choose successors).declares lawful a⟩
  | error failure => exact .inr ⟨failure, rfl, chosen⟩

theorem ponders_unconditional (source : String) (successors : List String)
    (fails : State → Failure → Prop) : (unconditional source successors).Ponders fails := by
  rintro state deeds result after ⟨rfl, rfl, rfl⟩
  exact ⟨rfl, rfl, .inl ⟨_, rfl, unconditional_declares source successors⟩⟩

end Route

namespace Run

theorem Underway.decision {first : Run} {fails : String → State → Failure → Prop}
    (ponders : ∀ route ∈ first.definition.routes, route.Ponders (fails route.source)) {talk : Talk}
    {trace : List Event} {state : State} {step : String} {route : Route} {program : Router}
    {result : Fallible Label}
    (underway : first.Underway talk trace state (.routing step route program))
    (back : program = Program.lift result) :
    first.definition.route? step = some route ∧
      ((∃ label, result = .ok label ∧ route.Declares label) ∨
        ∃ failure, result = .error failure ∧ fails step state failure) := by
  cases underway with
  | between journey => cases journey
  | routing journey takes inner routed left =>
      subst back
      have isRoute := List.mem_of_find?_eq_some routed
      have isSource : route.source = step := by simpa using List.find?_some routed
      obtain ⟨-, same, decision⟩ := ponders route isRoute _ _ _ _ left.gives
      rw [isSource, ← same] at decision
      exact ⟨routed, decision⟩

/-- Where all routes are decided for their outcomes, a run by itself cannot be routed only on
account of a decision that has failed on its state. -/
theorem Dialogue.cause_of_unroutable {definition : Definition}
    (wellFormed : definition.WellFormed) {fails : String → State → Failure → Prop}
    (ponders : ∀ route ∈ definition.routes, route.Ponders (fails route.source)) {ceiling : Int}
    {first : State} {talk : Talk} {trace : List Event} {run last : Run}
    {circumstances : Circumstances} {step : String} {value : Value} {text : Option String}
    {cause : Option Failure}
    (dialogue : (Run.create definition ceiling first).Dialogue talk trace run)
    (isOver : run.move circumstances = .over last (.raised (.unroutable step value text) cause)) :
    ∃ failure, cause = some failure ∧ fails step run.state failure := by
  have underway := dialogue.underway rfl
  have course := dialogue.passage.course
  cases Run.stops_of_move isOver with
  | deadEnd phase _ inner unrouted =>
      have onTrack := course.onTrack wellFormed.toStructured
      have same : run.definition = definition := course.definition_eq
      rw [same] at inner unrouted
      rcases wellFormed.goes_on _ (phase ▸ onTrack).leg.continuation with
        isTerminal | ⟨route, routed⟩
      · rw [inner] at isTerminal
        contradiction
      · rw [unrouted] at routed
        contradiction
  | @routerFailed _ _ failure phase =>
      rw [phase] at underway
      have back : (.fail failure : Router) = Program.lift (.error failure) := rfl
      obtain ⟨-, ⟨_, same, -⟩ | ⟨_, same, failed⟩⟩ := underway.decision ponders back
      · cases same
      · cases same
        exact ⟨failure, rfl, failed⟩
  | @noKey _ _ label phase noKey =>
      rw [phase] at underway
      have back : (.done label : Router) = Program.lift (.ok label) := rfl
      obtain ⟨-, ⟨_, same, outcome, -, isKey⟩ | ⟨_, same, -⟩⟩ := underway.decision ponders back
      · cases same
        cases noKey.symm.trans isKey
      · cases same
  | @unmapped _ _ label _ phase isKey unmapped =>
      rw [phase] at underway
      have back : (.done label : Router) = Program.lift (.ok label) := rfl
      obtain ⟨routed, ⟨_, same, declares⟩ | ⟨_, same, -⟩⟩ := underway.decision ponders back
      · cases same
        exact absurd declares
          (Run.not_declares_of_unmapped wellFormed.toStructured routed isKey unmapped)
      · cases same

end Run

end StepGraph
