import StepGraph.Proofs.Run.Journey
import StepGraph.Workflow.Basic

namespace StepGraph

/-- Whoever asks a service and goes on with the answer leaves the state alone. -/
theorem StepProgram.gives_consult {α : Type} (inquiry : Inquiry) (use : inquiry.Answer → α)
    {state between : State} {talk : Talk} {outcome : Fallible α}
    (gives : ((consult inquiry).bind fun answer => .done (use answer)).Gives state talk outcome
      between) :
    (∃ reply, talk = [⟨.consult inquiry, reply⟩] ∧ outcome = reply.map use) ∧ between = state := by
  obtain ⟨reply, rest, rfl, gives⟩ := gives
  cases reply with
  | ok answer =>
      obtain ⟨rfl, rfl, rfl⟩ := gives
      exact ⟨⟨.ok answer, rfl, rfl⟩, rfl⟩
  | error failure =>
      obtain ⟨rfl, rfl, rfl⟩ := gives
      exact ⟨⟨.error failure, rfl, rfl⟩, rfl⟩

namespace PayloadLens

inductive Lands {α : Type} (lens : PayloadLens α) (state : State) :
    Fallible α → Fallible StepReturn → State → Prop
  | written (payload : α) :
      Lands lens state (.ok payload) (.ok .nothing) (state.withPayload (lens.wrap payload))
  | failed (failure : Failure) : Lands lens state (.error failure) (.error failure) state

variable {α : Type} {lens : PayloadLens α} {state after : State} {payload : α} {talk : Talk}
  {result : Fallible StepReturn}

theorem gives_step {work : α → StepProgram α} {outcomes : Talk → Fallible α → Prop}
    (works : ∀ talk outcome between, (work payload).Gives state talk outcome between →
      outcomes talk outcome ∧ between = state)
    (found : lens.find? state.data = some payload)
    (gives : (lens.step work).Gives state talk result after) :
    ∃ outcome, outcomes talk outcome ∧ lens.Lands state outcome result after := by
  unfold step at gives
  simp only [Program.Gives, found] at gives
  rcases Program.gives_bind gives with
    ⟨failure, fails, rfl⟩ | ⟨value, said, rest, between, first, second, rfl⟩
  · obtain ⟨isOutcome, rfl⟩ := works _ _ _ fails
    exact ⟨_, isOutcome, .failed failure⟩
  · obtain ⟨isOutcome, rfl⟩ := works _ _ _ first
    obtain ⟨rfl, rfl, rfl⟩ := second
    rw [List.append_nil]
    exact ⟨_, isOutcome, .written value⟩

theorem gives_computing (compute : α → Fallible α) (found : lens.find? state.data = some payload)
    (gives : (lens.step fun payload => .lift (compute payload)).Gives state talk result after) :
    talk = [] ∧ lens.Lands state (compute payload) result after := by
  have works : ∀ talk outcome between,
      (Program.lift (compute payload) : StepProgram α).Gives state talk outcome between →
      (talk = [] ∧ outcome = compute payload) ∧ between = state := by
    intro talk outcome between gives
    obtain ⟨hTalk, hOutcome, hBetween⟩ := Program.gives_lift_iff.mp gives
    exact ⟨⟨hTalk, hOutcome⟩, hBetween⟩
  obtain ⟨_, ⟨hTalk, rfl⟩, lands⟩ := gives_step works found gives
  exact ⟨hTalk, lands⟩

theorem gives_consulting (inquiry : α → Inquiry)
    (use : (payload : α) → (inquiry payload).Answer → α)
    (found : lens.find? state.data = some payload)
    (gives : (lens.step fun payload =>
      (StepProgram.consult (inquiry payload)).bind fun answer => .done (use payload answer)).Gives
        state talk result after) :
    ∃ reply, talk = [⟨.consult (inquiry payload), reply⟩] ∧
      lens.Lands state (reply.map (use payload)) result after := by
  have works : ∀ talk outcome between,
      ((StepProgram.consult (inquiry payload)).bind fun answer =>
        .done (use payload answer)).Gives state talk outcome between →
      (∃ reply, talk = [⟨.consult (inquiry payload), reply⟩] ∧
        outcome = reply.map (use payload)) ∧ between = state :=
    fun _ _ _ gives => StepProgram.gives_consult (inquiry payload) (use payload) gives
  obtain ⟨_, ⟨reply, hTalk, rfl⟩, lands⟩ := gives_step works found gives
  exact ⟨reply, hTalk, lands⟩

/-- A step whose work leaves the counters alone never lowers the iteration count. -/
theorem neverLowersCount_step {work : α → StepProgram α}
    (sparing : ∀ payload, (work payload).LeavesAlone State.counters) :
    (lens.step work).NeverLowersCount := by
  intro state
  unfold step
  simp only [Program.CountsFrom]
  cases lens.find? state.data with
  | none => exact Int.le_refl _
  | some payload =>
      exact Program.countsFrom_bind (fun _ _ floor => floor) (sparing payload _) (Int.le_refl _)

theorem leavesAlone_step {work : α → StepProgram α}
    (sparing : ∀ payload, (work payload).LeavesAlone State.bookkeeping) :
    (lens.step work).LeavesAlone State.bookkeeping := by
  intro kept state _
  dsimp only
  cases lens.find? state.data with
  | none => trivial
  | some payload =>
      refine Program.keeps_bind (fun updated => ?_) (sparing payload kept)
      intro kept state same
      exact ⟨same, trivial⟩

/-- How a step on a payload leaves the state of a run: with a new payload, or with its failure on
record. -/
inductive Leaves (lens : PayloadLens α) (name : String) (state : State) : Fallible α → State → Prop
  | updated (payload : α) :
      Leaves lens name state (.ok payload) (state.counted.withPayload (lens.wrap payload))
  | recorded (failure : Failure) (now : Instant) :
      Leaves lens name state (.error failure)
        (state.counted.addError now name (StepSpec.recordedText failure))

end PayloadLens

end StepGraph
