import StepGraph.Proofs.Workflow.Families
import StepGraph.Proofs.Workflow.Lens

namespace StepGraph

/-- Where the runs of a graph can stand between its steps. `rest` are the steps that follow without
a decision, and `next` tells from the state that a step has left where the run goes on. -/
structure Chart (α Place : Type) where
  lens : PayloadLens α
  first : Place
  step : Place → String
  rest : Place → List String
  next : Place → State → Option Place
  Yields : Place → State → α → Talk → Fallible α → Prop

namespace Chart

variable {α Place : Type} {chart : Chart α Place} {definition : Definition}

def Carries (chart : Chart α Place) (state : State) (payload : α) : Prop :=
  state.data = .payload (chart.lens.wrap payload)

def successors (chart : Chart α Place) (place : Place) (state : State) : List String :=
  match chart.next place state with
  | some onward => chart.step onward :: chart.rest onward
  | none => []

structure Maps (chart : Chart α Place) (definition : Definition) : Prop where
  finds : ∀ payload, chart.lens.find? (.payload (chart.lens.wrap payload)) = some payload
  entry : definition.entry = some (chart.step chart.first)
  alone : chart.rest chart.first = []
  follows : ∀ place step rest, chart.rest place = step :: rest → ∀ state, ∃ onward,
    chart.next place state = some onward ∧ step = chart.step onward ∧ rest = chart.rest onward
  yields : ∀ place spec, definition.step? (chart.step place) = some spec →
    ∀ state payload, chart.Carries state payload → ∀ talk result after,
      spec.action.Gives state talk result after →
        ∃ outcome, chart.Yields place state payload talk outcome ∧
          chart.lens.Lands state outcome result after
  decides : ∀ place route, chart.rest place = [] →
    definition.route? (chart.step place) = some route →
    ∀ state payload, chart.Carries state payload → ∀ deeds label after,
      route.decision.Gives state deeds (.ok label) after →
        deeds = [] ∧ after = state ∧ ∃ key, label.value.key? = some key ∧
          route.successors? key = some (chart.successors place state)
  terminal : ∀ place, definition.isTerminal (chart.step place) = true →
    ∀ state, chart.next place state = none

inductive Takes (chart : Chart α Place) (place : Place) (state : State) (talk : Talk)
    (after : State) : Prop
  | mk {payload : α} {outcome : Fallible α} (carries : chart.Carries state payload)
      (yields : chart.Yields place state.counted payload talk outcome)
      (leaves : chart.lens.Leaves (chart.step place) state outcome after)

/-- The ways that a run can take from a state, with all that is asked, the steps that are started,
and the states in which it stands between them. -/
inductive Way (chart : Chart α Place) (first : State) :
    Talk → List String → State → Place → Prop
  | start : Way chart first [] [] first chart.first
  | onward {talk words : Talk} {steps : List String} {state after : State} {place next : Place}
      (way : Way chart first talk steps state place) (takes : chart.Takes place state words after)
      (goes : chart.next place after = some next) :
      Way chart first (talk ++ words) (steps ++ [chart.step place]) after next

inductive Ends (chart : Chart α Place) (first : State) : Talk → List String → State → String → Prop
  | mk {talk words : Talk} {steps : List String} {state after : State} {place : Place}
      (way : chart.Way first talk steps state place) (takes : chart.Takes place state words after)
      (stops : chart.next place after = none) :
      Ends chart first (talk ++ words) (steps ++ [chart.step place]) after (chart.step place)

inductive Stands (chart : Chart α Place) (first : State) (talk : Talk) (steps : List String)
    (state : State) : Phase → Prop
  | between {place : Place} {phase : Phase} (way : chart.Way first talk steps state place)
      (same : phase = .entering (chart.step place) (chart.rest place)) :
      Stands chart first talk steps state phase
  | ended {step : String} (ends : chart.Ends first talk steps state step) :
      Stands chart first talk steps state (.concluded step)

theorem Takes.carries {place : Place} {state after : State} {talk : Talk}
    (takes : chart.Takes place state talk after) : ∃ payload, chart.Carries after payload := by
  obtain ⟨carries, -, leaves⟩ := takes
  cases leaves with
  | updated payload => exact ⟨payload, rfl⟩
  | recorded => exact ⟨_, carries⟩

theorem Way.carries {first state : State} {payload : α} (carries : chart.Carries first payload)
    {talk : Talk} {steps : List String} {place : Place}
    (way : chart.Way first talk steps state place) : ∃ payload, chart.Carries state payload := by
  cases way with
  | start => exact ⟨payload, carries⟩
  | onward _ takes => exact takes.carries

/-! ### Runs on a chart -/

variable {ceiling : Int} {first state after : State} {talk : Talk} {events : List Event}
  {place : Place} {payload : α}

theorem Maps.takes (maps : chart.Maps definition) (carries : chart.Carries state payload)
    (takes : definition.Takes ceiling (chart.step place) state talk events after) :
    chart.Takes place state talk after := by
  have counted : chart.Carries state.counted payload := carries
  cases takes with
  | settled _ found gives leaves =>
      obtain ⟨outcome, yields, lands⟩ := maps.yields place _ found _ _ counted _ _ _ gives
      refine ⟨carries, yields, ?_⟩
      rw [← Definition.name_of_step? found]
      cases lands with
      | written updated =>
          cases leaves with
          | nothing => exact .updated updated
          | recorded _ fails => cases fails
      | failed failure =>
          cases leaves with
          | recorded now fails =>
              cases failure <;> cases fails <;> exact .recorded _ now
  | adopted _ found gives =>
      obtain ⟨outcome, -, lands⟩ := maps.yields place _ found _ _ counted _ _ _ gives
      cases lands

theorem Maps.goes (maps : chart.Maps definition) (carries : chart.Carries state payload)
    (last : chart.rest place = []) {successors : List String}
    (decides : definition.Decides ceiling (chart.step place) state talk events after successors) :
    chart.Takes place state talk after ∧ successors = chart.successors place after := by
  obtain ⟨takes, -, routed, gives, isKey, mapped⟩ := decides
  have takes := maps.takes carries takes
  obtain ⟨payload, carries⟩ := takes.carries
  obtain ⟨rfl, rfl, key, isKey', mapped'⟩ :=
    maps.decides place _ last routed _ _ carries _ _ _ gives
  cases isKey.symm.trans isKey'
  rw [Talk.ofDeeds, List.map_nil, List.append_nil]
  exact ⟨takes, Option.some.inj (mapped.symm.trans mapped')⟩

theorem Maps.left (maps : chart.Maps definition) (carries : chart.Carries state payload)
    (takes : chart.Takes place state talk after) :
    ∃ outcome, chart.Yields place state.counted payload talk outcome ∧
      chart.Carries after (outcome.toOption.getD payload) := by
  obtain ⟨same, yields, leaves⟩ := takes
  have found := maps.finds payload
  rw [← carries, same, maps.finds] at found
  cases found
  refine ⟨_, yields, ?_⟩
  cases leaves with
  | updated => rfl
  | recorded => exact carries

theorem Maps.stands (maps : chart.Maps definition) (carries : chart.Carries first payload)
    {trace : List Event} {phase : Phase}
    (journey : (Run.create definition ceiling first).Journey talk trace state phase) :
    chart.Stands first talk (stepsIn trace) state phase := by
  induction journey with
  | start =>
      have begins : definition.entry.getD "" = chart.step chart.first := by
        rw [maps.entry]
        rfl
      have same : Phase.entering (definition.entry.getD "") [] =
          .entering (chart.step chart.first) (chart.rest chart.first) := by
        rw [begins, maps.alone]
      exact .between .start same
  | stage before takes ih =>
      rw [stepsIn_append, takes.stepsIn_eq]
      cases ih with
      | @between place _ way same =>
          obtain ⟨rfl, rest⟩ := Phase.entering.inj same
          obtain ⟨_, carries⟩ := way.carries carries
          obtain ⟨onward, goes, rfl, rfl⟩ := maps.follows place _ _ rest.symm _
          exact .between (way.onward (maps.takes carries takes) goes) rfl
  | decision before decides ih =>
      rw [stepsIn_append, decides.stepsIn_eq]
      cases ih with
      | @between place _ way same =>
          obtain ⟨rfl, last⟩ := Phase.entering.inj same
          obtain ⟨_, carries⟩ := way.carries carries
          obtain ⟨takes, named⟩ := maps.goes carries last.symm decides
          cases goes : chart.next place _ with
          | some onward =>
              rw [Chart.successors, goes] at named
              obtain ⟨rfl, rfl⟩ := List.cons.inj named
              exact .between (way.onward takes goes) rfl
          | none =>
              rw [Chart.successors, goes] at named
              cases named
  | conclusion before decides ih =>
      rw [stepsIn_append, decides.stepsIn_eq]
      cases ih with
      | @between place _ way same =>
          obtain ⟨rfl, last⟩ := Phase.entering.inj same
          obtain ⟨_, carries⟩ := way.carries carries
          obtain ⟨takes, named⟩ := maps.goes carries last.symm decides
          cases goes : chart.next place _ with
          | some onward =>
              rw [Chart.successors, goes] at named
              cases named
          | none => exact .ended (.mk way takes goes)

theorem Maps.ends (maps : chart.Maps definition) (carries : chart.Carries first payload)
    {trace : List Event} {step : String}
    (completes : (Run.create definition ceiling first).Completes talk trace state step) :
    chart.Ends first talk (stepsIn trace) state step := by
  cases completes with
  | terminal journey takes isTerminal =>
      rw [stepsIn_append, takes.stepsIn_eq]
      cases maps.stands carries journey with
      | @between place _ way same =>
          obtain ⟨rfl, -⟩ := Phase.entering.inj same
          obtain ⟨_, carries⟩ := way.carries carries
          exact .mk way (maps.takes carries takes) (maps.terminal place isTerminal _)
  | concluded journey =>
      cases maps.stands carries journey with
      | between way same => cases same
      | ended ends => exact ends

/-! ### Charts without loops -/

def Descends (chart : Chart α Place) (toGo : Place → Nat) : Prop :=
  ∀ place state onward, chart.next place state = some onward → toGo onward < toGo place

variable {toGo : Place → Nat}

theorem Way.bounded (descends : chart.Descends toGo) {steps : List String}
    (way : chart.Way first talk steps state place) :
    steps.length + toGo place ≤ toGo chart.first := by
  induction way with
  | start => simp
  | @onward _ _ steps _ _ place next way takes goes ih =>
      have closer := descends _ _ _ goes
      rw [List.length_append, List.length_singleton]
      omega

theorem Ends.bounded (descends : chart.Descends toGo) {steps : List String} {step : String}
    (ends : chart.Ends first talk steps state step) : steps.length ≤ toGo chart.first + 1 := by
  obtain ⟨way, -, -⟩ := ends
  have bounded := way.bounded descends
  rw [List.length_append, List.length_singleton]
  omega

/-- A run has started one step more than it has moves behind it at most. -/
theorem Maps.bounded (maps : chart.Maps definition) (descends : chart.Descends toGo)
    (carries : chart.Carries first payload) {trace : List Event} {run : Run}
    (dialogue : (Run.create definition ceiling first).Dialogue talk trace run) :
    (stepsIn trace).length ≤ toGo chart.first + 1 := by
  obtain ⟨_, earlier, events, before, phase, journey, rfl, more⟩ := (dialogue.underway rfl).place
  rw [stepsIn_append, List.length_append]
  cases maps.stands carries journey with
  | between way same =>
      have bounded := way.bounded descends
      have begun : (stepsIn events).length ≤ 1 := by
        rcases more with rfl | ⟨_, _, -, shows⟩
        · exact Nat.zero_le 1
        · rw [shows.stepsIn_eq]
          exact Nat.le_refl 1
      omega
  | ended ends =>
      rcases more with rfl | ⟨_, _, isPhase, -⟩
      · exact ends.bounded descends
      · cases isPhase

end Chart

end StepGraph
