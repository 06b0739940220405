import StepGraph.Proofs.Run.Move

namespace StepGraph

namespace State

def counters (state : State) : Int × Int :=
  (state.iterationCount, state.metadata.totalSteps)

def bookkeeping (state : State) : Int × Metadata :=
  (state.iterationCount, state.metadata)

theorem iterationCount_of_counters {before after : State}
    (same : after.counters = before.counters) :
    after.iterationCount = before.iterationCount :=
  congrArg Prod.fst same

theorem counters_of_bookkeeping {before after : State}
    (same : after.bookkeeping = before.bookkeeping) : after.counters = before.counters := by
  obtain ⟨count, metadata⟩ := Prod.mk.inj same
  simp only [counters, count, metadata]

end State

namespace Program

variable {E : Type} {Reply : E → Type} {α β : Type}

/-- Every write keeps a part of the state, which is `kept` at first. After a question it may be
anything, since others may have changed it meanwhile. -/
def Keeps (part : State → β) : Program E Reply α → β → Prop
  | .done _, _ => True
  | .fail _, _ => True
  | .read next, kept => ∀ state, part state = kept → (next state).Keeps part kept
  | .write state next, kept => part state = kept ∧ next.Keeps part kept
  | .ask _ next, _ => ∀ reply kept, (next reply).Keeps part kept

def LeavesAlone (part : State → β) (program : Program E Reply α) : Prop :=
  ∀ kept, program.Keeps part kept

/-- Wherever the program ends, the iteration count is not below `least`, provided that nobody else
touches the counters while the program waits for a reply. -/
def CountsFrom (least : Int) : Program E Reply α → State → Prop
  | .done _, state => least ≤ state.iterationCount
  | .fail _, state => least ≤ state.iterationCount
  | .read next, state => (next state).CountsFrom least state
  | .write state next, _ => next.CountsFrom least state
  | .ask _ next, state =>
      ∀ reply after, after.counters = state.counters → (next reply).CountsFrom least after

def NeverLowersCount (program : Program E Reply α) : Prop :=
  ∀ state, program.CountsFrom state.iterationCount state

theorem CountsFrom.mono {program : Program E Reply α} {least fewer : Int} {state : State}
    (counts : program.CountsFrom least state) (le : fewer ≤ least) :
    program.CountsFrom fewer state := by
  induction program generalizing state with
  | done => exact Int.le_trans le counts
  | fail => exact Int.le_trans le counts
  | read next ih => exact ih state counts
  | write state next ih => exact ih counts
  | ask question next ih => exact fun reply after same => ih reply (counts reply after same)

def Silent : Program E Reply α → Prop
  | .done _ => True
  | .fail _ => True
  | .read next => ∀ state, (next state).Silent
  | .write _ _ => False
  | .ask _ next => ∀ reply, (next reply).Silent

theorem silent_lift (result : Fallible α) : (lift result : Program E Reply α).Silent := by
  cases result <;> trivial

theorem Silent.bind {program : Program E Reply α} {next : α → Program E Reply β}
    (silent : program.Silent) (onward : ∀ value, (next value).Silent) :
    (program.bind next).Silent := by
  induction program with
  | done value => exact onward value
  | fail => trivial
  | read further ih => exact fun state => ih state (silent state)
  | write => exact silent.elim
  | ask question further ih => exact fun reply => ih reply (silent reply)

theorem Silent.leavesAlone {program : Program E Reply α} (silent : program.Silent)
    (part : State → β) : program.LeavesAlone part := by
  induction program with
  | done => exact fun _ => trivial
  | fail => exact fun _ => trivial
  | read further ih => exact fun kept state _ => ih state (silent state) kept
  | write => exact silent.elim
  | ask question further ih => exact fun _ reply kept => ih reply (silent reply) kept

theorem keeps_bind {γ : Type} {part : State → γ} {program : Program E Reply α}
    {next : α → Program E Reply β} (onward : ∀ value, (next value).LeavesAlone part) {kept : γ}
    (keeps : program.Keeps part kept) : (program.bind next).Keeps part kept := by
  induction program generalizing kept with
  | done value => exact onward value kept
  | fail => trivial
  | read further ih => exact fun state same => ih state (keeps state same)
  | write written further ih => exact ⟨keeps.1, ih keeps.2⟩
  | ask question further ih => exact fun reply kept => ih reply (keeps reply kept)

/-- A program that leaves the counters alone, followed by one that never lowers the count. -/
theorem countsFrom_bind {program : Program E Reply α} {next : α → Program E Reply β} {least : Int}
    (onward : ∀ value state, least ≤ state.iterationCount → (next value).CountsFrom least state)
    {state : State} (keeps : program.Keeps State.counters state.counters)
    (floor : least ≤ state.iterationCount) : (program.bind next).CountsFrom least state := by
  induction program generalizing state with
  | done value => exact onward value state floor
  | fail failure => exact floor
  | read further ih => exact ih state (keeps state rfl) floor
  | write written further ih =>
      obtain ⟨same, keeps⟩ := keeps
      exact ih (same ▸ keeps) (State.iterationCount_of_counters same ▸ floor)
  | ask question further ih =>
      exact fun reply after same =>
        ih reply (keeps reply _) (State.iterationCount_of_counters same ▸ floor)

end Program

section

variable {β γ : Type} {inStep : State → β} {inRouter : State → γ}

/-- What is left of the program that a run is inside keeps a part of the state. For a step it may be
another one than for a router. -/
def Phase.Spares (inStep : State → β) (inRouter : State → γ) (state : State) : Phase → Prop
  | .inside _ _ program => program.Keeps inStep (inStep state)
  | .routing _ _ program => program.Keeps inRouter (inRouter state)
  | _ => True

/-- Steps that leave one part of the state alone, and routers that do so with another. -/
structure Definition.Spares (inStep : State → β) (inRouter : State → γ) (definition : Definition) :
    Prop where
  steps : ∀ spec ∈ definition.steps, spec.action.LeavesAlone inStep
  routers : ∀ route ∈ definition.routes, ∀ router, route.router = some router →
    router.LeavesAlone inRouter

theorem Phase.Spares.congr {phase : Phase} {state other : State}
    (stands : phase.Spares inStep inRouter state) (step : inStep other = inStep state)
    (router : inRouter other = inRouter state) : phase.Spares inStep inRouter other := by
  cases phase with
  | inside =>
      change Program.Keeps _ _ _
      rw [step]
      exact stands
  | routing =>
      change Program.Keeps _ _ _
      rw [router]
      exact stands
  | _ => exact trivial

namespace Run

theorem Goes.spares {run next : Run} {circumstances : Circumstances} {events : List Event}
    (spares : run.definition.Spares inStep inRouter)
    (stands : run.phase.Spares inStep inRouter run.state)
    (goes : run.Goes circumstances next events) :
    next.phase.Spares inStep inRouter next.state := by
  cases goes with
  | begin => exact trivial
  | enter _ _ _ found => exact spares.steps _ (List.mem_of_find?_eq_some found) _
  | read phase =>
      rw [phase] at stands
      exact stands run.state rfl
  | write phase =>
      rw [phase] at stands
      obtain ⟨same, keeps⟩ := stands
      change Program.Keeps _ _ _
      rw [same]
      exact keeps
  | adopt => exact trivial
  | onward => exact trivial
  | @route _ _ _ route _ _ _ _ routed =>
      cases hrouter : route.router with
      | none => exact trivial
      | some router =>
          exact spares.routers route (List.mem_of_find?_eq_some routed) router hrouter _
  | routerRead phase =>
      rw [phase] at stands
      exact stands run.state rfl
  | routerWrite phase =>
      rw [phase] at stands
      obtain ⟨same, keeps⟩ := stands
      change Program.Keeps _ _ _
      rw [same]
      exact keeps
  | @follow _ _ _ _ successors => cases successors <;> exact trivial

/-- Others may have changed any part of the state when the reply comes. -/
theorem Asks.spares {run : Run} {effect : Effect} {onward : effect.Reply → Phase}
    (stands : run.phase.Spares inStep inRouter run.state) (asks : run.Asks effect onward)
    (reply : effect.Reply) (state : State) : (onward reply).Spares inStep inRouter state := by
  cases asks with
  | step phase =>
      rw [phase] at stands
      exact stands reply _
  | router phase =>
      rw [phase] at stands
      exact stands reply _

end Run

end

end StepGraph
