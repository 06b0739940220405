import StepGraph.Proofs.Orchestrator.Fate
import StepGraph.Proofs.Orchestrator.Store
import StepGraph.Proofs.Run.Likeness

namespace StepGraph

structure Call where
  graph : String
  initial : Initial

def Call.only (call : Call) : TaskId → Option Call :=
  Function.update (fun _ => none) 0 (some call)

def Initial.IsOwn : Initial → Prop
  | .shared _ => False
  | _ => True

structure Upshot where
  status : Status
  terminalStep : Option String
  error : Option String
  state : Essence

def Instance.upshot (inst : Instance) : Upshot where
  status := inst.status
  terminalStep := inst.terminalStep
  error := inst.error
  state := inst.state.essence

def Record.upshot (record : Record) : Upshot where
  status := record.status
  terminalStep := record.terminalStep
  error := record.error
  state := record.state.essence

def Result.upshot (result : Result) : Upshot where
  status := result.status
  terminalStep := result.terminalStep
  error := result.error
  state := result.state.essence

def Conclusion.told? : Conclusion → Option (Fallible Upshot)
  | .result told => some (.ok told.upshot)
  | .failed failure => some (.error failure)
  | .finished => none

namespace Ending

/-- What an instance comes to whose run ends like this, unless it is cancelled. -/
def upshot (state : Essence) : Ending → Upshot
  | .completed step => ⟨.completed, some step, none, state⟩
  | .raised .interrupted _ => ⟨.cancelled, none, some "task cancelled", state⟩
  | .raised failure _ => ⟨.failed, none, some failure.message, state⟩

def told (state : Essence) : Ending → Fallible Upshot
  | .completed step => .ok ((Ending.completed step).upshot state)
  | .raised failure _ => .error failure

end Ending

namespace Orchestrator

/-- Two orchestrators that run the same graphs under the same ceiling. -/
structure SameGraphs (here there : Orchestrator) : Prop where
  registry : there.registry = here.registry
  lookup : there.lookup = here.lookup
  ceiling : there.ceiling = here.ceiling

def executor (orchestrator : Orchestrator) : Executor where
  registry :=
    match orchestrator.lookup with
    | .own => orchestrator.registry
    | .apart registry => registry
  ceiling := orchestrator.ceiling

def lone (orchestrator : Orchestrator) (call : Call) : Fallible Solo := do
  let definition ← orchestrator.registry.get call.graph
  return orchestrator.executor.begin definition (orchestrator.initialState call.initial) none

variable {here there before after : Orchestrator} {call : Call} {key id : String}

theorem SameGraphs.trans {third : Orchestrator} (first : here.SameGraphs there)
    (second : there.SameGraphs third) : here.SameGraphs third :=
  ⟨second.registry.trans first.registry, second.lookup.trans first.lookup,
    second.ceiling.trans first.ceiling⟩

theorem SameGraphs.executor (same : here.SameGraphs there) : there.executor = here.executor := by
  simp only [Orchestrator.executor, same.registry, same.lookup, same.ceiling]

theorem admits_eq (orchestrator : Orchestrator) (definition : Definition) :
    orchestrator.admits definition = orchestrator.executor.registry.isRegistered definition := by
  unfold admits Orchestrator.executor
  cases orchestrator.lookup <;> rfl

theorem initialState_of_own {initial : Initial} (own : initial.IsOwn) (here there : Orchestrator) :
    there.initialState initial = here.initialState initial := by
  cases initial with
  | shared => contradiction
  | _ => rfl

theorem SameGraphs.lone (same : here.SameGraphs there) (own : call.initial.IsOwn) :
    there.lone call = here.lone call := by
  simp only [Orchestrator.lone, same.registry, same.executor, initialState_of_own own here there]

theorem alike_opening (same : here.SameGraphs there) (definition : Definition) {initial : Initial}
    (own : initial.IsOwn) :
    (there.opening definition initial).run.Alike
      (here.executor.begin definition (here.initialState initial) none).run := by
  rw [← same.executor, ← initialState_of_own own here there]
  exact ⟨⟨rfl, rfl, rfl⟩, .fresh⟩

theorem lone_eq_ok {solo : Solo} (isLone : here.lone call = .ok solo) :
    ∃ definition, here.registry.get call.graph = .ok definition ∧
      solo = here.executor.begin definition (here.initialState call.initial) none := by
  unfold Orchestrator.lone at isLone
  cases known : here.registry.get call.graph with
  | error =>
      rw [known] at isLone
      cases isLone
  | ok definition =>
      rw [known] at isLone
      cases isLone
      exact ⟨definition, rfl, rfl⟩

def Yields (orchestrator : Orchestrator) (call : Call) (upshot : Upshot)
    (told : Fallible Upshot) : Prop :=
  ∃ solo moves lone last ending, orchestrator.lone call = .ok solo ∧ Solo.Comes solo moves lone ∧
    lone.advance = (last, some ending) ∧ upshot = ending.upshot last.run.state.essence ∧
    told = ending.told last.run.state.essence

theorem Yields.unique {orchestrator : Orchestrator} {upshot other : Upshot}
    {told said : Fallible Upshot} (yields : orchestrator.Yields call upshot told)
    (again : orchestrator.Yields call other said) : other = upshot ∧ said = told := by
  obtain ⟨solo, moves, lone, last, ending, isLone, comes, isOver, rfl, rfl⟩ := yields
  obtain ⟨also, more, twin, final, another, hsame, further, isLast, rfl, rfl⟩ := again
  cases isLone.symm.trans hsame
  obtain ⟨rfl, rfl⟩ := comes.over_unique isOver further isLast
  exact ⟨rfl, rfl⟩

theorem SameGraphs.yields (same : here.SameGraphs there) (own : call.initial.IsOwn)
    {upshot : Upshot} {told : Fallible Upshot} :
    there.Yields call upshot told ↔ here.Yields call upshot told := by
  simp only [Orchestrator.Yields, same.lone own]

structure OnlyAt (key : String) (before after : Orchestrator) : Prop where
  graphs : before.SameGraphs after
  instances : ∀ id, id ≠ key → after.instance? id = before.instance? id
  records : ∀ record ∈ after.history.records, record.instanceId ≠ key →
    record ∈ before.history.records

theorem OnlyAt.refl (key : String) (orchestrator : Orchestrator) :
    OnlyAt key orchestrator orchestrator :=
  ⟨⟨rfl, rfl, rfl⟩, fun _ _ => rfl, fun _ member _ => member⟩

theorem OnlyAt.trans {third : Orchestrator} (first : OnlyAt key before after)
    (second : OnlyAt key after third) : OnlyAt key before third where
  graphs := first.graphs.trans second.graphs
  instances := fun id other => (second.instances id other).trans (first.instances id other)
  records := fun record member other =>
    first.records record (second.records record member other) other

structure Still (before after : Orchestrator) : Prop where
  graphs : before.SameGraphs after
  instances : after.instances = before.instances
  history : after.history = before.history

theorem Still.of_eq (same : after = before) : before.Still after := by
  rw [same]
  exact ⟨⟨rfl, rfl, rfl⟩, rfl, rfl⟩

theorem Still.instance? (still : before.Still after) (id : String) :
    after.instance? id = before.instance? id := by
  rw [Orchestrator.instance?, still.instances]
  rfl

theorem onlyAt_put (orchestrator : Orchestrator) (inst : Instance) :
    OnlyAt inst.id orchestrator (orchestrator.put inst) where
  graphs := ⟨rfl, rfl, rfl⟩
  instances := fun id other => (instance?_put orchestrator inst id).trans (if_neg other)
  records := fun _ member _ => member

theorem onlyAt_finalize? {status : Status} {terminalStep error : Option String}
    (finalized : before.finalize? id status terminalStep error = some after) :
    OnlyAt id before after := by
  obtain ⟨inst, isActive, rfl⟩ := finalize?_eq_some_iff.mp finalized
  obtain ⟨rfl, _⟩ := active?_isActive isActive
  have put := onlyAt_put before (inst.close before.now status terminalStep error)
  refine ⟨⟨rfl, rfl, rfl⟩, put.instances, ?_⟩
  intro record member other
  rcases List.mem_append.mp member with kept | added
  · exact History.evict_subset _ kept
  · rw [List.mem_singleton.mp added] at other
    exact absurd rfl other

theorem onlyAt_getD {status : Status} {terminalStep error : Option String} :
    OnlyAt id before ((before.finalize? id status terminalStep error).getD before) := by
  cases finalized : before.finalize? id status terminalStep error with
  | none => exact .refl id before
  | some after => exact onlyAt_finalize? finalized

theorem onlyAt_conclude (orchestrator : Orchestrator) (id : String) (ending : Ending) :
    OnlyAt id orchestrator (orchestrator.conclude id ending).1 := by
  unfold conclude
  split
  · exact onlyAt_getD
  · exact onlyAt_getD
  · exact onlyAt_getD
  · split
    · next finalized => exact onlyAt_finalize? finalized
    · split <;> exact .refl id orchestrator

theorem onlyAt_concluded (orchestrator : Orchestrator) (inst : Instance) (last : Run)
    (ending : Ending) : OnlyAt inst.id orchestrator (orchestrator.concluded inst last ending).1 :=
  (onlyAt_put orchestrator { inst with run := last }).trans (onlyAt_conclude _ inst.id ending)

theorem onlyAt_openInstance (numbered : before.Numbered) (definition : Definition)
    (initial : Initial) :
      OnlyAt before.nextId before (before.openInstance definition initial).1 where
  graphs := ⟨rfl, rfl, rfl⟩
  instances := fun id other =>
    (instance?_openInstance numbered definition initial id).trans (if_neg other)
  records := fun _ member _ => member

theorem finalize?_of_active (numbered : before.Numbered) {inst : Instance}
    (found : before.instance? inst.id = some inst) (active : inst.isActive = true)
    (tracked : inst.parted = none)
    (unrecorded : ∀ record ∈ before.history.records, record.instanceId ≠ inst.id)
    (status : Status) (terminalStep error : Option String) :
    ∃ after closed, before.finalize? inst.id status terminalStep error = some after ∧
      after.instance? inst.id = some closed ∧ closed.id = inst.id ∧
      closed.upshot = ⟨status, terminalStep, error, inst.run.state.essence⟩ ∧
      ∀ record ∈ after.history.records, record.instanceId = inst.id →
        record.upshot = closed.upshot := by
  have isActive := (active?_eq_some_iff numbered).mpr ⟨found, active⟩
  let closed := inst.close before.now status terminalStep error
  refine ⟨_, closed, finalize?_eq_some_iff.mpr ⟨inst, isActive, rfl⟩,
    instance?_put_of_some found rfl, rfl, ?_, ?_⟩
  · simp only [Instance.upshot, Instance.state, closed, Instance.close, tracked]
    rfl
  · intro record member same
    rcases List.mem_append.mp member with kept | added
    · exact absurd same (unrecorded record (History.evict_subset _ kept))
    · rw [List.mem_singleton.mp added]
      rfl

theorem conclude_of_raised {failure : Failure} {cause : Option Failure}
    (going : failure ≠ .interrupted) (live : ∀ id, failure ≠ .instanceCancelled id)
    (finalized : before.finalize? id .failed none (some failure.message) = some after) :
    before.conclude id (.raised failure cause) = (after, .error failure) := by
  unfold conclude
  split
  · next same => cases same
  · next same =>
      cases same
      exact absurd rfl (live _)
  · next same =>
      cases same
      contradiction
  · next same =>
      cases same
      rw [finalized]

/-- An active instance whose run ends, other than by cancellation, comes to what the run has come
to; so say its driver and the only record of it. -/
theorem concluded_of_active (numbered : before.Numbered) {inst : Instance}
    (found : before.instance? inst.id = some inst) (active : inst.isActive = true)
    (tracked : inst.parted = none)
    (unrecorded : ∀ record ∈ before.history.records, record.instanceId ≠ inst.id) (last : Run)
    {ending : Ending} (live : ∀ id cause, ending ≠ .raised (.instanceCancelled id) cause) :
    ∃ closed, (before.concluded inst last ending).1.instance? inst.id = some closed ∧
      closed.id = inst.id ∧ closed.upshot = ending.upshot last.state.essence ∧
      (Workplace.conclusionOf (before.concluded inst last ending).2).told? =
        some (ending.told last.state.essence) ∧
      ∀ record ∈ (before.concluded inst last ending).1.history.records,
        record.instanceId = inst.id → record.upshot = closed.upshot := by
  let ran : Instance := { inst with run := last }
  have stopped := instance?_put_of_some found (show ran.id = inst.id from rfl)
  have finalized := @finalize?_of_active (before.put ran) (numbered.put ran) ran stopped active
    tracked unrecorded
  cases ending with
  | completed step =>
      obtain ⟨after, closed, hafter, hclosed, hid, upshot, records⟩ :=
        finalized .completed (some step) none
      have concluded :
          before.concluded inst last (.completed step) = (after, .ok (after.result closed)) := by
        change (before.put ran).conclude ran.id (.completed step) = _
        simp only [conclude, hafter, Option.getD_some, resultOf, hclosed]
      have status : closed.status = .completed := congrArg Upshot.status upshot
      have told : (after.result closed).upshot = closed.upshot := by
        simp [Result.upshot, result, Instance.isCancelled, status, Instance.upshot]
      rw [concluded]
      exact ⟨closed, hclosed, hid, upshot,
        congrArg (fun upshot => some (Except.ok upshot)) (told.trans upshot), records⟩
  | raised failure cause =>
      by_cases going : failure = .interrupted
      · subst going
        obtain ⟨after, closed, hafter, hclosed, hid, upshot, records⟩ :=
          finalized .cancelled none (some "task cancelled")
        have concluded :
            before.concluded inst last (.raised .interrupted cause) =
              (after, .error .interrupted) := by
          change (before.put ran).conclude ran.id _ = _
          simp only [conclude, hafter, Option.getD_some]
        rw [concluded]
        exact ⟨closed, hclosed, hid, upshot, rfl, records⟩
      · obtain ⟨after, closed, hafter, hclosed, hid, upshot, records⟩ :=
          finalized .failed none (some failure.message)
        have concluded :
            before.concluded inst last (.raised failure cause) = (after, .error failure) :=
          conclude_of_raised going (fun id same => live id cause (same ▸ rfl)) hafter
        rw [concluded]
        refine ⟨closed, hclosed, hid, upshot.trans ?_, rfl, records⟩
        cases failure with
        | interrupted => contradiction
        | _ => rfl

end Orchestrator

end StepGraph
