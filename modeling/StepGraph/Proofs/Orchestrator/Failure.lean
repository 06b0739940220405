import StepGraph.Proofs.Orchestrator.Charge
import StepGraph.Proofs.Orchestrator.Store
import StepGraph.Proofs.Run.Progress
import StepGraph.Session.Basic

namespace StepGraph

/-- Steps and routers that leave the metadata alone. -/
abbrev Definition.Discreet : Definition → Prop :=
  Definition.Spares State.metadata State.metadata

namespace Run

theorem Settles.metadata_eq {run settled : Run} {now : Instant} {spec : StepSpec} {program : Step}
    (settles : run.Settles now spec program settled) :
    settled.state.metadata = run.state.metadata := by
  cases settles <;> rfl

theorem Stops.metadata_eq {run last : Run} {circumstances : Circumstances} {ending : Ending}
    (stops : run.Stops circumstances last ending) : last.state.metadata = run.state.metadata := by
  cases stops with
  | cancelledAfter _ settles => exact settles.metadata_eq
  | completed _ settles => exact settles.metadata_eq
  | deadEnd _ settles => exact settles.metadata_eq
  | _ => rfl

theorem Goes.metadata_eq {run next : Run} {circumstances : Circumstances} {events : List Event}
    (stands : run.phase.Spares State.metadata State.metadata run.state)
    (goes : run.Goes circumstances next events) :
    ∃ steps, next.state.metadata = { run.state.metadata with totalSteps := steps } := by
  cases goes with
  | enter => exact ⟨_, rfl⟩
  | write phase =>
      rw [phase] at stands
      exact ⟨_, stands.1⟩
  | onward _ settles => exact ⟨_, settles.metadata_eq⟩
  | route _ settles => exact ⟨_, settles.metadata_eq⟩
  | routerWrite phase =>
      rw [phase] at stands
      exact ⟨_, stands.1⟩
  | _ => exact ⟨_, rfl⟩

end Run

namespace Instance

def failedWith (inst : Instance) (last : Run) (failure : Failure) (now : Instant) : Instance :=
  ({ inst with run := last } : Instance).close now .failed none (some failure.message)

/-- The orchestrator knows the state that the run holds, which bears the marks of the instance. -/
structure Owns (inst : Instance) : Prop where
  tracked : inst.parted = none
  instanceId : inst.run.state.metadata.instanceId = inst.id
  startTime : inst.run.state.metadata.startTime = some (.ofInstant inst.startedAt)
  stands : inst.run.phase.Spares State.metadata State.metadata inst.run.state

theorem Fares.owns {judged : List String} {first inst : Instance} (owns : first.Owns)
    (discreet : first.run.definition.Discreet) (fares : Fares judged first inst)
    (active : inst.isActive = true) : inst.Owns := by
  induction fares with
  | start => exact owns
  | @went inst _ run events before moved ih =>
      obtain ⟨tracked, instanceId, startTime, stands⟩ := ih active
      obtain ⟨trace, course⟩ := before.course .start
      have goes := Run.goes_of_move moved
      obtain ⟨steps, same⟩ := goes.metadata_eq stands
      refine ⟨?_, ?_, ?_, goes.spares (course.definition_eq ▸ discreet) stands⟩
      · have active : inst.isActive = true := active
        simp only [follow, active, Bool.not_true, Bool.and_false, Bool.false_eq_true, if_false]
        exact tracked
      · exact (congrArg Metadata.instanceId same).trans instanceId
      · exact (congrArg Metadata.startTime same).trans startTime
  | answered _ asks reply ih =>
      obtain ⟨tracked, instanceId, startTime, stands⟩ := ih active
      exact ⟨tracked, instanceId, startTime, asks.spares stands reply _⟩
  | @last inst circumstances run ending _ isOver ih =>
      obtain ⟨tracked, instanceId, startTime, stands⟩ := ih active
      have stops := Run.stops_of_move isOver
      have same := stops.metadata_eq
      refine ⟨tracked, ?_, ?_, ?_⟩
      · exact (congrArg Metadata.instanceId same).trans instanceId
      · exact (congrArg Metadata.startTime same).trans startTime
      · rw [stops.phase_eq]
        exact stands.congr same same
  | @touched inst _ data ih =>
      have same : (inst.withData data).isActive = inst.isActive := by
        unfold withData
        split <;> rfl
      obtain ⟨tracked, instanceId, startTime, stands⟩ := ih (same ▸ active)
      rw [withData, tracked]
      exact ⟨rfl, instanceId, startTime, stands.congr rfl rfl⟩
  | closed _ _ isTerminal => exact absurd (beq_iff_eq.mp active) isTerminal

theorem owns_opening (orchestrator : Orchestrator) (definition : Definition) (initial : Initial) :
    (orchestrator.opening definition initial).Owns :=
  ⟨rfl, rfl, rfl, trivial⟩

end Instance

namespace Orchestrator

/-- A failure goes on only where it has ended an instance that was active until then. -/
theorem conclude_eq_error {orchestrator : Orchestrator} (numbered : orchestrator.Numbered)
    {id : String} {inst : Instance} (found : orchestrator.instance? id = some inst)
    (going : inst.isActive = true ∨ inst.isCancelled = true) {ending : Ending} {failure : Failure}
    (raised : failure ≠ .interrupted)
    (failed : (orchestrator.conclude id ending).2 = .error failure) :
    (∃ cause, ending = .raised failure cause) ∧ (∀ other, failure ≠ .instanceCancelled other) ∧
      orchestrator.finalize? id .failed none (some failure.message) =
        some (orchestrator.conclude id ending).1 := by
  have told {status : Status} {terminalStep error : Option String}
      (isTerminal : status ≠ .running) :
      ((orchestrator.finalize? id status terminalStep error).getD orchestrator).resultOf id ≠
        .error failure := by
    have fares : Fares [id] orchestrator
        ((orchestrator.finalize? id status terminalStep error).getD orchestrator) :=
      fares_getD numbered isTerminal (.inr (List.mem_singleton_self id))
    obtain ⟨later, hlater, _⟩ := fares.goes id inst found
    rw [resultOf, hlater]
    simp
  unfold conclude at failed ⊢
  split at failed
  · exact absurd failed (told (by simp))
  · exact absurd failed (told (by simp))
  · cases failed
    contradiction
  · next other cause noCancellation noInterruption =>
      cases finalized : orchestrator.finalize? id .failed none (some other.message) with
      | some after =>
          rw [finalized] at failed
          cases failed
          refine ⟨⟨cause, rfl⟩, ?_, finalized⟩
          rintro instanceId rfl
          exact noCancellation instanceId rfl
      | none =>
          have idle := isActive_of_finalize?_eq_none numbered found finalized
          have cancelled : inst.isCancelled = true :=
            going.resolve_left (by rw [idle]; exact Bool.false_ne_true)
          rw [finalized, found] at failed
          simp only [Option.any_some, cancelled, if_true] at failed
          rw [resultOf, found] at failed
          cases failed

theorem failed_ofGraph {orchestrator : Orchestrator} (balanced : orchestrator.Balanced)
    (graph : String) :
    (orchestrator.statistics.ofGraph graph).failed =
      (orchestrator.history.tallyOf graph).failed := by
  have tallied := balanced.perGraph graph .failed (by simp)
  rw [(counts_ofGraph balanced graph).failed, List.countP_filter, ← tallied]
  rfl

theorem failed_append {before after : Orchestrator} (balanced : before.Balanced)
    (balancedAfter : after.Balanced) {record : Record} (status : record.status = .failed)
    (history : after.history = before.history.append record) :
    after.statistics.overall.failed = before.statistics.overall.failed + 1 ∧
      ∀ graph, (after.statistics.ofGraph graph).failed =
        (before.statistics.ofGraph graph).failed + if graph = record.graph then 1 else 0 := by
  have added (tally : Tally) : (tally.add record).failed = tally.failed + 1 := by
    simp only [Tally.add, status]
  constructor
  · change after.history.overall.failed = before.history.overall.failed + 1
    rw [history, History.overall_append, added]
  · intro graph
    rw [failed_ofGraph balancedAfter, failed_ofGraph balanced, history, History.tallyOf_append]
    split
    · exact added _
    · rfl

end Orchestrator

/-- The failures that end the runs of a graph that the executor knows. -/
inductive Failure.EndsRun : Failure → Prop
  | ceiling (graph : String) (ceiling : Int) (step : String) :
      EndsRun (.ceilingReached graph ceiling step)
  | unroutable (step : String) (outcome : Value) (text : Option String) :
      EndsRun (.unroutable step outcome text)
  | fatal (step text : String) : EndsRun (.stepFailed step text true)

namespace Run

theorem Stops.of_stepFailed {run last : Run} {circumstances : Circumstances} {step text : String}
    {fatal : Bool} {cause : Option Failure}
    (stops : run.Stops circumstances last (.raised (.stepFailed step text fatal) cause)) :
    ∃ earlier, last.state.errors = earlier ++ [⟨step, text, .ofInstant circumstances.now⟩] := by
  cases stops with
  | fatal => exact ⟨_, rfl⟩

end Run

namespace Workplace

/-- The run of the instance that a task drives ends in a failure, which goes on to whoever called
for the instance: whoever awaits the task, or the step of the next instance outside. -/
structure Raises (task : TaskId) (outer : List String) (inst : Instance) (last : Run)
    (failure : Failure) (place next : Workplace) : Prop where
  running : place.running = some task
  duty : place.duty? task = some ⟨.drive inst.id outer, none⟩
  found : place.orchestrator.instance? inst.id = some inst
  isOver : ∃ ending, inst.run.move (place.orchestrator.circumstances inst) = .over last ending ∧
    (place.orchestrator.concluded inst last ending).2 = .error failure
  raised : failure ≠ .interrupted
  happened : place.tick? = some next

theorem orchestrator_deliver (place : Workplace) (task : TaskId) (outer : List String)
    (result : Fallible Result) :
    (place.deliver task outer result).orchestrator = place.orchestrator ∨
      ∃ waiting, (place.deliver task outer result).orchestrator =
        place.orchestrator.changeRun waiting (·.receive result) := by
  cases outer with
  | nil => exact .inl rfl
  | cons waiting outer => exact .inr ⟨waiting, orchestrator_updateRun _ _ _⟩

section

variable {task : TaskId} {outer : List String} {inst : Instance} {last : Run} {failure : Failure}
  {place next : Workplace}

theorem Raises.next_eq (raises : Raises task outer inst last failure place next) :
    ∃ ending, inst.run.move (place.orchestrator.circumstances inst) = .over last ending ∧
      (place.orchestrator.concluded inst last ending).2 = .error failure ∧
      next = (place.withOrchestrator (place.orchestrator.concluded inst last ending).1).deliver
        task outer (.error failure) := by
  obtain ⟨ending, isOver, failed⟩ := raises.isOver
  refine ⟨ending, isOver, failed, ?_⟩
  obtain ⟨driver, found, duty⟩ := Option.bind_eq_some_iff.mp raises.duty
  obtain ⟨errand, isErrand, heq⟩ := Option.map_eq_some_iff.mp duty
  obtain ⟨rfl, _⟩ := Duty.mk.inj heq
  have isDrive : driver.activity = .drive inst.id outer := by
    unfold Activity.errand? at isErrand
    split at isErrand <;> cases isErrand
    assumption
  have happened := raises.happened
  rw [tick?_of_running raises.running found] at happened
  simp only [advance, isDrive, drive, raises.found, isOver, Option.some.injEq] at happened
  rw [← failed, ← happened]
  rfl

theorem Raises.settles (reachable : place.Reachable)
    (raises : Raises task outer inst last failure place next) :
    ∃ cause,
      inst.run.move (place.orchestrator.circumstances inst) = .over last (.raised failure cause) ∧
      (∀ other, failure ≠ .instanceCancelled other) ∧
      (place.orchestrator.put { inst with run := last }).finalize? inst.id .failed none
        (some failure.message) =
          some (place.orchestrator.concluded inst last (.raised failure cause)).1 ∧
      next = (place.withOrchestrator
        (place.orchestrator.concluded inst last (.raised failure cause)).1).deliver task outer
          (.error failure) := by
  obtain ⟨ending, isOver, failed, hnext⟩ := raises.next_eq
  have stopped := Orchestrator.instance?_put_of_some raises.found
    (show ({ inst with run := last } : Instance).id = inst.id from rfl)
  obtain ⟨other, isCharge, going⟩ := reachable.inCharge.stands task inst.id
    (by rw [charge_of_duty? raises.duty]; exact List.mem_cons_self)
  cases raises.found.symm.trans isCharge
  obtain ⟨⟨cause, rfl⟩, notCancelled, finalized⟩ :=
    Orchestrator.conclude_eq_error (reachable.sound.numbered.put _) stopped going raises.raised
      failed
  exact ⟨cause, isOver, notCancelled, finalized, hnext⟩

/-- The record of a failure. It shows the state that the executor held at last, under the instance's
own marks, and from then on it is the only one of the instance. -/
structure Noted (inst : Instance) (last : Run) (failure : Failure) (record : Record)
    (place next : Workplace) : Prop where
  instanceId : record.instanceId = inst.id
  graph : record.graph = inst.graph
  status : record.status = .failed
  error : record.error = some failure.message
  terminalStep : record.terminalStep = none
  startedAt : record.startedAt = inst.startedAt
  endedAt : record.endedAt = place.orchestrator.now
  tracked : inst.state = inst.run.state
  state : record.state = { last.state with
    metadata := { last.state.metadata with endTime := some (.ofInstant record.endedAt) } }
  marks : record.state.metadata.instanceId = inst.id ∧
    record.state.metadata.startTime = some (.ofInstant inst.startedAt)
  lastError : ∀ step text fatal, failure = .stepFailed step text fatal →
    ∃ earlier, record.state.errors = earlier ++ [⟨step, text, .ofInstant record.endedAt⟩]
  left : next.orchestrator.active? inst.id = none ∧
    ∃ after, next.orchestrator.instance? inst.id = some after ∧ after.status = .failed
  counted : next.orchestrator.statistics.overall.failed =
      place.orchestrator.statistics.overall.failed + 1 ∧
    ∀ graph, (next.orchestrator.statistics.ofGraph graph).failed =
      (place.orchestrator.statistics.ofGraph graph).failed + if graph = inst.graph then 1 else 0
  history : next.orchestrator.history = place.orchestrator.history.append record
  first : ∀ other ∈ place.orchestrator.history.records, other.instanceId ≠ inst.id
  final : ∀ later, Later next later → ∃ added : List Record,
    later.orchestrator.history = added.foldl History.append next.orchestrator.history ∧
      ∀ other ∈ added, other.instanceId ≠ inst.id

/-- Whoever receives the failure does not touch what has been noted of the instance. -/
theorem Raises.closes (reachable : place.Reachable)
    (raises : Raises task outer inst last failure place next) :
    inst.isActive = true ∧
      next.orchestrator.history = place.orchestrator.history.append
        ((inst.failedWith last failure place.orchestrator.now).record place.orchestrator.now) ∧
      ∃ after, next.orchestrator.instance? inst.id = some after ∧ after.status = .failed := by
  obtain ⟨cause, _, _, finalized, hnext⟩ := raises.settles reachable
  have stopped := Orchestrator.instance?_put_of_some raises.found
    (show ({ inst with run := last } : Instance).id = inst.id from rfl)
  obtain ⟨ran, isActive, hafter⟩ := Orchestrator.finalize?_eq_some_iff.mp finalized
  obtain ⟨hran, active⟩ :=
    (Orchestrator.active?_eq_some_iff (reachable.sound.numbered.put _)).mp isActive
  cases stopped.symm.trans hran
  let closed := inst.failedWith last failure place.orchestrator.now
  have recorded : (place.orchestrator.concluded inst last (.raised failure cause)).1.history =
      place.orchestrator.history.append (closed.record place.orchestrator.now) := by
    rw [hafter]
    rfl
  have ended :
      (place.orchestrator.concluded inst last (.raised failure cause)).1.instance? inst.id =
      some closed := by
    rw [hafter]
    exact Orchestrator.instance?_put_of_some stopped rfl
  refine ⟨active, ?_, ?_⟩
  · rw [← recorded, hnext]
    rcases orchestrator_deliver _ task outer (.error failure) with same | ⟨waiting, same⟩
    · rw [same]
      rfl
    · rw [same]
      exact Orchestrator.history_changeRun _ _ _
  · rw [hnext]
    rcases orchestrator_deliver _ task outer (.error failure) with same | ⟨waiting, same⟩
    · rw [same]
      exact ⟨closed, ended, rfl⟩
    · rw [same]
      have received := @Orchestrator.fares_receive []
        (place.orchestrator.concluded inst last (.raised failure cause)).1 waiting (.error failure)
      obtain ⟨after, hafter, fares⟩ := received.goes _ _ ended
      exact ⟨after, hafter, fares.status_of_ended rfl⟩

theorem Raises.noted (reachable : place.Reachable) (owns : inst.isActive = true → inst.Owns)
    (raises : Raises task outer inst last failure place next) :
    ∃ record, Noted inst last failure record place next := by
  have reached : next.Reachable := reachable.later (.single (.tick raises.happened))
  obtain ⟨cause, isOver, _⟩ := raises.settles reachable
  obtain ⟨active, history, after, hafter, status⟩ := raises.closes reachable
  obtain ⟨tracked, instanceId, startTime, stands⟩ := owns active
  have stops := Run.stops_of_move isOver
  let closed := inst.failedWith last failure place.orchestrator.now
  have state : closed.state = { last.state with
      metadata := { last.state.metadata with
        endTime := some (.ofInstant place.orchestrator.now) } } := by
    simp only [closed, Instance.failedWith, Instance.state, Instance.close, tracked]
  exact ⟨closed.record place.orchestrator.now, {
    instanceId := rfl
    graph := rfl
    status := rfl
    error := rfl
    terminalStep := rfl
    startedAt := rfl
    endedAt := rfl
    tracked := by rw [Instance.state, tracked]
    state := state
    marks := by
      have same := stops.metadata_eq
      change closed.state.metadata.instanceId = _ ∧ closed.state.metadata.startTime = _
      rw [state]
      exact ⟨(congrArg Metadata.instanceId same).trans instanceId,
        (congrArg Metadata.startTime same).trans startTime⟩
    lastError := by
      rintro step text fatal rfl
      obtain ⟨earlier, errors⟩ := stops.of_stepFailed
      refine ⟨earlier, ?_⟩
      change closed.state.errors = _
      rw [state]
      exact errors
    left := by
      refine ⟨Orchestrator.active?_eq_none_of_ended reached.sound.numbered hafter ?_, after, hafter,
        status⟩
      rw [Instance.isActive, status]
      rfl
    counted := Orchestrator.failed_append reachable.balanced reached.balanced rfl history
    history := history
    first := by
      intro other member same
      obtain ⟨old, hold, idle⟩ := reachable.balanced.recorded other member
      rw [same] at hold
      cases raises.found.symm.trans hold
      rw [active] at idle
      contradiction
    final := by
      intro later happened
      obtain ⟨added, hadded, wereActive⟩ := (happened.leadsTo reached.sound).history
      refine ⟨added, hadded, fun other member same => ?_⟩
      have active := wereActive other member after (same ▸ hafter)
      rw [Instance.isActive, status] at active
      contradiction }⟩

theorem Later.known {first : Workplace} (isNew : first.IsNew)
    (built : first.orchestrator.registry.Built) (later : Later first place)
    (discreet : ∀ definition ∈ place.orchestrator.registry.definitions, definition.Discreet)
    (found : place.orchestrator.instance? inst.id = some inst) :
    inst.run.definition.WellFormed ∧
      place.orchestrator.registry.isRegistered inst.run.definition = true ∧
      (∃ ceiling state trace,
        Run.Course (Run.create inst.run.definition ceiling state) trace inst.run) ∧
      (inst.isActive = true → inst.Owns) := by
  obtain ⟨before, definition, initial, judged, known, fares⟩ := later.origin isNew found
  have reachable : first.Reachable := ⟨first, isNew, .refl⟩
  have member : definition ∈ place.orchestrator.registry.definitions :=
    List.mem_of_find?_eq_some known
  obtain ⟨trace, course⟩ := fares.course .start
  have same : inst.run.definition = definition := course.definition_eq
  rw [same]
  refine ⟨(later.built reachable built).wellFormed definition member, ?_, ?_, ?_⟩
  · simp [Registry.isRegistered, known]
  · exact ⟨_, _, trace, course⟩
  · exact fares.owns (Instance.owns_opening _ _ _) (discreet definition member)

/-- A run that has begun has been accepted; one that has not may still be refused. -/
theorem Raises.endsRun (wellFormed : inst.run.definition.WellFormed) {ceiling : Int}
    {state : State} {trace : List Event}
    (course : Run.Course (Run.create inst.run.definition ceiling state) trace inst.run)
    (reachable : place.Reachable) (raises : Raises task outer inst last failure place next) :
    failure.EndsRun ∨
      inst.run.phase = .fresh ∧ place.orchestrator.admits inst.run.definition = false ∧
        failure = .unknownGraph inst.run.definition.name := by
  obtain ⟨cause, isOver, notCancelled, _⟩ := raises.settles reachable
  by_cases refused : inst.run.phase = .fresh ∧
      place.orchestrator.admits inst.run.definition = false
  · obtain ⟨fresh, unknown⟩ := refused
    have isRefusal : inst.run.move (place.orchestrator.circumstances inst) =
        .over inst.run (.raised (.unknownGraph inst.run.definition.name) none) := by
      simp [Run.move, fresh, Orchestrator.circumstances, unknown]
    cases isOver.symm.trans isRefusal
    exact .inr ⟨fresh, unknown, rfl⟩
  · left
    have admitted (fresh : inst.run.phase = .fresh) :
        place.orchestrator.admits inst.run.definition = true :=
      Bool.of_not_eq_false fun unknown => refused ⟨fresh, unknown⟩
    cases course.endsAt wellFormed admitted isOver with
    | regular regular =>
        cases regular with
        | ceiling graph ceiling step => exact .ceiling graph ceiling step
        | fatal step text => exact .fatal step text
        | cancelled => exact absurd rfl (notCancelled _)
    | interrupted => exact absurd rfl raises.raised
    | astray => exact .unroutable _ _ _

/-- Whatever a driver hands out of an instance has been raised by the run of it. -/
theorem Later.raised {first : Workplace} (isNew : first.IsNew) (later : Later first place)
    {id : String} (failed : place.duty? task = some ⟨.drive id outer, some (.failed failure)⟩)
    (raised : failure ≠ .interrupted) :
    ∃ before after inst last, inst.id = id ∧ Later first before ∧
      Raises task [] inst last failure before after ∧ Later after place := by
  obtain ⟨before, after, hbefore, _, concludes, hafter⟩ := later.concludes isNew failed
  generalize hconclusion : Conclusion.failed failure = conclusion at concludes
  cases concludes with
  | dismissed =>
      cases hconclusion
      contradiction
  | ended running duty found isOver _ happened =>
      have told := conclusionOf_eq_failed hconclusion.symm
      exact ⟨before, after, _, _, rfl, hbefore,
        ⟨running, duty, found, ⟨_, isOver, told⟩, raised, happened⟩, hafter⟩

/-- A call that fails without an instance was for a graph that was not there. -/
theorem Later.refused {first : Workplace} (isNew : first.IsNew) (later : Later first place)
    {graph : String} {initial : Initial}
    (failed : place.duty? task = some ⟨.call graph initial, some (.failed failure)⟩)
    (raised : failure ≠ .interrupted) :
    ∃ before, Later first before ∧ before.orchestrator.registry.get graph = .error failure ∧
      Later before place := by
  obtain ⟨before, after, hbefore, happening, concludes, hafter⟩ := later.concludes isNew failed
  cases concludes with
  | dismissed => contradiction
  | refused missing => exact ⟨before, hbefore, missing, .head happening hafter⟩

/-- A failure that goes on to whoever called for an instance is one of those that a graph allows
for, unless the executor does not know the graph and so has started nothing; the call has opened
this one instance; and by then the failure has been recorded. This goes for calls from steps as
well. Whoever called for a graph that is there learns of no other failures. -/
theorem Later.failure_recorded {first : Workplace} (isNew : first.IsNew)
    (built : first.orchestrator.registry.Built) (later : Later first place)
    (discreet : ∀ definition ∈ place.orchestrator.registry.definitions, definition.Discreet) :
    (∀ task outer inst last failure next, Raises task outer inst last failure place next →
      (failure.EndsRun ∨
        inst.run.phase = .fresh ∧ place.orchestrator.admits inst.run.definition = false ∧
          failure = .unknownGraph inst.run.definition.name) ∧
      (place.orchestrator.lookup = .own →
        place.orchestrator.admits inst.run.definition = true) ∧
      (∃ before opened, Later first before ∧ Next before opened ∧
        Opens task inst.id outer before opened ∧ Later opened place ∧
        (∀ between further other, Later opened between → Next between further →
          Later further place → ¬ Opens task other outer between further) ∧
        (outer = [] → ∀ between further other, Later first between → Next between further →
          Opens task other [] between further → Later further place → other = inst.id)) ∧
      ∃ cause record,
        inst.run.move (place.orchestrator.circumstances inst) =
          .over last (.raised failure cause) ∧
        Noted inst last failure record place next ∧
        next = (place.withOrchestrator
          (place.orchestrator.concluded inst last (.raised failure cause)).1).deliver task outer
            (.error failure)) ∧
    (∀ task outer id failure,
      place.duty? task = some ⟨.drive id outer, some (.failed failure)⟩ →
      failure ≠ .interrupted →
      ∃ before after inst last, inst.id = id ∧ Later first before ∧
        Raises task [] inst last failure before after ∧ Later after place) ∧
    ∀ task graph initial failure,
      place.duty? task = some ⟨.call graph initial, some (.failed failure)⟩ →
      failure ≠ .interrupted →
      ∃ before, Later first before ∧ before.orchestrator.registry.get graph = .error failure ∧
        Later before place := by
  refine ⟨?_, fun _ _ _ _ => later.raised isNew, fun _ _ _ _ => later.refused isNew⟩
  intro task outer inst last failure next raises
  have reachable : place.Reachable := ⟨first, isNew, later⟩
  obtain ⟨wellFormed, registered, ⟨ceiling, state, trace, course⟩, owns⟩ :=
    later.known isNew built discreet raises.found
  have charge := charge_of_duty? raises.duty
  have stands : inst.id :: outer <:+ place.charge task := charge ▸ List.suffix_refl _
  obtain ⟨before, opened, hbefore, hnext, opens, hopened⟩ := later.opens isNew stands
  have reached : opened.Reachable := ⟨first, isNew, hbefore.tail hnext⟩
  obtain ⟨cause, isOver, _, _, heq⟩ := raises.settles reachable
  obtain ⟨record, noted⟩ := raises.noted reachable owns
  refine ⟨raises.endsRun wellFormed course reachable, ?_, ?_, cause, record, isOver, noted, heq⟩
  · intro own
    rw [Orchestrator.admits, own]
    exact registered
  · refine ⟨before, opened, hbefore, hnext, opens, hopened, ?_, ?_⟩
    · intro between further other hbetween happening hfurther
      obtain ⟨inst, isOpen, _⟩ := reached.inCharge.stands task inst.id
        (by rw [opens.after, Function.update_self]; exact List.mem_cons_self)
      exact Later.opens_once reached isOpen hbetween happening hfurther stands
    · rintro rfl between further other hbetween happening opensOther hfurther
      have reachedThen : between.Reachable := ⟨first, isNew, hbetween⟩
      exact Later.opens_root reachedThen happening opensOther hfurther charge

end

def risky : Definition where
  name := "risky"
  steps :=
    [{ name := "draft"
       action := .read fun state =>
         .done (.replacement { state with data := .plain (.text "second draft") }) },
      { name := "publish", action := .fail (.fault .value "refused"), fatal := true }]
  routes := [.unconditional "draft" ["publish"]]
  entry := some "draft"
  terminals := ["publish"]
  ceiling := none
  description := none

theorem wellFormed_risky : risky.WellFormed := by
  refine (Definition.structured_of_checks rfl (List.cons_ne_nil _ _) rfl).wellFormed ?_ ?_ ?_ <;>
    decide +kernel

theorem discreet_risky : risky.Discreet where
  steps := by
    intro spec member
    simp only [risky, List.mem_cons, List.not_mem_nil, or_false] at member
    rcases member with rfl | rfl
    · exact fun _ _ _ => trivial
    · exact fun _ => trivial
  routers := by
    intro route member router routed
    simp only [risky, List.mem_singleton] at member
    subst member
    cases routed

def untried : Workplace where
  orchestrator := { registry := ⟨[risky]⟩, history := { limit := 1 } }

def failing : Workplace :=
  settle 9 (untried.spawn (.start "risky" (.data (.plain (.text "first draft")))) []).1

theorem Later.failure_recorded_risky :
    ∃ inst last next record, Later untried failing ∧
      Raises 0 [] inst last (.stepFailed "publish" "refused" true) failing next ∧
      next.orchestrator.history.records = [record] ∧
      record.state.data = .plain (.text "second draft") ∧
      (∃ earlier, record.state.errors = earlier ++ [⟨"publish", "refused", .ofInstant 0⟩]) ∧
      record.status = .failed ∧ next.orchestrator.statistics.overall.failed = 1 := by
  have isNew : untried.IsNew := ⟨rfl, ⟨1, rfl⟩, rfl, rfl, rfl, rfl, rfl⟩
  have built : untried.orchestrator.registry.Built := .singleton wellFormed_risky
  have started : Later untried _ :=
    .single (.start "risky" (.data (.plain (.text "first draft"))))
  have later : Later untried failing := started.trans (later_settle 9 _)
  have discreet : ∀ definition ∈ failing.orchestrator.registry.definitions,
      definition.Discreet := by
    intro definition member
    rw [show failing.orchestrator.registry.definitions = [risky] from rfl] at member
    exact List.mem_singleton.mp member ▸ discreet_risky
  let inst : Instance := (failing.orchestrator.instance? "i1").get rfl
  have isOver : inst.run.move (failing.orchestrator.circumstances inst) = .over _ _ := rfl
  have raises : Raises 0 [] inst _ (.stepFailed "publish" "refused" true) failing _ :=
    ⟨rfl, rfl, rfl, ⟨_, isOver, rfl⟩, by simp, rfl⟩
  obtain ⟨recorded, _, _⟩ := Later.failure_recorded isNew built later discreet
  obtain ⟨_, _, _, _, record, _, noted, _⟩ := recorded _ _ _ _ _ _ raises
  refine ⟨_, _, _, record, later, raises, ?_, ?_, ?_, noted.status, ?_⟩
  · rw [noted.history]
    rfl
  · rw [noted.state]
    rfl
  · obtain ⟨earlier, errors⟩ := noted.lastError _ _ _ rfl
    exact ⟨earlier, errors.trans (by rw [noted.endedAt]; rfl)⟩
  · rw [noted.counted.1]
    rfl

def misplaced : Workplace where
  orchestrator := { registry := ⟨[risky]⟩, lookup := .apart {}, history := { limit := 1 } }

def refusing : Workplace :=
  settle 2 (misplaced.spawn (.start "risky" (.data (.plain (.text "first draft")))) []).1

/-- An executor that comes with a registry keeps it, while the orchestrator drops it as long as it
is empty. A graph that is registered after that is not known to the executor, and a call for it
fails when its instance has been opened. -/
theorem Later.fails_registered :
    ∃ session inst last next record,
      Session.assemble 1 5 (some []) (some 5) = .ok session ∧ session.place.IsNew ∧
      Later session.place refusing ∧ refusing.orchestrator.registry.get "risky" = .ok risky ∧
      Raises 0 [] inst last (.unknownGraph "risky") refusing next ∧
      ¬ (Failure.unknownGraph "risky").EndsRun ∧
      next.orchestrator.history.records = [record] ∧ record.instanceId = "i1" ∧
      record.status = .failed ∧ next.orchestrator.statistics.overall.failed = 1 := by
  have registered : Registry.register {} risky = .ok ⟨[risky]⟩ :=
    Registry.register_eq_ok_iff.mpr
      ⟨rfl, Definition.validate_eq_ok_iff.mpr wellFormed_risky, rfl⟩
  let dropped : Orchestrator := { lookup := .apart {}, history := { limit := 1 } }
  have known : dropped.register risky = .ok misplaced.orchestrator := by
    rw [Orchestrator.register]
    change (do let registry ← Registry.register {} risky; return { dropped with registry }) = _
    rw [registered]
    rfl
  have started : Later misplaced _ :=
    .single (.start "risky" (.data (.plain (.text "first draft"))))
  have later : Later { orchestrator := dropped } refusing :=
    (Relation.ReflTransGen.single (.register known)).trans (started.trans (later_settle 2 _))
  let inst : Instance := (refusing.orchestrator.instance? "i1").get rfl
  have isOver : inst.run.move (refusing.orchestrator.circumstances inst) = .over _ _ := rfl
  have raises : Raises 0 [] inst _ (.unknownGraph "risky") refusing _ :=
    ⟨rfl, rfl, rfl, ⟨_, isOver, rfl⟩, by simp, rfl⟩
  exact ⟨_, inst, _, _, _, rfl, ⟨rfl, ⟨1, rfl⟩, rfl, rfl, rfl, rfl, rfl⟩, later, rfl, raises, nofun,
    rfl, rfl, rfl, rfl⟩

end Workplace

end StepGraph
