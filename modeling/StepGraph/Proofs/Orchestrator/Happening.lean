import Mathlib.Logic.Function.Basic
import StepGraph.Proofs.Orchestrator.Line

/-! What happens to instances and to the tasks that drive them, step by step and in full. `Happens`
lists it; what concerns other tasks is left out. -/

namespace StepGraph

/-- What a driver has to do: open an instance, or drive the innermost of some. -/
inductive Errand where
  | call (graph : String) (initial : Initial)
  | drive (innermost : String) (outer : List String)

/-- A driver, seen from the instances. -/
structure Duty where
  errand : Errand
  conclusion? : Option Conclusion

def Activity.errand? : Activity → Option Errand
  | .start graph initial => some (.call graph initial)
  | .drive innermost outer => some (.drive innermost outer)
  | _ => none

def Task.duty? (task : Task) : Option Duty :=
  task.activity.errand?.map (⟨·, task.conclusion?⟩)

theorem Task.duty?_of_waiter {task : Task} (waits : task.isDriver = false) : task.duty? = none := by
  unfold isDriver at waits
  unfold duty?
  generalize task.activity = activity at waits ⊢
  cases activity with
  | start => cases waits
  | drive => cases waits
  | _ => rfl

namespace Orchestrator

def changeRun (orchestrator : Orchestrator) (id : String) (change : Run → Run) : Orchestrator :=
  match orchestrator.instance? id with
  | none => orchestrator
  | some inst => orchestrator.put { inst with run := change inst.run }

def concluded (orchestrator : Orchestrator) (inst : Instance) (last : Run) (ending : Ending) :
    Orchestrator × Fallible Result :=
  (orchestrator.put { inst with run := last }).conclude inst.id ending

/-- How a question of a run is answered where no new instance is opened. `stopped` says that the
driver was told to stop while the run waited. -/
inductive Replies (orchestrator : Orchestrator) (stopped : Bool) :
    (effect : Effect) → Orchestrator → effect.Reply → Prop
  | act (deed : Deed) :
      Replies orchestrator stopped (.act deed) (orchestrator.perform deed).1
        (orchestrator.perform deed).2
  | pause : Replies orchestrator stopped .pause orchestrator stopped
  | gate (name : String) : Replies orchestrator stopped (.gate name) orchestrator stopped
  | unknown {graph : String} {initial : Initial} {failure : Failure}
      (missing : orchestrator.registry.get graph = .error failure) :
      Replies orchestrator stopped (.start graph initial) orchestrator (.error failure)
  | consult (inquiry : Inquiry) :
      Replies orchestrator stopped (.consult inquiry)
        { orchestrator with services := (orchestrator.services.answer inquiry).2 }
        (orchestrator.services.answer inquiry).1

structure Beside (before after : Orchestrator) : Prop where
  instances : after.instances = before.instances
  history : after.history = before.history
  registry : after.registry = before.registry ∨
    ∃ definition, before.registry.register definition = .ok after.registry

end Orchestrator

namespace Workplace

def duty? (place : Workplace) (id : TaskId) : Option Duty :=
  (place.task? id).bind (·.duty?)

structure Aside (place next : Workplace) : Prop where
  orchestrator : next.orchestrator = place.orchestrator
  duty : next.duty? = place.duty?

inductive Ticks (place next : Workplace) : Prop
  | aside (same : Aside place next) : Ticks place next
  | shutdown {id : TaskId} {task : Task} (running : place.running = some id)
      (found : place.task? id = some task) (isShutdown : task.activity = .shutdown)
      (orchestrator : next.orchestrator = (place.orchestrator.active.map (·.id)).foldl
        (fun orchestrator id => (orchestrator.cancel id).1) place.orchestrator)
      (duty : next.duty? = place.duty?) : Ticks place next
  | dismissed {id : TaskId} {task : Task} {errand : Errand} (found : place.task? id = some task)
      (stopped : task.stopRequested = true) (before : place.duty? id = some ⟨errand, none⟩)
      (orchestrator : next.orchestrator = place.orchestrator)
      (duty : next.duty? =
        Function.update place.duty? id (some ⟨errand, some (.failed .interrupted)⟩)) :
      Ticks place next
  | refused {id : TaskId} {graph : String} {initial : Initial} {failure : Failure}
      (before : place.duty? id = some ⟨.call graph initial, none⟩)
      (missing : place.orchestrator.registry.get graph = .error failure)
      (orchestrator : next.orchestrator = place.orchestrator)
      (duty : next.duty? =
        Function.update place.duty? id (some ⟨.call graph initial, some (.failed failure)⟩)) :
      Ticks place next
  | begun {id : TaskId} {graph : String} {initial : Initial} {definition : Definition}
      (before : place.duty? id = some ⟨.call graph initial, none⟩)
      (known : place.orchestrator.registry.get graph = .ok definition)
      (orchestrator :
        next.orchestrator = (place.orchestrator.openInstance definition initial).1)
      (duty : next.duty? =
        Function.update place.duty? id (some ⟨.drive place.orchestrator.nextId [], none⟩)) :
      Ticks place next
  | moved {id : TaskId} {inst : Instance} {outer : List String} {run : Run} {events : List Event}
      (before : place.duty? id = some ⟨.drive inst.id outer, none⟩)
      (found : place.orchestrator.instance? inst.id = some inst)
      (moved : inst.run.move (place.orchestrator.circumstances inst) = .go run events)
      (orchestrator :
        next.orchestrator = (place.orchestrator.put (inst.follow run events)).note events)
      (duty : next.duty? = place.duty?) : Ticks place next
  | answered {id : TaskId} {inst : Instance} {outer : List String} {effect : Effect}
      {onward : effect.Reply → Phase} {stopped : Bool} {after : Orchestrator} {reply : effect.Reply}
      (before : place.duty? id = some ⟨.drive inst.id outer, none⟩)
      (found : place.orchestrator.instance? inst.id = some inst)
      (asks : inst.run.Asks effect onward)
      (told : stopped = true → ∃ task, place.task? id = some task ∧ task.stopRequested = true)
      (replies : place.orchestrator.Replies stopped effect after reply)
      (orchestrator : next.orchestrator =
        after.changeRun inst.id fun run => { run with phase := onward reply })
      (duty : next.duty? = place.duty?) : Ticks place next
  | nested {id : TaskId} {inst : Instance} {outer : List String} {graph : String}
      {initial : Initial} {onward : Fallible Result → Phase} {definition : Definition}
      (before : place.duty? id = some ⟨.drive inst.id outer, none⟩)
      (found : place.orchestrator.instance? inst.id = some inst)
      (asks : inst.run.Asks (.start graph initial) onward)
      (known : place.orchestrator.registry.get graph = .ok definition)
      (orchestrator :
        next.orchestrator = (place.orchestrator.openInstance definition initial).1)
      (duty : next.duty? = Function.update place.duty? id
        (some ⟨.drive place.orchestrator.nextId (inst.id :: outer), none⟩)) :
      Ticks place next
  | ended {id : TaskId} {inst : Instance} {last : Run} {ending : Ending}
      (running : place.running = some id)
      (before : place.duty? id = some ⟨.drive inst.id [], none⟩)
      (found : place.orchestrator.instance? inst.id = some inst)
      (isOver : inst.run.move (place.orchestrator.circumstances inst) = .over last ending)
      (orchestrator : next.orchestrator = (place.orchestrator.concluded inst last ending).1)
      (duty : next.duty? = Function.update place.duty? id
        (some ⟨.drive inst.id [],
          some (conclusionOf (place.orchestrator.concluded inst last ending).2)⟩)) :
      Ticks place next
  | returned {id : TaskId} {inst : Instance} {waiting : String} {outer : List String} {last : Run}
      {ending : Ending} (running : place.running = some id)
      (before : place.duty? id = some ⟨.drive inst.id (waiting :: outer), none⟩)
      (found : place.orchestrator.instance? inst.id = some inst)
      (isOver : inst.run.move (place.orchestrator.circumstances inst) = .over last ending)
      (orchestrator : next.orchestrator =
        (place.orchestrator.concluded inst last ending).1.changeRun waiting
          (·.receive (place.orchestrator.concluded inst last ending).2))
      (duty : next.duty? =
        Function.update place.duty? id (some ⟨.drive waiting outer, none⟩)) :
      Ticks place next

inductive Happens (place next : Workplace) : Prop
  | ticked (h : place.tick? = some next) (ticks : Ticks place next) : Happens place next
  | beside (beside : place.orchestrator.Beside next.orchestrator)
      (duty : next.duty? = place.duty?) : Happens place next
  | cancelled (id : String) (orchestrator : next.orchestrator = (place.orchestrator.cancel id).1)
      (duty : next.duty? = place.duty?) : Happens place next
  | touched {inst : Instance} (found : place.orchestrator.instance? inst.id = some inst)
      (data : Data) (orchestrator : next.orchestrator = place.orchestrator.put (inst.withData data))
      (duty : next.duty? = place.duty?) : Happens place next
  | called (graph : String) (initial : Initial)
      (orchestrator : next.orchestrator = place.orchestrator)
      (new : place.task? place.tasks.length = none)
      (duty : next.duty? = Function.update place.duty? place.tasks.length
        (some ⟨.call graph initial, none⟩)) : Happens place next
  | submitted {graph : String} {initial : Initial} {definition : Definition}
      (known : place.orchestrator.registry.get graph = .ok definition)
      (orchestrator :
        next.orchestrator = (place.orchestrator.openInstance definition initial).1)
      (new : place.task? place.tasks.length = none)
      (duty : next.duty? = Function.update place.duty? place.tasks.length
        (some ⟨.drive place.orchestrator.nextId [], none⟩)) : Happens place next

/-! ### What does not concern drivers -/

theorem duty?_of_task? {place : Workplace} {id : TaskId} {task : Task}
    (found : place.task? id = some task) : place.duty? id = task.duty? := by
  rw [duty?, found]
  rfl

theorem duty?_spawn (place : Workplace) (activity : Activity) (watchers : List Watcher) :
    (place.spawn activity watchers).1.duty? =
      Function.update place.duty? place.tasks.length ({ activity, watchers } : Task).duty? := by
  funext id
  rw [Function.update_apply, duty?, task?_spawn]
  split <;> rfl

theorem duty?_spawn_waiter {place : Workplace} {activity : Activity} {watchers : List Watcher}
    (new : place.task? place.tasks.length = none) (waits : activity.errand? = none) :
    (place.spawn activity watchers).1.duty? = place.duty? := by
  rw [duty?_spawn, Function.update_eq_self_iff, Task.duty?, waits, duty?, new]
  rfl

theorem duty?_updateTask (place : Workplace) (id : TaskId) (change : Task → Task) :
    (place.updateTask id change).duty? =
      Function.update place.duty? id (((place.task? id).map change).bind (·.duty?)) := by
  funext other
  rw [Function.update_apply, duty?, task?_updateTask]
  split
  · next h => rw [h]
  · rfl

theorem aside_updateTask {place : Workplace} {id : TaskId} {change : Task → Task}
    (same : ∀ task, place.task? id = some task → (change task).duty? = task.duty?) :
    Aside place (place.updateTask id change) := by
  refine ⟨rfl, ?_⟩
  rw [duty?_updateTask, Function.update_eq_self_iff, duty?]
  cases found : place.task? id with
  | none => rfl
  | some task => exact same task found

theorem Aside.refl (place : Workplace) : Aside place place :=
  ⟨rfl, rfl⟩

theorem Aside.trans {first second third : Workplace} (before : Aside first second)
    (after : Aside second third) : Aside first third :=
  ⟨after.orchestrator.trans before.orchestrator, after.duty.trans before.duty⟩

theorem aside_of_tasks {place next : Workplace}
    (orchestrator : next.orchestrator = place.orchestrator)
    (tasks : next.tasks = place.tasks) : Aside place next := by
  refine ⟨orchestrator, ?_⟩
  funext id
  rw [duty?, task?, tasks]
  rfl

theorem aside_waiter {place : Workplace} {id : TaskId} {change : Task → Task}
    (idle : place.duty? id = none)
    (waits : ∀ task, task.duty? = none → (change task).duty? = none) :
    Aside place (place.updateTask id change) := by
  apply aside_updateTask
  intro task found
  have idle := (duty?_of_task? found).symm.trans idle
  rw [idle, waits task idle]

theorem InLine.atDuty {place : Workplace} {held : List TaskId} {id : TaskId} {duty : Duty}
    (inLine : place.InLine held) (inPlace : place.stands id + held.count id ≠ 0)
    (found : place.duty? id = some duty) : duty.conclusion? = none := by
  obtain ⟨task, htask, hduty⟩ := Option.bind_eq_some_iff.mp found
  have isDriver : task.isDriver = true := by
    by_contra waits
    rw [Task.duty?_of_waiter (by simpa using waits)] at hduty
    contradiction
  obtain ⟨errand, _, rfl⟩ := Option.map_eq_some_iff.mp hduty
  have live := inLine.live htask isDriver inPlace
  simpa [Task.hasEnded] using live

theorem aside_restanding {place : Workplace} {id : TaskId} {standing : Standing}
    (live : ∀ duty, place.duty? id = some duty → duty.conclusion? = none)
    (going : ∀ conclusion, standing ≠ .ended conclusion) :
    Aside place (place.updateTask id fun task => { task with standing }) := by
  apply aside_updateTask
  intro task found
  rw [duty?_of_task? found] at live
  have going : ({ task with standing } : Task).conclusion? = none := by
    cases standing with
    | ended conclusion => exact absurd rfl (going conclusion)
    | _ => rfl
  unfold Task.duty? at live ⊢
  rw [going]
  cases herrand : task.activity.errand? with
  | none => rfl
  | some errand =>
      rw [herrand] at live
      have live : task.conclusion? = none := live _ rfl
      rw [live]

theorem aside_wake {place : Workplace} {id : TaskId}
    (live : ∀ duty, place.duty? id = some duty → duty.conclusion? = none) :
    Aside place (place.wake id) := by
  have ready : Aside place (place.updateTask id fun task => { task with standing := .ready }) :=
    aside_restanding live fun _ => by simp
  exact ready.trans (aside_of_tasks rfl rfl)

theorem aside_park {place : Workplace} {id : TaskId}
    (live : ∀ duty, place.duty? id = some duty → duty.conclusion? = none) :
    Aside place (place.park id) := by
  have parked : Aside place (place.updateTask id fun task => { task with standing := .parked }) :=
    aside_restanding live fun _ => by simp
  exact parked.trans (aside_of_tasks rfl rfl)

theorem aside_endTask {place : Workplace} {id : TaskId} (idle : place.duty? id = none)
    (conclusion : Conclusion) : Aside place (place.endTask id conclusion) := by
  have ended : Aside place (place.updateTask id fun task =>
      { task with standing := .ended conclusion, watchers := [] }) := by
    apply aside_waiter idle
    intro task waits
    unfold Task.duty? at waits ⊢
    rw [Option.map_eq_none_iff] at waits ⊢
    exact waits
  exact ended.trans (aside_of_tasks rfl rfl)

theorem aside_awaitTask {place : Workplace} {id : TaskId} (idle : place.duty? id = none)
    (other : TaskId) : Aside place (place.awaitTask id other) := by
  have told :
      Aside place (place.updateTask id fun task => { task with activity := .await other }) :=
    aside_waiter idle fun _ _ => rfl
  have still := told.duty ▸ idle
  unfold awaitTask
  dsimp only
  split
  · exact told.trans (aside_endTask still _)
  · have watched : Aside place ((place.updateTask id fun task =>
        { task with activity := .await other }).updateTask other fun task =>
          { task with watchers := task.watchers ++ [.wake id] }) :=
      told.trans (aside_updateTask fun _ _ => rfl)
    refine watched.trans (aside_park ?_)
    intro duty atDuty
    rw [watched.duty, idle] at atDuty
    contradiction

theorem aside_wait {place : Workplace} {id : TaskId} (idle : place.duty? id = none)
    (instanceId : String) : Aside place (place.wait id instanceId) := by
  unfold wait
  split
  · exact aside_awaitTask idle _
  · exact aside_endTask idle _

theorem aside_watchAll (id : TaskId) (tasks : List TaskId) (place : Workplace) :
    Aside place (tasks.foldl (watchEnd id) place) := by
  induction tasks generalizing place with
  | nil => exact .refl place
  | cons other rest ih =>
      refine Aside.trans ?_ (ih _)
      unfold watchEnd
      split
      · exact aside_of_tasks rfl rfl
      · exact aside_updateTask fun _ _ => rfl

theorem orchestrator_shutdown (place : Workplace) (id : TaskId) :
    (place.shutdown id).orchestrator = (place.orchestrator.active.map (·.id)).foldl
      (fun orchestrator id => (orchestrator.cancel id).1) place.orchestrator := by
  unfold shutdown
  dsimp only
  split
  · rfl
  · exact (aside_watchAll id _ _).orchestrator

theorem duty?_shutdown {place : Workplace} {id : TaskId} (idle : place.duty? id = none) :
    (place.shutdown id).duty? = place.duty? := by
  unfold shutdown
  dsimp only
  generalize (place.orchestrator.active.map (·.id)).foldl
    (fun orchestrator id => (orchestrator.cancel id).1) place.orchestrator = orchestrator
  have idle : (place.withOrchestrator orchestrator).duty? id = none := idle
  split
  · exact (aside_endTask idle _).duty
  · have watched := aside_watchAll id (place.submitted.map (·.2))
        (place.withOrchestrator orchestrator)
    have told : Aside (place.withOrchestrator orchestrator)
        (((place.submitted.map (·.2)).foldl (watchEnd id)
          (place.withOrchestrator orchestrator)).updateTask id fun task =>
            { task with
              activity :=
                .gather (place.submitted.map (·.2)) (place.submitted.map (·.2)).length false }) :=
      watched.trans (aside_waiter (watched.duty ▸ idle) fun _ _ => rfl)
    refine (told.trans (aside_park ?_)).duty
    intro duty atDuty
    rw [told.duty, idle] at atDuty
    contradiction

theorem InLine.atGate {place : Workplace} {held : List TaskId} (inLine : place.InLine held)
    {entry : String × TaskId} (member : entry ∈ place.atGates) :
    ∀ duty, place.duty? entry.2 = some duty → duty.conclusion? = none := by
  intro duty found
  refine inLine.atDuty ?_ found
  have here : 0 < (place.atGates.map (·.2)).count entry.2 :=
    List.count_pos_iff.mpr (List.mem_map.mpr ⟨entry, member, rfl⟩)
  simp only [stands]
  omega

theorem aside_requestStop {place : Workplace} {held : List TaskId} (inLine : place.InLine held)
    (id : TaskId) : Aside place (place.requestStop id) := by
  have told : Aside place (place.updateTask id fun task => { task with stopRequested := true }) :=
    aside_updateTask fun _ _ => rfl
  unfold requestStop
  dsimp only
  split
  · next atGate =>
      obtain ⟨entry, member, hentry⟩ := List.any_eq_true.mp atGate
      have hentry : entry.2 = id := by simpa using hentry
      have called : Aside place
          { place.updateTask id fun task => { task with stopRequested := true } with
            atGates := place.atGates.filter (·.2 != id) } :=
        told.trans (aside_of_tasks rfl rfl)
      refine called.trans (aside_wake ?_)
      rw [called.duty, ← hentry]
      exact inLine.atGate member
  · exact told

theorem aside_openGate {place : Workplace} {held : List TaskId} (inLine : place.InLine held)
    (gate : String) : Aside place (place.openGate gate) := by
  unfold openGate
  simp only [List.partition_eq_filter_filter]
  have woken : ∀ (entries : List (String × TaskId)) (place : Workplace),
      (∀ entry ∈ entries, ∀ duty, place.duty? entry.2 = some duty → duty.conclusion? = none) →
      Aside place (entries.foldl (fun place entry => place.wake entry.2) place) := by
    intro entries
    induction entries with
    | nil => exact fun place _ => .refl place
    | cons entry rest ih =>
        intro place live
        have first := aside_wake (live entry List.mem_cons_self)
        refine first.trans (ih _ ?_)
        rw [first.duty]
        exact fun entry member => live entry (List.mem_cons_of_mem _ member)
  have parted : Aside place
      { place with
        openGates := gate :: place.openGates
        atGates := place.atGates.filter (not ∘ fun entry => entry.1 == gate) } :=
    aside_of_tasks rfl rfl
  refine parted.trans (woken _ _ ?_)
  intro entry member
  exact inLine.atGate (List.mem_filter.mp member).1

theorem aside_stop {depth : Nat} {place : Workplace} {id : TaskId} {held : List TaskId}
    (inLine : place.InLine held) : Aside place (stop depth place id).1 := by
  induction depth generalizing place id with
  | zero => exact .refl place
  | succ depth ih =>
      unfold stop
      cases found : place.task? id with
      | none => exact .refl place
      | some task =>
          dsimp only
          split
          · exact .refl place
          · split
            · split
              · exact ih inLine
              · exact (ih inLine).trans (aside_requestStop inLine.stop _)
            · next tasks left _ isGather =>
                obtain ⟨aside, stays⟩ := stopAll_of_stop
                  (motive := fun place next =>
                    place.InLine held → Aside place next ∧ next.InLine held)
                  (fun _ inLine => ⟨.refl _, inLine⟩)
                  (fun _ _ _ first second inLine =>
                    ⟨(first inLine).1.trans (second (first inLine).2).1,
                      (second (first inLine).2).2⟩)
                  (fun _ _ inLine => ⟨ih inLine, inLine.stop⟩) tasks (place, false) inLine
                split
                · refine aside.trans (aside_waiter ?_ fun _ _ => rfl)
                  rw [aside.duty, duty?_of_task? found, Task.duty?, isGather]
                  rfl
                · exact aside.trans (aside_requestStop stays _)
            · exact aside_requestStop inLine id

theorem aside_countEnd (place : Workplace) (id : TaskId) : Aside place (place.countEnd id) := by
  unfold countEnd
  split
  · exact .refl place
  · next task found =>
      split
      · next tasks left stopped isGather =>
          have told : Aside place (place.updateTask id fun task =>
              { task with activity := .gather tasks (left - 1) stopped }) := by
            refine aside_waiter ?_ fun _ _ => rfl
            rw [duty?_of_task? found, Task.duty?, isGather]
            rfl
          dsimp only
          split
          · exact told.trans (aside_of_tasks rfl rfl)
          · exact told
      · exact .refl place

/-! ### What a driver does -/

theorem duty?_endTask {place : Workplace} {id : TaskId} {errand : Errand}
    {before : Option Conclusion} (duty : place.duty? id = some ⟨errand, before⟩)
    (conclusion : Conclusion) :
    (place.endTask id conclusion).duty? =
      Function.update place.duty? id (some ⟨errand, some conclusion⟩) := by
  obtain ⟨task, found, hduty⟩ := Option.bind_eq_some_iff.mp duty
  obtain ⟨_, herrand, heq⟩ := Option.map_eq_some_iff.mp hduty
  cases heq
  have ended := duty?_updateTask place id fun task =>
    { task with standing := .ended conclusion, watchers := [] }
  rw [found] at ended
  refine ended.trans (congrArg _ ?_)
  simp only [Option.map_some, Option.bind_some, Task.duty?, herrand]
  rfl

theorem duty?_driving {place : Workplace} {id : TaskId} {task : Task} {change : Task → Task}
    {innermost : String} {outer : List String} (found : place.task? id = some task)
    (drives : (change task).activity = .drive innermost outer)
    (live : (change task).conclusion? = none) :
    (place.updateTask id change).duty? =
      Function.update place.duty? id (some ⟨.drive innermost outer, none⟩) := by
  rw [duty?_updateTask, found]
  congr 1
  simp only [Option.map_some, Option.bind_some, Task.duty?, drives, live]
  rfl

theorem duty?_updateRun (place : Workplace) (id : String) (change : Run → Run) :
    (place.updateRun id change).duty? = place.duty? := by
  unfold updateRun
  split <;> rfl

theorem orchestrator_updateRun (place : Workplace) (id : String) (change : Run → Run) :
    (place.updateRun id change).orchestrator = place.orchestrator.changeRun id change := by
  unfold updateRun Orchestrator.changeRun
  cases place.orchestrator.instance? id <;> rfl

end Workplace

namespace Orchestrator

theorem changeRun_of_some {orchestrator : Orchestrator} {inst : Instance} {change : Run → Run}
    (found : orchestrator.instance? inst.id = some inst) :
    orchestrator.changeRun inst.id change =
      orchestrator.put { inst with run := change inst.run } := by
  rw [changeRun, found]

theorem put_self {orchestrator : Orchestrator} (numbered : orchestrator.Numbered) {inst : Instance}
    (found : orchestrator.instance? inst.id = some inst) :
      orchestrator.put inst = orchestrator := by
  have same : orchestrator.instances.map (fun other => if other.id = inst.id then inst else other) =
      orchestrator.instances := by
    conv_rhs => rw [← List.map_id orchestrator.instances]
    apply List.map_congr_left
    intro other member
    split
    · next h =>
        have hother := (instance?_eq_some_iff numbered).mpr ⟨member, h⟩
        exact Option.some.inj (found.symm.trans hother)
    · rfl
  rw [put, same]

end Orchestrator

namespace Workplace

/-- A run is taken up again where it gave up the turn, or it is not waiting for that. -/
theorem resume_eq (run : Run) (stopped : Bool) :
    run.resume stopped = run ∨
      ∃ (effect : Effect) (onward : effect.Reply → Phase) (reply : effect.Reply),
        run.Asks effect onward ∧ run.resume stopped = { run with phase := onward reply } ∧
        ∀ orchestrator : Orchestrator,
          orchestrator.Replies stopped effect orchestrator reply := by
  unfold Run.resume
  split
  · next spec rest next phase =>
      exact .inr ⟨.pause, _, stopped, .step phase, rfl, fun _ => .pause⟩
  · next spec rest name next phase =>
      exact .inr ⟨.gate name, _, stopped, .step phase, rfl, fun _ => .gate name⟩
  · exact .inl rfl

section Turns

variable {place begun : Workplace} {id : TaskId} {task : Task}

private theorem ticks_resume {innermost : String} {outer : List String} {stopped : Bool}
    (sound : place.Sound) (found : place.task? id = some task) (live : task.conclusion? = none)
    (isDrive : task.activity = .drive innermost outer)
    (told : stopped = true → task.stopRequested = true) (began : Aside place begun) :
    Ticks place (begun.updateRun innermost (·.resume stopped)) := by
  obtain ⟨inst, hinst⟩ := sound.opened id task found innermost (by simp [Task.drives, isDrive])
  have hid := Orchestrator.id_of_instance? hinst
  subst hid
  have before : place.duty? id = some ⟨.drive inst.id outer, none⟩ := by
    rw [duty?_of_task? found, Task.duty?, isDrive, live]
    rfl
  have orchestrator : (begun.updateRun inst.id (·.resume stopped)).orchestrator =
      place.orchestrator.put { inst with run := inst.run.resume stopped } := by
    rw [orchestrator_updateRun, began.orchestrator, Orchestrator.changeRun_of_some hinst]
  have duty := (duty?_updateRun begun inst.id (·.resume stopped)).trans began.duty
  rcases resume_eq inst.run stopped with same | ⟨effect, onward, reply, asks, same, replies⟩
  · rw [same, Orchestrator.put_self sound.numbered hinst] at orchestrator
    exact .aside ⟨orchestrator, duty⟩
  · refine .answered before hinst asks (fun h => ⟨task, found, told h⟩)
      (replies place.orchestrator) ?_ duty
    rw [orchestrator, Orchestrator.changeRun_of_some hinst, same]

private theorem ticks_interrupt (sound : place.Sound) (found : place.task? id = some task)
    (live : task.conclusion? = none) (stopped : task.stopRequested = true)
    (began : Aside place begun) : Ticks place (begun.interrupt id task) := by
  unfold interrupt
  split
  · next isDrive _ => exact ticks_resume sound found live isDrive (fun _ => stopped) began
  · cases herrand : task.activity.errand? with
    | none =>
        have idle : begun.duty? id = none := by
          rw [began.duty, duty?_of_task? found, Task.duty?, herrand]
          rfl
        exact .aside (began.trans (aside_endTask idle _))
    | some errand =>
        have before : place.duty? id = some ⟨errand, none⟩ := by
          rw [duty?_of_task? found, Task.duty?, herrand, live]
          rfl
        refine .dismissed found stopped before began.orchestrator ?_
        rw [duty?_endTask (began.duty ▸ before), began.duty]

private theorem ticks_proceed (sound : place.Sound) (found : place.task? id = some task)
    (live : task.conclusion? = none) (began : Aside place begun) :
    Ticks place (begun.proceed id task) := by
  have idle : task.activity.errand? = none → begun.duty? id = none := by
    intro herrand
    rw [began.duty, duty?_of_task? found, Task.duty?, herrand]
    rfl
  unfold proceed
  split
  · exact .aside began
  · next isDrive =>
      split
      · exact ticks_resume sound found live isDrive (fun h => by cases h) began
      · exact .aside began
  · exact .aside began
  · next isAwait =>
      exact .aside (began.trans (aside_awaitTask (idle (by rw [isAwait]; rfl)) _))
  · exact .aside began
  · next isGather =>
      have idle := idle (by rw [isGather]; rfl)
      split
      · exact .aside (began.trans (aside_endTask idle _))
      · have emptied : Aside place { begun with submitted := [] } :=
          began.trans (aside_of_tasks rfl rfl)
        have idle : ({ begun with submitted := [] } : Workplace).duty? id = none := idle
        exact .aside (emptied.trans (aside_endTask idle _))

theorem ticks_beginTurn (sound : place.Sound) (queue : List Job) (id : TaskId) :
    Ticks place ({ place with queue }.beginTurn id) := by
  have taken : Aside place { place with queue } := aside_of_tasks rfl rfl
  unfold beginTurn
  split
  · exact .aside taken
  · next task found =>
      have found : place.task? id = some task := found
      split
      · exact .aside taken
      · next live =>
          have live : task.conclusion? = none := by simpa [Task.hasEnded] using live
          have told : Aside place ({ place with queue }.updateTask id fun task =>
              { task with standing := .ready, begun := true, stopRequested := false }) := by
            refine taken.trans (aside_updateTask fun other hother => ?_)
            cases found.symm.trans hother
            rw [Task.duty?, Task.duty?, live]
            rfl
          have began : Aside place
              { ({ place with queue }.updateTask id fun task =>
                  { task with standing := .ready, begun := true, stopRequested := false }) with
                running := some id } := told.trans (aside_of_tasks rfl rfl)
          dsimp only
          split
          · next stopped => exact ticks_interrupt sound found live stopped began
          · exact ticks_proceed sound found live began

/-! ### One move of the task that has the turn -/

private theorem ticks_answer {inst : Instance} {outer : List String} {effect : Effect}
    {onward : effect.Reply → Phase} (before : place.duty? id = some ⟨.drive inst.id outer, none⟩)
    (found : place.task? id = some task) (live : task.conclusion? = none)
    (hinst : place.orchestrator.instance? inst.id = some inst)
    (asks : inst.run.Asks effect onward) :
    Ticks place (place.answer id inst outer effect onward) := by
  have atDuty : ∀ duty, place.duty? id = some duty → duty.conclusion? = none := by
    intro duty h
    cases before.symm.trans h
    rfl
  -- A question that is answered at once.
  have replied : ∀ {after : Orchestrator} {reply : effect.Reply},
      place.orchestrator.Replies false effect after reply →
      Ticks place ((place.withOrchestrator after).setPhase inst.id (onward reply)) := by
    intro after reply replies
    refine .answered before hinst asks (fun h => by cases h) replies ?_ ?_
    · exact orchestrator_updateRun _ _ _
    · exact duty?_updateRun _ _ _
  cases effect with
  | act deed => exact replied (.act deed)
  | pause =>
      have left : Aside place { place with running := none } := aside_of_tasks rfl rfl
      exact .aside (left.trans (aside_wake (left.duty ▸ atDuty)))
  | gate name =>
      simp only [answer]
      split
      · exact replied (.gate name)
      · have entered : Aside place { place with atGates := place.atGates ++ [(name, id)] } :=
          aside_of_tasks rfl rfl
        exact .aside (entered.trans (aside_park (entered.duty ▸ atDuty)))
  | start graph initial =>
      simp only [answer]
      split
      · next missing => exact replied (.unknown missing)
      · next definition known =>
          have found : (place.withOrchestrator
              (place.orchestrator.openInstance definition initial).1).task? id = some task := found
          exact .nested before hinst asks known rfl (duty?_driving found rfl live)
  | consult inquiry => exact replied (.consult inquiry)

private theorem ticks_drive {innermost : String} {outer : List String} (sound : place.Sound)
    (running : place.running = some id) (found : place.task? id = some task)
    (live : task.conclusion? = none) (isDrive : task.activity = .drive innermost outer) :
    Ticks place (place.drive id innermost outer) := by
  have before : place.duty? id = some ⟨.drive innermost outer, none⟩ := by
    rw [duty?_of_task? found, Task.duty?, isDrive, live]
    rfl
  unfold drive
  split
  · next missing =>
      obtain ⟨inst, hinst⟩ := sound.opened id task found innermost (by simp [Task.drives, isDrive])
      rw [missing] at hinst
      contradiction
  · next inst hinst =>
      have hid := Orchestrator.id_of_instance? hinst
      subst hid
      split
      · next run events moved => exact .moved before hinst moved rfl rfl
      · next effect onward asked =>
          exact ticks_answer before found live hinst (Run.asks_of_move asked)
      · next last ending isOver =>
          cases outer with
          | nil =>
              have atDuty : (place.withOrchestrator
                  (place.orchestrator.concluded inst last ending).1).duty? id = _ := before
              exact .ended running before hinst isOver rfl (duty?_endTask atDuty _)
          | cons waiting outer =>
              have found : (place.withOrchestrator
                  (place.orchestrator.concluded inst last ending).1).task? id = some task := found
              refine .returned running before hinst isOver ?_ ?_
              · exact orchestrator_updateRun _ _ _
              · exact (duty?_updateRun _ _ _).trans (duty?_driving found rfl live)

theorem ticks_advance (sound : place.Sound) (running : place.running = some id)
    (found : place.task? id = some task) : Ticks place (place.advance id task) := by
  have live := sound.live id running task found
  have before : ∀ errand, task.activity.errand? = some errand →
      place.duty? id = some ⟨errand, none⟩ := by
    intro errand herrand
    rw [duty?_of_task? found, Task.duty?, herrand, live]
    rfl
  have idle : task.activity.errand? = none → place.duty? id = none := by
    intro herrand
    rw [duty?_of_task? found, Task.duty?, herrand]
    rfl
  unfold advance
  split
  · next graph initial isStart =>
      have before := before _ (by rw [isStart]; rfl)
      split
      · next missing => exact .refused before missing rfl (duty?_endTask before _)
      · next definition known =>
          have found : (place.withOrchestrator
              (place.orchestrator.openInstance definition initial).1).task? id = some task := found
          exact .begun before known rfl (duty?_driving found rfl live)
  · next isDrive => exact ticks_drive sound running found live isDrive
  · next isWait => exact .aside (aside_wait (idle (by rw [isWait]; rfl)) _)
  · next isAwait => exact .aside (aside_awaitTask (idle (by rw [isAwait]; rfl)) _)
  · next isShutdown =>
      have idle := idle (by rw [isShutdown]; rfl)
      exact .shutdown running found isShutdown (orchestrator_shutdown place id)
        (duty?_shutdown idle)
  · next isGather =>
      refine .aside (aside_park ?_)
      rw [idle (by rw [isGather]; rfl)]
      intro duty h
      cases h

theorem tick?_of_running (running : place.running = some id) (found : place.task? id = some task) :
    place.tick? = some (place.advance id task) := by
  simp only [tick?, running, found]

theorem ticks_tick? {next : Workplace} (sound : place.Sound) (h : place.tick? = some next) :
    Ticks place next := by
  unfold tick? at h
  split at h
  · next id running =>
      split at h
      · cases h
        exact .aside (aside_of_tasks rfl rfl)
      · next task found =>
          cases h
          exact ticks_advance sound running found
  · split at h
    · cases h
    · next job queue _ =>
        cases h
        have taken : Aside place { place with queue } := aside_of_tasks rfl rfl
        cases job with
        | turn id => exact ticks_beginTurn sound queue id
        | release instanceId task => exact .aside (aside_of_tasks rfl rfl)
        | count id => exact .aside (taken.trans (aside_countEnd _ id))

end Turns

theorem Next.happens {place next : Workplace} (sound : place.Sound) (inLine : place.InLine [])
    (happening : Next place next) : Happens place next := by
  have new : place.task? place.tasks.length = none := List.getElem?_eq_none (Nat.le_refl _)
  have same : place.orchestrator.Beside place.orchestrator := ⟨rfl, rfl, .inl rfl⟩
  cases happening with
  | tick h => exact .ticked h (ticks_tick? sound h)
  | start graph initial => exact .called graph initial rfl new (duty?_spawn _ _ _)
  | @submit graph initial _ _ h =>
      unfold Workplace.submit at h
      split at h
      · cases h
      · next definition known =>
          cases h
          exact .submitted known rfl new (duty?_spawn _ _ _)
  | wait id => exact .beside same (duty?_spawn_waiter new rfl)
  | shutdown => exact .beside same (duty?_spawn_waiter new rfl)
  | cancel id => exact .cancelled id rfl rfl
  | abort id =>
      have aside : Aside place (place.abort id).1 := aside_stop inLine
      exact .beside (aside.orchestrator ▸ same) aside.duty
  | @register definition after h =>
      unfold Orchestrator.register at h
      obtain ⟨registry, registered, h⟩ := Fallible.bind_eq_ok_iff.mp h
      cases h
      exact .beside ⟨rfl, rfl, .inr ⟨definition, registered⟩⟩ rfl
  | registerApart => exact .beside ⟨rfl, rfl, .inl rfl⟩ rfl
  | clock => exact .beside ⟨rfl, rfl, .inl rfl⟩ rfl
  | services => exact .beside ⟨rfl, rfl, .inl rfl⟩ rfl
  | openGate gate =>
      have aside := aside_openGate inLine gate
      exact .beside (aside.orchestrator ▸ same) aside.duty
  | closeGate gate => exact .beside same rfl
  | touch found data =>
      have hid := Orchestrator.id_of_instance? found
      exact .touched (hid ▸ found) data rfl rfl

end Workplace

end StepGraph
