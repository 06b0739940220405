import StepGraph.Proofs.Orchestrator.Workload

namespace StepGraph

namespace Workplace

variable {first place next : Workplace} {calls : TaskId → Option Call} {made : TaskId → Nat}
  {solo : Solo} {call : Call} {id other : TaskId} {key : String} {count : Nat}

theorem post?_restanding {task : Task} {standing : Standing} (found : place.task? id = some task)
    (live : task.conclusion? = none) (going : ∀ conclusion, standing ≠ .ended conclusion) :
    (place.updateTask id fun task => { task with standing }).post? = place.post? := by
  rw [post?_updateTask, Function.update_eq_self_iff, post?, found]
  have going : ({ task with standing } : Task).conclusion? = none := by
    cases standing with
    | ended conclusion => exact absurd rfl (going conclusion)
    | _ => rfl
  simp only [Option.map_some, Task.post, going, live]

theorem post?_endTask {task : Task} (found : place.task? id = some task) (conclusion : Conclusion) :
    (place.endTask id conclusion).post? = Function.update place.post? id
      (some ⟨task.activity, some conclusion, task.begun, task.stopRequested⟩) := by
  have ended := post?_updateTask place id fun task =>
    { task with standing := .ended conclusion, watchers := [] }
  rw [found] at ended
  exact ended

theorem post?_updateRun (place : Workplace) (key : String) (change : Run → Run) :
    (place.updateRun key change).post? = place.post? := by
  unfold updateRun
  split <;> rfl

theorem running_updateRun (place : Workplace) (key : String) (change : Run → Run) :
    (place.updateRun key change).running = place.running := by
  unfold updateRun
  split <;> rfl

theorem pending_updateRun (place : Workplace) (key : String) (change : Run → Run) :
    (place.updateRun key change).pending = place.pending := by
  unfold updateRun
  split <;> rfl

/-- A tick brings one driver nearer to its end, or it leaves less to do until the next does so. -/
inductive Lighter (made after : TaskId → Nat) (place next : Workplace) : Prop
  | rested (same : after = made) (less : next.pending < place.pending) :
      Lighter made after place next
  | moved {id : TaskId} {post : Post} (present : place.post? id = some post)
      (more : after = Function.update made id (made id + 1))
      (atMost : next.pending ≤ place.pending + 2) : Lighter made after place next

theorem idle_of_running (running : place.running = some id) (other : TaskId)
    (distinct : other ≠ id) :
    place.running ≠ some other :=
  fun also => distinct (Option.some.inj (also.symm.trans running))

namespace Orderly

variable {task : Task}

theorem drives {inst : Instance} (orderly : Orderly first calls made place)
    (reached : next.Reachable) (called : Called first calls id call solo)
    (idle : ∀ other, other ≠ id → place.running ≠ some other)
    (holds : place.Holds id inst.id) {conclusion : Option Conclusion} {begun stopped : Bool}
    (post : next.post? = Function.update place.post? id
      (some ⟨.drive inst.id [], conclusion, begun, stopped⟩))
    (only : place.orchestrator.OnlyAt inst.id next.orchestrator)
    (stage : Stage solo call next id count) :
    Orderly first calls (Function.update made id count) next := by
  have self : next.post? id = some ⟨.drive inst.id [], conclusion, begun, stopped⟩ := by
    rw [post, Function.update_self]
  refine orderly.act reached called (fun _ _ => rfl) ?_ ?_ only (orderly.alone holds) stage ?_
  · intro other distinct
    rw [post, Function.update_of_ne distinct]
  · exact fun other distinct atTurn => absurd atTurn (idle other distinct)
  · intro held also
    rw [also.eq self rfl]
    exact orderly.alone holds

theorem opens (orderly : Orderly first calls made place) (called : Called first calls id call solo)
    (running : place.running = some id) (found : place.task? id = some task)
    (isStart : task.activity = .start call.graph call.initial) (live : task.conclusion? = none)
    (calm : task.stopRequested = false) (uncalled : made id = 0)
    (reached : (place.advance id task).Reachable) :
    ∃ after, Orderly first calls after (place.advance id task) ∧
      Lighter made after place (place.advance id task) := by
  obtain ⟨definition, known, begins⟩ := Orchestrator.lone_eq_ok called.isLone
  have alike : (place.orchestrator.opening definition call.initial).run.Alike solo.run := by
    rw [begins]
    exact Orchestrator.alike_opening orderly.graphs definition called.own
  have known : place.orchestrator.registry.get call.graph = .ok definition := by
    rw [orderly.graphs.registry, known]
  have numbered := orderly.reachable.sound.numbered
  let key := place.orchestrator.nextId
  let opened := place.withOrchestrator
    (place.orchestrator.openInstance definition call.initial).1
  let change (task : Task) : Task := { task with activity := .drive key [], opened := some key }
  have hnext : place.advance id task = opened.updateTask id change := by
    simp only [advance, isStart, known]
    rfl
  rw [hnext] at reached ⊢
  have found : opened.task? id = some task := found
  have post : (opened.updateTask id change).post? =
      Function.update place.post? id (some ⟨.drive key [], none, task.begun, false⟩) := by
    have changed : (change task).post =
        ⟨.drive key [], task.conclusion?, task.begun, task.stopRequested⟩ := rfl
    rw [post?_updateTask, found, Option.map_some, Option.map_some, changed, live, calm]
    rfl
  have self : (opened.updateTask id change).post? id = _ :=
    (congrFun post id).trans (Function.update_self _ _ _)
  have stage : Stage solo call (opened.updateTask id change) id (made id + 1) := by
    rw [uncalled]
    refine .driving self (fun _ => .inl running) ?_ rfl rfl .start alike
    exact (Orchestrator.instance?_openInstance numbered definition call.initial key).trans
      (if_pos rfl)
  refine ⟨_, orderly.act reached called (fun _ _ => rfl) ?_ ?_
    (Orchestrator.onlyAt_openInstance numbered definition call.initial)
    (fun other _ => orderly.vacant other) stage ?_, ?_⟩
  · intro other distinct
    rw [post, Function.update_of_ne distinct]
  · exact fun other distinct atTurn => absurd atTurn (idle_of_running running other distinct)
  · intro held also other _
    rw [also.eq self rfl]
    exact orderly.vacant other
  · have weight := pending_updateTask found change
    have present : place.post? id = some task.post := post?_of_task? found
    refine .moved present rfl ?_
    have same : (change task).pending = task.pending := rfl
    have rest : opened.pending = place.pending := rfl
    omega

end Orderly

/-- A task drives the instance of its call, which stands as the run of the call by itself does after
some moves; and nobody else has the turn. -/
structure Driver (first : Workplace) (calls : TaskId → Option Call) (made : TaskId → Nat)
    (place : Workplace) (id : TaskId) (task : Task) (call : Call) (solo : Solo) (inst : Instance)
    (moves : Nat) (lone : Solo) : Prop where
  called : Called first calls id call solo
  idle : ∀ other, other ≠ id → place.running ≠ some other
  found : place.task? id = some task
  isDrive : task.activity = .drive inst.id []
  live : task.conclusion? = none
  calm : task.stopRequested = false
  opened : place.orchestrator.instance? inst.id = some inst
  active : inst.isActive = true
  tracked : inst.parted = none
  comes : solo.Comes moves lone
  alike : inst.run.Alike lone.run
  count : made id = moves + 1

namespace Driver

variable {task : Task} {inst : Instance} {moves : Nat} {lone : Solo}

theorem present (driver : Driver first calls made place id task call solo inst moves lone) :
    place.post? id = some ⟨.drive inst.id [], none, task.begun, false⟩ := by
  rw [post?, driver.found, Option.map_some, Task.post, driver.isDrive, driver.live, driver.calm]

theorem holds (driver : Driver first calls made place id task call solo inst moves lone) :
    place.Holds id inst.id :=
  ⟨_, driver.present, rfl⟩

theorem unchanged (driver : Driver first calls made place id task call solo inst moves lone)
    (post : next.post? = place.post?) :
    next.post? = Function.update place.post? id
      (some ⟨.drive inst.id [], none, task.begun, false⟩) :=
  post.trans (Function.update_eq_self_iff.mpr driver.present.symm).symm

theorem goes (driver : Driver first calls made place id task call solo inst moves lone)
    (orderly : Orderly first calls made place)
    (running : place.running = some id) {run : Run} {events : List Event}
    (goes : inst.run.move (place.orchestrator.circumstances inst) = .go run events)
    (reached : (place.advance id task).Reachable) :
    ∃ after, Orderly first calls after (place.advance id task) ∧
      Lighter made after place (place.advance id task) := by
  obtain ⟨blind, told⟩ :=
    orderly.circumstances driver.called driver.active driver.comes driver.alike
  obtain ⟨later, advanced, alike⟩ := Solo.advance_of_go driver.alike blind told goes
  let moved := inst.follow run events
  let next := place.withOrchestrator ((place.orchestrator.put moved).note events)
  have hnext : place.advance id task = next := by
    simp only [advance, driver.isDrive, drive, driver.opened, goes]
    rfl
  rw [hnext] at reached ⊢
  have put := Orchestrator.onlyAt_put place.orchestrator moved
  have only : place.orchestrator.OnlyAt inst.id next.orchestrator :=
    ⟨⟨rfl, rfl, rfl⟩, put.instances, put.records⟩
  have opened : next.orchestrator.instance? moved.id = some moved :=
    Orchestrator.instance?_put_of_some driver.opened rfl
  have tracked : moved.parted = none := by
    simp only [moved, Instance.follow, driver.active, Bool.not_true, Bool.and_false,
      Bool.false_eq_true, if_false, driver.tracked]
  have stage : Stage solo call next id (made id + 1) := by
    rw [driver.count]
    exact @Stage.driving solo call next id _ moved _ _ driver.present (fun _ => .inl running)
      opened driver.active tracked (driver.comes.advance advanced) alike
  exact ⟨_, orderly.drives reached driver.called driver.idle driver.holds
    (driver.unchanged rfl) only stage, .moved driver.present rfl (Nat.le_add_right _ 2)⟩

/-- The run goes on where it has asked to give up the turn. -/
theorem resumes (driver : Driver first calls made place id task call solo inst moves lone)
    (orderly : Orderly first calls made place)
    {effect : Effect} {onward : effect.Reply → Phase} (asks : inst.run.Asks effect onward)
    (reached : next.Reachable)
    (orchestrator : next.orchestrator = place.orchestrator.changeRun inst.id fun _ =>
      { inst.run with phase := onward (lone.answer effect).2 }) {begun : Bool}
    (post : next.post? = Function.update place.post? id
      (some ⟨.drive inst.id [], none, begun, false⟩))
    (running : next.running = some id) :
    Orderly first calls (Function.update made id (made id + 1)) next := by
  obtain ⟨blind, told⟩ :=
    orderly.circumstances driver.called driver.active driver.comes driver.alike
  obtain ⟨later, advanced, alike⟩ :=
    Solo.advance_of_ask driver.alike blind told (asks.move_eq _)
  let resumed : Instance :=
    { inst with run := { inst.run with phase := onward (lone.answer effect).2 } }
  have orchestrator : next.orchestrator = place.orchestrator.put resumed :=
    orchestrator.trans (Orchestrator.changeRun_of_some driver.opened)
  have opened : next.orchestrator.instance? resumed.id = some resumed := by
    rw [orchestrator]
    exact Orchestrator.instance?_put_of_some driver.opened rfl
  have only : place.orchestrator.OnlyAt inst.id next.orchestrator := by
    rw [orchestrator]
    exact Orchestrator.onlyAt_put place.orchestrator resumed
  have self : next.post? id = _ := (congrFun post id).trans (Function.update_self _ _ _)
  refine orderly.drives reached driver.called driver.idle driver.holds post
    only ?_
  rw [driver.count]
  exact @Stage.driving solo call next id _ resumed _ _ self (fun _ => .inl running) opened
    driver.active driver.tracked (driver.comes.advance advanced) alike

theorem rests (driver : Driver first calls made place id task call solo inst moves lone)
    (orderly : Orderly first calls made place) (waits : inst.run.Waits)
    (reached : next.Reachable) (post : next.post? = place.post?)
    (orchestrator : next.orchestrator = place.orchestrator) : Orderly first calls made next := by
  have stage : Stage solo call next id (made id) := by
    rw [driver.count]
    exact .driving ((congrFun post id).trans driver.present) (fun _ => .inr waits)
      (orchestrator ▸ driver.opened) driver.active driver.tracked driver.comes driver.alike
  have only : place.orchestrator.OnlyAt inst.id next.orchestrator :=
    orchestrator ▸ .refl _ _
  have rested := orderly.drives reached driver.called driver.idle driver.holds
    (driver.unchanged post) only stage
  rwa [Function.update_eq_self] at rested

theorem pauses (driver : Driver first calls made place id task call solo inst moves lone)
    (orderly : Orderly first calls made place) (running : place.running = some id)
    (waits : inst.run.Waits) (reached : ({ place with running := none }.wake id).Reachable) :
    ∃ after, Orderly first calls after ({ place with running := none }.wake id) ∧
      Lighter made after place ({ place with running := none }.wake id) := by
  have found : ({ place with running := none } : Workplace).task? id = some task := driver.found
  have post : ({ place with running := none }.wake id).post? = place.post? :=
    post?_restanding found driver.live fun _ => by simp
  refine ⟨made, driver.rests orderly waits reached post rfl, .rested rfl ?_⟩
  have without := pending_leaveTurn running
  rw [pending_wake]
  omega

/-- A driver that comes to a closed gate waits there. -/
theorem stopsAt (driver : Driver first calls made place id task call solo inst moves lone)
    (orderly : Orderly first calls made place) (running : place.running = some id)
    (waits : inst.run.Waits) (gate : String)
    (reached : ({ place with atGates := place.atGates ++ [(gate, id)] }.park id).Reachable) :
    ∃ after,
      Orderly first calls after ({ place with atGates := place.atGates ++ [(gate, id)] }.park id) ∧
      Lighter made after place
        ({ place with atGates := place.atGates ++ [(gate, id)] }.park id) := by
  let there : Workplace := { place with atGates := place.atGates ++ [(gate, id)] }
  have found : there.task? id = some task := driver.found
  have post : (there.park id).post? = place.post? :=
    post?_restanding found driver.live fun _ => by simp
  refine ⟨made, driver.rests orderly waits reached post rfl, .rested rfl ?_⟩
  have parked : (there.park id).pending + 3 = there.pending := pending_park running
  have entered : there.pending = place.pending + 2 := by
    simp only [pending, there, List.length_append, List.length_singleton]
    omega
  change (there.park id).pending < place.pending
  omega

theorem passes (driver : Driver first calls made place id task call solo inst moves lone)
    (orderly : Orderly first calls made place) (running : place.running = some id) {gate : String}
    {onward : Bool → Phase} (asks : inst.run.Asks (.gate gate) onward)
    (reached : (place.setPhase inst.id (onward false)).Reachable) :
    ∃ after, Orderly first calls after (place.setPhase inst.id (onward false)) ∧
      Lighter made after place (place.setPhase inst.id (onward false)) := by
  have post := driver.unchanged (post?_updateRun place inst.id fun run =>
    { run with phase := onward false })
  have orchestrator : (place.setPhase inst.id (onward false)).orchestrator =
      place.orchestrator.changeRun inst.id fun _ => { inst.run with phase := onward false } := by
    rw [setPhase, orchestrator_updateRun, Orchestrator.changeRun_of_some driver.opened,
      Orchestrator.changeRun_of_some driver.opened]
  have running : (place.setPhase inst.id (onward false)).running = some id := by
    rw [setPhase, running_updateRun, running]
  refine ⟨_, driver.resumes orderly asks reached orchestrator post running,
    .moved driver.present rfl ?_⟩
  rw [setPhase, pending_updateRun]
  exact Nat.le_add_right _ 2

theorem asks (driver : Driver first calls made place id task call solo inst moves lone)
    (orderly : Orderly first calls made place)
    (running : place.running = some id) {effect : Effect} {onward : effect.Reply → Phase}
    (asked : inst.run.move (place.orchestrator.circumstances inst) = .ask effect onward)
    (reached : (place.advance id task).Reachable) :
    ∃ after, Orderly first calls after (place.advance id task) ∧
      Lighter made after place (place.advance id task) := by
  have asks := Run.asks_of_move asked
  obtain ⟨isWait, waits⟩ := driver.alike.waits asks
  have hnext : place.advance id task = place.answer id inst [] effect onward := by
    simp only [advance, driver.isDrive, drive, driver.opened, asked]
  rw [hnext] at reached ⊢
  cases isWait with
  | pause => exact driver.pauses orderly running waits reached
  | gate name =>
      simp only [answer] at reached ⊢
      split at reached
      · next isOpen =>
          rw [if_pos isOpen]
          exact driver.passes orderly running asks reached
      · next isClosed =>
          rw [if_neg isClosed]
          exact driver.stopsAt orderly running waits name reached

theorem ends (driver : Driver first calls made place id task call solo inst moves lone)
    (orderly : Orderly first calls made place)
    (running : place.running = some id) {last : Run} {ending : Ending}
    (isOver : inst.run.move (place.orchestrator.circumstances inst) = .over last ending)
    (reached : (place.advance id task).Reachable) :
    ∃ after, Orderly first calls after (place.advance id task) ∧
      Lighter made after place (place.advance id task) := by
  obtain ⟨blind, told⟩ :=
    orderly.circumstances driver.called driver.active driver.comes driver.alike
  obtain ⟨final, advanced, same⟩ := Solo.advance_of_over driver.alike blind told isOver
  have balanced := orderly.reachable.balanced
  -- What is on record has ended, and this instance was active until now.
  have unrecorded : ∀ record ∈ place.orchestrator.history.records,
      record.instanceId ≠ inst.id := by
    intro record member own
    obtain ⟨other, hother, idle⟩ := balanced.recorded record member
    rw [own] at hother
    cases driver.opened.symm.trans hother
    rw [driver.active] at idle
    cases idle
  have live := (Run.stops_of_move isOver).not_cancelled told.live
  obtain ⟨closed, opened, hid, upshot, told, records⟩ := Orchestrator.concluded_of_active
    orderly.reachable.sound.numbered driver.opened driver.active driver.tracked unrecorded last live
  let concluded := place.orchestrator.concluded inst last ending
  let settled := place.withOrchestrator concluded.1
  have hnext : place.advance id task = settled.endTask id (conclusionOf concluded.2) := by
    simp only [advance, driver.isDrive, drive, driver.opened, isOver]
    rfl
  rw [hnext] at reached ⊢
  have found : settled.task? id = some task := driver.found
  have post : (settled.endTask id (conclusionOf concluded.2)).post? =
      Function.update place.post? id
        (some ⟨.drive closed.id [], some (conclusionOf concluded.2), task.begun, false⟩) := by
    rw [post?_endTask found, driver.isDrive, driver.calm, hid]
    rfl
  have self : (settled.endTask id (conclusionOf concluded.2)).post? id = _ :=
    (congrFun post id).trans (Function.update_self _ _ _)
  have stage :
      Stage solo call (settled.endTask id (conclusionOf concluded.2)) id (made id + 1) := by
    rw [driver.count]
    refine .ended self ?_ driver.comes advanced ?_ ?_ ?_
    · rw [hid]
      exact opened
    · rw [upshot, same.essence]
    · rw [same.essence]
      exact told
    · rw [hid]
      exact records
  refine ⟨_, orderly.drives reached driver.called driver.idle driver.holds
    (hid ▸ post) (Orchestrator.onlyAt_concluded place.orchestrator inst last ending) stage,
    .moved driver.present rfl ?_⟩
  have less := pending_endTask found running (conclusionOf concluded.2)
  have same : settled.pending = place.pending := rfl
  omega

end Driver

namespace Orderly

variable {task : Task}

theorem live (orderly : Orderly first calls made place) (running : place.running = some id) :
    ∃ task, place.task? id = some task ∧ task.conclusion? = none := by
  cases found : place.task? id with
  | none =>
      have known := orderly.reachable.inLine.known id found
      have stands := stands_of_running running id
      rw [if_pos rfl] at stands
      omega
  | some task => exact ⟨task, rfl, orderly.reachable.sound.live id running task found⟩

theorem advances (orderly : Orderly first calls made place)
    (running : place.running = some id) (h : place.tick? = some next) :
    ∃ after, Orderly first calls after next ∧ Lighter made after place next := by
  obtain ⟨task, found, live⟩ := orderly.live running
  have reached : next.Reachable := orderly.reachable.later (.single (.tick h))
  rw [tick?_of_running running found] at h
  cases h
  obtain ⟨call, solo, called, stage⟩ :=
    orderly.stage id task.post (post?_of_task? found)
  generalize hcount : made id = count at stage
  cases stage with
  | called post =>
      rw [post?, found] at post
      obtain ⟨isStart, _, _, calm⟩ := Post.mk.inj (Option.some.inj post)
      exact orderly.opens called running found isStart live calm hcount reached
  | @driving _ inst moves lone post _ opened active tracked comes alike =>
      rw [post?, found] at post
      obtain ⟨isDrive, _, _, calm⟩ := Post.mk.inj (Option.some.inj post)
      have driver : Driver first calls made place id task call solo inst moves lone :=
        ⟨called, idle_of_running running, found, isDrive, live, calm, opened, active, tracked,
          comes, alike, hcount⟩
      cases moved : inst.run.move (place.orchestrator.circumstances inst) with
      | go run events => exact driver.goes orderly running moved reached
      | ask effect onward => exact driver.asks orderly running moved reached
      | _ => exact driver.ends orderly running moved reached
  | ended post =>
      rw [post?, found] at post
      obtain ⟨_, ended, _, _⟩ := Post.mk.inj (Option.some.inj post)
      rw [live] at ended
      cases ended

end Orderly

def atTurn (place : Workplace) (id : TaskId) : Workplace :=
  { place.updateTask id fun task =>
      { task with standing := .ready, begun := true, stopRequested := false } with
    running := some id }

section

variable {task : Task}

theorem beginTurn_eq (found : place.task? id = some task) (live : task.conclusion? = none)
    (calm : task.stopRequested = false) :
    place.beginTurn id = (place.atTurn id).proceed id task := by
  simp only [beginTurn, found, Task.hasEnded, live, calm, Option.isSome_none, Bool.false_eq_true,
    if_false]
  rfl

theorem post?_atTurn (found : place.task? id = some task) :
    (place.atTurn id).post? =
      Function.update place.post? id (some ⟨task.activity, none, true, false⟩) := by
  have begun := post?_updateTask place id fun task =>
    { task with standing := .ready, begun := true, stopRequested := false }
  rw [found] at begun
  exact begun

theorem pending_atTurn (found : place.task? id = some task) (idle : place.running = none) :
    (place.atTurn id).pending + (if task.begun then 0 else 3) = place.pending + 3 := by
  have weight := pending_updateTask found fun task =>
    { task with standing := .ready, begun := true, stopRequested := false }
  simp only [pending, Task.pending, updateTask, idle, Option.toList_none, List.length_nil, if_true]
    at weight ⊢
  simp only [atTurn, updateTask, Option.toList_some, List.length_singleton]
  omega

end

structure Popped (place rest : Workplace) : Prop where
  tasks : rest.tasks = place.tasks
  orchestrator : rest.orchestrator = place.orchestrator
  free : rest.running = none
  idle : place.running = none
  shorter : rest.pending + 1 = place.pending

theorem resume_of_ask {run : Run} {spec : StepSpec} {rest : List String} {effect : Effect}
    {next : effect.Reply → Step} (phase : run.phase = .inside spec rest (.ask effect next))
    (isWait : effect.IsWait) (lone : Solo) :
    run.resume false =
      { run with phase := .inside spec rest (next (lone.answer effect).2) } := by
  cases isWait <;> simp only [Run.resume, phase] <;> rfl

namespace Orderly

variable {task : Task}

theorem takes (orderly : Orderly first calls made place) (called : Called first calls id call solo)
    (found : place.task? id = some task) (idle : place.running = none)
    (post : next.post? = (place.atTurn id).post?)
    (orchestrator : next.orchestrator = place.orchestrator) (reached : next.Reachable)
    (stage : Stage solo call next id (made id)) : Orderly first calls made next := by
  have post := post.trans (post?_atTurn found)
  have self : next.post? id = some ⟨task.activity, none, true, false⟩ := by
    rw [post, Function.update_self]
  have only : place.orchestrator.OnlyAt place.orchestrator.nextId next.orchestrator :=
    orchestrator ▸ .refl _ _
  have acted := orderly.act reached called (fun _ _ => rfl) ?_ ?_ only
    (fun other _ => orderly.vacant other) stage ?_
  · rwa [Function.update_eq_self] at acted
  · intro other distinct
    rw [post, Function.update_of_ne distinct]
  · intro other _ atTurn
    rw [idle] at atTurn
    cases atTurn
  · rintro held ⟨_, present, drives⟩
    cases self.symm.trans present
    exact orderly.alone ⟨task.post, post?_of_task? found, drives⟩

variable {rest : Workplace}

theorem firstTurn (orderly : Orderly first calls made place) (popped : Popped place rest)
    (called : Called first calls id call solo) (found : place.task? id = some task)
    (unbegun : task.begun = false) (hnext : rest.beginTurn id = rest.atTurn id)
    (reached : (rest.beginTurn id).Reachable)
    (stage : Stage solo call (rest.atTurn id) id (made id)) :
    ∃ after, Orderly first calls after (rest.beginTurn id) ∧
      Lighter made after place (rest.beginTurn id) := by
  rw [hnext] at reached ⊢
  have there : rest.task? id = some task := by
    rw [task?, popped.tasks]
    exact found
  have post : (rest.atTurn id).post? = (place.atTurn id).post? := by
    rw [post?_atTurn there, post?_atTurn found, post?_of_tasks popped.tasks]
  refine ⟨made, orderly.takes called found popped.idle post popped.orchestrator reached
    stage, .rested rfl ?_⟩
  have weight := pending_atTurn there popped.free
  rw [unbegun, if_neg Bool.false_ne_true] at weight
  have shorter := popped.shorter
  omega

/-- A task has another turn, in which its run is taken up again. -/
theorem nextTurn {inst : Instance} {moves : Nat} {lone : Solo}
    (orderly : Orderly first calls made place)
    (popped : Popped place rest)
    (driver : Driver first calls made place id task call solo inst moves lone)
    (begun : task.begun = true) (waits : inst.run.Waits)
    (reached : (rest.beginTurn id).Reachable) :
    ∃ after, Orderly first calls after (rest.beginTurn id) ∧
      Lighter made after place (rest.beginTurn id) := by
  obtain ⟨spec, others, effect, onward, phase, isWait⟩ := waits
  have there : rest.task? id = some task := by
    rw [task?, popped.tasks]
    exact driver.found
  have hnext : rest.beginTurn id = (rest.atTurn id).updateRun inst.id (·.resume false) := by
    rw [beginTurn_eq there driver.live driver.calm, proceed, driver.isDrive]
    dsimp only
    rw [if_pos begun]
  rw [hnext] at reached ⊢
  have orchestrator : ((rest.atTurn id).updateRun inst.id (·.resume false)).orchestrator =
      place.orchestrator.changeRun inst.id fun _ =>
        { inst.run with phase := .inside spec others (onward (lone.answer effect).2) } := by
    have same : (rest.atTurn id).orchestrator = place.orchestrator := popped.orchestrator
    rw [orchestrator_updateRun, same, Orchestrator.changeRun_of_some driver.opened,
      Orchestrator.changeRun_of_some driver.opened, resume_of_ask phase isWait lone]
  have post : ((rest.atTurn id).updateRun inst.id (·.resume false)).post? =
      Function.update place.post? id (some ⟨.drive inst.id [], none, true, false⟩) := by
    rw [post?_updateRun, post?_atTurn there, post?_of_tasks popped.tasks, driver.isDrive]
  have running : ((rest.atTurn id).updateRun inst.id (·.resume false)).running = some id := by
    rw [running_updateRun]
    rfl
  refine ⟨_, driver.resumes orderly (.step phase) reached orchestrator post running,
    .moved driver.present rfl ?_⟩
  have weight := pending_atTurn there popped.free
  rw [begun, if_pos rfl] at weight
  rw [pending_updateRun]
  have shorter := popped.shorter
  omega

theorem drops (orderly : Orderly first calls made place) (popped : Popped place rest)
    (reached : rest.Reachable) :
    ∃ after, Orderly first calls after rest ∧ Lighter made after place rest := by
  have shorter := popped.shorter
  exact ⟨made, orderly.rearranged reached (post?_of_tasks popped.tasks)
    (popped.free.trans popped.idle.symm) (.of_eq popped.orchestrator), .rested rfl (by omega)⟩

theorem begins (orderly : Orderly first calls made place)
    (popped : Popped place rest) (reached : (rest.beginTurn id).Reachable) :
    ∃ after, Orderly first calls after (rest.beginTurn id) ∧
      Lighter made after place (rest.beginTurn id) := by
  have dropped (same : rest.beginTurn id = rest) : ∃ after,
      Orderly first calls after (rest.beginTurn id) ∧
        Lighter made after place (rest.beginTurn id) := by
    rw [same] at reached ⊢
    exact orderly.drops popped reached
  cases there : rest.task? id with
  | none => exact dropped (by simp only [beginTurn, there])
  | some task =>
      have found : place.task? id = some task := by
        rw [task?, ← popped.tasks]
        exact there
      have present := post?_of_task? found
      obtain ⟨call, solo, called, stage⟩ := orderly.stage id task.post present
      have self : (rest.atTurn id).post? id = some ⟨task.activity, none, true, false⟩ := by
        rw [post?_atTurn there, Function.update_self]
      generalize hcount : made id = count at stage
      cases stage with
      | @called begun post turn =>
          rw [present] at post
          obtain ⟨isStart, live, hbegun, calm⟩ := Post.mk.inj (Option.some.inj post)
          have isStart : task.activity = .start call.graph call.initial := isStart
          have unbegun : begun = false := by
            by_contra started
            rw [popped.idle] at turn
            cases turn (by simpa using started)
          have hnext : rest.beginTurn id = rest.atTurn id := by
            rw [beginTurn_eq there live calm, proceed, isStart]
          rw [isStart] at self
          refine orderly.firstTurn popped called found (hbegun.trans unbegun) hnext reached ?_
          rw [hcount]
          exact .called self fun _ => rfl
      | ended post =>
          rw [present] at post
          obtain ⟨_, ended, _, _⟩ := Post.mk.inj (Option.some.inj post)
          have ended : task.hasEnded = true := by
            rw [Task.hasEnded, show task.conclusion? = _ from ended]
            rfl
          exact dropped (by simp only [beginTurn, there, ended, if_true])
      | @driving begun inst moves lone post turn opened active tracked comes alike =>
          rw [present] at post
          obtain ⟨isDrive, live, hbegun, calm⟩ := Post.mk.inj (Option.some.inj post)
          have isDrive : task.activity = .drive inst.id [] := isDrive
          have hbegun : task.begun = begun := hbegun
          have turnless (other : TaskId) (_ : other ≠ id) : place.running ≠ some other := by
            rw [popped.idle]
            simp
          cases begun with
          | false =>
              have hnext : rest.beginTurn id = rest.atTurn id := by
                rw [beginTurn_eq there live calm, proceed, isDrive]
                dsimp only
                rw [hbegun, if_neg Bool.false_ne_true]
              rw [isDrive] at self
              refine orderly.firstTurn popped called found hbegun hnext reached ?_
              rw [hcount]
              exact .driving self (fun _ => .inl rfl) (popped.orchestrator ▸ opened) active tracked
                comes alike
          | true =>
              have waits : inst.run.Waits := (turn rfl).resolve_left (by rw [popped.idle]; simp)
              exact orderly.nextTurn popped ⟨called, turnless, found, isDrive, live,
                calm, opened, active, tracked, comes, alike, hcount⟩ hbegun waits reached

/-- Nobody in a crowd waits for the ends of tasks. -/
theorem works {post : Post} (orderly : Orderly first calls made place)
    (present : place.post? id = some post) :
    (∃ graph initial, post.activity = .start graph initial) ∨
      ∃ key, post.activity = .drive key [] := by
  obtain ⟨call, solo, _, stage⟩ := orderly.stage id post present
  generalize made id = count at stage
  cases stage with
  | called found =>
      cases present.symm.trans found
      exact .inl ⟨_, _, rfl⟩
  | driving found =>
      cases present.symm.trans found
      exact .inr ⟨_, rfl⟩
  | ended found =>
      cases present.symm.trans found
      exact .inr ⟨_, rfl⟩

theorem performs {job : Job} {queue : List Job} (orderly : Orderly first calls made place)
    (idle : place.running = none) (hqueue : place.queue = job :: queue)
    (reached : ({ place with queue }.perform job).Reachable) :
    ∃ after, Orderly first calls after ({ place with queue }.perform job) ∧
      Lighter made after place ({ place with queue }.perform job) := by
  have shorter : ({ place with queue } : Workplace).pending + 1 = place.pending := by
    simp only [pending, hqueue, List.length_cons]
    omega
  have popped : Popped place { place with queue } := ⟨rfl, rfl, idle, idle, shorter⟩
  cases job with
  | turn id => exact orderly.begins popped reached
  | release instanceId id =>
      exact ⟨made, orderly.rearranged reached rfl rfl (.of_eq rfl), .rested rfl (by
        change ({ place with queue } : Workplace).pending < _
        omega)⟩
  | count id =>
      have same :
          ({ place with queue } : Workplace).perform (.count id) = { place with queue } := by
        simp only [perform, countEnd]
        split
        · rfl
        · next task found =>
            have present : place.post? id = some task.post := post?_of_task? found
            rcases orderly.works present with ⟨_, _, isStart⟩ | ⟨_, isDrive⟩
            · rw [show task.activity = _ from isStart]
            · rw [show task.activity = _ from isDrive]
      rw [same] at reached ⊢
      exact orderly.drops popped reached

/-- What happens by itself keeps the tasks in order and makes what is left to do lighter. -/
theorem ticks (orderly : Orderly first calls made place)
    (h : place.tick? = some next) :
    ∃ after, Orderly first calls after next ∧ Lighter made after place next := by
  have reached : next.Reachable := orderly.reachable.later (.single (.tick h))
  cases running : place.running with
  | some id => exact orderly.advances running h
  | none =>
      unfold tick? at h
      split at h
      · next taken =>
          rw [running] at taken
          cases taken
      · split at h
        · cases h
        · next hqueue =>
            cases h
            exact orderly.performs running hqueue reached

end Orderly

end Workplace

end StepGraph
