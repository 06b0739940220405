import StepGraph.Proofs.Orchestrator.Upshot

/-! Instances side by side. As long as the steps of each keep to their own state, the driver of a
call takes its instance the way that a run by itself goes, however the turns fall; and every turn
brings the drivers nearer to their ends. -/

namespace StepGraph

namespace Workplace

/-- What can be reached by some calls, whatever the turns and the clock; `calls` gives the call of
each task. The gates are opened and closed from outside. -/
inductive Crowd (first : Workplace) : (TaskId → Option Call) → Workplace → Prop
  | new (isNew : first.IsNew) : Crowd first (fun _ => none) first
  | tick {calls : TaskId → Option Call} {place next : Workplace} (before : Crowd first calls place)
      (h : place.tick? = some next) : Crowd first calls next
  | start {calls : TaskId → Option Call} {place : Workplace} (before : Crowd first calls place)
      {call : Call} {definition : Definition}
      (known : place.orchestrator.registry.get call.graph = .ok definition)
      (blind : definition.Blind) (own : call.initial.IsOwn) :
      Crowd first (Function.update calls place.tasks.length (some call))
        (place.spawn (.start call.graph call.initial) []).1
  | submit {calls : TaskId → Option Call} {place next : Workplace}
      (before : Crowd first calls place)
      {call : Call} {definition : Definition} {id : String}
      (known : place.orchestrator.registry.get call.graph = .ok definition)
      (blind : definition.Blind) (own : call.initial.IsOwn)
      (h : place.submit call.graph call.initial = .ok (next, id)) :
      Crowd first (Function.update calls place.tasks.length (some call)) next
  | clock {calls : TaskId → Option Call} {place : Workplace} (before : Crowd first calls place)
      (micros : Int) :
      Crowd first calls (place.withOrchestrator
        { place.orchestrator with now := place.orchestrator.now + micros })
  | openGate {calls : TaskId → Option Call} {place : Workplace} (before : Crowd first calls place)
      (gate : String) : Crowd first calls (place.openGate gate)
  | closeGate {calls : TaskId → Option Call} {place : Workplace} (before : Crowd first calls place)
      (gate : String) : Crowd first calls (place.closeGate gate)

theorem Crowd.later {first place : Workplace} {calls : TaskId → Option Call}
    (crowd : Crowd first calls place) : first.IsNew ∧ Later first place := by
  induction crowd with
  | new isNew => exact ⟨isNew, .refl⟩
  | tick _ h ih => exact ⟨ih.1, ih.2.tail (.tick h)⟩
  | start _ _ _ _ ih => exact ⟨ih.1, ih.2.tail (.start _ _)⟩
  | submit _ _ _ _ h ih => exact ⟨ih.1, ih.2.tail (.submit h)⟩
  | clock _ micros ih => exact ⟨ih.1, ih.2.tail (.clock micros)⟩
  | openGate _ gate ih => exact ⟨ih.1, ih.2.tail (.openGate gate)⟩
  | closeGate _ gate ih => exact ⟨ih.1, ih.2.tail (.closeGate gate)⟩

end Workplace

/-- A task as far as it decides what happens to instances. -/
structure Post where
  activity : Activity
  conclusion? : Option Conclusion
  begun : Bool
  stopRequested : Bool

def Task.post (task : Task) : Post where
  activity := task.activity
  conclusion? := task.conclusion?
  begun := task.begun
  stopRequested := task.stopRequested

namespace Workplace

def post? (place : Workplace) (id : TaskId) : Option Post :=
  (place.task? id).map (·.post)

def Holds (place : Workplace) (id : TaskId) (key : String) : Prop :=
  ∃ post, place.post? id = some post ∧ post.activity = .drive key []

theorem post?_updateTask (place : Workplace) (id : TaskId) (change : Task → Task) :
    (place.updateTask id change).post? =
      Function.update place.post? id (((place.task? id).map change).map (·.post)) := by
  funext other
  rw [Function.update_apply, post?, task?_updateTask]
  split
  · next h => rw [h]
  · rfl

theorem post?_of_tasks {place next : Workplace} (tasks : next.tasks = place.tasks) :
    next.post? = place.post? := by
  funext id
  rw [post?, task?, tasks]
  rfl

theorem post?_spawn (place : Workplace) (activity : Activity) (watchers : List Watcher) :
    (place.spawn activity watchers).1.post? =
      Function.update place.post? place.tasks.length (some ⟨activity, none, false, false⟩) := by
  funext id
  rw [Function.update_apply, post?, task?_spawn]
  split <;> rfl

theorem post?_of_task? {place : Workplace} {id : TaskId} {task : Task}
    (found : place.task? id = some task) : place.post? id = some task.post := by
  rw [post?, found]
  rfl

theorem task?_of_post? {place : Workplace} {id : TaskId} {post : Post}
    (found : place.post? id = some post) : ∃ task, place.task? id = some task ∧ task.post = post :=
  Option.map_eq_some_iff.mp found

/-- How far the driver of a call has come, compared with the run by itself that the call is for: it
has been called, it drives its instance, or it has ended. -/
inductive Stage (solo : Solo) (call : Call) (place : Workplace) (id : TaskId) : Nat → Prop
  | called {begun : Bool}
      (post : place.post? id = some ⟨.start call.graph call.initial, none, begun, false⟩)
      (turn : begun = true → place.running = some id) : Stage solo call place id 0
  | driving {begun : Bool} {inst : Instance} {moves : Nat} {lone : Solo}
      (post : place.post? id = some ⟨.drive inst.id [], none, begun, false⟩)
      (turn : begun = true → place.running = some id ∨ inst.run.Waits)
      (found : place.orchestrator.instance? inst.id = some inst) (active : inst.isActive = true)
      (tracked : inst.parted = none) (comes : solo.Comes moves lone)
      (alike : inst.run.Alike lone.run) : Stage solo call place id (moves + 1)
  | ended {begun stopped : Bool} {conclusion : Conclusion} {inst : Instance} {moves : Nat}
      {lone last : Solo} {ending : Ending}
      (post : place.post? id = some ⟨.drive inst.id [], some conclusion, begun, stopped⟩)
      (found : place.orchestrator.instance? inst.id = some inst) (comes : solo.Comes moves lone)
      (isOver : lone.advance = (last, some ending))
      (upshot : inst.upshot = ending.upshot last.run.state.essence)
      (told : conclusion.told? = some (ending.told last.run.state.essence))
      (records : ∀ record ∈ place.orchestrator.history.records, record.instanceId = inst.id →
        record.upshot = inst.upshot) : Stage solo call place id (moves + 2)

structure Called (first : Workplace) (calls : TaskId → Option Call) (id : TaskId) (call : Call)
    (solo : Solo) : Prop where
  mine : calls id = some call
  own : call.initial.IsOwn
  isLone : first.orchestrator.lone call = .ok solo
  blind : solo.run.definition.Blind

/-- The tasks drive the instances of the calls, each its own, as far as `made` says. -/
structure Orderly (first : Workplace) (calls : TaskId → Option Call) (made : TaskId → Nat)
    (place : Workplace) : Prop where
  reachable : place.Reachable
  graphs : first.orchestrator.SameGraphs place.orchestrator
  crew : ∀ id, place.post? id = none → calls id = none
  stage : ∀ id post, place.post? id = some post →
    ∃ call solo, Called first calls id call solo ∧ Stage solo call place id (made id)
  apart : ∀ id other key, place.Holds id key → place.Holds other key → id = other

variable {first place next : Workplace} {calls : TaskId → Option Call} {made : TaskId → Nat}
  {solo : Solo} {call : Call} {id other : TaskId} {key : String} {count : Nat}

theorem Stage.beside (stage : Stage solo call place other count)
    (post : next.post? other = place.post? other)
    (keeps : place.running = some other → next.running = some other)
    (only : place.orchestrator.OnlyAt key next.orchestrator) (apart : ¬ place.Holds other key) :
    Stage solo call next other count := by
  cases stage with
  | called found turn => exact .called (post.trans found) fun begun => keeps (turn begun)
  | driving held turn found active tracked comes alike =>
      have distinct : _ ≠ key := fun same => apart ⟨_, held, same ▸ rfl⟩
      exact .driving (post.trans held) (fun begun => (turn begun).imp_left keeps)
        ((only.instances _ distinct).trans found) active tracked comes alike
  | ended held found comes isOver upshot told records =>
      have distinct : _ ≠ key := fun same => apart ⟨_, held, same ▸ rfl⟩
      refine .ended (post.trans held) ((only.instances _ distinct).trans found) comes isOver upshot
        told ?_
      intro record member same
      exact records record (only.records record member (same ▸ distinct)) same

theorem Stage.congr (stage : Stage solo call place id count) (post : next.post? id = place.post? id)
    (running : next.running = place.running)
    (still : place.orchestrator.Still next.orchestrator) : Stage solo call next id count := by
  cases stage with
  | called found turn => exact .called (post.trans found) (running ▸ turn)
  | driving held turn found active tracked comes alike =>
      exact .driving (post.trans held) (running ▸ turn) ((still.instance? _).trans found) active
        tracked comes alike
  | ended held found comes isOver upshot told records =>
      exact .ended (post.trans held) ((still.instance? _).trans found) comes isOver upshot told
        (still.history ▸ records)

theorem Holds.eq {post : Post} (present : place.post? id = some post)
    (drives : post.activity = .drive key []) {held : String} (holds : place.Holds id held) :
    held = key := by
  obtain ⟨other, again, also⟩ := holds
  cases present.symm.trans again
  rw [drives] at also
  cases also
  rfl

namespace Orderly

/-- One task acts, which may be a new one, on its own instance at most. -/
theorem act {after : TaskId → Option Call} (orderly : Orderly first calls made place)
    (reached : next.Reachable) (called : Called first after id call solo)
    (others : ∀ other, other ≠ id → after other = calls other)
    (post : ∀ other, other ≠ id → next.post? other = place.post? other)
    (keeps : ∀ other, other ≠ id → place.running = some other → next.running = some other)
    (only : place.orchestrator.OnlyAt key next.orchestrator)
    (apart : ∀ other, other ≠ id → ¬ place.Holds other key)
    (stage : Stage solo call next id count)
    (held : ∀ held, next.Holds id held → ∀ other, other ≠ id → ¬ place.Holds other held) :
    Orderly first after (Function.update made id count) next where
  reachable := reached
  graphs := orderly.graphs.trans only.graphs
  crew := by
    intro other missing
    by_cases same : other = id
    · subst same
      cases stage with
      | called found => cases missing.symm.trans found
      | driving found => cases missing.symm.trans found
      | ended found => cases missing.symm.trans found
    · exact (others other same).trans (orderly.crew other ((post other same).symm.trans missing))
  stage := by
    intro other found present
    by_cases same : other = id
    · subst same
      rw [Function.update_self]
      exact ⟨call, solo, called, stage⟩
    · rw [post other same] at present
      obtain ⟨call, solo, called, stage⟩ := orderly.stage other found present
      rw [Function.update_of_ne same]
      exact ⟨call, solo, { called with mine := (others other same).trans called.mine },
        stage.beside (post other same) (keeps other same) only (apart other same)⟩
  apart := by
    have before {other : TaskId} {key : String} (distinct : other ≠ id)
        (holds : next.Holds other key) : place.Holds other key := by
      obtain ⟨found, present, drives⟩ := holds
      exact ⟨found, (post other distinct).symm.trans present, drives⟩
    intro one other shared hone hother
    by_cases first : one = id
    · by_cases second : other = id
      · exact first.trans second.symm
      · subst first
        exact absurd (before second hother) (held shared hone other second)
    · by_cases second : other = id
      · subst second
        exact absurd (before first hone) (held shared hother one first)
      · exact orderly.apart one other shared (before first hone) (before second hother)

theorem rearranged (orderly : Orderly first calls made place) (reached : next.Reachable)
    (post : next.post? = place.post?) (running : next.running = place.running)
    (still : place.orchestrator.Still next.orchestrator) : Orderly first calls made next where
  reachable := reached
  graphs := orderly.graphs.trans still.graphs
  crew := post ▸ orderly.crew
  stage := by
    intro id found present
    rw [post] at present
    obtain ⟨call, solo, called, stage⟩ := orderly.stage id found present
    exact ⟨call, solo, called, stage.congr (congrFun post id) running still⟩
  apart := by
    have same (id : TaskId) (key : String) : next.Holds id key = place.Holds id key := by
      unfold Holds
      rw [post]
    intro id other key
    rw [same, same]
    exact orderly.apart id other key

theorem alone (orderly : Orderly first calls made place) (holds : place.Holds id key)
    (other : TaskId)
    (distinct : other ≠ id) : ¬ place.Holds other key :=
  fun also => distinct (orderly.apart other id key also holds)

theorem vacant (orderly : Orderly first calls made place) (other : TaskId) :
    ¬ place.Holds other place.orchestrator.nextId := by
  rintro ⟨post, present, drives⟩
  obtain ⟨task, found, rfl⟩ := task?_of_post? present
  have drives : task.activity = .drive place.orchestrator.nextId [] := drives
  have numbered := orderly.reachable.sound.numbered
  obtain ⟨inst, opened⟩ := orderly.reachable.sound.opened other task found
    place.orchestrator.nextId (by simp [Task.drives, drives])
  obtain ⟨member, hid⟩ := (Orchestrator.instance?_eq_some_iff numbered).mp opened
  exact Orchestrator.nextId_notMem numbered (List.mem_map.mpr ⟨inst, member, hid⟩)

/-- What an instance is told before a move comes to what its run would be told by itself. -/
theorem circumstances {inst : Instance} {lone : Solo} {moves : Nat}
    (orderly : Orderly first calls made place) (called : Called first calls id call solo)
    (active : inst.isActive = true) (comes : solo.Comes moves lone)
    (alike : inst.run.Alike lone.run) :
    inst.run.definition.Blind ∧
      (place.orchestrator.circumstances inst).Alike ⟨lone.now, lone.admitted, lone.cancelled⟩ := by
  obtain ⟨_, _, isLone, blind⟩ := called
  obtain ⟨definition, _, rfl⟩ := Orchestrator.lone_eq_ok isLone
  obtain ⟨same, admitted, live⟩ := comes.keeps rfl
  have same : inst.run.definition = definition := alike.definition.symm.trans same
  refine ⟨same ▸ blind, ?_, ?_, ?_⟩
  · change lone.admitted = place.orchestrator.admits inst.run.definition
    rw [admitted, same, Orchestrator.admits_eq, orderly.graphs.executor]
    rfl
  · by_contra cancelled
    rw [Bool.not_eq_false] at cancelled
    have ended : inst.isActive = false := Instance.isActive_of_isCancelled cancelled
    rw [active] at ended
    cases ended
  · rw [Solo.cancelled, live]
    rfl

theorem new (isNew : first.IsNew) : Orderly first (fun _ => none) (fun _ => 0) first := by
  have nobody (id : TaskId) : first.post? id = none := by
    rw [post?, task?, isNew.tasks]
    rfl
  refine ⟨⟨first, isNew, .refl⟩, ⟨rfl, rfl, rfl⟩, fun _ _ => rfl, ?_, ?_⟩
  · intro id post present
    rw [nobody] at present
    cases present
  · rintro id other key ⟨post, present, _⟩
    rw [nobody] at present
    cases present

theorem called {definition : Definition} (orderly : Orderly first calls made place)
    (known : place.orchestrator.registry.get call.graph = .ok definition)
    (blind : definition.Blind) (own : call.initial.IsOwn) :
    Called first (Function.update calls id (some call)) id call
      (first.orchestrator.executor.begin definition
        (first.orchestrator.initialState call.initial) none) where
  mine := Function.update_self _ _ _
  own := own
  isLone := by
    rw [orderly.graphs.registry] at known
    rw [Orchestrator.lone, known]
    rfl
  blind := blind

theorem starts {definition : Definition} (orderly : Orderly first calls made place)
    (known : place.orchestrator.registry.get call.graph = .ok definition)
    (blind : definition.Blind) (own : call.initial.IsOwn) :
    Orderly first (Function.update calls place.tasks.length (some call))
      (Function.update made place.tasks.length 0)
      (place.spawn (.start call.graph call.initial) []).1 := by
  have post := post?_spawn place (.start call.graph call.initial) []
  have self : (place.spawn (.start call.graph call.initial) []).1.post? place.tasks.length = _ :=
    (congrFun post _).trans (Function.update_self _ _ _)
  refine orderly.act (orderly.reachable.later (.single (.start _ _)))
    (orderly.called known blind own) (fun other distinct => Function.update_of_ne distinct _ _)
    (fun other distinct => ?_) (fun _ _ => id) (.refl place.orchestrator.nextId _)
    (fun other _ => orderly.vacant other) (.called self fun begun => by cases begun) ?_
  · rw [post, Function.update_of_ne distinct]
  · rintro held ⟨_, present, drives⟩
    cases self.symm.trans present
    cases drives

theorem submits {definition : Definition} {instanceId : String}
    (orderly : Orderly first calls made place)
    (known : place.orchestrator.registry.get call.graph = .ok definition)
    (blind : definition.Blind) (own : call.initial.IsOwn)
    (h : place.submit call.graph call.initial = .ok (next, instanceId)) :
    Orderly first (Function.update calls place.tasks.length (some call))
      (Function.update made place.tasks.length 1) next := by
  have reached : next.Reachable := orderly.reachable.later (.single (.submit h))
  have numbered := orderly.reachable.sound.numbered
  let key := place.orchestrator.nextId
  obtain ⟨orchestrator, running, post⟩ :
      next.orchestrator = (place.orchestrator.openInstance definition call.initial).1 ∧
        next.running = place.running ∧
        next.post? = Function.update place.post? place.tasks.length
          (some ⟨.drive key [], none, false, false⟩) := by
    unfold submit at h
    rw [known] at h
    cases h
    exact ⟨rfl, rfl, post?_spawn (place.withOrchestrator _) _ _⟩
  have self : next.post? place.tasks.length = _ :=
    (congrFun post _).trans (Function.update_self _ _ _)
  have only := Orchestrator.onlyAt_openInstance numbered definition call.initial
  have opened := Orchestrator.instance?_openInstance numbered definition call.initial key
  rw [← orchestrator] at only opened
  have stage := @Stage.driving _ call next place.tasks.length false
    (place.orchestrator.opening definition call.initial) 0 _ self (fun begun => by cases begun)
    (opened.trans (if_pos rfl)) rfl rfl .start
    (Orchestrator.alike_opening orderly.graphs definition own)
  refine orderly.act reached (orderly.called known blind own)
    (fun other distinct => Function.update_of_ne distinct _ _) (fun other distinct => ?_)
    (fun _ _ atTurn => running.trans atTurn) only (fun other _ => orderly.vacant other) stage ?_
  · rw [post, Function.update_of_ne distinct]
  · intro held also other _
    rw [also.eq self rfl]
    exact orderly.vacant other

end Orderly

end Workplace

end StepGraph
