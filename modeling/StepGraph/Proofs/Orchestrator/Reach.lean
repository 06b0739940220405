import StepGraph.Proofs.Orchestrator.Shift

namespace StepGraph

open Orchestrator (Changes Change)

namespace Workplace

theorem Sound.shifts {place next : Workplace} (sound : place.Sound) (shifts : Shifts place next) :
    next.Sound := by
  induction shifts with
  | refl => exact sound
  | tail _ shift ih => exact ih.shift shift

theorem Shifts.changes {place next : Workplace} (shifts : Shifts place next) :
    Changes place.orchestrator next.orchestrator := by
  induction shifts with
  | refl => exact .refl
  | tail _ shift ih =>
      cases shift with
      | arranged orchestrator => exact orchestrator ▸ ih
      | changed change => exact ih.tail change
      | _ => exact ih

theorem shifts_withOrchestrator (place : Workplace) {after : Orchestrator}
    (changes : Changes place.orchestrator after) :
    Shifts place (place.withOrchestrator after) := by
  induction changes with
  | refl => exact .refl
  | tail _ change ih => exact ih.tail (.changed change)

/-! ### Tasks -/

theorem shifts_enqueue (place : Workplace) (job : Job) : Shifts place (place.enqueue job) :=
  .single (.arranged rfl rfl (.inl rfl))

theorem shifts_wake (place : Workplace) (id : TaskId) : Shifts place (place.wake id) := by
  refine .trans (.single (.retold ?_)) (shifts_enqueue _ _)
  exact fun task _ => ⟨.inl rfl, .inr rfl⟩

theorem shifts_park (place : Workplace) (id : TaskId) : Shifts place (place.park id) := by
  have told : Shifts place (place.updateTask id fun task => { task with standing := .parked }) :=
    .single (.retold fun task _ => ⟨.inl rfl, .inr rfl⟩)
  exact told.tail (.arranged rfl rfl (.inr rfl))

theorem shifts_requestStop (place : Workplace) (id : TaskId) :
    Shifts place (place.requestStop id) := by
  have told : Shifts place (place.updateTask id fun task => { task with stopRequested := true }) :=
    .single (.retold fun task _ => ⟨.inl rfl, .inl rfl⟩)
  unfold requestStop
  dsimp only
  split
  · refine .trans ?_ (shifts_wake _ _)
    exact told.tail (.arranged rfl rfl (.inl rfl))
  · exact told

theorem shifts_endTask {place : Workplace} {id : TaskId} {conclusion : Conclusion}
    (bears : ∀ task, place.task? id = some task → ∀ root, task.drives.getLast? = some root →
      place.orchestrator.Bears root conclusion) :
    Shifts place (place.endTask id conclusion) := by
  have left : Shifts place { place with running := none } :=
    .single (.arranged rfl rfl (.inr rfl))
  have ended : Shifts place ({ place with running := none }.updateTask id fun task =>
      { task with standing := .ended conclusion, watchers := [] }) :=
    left.tail (.ended rfl bears)
  exact ended.tail (.arranged rfl rfl (.inr rfl))

theorem shifts_endTask_of_idle {place : Workplace} {id : TaskId} {conclusion : Conclusion}
    (idle : ∀ task, place.task? id = some task → task.drives = []) :
    Shifts place (place.endTask id conclusion) := by
  apply shifts_endTask
  intro task found root hroot
  rw [idle task found] at hroot
  contradiction

theorem shifts_endTask_interrupted (place : Workplace) (id : TaskId) :
    Shifts place (place.endTask id (.failed .interrupted)) :=
  shifts_endTask fun _ _ _ _ => trivial

theorem shifts_spawn {place : Workplace} {activity : Activity} {watchers : List Watcher}
    (opened : ∀ driven ∈ ({ activity, watchers } : Task).drives,
      ∃ inst, place.orchestrator.instance? driven = some inst) :
    Shifts place (place.spawn activity watchers).1 :=
  .trans (.single (.spawned rfl opened)) (shifts_enqueue _ _)

theorem shifts_foldl {α : Type} {step : Workplace → α → Workplace}
    (shifts : ∀ place item, Shifts place (step place item)) (items : List α) (place : Workplace) :
    Shifts place (items.foldl step place) := by
  induction items generalizing place with
  | nil => exact .refl
  | cons item rest ih => exact (shifts place item).trans (ih _)

theorem shifts_openGate (place : Workplace) (gate : String) :
    Shifts place (place.openGate gate) := by
  unfold openGate
  refine .trans ?_ (shifts_foldl ?_ _ _)
  · exact .single (.arranged rfl rfl (.inl rfl))
  · intro place entry
    exact shifts_wake place entry.2

/-- What holds of each task that is told to stop holds of several. -/
theorem stopAll_of_stop {depth : Nat} {motive : Workplace → Workplace → Prop}
    (refl : ∀ place, motive place place)
    (trans : ∀ place next last, motive place next → motive next last → motive place last)
    (stops : ∀ place id, motive place (stop depth place id).1) (tasks : List TaskId)
    (pair : Workplace × Bool) :
    motive pair.1 (tasks.foldl
      (fun (place, taken) other =>
        let (place, here) := stop depth place other
        (place, taken || here)) pair).1 := by
  induction tasks generalizing pair with
  | nil => exact refl pair.1
  | cons other rest ih =>
      obtain ⟨place, taken⟩ := pair
      exact trans _ _ _ (stops place other)
        (ih ((stop depth place other).1, taken || (stop depth place other).2))

theorem shifts_stop (depth : Nat) (place : Workplace) (id : TaskId) :
    Shifts place (stop depth place id).1 := by
  induction depth generalizing place id with
  | zero => exact .refl
  | succ depth ih =>
      unfold stop
      cases place.task? id with
      | none => exact .refl
      | some task =>
          dsimp only
          split
          · exact .refl
          · split
            · next other _ =>
                split
                · exact ih place other
                · exact (ih place other).trans (shifts_requestStop _ _)
            · next tasks left _ _ =>
                have passed := stopAll_of_stop (fun _ => .refl)
                  (fun _ _ _ => Relation.ReflTransGen.trans) ih tasks (place, false)
                split
                · exact passed.tail (.retold fun task _ => ⟨.inr rfl, .inl rfl⟩)
                · exact passed.trans (shifts_requestStop _ _)
            · exact shifts_requestStop place id

theorem shifts_awaitTask (place : Workplace) (id other : TaskId) :
    Shifts place (place.awaitTask id other) := by
  have told :
      Shifts place (place.updateTask id fun task => { task with activity := .await other }) :=
    .single (.retold fun task _ => ⟨.inr rfl, .inl rfl⟩)
  unfold awaitTask
  dsimp only
  split
  · refine told.trans (shifts_endTask_of_idle ?_)
    intro task found
    rw [task?_updateTask, if_pos rfl] at found
    obtain ⟨_, _, rfl⟩ := Option.map_eq_some_iff.mp found
    rfl
  · refine (told.tail ?_).trans (shifts_park _ _)
    exact .retold fun task _ => ⟨.inl rfl, .inl rfl⟩

theorem shifts_wait {place : Workplace} {id : TaskId} {task : Task} {instanceId : String}
    (found : place.task? id = some task) (isWait : task.activity = .wait instanceId) :
    Shifts place (place.wait id instanceId) := by
  unfold wait
  split
  · exact shifts_awaitTask _ _ _
  · apply shifts_endTask_of_idle
    intro other hother
    cases found.symm.trans hother
    rw [Task.drives, isWait]

theorem shifts_watchEnd (id : TaskId) (place : Workplace) (other : TaskId) :
    Shifts place (watchEnd id place other) := by
  unfold watchEnd
  split
  · exact shifts_enqueue _ _
  · exact .single (.retold fun task _ => ⟨.inl rfl, .inl rfl⟩)

theorem shifts_shutdown {place : Workplace} {id : TaskId} {task : Task}
    (found : place.task? id = some task) (isShutdown : task.activity = .shutdown) :
    Shifts place (place.shutdown id) := by
  unfold shutdown
  dsimp only
  have cancelled := shifts_withOrchestrator place
    (Orchestrator.changes_cancelAll (place.orchestrator.active.map (·.id)) place.orchestrator)
  split
  · refine cancelled.trans (shifts_endTask_of_idle ?_)
    intro other hother
    cases found.symm.trans hother
    rw [Task.drives, isShutdown]
  · refine .trans ?_ (shifts_park _ _)
    refine .tail ?_ (.retold fun task _ => ⟨.inr rfl, .inl rfl⟩)
    exact cancelled.trans (shifts_foldl (shifts_watchEnd id) _ _)

theorem shifts_countEnd (place : Workplace) (id : TaskId) : Shifts place (place.countEnd id) := by
  unfold countEnd
  split
  · exact .refl
  · split
    · next tasks left stopped _ =>
        have told : Shifts place (place.updateTask id fun task =>
            { task with activity := .gather tasks (left - 1) stopped }) :=
          .single (.retold fun task _ => ⟨.inr rfl, .inl rfl⟩)
        dsimp only
        split
        · exact told.trans (shifts_enqueue _ _)
        · exact told
    · exact .refl

/-! ### Runs -/

theorem shifts_updateRun (place : Workplace) {id : String} {change : Run → Run}
    (quiet : ∀ inst, place.orchestrator.instance? id = some inst →
      inst.run.phase.StartsNothing (change inst.run).phase) :
    Shifts place (place.updateRun id change) := by
  unfold updateRun
  split
  · exact .refl
  · next inst found =>
      have hid := Orchestrator.id_of_instance? found
      refine .single (.changed (.driven (hid ▸ found) ?_))
      exact ⟨rfl, rfl, rfl, rfl, rfl, rfl, rfl, fun _ => quiet inst found⟩

theorem startsNothing_resume (run : Run) (interrupted : Bool) :
    run.phase.StartsNothing (run.resume interrupted).phase := by
  intro spec rest program h
  unfold Run.resume at h
  split at h
  · next phase =>
      cases h
      exact ⟨_, phase⟩
  · next phase =>
      cases h
      exact ⟨_, phase⟩
  · exact ⟨program, h⟩

theorem startsNothing_receive (run : Run) (result : Fallible Result) :
    run.phase.StartsNothing (run.receive result).phase := by
  intro spec rest program h
  unfold Run.receive at h
  split at h
  · next phase =>
      cases h
      exact ⟨_, phase⟩
  · exact ⟨program, h⟩

/-- What is asked for at once leaves every run where it stands. -/
theorem phase_perform {orchestrator : Orchestrator} (numbered : orchestrator.Numbered)
    {id : String} {inst after : Instance} (found : orchestrator.instance? id = some inst)
    (deed : Deed) (hafter : (orchestrator.perform deed).1.instance? id = some after) :
    after.run.phase = inst.run.phase := by
  cases deed with
  | cancel target =>
      obtain ⟨other, hother, phase⟩ := Orchestrator.phase_cancel numbered found target
      cases hother.symm.trans hafter
      exact phase
  | _ =>
      cases found.symm.trans hafter
      rfl

theorem shifts_setPhase {place : Workplace} {id : String} {phase : Phase}
    (quiet : ∀ inst, place.orchestrator.instance? id = some inst →
      inst.run.phase.StartsNothing phase) :
    Shifts place (place.setPhase id phase) :=
  shifts_updateRun place quiet

/-- What is driven stays open, whatever else happens. -/
private theorem opened_of_changes {before after : Orchestrator} (numbered : before.Numbered)
    (changes : Changes before after) {ids : List String}
    (opened : ∀ id ∈ ids, ∃ inst, before.instance? id = some inst) :
    ∀ id ∈ ids, ∃ inst, after.instance? id = some inst := by
  intro id member
  obtain ⟨inst, found⟩ := opened id member
  obtain ⟨later, hlater, _⟩ := (changes.leadsTo numbered).instances id inst found
  exact ⟨later, hlater⟩

theorem shifts_deliver {place : Workplace} {id : TaskId} {task : Task} {innermost : String}
    {outer : List String} {result : Fallible Result} (sound : place.Sound)
    (found : place.task? id = some task) (live : task.conclusion? = none)
    (isDrive : task.activity = .drive innermost outer)
    (bears : place.orchestrator.Bears innermost (conclusionOf result)) :
    Shifts place (place.deliver id outer result) := by
  have drives : task.drives = innermost :: outer := by rw [Task.drives, isDrive]
  cases outer with
  | nil =>
      apply shifts_endTask
      intro other hother root hroot
      cases found.symm.trans hother
      rw [drives] at hroot
      cases hroot
      exact bears
  | cons next outer =>
      have popped : Shifts place (place.updateTask id fun task =>
          { task with activity := .drive next outer }) := by
        refine .single (.driving ?_ ?_)
        · intro other hother
          cases found.symm.trans hother
          exact live
        · intro other hother driven member
          cases found.symm.trans hother
          apply sound.opened id task found
          rw [drives]
          exact List.mem_cons_of_mem innermost member
      simp only [deliver]
      exact popped.trans
        (shifts_updateRun _ fun inst _ => startsNothing_receive inst.run result)

/-- A task takes to driving a new instance, besides those it has been driving. -/
private theorem shifts_driveOpened {place : Workplace} {id : TaskId} {task : Task}
    {change : Task → Task} {outer : List String} {definition : Definition} {initial : Initial}
    (sound : place.Sound) (found : place.task? id = some task)
    (live : (change task).conclusion? = none)
    (drives : (change task).drives =
      (place.orchestrator.openInstance definition initial).2 :: outer)
    (driven : outer ⊆ task.drives) :
    Shifts place ((place.withOrchestrator
      (place.orchestrator.openInstance definition initial).1).updateTask id change) := by
  have changes : Changes place.orchestrator
      (place.orchestrator.openInstance definition initial).1 :=
    .single (.opened definition initial)
  refine (shifts_withOrchestrator place changes).tail (.driving ?_ ?_)
  · intro other hother
    cases found.symm.trans hother
    exact live
  · intro other hother innermost member
    cases found.symm.trans hother
    rw [drives] at member
    rcases List.mem_cons.mp member with rfl | member
    · exact Orchestrator.instance?_openInstance_self sound.numbered definition initial
    · exact opened_of_changes sound.numbered changes (sound.opened id task found) innermost
        (driven member)

theorem shifts_answer {place : Workplace} {id : TaskId} {task : Task} {inst : Instance}
    {outer : List String} {effect : Effect} {next : effect.Reply → Phase} (sound : place.Sound)
    (found : place.task? id = some task) (live : task.conclusion? = none)
    (isDrive : task.activity = .drive inst.id outer)
    (hinst : place.orchestrator.instance? inst.id = some inst) (asks : inst.run.Asks effect next) :
    Shifts place (place.answer id inst outer effect next) := by
  have quiet : ∀ reply other, place.orchestrator.instance? inst.id = some other →
      other.run.phase.StartsNothing (next reply) := by
    intro reply other hother
    cases hinst.symm.trans hother
    exact asks.startsNothing reply
  cases effect with
  | act deed =>
      have changes := Orchestrator.changes_perform place.orchestrator deed
      refine (shifts_withOrchestrator place changes).trans (shifts_setPhase ?_)
      intro other hother
      rw [phase_perform sound.numbered hinst deed hother]
      exact asks.startsNothing _
  | pause =>
      simp only [answer]
      refine .trans ?_ (shifts_wake _ _)
      exact .single (.arranged rfl rfl (.inr rfl))
  | gate name =>
      simp only [answer]
      split
      · exact shifts_setPhase (quiet false)
      · refine .trans ?_ (shifts_park _ _)
        exact .single (.arranged rfl rfl (.inl rfl))
  | start graph initial =>
      simp only [answer]
      split
      · exact shifts_setPhase (quiet _)
      · next definition _ =>
          refine shifts_driveOpened sound found live rfl ?_
          rw [Task.drives, isDrive]
          exact List.Subset.refl _
  | consult inquiry =>
      have changes : Changes place.orchestrator
          { place.orchestrator with services := (place.orchestrator.services.answer inquiry).2 } :=
        .single (.aside rfl rfl)
      exact (shifts_withOrchestrator place changes).trans (shifts_setPhase (quiet _))

theorem shifts_drive {place : Workplace} {id : TaskId} {task : Task} {innermost : String}
    {outer : List String} (sound : place.Sound) (found : place.task? id = some task)
    (live : task.conclusion? = none) (isDrive : task.activity = .drive innermost outer) :
    Shifts place (place.drive id innermost outer) := by
  unfold drive
  split
  · next missing =>
      obtain ⟨inst, hinst⟩ := sound.opened id task found innermost (by simp [Task.drives, isDrive])
      rw [missing] at hinst
      contradiction
  · next inst hinst =>
      have hid := Orchestrator.id_of_instance? hinst
      subst hid
      split
      · next run events moved =>
          have goes := Run.goes_of_move moved
          refine shifts_withOrchestrator place ?_
          refine .tail (.single (.driven hinst ?_)) (.aside rfl rfl)
          exact ⟨rfl, rfl, rfl, rfl, rfl, rfl, rfl, goes.startsNothing⟩
      · next effect next asked =>
          exact shifts_answer sound found live isDrive hinst (Run.asks_of_move asked)
      · next last ending isOver =>
          have stops := Run.stops_of_move isOver
          have ran : Changes place.orchestrator
              (place.orchestrator.put { inst with run := last }) := by
            refine .single (.driven hinst ⟨rfl, rfl, rfl, rfl, rfl, rfl, rfl, fun _ => ?_⟩)
            exact stops.phase_eq ▸ .refl _
          have numbered := ran.numbered sound.numbered
          have changes := ran.trans (Orchestrator.changes_conclude _ inst.id ending)
          have shifts := shifts_withOrchestrator place changes
          have bears := Orchestrator.bears_conclude numbered
            (Orchestrator.instance?_put_of_some hinst rfl) ending
          exact shifts.trans (shifts_deliver (sound.shifts shifts) found live isDrive bears)

/-! ### Turns -/

theorem shifts_interrupt (place : Workplace) (id : TaskId) (task : Task) :
    Shifts place (place.interrupt id task) := by
  unfold interrupt
  split
  · exact shifts_updateRun _ fun inst _ => startsNothing_resume inst.run true
  · exact shifts_endTask_interrupted place id

theorem shifts_proceed {place : Workplace} {id : TaskId} {task : Task}
    (idle : task.drives = [] → ∀ other, place.task? id = some other → other.drives = []) :
    Shifts place (place.proceed id task) := by
  unfold proceed
  split
  · exact .refl
  · split
    · exact shifts_updateRun _ fun inst _ => startsNothing_resume inst.run false
    · exact .refl
  · exact .refl
  · exact shifts_awaitTask place id _
  · exact .refl
  · next isGather =>
      have idle := idle (by rw [Task.drives, isGather])
      split
      · exact shifts_endTask_of_idle idle
      · refine .trans ?_ (shifts_endTask_of_idle idle)
        exact .single (.arranged rfl rfl (.inl rfl))

theorem shifts_beginTurn (place : Workplace) (id : TaskId) :
    Shifts place (place.beginTurn id) := by
  unfold beginTurn
  split
  · exact .refl
  · next task found =>
      split
      · exact .refl
      · have told : Shifts place (place.updateTask id fun task =>
            { task with standing := .ready, begun := true, stopRequested := false }) :=
          .single (.retold fun task _ => ⟨.inl rfl, .inr rfl⟩)
        have ready : ∀ other, (place.updateTask id fun task =>
              { task with standing := .ready, begun := true, stopRequested := false }).task? id =
            some other → other.conclusion? = none ∧ other.drives = task.drives := by
          intro other hother
          rw [task?_updateTask, if_pos rfl, found] at hother
          cases hother
          exact ⟨rfl, rfl⟩
        have taken := told.tail (.taken fun other hother => (ready other hother).1)
        dsimp only
        split
        · exact taken.trans (shifts_interrupt _ _ _)
        · refine taken.trans (shifts_proceed ?_)
          exact fun idle other hother => (ready other hother).2.trans idle

theorem shifts_advance {place : Workplace} {id : TaskId} {task : Task} (sound : place.Sound)
    (found : place.task? id = some task) (live : task.conclusion? = none) :
    Shifts place (place.advance id task) := by
  unfold advance
  split
  · next graph initial isStart =>
      split
      · apply shifts_endTask_of_idle
        intro other hother
        cases found.symm.trans hother
        rw [Task.drives, isStart]
      · next definition _ =>
          exact shifts_driveOpened sound found live rfl (List.nil_subset _)
  · next isDrive => exact shifts_drive sound found live isDrive
  · next isWait => exact shifts_wait found isWait
  · exact shifts_awaitTask _ _ _
  · next isShutdown => exact shifts_shutdown found isShutdown
  · exact shifts_park _ _

theorem shifts_tick? {place next : Workplace} (sound : place.Sound)
    (h : place.tick? = some next) : Shifts place next := by
  unfold tick? at h
  split at h
  · next id running =>
      split at h
      · cases h
        exact .single (.arranged rfl rfl (.inr rfl))
      · next task found =>
          cases h
          exact shifts_advance sound found (sound.live id running task found)
  · split at h
    · cases h
    · next job queue _ =>
        cases h
        have taken : Shifts place { place with queue } := .single (.arranged rfl rfl (.inl rfl))
        cases job with
        | turn id => exact taken.trans (shifts_beginTurn _ id)
        | release instanceId task => exact taken.tail (.arranged rfl rfl (.inl rfl))
        | count id => exact taken.trans (shifts_countEnd _ id)

/-! ### Everything together -/

/-- What can happen next: the next move of what goes on by itself, or something asked for from
outside, at any moment. `touch` is the hand of someone who shares a state with an instance. -/
inductive Next (place : Workplace) : Workplace → Prop
  | tick {next : Workplace} (h : place.tick? = some next) : Next place next
  | start (graph : String) (initial : Initial) :
      Next place (place.spawn (.start graph initial) []).1
  | submit {graph : String} {initial : Initial} {next : Workplace} {id : String}
      (h : place.submit graph initial = .ok (next, id)) : Next place next
  | wait (id : String) : Next place (place.spawn (.wait id) []).1
  | shutdown : Next place (place.spawn .shutdown []).1
  | cancel (id : String) : Next place (place.withOrchestrator (place.orchestrator.cancel id).1)
  | abort (id : TaskId) : Next place (place.abort id).1
  | register {definition : Definition} {after : Orchestrator}
      (h : place.orchestrator.register definition = .ok after) :
      Next place (place.withOrchestrator after)
  | registerApart {registry after : Registry} {definition : Definition}
      (lookup : place.orchestrator.lookup = .apart registry)
      (h : registry.register definition = .ok after) :
      Next place (place.withOrchestrator { place.orchestrator with lookup := .apart after })
  | clock (micros : Int) :
      Next place (place.withOrchestrator
        { place.orchestrator with now := place.orchestrator.now + micros })
  | services (services : Services) :
      Next place (place.withOrchestrator { place.orchestrator with services })
  | openGate (gate : String) : Next place (place.openGate gate)
  | closeGate (gate : String) : Next place (place.closeGate gate)
  | touch {id : String} {inst : Instance} (found : place.orchestrator.instance? id = some inst)
      (data : Data) :
      Next place (place.withOrchestrator (place.orchestrator.put (inst.withData data)))

abbrev Later : Workplace → Workplace → Prop :=
  Relation.ReflTransGen Next

/-- A workplace where nothing has happened yet. -/
structure IsNew (place : Workplace) : Prop where
  instances : place.orchestrator.instances = []
  history : ∃ limit, History.create limit = .ok place.orchestrator.history
  tasks : place.tasks = []
  submitted : place.submitted = []
  queue : place.queue = []
  atGates : place.atGates = []
  running : place.running = none

/-- What can be reached by any sequence and interleaving of what can happen. -/
def Reachable (place : Workplace) : Prop :=
  ∃ first, IsNew first ∧ Later first place

theorem Reachable.later {place after : Workplace} (reachable : place.Reachable)
    (later : Later place after) : after.Reachable := by
  obtain ⟨first, isNew, before⟩ := reachable
  exact ⟨first, isNew, before.trans later⟩

theorem continues_withData (inst : Instance) (data : Data) :
    inst.Continues (inst.withData data) := by
  unfold Instance.withData
  cases inst.parted with
  | none => exact ⟨rfl, rfl, rfl, rfl, rfl, rfl, rfl, fun _ => .refl _⟩
  | some state => exact ⟨rfl, rfl, rfl, rfl, rfl, rfl, rfl, fun _ => .refl _⟩

theorem shifts_submit {place next : Workplace} {graph id : String} {initial : Initial}
    (sound : place.Sound) (h : place.submit graph initial = .ok (next, id)) :
    Shifts place next := by
  unfold submit at h
  split at h
  · cases h
  · next definition _ =>
      cases h
      have changes : Changes place.orchestrator
          (place.orchestrator.openInstance definition initial).1 :=
        .single (.opened definition initial)
      refine .tail ((shifts_withOrchestrator place changes).trans (shifts_spawn ?_))
        (.arranged rfl rfl (.inl rfl))
      intro driven member
      rw [List.mem_singleton.mp member]
      exact Orchestrator.instance?_openInstance_self sound.numbered definition initial

theorem Next.shifts {place next : Workplace} (sound : place.Sound) (h : Next place next) :
    Shifts place next := by
  cases h with
  | tick h => exact shifts_tick? sound h
  | start => exact shifts_spawn nofun
  | submit h => exact shifts_submit sound h
  | wait => exact shifts_spawn nofun
  | shutdown => exact shifts_spawn nofun
  | cancel id => exact shifts_withOrchestrator place (Orchestrator.changes_cancel _ id)
  | abort id => exact shifts_stop _ _ _
  | @register definition after h =>
      unfold Orchestrator.register at h
      cases registered : place.orchestrator.registry.register definition with
      | error failure =>
          rw [registered] at h
          cases h
      | ok registry =>
          rw [registered] at h
          cases h
          exact .single (.changed (.aside rfl rfl))
  | registerApart => exact .single (.changed (.aside rfl rfl))
  | clock => exact .single (.changed (.aside rfl rfl))
  | services => exact .single (.changed (.aside rfl rfl))
  | openGate gate => exact shifts_openGate place gate
  | closeGate gate => exact .single (.arranged rfl rfl (.inl rfl))
  | @touch id inst found data =>
      have hid := Orchestrator.id_of_instance? found
      exact .single (.changed (.driven (hid ▸ found) (continues_withData inst data)))

theorem IsNew.sound {place : Workplace} (isNew : place.IsNew) : place.Sound where
  numbered := by simp [Orchestrator.Numbered, isNew.instances]
  opened := by simp [task?, isNew.tasks]
  bears := by simp [task?, isNew.tasks]
  live := by simp [isNew.running]

theorem Sound.later {place after : Workplace} (sound : place.Sound) (later : Later place after) :
    after.Sound := by
  induction later with
  | refl => exact sound
  | tail _ next ih => exact ih.shifts (next.shifts ih)

theorem Reachable.sound {place : Workplace} (reachable : place.Reachable) : place.Sound := by
  obtain ⟨first, isNew, later⟩ := reachable
  exact isNew.sound.later later

theorem Later.changes {place after : Workplace} (sound : place.Sound) (later : Later place after) :
    Changes place.orchestrator after.orchestrator := by
  induction later with
  | refl => exact .refl
  | tail before next ih => exact ih.trans (next.shifts (sound.later before)).changes

theorem Later.leadsTo {place after : Workplace} (sound : place.Sound) (later : Later place after) :
    place.orchestrator.LeadsTo after.orchestrator :=
  (later.changes sound).leadsTo sound.numbered

/-- To work off the queue is one of the things that can happen. -/
theorem later_settle (moves : Nat) (place : Workplace) : Later place (settle moves place) := by
  induction moves generalizing place with
  | zero => exact .refl
  | succ moves ih =>
      unfold settle
      split
      · exact .refl
      · next next h => exact .head (.tick h) (ih next)

end Workplace

end StepGraph
