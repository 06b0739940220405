import StepGraph.Proofs.Orchestrator.Charge
import StepGraph.Proofs.Orchestrator.Submission

namespace StepGraph

def Job.release? : Job → Option (String × TaskId)
  | .release id task => some (id, task)
  | _ => none

namespace Workplace

def releases (place : Workplace) : List (String × TaskId) :=
  place.queue.filterMap Job.release?

/-- Releases come up only for tasks that have ended. -/
def Frees (place next : Workplace) : Prop :=
  ∀ entry ∈ next.releases, entry ∈ place.releases ∨
    ∃ task, next.task? entry.2 = some task ∧ task.hasEnded = true

section

variable {place next : Workplace}

theorem frees_of_releases (same : next.releases = place.releases) : Frees place next :=
  fun _ member => .inl (same ▸ member)

theorem Frees.after {last : Workplace} (frees : Frees next last)
    (same : next.releases = place.releases) : Frees place last := by
  intro entry member
  rw [← same]
  exact frees entry member

theorem releases_enqueue (place : Workplace) {job : Job} (aside : job.release? = none) :
    (place.enqueue job).releases = place.releases := by
  simp [releases, enqueue, aside]

theorem releases_wake (place : Workplace) (id : TaskId) :
    (place.wake id).releases = place.releases :=
  releases_enqueue _ rfl

theorem releases_spawn (place : Workplace) (activity : Activity) (watchers : List Watcher) :
    (place.spawn activity watchers).1.releases = place.releases :=
  releases_enqueue { place with tasks := place.tasks ++ [{ activity, watchers }] } rfl

theorem releases_updateRun (place : Workplace) (id : String) (change : Run → Run) :
    (place.updateRun id change).releases = place.releases := by
  unfold updateRun
  split <;> rfl

theorem frees_endTask (place : Workplace) (id : TaskId) (conclusion : Conclusion) :
    Frees place (place.endTask id conclusion) := by
  intro entry member
  rw [releases, queue_endTask, List.filterMap_append] at member
  rcases List.mem_append.mp member with old | new
  · exact .inl old
  · right
    obtain ⟨job, hjob, isRelease⟩ := List.mem_filterMap.mp new
    obtain ⟨watcher, hwatcher, rfl⟩ := List.mem_map.mp hjob
    cases found : place.task? id with
    | none =>
        rw [found] at hwatcher
        cases hwatcher
    | some task =>
        have own : entry.2 = id := by
          cases watcher with
          | release => exact congrArg Prod.snd (Option.some.inj isRelease).symm
          | wake => cases isRelease
          | count => cases isRelease
        rw [own]
        exact ⟨_, task?_endTask found conclusion, rfl⟩

theorem frees_awaitTask (place : Workplace) (id other : TaskId) :
    Frees place (place.awaitTask id other) := by
  unfold awaitTask
  dsimp only
  split
  · exact (frees_endTask _ _ _).after rfl
  · exact frees_of_releases rfl

theorem frees_wait (place : Workplace) (id : TaskId) (instanceId : String) :
    Frees place (place.wait id instanceId) := by
  unfold wait
  split
  · exact frees_awaitTask _ _ _
  · exact frees_endTask _ _ _

theorem frees_deliver (place : Workplace) (id : TaskId) (outer : List String)
    (result : Fallible Result) : Frees place (place.deliver id outer result) := by
  cases outer with
  | nil => exact frees_endTask _ _ _
  | cons waiting outer => exact frees_of_releases (releases_updateRun _ _ _)

theorem releases_answer (place : Workplace) (id : TaskId) (inst : Instance) (outer : List String)
    (effect : Effect) (next : effect.Reply → Phase) :
    (place.answer id inst outer effect next).releases = place.releases := by
  cases effect with
  | act => exact releases_updateRun _ _ _
  | pause => exact releases_wake _ _
  | gate name =>
      simp only [answer]
      split
      · exact releases_updateRun _ _ _
      · rfl
  | start graph initial =>
      simp only [answer]
      split
      · exact releases_updateRun _ _ _
      · rfl
  | consult => exact releases_updateRun _ _ _

theorem frees_drive (place : Workplace) (id : TaskId) (innermost : String) (outer : List String) :
    Frees place (place.drive id innermost outer) := by
  unfold drive
  split
  · exact frees_endTask _ _ _
  · split
    · exact frees_of_releases rfl
    · exact frees_of_releases (releases_answer _ _ _ _ _ _)
    · exact (frees_deliver _ _ _ _).after rfl

theorem frees_shutdown (place : Workplace) (id : TaskId) : Frees place (place.shutdown id) := by
  have watched (place : Workplace) (other : TaskId) :
      (watchEnd id place other).releases = place.releases := by
    unfold watchEnd
    split
    · exact releases_enqueue place rfl
    · rfl
  unfold shutdown
  dsimp only
  split
  · exact (frees_endTask _ _ _).after rfl
  · exact frees_of_releases (part_foldl watched _ _)

theorem frees_advance (place : Workplace) (id : TaskId) (task : Task) :
    Frees place (place.advance id task) := by
  unfold advance
  split
  · split
    · exact frees_endTask _ _ _
    · exact frees_of_releases rfl
  · exact frees_drive _ _ _ _
  · exact frees_wait _ _ _
  · exact frees_awaitTask _ _ _
  · exact frees_shutdown _ _
  · exact frees_of_releases rfl

theorem frees_interrupt (place : Workplace) (id : TaskId) (task : Task) :
    Frees place (place.interrupt id task) := by
  unfold interrupt
  split
  · exact frees_of_releases (releases_updateRun _ _ _)
  · exact frees_endTask _ _ _

theorem frees_proceed (place : Workplace) (id : TaskId) (task : Task) :
    Frees place (place.proceed id task) := by
  unfold proceed
  split
  · exact frees_of_releases rfl
  · split
    · exact frees_of_releases (releases_updateRun _ _ _)
    · exact frees_of_releases rfl
  · exact frees_of_releases rfl
  · exact frees_awaitTask _ _ _
  · exact frees_of_releases rfl
  · split
    · exact frees_endTask _ _ _
    · exact (frees_endTask _ _ _).after rfl

theorem frees_beginTurn (place : Workplace) (id : TaskId) :
    Frees place (place.beginTurn id) := by
  unfold beginTurn
  split
  · exact frees_of_releases rfl
  · split
    · exact frees_of_releases rfl
    · dsimp only
      split
      · exact (frees_interrupt _ _ _).after rfl
      · exact (frees_proceed _ _ _).after rfl

theorem releases_countEnd (place : Workplace) (id : TaskId) :
    (place.countEnd id).releases = place.releases := by
  unfold countEnd
  split
  · rfl
  · split
    · dsimp only
      split
      · exact releases_enqueue _ rfl
      · rfl
    · rfl

theorem frees_tick? (h : place.tick? = some next) : Frees place next := by
  unfold tick? at h
  split at h
  · split at h <;> cases h
    · exact frees_of_releases rfl
    · exact frees_advance _ _ _
  · split at h
    · cases h
    · next job queue isNext =>
        cases h
        have fewer : ∀ entry ∈ ({ place with queue } : Workplace).releases,
            entry ∈ place.releases := by
          intro entry member
          rw [releases, isNext]
          exact ((List.sublist_cons_self job queue).filterMap _).subset member
        have performed {last : Workplace} (frees : Frees { place with queue } last) :
            Frees place last :=
          fun entry member => (frees entry member).imp_left (fewer entry)
        cases job with
        | turn id => exact performed (frees_beginTurn _ _)
        | release => exact performed (frees_of_releases rfl)
        | count id => exact performed (frees_of_releases (releases_countEnd _ _))

theorem releases_openGate (place : Workplace) (gate : String) :
    (place.openGate gate).releases = place.releases := by
  have woken (place : Workplace) (entry : String × TaskId) :
      (place.wake entry.2).releases = place.releases := releases_wake _ _
  simp only [openGate, List.partition_eq_filter_filter]
  exact part_foldl woken _ _

theorem releases_stop (depth : Nat) (place : Workplace) (id : TaskId) :
    (stop depth place id).1.releases = place.releases := by
  have requested (place : Workplace) (id : TaskId) :
      (place.requestStop id).releases = place.releases := by
    unfold requestStop
    dsimp only
    split
    · exact releases_wake _ _
    · rfl
  induction depth generalizing place id with
  | zero => rfl
  | succ depth ih =>
      unfold stop
      cases place.task? id with
      | none => rfl
      | some task =>
          dsimp only
          split
          · rfl
          · split
            · next other _ =>
                split
                · exact ih place other
                · exact (requested _ _).trans (ih place other)
            · next tasks left _ _ =>
                have passed := @stopAll_of_stop depth
                  (fun place next => next.releases = place.releases) (fun _ => rfl)
                  (fun _ _ _ first second => second.trans first) ih tasks (place, false)
                split
                · exact passed
                · exact (requested _ _).trans passed
            · exact requested place id

theorem Next.frees (happening : Next place next) : Frees place next := by
  cases happening with
  | tick h => exact frees_tick? h
  | start => exact frees_of_releases (releases_spawn _ _ _)
  | submit h =>
      unfold Workplace.submit at h
      split at h
      · cases h
      · cases h
        exact frees_of_releases (releases_spawn _ _ _)
  | wait => exact frees_of_releases (releases_spawn _ _ _)
  | shutdown => exact frees_of_releases (releases_spawn _ _ _)
  | abort id => exact frees_of_releases (releases_stop _ _ _)
  | openGate gate => exact frees_of_releases (releases_openGate _ _)
  | _ => exact frees_of_releases rfl

/-! ### What is forgotten -/

/-- A shutdown comes to its end: it has waited for the submitted tasks that it found, and forgets
all there are by then. -/
structure EndsShutdown (place next : Workplace) : Prop where
  ended : ∃ id before after tasks left, place.task? id = some before ∧
    before.activity = .gather tasks left false ∧ before.hasEnded = false ∧
    next.task? id = some after ∧ after.conclusion? = some .finished
  forgets : next.submitted = []

theorem submitted_beginTurn_or {task : Task} {id : TaskId} (found : place.task? id = some task)
    (queue : List Job) :
    ({ place with queue }.beginTurn id).submitted = place.submitted ∨
      EndsShutdown place ({ place with queue }.beginTurn id) := by
  let taken : Workplace := { place with queue }
  let begun : Workplace :=
    { taken.updateTask id fun task =>
        { task with standing := .ready, begun := true, stopRequested := false } with
      running := some id }
  have here : taken.task? id = some task := found
  change (taken.beginTurn id).submitted = _ ∨ EndsShutdown place (taken.beginTurn id)
  unfold beginTurn
  simp only [here]
  split
  · exact .inl rfl
  · next live =>
      split
      · exact .inl (submitted_interrupt begun id task)
      · change (begun.proceed id task).submitted = _ ∨ EndsShutdown place (begun.proceed id task)
        unfold proceed
        cases isGather : task.activity with
        | start => exact .inl rfl
        | drive =>
            dsimp only
            split
            · exact .inl (submitted_updateRun _ _ _)
            · exact .inl rfl
        | wait => exact .inl rfl
        | await => exact .inl (submitted_awaitTask _ _ _)
        | shutdown => exact .inl rfl
        | gather tasks left stopped =>
            cases stopped with
            | true => exact .inl rfl
            | false =>
                have told : begun.task? id = some
                    { task with standing := .ready, begun := true, stopRequested := false } :=
                  task?_updateTask_self here _
                have told : ({ begun with submitted := [] } : Workplace).task? id = some
                    { task with standing := .ready, begun := true, stopRequested := false } := told
                refine .inr ⟨⟨id, task, _, tasks, left, found, isGather, by simpa using live,
                  task?_endTask told .finished, rfl⟩, rfl⟩

theorem submitted_tick?_or (h : place.tick? = some next) {entry : String × TaskId}
    (member : entry ∈ place.submitted) :
    entry ∈ next.submitted ∨ entry ∈ place.releases ∨ EndsShutdown place next := by
  unfold tick? at h
  split at h
  · split at h <;> cases h
    · exact .inl member
    · rw [submitted_advance]
      exact .inl member
  · split at h
    · cases h
    · next job queue isNext =>
        cases h
        cases job with
        | turn id =>
            cases found : place.task? id with
            | none =>
                have missing : ({ place with queue } : Workplace).task? id = none := found
                left
                simp only [perform, beginTurn, missing]
                exact member
            | some task =>
                rcases submitted_beginTurn_or found queue with same | ends
                · left
                  rw [perform, same]
                  exact member
                · exact .inr (.inr ends)
        | release id task =>
            by_cases own : entry = (id, task)
            · right; left
              rw [releases, isNext, own]
              exact List.mem_cons_self
            · left
              refine List.mem_filter.mpr ⟨member, ?_⟩
              simpa [Prod.ext_iff, -not_and, not_and_or] using own
        | count id =>
            left
            rw [perform, submitted_countEnd]
            exact member

theorem Next.keepsSubmitted (happening : Next place next) {entry : String × TaskId}
    (member : entry ∈ place.submitted) :
    entry ∈ next.submitted ∨ entry ∈ place.releases ∨ EndsShutdown place next := by
  have same (heq : next.submitted = place.submitted) :
      entry ∈ next.submitted ∨ entry ∈ place.releases ∨ EndsShutdown place next :=
    .inl (heq ▸ member)
  cases happening with
  | tick h => exact submitted_tick?_or h member
  | submit h =>
      rw [(submits_of_submit h).submitted]
      exact .inl (List.mem_append_left _ member)
  | abort id => exact same (submitted_stop _ _ _)
  | openGate gate => exact same (submitted_openGate _ _)
  | _ => exact same rfl

/-! ### Drivers that are going -/

theorem Shifts.length_tasks_le (shifts : Shifts place next) :
    place.tasks.length ≤ next.tasks.length := by
  induction shifts with
  | refl => exact Nat.le_refl _
  | tail _ shift ih =>
      refine ih.trans ?_
      cases shift with
      | arranged _ tasks => rw [tasks]
      | spawned => simp
      | _ => simp [updateTask, withOrchestrator]

theorem Reachable.lt_of_releases (reachable : place.Reachable) {entry : String × TaskId}
    (member : entry ∈ place.releases) : entry.2 < place.tasks.length := by
  obtain ⟨first, isNew, later⟩ := reachable
  induction later with
  | refl =>
      rw [releases, isNew.queue] at member
      cases member
  | tail before happening ih =>
      rcases happening.frees entry member with older | ⟨task, found, _⟩
      · exact (ih older).trans_le (happening.shifts (isNew.sound.later before)).length_tasks_le
      · exact (List.getElem?_eq_some_iff.mp found).1

section

variable {after : Workplace} {id : String}

theorem Submits.duty? (submits : Submits id place next) :
    next.duty? place.tasks.length = some ⟨.drive id [], none⟩ := by
  rw [duty?_of_task? submits.task]
  rfl

theorem Submits.root? (reachable : next.Reachable) (submits : Submits id place next)
    (later : Later next after) : after.root? place.tasks.length = some id := by
  refine Later.root? reachable later ?_
  rw [Workplace.root?, submits.duty?]
  rfl

/-- The driver of a submitted instance is not about to be released before it has ended. -/
theorem Submits.unreleased (reachable : place.Reachable) (submits : Submits id place next)
    (happening : Next place next) (later : Later next after) :
    (∃ errand conclusion, after.duty? place.tasks.length = some ⟨errand, some conclusion⟩) ∨
      ∀ entry ∈ after.releases, entry.2 ≠ place.tasks.length := by
  have reached := reachable.later (.single happening)
  induction later with
  | refl =>
      right
      intro entry member
      rcases happening.frees entry member with older | ⟨task, found, ended⟩
      · exact Nat.ne_of_lt (reachable.lt_of_releases older)
      · intro own
        rw [own, submits.task] at found
        cases found
        cases ended
  | @tail before after earlier happened ih =>
      have reachedBefore := reached.later earlier
      rcases ih with ⟨errand, conclusion, ended⟩ | unreleased
      · exact .inl ⟨errand, conclusion,
          Later.keepsEnded reachedBefore (.single happened) ended⟩
      · by_cases released : ∃ entry ∈ after.releases, entry.2 = place.tasks.length
        · left
          obtain ⟨entry, member, own⟩ := released
          rcases happened.frees entry member with older | ⟨task, found, ended⟩
          · exact absurd own (unreleased entry older)
          · -- The task that has ended is still the driver that was made for the instance.
            obtain ⟨duty, hduty, _⟩ := Option.bind_eq_some_iff.mp
              (submits.root? reached (earlier.tail happened))
            obtain ⟨conclusion, hconclusion⟩ := Option.isSome_iff_exists.mp ended
            have same := duty?_of_task? (own ▸ found)
            rw [hduty, Task.duty?, hconclusion] at same
            obtain ⟨errand, _, heq⟩ := Option.map_eq_some_iff.mp same.symm
            exact ⟨errand, conclusion, hduty.trans (congrArg some heq.symm)⟩
        · right
          intro entry member own
          exact released ⟨entry, member, own⟩

/-- The task of a submitted instance is kept until it has ended or a shutdown has. -/
theorem Submits.kept (reachable : place.Reachable) (submits : Submits id place next)
    (happening : Next place next) (later : Later next after) :
    (id, place.tasks.length) ∈ after.submitted ∨
      (∃ errand conclusion, after.duty? place.tasks.length = some ⟨errand, some conclusion⟩) ∨
      ∃ before forgot, Later next before ∧ Next before forgot ∧ EndsShutdown before forgot ∧
        Later forgot after := by
  have reached := reachable.later (.single happening)
  induction later with
  | refl =>
      left
      rw [submits.submitted]
      exact List.mem_append_right _ List.mem_cons_self
  | @tail before after earlier happened ih =>
      rcases ih with kept | ⟨errand, conclusion, ended⟩ |
        ⟨first, forgot, hfirst, hforgot, ends, hlast⟩
      · rcases happened.keepsSubmitted kept with still | released | ends
        · exact .inl still
        · rcases submits.unreleased reachable happening earlier with
            ⟨errand, conclusion, ended⟩ | unreleased
          · exact .inr (.inl ⟨errand, conclusion,
              Later.keepsEnded (reached.later earlier) (.single happened) ended⟩)
          · exact absurd rfl (unreleased _ released)
        · exact .inr (.inr ⟨before, after, earlier, happened, ends, .refl⟩)
      · exact .inr (.inl ⟨errand, conclusion,
          Later.keepsEnded (reached.later earlier) (.single happened) ended⟩)
      · exact .inr (.inr ⟨first, forgot, hfirst, hforgot, ends, hlast.tail happened⟩)

end

end

end Workplace

end StepGraph
