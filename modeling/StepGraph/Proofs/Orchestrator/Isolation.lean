import Mathlib.Algebra.Order.BigOperators.Group.Finset
import StepGraph.Proofs.Orchestrator.Turns

namespace StepGraph

namespace Workplace

variable {first place next : Workplace} {calls : TaskId → Option Call} {made : TaskId → Nat}
  {solo : Solo} {call : Call} {id : TaskId}

/-! ### Gates -/

theorem post?_wake (live : ∀ post, place.post? id = some post → post.conclusion? = none) :
    (place.wake id).post? = place.post? := by
  cases found : place.task? id with
  | some task =>
      have live : task.conclusion? = none := live task.post (post?_of_task? found)
      exact post?_restanding found live fun _ => by simp
  | none =>
      have woken := post?_updateTask place id fun task => { task with standing := .ready }
      rw [found] at woken
      refine woken.trans (Function.update_eq_self_iff.mpr ?_)
      rw [post?, found]
      rfl

structure Woken (count : Nat) (place next : Workplace) : Prop where
  post : next.post? = place.post?
  orchestrator : next.orchestrator = place.orchestrator
  running : next.running = place.running
  atGates : next.atGates = place.atGates
  pending : next.pending = place.pending + count

theorem woken_all (entries : List (String × TaskId)) (place : Workplace)
    (live : ∀ entry ∈ entries, ∀ post, place.post? entry.2 = some post → post.conclusion? = none) :
    Woken entries.length place (entries.foldl (fun place entry => place.wake entry.2) place) := by
  induction entries generalizing place with
  | nil => exact ⟨rfl, rfl, rfl, rfl, rfl⟩
  | cons entry entries ih =>
      have post := post?_wake (live entry List.mem_cons_self)
      have later := ih (place.wake entry.2) fun other member => by
        rw [post]
        exact live other (List.mem_cons_of_mem _ member)
      refine ⟨later.post.trans post, later.orchestrator, later.running, later.atGates, ?_⟩
      refine later.pending.trans ?_
      rw [pending_wake, List.length_cons]
      omega

namespace Orderly

theorem isDriver (orderly : Orderly first calls made place) {task : Task}
    (found : place.task? id = some task) : task.isDriver = true := by
  have present := post?_of_task? found
  rcases orderly.works present with ⟨_, _, isStart⟩ | ⟨_, isDrive⟩
  · rw [Task.isDriver, show task.activity = _ from isStart]
    rfl
  · rw [Task.isDriver, show task.activity = _ from isDrive]
    rfl

theorem atGate (orderly : Orderly first calls made place) {entry : String × TaskId}
    (member : entry ∈ place.atGates) {post : Post} (present : place.post? entry.2 = some post) :
    post.conclusion? = none := by
  obtain ⟨task, found, rfl⟩ := task?_of_post? present
  have here : 0 < (place.atGates.map (·.2)).count entry.2 :=
    List.count_pos_iff.mpr (List.mem_map.mpr ⟨entry, member, rfl⟩)
  have live := orderly.reachable.inLine.live found (orderly.isDriver found)
      (by simp only [stands]; omega)
  change task.conclusion? = none
  simpa [Task.hasEnded] using live

/-- To open a gate lets those who wait at it go on, and nothing else. -/
theorem opensGate (orderly : Orderly first calls made place) (gate : String) :
    Orderly first calls made (place.openGate gate) ∧
      (place.openGate gate).pending + (place.atGates.filter (·.1 == gate)).length =
        place.pending := by
  let here := place.atGates.filter (·.1 == gate)
  let elsewhere := place.atGates.filter fun entry => !(entry.1 == gate)
  let parted : Workplace :=
    { place with openGates := gate :: place.openGates, atGates := elsewhere }
  have hnext : place.openGate gate =
      here.foldl (fun place entry => place.wake entry.2) parted := by
    simp only [openGate, List.partition_eq_filter_filter]
    rfl
  have woken := woken_all here parted fun entry member post present =>
    orderly.atGate (List.mem_filter.mp member).1 present
  rw [← hnext] at woken
  refine ⟨orderly.rearranged (orderly.reachable.later (.single (.openGate gate))) woken.post
    woken.running (.of_eq woken.orchestrator), ?_⟩
  have split : place.atGates.length = here.length + elsewhere.length :=
    List.length_eq_length_filter_add fun entry : String × TaskId => entry.1 == gate
  have weight : parted.pending + 2 * here.length = place.pending := by
    simp only [pending, parted]
    omega
  have opened : (place.openGate gate).pending = parted.pending + here.length := woken.pending
  change (place.openGate gate).pending + here.length = place.pending
  omega

end Orderly

theorem Crowd.orderly (crowd : Crowd first calls place) :
    ∃ made, Orderly first calls made place := by
  induction crowd with
  | new isNew => exact ⟨_, .new isNew⟩
  | tick _ h ih =>
      obtain ⟨made, orderly⟩ := ih
      obtain ⟨after, orderly, _⟩ := orderly.ticks h
      exact ⟨after, orderly⟩
  | start _ known blind own ih =>
      obtain ⟨made, orderly⟩ := ih
      exact ⟨_, orderly.starts known blind own⟩
  | submit _ known blind own h ih =>
      obtain ⟨made, orderly⟩ := ih
      exact ⟨_, orderly.submits known blind own h⟩
  | clock _ micros ih =>
      obtain ⟨made, orderly⟩ := ih
      exact ⟨made, orderly.rearranged (orderly.reachable.later (.single (.clock micros))) rfl rfl
        ⟨⟨rfl, rfl, rfl⟩, rfl, rfl⟩⟩
  | openGate _ gate ih =>
      obtain ⟨made, orderly⟩ := ih
      exact ⟨made, (orderly.opensGate gate).1⟩
  | closeGate _ gate ih =>
      obtain ⟨made, orderly⟩ := ih
      exact ⟨made, orderly.rearranged (orderly.reachable.later (.single (.closeGate gate))) rfl rfl
        (.of_eq rfl)⟩

/-! ### Ends -/

/-- A call has been driven to its end: what its instance has come to, wherever that is kept, and
what its driver hands out. -/
def Ends (place : Workplace) (id : TaskId) (upshot : Upshot) (told : Fallible Upshot) : Prop :=
  ∃ task conclusion inst, place.task? id = some task ∧ task.activity = .drive inst.id [] ∧
    task.conclusion? = some conclusion ∧ conclusion.told? = some told ∧
    place.orchestrator.instance? inst.id = some inst ∧ inst.upshot = upshot ∧
    ∀ record ∈ place.orchestrator.history.records, record.instanceId = inst.id →
      record.upshot = upshot

theorem tick?_eq_none : place.tick? = none ↔ place.running = none ∧ place.queue = [] := by
  cases running : place.running with
  | some id => cases found : place.task? id <;> simp [tick?, running, found]
  | none => cases queue : place.queue <;> simp [tick?, running, queue]

namespace Orderly

variable {upshot : Upshot} {told : Fallible Upshot}

theorem calledFor (orderly : Orderly first calls made place) (mine : calls id = some call) :
    ∃ task solo, place.task? id = some task ∧ Called first calls id call solo ∧
      Stage solo call place id (made id) := by
  cases present : place.post? id with
  | none => cases mine.symm.trans (orderly.crew id present)
  | some post =>
      obtain ⟨task, found, _⟩ := task?_of_post? present
      obtain ⟨own, solo, called, stage⟩ := orderly.stage id post present
      cases mine.symm.trans called.mine
      exact ⟨task, solo, found, called, stage⟩

/-- A call that has been driven to its end has come to what the run for it alone comes to. -/
theorem yields (orderly : Orderly first calls made place) (mine : calls id = some call)
    (ends : place.Ends id upshot told) :
    call.initial.IsOwn ∧ first.orchestrator.Yields call upshot told := by
  obtain ⟨task, conclusion, inst, found, isDrive, concluded, htold, opened, rfl, _⟩ := ends
  obtain ⟨_, solo, _, called, stage⟩ := orderly.calledFor mine
  have present : place.post? id = some ⟨.drive inst.id [], some conclusion, task.begun,
      task.stopRequested⟩ := by
    rw [post?, found, ← isDrive, ← concluded]
    rfl
  generalize made id = count at stage
  cases stage with
  | called post => cases present.symm.trans post
  | driving post => cases congrArg Post.conclusion? (Option.some.inj (present.symm.trans post))
  | @ended _ _ also own moves lone last ending post opens comes isOver comesTo hands =>
      obtain ⟨drives, same, _, _⟩ := Post.mk.inj (Option.some.inj (present.symm.trans post))
      cases same
      obtain ⟨same, _⟩ := Activity.drive.inj drives
      rw [← same, opened] at opens
      cases opens
      rw [htold] at hands
      exact ⟨called.own, solo, moves, lone, last, ending, called.isLone, comes, isOver, comesTo,
        Option.some.inj hands⟩

theorem ends_of_hasEnded (orderly : Orderly first calls made place) {task : Task}
    (mine : calls id = some call) (found : place.task? id = some task)
    (hasEnded : task.hasEnded = true) : ∃ upshot told, place.Ends id upshot told := by
  obtain ⟨_, solo, _, _, stage⟩ := orderly.calledFor mine
  have present := post?_of_task? found
  have live : task.conclusion? ≠ none := by
    intro live
    rw [Task.hasEnded, live] at hasEnded
    cases hasEnded
  generalize made id = count at stage
  cases stage with
  | called post =>
      exact absurd (congrArg Post.conclusion? (Option.some.inj (present.symm.trans post))) live
  | driving post =>
      exact absurd (congrArg Post.conclusion? (Option.some.inj (present.symm.trans post))) live
  | ended post opened comes isOver comesTo hands records =>
      obtain ⟨isDrive, concluded, _, _⟩ :=
        Post.mk.inj (Option.some.inj (present.symm.trans post))
      exact ⟨_, _, task, _, _, found, isDrive, concluded, hands, opened, rfl, records⟩

/-- When nothing happens by itself and nobody waits at a gate, every call has been driven to its
end. -/
theorem allEnd (orderly : Orderly first calls made place) (idle : place.tick? = none)
    (nobody : place.atGates = []) (mine : calls id = some call) :
    ∃ upshot told, place.Ends id upshot told := by
  obtain ⟨task, _, found, _, _⟩ := orderly.calledFor mine
  obtain ⟨running, queue⟩ := tick?_eq_none.mp idle
  have stands : place.stands id = 0 := by
    simp only [Workplace.stands, running, queue, nobody]
    rfl
  have once := orderly.reachable.inLine.once id task found (orderly.isDriver found)
  refine orderly.ends_of_hasEnded mine found ?_
  by_contra going
  rw [stands, if_neg going] at once
  cases once

end Orderly

/-! ### How long it takes -/

/-- How far the drivers of the calls come at most, and how many calls there are. -/
structure Capped (first : Workplace) (calls : TaskId → Option Call) (bound : TaskId → Nat)
    (count : Nat) : Prop where
  runs : ∀ id call, calls id = some call → ∀ solo, first.orchestrator.lone call = .ok solo →
    ∀ moves lone, Solo.Comes solo moves lone → moves + 2 ≤ bound id
  beyond : ∀ id, count ≤ id → calls id = none

/-- How much is left to do until every call has been driven to its end. A move of a run weighs
three, since it may leave two more things to do. -/
def remaining (bound : TaskId → Nat) (count : Nat) (made : TaskId → Nat) (place : Workplace) :
    Nat :=
  3 * ∑ id ∈ Finset.range count, (bound id - made id) + place.pending

namespace Orderly

variable {bound after : TaskId → Nat}

theorem capped (orderly : Orderly first calls made place)
    (each : ∀ id call, calls id = some call →
      ∃ upshot told, first.orchestrator.Yields call upshot told) :
    ∃ bound, Capped first calls bound place.tasks.length := by
  have bounded (id : TaskId) : ∃ bound, ∀ call, calls id = some call →
      ∀ solo, first.orchestrator.lone call = .ok solo →
        ∀ moves lone, Solo.Comes solo moves lone → moves + 2 ≤ bound := by
    cases mine : calls id with
    | none => exact ⟨0, fun _ none => by cases none⟩
    | some call =>
        obtain ⟨_, _, solo, moves, lone, last, ending, isLone, comes, isOver, _⟩ :=
          each id call mine
        refine ⟨moves + 2, ?_⟩
        rintro _ ⟨rfl⟩ other same more twin further
        cases isLone.symm.trans same
        exact Nat.add_le_add_right (comes.le_of_over isOver further) 2
  choose bound runs using bounded
  refine ⟨bound, runs, ?_⟩
  intro id outside
  refine orderly.crew id ?_
  rw [post?, task?, List.getElem?_eq_none_iff.mpr outside]
  rfl

theorem made_le (orderly : Orderly first calls made place) (capped : Capped first calls bound count)
    (mine : calls id = some call) : made id ≤ bound id := by
  obtain ⟨_, solo, _, called, stage⟩ := orderly.calledFor mine
  have runs := capped.runs id call mine solo called.isLone
  generalize made id = moves at stage
  cases stage with
  | called => exact Nat.zero_le _
  | driving _ _ _ _ _ comes => exact Nat.le_of_succ_le (runs _ _ comes)
  | ended _ _ comes => exact runs _ _ comes

theorem remaining_lt (orderly : Orderly first calls made place)
    (capped : Capped first calls bound count) (later : Orderly first calls after next)
    (lighter : Lighter made after place next) :
    remaining bound count after next < remaining bound count made place := by
  cases lighter with
  | rested same less =>
      rw [same]
      exact Nat.add_lt_add_left less _
  | @moved id post present more atMost =>
      obtain ⟨call, _, called, _⟩ := orderly.stage id post present
      have inside : id < count := by
        by_contra outside
        cases called.mine.symm.trans (capped.beyond id (Nat.le_of_not_lt outside))
      -- It has moved on and is still within its bound.
      have made_lt : made id < bound id := by
        have made_le := later.made_le capped called.mine
        rwa [more, Function.update_self] at made_le
      have fewer : ∑ other ∈ Finset.range count, (bound other - after other) <
          ∑ other ∈ Finset.range count, (bound other - made other) := by
        refine Finset.sum_lt_sum ?_ ⟨id, Finset.mem_range.mpr inside, ?_⟩
        · intro other _
          rw [more, Function.update_apply]
          split
          · next same =>
              subst same
              omega
          · exact Nat.le_refl _
        · rw [more, Function.update_self]
          omega
      simp only [remaining]
      omega

theorem settles (orderly : Orderly first calls made place)
    (capped : Capped first calls bound count) : ∃ moves, (settle moves place).tick? = none := by
  induction measured : remaining bound count made place using Nat.strong_induction_on
    generalizing made place with
  | h weight ih =>
      cases h : place.tick? with
      | none => exact ⟨0, h⟩
      | some next =>
          obtain ⟨after, later, lighter⟩ := orderly.ticks h
          obtain ⟨moves, halts⟩ :=
            ih _ (measured ▸ orderly.remaining_lt capped later lighter) later rfl
          refine ⟨moves + 1, ?_⟩
          simpa only [settle, h] using halts

end Orderly

/-- What comes of a workplace by itself and as gates are opened. -/
abbrev Onward : Workplace → Workplace → Prop :=
  Relation.ReflTransGen fun place next =>
    place.tick? = some next ∨ ∃ gate, next = place.openGate gate

theorem Crowd.onward (crowd : Crowd first calls place) (onward : place.Onward next) :
    Crowd first calls next := by
  induction onward with
  | refl => exact crowd
  | tail _ h ih =>
      rcases h with h | ⟨gate, rfl⟩
      · exact ih.tick h
      · exact ih.openGate gate

/-- Once the gates at which somebody waits are opened, everybody comes to an end. -/
theorem Orderly.goesOnward {bound : TaskId → Nat} (orderly : Orderly first calls made place)
    (capped : Capped first calls bound count) :
    ∃ next, place.Onward next ∧ next.tick? = none ∧ next.atGates = [] := by
  induction measured : remaining bound count made place using Nat.strong_induction_on
    generalizing made place with
  | h weight ih =>
      cases h : place.tick? with
      | some next =>
          obtain ⟨after, later, lighter⟩ := orderly.ticks h
          obtain ⟨last, onward, halts⟩ :=
            ih _ (measured ▸ orderly.remaining_lt capped later lighter) later rfl
          exact ⟨last, .head (.inl h) onward, halts⟩
      | none =>
          cases waiting : place.atGates with
          | nil => exact ⟨place, .refl, h, waiting⟩
          | cons entry others =>
              obtain ⟨later, lighter⟩ := orderly.opensGate entry.1
              have somebody : 0 < (place.atGates.filter fun other : String × TaskId =>
                  other.1 == entry.1).length := by
                rw [waiting, List.filter_cons_of_pos (by simp)]
                exact Nat.succ_pos _
              have lighter : remaining bound count made (place.openGate entry.1) < weight := by
                rw [← measured]
                exact Nat.add_lt_add_left (by omega) _
              obtain ⟨last, onward, halts⟩ := ih _ lighter later rfl
              exact ⟨last, .head (.inr ⟨entry.1, rfl⟩) onward, halts⟩

/-! ### Side by side and alone -/

namespace Crowd

variable {fresh : Workplace} {upshot other : Upshot} {told said : Fallible Upshot}

theorem startAlone {definition : Definition} (isNew : fresh.IsNew)
    (known : fresh.orchestrator.registry.get call.graph = .ok definition)
    (blind : definition.Blind) (own : call.initial.IsOwn) :
    Crowd fresh call.only (fresh.spawn (.start call.graph call.initial) []).1 := by
  have started := (Crowd.new isNew).start known blind own
  rwa [isNew.tasks] at started

theorem afterMoves (crowd : Crowd first calls place) (moves : Nat) :
    Crowd first calls (settle moves place) := by
  induction moves generalizing place with
  | zero => exact crowd
  | succ moves ih =>
      unfold settle
      split
      · exact crowd
      · next h => exact ih (crowd.tick h)

theorem yields (crowd : Crowd first calls place) (mine : calls id = some call)
    (ends : place.Ends id upshot told) :
    call.initial.IsOwn ∧ first.orchestrator.Yields call upshot told := by
  obtain ⟨made, orderly⟩ := crowd.orderly
  exact orderly.yields mine ends

theorem allEnd (crowd : Crowd first calls place) (idle : place.tick? = none)
    (nobody : place.atGates = []) (id : TaskId) (call : Call) (mine : calls id = some call) :
    ∃ upshot told, place.Ends id upshot told := by
  obtain ⟨made, orderly⟩ := crowd.orderly
  exact orderly.allEnd idle nobody mine

/-- Calls that end alone all end, if the gates at which they wait are opened. -/
theorem goesOnward (crowd : Crowd first calls place)
    (each : ∀ id call, calls id = some call →
      ∃ upshot told, first.orchestrator.Yields call upshot told) :
    ∃ next, place.Onward next ∧ Crowd first calls next ∧
      ∀ id call, calls id = some call → ∃ upshot told, next.Ends id upshot told := by
  obtain ⟨made, orderly⟩ := crowd.orderly
  obtain ⟨bound, capped⟩ := orderly.capped each
  obtain ⟨next, onward, idle, nobody⟩ := orderly.goesOnward capped
  have reached := crowd.onward onward
  exact ⟨next, onward, reached, reached.allEnd idle nobody⟩

theorem settles (crowd : Crowd first calls place)
    (each : ∀ id call, calls id = some call →
      ∃ upshot told, first.orchestrator.Yields call upshot told) :
    ∃ moves, (settle moves place).tick? = none := by
  obtain ⟨made, orderly⟩ := crowd.orderly
  obtain ⟨bound, capped⟩ := orderly.capped each
  exact orderly.settles capped

/-- A call that has ended among others ends in the same way when it is the only one. -/
theorem endsAlone (crowd : Crowd first calls place) (mine : calls id = some call)
    (ends : place.Ends id upshot told) (isNew : fresh.IsNew)
    (same : first.orchestrator.SameGraphs fresh.orchestrator) :
    ∃ alone, Crowd fresh call.only alone ∧ alone.Ends 0 upshot told := by
  obtain ⟨own, yields⟩ := crowd.yields mine ends
  obtain ⟨made, orderly⟩ := crowd.orderly
  obtain ⟨_, _, _, called, _⟩ := orderly.calledFor mine
  obtain ⟨definition, known, rfl⟩ := Orchestrator.lone_eq_ok called.isLone
  rw [← same.registry] at known
  have started := startAlone isNew known called.blind own
  obtain ⟨alone, _, reached, allEnd⟩ := started.goesOnward fun id only mine => by
    rw [Call.only, Function.update_apply] at mine
    split at mine
    · cases mine
      exact ⟨upshot, told, (same.yields own).mpr yields⟩
    · cases mine
  have mine : call.only 0 = some call := Function.update_self _ _ _
  obtain ⟨other, said, again⟩ := allEnd 0 call mine
  obtain ⟨rfl, rfl⟩ := yields.unique ((same.yields own).mp (reached.yields mine again).2)
  exact ⟨alone, reached, again⟩

/-- However the turns of some calls fall, each call that has ended comes to what it comes to when it
is the only one: its instance, all that is recorded of it, and what its driver hands out. If each
ends when it is the only one, all of them end. -/
theorem isolated (crowd : Crowd first calls place) :
    (∀ id call upshot told, calls id = some call → place.Ends id upshot told →
      ∀ fresh : Workplace, fresh.IsNew → first.orchestrator.SameGraphs fresh.orchestrator →
        (∃ alone, Crowd fresh call.only alone ∧ alone.Ends 0 upshot told) ∧
          ∀ alone other said, Crowd fresh call.only alone → alone.Ends 0 other said →
            other = upshot ∧ said = told) ∧
    ((∀ id call, calls id = some call → ∃ fresh alone upshot told, fresh.IsNew ∧
        first.orchestrator.SameGraphs fresh.orchestrator ∧ Crowd fresh call.only alone ∧
        alone.Ends 0 upshot told) →
      (∃ moves, (settle moves place).tick? = none) ∧
        ∃ next, place.Onward next ∧ Crowd first calls next ∧
          ∀ id call, calls id = some call → ∃ upshot told, next.Ends id upshot told) ∧
    (place.tick? = none → place.atGates = [] →
      ∀ id call, calls id = some call → ∃ upshot told, place.Ends id upshot told) := by
  refine ⟨?_, ?_, crowd.allEnd⟩
  · intro id call upshot told mine ends fresh isNew same
    obtain ⟨own, yields⟩ := crowd.yields mine ends
    refine ⟨crowd.endsAlone mine ends isNew same, ?_⟩
    intro alone other said reached again
    exact yields.unique
      ((same.yields own).mp (reached.yields (Function.update_self _ _ _) again).2)
  · intro each
    have each : ∀ id call, calls id = some call →
        ∃ upshot told, first.orchestrator.Yields call upshot told := by
      intro id call mine
      obtain ⟨fresh, alone, upshot, told, _, same, reached, ends⟩ := each id call mine
      obtain ⟨own, yields⟩ := reached.yields (Function.update_self _ _ _) ends
      exact ⟨upshot, told, (same.yields own).mp yields⟩
    exact ⟨crowd.settles each, crowd.goesOnward each⟩

end Crowd

def hesitant : Definition where
  name := "hesitant"
  steps :=
    [{ name := "publish"
       action := .ask .pause fun _ => .fail (.fault .value "refused")
       fatal := true }]
  routes := []
  entry := some "publish"
  terminals := ["publish"]
  ceiling := none
  description := none

theorem blind_hesitant : hesitant.Blind where
  steps := by
    intro spec member
    simp only [hesitant, List.mem_singleton] at member
    subst member
    exact .ask .pause fun _ => .fail _
  routers := by
    intro route member
    cases member

def hesitating (limit : Nat) : Workplace where
  orchestrator := { registry := ⟨[hesitant]⟩, history := { limit } }

def hesitantCall (text : String) : Call where
  graph := "hesitant"
  initial := .data (.plain (.text text))

def hesitantUpshot (text : String) : Upshot where
  status := .failed
  terminalStep := none
  error := some "Step 'publish' failed: refused"
  state := ⟨.plain (.text text), [("publish", "refused")], 1, 1⟩

/-- Two such calls, of which only the second is still on record. -/
def sideBySide : Workplace :=
  settle 16 (((hesitating 1).spawn (.start "hesitant" (hesitantCall "one").initial) []).1.spawn
    (.start "hesitant" (hesitantCall "two").initial) []).1

theorem Crowd.isolated_hesitant :
    ∃ calls alone, Crowd (hesitating 1) calls sideBySide ∧
      calls 0 = some (hesitantCall "one") ∧ calls 1 = some (hesitantCall "two") ∧
      sideBySide.Ends 0 (hesitantUpshot "one") (.error (.stepFailed "publish" "refused" true)) ∧
      sideBySide.Ends 1 (hesitantUpshot "two") (.error (.stepFailed "publish" "refused" true)) ∧
      Crowd (hesitating 7) (hesitantCall "two").only alone ∧
      alone.Ends 0 (hesitantUpshot "two") (.error (.stepFailed "publish" "refused" true)) := by
  have isNew : (hesitating 1).IsNew := ⟨rfl, ⟨1, rfl⟩, rfl, rfl, rfl, rfl, rfl⟩
  have apart : (hesitating 7).IsNew := ⟨rfl, ⟨7, rfl⟩, rfl, rfl, rfl, rfl, rfl⟩
  have started : Crowd (hesitating 1) _ ((hesitating 1).spawn
      (.start (hesitantCall "one").graph (hesitantCall "one").initial) []).1 :=
    .start (.new isNew) rfl blind_hesitant trivial
  have both : Crowd (hesitating 1) _ (((hesitating 1).spawn
      (.start (hesitantCall "one").graph (hesitantCall "one").initial) []).1.spawn
        (.start (hesitantCall "two").graph (hesitantCall "two").initial) []).1 :=
    .start started rfl blind_hesitant trivial
  have crowd : Crowd (hesitating 1) _ sideBySide := both.afterMoves 16
  have records : sideBySide.orchestrator.history.records.map (fun record =>
      (record.instanceId, record.upshot)) = [("i2", hesitantUpshot "two")] := rfl
  have recorded {record : Record} (member : record ∈ sideBySide.orchestrator.history.records) :
      record.instanceId = "i2" ∧ record.upshot = hesitantUpshot "two" := by
    have listed := List.mem_map_of_mem (f := fun record : Record =>
      (record.instanceId, record.upshot)) member
    rw [records, List.mem_singleton] at listed
    exact Prod.mk.inj listed
  let one := (sideBySide.orchestrator.instance? "i1").get rfl
  let two := (sideBySide.orchestrator.instance? "i2").get rfl
  have first : sideBySide.Ends 0 (hesitantUpshot "one")
      (.error (.stepFailed "publish" "refused" true)) := by
    refine ⟨(sideBySide.task? 0).get rfl, .failed _, one, rfl, rfl, rfl, rfl, rfl, rfl, ?_⟩
    intro record member same
    exact absurd ((recorded member).1.symm.trans same) (by decide +kernel)
  have second : sideBySide.Ends 1 (hesitantUpshot "two")
      (.error (.stepFailed "publish" "refused" true)) :=
    ⟨(sideBySide.task? 1).get rfl, .failed _, two, rfl, rfl, rfl, rfl, rfl, rfl,
      fun record member _ => (recorded member).2⟩
  obtain ⟨isolated, _, _⟩ := Crowd.isolated crowd
  obtain ⟨⟨alone, only, ends⟩, _⟩ :=
    isolated 1 (hesitantCall "two") _ _ rfl second (hesitating 7) apart ⟨rfl, rfl, rfl⟩
  exact ⟨_, alone, crowd, rfl, rfl, first, second, only, ends⟩

end Workplace

end StepGraph
