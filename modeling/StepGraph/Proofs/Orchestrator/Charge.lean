import StepGraph.Proofs.Graph.Registration
import StepGraph.Proofs.Orchestrator.Fate

namespace StepGraph

def Duty.charge : Duty → List String
  | ⟨.drive innermost outer, none⟩ => innermost :: outer
  | _ => []

def Duty.root? : Duty → Option String
  | ⟨.drive innermost outer, _⟩ => (innermost :: outer).getLast?
  | _ => none

namespace Workplace

def charge (place : Workplace) (task : TaskId) : List String :=
  ((place.duty? task).map (·.charge)).getD []

theorem charge_of_duty? {place : Workplace} {task : TaskId} {innermost : String}
    {outer : List String} (duty : place.duty? task = some ⟨.drive innermost outer, none⟩) :
    place.charge task = innermost :: outer := by
  rw [charge, duty]
  rfl

theorem charge_congr {place next : Workplace} (duty : next.duty? = place.duty?) :
    next.charge = place.charge := by
  funext task
  rw [charge, duty]
  rfl

theorem charge_update {place next : Workplace} {task : TaskId} {duty : Duty}
    (updated : next.duty? = Function.update place.duty? task (some duty)) :
    next.charge = Function.update place.charge task duty.charge := by
  funext other
  rw [charge, updated, Function.update_apply, Function.update_apply]
  split <;> rfl

/-- A driver takes charge of a new instance, besides those that it has. -/
structure Opens (task : TaskId) (id : String) (outer : List String) (place next : Workplace) :
    Prop where
  isNew : id = place.orchestrator.nextId
  orchestrator :
    ∃ graph definition initial, place.orchestrator.registry.get graph = .ok definition ∧
    next.orchestrator = (place.orchestrator.openInstance definition initial).1
  before : place.charge task = outer
  after : next.charge = Function.update place.charge task (id :: outer)

/-- The run of the innermost instance of a driver is over. -/
structure Leaves (task : TaskId) (id : String) (outer : List String) (place next : Workplace) :
    Prop where
  before : place.charge task = id :: outer
  after : next.charge = Function.update place.charge task outer
  fares : place.orchestrator.Fares [id] next.orchestrator
  idle : ∀ inst, next.orchestrator.instance? id = some inst → inst.isActive = false

/-- How charges change hands. A driver that is told to stop before it has begun leaves its instance
alone. -/
inductive Handover (place next : Workplace) : Prop
  | quiet (fares : place.orchestrator.Fares [] next.orchestrator)
      (charge : ∀ task, next.charge task = place.charge task ∨ next.charge task = []) :
      Handover place next
  | registered (beside : place.orchestrator.Beside next.orchestrator)
      (charge : next.charge = place.charge) : Handover place next
  | opens {task : TaskId} {id : String} {outer : List String}
      (opens : Opens task id outer place next) :
      Handover place next
  | leaves {task : TaskId} {id : String} {outer : List String}
      (leaves : Leaves task id outer place next) : Handover place next

section

variable {place next : Workplace}

private theorem unchanged (duty : next.duty? = place.duty?) (task : TaskId) :
    next.charge task = place.charge task ∨ next.charge task = [] :=
  .inl (by rw [charge_congr duty])

private theorem emptied {task : TaskId} {duty : Duty} (none : duty.charge = [])
    (updated : next.duty? = Function.update place.duty? task (some duty)) (other : TaskId) :
    next.charge other = place.charge other ∨ next.charge other = [] := by
  rw [charge_update updated, Function.update_apply]
  split
  · exact .inr none
  · exact .inl rfl

open Orchestrator in
theorem Ticks.handover (sound : place.Sound) (ticks : Ticks place next) : Handover place next := by
  have numbered := sound.numbered
  cases ticks with
  | aside same => exact .quiet (same.orchestrator ▸ .refl _) (unchanged same.duty)
  | shutdown _ _ _ orchestrator duty =>
      exact .quiet (orchestrator ▸ fares_cancelAll _ numbered) (unchanged duty)
  | @dismissed _ _ errand _ _ _ orchestrator duty =>
      refine .quiet (orchestrator ▸ .refl _) (emptied ?_ duty)
      cases errand <;> rfl
  | refused _ _ orchestrator duty => exact .quiet (orchestrator ▸ .refl _) (emptied rfl duty)
  | @begun task _ _ _ before known orchestrator duty =>
      have idle : place.charge task = [] := by
        rw [charge, before]
        rfl
      exact .opens ⟨rfl, ⟨_, _, _, known, orchestrator⟩, idle, charge_update duty⟩
  | moved _ found moved orchestrator duty =>
      refine .quiet (orchestrator ▸ ?_) (unchanged duty)
      exact (fares_put found (.went .start moved)).trans (.of_instances rfl rfl)
  | answered _ found asks _ replies orchestrator duty =>
      obtain ⟨later, hlater, asks⟩ := replies.asks numbered found asks
      have hid := id_of_instance? hlater
      refine .quiet ?_ (unchanged duty)
      rw [orchestrator, ← hid]
      exact (replies.fares numbered).trans (fares_answer (hid ▸ hlater) asks _)
  | nested before _ _ known orchestrator duty =>
      exact .opens ⟨rfl, ⟨_, _, _, known, orchestrator⟩, charge_of_duty? before,
        charge_update duty⟩
  | ended _ before found isOver orchestrator duty =>
      refine .leaves ⟨charge_of_duty? before, charge_update duty, ?_, ?_⟩
      · exact orchestrator ▸ fares_concluded numbered found isOver
      · intro inst hinst
        rw [orchestrator] at hinst
        exact idle_conclude (numbered.put _) hinst
  | @returned _ inst waiting _ last ending _ before found isOver orchestrator duty =>
      refine .leaves ⟨charge_of_duty? before, charge_update duty, ?_, ?_⟩
      · exact orchestrator ▸ (fares_concluded numbered found isOver).trans (fares_receive _ _)
      · intro other hother
        rw [orchestrator] at hother
        have received := @fares_receive [] (place.orchestrator.concluded inst last ending).1 waiting
          (place.orchestrator.concluded inst last ending).2
        exact received.idle (fun _ => idle_conclude (numbered.put _)) hother

open Orchestrator in
theorem Happens.handover (sound : place.Sound) (happens : Happens place next) :
    Handover place next := by
  have idle : place.task? place.tasks.length = none → place.charge place.tasks.length = [] := by
    intro new
    rw [charge, duty?, new]
    rfl
  cases happens with
  | ticked _ ticks => exact ticks.handover sound
  | beside beside duty => exact .registered beside (charge_congr duty)
  | cancelled id orchestrator duty =>
      exact .quiet (orchestrator ▸ fares_cancel sound.numbered id) (unchanged duty)
  | touched found data orchestrator duty =>
      exact .quiet (orchestrator ▸ fares_put found (.touched .start data)) (unchanged duty)
  | called _ _ orchestrator _ duty =>
      exact .quiet (orchestrator ▸ .refl _) (emptied rfl duty)
  | submitted known orchestrator new duty =>
      exact .opens ⟨rfl, ⟨_, _, _, known, orchestrator⟩, idle new, charge_update duty⟩

end

/-- Every instance that somebody has charge of is one driver's alone, and nothing but a cancellation
has ended it. -/
structure InCharge (place : Workplace) : Prop where
  nodup : ∀ task, (place.charge task).Nodup
  apart : ∀ first second id, id ∈ place.charge first → id ∈ place.charge second → first = second
  stands : ∀ task, ∀ id ∈ place.charge task, ∃ inst,
    place.orchestrator.instance? id = some inst ∧ (inst.isActive = true ∨ inst.isCancelled = true)

namespace InCharge

variable {place next : Workplace}

private theorem less (inCharge : place.InCharge)
    (sublist : ∀ task, (next.charge task).Sublist (place.charge task))
    (stands : ∀ task, ∀ id ∈ next.charge task, ∀ inst,
      place.orchestrator.instance? id = some inst →
      (inst.isActive = true ∨ inst.isCancelled = true) → ∃ later,
        next.orchestrator.instance? id = some later ∧
          (later.isActive = true ∨ later.isCancelled = true)) : next.InCharge where
  nodup := fun task => (inCharge.nodup task).sublist (sublist task)
  apart := fun first second id hfirst hsecond =>
    inCharge.apart first second id ((sublist first).subset hfirst) ((sublist second).subset hsecond)
  stands := by
    intro task id member
    obtain ⟨inst, found, going⟩ := inCharge.stands task id ((sublist task).subset member)
    exact stands task id member inst found going

private theorem going {judged : List String} {id : String} {inst : Instance}
    (fares : place.orchestrator.Fares judged next.orchestrator) (spared : id ∉ judged)
    (found : place.orchestrator.instance? id = some inst)
    (going : inst.isActive = true ∨ inst.isCancelled = true) :
    ∃ later, next.orchestrator.instance? id = some later ∧
      (later.isActive = true ∨ later.isCancelled = true) := by
  obtain ⟨later, hlater, fares⟩ := fares.goes id inst found
  have hid := Orchestrator.id_of_instance? found
  refine ⟨later, hlater, ?_⟩
  rcases fares.status_eq (hid ▸ spared) with same | cancelled
  · simpa only [Instance.isActive, Instance.isCancelled, same] using going
  · exact .inr cancelled

theorem nextId_notMem (numbered : place.orchestrator.Numbered) (inCharge : place.InCharge)
    (task : TaskId) : place.orchestrator.nextId ∉ place.charge task := by
  intro member
  obtain ⟨inst, found, _⟩ := inCharge.stands task _ member
  obtain ⟨hinst, hid⟩ := (Orchestrator.instance?_eq_some_iff numbered).mp found
  exact Orchestrator.nextId_notMem numbered (List.mem_map.mpr ⟨inst, hinst, hid⟩)

private theorem opens {task : TaskId} {id : String} {outer : List String}
    (numbered : place.orchestrator.Numbered) (inCharge : place.InCharge)
    (opens : Opens task id outer place next) : next.InCharge := by
  have new : ∀ other, id ∉ place.charge other :=
    fun other => opens.isNew ▸ inCharge.nextId_notMem numbered other
  obtain ⟨_, definition, initial, _, orchestrator⟩ := opens.orchestrator
  have mem_iff : ∀ other driven, driven ∈ next.charge other ↔
      (other = task ∧ driven = id) ∨ driven ∈ place.charge other := by
    intro other driven
    rw [opens.after, Function.update_apply]
    split
    · next h =>
        subst h
        simp [opens.before]
    · next h => simp [h]
  constructor
  · intro other
    rw [opens.after, Function.update_apply]
    split
    · rw [← opens.before]
      exact List.nodup_cons.mpr ⟨new task, inCharge.nodup task⟩
    · exact inCharge.nodup other
  · intro first second driven hfirst hsecond
    rcases (mem_iff first driven).mp hfirst with ⟨rfl, rfl⟩ | hfirst
    · rcases (mem_iff second driven).mp hsecond with ⟨rfl, _⟩ | hsecond
      · rfl
      · exact absurd hsecond (new second)
    · rcases (mem_iff second driven).mp hsecond with ⟨_, rfl⟩ | hsecond
      · exact absurd hfirst (new first)
      · exact inCharge.apart first second driven hfirst hsecond
  · intro other driven member
    rw [orchestrator, Orchestrator.instance?_openInstance numbered, ← opens.isNew]
    rcases (mem_iff other driven).mp member with ⟨_, rfl⟩ | member
    · rw [if_pos rfl]
      exact ⟨_, rfl, .inl rfl⟩
    · rw [if_neg (ne_of_mem_of_not_mem member (new other))]
      exact inCharge.stands other driven member

private theorem leaves {task : TaskId} {id : String} {outer : List String}
    (inCharge : place.InCharge) (leaves : Leaves task id outer place next) : next.InCharge := by
  have nodup := leaves.before ▸ inCharge.nodup task
  refine inCharge.less ?_ ?_
  · intro other
    rw [leaves.after, Function.update_apply]
    split
    · next h =>
        subst h
        rw [leaves.before]
        exact List.sublist_cons_self id outer
    · exact List.Sublist.refl _
  · intro other driven member inst
    refine going leaves.fares fun judged => ?_
    rw [leaves.after, Function.update_apply, List.mem_singleton.mp judged] at member
    split at member
    · exact (List.nodup_cons.mp nodup).1 member
    · next distinct =>
        refine distinct (inCharge.apart other task id member ?_)
        rw [leaves.before]
        exact List.mem_cons_self

theorem handover (numbered : place.orchestrator.Numbered) (inCharge : place.InCharge)
    (handover : Handover place next) : next.InCharge := by
  cases handover with
  | quiet fares charge =>
      refine inCharge.less ?_ ?_
      · intro task
        rcases charge task with same | none
        · rw [same]
        · rw [none]
          exact List.nil_sublist _
      · exact fun _ id _ inst => going fares List.not_mem_nil
  | registered beside charge =>
      refine inCharge.less (fun task => by rw [charge]) ?_
      intro _ id _ inst found stands
      refine ⟨inst, ?_, stands⟩
      rw [Orchestrator.instance?, beside.instances]
      exact found
  | opens opens => exact inCharge.opens numbered opens
  | leaves leaves => exact inCharge.leaves leaves

end InCharge

theorem IsNew.inCharge {place : Workplace} (isNew : place.IsNew) : place.InCharge := by
  have none : ∀ task, place.charge task = [] := by
    intro task
    rw [charge, duty?, task?, isNew.tasks]
    rfl
  exact ⟨by simp [none], by simp [none], by simp [none]⟩

theorem Next.handover {place next : Workplace} (reachable : place.Reachable)
    (happening : Next place next) : Handover place next :=
  (happening.happens reachable.sound reachable.inLine).handover reachable.sound

theorem Reachable.inCharge {place : Workplace} (reachable : place.Reachable) : place.InCharge := by
  obtain ⟨first, isNew, later⟩ := reachable
  induction later with
  | refl => exact isNew.inCharge
  | tail before happening ih =>
      have reachable : Reachable _ := ⟨first, isNew, before⟩
      exact ih.handover reachable.sound.numbered (happening.handover reachable)

/-! ### Where instances and charges come from -/

theorem Handover.find? {place next : Workplace} (handover : Handover place next) {name : String}
    {definition : Definition}
    (known : place.orchestrator.registry.find? name = some definition) :
    next.orchestrator.registry.find? name = some definition := by
  cases handover with
  | quiet fares => rw [fares.registry, known]
  | opens opens =>
      obtain ⟨_, _, _, _, orchestrator⟩ := opens.orchestrator
      rw [orchestrator]
      exact known
  | leaves leaves => rw [leaves.fares.registry, known]
  | registered beside =>
      rcases beside.registry with same | ⟨other, registered⟩
      · rw [same, known]
      · obtain ⟨free, _, _⟩ := Registry.register_eq_ok_iff.mp registered
        rw [Registry.find?_register registered, if_neg, known]
        rintro rfl
        rw [Registry.contains, known] at free
        contradiction

theorem Handover.built {place next : Workplace} (handover : Handover place next)
    (built : place.orchestrator.registry.Built) : next.orchestrator.registry.Built := by
  cases handover with
  | quiet fares => exact fares.registry ▸ built
  | opens opens =>
      obtain ⟨_, _, _, _, orchestrator⟩ := opens.orchestrator
      rw [orchestrator]
      exact built
  | leaves leaves => exact leaves.fares.registry ▸ built
  | registered beside =>
      rcases beside.registry with same | ⟨other, registered⟩
      · exact same ▸ built
      · exact built.register registered

theorem Later.built {place after : Workplace} (reachable : place.Reachable)
    (later : Later place after) (built : place.orchestrator.registry.Built) :
    after.orchestrator.registry.Built := by
  induction later with
  | refl => exact built
  | tail before happening ih => exact (happening.handover (reachable.later before)).built ih

/-- Every instance was opened for a registered definition and has fared as it can since. -/
theorem Later.origin {first place : Workplace} (isNew : first.IsNew) (later : Later first place)
    {id : String} {inst : Instance} (found : place.orchestrator.instance? id = some inst) :
    ∃ (before : Workplace) (definition : Definition) (initial : Initial) (judged : List String),
      place.orchestrator.registry.find? definition.name = some definition ∧
      (before.orchestrator.opening definition initial).Fares judged inst := by
  induction later generalizing inst with
  | refl =>
      rw [Orchestrator.instance?, isNew.instances] at found
      cases found
  | @tail place next before happening ih =>
      have reachable : Reachable place := ⟨first, isNew, before⟩
      have handover := happening.handover reachable
      have grows : ∀ {definition : Definition},
          place.orchestrator.registry.find? definition.name = some definition →
          next.orchestrator.registry.find? definition.name = some definition := handover.find?
      -- One that has been opened before.
      have older : ∀ {judged}, place.orchestrator.Fares judged next.orchestrator →
          ∃ (before : Workplace) (definition : Definition) (initial : Initial)
            (judged : List String),
            next.orchestrator.registry.find? definition.name = some definition ∧
            (before.orchestrator.opening definition initial).Fares judged inst := by
        intro judged fares
        cases earlier : place.orchestrator.instance? id with
        | none =>
            rw [fares.opens id earlier] at found
            contradiction
        | some old =>
            obtain ⟨between, definition, initial, more, known, fared⟩ := ih earlier
            obtain ⟨_, hlater, fares⟩ := fares.goes id old earlier
            cases hlater.symm.trans found
            refine ⟨between, definition, initial, more ++ judged, grows known, ?_⟩
            exact (fared.mono (List.subset_append_left more judged)).trans
              (fares.mono (List.subset_append_right more judged))
      cases handover with
      | quiet fares => exact older fares
      | leaves leaves => exact older leaves.fares
      | registered beside =>
          have found : place.orchestrator.instance? id = some inst := by
            rw [Orchestrator.instance?, ← beside.instances]
            exact found
          obtain ⟨between, definition, initial, judged, known, fared⟩ := ih found
          exact ⟨between, definition, initial, judged, grows known, fared⟩
      | opens opens =>
          obtain ⟨graph, definition, initial, known, orchestrator⟩ := opens.orchestrator
          rw [orchestrator, Orchestrator.instance?_openInstance reachable.sound.numbered] at found
          split at found
          · cases found
            exact ⟨place, definition, initial, [], grows (Registry.find?_of_get known), .start⟩
          · obtain ⟨between, definition, initial, judged, known, fared⟩ := ih found
            exact ⟨between, definition, initial, judged, grows known, fared⟩

section

variable {task : TaskId} {id : String} {outer : List String}

/-- What a driver has charge of, it took charge of at some time, with the same instances waiting. -/
private theorem Handover.suffix {place next : Workplace} (handover : Handover place next)
    (suffix : id :: outer <:+ next.charge task) :
    id :: outer <:+ place.charge task ∨ Opens task id outer place next := by
  cases handover with
  | quiet fares charge =>
      rcases charge task with same | none
      · exact .inl (same ▸ suffix)
      · rw [none] at suffix
        simp at suffix
  | registered _ charge => exact .inl (charge ▸ suffix)
  | @opens other new waiting opens =>
      rw [opens.after, Function.update_apply] at suffix
      split at suffix
      · next h =>
          subst h
          rcases List.suffix_cons_iff.mp suffix with same | suffix
          · obtain ⟨rfl, rfl⟩ := List.cons.inj same
            exact .inr opens
          · exact .inl (opens.before ▸ suffix)
      · exact .inl suffix
  | @leaves other last waiting leaves =>
      rw [leaves.after, Function.update_apply] at suffix
      split at suffix
      · next h =>
          subst h
          exact .inl (leaves.before ▸ suffix.trans (List.suffix_cons last waiting))
      · exact .inl suffix

theorem Later.opens {first place : Workplace} (isNew : first.IsNew) (later : Later first place)
    (suffix : id :: outer <:+ place.charge task) :
    ∃ before after, Later first before ∧ Next before after ∧ Opens task id outer before after ∧
      Later after place := by
  induction later with
  | refl =>
      have none : first.charge task = [] := by
        rw [charge, duty?, task?, isNew.tasks]
        rfl
      rw [none] at suffix
      simp at suffix
  | @tail place next earlier happening ih =>
      have reachable : Reachable place := ⟨first, isNew, earlier⟩
      rcases (happening.handover reachable).suffix suffix with suffix | opens
      · obtain ⟨before, after, hbefore, hnext, opens, hafter⟩ := ih suffix
        exact ⟨before, after, hbefore, hnext, opens, hafter.tail happening⟩
      · exact ⟨place, next, earlier, happening, opens, .refl⟩

/-- As long as a driver has charge of an instance, the same ones wait for it. -/
private theorem Handover.suffix_iff {place next : Workplace} {inst : Instance}
    (handover : Handover place next) (numbered : place.orchestrator.Numbered)
    (inCharge : place.InCharge) (opened : place.orchestrator.instance? id = some inst)
    (member : id ∈ next.charge task) :
    id ∈ place.charge task ∧
      (id :: outer <:+ next.charge task ↔ id :: outer <:+ place.charge task) := by
  have suffix_cons {first : String} {rest : List String} (distinct : id ≠ first) :
      id :: outer <:+ first :: rest ↔ id :: outer <:+ rest := by
    rw [List.suffix_cons_iff]
    exact or_iff_right fun same => distinct (List.cons.inj same).1
  cases handover with
  | quiet fares charge =>
      rcases charge task with same | none
      · rw [same] at member ⊢
        exact ⟨member, .rfl⟩
      · rw [none] at member
        contradiction
  | registered _ charge =>
      rw [charge] at member ⊢
      exact ⟨member, .rfl⟩
  | @opens other new waiting opens =>
      have distinct : id ≠ new := by
        rintro rfl
        obtain ⟨hinst, hid⟩ := (Orchestrator.instance?_eq_some_iff numbered).mp opened
        apply Orchestrator.nextId_notMem numbered
        exact opens.isNew ▸ List.mem_map.mpr ⟨inst, hinst, hid⟩
      rw [opens.after, Function.update_apply] at member ⊢
      split at member
      · next h =>
          subst h
          rw [if_pos rfl, opens.before]
          exact ⟨List.mem_of_ne_of_mem distinct member, suffix_cons distinct⟩
      · next h =>
          rw [if_neg h]
          exact ⟨member, .rfl⟩
  | @leaves other last waiting leaves =>
      have nodup := leaves.before ▸ inCharge.nodup other
      rw [leaves.after, Function.update_apply] at member ⊢
      split at member
      · next h =>
          subst h
          have distinct : id ≠ last := fun same => (List.nodup_cons.mp nodup).1 (same ▸ member)
          rw [if_pos rfl, leaves.before]
          exact ⟨List.mem_cons_of_mem last member, (suffix_cons distinct).symm⟩
      · next h =>
          rw [if_neg h]
          exact ⟨member, .rfl⟩

theorem Later.suffix_iff {place after : Workplace} {inst : Instance} (reachable : place.Reachable)
    (later : Later place after) (opened : place.orchestrator.instance? id = some inst)
    (member : id ∈ after.charge task) :
    id ∈ place.charge task ∧
      (id :: outer <:+ after.charge task ↔ id :: outer <:+ place.charge task) := by
  induction later with
  | refl => exact ⟨member, .rfl⟩
  | tail before happening ih =>
      have reached := reachable.later before
      obtain ⟨between, hbetween, _⟩ :=
        (Later.leadsTo reachable.sound before).instances id inst opened
      obtain ⟨member, step⟩ := (happening.handover reached).suffix_iff reached.sound.numbered
        reached.inCharge hbetween member
      obtain ⟨member, same⟩ := ih member
      exact ⟨member, step.trans same⟩

theorem Later.opens_once {place between next after : Workplace} {inst : Instance} {other : String}
    (reachable : place.Reachable) (opened : place.orchestrator.instance? id = some inst)
    (earlier : Later place between) (happening : Next between next) (later : Later next after)
    (stands : id :: outer <:+ after.charge task) : ¬ Opens task other outer between next := by
  intro opens
  have reached := reachable.later earlier
  obtain ⟨_, hbetween, _⟩ := (Later.leadsTo reachable.sound earlier).instances id inst opened
  have member : id ∈ after.charge task := stands.subset List.mem_cons_self
  have stood := ((Later.suffix_iff reached (.head happening later) hbetween member).2).mp stands
  rw [opens.before] at stood
  exact absurd stood.length_le (by simp)

end

/-! ### The instance a driver was made for -/

def root? (place : Workplace) (task : TaskId) : Option String :=
  (place.duty? task).bind (·.root?)

section

variable {place next : Workplace} {task : TaskId} {id : String}

private theorem root?_congr (duty : next.duty? = place.duty?) (root : place.root? task = some id) :
    next.root? task = some id := by
  rw [root?, duty]
  exact root

private theorem root?_update {other : TaskId} {duty : Duty}
    (updated : next.duty? = Function.update place.duty? other (some duty))
    (same : place.root? other = some id → duty.root? = some id)
    (root : place.root? task = some id) : next.root? task = some id := by
  rw [root?, updated, Function.update_apply]
  split
  · next h =>
      subst h
      exact same root
  · exact root

theorem Happens.root? (happens : Happens place next) (root : place.root? task = some id) :
    next.root? task = some id := by
  have of_duty {other : TaskId} {duty : Duty} (before : place.duty? other = some duty)
      (root : place.root? other = some id) : duty.root? = some id := by
    rw [Workplace.root?, before] at root
    exact root
  have of_new {other : TaskId} (new : place.task? other = none) :
      place.root? other ≠ some id := by
    rw [Workplace.root?, duty?, new]
    simp
  cases happens with
  | beside _ duty => exact root?_congr duty root
  | cancelled _ _ duty => exact root?_congr duty root
  | touched _ _ _ duty => exact root?_congr duty root
  | called _ _ _ new duty => exact root?_update duty (absurd · (of_new new)) root
  | submitted _ _ new duty => exact root?_update duty (absurd · (of_new new)) root
  | ticked _ ticks =>
      cases ticks with
      | aside same => exact root?_congr same.duty root
      | shutdown _ _ _ _ duty => exact root?_congr duty root
      | moved _ _ _ _ duty => exact root?_congr duty root
      | answered _ _ _ _ _ _ duty => exact root?_congr duty root
      | @dismissed _ _ errand _ _ before _ duty =>
          refine root?_update duty (fun root => ?_) root
          cases errand <;> exact (of_duty before root :)
      | refused before _ _ duty =>
          exact root?_update duty (fun root => (of_duty before root :)) root
      | begun before _ _ duty =>
          refine root?_update duty (fun root => ?_) root
          cases of_duty before root
      | nested before _ _ _ _ duty =>
          exact root?_update duty (fun root => (of_duty before root :)) root
      | ended _ before _ _ _ duty =>
          exact root?_update duty (fun root => (of_duty before root :)) root
      | returned _ before _ _ _ duty =>
          exact root?_update duty (fun root => (of_duty before root :)) root

theorem Later.root? (reachable : place.Reachable) (later : Later place next)
    (root : place.root? task = some id) : next.root? task = some id := by
  induction later with
  | refl => exact root
  | tail before happening ih =>
      have reached := reachable.later before
      exact (happening.happens reached.sound reached.inLine).root? ih

theorem root?_of_charge {outer : List String} (charge : place.charge task = id :: outer) :
    place.root? task = (id :: outer).getLast? := by
  unfold Workplace.charge at charge
  unfold Workplace.root?
  cases found : place.duty? task with
  | none =>
      rw [found] at charge
      cases charge
  | some duty =>
      rw [found] at charge
      obtain ⟨errand, conclusion⟩ := duty
      cases errand with
      | call => cases charge
      | drive innermost outer =>
          cases conclusion with
          | none =>
              cases charge
              rfl
          | some => cases charge

theorem Later.opens_root {place between after : Workplace} {other : String}
    (reachable : place.Reachable) (happening : Next place between)
    (opens : Opens task other [] place between) (later : Later between after)
    (charge : after.charge task = [id]) : other = id := by
  have charged : between.charge task = [other] := by
    rw [opens.after, Function.update_self]
  have root := Later.root? (reachable.later (.single happening)) later (root?_of_charge charged)
  rw [root?_of_charge charge] at root
  exact (Option.some.inj root).symm

end

/-! ### How drivers end -/

theorem conclusionOf_eq_failed {result : Fallible Result} {failure : Failure}
    (failed : conclusionOf result = .failed failure) : result = .error failure := by
  cases result with
  | ok => cases failed
  | error =>
      cases failed
      rfl

/-- A driver ends: it was told to stop before it began, there is no such graph, or the run of the
instance it was made for is over. -/
inductive Concludes (task : TaskId) (place next : Workplace) : Errand → Conclusion → Prop
  | dismissed (errand : Errand) : Concludes task place next errand (.failed .interrupted)
  | refused {graph : String} {initial : Initial} {failure : Failure}
      (missing : place.orchestrator.registry.get graph = .error failure) :
      Concludes task place next (.call graph initial) (.failed failure)
  | ended {inst : Instance} {last : Run} {ending : Ending} (running : place.running = some task)
      (duty : place.duty? task = some ⟨.drive inst.id [], none⟩)
      (found : place.orchestrator.instance? inst.id = some inst)
      (isOver : inst.run.move (place.orchestrator.circumstances inst) = .over last ending)
      (orchestrator : next.orchestrator = (place.orchestrator.concluded inst last ending).1)
      (happened : place.tick? = some next) :
      Concludes task place next (.drive inst.id [])
        (conclusionOf (place.orchestrator.concluded inst last ending).2)

private theorem Happens.concludes {place next : Workplace} {task : TaskId} {errand : Errand}
    {conclusion : Conclusion} (happens : Happens place next)
    (ended : next.duty? task = some ⟨errand, some conclusion⟩) :
    place.duty? task = some ⟨errand, some conclusion⟩ ∨
      Concludes task place next errand conclusion := by
  have kept (duty : next.duty? = place.duty?) :
      place.duty? task = some ⟨errand, some conclusion⟩ := duty ▸ ended
  -- Either another driver's duty has changed or this one's.
  have updated {other : TaskId} {duty : Duty}
      (changed : next.duty? = Function.update place.duty? other (some duty)) :
      place.duty? task = some ⟨errand, some conclusion⟩ ∨
        (task = other ∧ duty = ⟨errand, some conclusion⟩) := by
    by_cases own : task = other
    · rw [changed, own, Function.update_self] at ended
      exact .inr ⟨own, Option.some.inj ended⟩
    · rw [changed, Function.update_of_ne own] at ended
      exact .inl ended
  have apart {other : TaskId} {going : Errand}
      (changed : next.duty? = Function.update place.duty? other (some ⟨going, none⟩)) :
      place.duty? task = some ⟨errand, some conclusion⟩ :=
    (updated changed).resolve_right fun own => nomatch (Duty.mk.inj own.2).2
  cases happens with
  | beside _ duty => exact .inl (kept duty)
  | cancelled _ _ duty => exact .inl (kept duty)
  | touched _ _ _ duty => exact .inl (kept duty)
  | called _ _ _ _ duty => exact .inl (apart duty)
  | submitted _ _ _ duty => exact .inl (apart duty)
  | ticked h ticks =>
      cases ticks with
      | aside aside => exact .inl (kept aside.duty)
      | shutdown _ _ _ _ duty => exact .inl (kept duty)
      | moved _ _ _ _ duty => exact .inl (kept duty)
      | answered _ _ _ _ _ _ duty => exact .inl (kept duty)
      | begun _ _ _ duty => exact .inl (apart duty)
      | nested _ _ _ _ _ duty => exact .inl (apart duty)
      | returned _ _ _ _ _ duty => exact .inl (apart duty)
      | dismissed _ _ _ _ duty =>
          rcases updated duty with same | ⟨_, same⟩
          · exact .inl same
          · cases same
            exact .inr (.dismissed _)
      | refused _ missing _ duty =>
          rcases updated duty with same | ⟨_, same⟩
          · exact .inl same
          · cases same
            exact .inr (.refused missing)
      | ended running before found isOver orchestrator duty =>
          rcases updated duty with same | ⟨rfl, same⟩
          · exact .inl same
          · cases same
            exact .inr (.ended running before found isOver orchestrator h)

theorem Later.concludes {first place : Workplace} {task : TaskId} {errand : Errand}
    {conclusion : Conclusion} (isNew : first.IsNew) (later : Later first place)
    (ended : place.duty? task = some ⟨errand, some conclusion⟩) :
    ∃ before after, Later first before ∧ Next before after ∧
      Concludes task before after errand conclusion ∧ Later after place := by
  induction later with
  | refl =>
      rw [duty?, task?, isNew.tasks] at ended
      cases ended
  | @tail place next earlier happening ih =>
      have reachable : Reachable place := ⟨first, isNew, earlier⟩
      rcases (happening.happens reachable.sound reachable.inLine).concludes ended with
        ended | concludes
      · obtain ⟨before, after, hbefore, hnext, concludes, hafter⟩ := ih ended
        exact ⟨before, after, hbefore, hnext, concludes, hafter.tail happening⟩
      · exact ⟨place, next, earlier, happening, concludes, .refl⟩

section

variable {place next : Workplace} {task : TaskId} {errand : Errand} {conclusion : Conclusion}

theorem Happens.keepsEnded (happens : Happens place next)
    (ended : place.duty? task = some ⟨errand, some conclusion⟩) :
    next.duty? task = some ⟨errand, some conclusion⟩ := by
  have unchanged (duty : next.duty? = place.duty?) :
      next.duty? task = some ⟨errand, some conclusion⟩ := duty ▸ ended
  have updated {other : TaskId} {going : Errand} {duty : Duty}
      (before : place.duty? other = some ⟨going, none⟩)
      (changed : next.duty? = Function.update place.duty? other (some duty)) :
      next.duty? task = some ⟨errand, some conclusion⟩ := by
    have distinct : task ≠ other := by
      rintro rfl
      cases before.symm.trans ended
    rw [changed, Function.update_of_ne distinct, ended]
  have added {duty : Duty} (new : place.task? place.tasks.length = none)
      (changed : next.duty? = Function.update place.duty? place.tasks.length (some duty)) :
      next.duty? task = some ⟨errand, some conclusion⟩ := by
    have distinct : task ≠ place.tasks.length := by
      rintro rfl
      rw [duty?, new] at ended
      cases ended
    rw [changed, Function.update_of_ne distinct, ended]
  cases happens with
  | beside _ duty => exact unchanged duty
  | cancelled _ _ duty => exact unchanged duty
  | touched _ _ _ duty => exact unchanged duty
  | called _ _ _ new duty => exact added new duty
  | submitted _ _ new duty => exact added new duty
  | ticked _ ticks =>
      cases ticks with
      | aside same => exact unchanged same.duty
      | shutdown _ _ _ _ duty => exact unchanged duty
      | moved _ _ _ _ duty => exact unchanged duty
      | answered _ _ _ _ _ _ duty => exact unchanged duty
      | dismissed _ _ before _ duty => exact updated before duty
      | refused before _ _ duty => exact updated before duty
      | begun before _ _ duty => exact updated before duty
      | nested before _ _ _ _ duty => exact updated before duty
      | ended _ before _ _ _ duty => exact updated before duty
      | returned _ before _ _ _ duty => exact updated before duty

theorem Later.keepsEnded (reachable : place.Reachable) (later : Later place next)
    (ended : place.duty? task = some ⟨errand, some conclusion⟩) :
    next.duty? task = some ⟨errand, some conclusion⟩ := by
  induction later with
  | refl => exact ended
  | tail before happening ih =>
      have reached := reachable.later before
      exact (happening.happens reached.sound reached.inLine).keepsEnded ih

end

end Workplace

end StepGraph
