import Mathlib.Data.List.Nodup
import Mathlib.Logic.Relation
import StepGraph.Orchestrator.Basic
import StepGraph.Proofs.Run.Move

namespace StepGraph

/-- No step has been started on the way from one phase to another: who is inside a step has been
inside the same one before. -/
def Phase.StartsNothing (before after : Phase) : Prop :=
  ∀ spec rest program, after = .inside spec rest program →
    ∃ earlier, before = .inside spec rest earlier

theorem Phase.StartsNothing.refl (phase : Phase) : phase.StartsNothing phase :=
  fun _ _ program h => ⟨program, h⟩

theorem Phase.StartsNothing.trans {first second third : Phase}
    (before : first.StartsNothing second) (after : second.StartsNothing third) :
    first.StartsNothing third := by
  intro spec rest program h
  obtain ⟨earlier, h⟩ := after spec rest program h
  exact before spec rest earlier h

namespace Run

theorem Settles.phase_eq {run settled : Run} {now : Instant} {spec : StepSpec} {program : Step}
    (settles : run.Settles now spec program settled) : settled.phase = run.phase := by
  cases settles <;> rfl

theorem Stops.phase_eq {run last : Run} {circumstances : Circumstances} {ending : Ending}
    (stops : run.Stops circumstances last ending) : last.phase = run.phase := by
  cases stops with
  | cancelledAfter _ settles => exact settles.phase_eq
  | completed _ settles => exact settles.phase_eq
  | deadEnd _ settles => exact settles.phase_eq
  | _ => rfl

theorem Goes.startsNothing {run next : Run} {circumstances : Circumstances} {events : List Event}
    (goes : run.Goes circumstances next events) (cancelled : circumstances.cancelled = true) :
    run.phase.StartsNothing next.phase := by
  intro spec rest program h
  cases goes with
  | begin => cases h
  | enter _ _ live =>
      rw [cancelled] at live
      contradiction
  | read phase =>
      cases h
      exact ⟨_, phase⟩
  | write phase =>
      cases h
      exact ⟨_, phase⟩
  | adopt phase =>
      cases h
      exact ⟨_, phase⟩
  | onward => cases h
  | route => cases h
  | routerRead => cases h
  | routerWrite => cases h
  | @follow _ _ _ _ successors =>
      cases successors <;> cases h

theorem Asks.startsNothing {run : Run} {effect : Effect} {next : effect.Reply → Phase}
    (asks : run.Asks effect next) (reply : effect.Reply) :
    run.phase.StartsNothing (next reply) := by
  intro spec rest program h
  cases asks with
  | step phase =>
      cases h
      exact ⟨_, phase⟩
  | router => cases h

end Run

namespace Instance

/-- How an instance goes on while nothing ends it. Once it has been cancelled it starts no step. -/
structure Continues (before after : Instance) : Prop where
  id : after.id = before.id
  graph : after.graph = before.graph
  startedAt : after.startedAt = before.startedAt
  status : after.status = before.status
  endedAt : after.endedAt = before.endedAt
  terminalStep : after.terminalStep = before.terminalStep
  error : after.error = before.error
  startsNothing : before.isCancelled = true → before.run.phase.StartsNothing after.run.phase

/-- How an instance can stand later on. Its end is final. -/
structure LeadsTo (before after : Instance) : Prop where
  id : after.id = before.id
  graph : after.graph = before.graph
  status : before.isActive = false → after.status = before.status
  startsNothing : before.isCancelled = true → before.run.phase.StartsNothing after.run.phase

theorem isActive_of_isCancelled {inst : Instance} (cancelled : inst.isCancelled = true) :
    inst.isActive = false := by
  simp only [isCancelled, beq_iff_eq] at cancelled
  simp [isActive, cancelled]

theorem LeadsTo.refl (inst : Instance) : inst.LeadsTo inst :=
  ⟨rfl, rfl, fun _ => rfl, fun _ => .refl _⟩

theorem LeadsTo.isActive {before after : Instance} (leads : before.LeadsTo after)
    (ended : before.isActive = false) : after.isActive = false := by
  have := leads.status ended
  simp only [Instance.isActive] at ended ⊢
  rw [this, ended]

theorem LeadsTo.isCancelled {before after : Instance} (leads : before.LeadsTo after)
    (cancelled : before.isCancelled = true) : after.isCancelled = true := by
  have := leads.status (isActive_of_isCancelled cancelled)
  simp only [Instance.isCancelled] at cancelled ⊢
  rw [this, cancelled]

theorem LeadsTo.trans {first second third : Instance} (before : first.LeadsTo second)
    (after : second.LeadsTo third) : first.LeadsTo third where
  id := after.id.trans before.id
  graph := after.graph.trans before.graph
  status := fun ended => (after.status (before.isActive ended)).trans (before.status ended)
  startsNothing := fun cancelled =>
    (before.startsNothing cancelled).trans (after.startsNothing (before.isCancelled cancelled))

theorem Continues.leadsTo {before after : Instance} (continues : before.Continues after) :
    before.LeadsTo after :=
  ⟨continues.id, continues.graph, fun _ => continues.status, continues.startsNothing⟩

theorem close_leadsTo {inst : Instance} (active : inst.isActive = true) (now : Instant)
    (status : Status) (terminalStep error : Option String) :
    inst.LeadsTo (inst.close now status terminalStep error) where
  id := rfl
  graph := rfl
  status := fun ended => by
    rw [active] at ended
    contradiction
  startsNothing := fun _ => .refl _

end Instance

namespace Orchestrator

def Numbered (orchestrator : Orchestrator) : Prop :=
  orchestrator.instances.map (·.id) =
    (List.range orchestrator.instances.length).map fun index => "i" ++ toString (index + 1)

theorem id_injective : Function.Injective fun index : Nat => "i" ++ toString (index + 1) := by
  intro first second h
  -- The digits of a number determine it.
  have hrepr := congrArg String.toList ((String.append_right_inj "i").mp h)
  simp only [Nat.toString_eq_repr, Nat.toList_repr] at hrepr
  have hvalue := congrArg (fun digits => Nat.ofDigitChars 10 digits 0) hrepr
  simp only [Nat.ofDigitChars_ten_toDigits] at hvalue
  omega

theorem Numbered.nodup {orchestrator : Orchestrator} (numbered : orchestrator.Numbered) :
    (orchestrator.instances.map (·.id)).Nodup := by
  rw [numbered]
  exact List.nodup_range.map id_injective

theorem nextId_notMem {orchestrator : Orchestrator} (numbered : orchestrator.Numbered) :
    orchestrator.nextId ∉ orchestrator.instances.map (·.id) := by
  rw [numbered]
  intro member
  obtain ⟨index, within, same⟩ := List.mem_map.mp member
  have heq : index = orchestrator.instances.length := id_injective same
  exact Nat.ne_of_lt (List.mem_range.mp within) heq

theorem instance?_eq_some_iff {orchestrator : Orchestrator} (numbered : orchestrator.Numbered)
    {id : String} {inst : Instance} :
    orchestrator.instance? id = some inst ↔ inst ∈ orchestrator.instances ∧ inst.id = id := by
  constructor
  · intro found
    exact ⟨List.mem_of_find?_eq_some found, by simpa using List.find?_some found⟩
  · rintro ⟨member, rfl⟩
    cases found : orchestrator.instance? inst.id with
    | none =>
        have := List.find?_eq_none.mp found inst member
        simp at this
    | some other =>
        have hother := List.mem_of_find?_eq_some found
        have hid : other.id = inst.id := by simpa using List.find?_some found
        rw [List.inj_on_of_nodup_map numbered.nodup hother member hid]

theorem id_of_instance? {orchestrator : Orchestrator} {id : String} {inst : Instance}
    (found : orchestrator.instance? id = some inst) : inst.id = id := by
  simpa using List.find?_some found

theorem active?_eq_some_iff {orchestrator : Orchestrator} (numbered : orchestrator.Numbered)
    {id : String} {inst : Instance} :
    orchestrator.active? id = some inst ↔
      orchestrator.instance? id = some inst ∧ inst.isActive = true := by
  constructor
  · intro found
    obtain ⟨hid, hactive⟩ := active?_isActive found
    have member := List.mem_of_find?_eq_some found
    have member := (List.mem_filter.mp member).1
    exact ⟨(instance?_eq_some_iff numbered).mpr ⟨member, hid⟩, hactive⟩
  · rintro ⟨found, hactive⟩
    have member := List.mem_of_find?_eq_some found
    have hid := id_of_instance? found
    cases hother : orchestrator.active? id with
    | none =>
        have := List.find?_eq_none.mp hother inst (List.mem_filter.mpr ⟨member, hactive⟩)
        simp [hid] at this
    | some other =>
        obtain ⟨hsame, _⟩ := active?_isActive hother
        have hmember := (List.mem_filter.mp (List.mem_of_find?_eq_some hother)).1
        rw [List.inj_on_of_nodup_map numbered.nodup hmember member (hsame.trans hid.symm)]

theorem active?_eq_none_of_ended {orchestrator : Orchestrator} (numbered : orchestrator.Numbered)
    {id : String} {inst : Instance} (found : orchestrator.instance? id = some inst)
    (ended : inst.isActive = false) : orchestrator.active? id = none := by
  by_contra active
  obtain ⟨other, hother⟩ := Option.ne_none_iff_exists'.mp active
  obtain ⟨hfound, hactive⟩ := (active?_eq_some_iff numbered).mp hother
  cases found.symm.trans hfound
  rw [ended] at hactive
  contradiction

theorem instance?_put (orchestrator : Orchestrator) (inst : Instance) (id : String) :
    (orchestrator.put inst).instance? id =
      if id = inst.id then (orchestrator.instance? id).map fun _ => inst
      else orchestrator.instance? id := by
  simp only [put, instance?]
  induction orchestrator.instances with
  | nil => simp
  | cons first rest ih =>
      rw [List.map_cons, List.find?_cons, ih, List.find?_cons]
      by_cases hfirst : first.id = inst.id
      · by_cases hid : id = inst.id
        · simp [hfirst, hid]
        · have hne : (inst.id == id) = false := beq_false_of_ne (Ne.symm hid)
          simp [hfirst, hid, hne]
      · by_cases hid : first.id = id
        · have hne : ¬ id = inst.id := fun h => hfirst (hid.trans h)
          simp [hid, hne]
        · have hne : (first.id == id) = false := beq_false_of_ne hid
          simp [hfirst, hne]

theorem instance?_put_of_some {orchestrator : Orchestrator} {id : String} {inst after : Instance}
    (found : orchestrator.instance? id = some inst) (hid : after.id = id) :
    (orchestrator.put after).instance? id = some after := by
  rw [instance?_put, if_pos hid.symm, found]
  rfl

theorem Numbered.put {orchestrator : Orchestrator} (numbered : orchestrator.Numbered)
    (inst : Instance) : (orchestrator.put inst).Numbered := by
  unfold Numbered at *
  rw [ids_put, length_put, numbered]

theorem Numbered.openInstance {orchestrator : Orchestrator} (numbered : orchestrator.Numbered)
    (definition : Definition) (initial : Initial) :
    (orchestrator.openInstance definition initial).1.Numbered := by
  unfold Numbered at *
  rw [length_openInstance, List.range_succ, List.map_append, ← numbered]
  simp [Orchestrator.openInstance, nextId]

theorem instance?_openInstance_of_some {orchestrator : Orchestrator} {id : String}
    {inst : Instance} (found : orchestrator.instance? id = some inst) (definition : Definition)
    (initial : Initial) :
    (orchestrator.openInstance definition initial).1.instance? id = some inst := by
  simp only [instance?, openInstance, List.find?_append] at found ⊢
  rw [found, Option.some_or]

theorem instance?_openInstance_self {orchestrator : Orchestrator}
    (numbered : orchestrator.Numbered) (definition : Definition) (initial : Initial) :
    ∃ inst, (orchestrator.openInstance definition initial).1.instance?
      (orchestrator.openInstance definition initial).2 = some inst := by
  have iff := @instance?_eq_some_iff _ (numbered.openInstance definition initial)
  exact ⟨_, iff.mpr ⟨List.mem_append_right _ (List.mem_singleton_self _), rfl⟩⟩

theorem finalize?_eq_some_iff {before after : Orchestrator} {id : String} {status : Status}
    {terminalStep error : Option String} :
    before.finalize? id status terminalStep error = some after ↔
      ∃ inst, before.active? id = some inst ∧
        after = { before.put (inst.close before.now status terminalStep error) with
          history := before.history.append
            ((inst.close before.now status terminalStep error).record before.now) } := by
  unfold finalize?
  cases before.active? id with
  | none => simp
  | some inst => simp [put, eq_comm]

inductive Change (before : Orchestrator) : Orchestrator → Prop
  | aside {after : Orchestrator} (instances : after.instances = before.instances)
      (history : after.history = before.history) : Change before after
  | driven {inst after : Instance} (found : before.instance? inst.id = some inst)
      (continues : inst.Continues after) : Change before (before.put after)
  | opened (definition : Definition) (initial : Initial) :
      Change before (before.openInstance definition initial).1
  | ended {id : String} {status : Status} {terminalStep error : Option String}
      {after : Orchestrator} (isTerminal : status ≠ .running)
      (finalized : before.finalize? id status terminalStep error = some after) :
      Change before after

abbrev Changes : Orchestrator → Orchestrator → Prop :=
  Relation.ReflTransGen Change

theorem Change.numbered {before after : Orchestrator} (change : Change before after)
    (numbered : before.Numbered) : after.Numbered := by
  cases change with
  | aside instances =>
      unfold Numbered at *
      rw [instances]
      exact numbered
  | driven => exact numbered.put _
  | opened definition initial => exact numbered.openInstance definition initial
  | ended _ finalized =>
      obtain ⟨inst, _, rfl⟩ := finalize?_eq_some_iff.mp finalized
      exact numbered.put _

theorem Changes.numbered {before after : Orchestrator} (changes : Changes before after)
    (numbered : before.Numbered) : after.Numbered := by
  induction changes with
  | refl => exact numbered
  | tail _ change ih => exact change.numbered ih

/-- How an orchestrator can stand later on. Instances keep their places, and a record is added only
for an instance that had not ended before. -/
structure LeadsTo (before after : Orchestrator) : Prop where
  places : before.instances.map (fun inst => (inst.id, inst.graph)) <+:
    after.instances.map fun inst => (inst.id, inst.graph)
  instances : ∀ id inst, before.instance? id = some inst →
    ∃ later, after.instance? id = some later ∧ inst.LeadsTo later
  history : ∃ added : List Record, after.history = added.foldl History.append before.history ∧
    ∀ record ∈ added, ∀ inst, before.instance? record.instanceId = some inst →
      inst.isActive = true

theorem LeadsTo.refl (orchestrator : Orchestrator) : orchestrator.LeadsTo orchestrator where
  places := List.prefix_refl _
  instances := fun _ inst found => ⟨inst, found, .refl inst⟩
  history := ⟨[], rfl, by simp⟩

theorem LeadsTo.trans {first second third : Orchestrator} (before : first.LeadsTo second)
    (after : second.LeadsTo third) : first.LeadsTo third where
  places := before.places.trans after.places
  instances := by
    intro id inst found
    obtain ⟨later, hlater, leads⟩ := before.instances id inst found
    obtain ⟨last, hlast, further⟩ := after.instances id later hlater
    exact ⟨last, hlast, leads.trans further⟩
  history := by
    obtain ⟨earlier, hearlier, hactive⟩ := before.history
    obtain ⟨later, hlater, hstill⟩ := after.history
    refine ⟨earlier ++ later, ?_, ?_⟩
    · rw [List.foldl_append, ← hearlier, hlater]
    · intro record member inst found
      rcases List.mem_append.mp member with hold | hnew
      · exact hactive record hold inst found
      · obtain ⟨other, hother, leads⟩ := before.instances _ inst found
        have hlive := hstill record hnew other hother
        by_contra ended
        have := leads.isActive (by simpa using ended)
        rw [hlive] at this
        contradiction

/-- What a replaced instance makes of the list of all. -/
private theorem places_put {orchestrator : Orchestrator} (numbered : orchestrator.Numbered)
    {inst after : Instance} (found : orchestrator.instance? inst.id = some inst)
    (leads : inst.LeadsTo after) :
    (orchestrator.put after).instances.map (fun inst => (inst.id, inst.graph)) =
      orchestrator.instances.map fun inst => (inst.id, inst.graph) := by
  simp only [put, List.map_map]
  apply List.map_congr_left
  intro other member
  by_cases h : other.id = after.id
  · have hsame : orchestrator.instance? inst.id = some other :=
      (instance?_eq_some_iff numbered).mpr ⟨member, h.trans leads.id⟩
    have heq : other = inst := Option.some.inj (hsame.symm.trans found)
    subst heq
    simp [leads.id, leads.graph]
  · simp [h]

private theorem instances_put {orchestrator : Orchestrator} {inst after : Instance}
    (found : orchestrator.instance? inst.id = some inst) (leads : inst.LeadsTo after) (id : String)
    (other : Instance) (hother : orchestrator.instance? id = some other) :
    ∃ later, (orchestrator.put after).instance? id = some later ∧ other.LeadsTo later := by
  rw [instance?_put]
  by_cases h : id = after.id
  · have hid : id = inst.id := h.trans leads.id
    subst hid
    have heq : other = inst := Option.some.inj (hother.symm.trans found)
    subst heq
    exact ⟨after, by rw [if_pos h, found]; rfl, leads⟩
  · exact ⟨other, by simp [h, hother], .refl other⟩

theorem Change.leadsTo {before after : Orchestrator} (numbered : before.Numbered)
    (change : Change before after) : before.LeadsTo after := by
  cases change with
  | aside instances history =>
      constructor
      · exact instances ▸ List.prefix_refl _
      · intro id inst found
        refine ⟨inst, ?_, .refl inst⟩
        rw [instance?, instances]
        exact found
      · exact ⟨[], history, by simp⟩
  | driven found continues =>
      constructor
      · exact (places_put numbered found continues.leadsTo).symm ▸ List.prefix_refl _
      · exact instances_put found continues.leadsTo
      · exact ⟨[], rfl, by simp⟩
  | opened definition initial =>
      constructor
      · rw [openInstance, List.map_append]
        exact List.prefix_append _ _
      · intro id inst found
        exact ⟨inst, instance?_openInstance_of_some found definition initial, .refl inst⟩
      · exact ⟨[], rfl, by simp⟩
  | @ended id status terminalStep error _ _ finalized =>
      obtain ⟨inst, isActive, rfl⟩ := finalize?_eq_some_iff.mp finalized
      obtain ⟨found, active⟩ := (active?_eq_some_iff numbered).mp isActive
      have hid := id_of_instance? found
      subst hid
      have leads := Instance.close_leadsTo active before.now status terminalStep error
      constructor
      · exact (places_put numbered found leads).symm ▸ List.prefix_refl _
      · exact instances_put found leads
      · refine ⟨[(inst.close before.now status terminalStep error).record before.now], rfl, ?_⟩
        intro record member other hother
        rw [List.mem_singleton.mp member] at hother
        have heq : other = inst := Option.some.inj (hother.symm.trans found)
        rw [heq, active]

theorem Changes.leadsTo {before after : Orchestrator} (numbered : before.Numbered)
    (changes : Changes before after) : before.LeadsTo after := by
  induction changes with
  | refl => exact .refl before
  | tail earlier change ih => exact ih.trans (change.leadsTo (Changes.numbered earlier numbered))

theorem LeadsTo.cancelled {before after : Orchestrator} (leads : before.LeadsTo after)
    {id : String} {inst : Instance} (found : before.instance? id = some inst)
    (cancelled : inst.isCancelled = true) :
    ∃ later, after.instance? id = some later ∧ later.isCancelled = true ∧
      inst.run.phase.StartsNothing later.run.phase := by
  obtain ⟨later, hlater, leads⟩ := leads.instances id inst found
  exact ⟨later, hlater, leads.isCancelled cancelled, leads.startsNothing cancelled⟩

theorem cancel_eq_true_iff {before after : Orchestrator} {id : String} :
    before.cancel id = (after, true) ↔ before.finalize? id .cancelled none none = some after := by
  unfold cancel
  cases before.finalize? id .cancelled none none <;> simp

theorem cancel_fst (orchestrator : Orchestrator) (id : String) :
    (orchestrator.cancel id).1 =
      (orchestrator.finalize? id .cancelled none none).getD orchestrator := by
  unfold cancel
  cases orchestrator.finalize? id .cancelled none none <;> rfl

theorem changes_cancel (orchestrator : Orchestrator) (id : String) :
    Changes orchestrator (orchestrator.cancel id).1 := by
  unfold cancel
  cases finalized : orchestrator.finalize? id .cancelled none none with
  | none => exact .refl
  | some after => exact .single (.ended (by simp) finalized)

theorem changes_cancelAll (ids : List String) (orchestrator : Orchestrator) :
    Changes orchestrator
      (ids.foldl (fun orchestrator id => (orchestrator.cancel id).1) orchestrator) := by
  induction ids generalizing orchestrator with
  | nil => exact .refl
  | cons id rest ih => exact (changes_cancel orchestrator id).trans (ih _)

theorem changes_perform (orchestrator : Orchestrator) (deed : Deed) :
    Changes orchestrator (orchestrator.perform deed).1 := by
  cases deed with
  | cancel id => exact changes_cancel orchestrator id
  | moveClock micros => exact .single (.aside rfl rfl)
  | _ => exact .refl

private theorem changes_finalize {orchestrator : Orchestrator} {id : String} {status : Status}
    {terminalStep error : Option String} (isTerminal : status ≠ .running) :
    Changes orchestrator
      ((orchestrator.finalize? id status terminalStep error).getD orchestrator) := by
  cases finalized : orchestrator.finalize? id status terminalStep error with
  | none => exact .refl
  | some after => exact .single (.ended isTerminal finalized)

theorem changes_conclude (orchestrator : Orchestrator) (id : String) (ending : Ending) :
    Changes orchestrator (orchestrator.conclude id ending).1 := by
  unfold conclude
  split
  · exact changes_finalize (by simp)
  · exact changes_finalize (by simp)
  · exact changes_finalize (by simp)
  · split
    · next finalized => exact .single (.ended (by simp) finalized)
    · split <;> exact .refl

end Orchestrator

end StepGraph
