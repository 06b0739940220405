import StepGraph.Proofs.Orchestrator.Happening
import StepGraph.Proofs.Run.Course

namespace StepGraph

theorem Run.Stops.eq_state {run last : Run} {circumstances : Circumstances} {ending : Ending}
    (stops : run.Stops circumstances last ending) :
    last = { run with state := last.state, origin := last.origin } := by
  cases stops with
  | cancelledAfter _ settles => cases settles <;> rfl
  | completed _ settles => cases settles <;> rfl
  | deadEnd _ settles => cases settles <;> rfl
  | _ => rfl

namespace Instance

/-- What an instance can come to. Those of some ids may be closed by more than a cancellation. -/
inductive Fares (judged : List String) (first : Instance) : Instance → Prop
  | start : Fares judged first first
  | went {inst : Instance} {circumstances : Circumstances} {run : Run} {events : List Event}
      (before : Fares judged first inst) (moved : inst.run.move circumstances = .go run events) :
      Fares judged first (inst.follow run events)
  | answered {inst : Instance} {effect : Effect} {onward : effect.Reply → Phase}
      (before : Fares judged first inst) (asks : inst.run.Asks effect onward)
      (reply : effect.Reply) :
      Fares judged first { inst with run := { inst.run with phase := onward reply } }
  | last {inst : Instance} {circumstances : Circumstances} {run : Run} {ending : Ending}
      (before : Fares judged first inst) (isOver : inst.run.move circumstances = .over run ending) :
      Fares judged first { inst with run }
  | touched {inst : Instance} (before : Fares judged first inst) (data : Data) :
      Fares judged first (inst.withData data)
  | closed {inst : Instance} {status : Status} (before : Fares judged first inst)
      (active : inst.isActive = true) (isTerminal : status ≠ .running)
      (reason : status = .cancelled ∨ inst.id ∈ judged) (now : Instant)
      (terminalStep error : Option String) :
      Fares judged first (inst.close now status terminalStep error)

namespace Fares

variable {judged : List String} {first inst last : Instance}

theorem trans (before : Fares judged first inst) (after : Fares judged inst last) :
    Fares judged first last := by
  induction after with
  | start => exact before
  | went _ moved ih => exact ih.went moved
  | answered _ asks reply ih => exact ih.answered asks reply
  | last _ isOver ih => exact ih.last isOver
  | touched _ data ih => exact ih.touched data
  | closed _ active isTerminal reason now terminalStep error ih =>
      exact ih.closed active isTerminal reason now terminalStep error

theorem mono {more : List String} (subset : judged ⊆ more) (fares : Fares judged first inst) :
    Fares more first inst := by
  induction fares with
  | start => exact .start
  | went _ moved ih => exact ih.went moved
  | answered _ asks reply ih => exact ih.answered asks reply
  | last _ isOver ih => exact ih.last isOver
  | touched _ data ih => exact ih.touched data
  | closed _ active isTerminal reason now terminalStep error ih =>
      exact ih.closed active isTerminal (reason.imp_right (@subset _)) now terminalStep error

theorem id_eq (fares : Fares judged first inst) : inst.id = first.id := by
  induction fares with
  | start => rfl
  | went _ _ ih => exact ih
  | answered _ _ _ ih => exact ih
  | last _ _ ih => exact ih
  | touched _ data ih =>
      unfold withData
      split <;> exact ih
  | closed _ _ _ _ _ _ _ ih => exact ih

theorem status_eq (fares : Fares judged first inst) (spared : first.id ∉ judged) :
    inst.status = first.status ∨ inst.isCancelled = true := by
  induction fares with
  | start => exact .inl rfl
  | went _ _ ih => exact ih
  | answered _ _ _ ih => exact ih
  | last _ _ ih => exact ih
  | touched _ data ih =>
      unfold withData
      split <;> exact ih
  | closed before _ _ reason =>
      rcases reason with rfl | member
      · exact .inr rfl
      · exact absurd (before.id_eq ▸ member) spared

theorem course {run : Run} {trace : List Event} (course : Run.Course run trace first.run)
    (fares : Fares judged first inst) : ∃ trace, Run.Course run trace inst.run := by
  induction fares with
  | start => exact ⟨trace, course⟩
  | went _ moved ih =>
      obtain ⟨trace, course⟩ := ih
      exact ⟨_, course.go _ moved⟩
  | answered _ asks reply ih =>
      obtain ⟨trace, course⟩ := ih
      exact ⟨trace, course.ask ⟨0, true, false⟩ (asks.move_eq _) reply⟩
  | last _ isOver ih =>
      obtain ⟨trace, course⟩ := ih
      rw [(Run.stops_of_move isOver).eq_state]
      exact ⟨trace, course.disturbed _ _⟩
  | touched _ data ih =>
      obtain ⟨trace, course⟩ := ih
      unfold withData
      split
      · exact ⟨trace, course.disturbed _ _⟩
      · exact ⟨trace, course⟩
  | closed _ _ _ _ _ _ _ ih =>
      obtain ⟨trace, course⟩ := ih
      exact ⟨trace, course.disturbed _ _⟩

theorem status_of_ended (fares : Fares judged first inst) (ended : first.isActive = false) :
    inst.status = first.status := by
  induction fares with
  | start => rfl
  | went _ _ ih => exact ih
  | answered _ _ _ ih => exact ih
  | last _ _ ih => exact ih
  | touched _ data ih =>
      unfold withData
      split <;> exact ih
  | closed _ active _ _ _ _ _ ih =>
      rw [isActive, ih] at active
      rw [isActive, active] at ended
      contradiction

theorem isActive_eq_false (fares : Fares judged first inst) (ended : first.isActive = false) :
    inst.isActive = false := by
  rw [isActive, fares.status_of_ended ended]
  exact ended

end Fares

end Instance

namespace Orchestrator

/-- Nothing has been opened, and every instance has fared as it can. -/
structure Fares (judged : List String) (before after : Orchestrator) : Prop where
  goes : ∀ id inst, before.instance? id = some inst →
    ∃ later, after.instance? id = some later ∧ inst.Fares judged later
  opens : ∀ id, before.instance? id = none → after.instance? id = none
  registry : after.registry = before.registry

variable {judged : List String} {before between after : Orchestrator}

theorem Fares.of_instances (instances : after.instances = before.instances)
    (registry : after.registry = before.registry) : Fares judged before after := by
  have same : ∀ id, after.instance? id = before.instance? id := by
    intro id
    rw [instance?, instances]
    rfl
  exact ⟨fun id inst found => ⟨inst, (same id).trans found, .start⟩,
    fun id missing => (same id).trans missing, registry⟩

theorem Fares.refl (orchestrator : Orchestrator) : Fares judged orchestrator orchestrator :=
  .of_instances rfl rfl

theorem Fares.trans (first : Fares judged before between) (second : Fares judged between after) :
    Fares judged before after where
  goes := by
    intro id inst found
    obtain ⟨later, hlater, fares⟩ := first.goes id inst found
    obtain ⟨last, hlast, further⟩ := second.goes id later hlater
    exact ⟨last, hlast, fares.trans further⟩
  opens := fun id missing => second.opens id (first.opens id missing)
  registry := second.registry.trans first.registry

theorem Fares.idle (fares : Fares judged before after) {id : String}
    (ended : ∀ inst, before.instance? id = some inst → inst.isActive = false) {inst : Instance}
    (found : after.instance? id = some inst) : inst.isActive = false := by
  cases hbefore : before.instance? id with
  | none =>
      rw [fares.opens id hbefore] at found
      contradiction
  | some earlier =>
      obtain ⟨later, hlater, fares⟩ := fares.goes id earlier hbefore
      cases hlater.symm.trans found
      exact fares.isActive_eq_false (ended earlier hbefore)

theorem fares_put {inst later : Instance} (found : before.instance? inst.id = some inst)
    (fares : inst.Fares judged later) : Fares judged before (before.put later) where
  goes := by
    intro id other hother
    rw [instance?_put]
    by_cases h : id = later.id
    · have hid : id = inst.id := h.trans fares.id_eq
      subst hid
      cases found.symm.trans hother
      exact ⟨later, by rw [if_pos h, found]; rfl, fares⟩
    · exact ⟨other, by rw [if_neg h]; exact hother, .start⟩
  opens := by
    intro id missing
    rw [instance?_put, missing]
    exact ite_self _
  registry := rfl

theorem fares_finalize (numbered : before.Numbered) {id : String} {status : Status}
    {terminalStep error : Option String} (isTerminal : status ≠ .running)
    (reason : status = .cancelled ∨ id ∈ judged)
    (finalized : before.finalize? id status terminalStep error = some after) :
    Fares judged before after := by
  obtain ⟨inst, isActive, rfl⟩ := finalize?_eq_some_iff.mp finalized
  obtain ⟨found, active⟩ := (active?_eq_some_iff numbered).mp isActive
  have hid := id_of_instance? found
  subst hid
  have closed := Instance.Fares.start.closed active isTerminal reason before.now terminalStep error
  exact (fares_put found closed).trans (.of_instances rfl rfl)

theorem fares_getD (numbered : before.Numbered) {id : String} {status : Status}
    {terminalStep error : Option String} (isTerminal : status ≠ .running)
    (reason : status = .cancelled ∨ id ∈ judged) :
    Fares judged before ((before.finalize? id status terminalStep error).getD before) := by
  cases finalized : before.finalize? id status terminalStep error with
  | none => exact .refl before
  | some after => exact fares_finalize numbered isTerminal reason finalized

theorem fares_cancel (numbered : before.Numbered) (id : String) :
    Fares judged before (before.cancel id).1 := by
  rw [cancel_fst]
  exact fares_getD numbered (by simp) (.inl rfl)

theorem fares_cancelAll (ids : List String) {before : Orchestrator} (numbered : before.Numbered) :
    Fares judged before
      (ids.foldl (fun orchestrator id => (orchestrator.cancel id).1) before) := by
  induction ids generalizing before with
  | nil => exact .refl before
  | cons id rest ih =>
      exact (fares_cancel numbered id).trans (ih ((changes_cancel before id).numbered numbered))

theorem fares_perform (numbered : before.Numbered) (deed : Deed) :
    Fares judged before (before.perform deed).1 := by
  cases deed with
  | cancel id => exact fares_cancel numbered id
  | _ => exact .of_instances rfl rfl

namespace Replies

variable {stopped : Bool} {effect : Effect} {reply : effect.Reply}

theorem fares (numbered : before.Numbered) (replies : before.Replies stopped effect after reply) :
    Orchestrator.Fares judged before after := by
  cases replies with
  | act deed => exact fares_perform numbered deed
  | _ => exact .of_instances rfl rfl

theorem asks (numbered : before.Numbered) (replies : before.Replies stopped effect after reply)
    {inst : Instance} (found : before.instance? inst.id = some inst)
    {onward : effect.Reply → Phase} (asks : inst.run.Asks effect onward) :
    ∃ later, after.instance? inst.id = some later ∧ later.run.Asks effect onward := by
  obtain ⟨later, hlater, phase⟩ : ∃ later, after.instance? inst.id = some later ∧
      later.run.phase = inst.run.phase := by
    cases replies with
    | act deed =>
        have fares : Orchestrator.Fares [] before _ := fares_perform numbered deed
        obtain ⟨later, hlater, _⟩ := fares.goes _ _ found
        exact ⟨later, hlater, Workplace.phase_perform numbered found deed hlater⟩
    | _ => exact ⟨inst, found, rfl⟩
  refine ⟨later, hlater, ?_⟩
  cases asks with
  | step stands => exact .step (phase.trans stands)
  | router stands => exact .router (phase.trans stands)

end Replies

theorem fares_answer {inst : Instance} (found : before.instance? inst.id = some inst)
    {effect : Effect} {onward : effect.Reply → Phase} (asks : inst.run.Asks effect onward)
    (reply : effect.Reply) :
    Fares judged before
      (before.changeRun inst.id fun run => { run with phase := onward reply }) := by
  rw [changeRun_of_some found]
  exact fares_put found (.answered .start asks reply)

/-- The result of another instance is taken, or nobody waits for one. -/
theorem receive_eq (run : Run) (result : Fallible Result) :
    run.receive result = run ∨
      ∃ (graph : String) (initial : Initial) (onward : Fallible Result → Phase),
        run.Asks (.start graph initial) onward ∧
          run.receive result = { run with phase := onward result } := by
  unfold Run.receive
  split
  · next phase => exact .inr ⟨_, _, _, .step phase, rfl⟩
  · exact .inl rfl

theorem fares_receive (id : String) (result : Fallible Result) :
    Fares judged before (before.changeRun id (·.receive result)) := by
  cases found : before.instance? id with
  | none =>
      rw [changeRun, found]
      exact .refl before
  | some inst =>
      have hid := id_of_instance? found
      subst hid
      rw [changeRun_of_some found]
      rcases receive_eq inst.run result with same | ⟨graph, initial, onward, asks, same⟩
      · rw [same]
        exact fares_put found .start
      · rw [same]
        exact fares_put found (.answered .start asks result)

theorem fares_conclude (numbered : before.Numbered) (id : String) (ending : Ending) :
    Fares [id] before (before.conclude id ending).1 := by
  have reason : ∀ {status : Status}, status = .cancelled ∨ id ∈ [id] :=
    .inr (List.mem_singleton_self id)
  unfold conclude
  split
  · exact fares_getD numbered (by simp) reason
  · exact fares_getD numbered (by simp) reason
  · exact fares_getD numbered (by simp) reason
  · split
    · next finalized => exact fares_finalize numbered (by simp) reason finalized
    · split <;> exact .refl before

theorem fares_concluded (numbered : before.Numbered) {inst : Instance}
    (found : before.instance? inst.id = some inst) {circumstances : Circumstances} {last : Run}
    {ending : Ending} (isOver : inst.run.move circumstances = .over last ending) :
    Fares [inst.id] before (before.concluded inst last ending).1 :=
  (fares_put found (Instance.Fares.start.last isOver)).trans
    (fares_conclude (numbered.put _) inst.id ending)

private theorem idle_getD (numbered : before.Numbered) {id : String} {status : Status}
    {terminalStep error : Option String} (isTerminal : status ≠ .running) {inst : Instance}
    (found : ((before.finalize? id status terminalStep error).getD before).instance? id =
      some inst) : inst.isActive = false := by
  cases finalized : before.finalize? id status terminalStep error with
  | none =>
      rw [finalized] at found
      exact isActive_of_finalize?_eq_none numbered found finalized
  | some after =>
      rw [finalized] at found
      obtain ⟨_, _, _, closed⟩ := instance?_of_finalize? numbered finalized
      cases closed.symm.trans found
      simpa [Instance.isActive, Instance.close] using isTerminal

/-- Whatever ended the run, its instance is not active any more. -/
theorem idle_conclude (numbered : before.Numbered) {id : String} {ending : Ending}
    {inst : Instance} (found : (before.conclude id ending).1.instance? id = some inst) :
    inst.isActive = false := by
  unfold conclude at found
  split at found
  · exact idle_getD numbered (by simp) found
  · exact idle_getD numbered (by simp) found
  · exact idle_getD numbered (by simp) found
  · split at found
    · next finalized =>
        obtain ⟨_, _, _, closed⟩ := instance?_of_finalize? numbered finalized
        cases closed.symm.trans found
        rfl
    · next finalized =>
        split at found <;> exact isActive_of_finalize?_eq_none numbered found finalized

/-! ### New instances -/

def opening (orchestrator : Orchestrator) (definition : Definition) (initial : Initial) :
    Instance where
  id := orchestrator.nextId
  graph := definition.name
  startedAt := orchestrator.now
  run :=
    let given := orchestrator.initialState initial
    let metadata :=
      { given.metadata with
        instanceId := orchestrator.nextId
        startTime := some (.ofInstant orchestrator.now) }
    Run.create definition orchestrator.ceiling { given with metadata }

theorem instance?_openInstance (numbered : before.Numbered) (definition : Definition)
    (initial : Initial) (id : String) :
    (before.openInstance definition initial).1.instance? id =
      if id = before.nextId then some (before.opening definition initial)
      else before.instance? id := by
  split
  · next h =>
      subst h
      apply (instance?_eq_some_iff (numbered.openInstance definition initial)).mpr
      exact ⟨List.mem_append_right _ (List.mem_singleton_self _), rfl⟩
  · next h =>
      have other : ((before.opening definition initial).id == id) = false :=
        beq_false_of_ne (Ne.symm h)
      change (before.instances ++ [before.opening definition initial]).find? _ = _
      rw [List.find?_append, List.find?_singleton, other]
      exact Option.or_none

end Orchestrator

end StepGraph
