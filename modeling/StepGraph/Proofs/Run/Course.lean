import StepGraph.Proofs.Run.Move
import StepGraph.Proofs.Run.Restraint
import StepGraph.Run.Solo

namespace StepGraph

namespace Program

variable {E : Type} {Reply : E → Type} {α : Type}

/-- What a program can come to, whatever state it reads and whatever it is answered. -/
inductive ComesTo (first : Program E Reply α) : Program E Reply α → Prop
  | start : ComesTo first first
  | read {next : State → Program E Reply α} (before : ComesTo first (.read next)) (state : State) :
      ComesTo first (next state)
  | write {state : State} {next : Program E Reply α} (before : ComesTo first (.write state next)) :
      ComesTo first next
  | ask {question : E} {next : Reply question → Program E Reply α}
      (before : ComesTo first (.ask question next)) (reply : Reply question) :
      ComesTo first (next reply)

end Program

namespace Run

/-- What a run can come to, with all that can be seen of it on the way. -/
inductive Course (first : Run) : List Event → Run → Prop
  | start : Course first [] first
  | go {trace events : List Event} {run next : Run} (before : Course first trace run)
      (circumstances : Circumstances) (moved : run.move circumstances = .go next events) :
      Course first (trace ++ events) next
  | ask {trace : List Event} {run : Run} {effect : Effect} {next : effect.Reply → Phase}
      (before : Course first trace run) (circumstances : Circumstances)
      (asked : run.move circumstances = .ask effect next) (reply : effect.Reply) :
      Course first trace { run with phase := next reply }
  | disturbed {trace : List Event} {run : Run} (before : Course first trace run) (state : State)
      (origin : Option State) : Course first trace { run with state, origin }

theorem Goes.definition_eq {run next : Run} {circumstances : Circumstances} {events : List Event}
    (goes : run.Goes circumstances next events) : next.definition = run.definition := by
  cases goes with
  | onward _ settles _ => exact settles.definition_eq
  | route _ settles _ _ _ => exact settles.definition_eq
  | _ => rfl

theorem Course.definition_eq {first run : Run} {trace : List Event}
    (course : Course first trace run) : run.definition = first.definition := by
  induction course with
  | start => rfl
  | go _ _ moved ih => exact (goes_of_move moved).definition_eq.trans ih
  | ask _ _ _ _ ih => exact ih
  | disturbed _ _ _ ih => exact ih

/-- A move of a run that is not its last, together with the reply where the move is a question.
While it waits for a reply others may change its state, other than the counters. -/
inductive Advances (run : Run) : List Event → Run → Prop
  | go {events : List Event} {next : Run} (circumstances : Circumstances)
      (moved : run.move circumstances = .go next events) : Advances run events next
  | ask {effect : Effect} {next : effect.Reply → Phase} (circumstances : Circumstances)
      (asked : run.move circumstances = .ask effect next) (reply : effect.Reply) (state : State)
      (origin : Option State) (same : state.counters = run.state.counters) :
      Advances run [] { run with state, origin, phase := next reply }

/-- A course of a run whose surroundings leave the counters alone. -/
inductive Passage (first : Run) : List Event → Run → Prop
  | start : Passage first [] first
  | advance {trace events : List Event} {run next : Run} (before : Passage first trace run)
      (advances : run.Advances events next) : Passage first (trace ++ events) next

theorem Passage.course {first run : Run} {trace : List Event} (passage : Passage first trace run) :
    Course first trace run := by
  induction passage with
  | start => exact .start
  | advance _ advances ih =>
      cases advances with
      | go circumstances moved => exact ih.go circumstances moved
      | ask circumstances asked reply state origin =>
          rw [List.append_nil]
          exact (ih.ask circumstances asked reply).disturbed state origin

theorem Passage.prepend {first second run : Run} {events trace : List Event}
    (advances : first.Advances events second) (passage : Passage second trace run) :
    Passage first (events ++ trace) run := by
  induction passage with
  | start => simpa using Passage.start.advance advances
  | advance _ later ih =>
      rw [← List.append_assoc]
      exact ih.advance later

end Run

namespace Solo

@[simp] theorem run_answer (solo : Solo) (effect : Effect) :
    (solo.answer effect).1.run = solo.run := by
  cases effect with
  | act deed => cases deed <;> rfl
  | _ => rfl

@[simp] theorem admitted_answer (solo : Solo) (effect : Effect) :
    (solo.answer effect).1.admitted = solo.admitted := by
  cases effect with
  | act deed => cases deed <;> rfl
  | _ => rfl

@[simp] theorem events_answer (solo : Solo) (effect : Effect) :
    (solo.answer effect).1.events = solo.events := by
  cases effect with
  | act deed => cases deed <;> rfl
  | _ => rfl

theorem advances_advance {solo after : Solo} (h : solo.advance = (after, none)) :
    after.admitted = solo.admitted ∧
      ∃ events, solo.run.Advances events after.run ∧
        after.events = events.reverse ++ solo.events := by
  unfold advance at h
  cases moved : solo.run.move ⟨solo.now, solo.admitted, solo.cancelled⟩ with
  | go run events =>
      rw [moved] at h
      cases h
      exact ⟨rfl, events, .go _ moved, rfl⟩
  | ask effect next =>
      rw [moved] at h
      have hrun := run_answer solo effect
      have hadmitted := admitted_answer solo effect
      have hevents := events_answer solo effect
      dsimp only at h
      generalize solo.answer effect = answered at h hrun hadmitted hevents
      obtain ⟨answered, reply⟩ := answered
      cases h
      refine ⟨hadmitted, [], ?_, hevents⟩
      rw [hrun]
      exact .ask _ moved reply solo.run.state solo.run.origin rfl
  | _ =>
      rw [moved] at h
      cases h

theorem over_of_advance {solo after : Solo} {ending : Ending}
    (h : solo.advance = (after, some ending)) :
    solo.run.move ⟨solo.now, solo.admitted, solo.cancelled⟩ = .over after.run ending ∧
      after.events = solo.events := by
  unfold advance at h
  split at h
  · cases h
  · cases h
  · next run _ isOver =>
      cases h
      exact ⟨isOver, rfl⟩

/-- A run that an executor takes to its end has made some passage up to its last move. -/
theorem passage_finish {moves : Nat} {solo after : Solo} {ending : Ending}
    (h : solo.finish moves = (after, some ending)) :
    ∃ trace run circumstances, Run.Passage solo.run trace run ∧
      after.events = trace.reverse ++ solo.events ∧ circumstances.admitted = solo.admitted ∧
      run.move circumstances = .over after.run ending := by
  induction moves generalizing solo with
  | zero => cases h
  | succ moves ih =>
      unfold finish at h
      cases advanced : solo.advance with
      | mk next last =>
          rw [advanced] at h
          cases last with
          | none =>
              obtain ⟨hadmitted, events, advances, hevents⟩ := advances_advance advanced
              obtain ⟨trace, run, circumstances, passage, hlater, hcircumstances, isOver⟩ := ih h
              refine ⟨events ++ trace, run, circumstances, passage.prepend advances, ?_,
                hcircumstances.trans hadmitted, isOver⟩
              rw [hlater, hevents, List.reverse_append, List.append_assoc]
          | some last =>
              cases h
              obtain ⟨isOver, hevents⟩ := over_of_advance advanced
              exact ⟨[], solo.run, _, .start, hevents, rfl, isOver⟩

end Solo

end StepGraph
