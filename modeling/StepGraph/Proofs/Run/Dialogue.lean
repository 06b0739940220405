import StepGraph.Proofs.Run.Likeness

namespace StepGraph

abbrev Exchange {E : Type} (Reply : E → Type) :=
  (question : E) × Reply question

abbrev Talk := List (Exchange Effect.Reply)

namespace Program

variable {E : Type} {Reply : E → Type} {α β : Type}

def Gives : Program E Reply α → State → List (Exchange Reply) → Fallible α → State → Prop
  | .done value, state, talk, result, after => talk = [] ∧ result = .ok value ∧ after = state
  | .fail failure, state, talk, result, after => talk = [] ∧ result = .error failure ∧ after = state
  | .read next, state, talk, result, after => (next state).Gives state talk result after
  | .write state next, _, talk, result, after => next.Gives state talk result after
  | .ask question next, state, talk, result, after =>
      ∃ reply rest, talk = ⟨question, reply⟩ :: rest ∧ (next reply).Gives state rest result after

theorem gives_lift (result : Fallible α) (state : State) :
    (lift result : Program E Reply α).Gives state [] result state := by
  cases result <;> exact ⟨rfl, rfl, rfl⟩

theorem gives_lift_iff {first result : Fallible α} {state after : State}
    {talk : List (Exchange Reply)} :
    (lift first : Program E Reply α).Gives state talk result after ↔
      talk = [] ∧ result = first ∧ after = state := by
  cases first <;> rfl

/-- A program that goes on with the value of another has come to that value before, or it has failed
with the other. -/
theorem gives_bind {program : Program E Reply α} {next : α → Program E Reply β}
    {state after : State} {talk : List (Exchange Reply)} {result : Fallible β}
    (gives : (program.bind next).Gives state talk result after) :
    (∃ failure, program.Gives state talk (.error failure) after ∧ result = .error failure) ∨
      ∃ value said rest between, program.Gives state said (.ok value) between ∧
        (next value).Gives between rest result after ∧ talk = said ++ rest := by
  induction program generalizing state talk with
  | done value => exact .inr ⟨value, [], talk, state, ⟨rfl, rfl, rfl⟩, gives, rfl⟩
  | fail failure =>
      obtain ⟨rfl, rfl, rfl⟩ := gives
      exact .inl ⟨failure, ⟨rfl, rfl, rfl⟩, rfl⟩
  | read onward ih => exact ih state gives
  | write written onward ih => exact ih gives
  | ask question onward ih =>
      obtain ⟨reply, rest, rfl, gives⟩ := gives
      rcases ih reply gives with
        ⟨failure, fails, rfl⟩ | ⟨value, said, later, between, first, second, rfl⟩
      · exact .inl ⟨failure, ⟨reply, rest, rfl, fails⟩, rfl⟩
      · exact .inr ⟨value, ⟨question, reply⟩ :: said, later, between,
          ⟨reply, said, rfl, first⟩, second, rfl⟩

def Left (first : Program E Reply α) (before : State) (said : List (Exchange Reply))
    (program : Program E Reply α) (state : State) : Prop :=
  ∀ talk result after, program.Gives state talk result after →
    first.Gives before (said ++ talk) result after

namespace Left

variable {first : Program E Reply α} {before state : State} {said : List (Exchange Reply)}

theorem start (first : Program E Reply α) (before : State) : first.Left before [] first before :=
  fun _ _ _ gives => gives

theorem read {next : State → Program E Reply α} (left : first.Left before said (.read next) state) :
    first.Left before said (next state) state :=
  left

theorem write {written : State} {next : Program E Reply α}
    (left : first.Left before said (.write written next) state) :
    first.Left before said next written :=
  left

theorem ask {question : E} {next : Reply question → Program E Reply α}
    (left : first.Left before said (.ask question next) state) (reply : Reply question) :
    first.Left before (said ++ [⟨question, reply⟩]) (next reply) state := by
  intro talk result after gives
  rw [List.append_assoc]
  exact left _ result after ⟨reply, talk, rfl, gives⟩

theorem gives {result : Fallible α} (left : first.Left before said (lift result) state) :
    first.Gives before said result state := by
  simpa using left [] result state (gives_lift result state)

theorem done {value : α} (left : first.Left before said (.done value) state) :
    first.Gives before said (.ok value) state := by
  simpa using left [] (.ok value) state ⟨rfl, rfl, rfl⟩

end Left

end Program

namespace Run

/-- What a run can come to by itself, with all that is asked and answered and all that can be seen
of it on the way. -/
inductive Dialogue (first : Run) : Talk → List Event → Run → Prop
  | start : Dialogue first [] [] first
  | go {talk : Talk} {trace events : List Event} {run next : Run}
      (before : Dialogue first talk trace run) (circumstances : Circumstances)
      (moved : run.move circumstances = .go next events) :
      Dialogue first talk (trace ++ events) next
  | ask {talk : Talk} {trace : List Event} {run : Run} {effect : Effect}
      {next : effect.Reply → Phase} (before : Dialogue first talk trace run)
      (circumstances : Circumstances) (asked : run.move circumstances = .ask effect next)
      (reply : effect.Reply) :
      Dialogue first (talk ++ [⟨effect, reply⟩]) trace { run with phase := next reply }

theorem Dialogue.passage {first run : Run} {talk : Talk} {trace : List Event}
    (dialogue : Dialogue first talk trace run) : Passage first trace run := by
  induction dialogue with
  | start => exact .start
  | go _ circumstances moved ih => exact ih.advance (.go circumstances moved)
  | @ask _ trace run _ _ _ circumstances asked reply ih =>
      rw [← List.append_nil trace]
      exact ih.advance (.ask circumstances asked reply run.state run.origin rfl)

end Run

def Services.Steady (services : Services) : Prop :=
  ∀ inquiry, (services.answer inquiry).2 = services

def Services.Answer (services : Services) (talk : Talk) : Prop :=
  ∀ inquiry reply, ⟨.consult inquiry, reply⟩ ∈ talk → reply = (services.answer inquiry).1

namespace Solo

variable {first solo last : Solo}

theorem answer_consult (solo : Solo) (inquiry : Inquiry) :
    solo.answer (.consult inquiry) =
      ({ solo with services := (solo.services.answer inquiry).2 },
        (solo.services.answer inquiry).1) :=
  rfl

theorem services_answer (steady : solo.services.Steady) (effect : Effect) :
    (solo.answer effect).1.services = solo.services := by
  cases effect with
  | act deed => cases deed <;> rfl
  | consult inquiry => exact steady inquiry
  | _ => rfl

theorem advance_of_moved {next : Run} {events : List Event}
    (moved : solo.run.move ⟨solo.now, solo.admitted, solo.cancelled⟩ = .go next events) :
    solo.advance =
      ({ solo with run := next, events := events.reverse ++ solo.events }, none) := by
  unfold advance
  rw [moved]

theorem advance_of_asked {next : Solo} {effect : Effect} {onward : effect.Reply → Phase}
    (asked : solo.run.move ⟨solo.now, solo.admitted, solo.cancelled⟩ = .ask effect onward)
    (advanced : solo.advance = (next, none)) :
    next.run = { solo.run with phase := onward (solo.answer effect).2 } ∧
      next.services = (solo.answer effect).1.services ∧ next.events = solo.events ∧
      next.admitted = solo.admitted := by
  have stays := run_answer solo effect
  have hevents := events_answer solo effect
  have hadmitted := admitted_answer solo effect
  unfold advance at advanced
  rw [asked] at advanced
  dsimp only at advanced
  generalize solo.answer effect = answered at advanced stays hevents hadmitted ⊢
  obtain ⟨answered, reply⟩ := answered
  cases advanced
  exact ⟨stays ▸ rfl, rfl, hevents, hadmitted⟩

theorem Comes.dialogue {moves : Nat} (comes : first.Comes moves solo) :
    ∃ talk trace, Run.Dialogue first.run talk trace solo.run ∧
      solo.events = trace.reverse ++ first.events ∧ solo.admitted = first.admitted ∧
      (first.services.Steady → solo.services = first.services ∧ first.services.Answer talk) := by
  induction comes with
  | start =>
      exact ⟨[], [], .start, rfl, rfl, fun _ =>
        ⟨rfl, fun _ _ member => absurd member List.not_mem_nil⟩⟩
  | @advance _ solo next _ advanced ih =>
      obtain ⟨talk, trace, dialogue, hevents, hadmitted, answers⟩ := ih
      cases moved : solo.run.move ⟨solo.now, solo.admitted, solo.cancelled⟩ with
      | go run events =>
          cases (advance_of_moved moved).symm.trans advanced
          refine ⟨talk, trace ++ events, dialogue.go _ moved, ?_, hadmitted, answers⟩
          simp only [hevents, List.reverse_append, List.append_assoc]
      | ask effect onward =>
          obtain ⟨hrun, hservices, sameEvents, sameAdmitted⟩ := advance_of_asked moved advanced
          refine ⟨talk ++ [⟨effect, (solo.answer effect).2⟩], trace, ?_,
            sameEvents.trans hevents, sameAdmitted.trans hadmitted, ?_⟩
          · rw [hrun]
            exact dialogue.ask _ moved (solo.answer effect).2
          · intro steady
            obtain ⟨same, answered⟩ := answers steady
            refine ⟨hservices.trans ((services_answer (same ▸ steady) effect).trans same), ?_⟩
            intro inquiry reply member
            rcases List.mem_append.mp member with earlier | latest
            · exact answered inquiry reply earlier
            · cases List.mem_singleton.mp latest
              rw [answer_consult, same]
      | _ =>
          unfold Solo.advance at advanced
          rw [moved] at advanced
          cases advanced

theorem Comes.finish {moves : Nat} {ending : Ending} (comes : first.Comes moves solo)
    (isOver : solo.advance = (last, some ending)) :
    first.finish (moves + 1) = (last, some ending) := by
  have onward : ∀ more, first.finish (moves + more) = solo.finish more := by
    clear isOver
    induction comes with
    | start => exact fun more => by rw [Nat.zero_add]
    | @advance _ before _ _ advanced ih =>
        intro more
        rw [Nat.add_assoc, Nat.add_comm 1, ih, Solo.finish, advanced]
  rw [onward, Solo.finish, isOver]

/-- A run that is taken to its end has come to its last move before. -/
theorem comes_of_finish {moves : Nat} {ending : Ending}
    (h : first.finish moves = (last, some ending)) :
    ∃ before solo, first.Comes before solo ∧ solo.advance = (last, some ending) := by
  have general : ∀ {moves made : Nat} {solo : Solo}, first.Comes made solo →
      solo.finish moves = (last, some ending) →
      ∃ before solo, first.Comes before solo ∧ solo.advance = (last, some ending) := by
    intro moves
    induction moves with
    | zero => intro made solo _ h; cases h
    | succ moves ih =>
        intro made solo comes h
        unfold finish at h
        cases advanced : solo.advance with
        | mk next ended =>
            rw [advanced] at h
            cases ended with
            | none => exact ih (comes.advance advanced) h
            | some =>
                cases h
                exact ⟨made, solo, comes, advanced⟩
  exact general .start h

end Solo

end StepGraph
