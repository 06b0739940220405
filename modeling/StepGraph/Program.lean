import StepGraph.Record

/-! Steps and routers as programs. A program reads and writes the state it was handed and asks its
surroundings for everything else, so that whoever runs it decides when it goes on and what it is
told. -/

namespace StepGraph

abbrev Facts := List (String × List String)

/-- A question to one of the services that the built-in workflows rely on. -/
inductive Inquiry where
  | facts (domain : String) (params : Entries)
  | draft (state : State)
  | review (content : String) (requirements : Entries)

@[reducible] def Inquiry.Answer : Inquiry → Type
  | .facts .. => Facts
  | .draft _ => String
  | .review .. => Review

/-- What can be had at once. -/
inductive Deed where
  | now
  | moveClock (micros : Int)
  /-- Sets the flag that ends the own run before its next step. -/
  | setToken
  | cancel (instanceId : String)
  | statistics

@[reducible] def Deed.Reply : Deed → Type
  | .now => Instant
  | .moveClock _ => Unit
  | .setToken => Unit
  | .cancel _ => Bool
  | .statistics => Statistics × Nat

/-- What a new instance starts from: some data, a state, or the very state that another instance was
handed, as it stands by then. -/
inductive Initial where
  | data (carried : Data)
  | state (given : State)
  | shared (instanceId : String)

/-- What a step may ask for. Pausing and waiting at a gate give up the turn; they are answered by
whether the task was told to stop meanwhile. -/
inductive Effect where
  | act (deed : Deed)
  | pause
  | gate (name : String)
  /-- Runs another instance to its end. -/
  | start (graph : String) (initial : Initial)
  | consult (inquiry : Inquiry)

@[reducible] def Effect.Reply : Effect → Type
  | .act deed => deed.Reply
  | .pause => Bool
  | .gate _ => Bool
  | .start .. => Fallible Result
  | .consult inquiry => Fallible inquiry.Answer

/-- A program over a state that asks questions from `E`. -/
inductive Program (E : Type) (Reply : E → Type) (α : Type) where
  | done (result : α)
  | fail (failure : Failure)
  | read (next : State → Program E Reply α)
  | write (state : State) (next : Program E Reply α)
  | ask (question : E) (next : Reply question → Program E Reply α)

namespace Program

variable {E : Type} {Reply : E → Type}

def bind : Program E Reply α → (α → Program E Reply β) → Program E Reply β
  | .done a, f => f a
  | .fail failure, _ => .fail failure
  | .read next, f => .read fun state => (next state).bind f
  | .write state next, f => .write state (next.bind f)
  | .ask question next, f => .ask question fun reply => (next reply).bind f

instance : Monad (Program E Reply) where
  pure := .done
  bind := bind

def state : Program E Reply State :=
  .read .done

def setState (state : State) : Program E Reply Unit :=
  .write state (.done ())

def modify (change : State → State) : Program E Reply Unit :=
  .read fun state => .write (change state) (.done ())

def lift : Fallible α → Program E Reply α
  | .ok a => .done a
  | .error failure => .fail failure

@[simp] theorem bind_done (program : Program E Reply α) : program.bind .done = program := by
  induction program with
  | done => rfl
  | fail => rfl
  | read next ih => simp [bind, ih]
  | write state next ih => simp [bind, ih]
  | ask question next ih => simp [bind, ih]

theorem bind_assoc (program : Program E Reply α) (f : α → Program E Reply β)
    (g : β → Program E Reply γ) :
    (program.bind f).bind g = program.bind fun a => (f a).bind g := by
  induction program with
  | done => rfl
  | fail => rfl
  | read next ih => simp [bind, ih]
  | write state next ih => simp [bind, ih]
  | ask question next ih => simp [bind, ih]

instance : LawfulMonad (Program E Reply) :=
  LawfulMonad.mk' _ (fun program => bind_done program) (fun _ _ => rfl) bind_assoc

end Program

/-- What a step hands back: nothing, the state it was given, a state to replace it, or something
that is no state, of which only the name of its kind matters. -/
inductive StepReturn where
  | nothing
  | same
  | replacement (state : State)
  | other (kindName : String)

abbrev StepProgram := Program Effect Effect.Reply

abbrev Step := StepProgram StepReturn

namespace StepProgram

def act (deed : Deed) : StepProgram deed.Reply :=
  .ask (.act deed) .done

/-- Gives up the turn; a task that is told to stop meanwhile stops here. -/
def pause : StepProgram Unit :=
  .ask .pause fun interrupted => if interrupted then .fail .interrupted else .done ()

/-- Waits until a gate is open; a task that is told to stop meanwhile stops here. -/
def gate (name : String) : StepProgram Unit :=
  .ask (.gate name) fun interrupted => if interrupted then .fail .interrupted else .done ()

def start (graph : String) (initial : Initial) : StepProgram Result :=
  .ask (.start graph initial) Program.lift

def consult (inquiry : Inquiry) : StepProgram inquiry.Answer :=
  .ask (.consult inquiry) Program.lift

end StepProgram

end StepGraph
