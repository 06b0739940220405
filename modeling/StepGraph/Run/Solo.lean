import StepGraph.Run
import StepGraph.Service.Basic

namespace StepGraph

/-- Runs graphs of a registry, under a ceiling for those that set none. -/
structure Executor where
  registry : Registry
  ceiling : Int

def checkCeiling (ceiling : Int) : Fallible Int :=
  if ceiling < 1 then .error (.fault .value "max_iterations must be at least 1") else .ok ceiling

def Executor.create (registry : Registry) (ceiling : Int) : Fallible Executor := do
  return ⟨registry, ← checkCeiling ceiling⟩

/-- A run under way. Without a token nothing can cancel it. -/
structure Solo where
  run : Run
  admitted : Bool
  now : Instant := 0
  token : Option Bool := none
  services : Services := {}
  /-- What has happened, latest first. -/
  events : List Event := []

namespace Solo

def cancelled (solo : Solo) : Bool :=
  solo.token.getD false

def perform (solo : Solo) : (deed : Deed) → Solo × deed.Reply
  | .now => (solo, solo.now)
  | .moveClock micros => ({ solo with now := solo.now + micros }, ())
  | .setToken => ({ solo with token := solo.token.map fun _ => true }, ())
  | .cancel _ => (solo, false)
  | .statistics => (solo, {}, 0)

def answer (solo : Solo) : (effect : Effect) → Solo × effect.Reply
  | .act deed => solo.perform deed
  | .pause => (solo, false)
  | .gate _ => (solo, false)
  | .start graph _ => (solo, .error (.unknownGraph graph))
  | .consult inquiry =>
      let (reply, services) := solo.services.answer inquiry
      ({ solo with services }, reply)

def advance (solo : Solo) : Solo × Option Ending :=
  match solo.run.move ⟨solo.now, solo.admitted, solo.cancelled⟩ with
  | .go run events => ({ solo with run, events := events.reverse ++ solo.events }, none)
  | .ask effect next =>
      let (solo, reply) := solo.answer effect
      ({ solo with run := { solo.run with phase := next reply } }, none)
  | .over run ending => ({ solo with run }, some ending)

def finish : Nat → Solo → Solo × Option Ending
  | 0, solo => (solo, none)
  | moves + 1, solo =>
      match solo.advance with
      | (solo, some ending) => (solo, some ending)
      | (solo, none) => finish moves solo

end Solo

def Executor.begin (executor : Executor) (definition : Definition) (state : State)
    (token : Option Bool) : Solo where
  run := Run.create definition executor.ceiling state
  admitted := executor.registry.isRegistered definition
  token := token

end StepGraph
