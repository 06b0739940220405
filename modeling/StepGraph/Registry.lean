import StepGraph.Graph.Builder

namespace StepGraph

structure Registry where
  definitions : List Definition := []

namespace Registry

def find? (registry : Registry) (name : String) : Option Definition :=
  registry.definitions.find? (·.name == name)

def get (registry : Registry) (name : String) : Fallible Definition :=
  match registry.find? name with
  | some definition => .ok definition
  | none => .error (.unknownGraph name)

def contains (registry : Registry) (name : String) : Bool :=
  (registry.find? name).isSome

def isRegistered (registry : Registry) (definition : Definition) : Bool :=
  ((registry.find? definition.name).map (·.tag)) == some definition.tag

def register (registry : Registry) (definition : Definition) : Fallible Registry :=
  if registry.contains definition.name then
    let name := definition.name
    .error (.invalidGraph name [s!"graph '{name}' is already registered"] [])
  else do
    definition.validate
    return { definitions := registry.definitions ++ [definition] }

def names (registry : Registry) : List String :=
  registry.definitions.map (·.name)

def size (registry : Registry) : Nat :=
  registry.definitions.length

theorem register_eq_ok_iff {registry after : Registry} {definition : Definition} :
    registry.register definition = .ok after ↔
      registry.contains definition.name = false ∧ definition.validate = .ok () ∧
        after = ⟨registry.definitions ++ [definition]⟩ := by
  unfold register
  cases registry.contains definition.name with
  | true => simp
  | false =>
      cases h : definition.validate with
      | error failure => simp [bind, Except.bind]
      | ok done => simp [bind, Except.bind, pure, Except.pure, eq_comm]

theorem find?_register {registry after : Registry} {definition : Definition}
    (h : registry.register definition = .ok after) (name : String) :
    after.find? name = if name = definition.name then some definition else registry.find? name := by
  obtain ⟨hfree, _, rfl⟩ := register_eq_ok_iff.mp h
  by_cases hname : name = definition.name
  · subst hname
    have : registry.find? definition.name = none := by simpa [contains] using hfree
    unfold find? at this ⊢
    simp [List.find?_append, this]
  · have hne : (definition.name == name) = false := beq_false_of_ne (Ne.symm hname)
    unfold find?
    simp [List.find?_append, hname, hne]

theorem name_of_find? {registry : Registry} {name : String} {definition : Definition}
    (h : registry.find? name = some definition) : definition.name = name := by
  simpa using List.find?_some h

end Registry

end StepGraph
