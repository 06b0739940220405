import StepGraph.Proofs.Graph.WellFormed
import StepGraph.Registry

namespace StepGraph

namespace Registry

def attempt (registry : Registry) (definition : Definition) : Registry :=
  match registry.register definition with
  | .ok after => after
  | .error _ => registry

/-- A registry made by a sequence of calls, any of which may have failed. -/
def Built (registry : Registry) : Prop :=
  ∃ definitions : List Definition, registry = definitions.foldl attempt {}

theorem Built.attempt {registry : Registry} (built : registry.Built) (definition : Definition) :
    (registry.attempt definition).Built := by
  obtain ⟨definitions, rfl⟩ := built
  exact ⟨definitions ++ [definition], by simp⟩

theorem Built.register {registry after : Registry} {definition : Definition}
    (built : registry.Built) (h : registry.register definition = .ok after) : after.Built := by
  have heq : registry.attempt definition = after := by simp [Registry.attempt, h]
  exact heq ▸ built.attempt definition

theorem Built.wellFormed {registry : Registry} (built : registry.Built) :
    ∀ definition ∈ registry.definitions, definition.WellFormed := by
  obtain ⟨definitions, rfl⟩ := built
  induction definitions using List.reverseRecOn with
  | nil => simp
  | append_singleton definitions definition ih =>
      rw [List.foldl_append, List.foldl_cons, List.foldl_nil]
      generalize definitions.foldl Registry.attempt {} = registry at ih ⊢
      unfold Registry.attempt
      cases h : registry.register definition with
      | error failure => exact ih
      | ok after =>
          obtain ⟨_, valid, rfl⟩ := register_eq_ok_iff.mp h
          intro other member
          rcases List.mem_append.mp member with hold | hnew
          · exact ih other hold
          · rw [List.mem_singleton.mp hnew]
            exact Definition.validate_eq_ok_iff.mp valid

theorem Built.singleton {definition : Definition} (wellFormed : definition.WellFormed) :
    Built ⟨[definition]⟩ := by
  have valid := Definition.validate_eq_ok_iff.mpr wellFormed
  exact Built.register ⟨[], rfl⟩ (register_eq_ok_iff.mpr ⟨rfl, valid, rfl⟩)

theorem find?_of_get {registry : Registry} {name : String} {definition : Definition}
    (known : registry.get name = .ok definition) :
    registry.find? definition.name = some definition := by
  unfold get at known
  cases found : registry.find? name with
  | none =>
      rw [found] at known
      contradiction
  | some other =>
      rw [found] at known
      cases known
      rw [name_of_find? found, found]

/-- The tag is the identity of a definition: none of the registry has that of this one by chance. -/
def TellsApart (registry : Registry) (definition : Definition) : Prop :=
  ∀ other ∈ registry.definitions, other.tag = definition.tag → other = definition

theorem tellsApart_singleton (definition : Definition) : TellsApart ⟨[definition]⟩ definition :=
  fun _ member _ => List.mem_singleton.mp member

theorem mem_of_isRegistered {registry : Registry} {definition : Definition}
    (registered : registry.isRegistered definition = true)
    (identity : registry.TellsApart definition) : definition ∈ registry.definitions := by
  unfold isRegistered at registered
  cases found : registry.find? definition.name with
  | none => simp [found] at registered
  | some other =>
      have member := List.mem_of_find?_eq_some found
      have heq : other = definition := identity other member (by simpa [found] using registered)
      exact heq ▸ member

end Registry

theorem edgesOf_concat {mapping : Mapping} {entry : Label × List String} {edges : List Edge}
    (h : edgesOf (mapping ++ [entry]) = .ok edges) :
    ∃ before outcome, edgesOf mapping = .ok before ∧ Outcome.read entry.1.value = .ok outcome ∧
      edges = setEdge outcome (dropEndMarkers entry.2) before := by
  rw [edgesOf, List.foldlM_append] at h
  obtain ⟨before, drawn, h⟩ := Fallible.bind_eq_ok_iff.mp h
  obtain ⟨_, added, h⟩ := Fallible.bind_eq_ok_iff.mp h
  cases h
  obtain ⟨outcome, read, h⟩ := Fallible.bind_eq_ok_iff.mp added
  cases h
  exact ⟨before, outcome, drawn, read, rfl⟩

theorem nodup_edgesOf {mapping : Mapping} {edges : List Edge} (h : edgesOf mapping = .ok edges) :
    (edges.map (·.outcome.key)).Nodup := by
  induction mapping using List.reverseRecOn generalizing edges with
  | nil =>
      cases h
      exact .nil
  | append_singleton mapping entry ih =>
      obtain ⟨before, outcome, drawn, -, rfl⟩ := edgesOf_concat h
      rw [keys_setEdge]
      split
      · exact ih drawn
      · next fresh => exact List.concat_eq_append ▸ (ih drawn).concat fresh

namespace Draft

theorem compile_eq_ok {draft : Draft} {tag : Nat} {definition : Definition}
    (built : draft.build tag = .ok definition) (wellFormed : definition.WellFormed) :
    draft.compile tag = .ok definition := by
  rw [compile, built]
  change (do definition.validate; return definition) = _
  rw [Definition.validate_eq_ok_iff.mpr wellFormed]
  rfl

theorem compile_eq_ok_iff {draft : Draft} {tag : Nat} {definition : Definition} :
    draft.compile tag = .ok definition ↔
      draft.build tag = .ok definition ∧ definition.WellFormed := by
  constructor
  · intro h
    obtain ⟨_, built, h⟩ := Fallible.bind_eq_ok_iff.mp h
    obtain ⟨_, valid, h⟩ := Fallible.bind_eq_ok_iff.mp h
    cases h
    exact ⟨built, Definition.validate_eq_ok_iff.mp valid⟩
  · rintro ⟨built, wellFormed⟩
    exact compile_eq_ok built wellFormed

/-- A draft made by a sequence of calls that succeeded. -/
inductive Drawn : Draft → Prop
  | blank (name : String) (description : Option String) (ceiling : Option Int) :
      Drawn { name, description, ceiling }
  | step {draft after : Draft} {spec : StepSpec} (before : Drawn draft)
      (h : draft.addStep spec = .ok after) : Drawn after
  | edge {draft after : Draft} {source : String} {targets : List String} (before : Drawn draft)
      (h : draft.addEdge source targets = .ok after) : Drawn after
  | conditional {draft after : Draft} {source : String} {router : Router} {mapping : Mapping}
      {closing : Option Closing} (before : Drawn draft)
      (h : draft.addConditional source router mapping closing = .ok after) : Drawn after
  | entry {draft : Draft} (before : Drawn draft) (name : String) : Drawn (draft.setEntry name)
  | terminals {draft : Draft} (before : Drawn draft) (names : List String) :
      Drawn (draft.addTerminals names)

theorem Drawn.unconditional {draft : Draft} (drawn : draft.Drawn) :
    ∀ route ∈ draft.routes, route.router = none →
      ∃ source successors, route = Route.unconditional source successors := by
  induction drawn with
  | blank => simp
  | step _ h ih =>
      obtain ⟨_, _, h⟩ := Fallible.bind_eq_ok_iff.mp h
      cases h
      exact ih
  | edge _ h ih =>
      obtain ⟨_, _, h⟩ := Fallible.bind_eq_ok_iff.mp h
      cases h
      intro route member unrouted
      rcases List.mem_append.mp member with hold | hnew
      · exact ih route hold unrouted
      · exact ⟨_, _, List.mem_singleton.mp hnew⟩
  | conditional _ h ih =>
      obtain ⟨_, _, h⟩ := Fallible.bind_eq_ok_iff.mp h
      obtain ⟨edges, _, h⟩ := Fallible.bind_eq_ok_iff.mp h
      obtain ⟨outcomes, _, h⟩ := Fallible.bind_eq_ok_iff.mp h
      cases h
      intro route member unrouted
      rcases List.mem_append.mp member with hold | hnew
      · exact ih route hold unrouted
      · rw [List.mem_singleton.mp hnew] at unrouted
        contradiction
  | entry _ _ ih => exact ih
  | terminals _ _ ih => exact ih

/-- Nothing in the draft is declared under a name or a key twice. -/
structure Distinct (draft : Draft) : Prop where
  steps : (draft.steps.map (·.name)).Nodup
  sources : (draft.routes.map (·.source)).Nodup
  keys : ∀ route ∈ draft.routes, (route.edges.map (·.outcome.key)).Nodup

theorem fresh_of_checkSource {draft : Draft} {source : String}
    (h : draft.checkSource source = .ok ()) : source ∉ draft.routes.map (·.source) := by
  unfold checkSource at h
  split at h
  · cases h
  · next free => simpa using free

theorem fresh_of_checkStep {draft : Draft} {name : String}
    (h : draft.checkStep name = .ok ()) : name ∉ draft.steps.map (·.name) := by
  unfold checkStep at h
  split at h
  · cases h
  · split at h
    · cases h
    · next free => simpa using free

theorem Distinct.route {draft : Draft} (distinct : draft.Distinct) {route : Route}
    (free : draft.checkSource route.source = .ok ())
    (keys : (route.edges.map (·.outcome.key)).Nodup) :
    Distinct { draft with routes := draft.routes ++ [route] } where
  steps := distinct.steps
  sources := by
    rw [List.map_append, List.map_singleton, ← List.concat_eq_append]
    exact distinct.sources.concat (fresh_of_checkSource free)
  keys := by
    intro other member
    rcases List.mem_append.mp member with hold | hnew
    · exact distinct.keys other hold
    · exact List.mem_singleton.mp hnew ▸ keys

theorem Drawn.distinct {draft : Draft} (drawn : draft.Drawn) : draft.Distinct := by
  induction drawn with
  | blank => exact ⟨.nil, .nil, by simp⟩
  | step _ h ih =>
      obtain ⟨_, free, h⟩ := Fallible.bind_eq_ok_iff.mp h
      cases h
      refine ⟨?_, ih.sources, ih.keys⟩
      rw [List.map_append, List.map_singleton, ← List.concat_eq_append]
      exact ih.steps.concat (fresh_of_checkStep free)
  | edge _ h ih =>
      obtain ⟨_, free, h⟩ := Fallible.bind_eq_ok_iff.mp h
      cases h
      exact ih.route free (List.nodup_singleton _)
  | conditional _ h ih =>
      obtain ⟨_, free, h⟩ := Fallible.bind_eq_ok_iff.mp h
      obtain ⟨edges, read, h⟩ := Fallible.bind_eq_ok_iff.mp h
      obtain ⟨outcomes, _, h⟩ := Fallible.bind_eq_ok_iff.mp h
      cases h
      exact ih.route free (nodup_edgesOf read)
  | entry _ _ ih => exact ⟨ih.steps, ih.sources, ih.keys⟩
  | terminals _ _ ih => exact ⟨ih.steps, ih.sources, ih.keys⟩

end Draft

/-- A definition that was assembled from a draft. -/
def Definition.Drawn (definition : Definition) : Prop :=
  ∃ (draft : Draft) (tag : Nat), draft.Drawn ∧ draft.build tag = .ok definition

theorem Definition.Drawn.unconditional {definition : Definition} (drawn : definition.Drawn) :
    ∀ route ∈ definition.routes, route.router = none →
      ∃ source successors, route = Route.unconditional source successors := by
  obtain ⟨draft, tag, drawn, h⟩ := drawn
  unfold Draft.build at h
  split at h
  · contradiction
  · cases h
    exact drawn.unconditional

end StepGraph
