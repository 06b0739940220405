import Mathlib.Data.List.Forall2
import Mathlib.Data.List.Induction
import StepGraph.Proofs.Run.Dialogue
import StepGraph.Proofs.Run.Progress

namespace StepGraph

/-- The text that stands for a failure in the errors: that of a failed step is its own text, that of
any other failure its message, or the name of its kind where the message is empty. -/
inductive Failure.Text : Failure → String → Prop
  | own (step text : String) (fatal : Bool) : Text (.stepFailed step text fatal) text
  | message {failure : Failure} (other : ∀ step text fatal, failure ≠ .stepFailed step text fatal)
      (filled : failure.message ≠ "") : Text failure failure.message
  | kind {failure : Failure} (other : ∀ step text fatal, failure ≠ .stepFailed step text fatal)
      (empty : failure.message = "") : Text failure failure.kindName

structure Lapse where
  step : String
  failure : Failure
  time : Moment

inductive Lapse.Noted (lapse : Lapse) : StepError → Prop
  | mk {text : String} (tells : lapse.failure.Text text) :
      Noted lapse ⟨lapse.step, text, lapse.time⟩

inductive Entry where
  | seen (event : Event)
  | lapsed (lapse : Lapse)

namespace Entry

def event? : Entry → Option Event
  | .seen event => some event
  | .lapsed _ => none

def lapse? : Entry → Option Lapse
  | .seen _ => none
  | .lapsed lapse => some lapse

def onErrors (errors : List StepError) : Entry → List StepError
  | .seen (.adopted state) => state.errors
  | .seen _ => errors
  | .lapsed lapse => errors ++ [⟨lapse.step, StepSpec.recordedText lapse.failure, lapse.time⟩]

end Entry

def eventsIn (entries : List Entry) : List Event :=
  entries.filterMap (·.event?)

def lapsesIn (entries : List Entry) : List Lapse :=
  entries.filterMap (·.lapse?)

@[simp] theorem eventsIn_append (earlier later : List Entry) :
    eventsIn (earlier ++ later) = eventsIn earlier ++ eventsIn later :=
  List.filterMap_append ..

@[simp] theorem lapsesIn_append (earlier later : List Entry) :
    lapsesIn (earlier ++ later) = lapsesIn earlier ++ lapsesIn later :=
  List.filterMap_append ..

@[simp] theorem eventsIn_seen (events : List Event) : eventsIn (events.map .seen) = events := by
  simp [eventsIn, List.filterMap_map, Entry.event?]

@[simp] theorem eventsIn_lapsed (lapses : List Lapse) : eventsIn (lapses.map .lapsed) = [] := by
  simp [eventsIn, Entry.event?]

@[simp] theorem lapsesIn_seen (events : List Event) : lapsesIn (events.map .seen) = [] := by
  simp [lapsesIn, Entry.lapse?]

@[simp] theorem lapsesIn_lapsed (lapses : List Lapse) : lapsesIn (lapses.map .lapsed) = lapses := by
  simp [lapsesIn, List.filterMap_map, Entry.lapse?]

/-- The errors that go with a ledger: the `initial` ones, or those of the state that was adopted
last, followed by a note of each lapse since. -/
inductive Accounts (initial : List StepError) : List Entry → List StepError → Prop
  | own {entries : List Entry} {notes : List StepError}
      (none : ∀ state, .seen (.adopted state) ∉ entries)
      (noted : List.Forall₂ Lapse.Noted (lapsesIn entries) notes) :
      Accounts initial entries (initial ++ notes)
  | adopted {earlier later : List Entry} {state : State} {notes : List StepError}
      (last : ∀ other, .seen (.adopted other) ∉ later)
      (noted : List.Forall₂ Lapse.Noted (lapsesIn later) notes) :
      Accounts initial (earlier ++ .seen (.adopted state) :: later) (state.errors ++ notes)

def EndsInStart (entries : List Entry) (step : String) : Prop :=
  ∃ before id iteration ceiling, entries = before ++ [.seen (.started id step iteration ceiling)]

def LapsesFollowStarts (entries : List Entry) : Prop :=
  ∀ earlier lapse later, entries = earlier ++ .lapsed lapse :: later →
    EndsInStart earlier lapse.step

/-- A lapse that ends the run: that of a step declared fatal, or one that says of itself that it is.
-/
def Definition.HaltsOn (definition : Definition) (lapse : Lapse) : Prop :=
  ∃ spec, definition.step? lapse.step = some spec ∧
    (spec.fatal = true ∨ ∃ step text, lapse.failure = .stepFailed step text true)

/-- A ledger ends with the first lapse that is to end the run, and only such a lapse makes the run
end with a failed step. -/
structure Definition.Closed (definition : Definition) (entries : List Entry) (ending : Ending) :
    Prop where
  halts : ∀ earlier lapse later, entries = earlier ++ .lapsed lapse :: later →
    definition.HaltsOn lapse → later = [] ∧ ∃ text, lapse.failure.Text text ∧
      ending = .raised (.stepFailed lapse.step text true) (some lapse.failure)
  halted : ∀ step text fatal cause, ending = .raised (.stepFailed step text fatal) cause →
    ∃ earlier lapse, entries = earlier ++ [.lapsed lapse] ∧ definition.HaltsOn lapse

def Phase.lapse? (now : Instant) : Phase → Option Lapse
  | .inside spec _ program =>
      program.failure?.map fun failure => ⟨spec.name, failure, .ofInstant now⟩
  | _ => none

namespace Run

def entries (run : Run) (now : Instant) (events : List Event) : List Entry :=
  ((run.phase.lapse? now).map .lapsed).toList ++ events.map .seen

theorem eventsIn_entries (run : Run) (now : Instant) (events : List Event) :
    eventsIn (run.entries now events) = events := by
  cases lapsed : run.phase.lapse? now <;>
    simp [entries, lapsed, eventsIn, Entry.event?, List.filterMap_map]

/-- What a run can come to, with its ledger. Others may change its state between its moves, other
than the errors. -/
inductive Ledger (first : Run) : List Entry → Run → Prop
  | start : Ledger first [] first
  | go {entries : List Entry} {events : List Event} {run next : Run}
      (before : Ledger first entries run) (circumstances : Circumstances)
      (moved : run.move circumstances = .go next events) :
      Ledger first (entries ++ run.entries circumstances.now events) next
  | ask {entries : List Entry} {run : Run} {effect : Effect} {next : effect.Reply → Phase}
      (before : Ledger first entries run) (circumstances : Circumstances)
      (asked : run.move circumstances = .ask effect next) (reply : effect.Reply) :
      Ledger first entries { run with phase := next reply }
  | disturbed {entries : List Entry} {run : Run} (before : Ledger first entries run) (state : State)
      (origin : Option State) (same : state.errors = run.state.errors) :
      Ledger first entries { run with state, origin }

/-- The ledger of a run that has made its last move. -/
inductive Closes (first : Run) : List Entry → Run → Ending → Prop
  | mk {entries : List Entry} {run last : Run} {ending : Ending} (ledger : Ledger first entries run)
      (circumstances : Circumstances) (isOver : run.move circumstances = .over last ending) :
      Closes first (entries ++ run.entries circumstances.now []) last ending

end Run

/-! ### Texts -/

theorem Failure.text_iff {failure : Failure} {text : String} :
    failure.Text text ↔ text = StepSpec.recordedText failure := by
  constructor
  · rintro (⟨step, text, fatal⟩ | ⟨other, filled⟩ | ⟨other, empty⟩)
    · rfl
    · cases failure with
      | stepFailed step text fatal => exact absurd rfl (other step text fatal)
      | _ => simp [StepSpec.recordedText, recorded, filled]
    · cases failure with
      | stepFailed step text fatal => exact absurd rfl (other step text fatal)
      | _ => simp [StepSpec.recordedText, recorded, empty]
  · rintro rfl
    cases failure with
    | stepFailed step text fatal => exact .own step text fatal
    | _ =>
        simp only [StepSpec.recordedText, recorded]
        split
        · next empty => exact .kind nofun (by simpa using empty)
        · next filled => exact .message nofun (by simpa using filled)

theorem Lapse.noted_recorded (lapse : Lapse) :
    lapse.Noted ⟨lapse.step, StepSpec.recordedText lapse.failure, lapse.time⟩ :=
  .mk (Failure.text_iff.mpr rfl)

theorem StepSpec.stopsOn_iff {spec : StepSpec} {failure : Failure} :
    spec.stopsOn failure = true ↔
      spec.fatal = true ∨ ∃ step text, failure = .stepFailed step text true := by
  cases failure <;> simp [stopsOn, or_comm]

theorem Definition.haltsOn_iff {definition : Definition} {spec : StepSpec} {lapse : Lapse}
    (found : definition.step? lapse.step = some spec) :
    definition.HaltsOn lapse ↔ spec.stopsOn lapse.failure = true := by
  rw [StepSpec.stopsOn_iff]
  constructor
  · rintro ⟨other, same, halts⟩
    cases same.symm.trans found
    exact halts
  · exact fun halts => ⟨spec, found, halts⟩

/-! ### Ledgers entry by entry -/

theorem Accounts.extend {initial errors notes : List StepError} {entries : List Entry}
    (accounts : Accounts initial entries errors) (entry : Entry)
    (other : ∀ state, entry ≠ .seen (.adopted state))
    (noted : List.Forall₂ Lapse.Noted (lapsesIn [entry]) notes) :
    Accounts initial (entries ++ [entry]) (errors ++ notes) := by
  have stays {earlier : List Entry} (none : ∀ state, .seen (.adopted state) ∉ earlier)
      (state : State) : .seen (.adopted state) ∉ earlier ++ [entry] := by
    simpa using ⟨none state, (other state).symm⟩
  cases accounts with
  | own none before =>
      rw [List.append_assoc]
      refine .own (stays none) ?_
      rw [lapsesIn_append]
      exact List.rel_append before noted
  | adopted last before =>
      rw [List.append_assoc, List.append_assoc, List.cons_append]
      refine .adopted (stays last) ?_
      rw [lapsesIn_append]
      exact List.rel_append before noted

theorem Accounts.concat {initial errors : List StepError} {entries : List Entry}
    (accounts : Accounts initial entries errors) (entry : Entry) :
    Accounts initial (entries ++ [entry]) (entry.onErrors errors) := by
  cases entry with
  | seen event =>
      cases event with
      | started id step iteration ceiling =>
          have same := accounts.extend (.seen (.started id step iteration ceiling))
            (fun _ heq => by cases heq) .nil
          rwa [List.append_nil] at same
      | routed step outcome successors =>
          have same := accounts.extend (.seen (.routed step outcome successors))
            (fun _ heq => by cases heq) .nil
          rwa [List.append_nil] at same
      | adopted state =>
          have fresh :
              Accounts initial (entries ++ [.seen (.adopted state)]) (state.errors ++ []) :=
            .adopted (fun _ => List.not_mem_nil) .nil
          rwa [List.append_nil] at fresh
  | lapsed lapse =>
      exact accounts.extend _ (fun _ heq => by cases heq) (.cons lapse.noted_recorded .nil)

theorem accounts_foldl (initial : List StepError) (entries : List Entry) :
    Accounts initial entries (entries.foldl Entry.onErrors initial) := by
  induction entries using List.reverseRecOn with
  | nil =>
      have none : Accounts initial [] (initial ++ []) := .own (fun _ => List.not_mem_nil) .nil
      simpa using none
  | append_singleton entries entry ih =>
      rw [List.foldl_append]
      exact ih.concat entry

theorem lapsesFollowStarts_nil : LapsesFollowStarts [] := by
  intro earlier lapse later heq
  simp at heq

theorem LapsesFollowStarts.concat {entries : List Entry} {entry : Entry}
    (orderly : LapsesFollowStarts entries)
    (follows : ∀ lapse, entry = .lapsed lapse → EndsInStart entries lapse.step) :
    LapsesFollowStarts (entries ++ [entry]) := by
  intro earlier lapse later heq
  rcases later.eq_nil_or_concat' with rfl | ⟨between, last, rfl⟩
  · obtain ⟨rfl, same⟩ := List.append_inj' heq rfl
    exact follows lapse (List.singleton_inj.mp same)
  · rw [← List.cons_append, ← List.append_assoc] at heq
    exact orderly earlier lapse between (List.append_inj' heq rfl).1

theorem LapsesFollowStarts.seen {entries : List Entry} (orderly : LapsesFollowStarts entries)
    (events : List Event) : LapsesFollowStarts (entries ++ events.map .seen) := by
  induction events generalizing entries with
  | nil => simpa using orderly
  | cons event events ih =>
      have first : LapsesFollowStarts (entries ++ [.seen event]) :=
        orderly.concat fun _ heq => by cases heq
      simpa using ih first

/-! ### Ledgers move by move -/

namespace Run

variable {run next last : Run} {circumstances : Circumstances} {events : List Event}
  {ending : Ending}

theorem Settles.errors_eq {settled : Run} {now : Instant} {spec : StepSpec} {rest : List String}
    {program : Step} (phase : run.phase = .inside spec rest program)
    (settles : run.Settles now spec program settled) :
    settled.state.errors = (run.entries now []).foldl Entry.onErrors run.state.errors := by
  cases settles with
  | nothing => simp [entries, phase, Phase.lapse?, Step.failure?]
  | same => simp [entries, phase, Phase.lapse?, Step.failure?]
  | recorded fails => simp [entries, phase, Phase.lapse?, fails, failed, Entry.onErrors]

/-- A move that leaves the run under way does to the errors what the ledger says. -/
theorem Goes.errors_eq (stands : run.phase.Spares State.errors State.errors run.state)
    (goes : run.Goes circumstances next events) :
    next.state.errors =
      (run.entries circumstances.now events).foldl Entry.onErrors run.state.errors := by
  cases goes with
  | begin phase => simp [entries, phase, Phase.lapse?]
  | enter phase => simp [entries, phase, Phase.lapse?, started, Entry.onErrors]
  | read phase => simp [entries, phase, Phase.lapse?, Step.failure?]
  | write phase =>
      rw [phase] at stands
      simpa [entries, phase, Phase.lapse?, Step.failure?] using stands.1
  | adopt phase => simp [entries, phase, Phase.lapse?, Step.failure?, Entry.onErrors]
  | onward phase settles =>
      have same := settles.errors_eq phase
      exact same
  | route phase settles =>
      have same := settles.errors_eq phase
      exact same
  | routerRead phase => simp [entries, phase, Phase.lapse?]
  | routerWrite phase =>
      rw [phase] at stands
      simpa [entries, phase, Phase.lapse?] using stands.1
  | follow phase => simp [entries, phase, Phase.lapse?, Entry.onErrors]

theorem Stops.errors_eq (stops : run.Stops circumstances last ending) :
    last.state.errors =
      (run.entries circumstances.now []).foldl Entry.onErrors run.state.errors := by
  cases stops with
  | interrupted phase => simp [entries, phase, Phase.lapse?, Step.failure?]
  | fatal phase fails => simp [entries, phase, Phase.lapse?, fails, failed, Entry.onErrors]
  | cancelledAfter phase settles => exact settles.errors_eq phase
  | completed phase settles => exact settles.errors_eq phase
  | deadEnd phase settles => exact settles.errors_eq phase
  | refused phase | ceiling phase | cancelledBefore phase | undeclared phase
  | routerInterrupted phase | routerFailed phase | noKey phase | unmapped phase | concluded phase =>
      simp [entries, phase, Phase.lapse?]

/-- Inside a step the last entry is its start, unless it has handed back a state. -/
def Poised (entries : List Entry) (run : Run) : Prop :=
  ∀ spec rest program, run.phase = .inside spec rest program →
    run.definition.step? spec.name = some spec ∧
      (EndsInStart entries spec.name ∨ program = .done .same)

theorem Goes.poised {entries : List Entry} (poised : run.Poised entries)
    (goes : run.Goes circumstances next events) :
    next.Poised (entries ++ run.entries circumstances.now events) := by
  intro spec rest program inside
  cases goes with
  | enter phase _ _ found =>
      cases inside
      have same := Definition.name_of_step? found
      subst same
      refine ⟨found, .inl
        ⟨entries, run.state.metadata.instanceId, run.state.iterationCount + 1, run.ceiling, ?_⟩⟩
      rw [Run.entries, phase]
      rfl
  | read phase =>
      cases inside
      obtain ⟨found, started | done⟩ := poised _ _ _ phase
      · exact ⟨found,
          .inl (by simpa [Run.entries, phase, Phase.lapse?, Step.failure?] using started)⟩
      · cases done
  | write phase =>
      cases inside
      obtain ⟨found, started | done⟩ := poised _ _ _ phase
      · exact ⟨found,
          .inl (by simpa [Run.entries, phase, Phase.lapse?, Step.failure?] using started)⟩
      · cases done
  | adopt phase =>
      cases inside
      exact ⟨(poised _ _ _ phase).1, .inr rfl⟩
  | @follow _ _ _ _ successors => cases successors <;> cases inside
  | _ => cases inside

theorem Asks.poised {entries : List Entry} {effect : Effect} {onward : effect.Reply → Phase}
    (poised : run.Poised entries) (asks : run.Asks effect onward) (reply : effect.Reply) :
    Poised entries { run with phase := onward reply } := by
  intro spec rest program inside
  cases asks with
  | step phase =>
      cases inside
      obtain ⟨found, started | done⟩ := poised _ _ _ phase
      · exact ⟨found, .inl started⟩
      · cases done
  | router => cases inside

theorem lapse?_eq_some_iff {now : Instant} {lapse : Lapse} :
    run.phase.lapse? now = some lapse ↔
      ∃ spec rest program failure, run.phase = .inside spec rest program ∧
        program.failure? = some failure ∧ lapse = ⟨spec.name, failure, .ofInstant now⟩ := by
  cases phase : run.phase with
  | inside spec rest program =>
      simp only [Phase.lapse?, Option.map_eq_some_iff]
      constructor
      · rintro ⟨failure, fails, rfl⟩
        exact ⟨spec, rest, program, failure, rfl, fails, rfl⟩
      · rintro ⟨_, _, _, failure, ⟨⟩, fails, rfl⟩
        exact ⟨failure, fails, rfl⟩
  | _ => simp [Phase.lapse?]

theorem Poised.endsInStart {entries : List Entry} (poised : run.Poised entries) {now : Instant}
    {lapse : Lapse} (lapsed : run.phase.lapse? now = some lapse) :
    EndsInStart entries lapse.step := by
  obtain ⟨spec, rest, program, failure, phase, fails, rfl⟩ := lapse?_eq_some_iff.mp lapsed
  obtain ⟨_, started | rfl⟩ := poised spec rest program phase
  · exact started
  · cases fails

theorem Poised.followStarts {entries : List Entry} (poised : run.Poised entries)
    (orderly : LapsesFollowStarts entries) (now : Instant) (events : List Event) :
    LapsesFollowStarts (entries ++ run.entries now events) := by
  rw [Run.entries, ← List.append_assoc]
  refine LapsesFollowStarts.seen ?_ events
  cases lapsed : run.phase.lapse? now with
  | none => simpa using orderly
  | some lapse =>
      refine orderly.concat ?_
      rintro _ ⟨⟩
      exact poised.endsInStart lapsed

theorem Settles.goesOn {settled : Run} {now : Instant} {spec : StepSpec} {program : Step}
    {failure : Failure} (settles : run.Settles now spec program settled)
    (fails : program.failure? = some failure) : spec.stopsOn failure = false := by
  cases settles with
  | nothing => cases fails
  | same => cases fails
  | recorded same goesOn =>
      cases same.symm.trans fails
      exact goesOn

section

variable {spec : StepSpec} {rest : List String} {program : Step} {failure : Failure}

theorem Goes.goesOn (goes : run.Goes circumstances next events)
    (phase : run.phase = .inside spec rest program) (fails : program.failure? = some failure) :
    spec.stopsOn failure = false := by
  cases goes with
  | onward inside settles =>
      cases phase.symm.trans inside
      exact settles.goesOn fails
  | route inside settles =>
      cases phase.symm.trans inside
      exact settles.goesOn fails
  | read inside | write inside | adopt inside =>
      cases phase.symm.trans inside
      cases fails
  | begin other | enter other | routerRead other | routerWrite other | follow other =>
      cases phase.symm.trans other

/-- A step that fails is settled by what its failure is, whatever the circumstances are. -/
theorem move_of_failure? (phase : run.phase = .inside spec rest program)
    (fails : program.failure? = some failure) (circumstances : Circumstances) :
    run.move circumstances = run.failStep circumstances spec rest failure := by
  simp only [move, phase]
  cases program with
  | done result =>
      cases result with
      | other kindName =>
          cases fails
          rfl
      | _ => cases fails
  | fail other =>
      cases other with
      | interrupted => cases fails
      | _ =>
          cases fails
          rfl
  | _ => cases fails

theorem Stops.halts_of_stepFailed {step text : String} {fatal : Bool} {cause : Option Failure}
    (stops : run.Stops circumstances last (.raised (.stepFailed step text fatal) cause)) :
    ∃ spec rest program failure, run.phase = .inside spec rest program ∧
      program.failure? = some failure ∧ spec.stopsOn failure = true := by
  cases stops with
  | fatal phase fails stops => exact ⟨_, _, _, _, phase, fails, stops⟩

end

/-- What holds of a run and its ledger while it is under way. -/
structure Kept (first : Run) (entries : List Entry) (run : Run) : Prop where
  definition : run.definition = first.definition
  spares : run.phase.Spares State.errors State.errors run.state
  errors : run.state.errors = entries.foldl Entry.onErrors first.state.errors
  poised : run.Poised entries
  orderly : LapsesFollowStarts entries
  goesOn : ∀ lapse ∈ lapsesIn entries, ¬ first.definition.HaltsOn lapse

theorem Kept.haltsOn_iff {first : Run} {entries : List Entry} {spec : StepSpec}
    {rest : List String} {program : Step} (kept : Kept first entries run)
    (phase : run.phase = .inside spec rest program) (failure : Failure) (time : Moment) :
    first.definition.HaltsOn ⟨spec.name, failure, time⟩ ↔ spec.stopsOn failure = true :=
  Definition.haltsOn_iff (kept.definition ▸ (kept.poised spec rest program phase).1)

theorem Kept.go {first : Run} {entries : List Entry}
    (spares : first.definition.Spares State.errors State.errors) (kept : Kept first entries run)
    (goes : run.Goes circumstances next events) :
    Kept first (entries ++ run.entries circumstances.now events) next where
  definition := goes.definition_eq.trans kept.definition
  spares := goes.spares (kept.definition ▸ spares) kept.spares
  errors := by rw [goes.errors_eq kept.spares, kept.errors, List.foldl_append]
  poised := goes.poised kept.poised
  orderly := kept.poised.followStarts kept.orderly circumstances.now events
  goesOn := by
    intro lapse member
    rw [lapsesIn_append] at member
    rcases List.mem_append.mp member with earlier | latest
    · exact kept.goesOn lapse earlier
    · have lapsed : run.phase.lapse? circumstances.now = some lapse := by
        simpa [Run.entries, lapsesIn, Entry.lapse?] using latest
      obtain ⟨spec, rest, program, failure, phase, fails, rfl⟩ := lapse?_eq_some_iff.mp lapsed
      rw [kept.haltsOn_iff phase, goes.goesOn phase fails]
      exact Bool.false_ne_true

theorem Ledger.kept {first : Run} {entries : List Entry}
    (spares : first.definition.Spares State.errors State.errors) (fresh : first.phase = .fresh)
    (ledger : Ledger first entries run) : Kept first entries run := by
  induction ledger with
  | start =>
      refine ⟨rfl, fresh ▸ trivial, rfl, ?_, lapsesFollowStarts_nil, nofun⟩
      intro spec rest program phase
      cases fresh.symm.trans phase
  | go _ circumstances moved ih => exact ih.go spares (goes_of_move moved)
  | ask _ circumstances asked reply ih =>
      have asks := asks_of_move asked
      exact ⟨ih.definition, asks.spares ih.spares reply _, ih.errors, asks.poised ih.poised reply,
        ih.orderly, ih.goesOn⟩
  | disturbed _ state origin same ih =>
      exact ⟨ih.definition, ih.spares.congr same same, same.trans ih.errors, ih.poised, ih.orderly,
        ih.goesOn⟩

/-- The last move keeps the ledger in order, and the ending goes with it. -/
theorem Kept.closed {first : Run} {entries : List Entry} (kept : Kept first entries run)
    (stops : run.Stops circumstances last ending)
    (isOver : run.move circumstances = .over last ending) :
    first.definition.Closed (entries ++ run.entries circumstances.now []) ending where
  halts := by
    intro earlier lapse later heq halts
    have member : lapse ∈ lapsesIn (entries ++ run.entries circumstances.now []) := by
      rw [heq, lapsesIn_append]
      exact List.mem_append_right _ List.mem_cons_self
    have lapsed : run.phase.lapse? circumstances.now = some lapse := by
      rw [lapsesIn_append] at member
      rcases List.mem_append.mp member with before | latest
      · exact absurd halts (kept.goesOn lapse before)
      · simpa [Run.entries, lapsesIn, Entry.lapse?] using latest
    obtain ⟨spec, rest, program, failure, phase, fails, rfl⟩ := lapse?_eq_some_iff.mp lapsed
    refine ⟨?_, StepSpec.recordedText failure, Failure.text_iff.mpr rfl, ?_⟩
    · -- Were there more, the lapse would have been among the entries before the last move.
      rcases later.eq_nil_or_concat' with rfl | ⟨between, final, rfl⟩
      · rfl
      · have only : run.entries circumstances.now [] =
            [.lapsed ⟨spec.name, failure, .ofInstant circumstances.now⟩] := by
          rw [Run.entries, lapsed]
          rfl
        rw [only, ← List.cons_append, ← List.append_assoc] at heq
        have before := (List.append_inj' heq rfl).1
        have among :
            Lapse.mk spec.name failure (.ofInstant circumstances.now) ∈ lapsesIn entries := by
          rw [before, lapsesIn_append]
          exact List.mem_append_right _ List.mem_cons_self
        exact absurd halts (kept.goesOn _ among)
    · rw [kept.haltsOn_iff phase] at halts
      rw [move_of_failure? phase fails, failStep_eq, if_pos halts] at isOver
      cases isOver
      rfl
  halted := by
    rintro step text fatal cause rfl
    obtain ⟨spec, rest, program, failure, phase, fails, halts⟩ := stops.halts_of_stepFailed
    refine ⟨entries, ⟨spec.name, failure, .ofInstant circumstances.now⟩, ?_,
      (kept.haltsOn_iff phase failure _).mpr halts⟩
    rw [Run.entries, phase, Phase.lapse?, fails]
    rfl

theorem Dialogue.ledger {first : Run} {talk : Talk} {trace : List Event}
    (dialogue : Dialogue first talk trace run) :
    ∃ entries, Ledger first entries run ∧ eventsIn entries = trace := by
  induction dialogue with
  | start => exact ⟨[], .start, rfl⟩
  | @go _ _ events run _ _ circumstances moved ih =>
      obtain ⟨entries, ledger, rfl⟩ := ih
      refine ⟨_, ledger.go circumstances moved, ?_⟩
      rw [eventsIn_append, eventsIn_entries]
  | ask _ circumstances asked reply ih =>
      obtain ⟨entries, ledger, rfl⟩ := ih
      exact ⟨entries, ledger.ask circumstances asked reply, rfl⟩

end Run

/-- A run that an executor takes to its end has a ledger with all that has been seen of it. -/
theorem Solo.closes_finish {moves : Nat} {first last : Solo} {ending : Ending}
    (finished : first.finish moves = (last, some ending)) :
    ∃ entries, Run.Closes first.run entries last.run ending ∧
      last.events = (eventsIn entries).reverse ++ first.events := by
  obtain ⟨_, solo, comes, isLast⟩ := comes_of_finish finished
  obtain ⟨talk, trace, dialogue, hevents, _⟩ := comes.dialogue
  obtain ⟨entries, ledger, rfl⟩ := dialogue.ledger
  obtain ⟨isOver, same⟩ := over_of_advance isLast
  refine ⟨_, .mk ledger _ isOver, ?_⟩
  rw [same, hevents, eventsIn_append, Run.eventsIn_entries, List.append_nil]

/-- Where steps and routers leave the errors alone, the errors of a run are at every point those
that go with its ledger. A step that comes back with a failure adds one note to the state as it is
then. If the failure is to end the run, the run is over with it; otherwise the run goes on just as
if the step had come back with the state it was given. -/
theorem Run.Ledger.errors_accounted {executor : Executor} {definition : Definition} {state : State}
    (spares : definition.Spares State.errors State.errors) :
    let first := Run.create definition executor.ceiling state
    (∀ entries run, Run.Ledger first entries run →
      Accounts state.errors entries run.state.errors ∧ LapsesFollowStarts entries ∧
      (∀ lapse ∈ lapsesIn entries, ¬ definition.HaltsOn lapse) ∧
      ∀ spec rest program failure text, run.phase = .inside spec rest program →
        program.failure? = some failure → failure.Text text → ∀ circumstances,
        let state := run.state.addError circumstances.now spec.name text
        (definition.HaltsOn ⟨spec.name, failure, .ofInstant circumstances.now⟩ →
          run.move circumstances =
            .over { run with state } (.raised (.stepFailed spec.name text true) (some failure))) ∧
        (¬ definition.HaltsOn ⟨spec.name, failure, .ofInstant circumstances.now⟩ →
          run.move circumstances = Run.leave { run with state } circumstances spec rest .same)) ∧
    (∀ entries last ending, Run.Closes first entries last ending →
      Accounts state.errors entries last.state.errors ∧ LapsesFollowStarts entries ∧
      definition.Closed entries ending) ∧
    (∀ token moves last ending,
      (executor.begin definition state token).finish moves = (last, some ending) →
      ∃ entries, Run.Closes first entries last.run ending ∧
        last.events = (eventsIn entries).reverse) := by
  intro first
  have kept : ∀ {entries run}, Run.Ledger first entries run → Run.Kept first entries run :=
    fun ledger => ledger.kept spares rfl
  refine ⟨?_, ?_, ?_⟩
  · intro entries run ledger
    have kept := kept ledger
    refine ⟨kept.errors ▸ accounts_foldl state.errors entries, kept.orderly, kept.goesOn, ?_⟩
    intro spec rest program failure text phase fails tells circumstances after
    cases Failure.text_iff.mp tells
    have moved := Run.move_of_failure? phase fails circumstances
    have decides := kept.haltsOn_iff phase failure (.ofInstant circumstances.now)
    rw [Run.failStep_eq] at moved
    refine ⟨fun halts => ?_, fun goesOn => ?_⟩
    · rwa [if_pos (decides.mp halts)] at moved
    · rw [moved, if_neg (mt decides.mpr goesOn)]
      rfl
  · rintro _ _ ending ⟨ledger, circumstances, isOver⟩
    have kept := kept ledger
    have stops := Run.stops_of_move isOver
    refine ⟨?_, kept.poised.followStarts kept.orderly _ _, kept.closed stops isOver⟩
    rw [stops.errors_eq, kept.errors, ← List.foldl_append]
    exact accounts_foldl state.errors _
  · intro token moves last ending finished
    obtain ⟨entries, closes, hevents⟩ := Solo.closes_finish finished
    exact ⟨entries, closes, hevents.trans (List.append_nil _)⟩

/-- A graph whose first step brings errors of its own; what follows fails, and in the end for
good. -/
def faltering : Definition where
  name := "faltering"
  steps :=
    [{ name := "import"
       action := .done (.replacement { errors := [⟨"download", "partial", .ofInstant 0⟩] }) },
      { name := "check", action := .fail (.stepFailed "inspection" "no licence" false) },
      { name := "publish", action := .fail (.fault .runtime ""), fatal := true }]
  routes := [.unconditional "import" ["check", "publish"]]
  entry := some "import"
  terminals := ["publish"]
  ceiling := none
  description := none

theorem spares_faltering : faltering.Spares State.errors State.errors where
  steps := by
    intro spec member
    simp only [faltering, List.mem_cons, List.not_mem_nil, or_false] at member
    rcases member with rfl | rfl | rfl <;> exact fun _ => trivial
  routers := by
    intro route member router routed
    simp only [faltering, List.mem_singleton] at member
    subst member
    cases routed

/-- The errors from before the import are gone, and so is the name under which the check failed. -/
theorem Run.Ledger.errors_accounted_faltering :
    ∃ entries last,
      Run.Closes
        (Run.create faltering defaultCeiling { errors := [⟨"setup", "old", .ofInstant 0⟩] })
        entries last
        (.raised (.stepFailed "publish" "RuntimeError" true) (some (.fault .runtime ""))) ∧
      Accounts [⟨"setup", "old", .ofInstant 0⟩] entries last.state.errors ∧
      last.state.errors =
        [⟨"download", "partial", .ofInstant 0⟩, ⟨"check", "no licence", .ofInstant 0⟩,
          ⟨"publish", "RuntimeError", .ofInstant 0⟩] := by
  obtain ⟨_, closed, finished⟩ :=
    @Run.Ledger.errors_accounted ⟨⟨[faltering]⟩, defaultCeiling⟩ faltering
      { errors := [⟨"setup", "old", .ofInstant 0⟩] } spares_faltering
  obtain ⟨entries, closes, _⟩ := finished none 9 _ _ rfl
  exact ⟨entries, _, closes, (closed entries _ _ closes).1, rfl⟩

end StepGraph
