import StepGraph.Proofs.Json.Token
import StepGraph.Proofs.Policy.Lockstep
import StepGraph.Proofs.Policy.Resumption

namespace StepGraph

/-! ### Documents -/

namespace Json

theorem string_injective (format : Format) : Function.Injective format.string := by
  intro s t same
  have written : '"' :: (s.toList.flatMap format.char ++ ['"']) = format.string t ++ [] := by
    rw [List.append_nil, ← same]
    rfl
  have read := string_tail format s [] (List.append_nil _).symm
  have read' := string_tail format t [] written
  exact congrArg Prod.fst (Except.ok.inj (read.symm.trans read'))

theorem write_ofText?_injective (format : Format) (depth : Nat) :
    Function.Injective fun text => format.write depth (Value.ofText? text) := by
  intro first second same
  cases first with
  | none =>
      cases second with
      | none => rfl
      | some text => cases same
  | some text =>
      cases second with
      | none => cases same
      | some other => exact congrArg some (string_injective format same)

theorem writeEntries_append (format : Format) (depth : Nat) (first : Bool)
    (before after : List (String × Value)) :
    writeEntries format depth first (before ++ after) =
      writeEntries format depth first before ++
        writeEntries format depth (first && before.isEmpty) after := by
  induction before generalizing first with
  | nil => simp [writeEntries]
  | cons entry before ih =>
      simp only [List.cons_append, writeEntries, ih, List.append_assoc, List.isEmpty_cons,
        Bool.false_and, Bool.and_false]

/-- A document tells apart the values of a field that is not its only one. -/
theorem print_injective_at (format : Format) {before after : List (String × Value)} {key : String}
    {value other : Value}
    (same : format.print (.record (before ++ (key, value) :: after)) =
      format.print (.record (before ++ (key, other) :: after))) :
    format.write 1 value = format.write 1 other := by
  have chars := String.ofList_injective same
  simpa [Format.write, writeEntries_append, writeEntries, List.append_assoc] using chars

end Json

/-! ### Questions -/

namespace Program

theorem nonempty_reply (effect : Effect) : Nonempty effect.Reply := by
  cases effect with
  | act deed => cases deed <;> exact ⟨default⟩
  | pause => exact ⟨false⟩
  | gate => exact ⟨false⟩
  | start => exact ⟨.error .interrupted⟩
  | consult => exact ⟨.error .interrupted⟩

theorem exists_gives {α : Type} (program : StepProgram α) (state : State) :
    ∃ talk result after, program.Gives state talk result after := by
  induction program generalizing state with
  | done value => exact ⟨_, _, _, rfl, rfl, rfl⟩
  | fail failure => exact ⟨_, _, _, rfl, rfl, rfl⟩
  | read next ih => exact ih state state
  | write written next ih => exact ih written
  | ask effect next ih =>
      obtain ⟨reply⟩ := nonempty_reply effect
      obtain ⟨talk, result, after, gives⟩ := ih reply state
      exact ⟨_, result, after, reply, talk, rfl, gives⟩

end Program

theorem Run.Dialogue.asked {first run : Run} {talk said later : Talk} {trace : List Event}
    {effect : Effect} {reply : effect.Reply} (dialogue : first.Dialogue talk trace run)
    (split : talk = said ++ ⟨effect, reply⟩ :: later) :
    ∃ events asking circumstances next, first.Dialogue said events asking ∧
      asking.move circumstances = .ask effect next := by
  induction dialogue generalizing later with
  | start => simp at split
  | go _ _ _ ih => exact ih split
  | @ask talk trace run _ _ before circumstances asked _ ih =>
      rcases List.eq_nil_or_concat later with rfl | ⟨later, last, rfl⟩
      · obtain ⟨rfl, same⟩ := List.append_inj' split rfl
        cases same
        exact ⟨_, _, _, _, before, asked⟩
      · rw [List.concat_eq_append, ← List.cons_append, ← List.append_assoc] at split
        exact ih (List.append_inj' split rfl).1

/-! ### What has been said -/

def Verdict.reviewed? (verdict : Verdict) : Option String :=
  match verdict.reply with
  | .ok _ => some verdict.content
  | .error _ => none

namespace Talk

def calls (kind : Inquiry.Kind) (talk : Talk) : Nat :=
  talk.kinds.count (some kind)

theorem calls_append (kind : Inquiry.Kind) (talk words : Talk) :
    Talk.calls kind (talk ++ words) = talk.calls kind + words.calls kind := by
  rw [calls, kinds_append, List.count_append, calls, calls]

theorem calls_eq_of_kinds {talk other : Talk} (level : talk.kinds = other.kinds)
    (kind : Inquiry.Kind) : talk.calls kind = other.calls kind :=
  congrArg (List.count (some kind)) level

theorem calls_lt {said later : Talk} {state : State} {reply : Fallible String} :
    said.calls .draft < Talk.calls .draft (said ++ ⟨.consult (.draft state), reply⟩ :: later) := by
  have one : Talk.calls .draft (⟨.consult (.draft state), reply⟩ :: later) =
      later.calls .draft + 1 :=
    List.count_cons_self
  rw [calls_append, one]
  exact Nat.lt_add_of_pos_right (Nat.succ_pos _)

def reviewedDraft? (talk : Talk) : Option String :=
  (talk.verdicts.filterMap Verdict.reviewed?).getLast?

theorem reviewedDraft?_append (talk words : Talk) :
    Talk.reviewedDraft? (talk ++ words) = words.reviewedDraft?.or talk.reviewedDraft? := by
  simp only [reviewedDraft?, verdicts_append, List.filterMap_append, List.getLast?_append]

end Talk

/-! ### The same company -/

/-- What the source of facts and the reviewer have to say, each by how often it has been asked
before. -/
structure Company where
  facts : Nat → String → Entries → Fallible Facts
  reviews : Nat → Fallible Review

/-- A talk with the company, and with a writer who gives one draft after another. -/
structure Company.Serves (company : Company) (drafts : Nat → String) (talk : Talk) : Prop where
  facts : ∀ {said later : Talk} {domain params} {reply : Fallible Facts},
    talk = said ++ ⟨.consult (.facts domain params), reply⟩ :: later →
      reply = company.facts (said.calls .facts) domain params
  drafts : ∀ {said later : Talk} {state : State} {reply : Fallible String},
    talk = said ++ ⟨.consult (.draft state), reply⟩ :: later →
      reply = .ok (drafts (said.calls .draft))
  reviews : ∀ {said later : Talk} {content requirements} {reply : Fallible Review},
    talk = said ++ ⟨.consult (.review content requirements), reply⟩ :: later →
      reply = company.reviews (said.calls .review)

/-- Two drafts are both missing, or were given in answer to the same call, out of so many. -/
inductive Paired (drafts others : Nat → String) (calls : Nat) : String → String → Prop
  | missing : Paired drafts others calls "" ""
  | written {n : Nat} (earlier : n < calls) : Paired drafts others calls (drafts n) (others n)

section

variable {drafts others : Nat → String} {calls : Nat}

theorem keepsBlanks_paired (written : ∀ n, drafts n ≠ "") (written' : ∀ n, others n ≠ "") :
    PolicyGeneration.KeepsBlanks (Paired drafts others calls) := by
  intro draft other pair
  cases pair with
  | missing => exact Iff.rfl
  | @written n => exact iff_of_false (written n) (written' n)

theorem Paired.shown {reviewed other : Option String}
    (pairs : Option.Rel (Paired drafts others calls) reviewed other)
    (written : reviewed ≠ some "") :
    ∃ shown : Option Nat, (∀ n ∈ shown, n < calls) ∧ reviewed = shown.map drafts ∧
      other = shown.map others := by
  cases pairs with
  | none => exact ⟨none, nofun, rfl, rfl⟩
  | some pair =>
      cases pair with
      | missing => contradiction
      | @written n earlier => exact ⟨some n, fun _ same => by cases same; exact earlier, rfl, rfl⟩

variable {company : Company} {talk other : Talk}

theorem Company.Serves.left {words : Talk} (serves : company.Serves drafts (talk ++ words)) :
    company.Serves drafts talk where
  facts split := serves.facts (by rw [split, List.append_assoc]; rfl)
  drafts split := serves.drafts (by rw [split, List.append_assoc]; rfl)
  reviews split := serves.reviews (by rw [split, List.append_assoc]; rfl)

theorem Company.Serves.concord (serves : company.Serves drafts talk)
    (serves' : company.Serves others other) :
    talk.Concord (Paired drafts others (talk.calls .draft)) other where
  facts split split' level := by
    rw [serves.facts split, serves'.facts split', Talk.calls_eq_of_kinds level]
  drafts split split' level := by
    rw [serves.drafts split, serves'.drafts split', ← Talk.calls_eq_of_kinds level]
    exact .ok (.written (split ▸ Talk.calls_lt))
  reviews split split' level := by
    rw [serves.reviews split, serves'.reviews split', Talk.calls_eq_of_kinds level]

end

namespace PolicyGeneration

/-! ### Prompts -/

def leading (request : PolicyRequest) : Entries :=
  (request.entries.filter (·.1 != draftField)).take 12

def trailing (request : PolicyRequest) : Entries :=
  (request.entries.filter (·.1 != draftField)).drop 13

theorem document_reviewed (request : PolicyRequest) (reviewed : Option String) :
    (Payload.policy { request with validatedDraft := reviewed }).document [draftField] =
      Json.Format.payload.print (.record
        (leading request ++ ("validated_draft", .ofText? reviewed) :: trailing request)) :=
  rfl

def complaints (messages : List String) : String :=
  if messages.isEmpty then ""
  else
    "\nEarlier steps reported problems: " ++
      "; ".intercalate (messages.drop (messages.length - 3))

theorem generationPrompt_eq (state : State) :
    generationPrompt state = "Draft a security policy from this context:\n" ++
      promptDetails state.data ++ complaints (state.errors.map (·.message)) := by
  unfold generationPrompt complaints
  simp only [List.isEmpty_map, List.length_map, List.map_drop]
  split
  · exact (String.append_empty ..).symm
  · rfl

def promptShowing (state : State) (request : PolicyRequest) (reviewed : Option String) : String :=
  generationPrompt
    { state with data := .payload (.policy { request with validatedDraft := reviewed }) }

theorem promptShowing_injective (state : State) (request : PolicyRequest) :
    Function.Injective (promptShowing state request) := by
  intro first second same
  rw [promptShowing, promptShowing, generationPrompt_eq, generationPrompt_eq,
    String.append_left_inj, String.append_right_inj] at same
  have details : (Payload.policy { request with validatedDraft := first }).document [draftField] =
      (Payload.policy { request with validatedDraft := second }).document [draftField] := same
  rw [document_reviewed, document_reviewed] at details
  exact Json.write_ofText?_injective _ _ (Json.print_injective_at _ details)

theorem promptShowing_redrafted (state : State) (request : PolicyRequest) (draft : String)
    (reviewed : Option String) :
    promptShowing state { request with policyDraft := draft } reviewed =
      promptShowing state request reviewed := by
  rw [promptShowing, promptShowing, generationPrompt_eq, generationPrompt_eq]
  rfl

variable {same : String → String → Prop} {request twin : PolicyRequest} {state state' : State}

theorem prompt_eq_promptShowing (carries : state.data = .payload (.policy request)) :
    generationPrompt state = promptShowing state request request.validatedDraft := by
  rw [promptShowing, generationPrompt_eq, generationPrompt_eq, carries]

theorem twin_eq_promptShowing (carried : state'.data = .payload (.policy twin))
    (requests : Twin same request twin)
    (messages : state.errors.map (·.message) = state'.errors.map (·.message)) :
    generationPrompt state' = promptShowing state request twin.validatedDraft := by
  obtain ⟨drafts, reviews⟩ := requests
  rw [promptShowing, generationPrompt_eq, generationPrompt_eq, carried, messages]
  rfl

/-! ### The calls of the writer -/

variable {first : State} {talk said later : Talk}

theorem Stage.Yields.asks_draft {stage : Stage} {words : Talk} {outcome : Fallible PolicyRequest}
    {asked : State} {reply : Fallible String}
    (yields : stage.Yields state request words outcome)
    (split : words = said ++ ⟨.consult (.draft asked), reply⟩ :: later) :
    said = [] ∧ stage = .generate ∧ asked = state := by
  cases said with
  | nil => cases yields <;> cases split; exact ⟨rfl, rfl, rfl⟩
  | cons => cases yields <;> simp at split

theorem way_of_draft {tag : Nat} {ceiling : Int} {trace : List Event} {run : Run}
    {asked : State} {reply : Fallible String} (carries : first.data = .payload (.policy request))
    (dialogue : (runFrom tag ceiling first).Dialogue talk trace run)
    (split : talk = said ++ ⟨.consult (.draft asked), reply⟩ :: later) :
    ∃ steps state, Way first said steps state .generation ∧ asked = state.counted := by
  obtain ⟨events, asking, circumstances, onward, before, moved⟩ := dialogue.asked split
  have underway := before.underway rfl
  generalize asking.state = state at underway
  generalize phase : asking.phase = phase at underway
  cases Run.asks_of_move moved with
  | @step _ _ _ onward inside =>
      cases phase.symm.trans inside
      cases underway with
      | between journey => cases journey
      | @inside _ within _ _ _ _ _ _ _ journey below found left =>
          obtain ⟨position, _, way, carried, rfl, -⟩ := way_of_journey carries journey
          cases (Stage.step?_name tag position.stage).symm.trans found
          -- What has been asked is known once the step has come to something.
          have asking := left.ask reply
          obtain ⟨rest, result, after, gives⟩ := Program.exists_gives (onward reply) state
          have counted := (State.data_counted _).trans carried
          obtain ⟨_, yields, -⟩ := Stage.yields counted (asking _ _ _ gives)
          have asks : within ++ [⟨.consult (.draft asked), reply⟩] ++ rest =
              within ++ (⟨.consult (.draft asked), reply⟩ :: rest : Talk) := by
            rw [List.append_assoc]
            rfl
          obtain ⟨rfl, isGenerate, rfl⟩ := yields.asks_draft asks
          have isGeneration : position = .generation := by
            cases position <;> first | rfl | cases isGenerate
          subst isGeneration
          rw [List.append_nil]
          exact ⟨_, _, way, rfl⟩

section

variable {name : String} {requirements : Entries} {bound : Int} {steps steps' : List String}
  {position position' : Position} {other : Talk} {same : String → String → Prop}

/-- The draft on record as reviewed is the one that the reviewer has come to a verdict on last. -/
theorem Way.reviewed (way : Way (initial name requirements bound) talk steps state position) :
    ∃ request, state.data = .payload (.policy request) ∧
      request.validatedDraft = talk.reviewedDraft? ∧ request.validatedDraft ≠ some "" := by
  induction way with
  | start => exact ⟨_, rfl, rfl, nofun⟩
  | @onward talk words _ _ _ position _ way _ takes _ ih =>
      obtain ⟨request, carries, reviewed, written⟩ := ih
      obtain ⟨_, carried, sound⟩ := way.sound
      cases carries.symm.trans carried
      obtain ⟨sameRequest, yields, leaves⟩ := takes
      cases carries.symm.trans sameRequest
      rw [Talk.reviewedDraft?_append]
      by_cases isValidation : position = .validation
      · subst isValidation
        obtain ⟨reply, asked, rfl⟩ := Stage.Yields.judges yields
        rw [Talk.reviewedDraft?, asked]
        cases reply with
        | ok review =>
            cases leaves
            exact ⟨_, rfl, rfl, fun blank => sound.drafted rfl (Option.some.inj blank)⟩
        | error failure =>
            cases leaves
            exact ⟨request, carries, reviewed, written⟩
      · have notValidate := mt Position.validation_of_stage isValidation
        rw [Talk.reviewedDraft?, yields.verdicts_eq notValidate]
        cases leaves with
        | updated updated =>
            have kept := ((yields.frame rfl).2.2 notValidate).2
            exact ⟨updated, rfl, kept.trans reviewed, kept ▸ written⟩
        | recorded => exact ⟨request, carries, reviewed, written⟩

theorem Stage.Takes.calls_draft {words : Talk} {after : State}
    (takes : Stage.generate.Takes state words after) : words.calls .draft = 1 := by
  obtain ⟨-, yields, -⟩ := takes
  cases yields with
  | generate => rfl

theorem Way.length_le_of_calls (blanks : KeepsBlanks same) (blank : same "" "")
    (concord : talk.Concord same other)
    (way : Way (initial name requirements bound) talk steps state .generation)
    (way' : Way (initial name requirements bound) other steps' state' position')
    (calls : other.calls .draft ≤ talk.calls .draft) : steps'.length ≤ steps.length := by
  by_contra longer
  obtain ⟨said, words, rest, _, _, _, rfl, level, -, -, takes, -⟩ :=
    way.overtaken blanks blank concord way' (Nat.lt_of_not_le longer)
  -- The longer way goes on with the draft that the other is about to ask for.
  have written : words.calls .draft = 1 := takes.calls_draft
  rw [Talk.calls_append, Talk.calls_append, written, Talk.calls_eq_of_kinds level] at calls
  omega

/-! ### The ends of runs -/

def Position.Halts (position : Position) (state : State) : Prop :=
  25 ≤ state.iterationCount ∨
    ∃ after, position.stage.Takes state [] after ∧ position.next after = none

theorem Way.length_le_of_halts (blanks : KeepsBlanks same) (blank : same "" "")
    (concord : talk.Concord same other)
    (way : Way (initial name requirements bound) talk steps state position)
    (halts : position.Halts state)
    (way' : Way (initial name requirements bound) other steps' state' position') :
    steps'.length ≤ steps.length := by
  by_contra longer
  obtain ⟨said, words, rest, between, after, next, rfl, level, twins, below, takes, goes⟩ :=
    way.overtaken blanks blank concord way' (Nat.lt_of_not_le longer)
  rcases halts with reached | ⟨final, last, stops⟩
  · obtain ⟨-, -, -, -, counts⟩ := twins
    rw [counts] at reached
    exact absurd below (Int.not_lt.mpr reached)
  · have further : Talk.Concord same (talk ++ []) (said ++ words) := by
      rw [List.append_nil]
      rw [← List.append_nil talk] at concord
      exact concord.left
    -- The longer way takes the last step as well, to a twin of the state that step leads to.
    obtain ⟨-, ends⟩ := last.twins twins level further takes
    have inner : position ≠ .generation := by
      rintro rfl
      exact absurd (Position.refinement_of_next stops (by decide)) (by decide)
    have same := Position.next_twins blanks ends fun isGeneration => absurd isGeneration inner
    rw [stops, goes] at same
    cases same

/-- A run that nobody cancels and that is served with ordinary failures at most has come to the end
of a way when it is over. -/
theorem halts_of_over {tag : Nat} {ceiling : Int} {trace : List Event} {run last : Run}
    {circumstances : Circumstances} {ending : Ending}
    (carries : first.data = .payload (.policy request)) (harmless : Harmless talk)
    (dialogue : (runFrom tag ceiling first).Dialogue talk trace run)
    (admitted : circumstances.admitted = true) (live : circumstances.cancelled = false)
    (isOver : run.move circumstances = .over last ending) :
    ∃ steps state position, Way first talk steps state position ∧ position.Halts state := by
  by_cases below : ∀ step rest, run.phase = .entering step rest →
      run.state.iterationCount < run.ceiling
  · obtain ⟨step, rfl⟩ := Run.Dialogue.completed_of_decided (wellFormed_definition tag)
      (modest_definition tag) (fun _ _ _ => False) (ponders_definition tag) dialogue harmless below
      (fun _ _ _ => id) admitted live isOver
    have ends := ends_of_completes carries (dialogue.completes rfl isOver)
    generalize last.state = final at ends
    generalize stepsIn trace = steps at ends
    cases ends with
    | completion way _ takes =>
        obtain ⟨carried, yields, leaves⟩ := takes
        cases yields with
        | finalize =>
            rw [List.append_nil]
            exact ⟨_, _, _, way, .inr ⟨_, ⟨carried, .finalize, leaves⟩, rfl⟩⟩
    | refinement way _ takes stops =>
        obtain ⟨carried, yields, leaves⟩ := takes
        cases yields with
        | refine =>
            rw [List.append_nil]
            exact ⟨_, _, _, way, .inr ⟨_, ⟨carried, .refine, leaves⟩, stops⟩⟩
  · simp only [not_forall, Int.not_lt] at below
    obtain ⟨step, rest, phase, reached⟩ := below
    have underway := dialogue.underway rfl
    rw [phase] at underway
    obtain ⟨_, way⟩ := position_of_entering carries underway
    have sameCeiling : run.ceiling = 25 := dialogue.passage.ceiling_eq
    exact ⟨_, _, _, way, .inl (sameCeiling ▸ reached)⟩

end

/-! ### The result -/

section

variable {name : String} {requirements : Entries} {bound : Int} {steps steps' : List String}
  {other : Talk} {company : Company} {drafts others : Nat → String}

/-- The prompts for drafts with equally many before show one request, but for the draft that has
been reviewed last. -/
theorem Way.prompts (written : ∀ n, drafts n ≠ "") (written' : ∀ n, others n ≠ "")
    (serves : company.Serves drafts talk) (serves' : company.Serves others other)
    (way : Way (initial name requirements bound) talk steps state .generation)
    (way' : Way (initial name requirements bound) other steps' state' .generation)
    (level : talk.calls .draft = other.calls .draft) :
    ∃ request, ∃ shown : Option Nat, (∀ n ∈ shown, n < talk.calls .draft) ∧
      talk.reviewedDraft? = shown.map drafts ∧ other.reviewedDraft? = shown.map others ∧
      generationPrompt state.counted = promptShowing state.counted request (shown.map drafts) ∧
      generationPrompt state'.counted = promptShowing state.counted request (shown.map others) := by
  have blanks : KeepsBlanks (Paired drafts others (talk.calls .draft)) :=
    keepsBlanks_paired written written'
  have blanks' : KeepsBlanks (Paired others drafts (other.calls .draft)) :=
    keepsBlanks_paired written' written
  have concord := serves.concord serves'
  have length := Nat.le_antisymm
    (way'.length_le_of_calls blanks' .missing (serves'.concord serves) way level.le)
    (way.length_le_of_calls blanks .missing concord way' level.ge)
  obtain ⟨-, -, carries, carried, requests, messages, -⟩ :=
    way.lockstep blanks .missing concord way' length
  obtain ⟨_, same, reviewed, nonblank⟩ := way.reviewed
  obtain ⟨_, same', reviewed', -⟩ := way'.reviewed
  cases carries.symm.trans same
  cases carried.symm.trans same'
  have prompt := prompt_eq_promptShowing ((State.data_counted _).trans carries)
  have prompt' : generationPrompt state'.counted = promptShowing state.counted _ _ :=
    twin_eq_promptShowing carried requests messages
  obtain ⟨-, pairs⟩ := requests
  obtain ⟨shown, earlier, shows, shows'⟩ := Paired.shown pairs nonblank
  rw [shows] at reviewed prompt
  rw [shows'] at reviewed' prompt'
  exact ⟨_, shown, earlier, reviewed.symm, reviewed'.symm, prompt, prompt'⟩

end

/-- Of two runs on one request that are given the same facts and the same verdicts, the writers are
called equally often, and prompted alike but for the draft that has been reviewed last: each prompt
shows what its own writer gave for that. So the prompts are the same only where these drafts are. -/
theorem prompts_differ_by_reviewed_draft {tag : Nat} {graph : Definition}
    (isGraph : PolicyGeneration.graph tag = .ok graph)
    {service requirements maxRefinements : Value} {first : State}
    (accepted : initialFrom service requirements maxRefinements = .ok first) {ceiling : Int}
    {company : Company} {drafts others : Nat → String} (written : ∀ n, drafts n ≠ "")
    (written' : ∀ n, others n ≠ "") {talk other : Talk} {trace trace' : List Event} {run run' : Run}
    (dialogue : (Run.create graph ceiling first).Dialogue talk trace run)
    (dialogue' : (Run.create graph ceiling first).Dialogue other trace' run')
    (serves : company.Serves drafts talk) (serves' : company.Serves others other) :
    (∀ (said later words rest : Talk) asked asked' reply reply',
      talk = said ++ ⟨.consult (.draft asked), reply⟩ :: later →
      other = words ++ ⟨.consult (.draft asked'), reply'⟩ :: rest →
      said.calls .draft = words.calls .draft →
        ∃ state request, ∃ shown : Option Nat, (∀ n ∈ shown, n < said.calls .draft) ∧
          said.reviewedDraft? = shown.map drafts ∧ words.reviewedDraft? = shown.map others ∧
          generationPrompt asked = promptShowing state request (shown.map drafts) ∧
          generationPrompt asked' = promptShowing state request (shown.map others) ∧
          (generationPrompt asked = generationPrompt asked' ↔
            shown.map drafts = shown.map others)) ∧
    (∀ circumstances circumstances' last last' ending ending',
      run.move circumstances = .over last ending → run'.move circumstances' = .over last' ending' →
      circumstances.admitted = true → circumstances'.admitted = true →
      circumstances.cancelled = false → circumstances'.cancelled = false →
      Harmless talk → Harmless other → talk.calls .draft = other.calls .draft) := by
  cases (graph_eq tag).symm.trans isGraph
  obtain ⟨name, entries, bound, -, -, -, rfl⟩ := initial_of_initialFrom accepted
  constructor
  · intro said later words rest asked asked' reply reply' split split' level
    obtain ⟨_, state, way, rfl⟩ := way_of_draft rfl dialogue split
    obtain ⟨_, state', way', rfl⟩ := way_of_draft rfl dialogue' split'
    subst split split'
    obtain ⟨request, shown, earlier, reviewed, reviewed', prompt, prompt'⟩ :=
      Way.prompts written written' serves.left serves'.left way way' level
    refine ⟨_, request, shown, earlier, reviewed, reviewed', prompt, prompt', ?_⟩
    rw [prompt, prompt']
    exact (promptShowing_injective _ request).eq_iff
  · intro circumstances circumstances' last last' ending ending' isOver isOver' admitted admitted'
      live live' harmless harmless'
    obtain ⟨_, _, _, way, halts⟩ := halts_of_over rfl harmless dialogue admitted live isOver
    obtain ⟨_, _, _, way', halts'⟩ := halts_of_over rfl harmless' dialogue' admitted' live' isOver'
    have concord := serves.concord serves'
    have blanks : KeepsBlanks (Paired drafts others (talk.calls .draft)) :=
      keepsBlanks_paired written written'
    have blanks' : KeepsBlanks (Paired others drafts (other.calls .draft)) :=
      keepsBlanks_paired written' written
    have length := Nat.le_antisymm
      (way'.length_le_of_halts blanks' .missing (serves'.concord serves) halts' way)
      (way.length_le_of_halts blanks .missing concord halts way')
    obtain ⟨-, level, -⟩ := way.lockstep blanks .missing concord way' length
    exact Talk.calls_eq_of_kinds level .draft

def rejected (drafting : DraftService) : Solo where
  run := .create (definition 0) defaultCeiling (initial "docs" [] 1)
  admitted := true
  services :=
    { knowledge := .scripted []
      drafting
      reviewing := .scripted ⟨[.ok { passed := false }]⟩ }

def insisting (text : String) : Solo :=
  rejected (.scripted ⟨[.ok text]⟩)

theorem answer_insisting (text : String) (inquiry : Inquiry) :
    ((insisting text).services.answer inquiry).2 = (insisting text).services := by
  cases inquiry <;> rfl

theorem serves_insisting {text : String} (answers : (insisting text).services.Answer talk) :
    Company.Serves ⟨fun _ _ _ => .ok [], fun _ => .ok { passed := false }⟩ (fun _ => text)
      talk where
  facts split := answers _ _ (split ▸ List.mem_append_right _ List.mem_cons_self)
  drafts split := answers _ _ (split ▸ List.mem_append_right _ List.mem_cons_self)
  reviews split := answers _ _ (split ▸ List.mem_append_right _ List.mem_cons_self)

theorem harmless_insisting {text : String} (answers : (insisting text).services.Answer talk) :
    Harmless talk := by
  intro inquiry failure member
  have answered := answers _ _ member
  cases inquiry <;> cases answered

theorem completes_insisting (text : String)
    (ending : ((insisting text).finish 80).2 = some (.completed "finalize_policy")) :
    ∃ talk trace run circumstances last,
      (insisting text).run.Dialogue talk trace run ∧ (insisting text).services.Answer talk ∧
      run.move circumstances = .over last (.completed "finalize_policy") ∧
      circumstances.admitted = true ∧ circumstances.cancelled = false := by
  obtain ⟨_, solo, comes, isOver⟩ := Solo.comes_of_finish (Prod.ext rfl ending)
  obtain ⟨talk, trace, dialogue, -, admitted, answers⟩ := comes.dialogue
  obtain ⟨-, answers⟩ := answers (answer_insisting text)
  obtain ⟨-, -, token⟩ := comes.keeps rfl
  have live : solo.cancelled = false := by rw [Solo.cancelled, token]; rfl
  exact ⟨talk, trace, _, _, _, dialogue, answers, (Solo.over_of_advance isOver).1, admitted, live⟩

theorem prompts_differ_by_reviewed_draft_insisting :
    ∃ talk other trace trace' run run' circumstances circumstances' last last',
      (insisting "one").run.Dialogue talk trace run ∧
      (insisting "two").run.Dialogue other trace' run' ∧
      run.move circumstances = .over last (.completed "finalize_policy") ∧
      run'.move circumstances' = .over last' (.completed "finalize_policy") ∧
      talk.calls .draft = other.calls .draft ∧
      ∀ (said later words rest : Talk) asked asked' reply reply',
        talk = said ++ ⟨.consult (.draft asked), reply⟩ :: later →
        other = words ++ ⟨.consult (.draft asked'), reply'⟩ :: rest →
        said.calls .draft = words.calls .draft →
          (generationPrompt asked = generationPrompt asked' ↔ said.reviewedDraft? = none) := by
  obtain ⟨talk, trace, run, circumstances, last, dialogue, answers, isOver, admitted, live⟩ :=
    completes_insisting "one" rfl
  obtain ⟨other, trace', run', circumstances', last', dialogue', answers', isOver', admitted',
    live'⟩ := completes_insisting "two" rfl
  have accepted : initialFrom (.text "docs") .null (.int 1) = .ok (initial "docs" [] 1) := rfl
  obtain ⟨prompts, ends⟩ := prompts_differ_by_reviewed_draft (graph_eq 0) accepted
    (fun _ => by decide) (fun _ => by decide) dialogue dialogue' (serves_insisting answers)
    (serves_insisting answers')
  refine ⟨talk, other, trace, trace', run, run', circumstances, circumstances', last, last',
    dialogue, dialogue', isOver, isOver', ?_, ?_⟩
  · exact ends _ _ _ _ _ _ isOver isOver' admitted admitted' live live' (harmless_insisting answers)
      (harmless_insisting answers')
  · intro said later words rest asked asked' reply reply' split split' level
    obtain ⟨_, _, shown, -, reviewed, -, -, -, same⟩ :=
      prompts said later words rest asked asked' reply reply' split split' level
    rw [same, reviewed]
    cases shown with
    | none => exact iff_of_true rfl rfl
    | some =>
        have distinct : "one" ≠ "two" := by decide
        exact iff_of_false (fun same => distinct (Option.some.inj same)) nofun

/-- Models that differ in what they answer are prompted differently, on the same request and by the
same reviewer. -/
theorem prompts_show_reviewed_draft :
    ∃ solo other : Solo,
      initialFrom (.text "docs") .null (.int 1) = .ok (initial "docs" [] 1) ∧
      (rejected (.agent ⟨.ok (.text "one")⟩)).finish 80 =
        (solo, some (.completed "finalize_policy")) ∧
      (rejected (.agent ⟨.ok (.text "two")⟩)).finish 80 =
        (other, some (.completed "finalize_policy")) ∧
      solo.services.prompts ≠ other.services.prompts := by
  let request : PolicyRequest :=
    { service := "docs", validation := some { passed := false }, confidenceScore := clampScore 0.5
      refinementCount := 1, maxRefinements := 1 }
  have first : ((rejected (.agent ⟨.ok (.text "one")⟩)).finish 80).1.services.prompts[1]? =
      some (promptShowing {} { request with policyDraft := "one" } (some "one")) := rfl
  have second : ((rejected (.agent ⟨.ok (.text "two")⟩)).finish 80).1.services.prompts[1]? =
      some (promptShowing {} { request with policyDraft := "two" } (some "two")) := rfl
  refine ⟨((rejected (.agent ⟨.ok (.text "one")⟩)).finish 80).1,
    ((rejected (.agent ⟨.ok (.text "two")⟩)).finish 80).1, rfl, Prod.ext rfl rfl, Prod.ext rfl rfl,
    fun same => ?_⟩
  have shown := (first.symm.trans (congrArg (·[1]?) same)).trans second
  rw [promptShowing_redrafted, promptShowing_redrafted] at shown
  have drafts := promptShowing_injective _ _ (Option.some.inj shown)
  exact absurd drafts (by decide)

end PolicyGeneration

end StepGraph
