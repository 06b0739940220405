import Mathlib.Data.Set.Card
import StepGraph.Proofs.Order
import StepGraph.Service.Knowledge

namespace StepGraph

/-! ### Words -/

namespace Text

def IsWord (separates : Char → Bool) (text word : List Char) : Prop :=
  word ≠ [] ∧ (∀ c ∈ word, separates c = false) ∧
    ∃ before after, text = before ++ word ++ after ∧
      (∀ c ∈ before.getLast?, separates c = true) ∧ ∀ c ∈ after.head?, separates c = true

section

variable {separates : Char → Bool} {text word : List Char}

theorem isWord_of_solid (solid : ∀ c ∈ text, separates c = false) :
    IsWord separates text word ↔ text ≠ [] ∧ word = text := by
  constructor
  · rintro ⟨notEmpty, -, before, after, rfl, left, right⟩
    have before_eq : before = [] := by
      rcases before.eq_nil_or_concat with rfl | ⟨_, c, rfl⟩
      · rfl
      · have free := solid c (by simp)
        rw [left c (by simp)] at free
        cases free
    have after_eq : after = [] := by
      cases after with
      | nil => rfl
      | cons c _ =>
          have free := solid c (by simp)
          rw [right c rfl] at free
          cases free
    subst before_eq after_eq
    simpa using notEmpty
  · rintro ⟨notEmpty, rfl⟩
    exact ⟨notEmpty, solid, [], [], by simp, nofun, nofun⟩

section

variable {c : Char} {first rest : List Char}

theorem IsWord.append_cons (cuts : separates c = true) (isWord : IsWord separates first word) :
    IsWord separates (first ++ c :: rest) word := by
  obtain ⟨notEmpty, solid, before, after, rfl, left, right⟩ := isWord
  refine ⟨notEmpty, solid, before, after ++ c :: rest, List.append_assoc .., left,
    fun d next => ?_⟩
  cases after with
  | nil => exact Option.mem_some.mp next ▸ cuts
  | cons => exact right d next

theorem IsWord.cons_append (cuts : separates c = true) (isWord : IsWord separates rest word) :
    IsWord separates (first ++ c :: rest) word := by
  obtain ⟨notEmpty, solid, before, after, rfl, left, right⟩ := isWord
  refine ⟨notEmpty, solid, first ++ c :: before, after, by simp, fun d last => ?_, right⟩
  rcases before.eq_nil_or_concat with rfl | ⟨_, e, rfl⟩
  · have same : c = d := by simpa using last
    exact same ▸ cuts
  · refine left d ?_
    simpa [List.getLast?_append, List.getLast?_cons] using last

/-- A separator cuts the words of a text into those before it and those after it. -/
theorem isWord_append_cons_iff (cuts : separates c = true) :
    IsWord separates (first ++ c :: rest) word ↔
      IsWord separates first word ∨ IsWord separates rest word := by
  refine ⟨?_, fun either => either.elim (.append_cons cuts) (.cons_append cuts)⟩
  rintro ⟨notEmpty, solid, before, after, same, left, right⟩
  have fresh : c ∉ word := fun member => by
    have free := solid c member
    rw [cuts] at free
    cases free
  rw [List.append_assoc] at same
  -- The word begins before the separator and ends before it, or it begins after it.
  rcases List.append_eq_append_iff.mp same.symm with ⟨more, rfl, later⟩ | ⟨more, rfl, later⟩
  · rcases List.append_eq_append_iff.mp later with ⟨more, rfl, rfl⟩ | ⟨more, rfl, split⟩
    · refine .inl ⟨notEmpty, solid, before, more, (List.append_assoc ..).symm, left,
        fun d next => ?_⟩
      exact right d (by simp [Option.mem_def.mp next])
    · rcases List.cons_eq_append_iff.mp split with ⟨rfl, rfl⟩ | ⟨_, rfl, -⟩
      · exact .inl ⟨notEmpty, solid, before, [], by simp, left, nofun⟩
      · exact absurd (by simp) fresh
  · rcases List.cons_eq_append_iff.mp later with ⟨-, begins⟩ | ⟨more, rfl, rfl⟩
    · cases word with
      | nil => contradiction
      | cons d _ => exact absurd ((List.cons.inj begins).1 ▸ List.mem_cons_self) fresh
    · refine .inr ⟨notEmpty, solid, more, after, (List.append_assoc ..).symm, fun d last => ?_,
        right⟩
      exact left d (by simp [List.getLast?_append, List.getLast?_cons, Option.mem_def.mp last])

end

/-- What is read off a text are its words; a run that has begun counts as part of the text. -/
theorem mem_wordsFrom_iff {current : List Char} (solid : ∀ c ∈ current, separates c = false) :
    word ∈ wordsFrom separates current text ↔
      IsWord separates (current.reverse ++ text) word := by
  induction text generalizing current with
  | nil =>
      rw [List.append_nil, isWord_of_solid (by simpa using solid)]
      cases current <;> simp [wordsFrom]
  | cons c rest ih =>
      cases cuts : separates c with
      | false =>
          have solid : ∀ d ∈ c :: current, separates d = false := by simpa using ⟨cuts, solid⟩
          rw [wordsFrom, if_neg (by simp [cuts]), ih solid, List.reverse_cons, List.append_assoc]
          rfl
      | true =>
          have none : ∀ d ∈ [], separates d = false := List.forall_mem_nil _
          rw [isWord_append_cons_iff cuts, isWord_of_solid (by simpa using solid),
            ← List.nil_append rest, ← List.reverse_nil, ← ih none]
          cases current <;> simp [wordsFrom, cuts]

end

end Text

/-! ### Questions -/

/-- A text stands in a value, at any depth. The keys of a record are no texts of it. -/
inductive Value.Contains : Value → String → Prop
  | text (s : String) : Contains (.text s) s
  | item {items : List Value} {item : Value} {s : String} (member : item ∈ items)
      (inside : Contains item s) : Contains (.list items) s
  | entry {entries : Entries} {key : String} {value : Value} {s : String}
      (member : (key, value) ∈ entries) (inside : Contains value s) : Contains (.record entries) s

def separates (c : Char) : Bool :=
  c = ',' || Text.isBlank c

/-- The words of a question, in small letters: those of all texts in it, and one that every question
has. -/
def Entries.words (params : Entries) : Set String :=
  {term | term = generalTerm ∨ ∃ s word, (Value.record params).Contains s ∧
    Text.IsWord separates s.toList word ∧ term = String.ofList (Text.lower word)}

theorem mem_textTerms_iff {s term : String} :
    term ∈ textTerms s ↔
      ∃ word, Text.IsWord separates s.toList word ∧ term = String.ofList (Text.lower word) := by
  have read {word : List Char} : word ∈ Text.wordsFrom separates [] s.toList ↔
      Text.IsWord separates s.toList word := Text.mem_wordsFrom_iff nofun
  simp only [textTerms, List.mem_map, ← read, eq_comm]
  rfl

mutual

theorem Value.mem_terms_iff {term : String} : (value : Value) →
    (term ∈ value.terms ↔ ∃ s, value.Contains s ∧ term ∈ textTerms s)
  | .text s => by
      constructor
      · exact fun member => ⟨s, .text s, member⟩
      · rintro ⟨_, ⟨⟩, member⟩
        exact member
  | .list items => by
      rw [Value.terms, mem_itemTerms_iff items]
      constructor
      · rintro ⟨item, member, s, inside, found⟩
        exact ⟨s, .item member inside, found⟩
      · rintro ⟨s, ⟨⟩ | ⟨member, inside⟩, found⟩
        exact ⟨_, member, s, inside, found⟩
  | .record entries => by
      rw [Value.terms, mem_entryTerms_iff entries]
      constructor
      · rintro ⟨_, value, member, s, inside, found⟩
        exact ⟨s, .entry member inside, found⟩
      · rintro ⟨s, ⟨⟩ | ⟨_, _⟩ | ⟨member, inside⟩, found⟩
        exact ⟨_, _, member, s, inside, found⟩
  | .null | .bool _ | .int _ | .float _ => by
      refine iff_of_false List.not_mem_nil ?_
      rintro ⟨_, ⟨⟩, _⟩

theorem mem_itemTerms_iff {term : String} : (items : List Value) →
    (term ∈ itemTerms items ↔ ∃ item ∈ items, ∃ s, item.Contains s ∧ term ∈ textTerms s)
  | [] => by simp [itemTerms]
  | item :: rest => by
      rw [itemTerms, List.mem_append, Value.mem_terms_iff item, mem_itemTerms_iff rest,
        List.exists_mem_cons_iff]

theorem mem_entryTerms_iff {term : String} : (entries : List (String × Value)) →
    (term ∈ entryTerms entries ↔
      ∃ key value, (key, value) ∈ entries ∧ ∃ s, value.Contains s ∧ term ∈ textTerms s)
  | [] => by simp [entryTerms]
  | (name, value) :: rest => by
      rw [entryTerms, List.mem_append, Value.mem_terms_iff value, mem_entryTerms_iff rest]
      constructor
      · rintro (found | ⟨key, value, member, found⟩)
        · exact ⟨name, value, List.mem_cons_self, found⟩
        · exact ⟨key, value, List.mem_cons_of_mem _ member, found⟩
      · rintro ⟨key, value, member, found⟩
        rcases List.mem_cons.mp member with same | member
        · cases same
          exact .inl found
        · exact .inr ⟨key, value, member, found⟩

end

theorem mem_words_iff {params : Entries} {term : String} :
    term ∈ (Value.record params).terms ++ [generalTerm] ↔ term ∈ params.words := by
  rw [List.mem_append, Value.mem_terms_iff, List.mem_singleton, or_comm]
  simp only [mem_textTerms_iff, Entries.words, Set.mem_ofPred_eq, exists_and_left]

/-! ### Scores -/

noncomputable def Fact.points (words : Set String) (fact : Fact) : Nat :=
  ({tag | ∃ given ∈ fact.tags, given.lowered = tag} ∩ words).ncard

theorem Fact.score_eq {terms : List String} {words : Set String}
    (same : ∀ term, term ∈ terms ↔ term ∈ words) (fact : Fact) :
    fact.score terms = fact.points words := by
  have distinct := (nodup_eraseDups (fact.tags.map String.lowered)).filter terms.contains
  have counted : {tag | ∃ given ∈ fact.tags, given.lowered = tag} ∩ words =
      (((fact.tags.map String.lowered).eraseDups.filter terms.contains).toFinset : Set String) := by
    ext tag
    simp [same]
  rw [points, counted, Set.ncard_coe_finset, List.toFinset_card_of_nodup distinct, score]

/-! ### Answers -/

/-- The facts of a category that score, best first, each with its position among all facts. Of facts
with as many points the one at the earlier position comes first. -/
structure Ranking (words : Set String) (facts : List Fact) (category : String)
    (standing : List (Fact × Nat)) : Prop where
  complete : ∀ fact position, (fact, position) ∈ standing ↔
    facts[position]? = some fact ∧ fact.category = category ∧ 0 < fact.points words
  ordered : standing.Pairwise fun first second =>
    second.1.points words < first.1.points words ∨
      first.1.points words = second.1.points words ∧ first.2 < second.2

def Leads (words : Set String) (facts : List Fact) (first second : String) : Prop :=
  ∀ before fact after, facts = before ++ fact :: after → fact.category = second →
    0 < fact.points words → ∃ earlier ∈ before, earlier.category = first ∧ 0 < earlier.points words

/-- The answer to a question: the best facts of each category, the categories in the order of their
first facts that score. -/
structure Due (words : Set String) (limit : Nat) (facts : List Fact) (answer : Facts) : Prop where
  distinct : (answer.map (·.1)).Nodup
  categories : ∀ category, category ∈ answer.map (·.1) ↔
    ∃ fact ∈ facts, fact.category = category ∧ 0 < fact.points words
  ordered : (answer.map (·.1)).Pairwise (Leads words facts)
  texts : ∀ category texts, (category, texts) ∈ answer →
    ∃ standing, Ranking words facts category standing ∧
      texts = (standing.take limit).map (·.1.text)

section

variable {words : Set String} {limit : Nat} {facts : List Fact} {category : String}
  {standing others : List (Fact × Nat)} {answer other : Facts}

theorem Ranking.nodup (ranking : Ranking words facts category standing) : standing.Nodup :=
  ranking.ordered.imp fun ordered same => by
    subst same
    omega

theorem Ranking.unique (ranking : Ranking words facts category standing)
    (another : Ranking words facts category others) : standing = others := by
  have perm : standing.Perm others :=
    (List.perm_ext_iff_of_nodup ranking.nodup another.nodup).mpr fun item =>
      (ranking.complete item.1 item.2).trans (another.complete item.1 item.2).symm
  refine perm.eq_of_pairwise (fun first second _ _ below above => ?_) ranking.ordered
    another.ordered
  omega

theorem Leads.not_both {first second : String} (leads : Leads words facts first second)
    (follows : Leads words facts second first) {before after : List Fact} {fact : Fact}
    (split : facts = before ++ fact :: after) (isFirst : fact.category = first)
    (scores : 0 < fact.points words) : False := by
  obtain ⟨earlier, member, isSecond, scores⟩ := follows before fact after split isFirst scores
  obtain ⟨front, back, inner⟩ := List.append_of_mem member
  have split : facts = front ++ earlier :: (back ++ fact :: after) := by
    rw [split, inner, List.append_assoc, List.cons_append]
  exact follows.not_both leads split isSecond scores
termination_by before.length
decreasing_by simp [inner]

theorem Due.keys_unique (due : Due words limit facts answer)
    (another : Due words limit facts other) : answer.map (·.1) = other.map (·.1) := by
  have perm : (answer.map (·.1)).Perm (other.map (·.1)) :=
    (List.perm_ext_iff_of_nodup due.distinct another.distinct).mpr fun category =>
      (due.categories category).trans (another.categories category).symm
  refine perm.eq_of_pairwise (fun first second here _ leads follows => ?_) due.ordered
    another.ordered
  obtain ⟨fact, member, isFirst, scores⟩ := (due.categories first).mp here
  obtain ⟨before, after, split⟩ := List.append_of_mem member
  exact (leads.not_both follows split isFirst scores).elim

theorem Due.unique (due : Due words limit facts answer) (another : Due words limit facts other) :
    answer = other := by
  have sameKeys := due.keys_unique another
  have sameLength : answer.length = other.length := by
    simpa using congrArg List.length sameKeys
  refine List.ext_getElem sameLength fun i here there => ?_
  have sameKey : (answer[i]).1 = (other[i]).1 := by
    have same := congrArg (fun keys => keys[i]?) sameKeys
    simpa [here, there] using same
  obtain ⟨standing, ranking, texts⟩ := due.texts answer[i].1 answer[i].2 (List.getElem_mem here)
  obtain ⟨others, another, texts'⟩ := another.texts other[i].1 other[i].2 (List.getElem_mem there)
  rw [← sameKey] at another
  exact Prod.ext sameKey (by rw [texts, texts', ranking.unique another])

end

theorem pairwise_zipIdx {α : Type} (items : List α) :
    items.zipIdx.Pairwise fun first second => first.2 < second.2 := by
  have positions : (items.zipIdx.map Prod.snd).Pairwise (· < ·) := by
    rw [List.zipIdx_map_snd]
    exact List.pairwise_lt_range'
  exact List.pairwise_map.mp positions

namespace KnowledgeBase

theorem exists_ranking {terms : List String} {words : Set String}
    (same : ∀ term, term ∈ terms ↔ term ∈ words) (facts : List Fact) (category : String) :
    ∃ standing, Ranking words facts category standing ∧
      ranked terms ((facts.filter fun fact => 0 < fact.score terms).filter
        (·.category == category)) = standing.map (·.1) := by
  let fits (fact : Fact) : Bool := 0 < fact.score terms && fact.category == category
  let standing := (facts.zipIdx.filter fun item => fits item.1).mergeSort
    fun first second => decide (second.1.score terms ≤ first.1.score terms)
  refine ⟨standing, ⟨fun fact position => ?_, ?_⟩, ?_⟩
  · have listed : (fact, position) ∈ standing ↔
        (fact, position) ∈ facts.zipIdx.filter fun item => fits item.1 :=
      (List.mergeSort_perm _ _).mem_iff
    rw [listed, List.mem_filter, List.mem_zipIdx_iff_getElem?]
    simp [fits, Fact.score_eq same, and_comm]
  · refine (pairwise_ranked (·.score terms)
      ((pairwise_zipIdx facts).filter fun item => fits item.1)).imp fun {first second} => ?_
    rw [Fact.score_eq same, Fact.score_eq same]
    exact id
  · have unranked : (facts.filter fun fact => 0 < fact.score terms).filter
        (·.category == category) = (facts.zipIdx.filter fun item => fits item.1).map Prod.fst := by
      have split : (fun item : Fact × Nat => fits item.1) = fits ∘ Prod.fst := rfl
      rw [split, ← List.filter_map, List.zipIdx_map_fst, List.filter_filter]
      simp only [fits, Bool.and_comm]
    rw [unranked, ranked]
    symm
    exact List.map_mergeSort fun _ _ _ _ => rfl

theorem keys_lookup (base : KnowledgeBase) (domain : String) (params : Value) :
    (base.lookup domain params).map (·.1) =
      (((base.factsOf domain).filter fun fact =>
        0 < fact.score (params.terms ++ [generalTerm])).map (·.category)).eraseDups := by
  simp only [lookup, List.map_map, Function.comp_def, List.map_id']

theorem lookup_due (base : KnowledgeBase) (domain : String) (params : Entries)
    (nonneg : 0 ≤ base.limit) :
    Due params.words base.limit.toNat (base.factsOf domain)
      (base.lookup domain (.record params)) := by
  have same : ∀ term, term ∈ (Value.record params).terms ++ [generalTerm] ↔ term ∈ params.words :=
    fun term => mem_words_iff
  refine ⟨?_, fun category => ?_, ?_, fun category texts member => ?_⟩
  · rw [keys_lookup]
    exact nodup_eraseDups _
  · rw [keys_lookup, List.mem_eraseDups]
    simp [Fact.score_eq same, and_comm, and_assoc]
  · rw [keys_lookup]
    refine (pairwise_eraseDups _).imp fun {first second} earlier before fact after split isSecond
      scores => ?_
    rw [← Fact.score_eq same] at scores
    have found := earlier _ _ (by
      rw [split, List.filter_append, List.filter_cons, if_pos (decide_eq_true scores),
        List.map_append, List.map_cons, isSecond])
    obtain ⟨other, member, isFirst⟩ := List.mem_map.mp found
    obtain ⟨stands, scores⟩ := List.mem_filter.mp member
    rw [decide_eq_true_eq, Fact.score_eq same] at scores
    exact ⟨other, stands, isFirst, scores⟩
  · obtain ⟨_, -, found⟩ := List.mem_map.mp member
    cases found
    obtain ⟨standing, ranking, same⟩ := exists_ranking same (base.factsOf domain) category
    refine ⟨standing, ranking, ?_⟩
    rw [same, takeLimit, if_pos nonneg, ← List.map_take, List.map_map]
    rfl

theorem lookup_unknown {base : KnowledgeBase} {domain : String} (unknown : base.factsOf domain = [])
    (params : Value) : base.lookup domain params = [] := by
  simp [lookup, unknown]

/-! ### Additions -/

theorem factsOf_addFact (base : KnowledgeBase) (domain other : String) (fact : Fact) :
    (base.addFact domain fact).factsOf other =
      base.factsOf other ++ if domain = other then [fact] else [] := by
  obtain ⟨domains, limit⟩ := base
  simp only [addFact, factsOf]
  induction domains with
  | nil =>
      by_cases same : domain = other
      · simp [addFact.updateDomain, same]
      · simp [addFact.updateDomain, same, List.lookup_cons, beq_false_of_ne (Ne.symm same)]
  | cons entry rest ih =>
      obtain ⟨name, facts⟩ := entry
      by_cases named : name = domain
      · by_cases same : domain = other
        · simp [addFact.updateDomain, named, same]
        · simp [addFact.updateDomain, named, same, List.lookup_cons, beq_false_of_ne (Ne.symm same)]
      · by_cases asked : other = name
        · simp [addFact.updateDomain, named, asked, Ne.symm named]
        · simpa [addFact.updateDomain, named, List.lookup_cons, beq_false_of_ne asked] using ih

def addFacts (base : KnowledgeBase) (additions : List (String × Fact)) : KnowledgeBase :=
  additions.foldl (fun base addition => base.addFact addition.1 addition.2) base

theorem limit_addFacts (base : KnowledgeBase) (additions : List (String × Fact)) :
    (base.addFacts additions).limit = base.limit := by
  induction additions generalizing base with
  | nil => rfl
  | cons addition rest ih => exact ih _

theorem factsOf_addFacts (base : KnowledgeBase) (additions : List (String × Fact))
    (domain : String) :
    (base.addFacts additions).factsOf domain =
      base.factsOf domain ++ (additions.filter (·.1 == domain)).map (·.2) := by
  induction additions generalizing base with
  | nil => simp [addFacts]
  | cons addition rest ih =>
      have onward : (base.addFacts (addition :: rest)).factsOf domain =
          ((base.addFact addition.1 addition.2).addFacts rest).factsOf domain := rfl
      rw [onward, ih, factsOf_addFact]
      by_cases same : addition.1 = domain <;> simp [same]

/-! ### The result -/

/-- After any additions a question is answered with just what is due to its words among the facts of
the domain. Questions with the same words have the same answer, and for a domain without facts there
is none. -/
theorem lookup_after_additions (base : KnowledgeBase) (additions : List (String × Fact))
    (domain : String) (params : Entries) (nonneg : 0 ≤ base.limit) :
    let store := base.addFacts additions
    Due params.words base.limit.toNat
        (base.factsOf domain ++ (additions.filter (·.1 == domain)).map (·.2))
        (store.lookup domain (.record params)) ∧
      (∀ others : Entries, others.words = params.words →
        store.lookup domain (.record others) = store.lookup domain (.record params)) ∧
      ((∀ entry ∈ base.domains, entry.1 ≠ domain) → (∀ addition ∈ additions, addition.1 ≠ domain) →
        store.lookup domain (.record params) = []) := by
  intro store
  have due (params : Entries) : Due params.words base.limit.toNat (store.factsOf domain)
      (store.lookup domain (.record params)) := by
    have sameLimit : store.limit = base.limit := limit_addFacts base additions
    have nonneg : 0 ≤ store.limit := sameLimit ▸ nonneg
    exact sameLimit ▸ lookup_due store domain params nonneg
  have facts_eq : store.factsOf domain =
      base.factsOf domain ++ (additions.filter (·.1 == domain)).map (·.2) :=
    factsOf_addFacts base additions domain
  refine ⟨facts_eq ▸ due params, fun others same => (same ▸ due others).unique (due params),
    fun unknown unadded => lookup_unknown ?_ _⟩
  have absent : base.domains.lookup domain = none :=
    List.lookup_eq_none_iff.mpr fun entry member => bne_iff_ne.mpr (unknown entry member).symm
  have none : additions.filter (·.1 == domain) = [] :=
    List.filter_eq_nil_iff.mpr fun addition member => by simpa using unadded addition member
  rw [facts_eq, none, factsOf, absent]
  rfl

theorem lookup_after_additions_standard :
    0 ≤ standard.limit ∧
      Due (Entries.words [("service", .list [.text "Hosts, iam"])]) 3
        (standard.factsOf "threat" ++ [⟨"Lateral movement", "similar_threats", ["IAM", "Hosts"]⟩])
        ((standard.addFacts [("threat",
          ⟨"Lateral movement", "similar_threats", ["IAM", "Hosts"]⟩)]).lookup "threat"
            (.record [("service", .list [.text "Hosts, iam"])])) ∧
      standard.lookup "weather" (.record []) = [] := by
  have nonneg : 0 ≤ standard.limit := by decide
  obtain ⟨due, -⟩ := lookup_after_additions standard
    [("threat", ⟨"Lateral movement", "similar_threats", ["IAM", "Hosts"]⟩)] "threat"
    [("service", .list [.text "Hosts, iam"])] nonneg
  obtain ⟨-, -, unknown⟩ := lookup_after_additions standard [] "weather" [] nonneg
  exact ⟨nonneg, due, unknown (by decide) nofun⟩

end KnowledgeBase

end StepGraph
