import StepGraph.Proofs.Json.Token

/-! Documents without doubles are read back as the plain data they were written from, in either
format. Writing a value ends where something stands that no number goes on with, so its text can be
read with anything of that kind behind it; lists and records are read item by item. -/

namespace StepGraph

/-- Plain data that documents carry exactly: no doubles, whole numbers that are not too long to be
read, and records that name every entry once. -/
inductive Value.Exact : Value → Prop
  | null : Exact .null
  | bool (b : Bool) : Exact (.bool b)
  | int {n : Int} (short : (Nat.toDigits 10 n.natAbs).length ≤ Numeral.maxDigits) : Exact (.int n)
  | text (s : String) : Exact (.text s)
  | list {items : List Value} (exact : ∀ item ∈ items, Exact item) : Exact (.list items)
  | record {entries : Entries} (distinct : entries.keys.Nodup)
      (exact : ∀ entry ∈ entries, Exact entry.2) : Exact (.record entries)

namespace Value.Exact

attribute [simp] null bool text

@[simp] theorem int_iff {n : Int} :
    Exact (.int n) ↔ (Nat.toDigits 10 n.natAbs).length ≤ Numeral.maxDigits :=
  ⟨fun | .int short => short, .int⟩

@[simp] theorem list_iff {items : List Value} :
    Exact (.list items) ↔ ∀ item ∈ items, Exact item :=
  ⟨fun | .list exact => exact, .list⟩

@[simp] theorem record_iff {entries : Entries} :
    Exact (.record entries) ↔ entries.keys.Nodup ∧ ∀ entry ∈ entries, Exact entry.2 :=
  ⟨fun | .record distinct exact => ⟨distinct, exact⟩,
    fun ⟨distinct, exact⟩ => .record distinct exact⟩

end Value.Exact

theorem Entries.set_of_notMem {key : String} (value : Value) {entries : Entries}
    (fresh : key ∉ entries.keys) : entries.set key value = entries ++ [(key, value)] := by
  induction entries with
  | nil => rfl
  | cons entry rest ih =>
      obtain ⟨other, held⟩ := entry
      simp only [keys, List.map_cons, List.mem_cons, not_or] at fresh ih
      rw [set, if_neg (Ne.symm fresh.1), ih fresh.2, List.cons_append]

theorem Entries.notMem_keys_of_nodup {first rest : Entries} {key : String} {value : Value}
    (distinct : (first ++ (key, value) :: rest).keys.Nodup) : key ∉ first.keys := by
  intro mem
  rw [keys, List.map_append, List.map_cons, List.nodup_append] at distinct
  exact distinct.2.2 key mem key List.mem_cons_self rfl

namespace Json

theorem skipSpace_lineBreak (depth : Nat) (rest : List Char) :
    skipSpace (lineBreak depth ++ rest) = skipSpace rest := by
  have blanks : ∀ c ∈ lineBreak depth, isSpace c = true := by
    intro c mem
    obtain rfl | mem := List.mem_cons.mp mem
    · rfl
    · rw [List.eq_of_mem_replicate mem]
      rfl
  exact List.dropWhile_append_of_pos blanks

theorem skipSpace_of_solid {c : Char} (solid : isSpace c = false) (rest : List Char) :
    skipSpace (c :: rest) = c :: rest := by
  simp [skipSpace, solid]

theorem endsNumber_lineBreak (depth : Nat) (rest : List Char) :
    EndsNumber (lineBreak depth ++ rest) := by
  intro c head
  cases head
  decide

theorem endsNumber_comma (rest : List Char) : EndsNumber (',' :: rest) := by
  intro c head
  cases head
  decide

def StartsValue (text : List Char) : Prop :=
  ∃ c tail, text = c :: tail ∧ isSpace c = false ∧ c ≠ ']' ∧ c ≠ Char.ofNat 0xfeff

theorem StartsValue.append {text : List Char} (starts : StartsValue text) (rest : List Char) :
    StartsValue (text ++ rest) := by
  obtain ⟨c, tail, rfl, facts⟩ := starts
  exact ⟨c, tail ++ rest, rfl, facts⟩

theorem StartsValue.skipSpace {text : List Char} (starts : StartsValue text) :
    skipSpace text = text := by
  obtain ⟨c, tail, rfl, solid, -⟩ := starts
  exact skipSpace_of_solid solid tail

theorem StartsValue.fuel {text : List Char} (starts : StartsValue text) {fuel : Nat}
    (enough : text.length ≤ fuel) : ∃ less, fuel = less + 1 := by
  obtain ⟨c, tail, rfl, -⟩ := starts
  rw [List.length_cons] at enough
  exact ⟨fuel - 1, by omega⟩

theorem startsValue_cons_digit {c : Char} (digit : Decimal.isDigit c = true) (tail : List Char) :
    StartsValue (c :: tail) := by
  have other {d : Char} (none : Decimal.isDigit d = false) : c ≠ d :=
    Decimal.ne_of_isDigit digit none
  have solid : isSpace c = false := by
    simp [isSpace, other (d := ' ') rfl, other (d := '\t') rfl, other (d := '\n') rfl,
      other (d := '\r') rfl]
  exact ⟨c, tail, rfl, solid, other rfl, other rfl⟩

theorem startsValue_write (format : Format) (depth : Nat) {v : Value} (exact : v.Exact) :
    StartsValue (format.write depth v) := by
  have opens {c : Char} (tail : List Char)
      (facts : isSpace c = false ∧ c ≠ ']' ∧ c ≠ Char.ofNat 0xfeff) : StartsValue (c :: tail) :=
    ⟨c, tail, rfl, facts⟩
  cases exact with
  | null => exact opens _ (by decide)
  | bool b => cases b <;> exact opens _ (by decide)
  | int short =>
      unfold Format.write intText
      split
      · exact opens _ (by decide)
      · obtain ⟨c, tail, shape, digit⟩ := Decimal.digitsOf_head _
        rw [shape]
        exact startsValue_cons_digit digit tail
  | text s => exact opens _ (by decide)
  | list exact =>
      unfold Format.write
      split <;> exact opens _ (by decide)
  | record distinct exact =>
      unfold Format.write
      split <;> exact opens _ (by decide)

theorem skipSpace_string (format : Format) (s : String) (rest : List Char) :
    skipSpace (format.string s ++ rest) = format.string s ++ rest :=
  skipSpace_of_solid rfl _

/-! ### One value -/

theorem value_null (fuel : Nat) (rest : List Char) :
    value (fuel + 1) ("null".toList ++ rest) = .ok (.null, rest) := rfl

theorem value_bool (fuel : Nat) (b : Bool) (rest : List Char) :
    value (fuel + 1) ((if b then "true".toList else "false".toList) ++ rest) =
      .ok (.bool b, rest) := by
  cases b <;> rfl

theorem value_string (format : Format) (fuel : Nat) (s : String) (rest : List Char) :
    value (fuel + 1) (format.string s ++ rest) = .ok (.text s, rest) := by
  have written : '"' :: (s.toList.flatMap format.char ++ ['"'] ++ rest) = format.string s ++ rest :=
    rfl
  rw [← written, value, List.length_cons, string_tail format s rest written]

theorem value_digit (fuel : Nat) {c : Char} (digit : Decimal.isDigit c = true)
    (tail : List Char) :
    value (fuel + 1) (c :: tail) = number false (c :: tail) (c :: tail) := by
  have other {d : Char} (none : Decimal.isDigit d = false) : c ≠ d :=
    Decimal.ne_of_isDigit digit none
  have noWord : word? (c :: tail) = none := by
    simp [word?, (other (d := 'n') rfl).symm, (other (d := 't') rfl).symm,
      (other (d := 'f') rfl).symm, (other (d := 'N') rfl).symm, (other (d := 'I') rfl).symm,
      (other (d := '-') rfl).symm]
  rw [value, noWord]
  all_goals
    intro body starts
    exact absurd (List.cons.inj starts).1 (other rfl)

theorem value_minus (fuel : Nat) {c : Char} (digit : Decimal.isDigit c = true)
    (tail : List Char) :
    value (fuel + 1) ('-' :: c :: tail) = number true ('-' :: c :: tail) (c :: tail) := by
  have noWord : word? ('-' :: c :: tail) = none := by
    simp [word?, (Decimal.ne_of_isDigit digit (d := 'I') rfl).symm]
  simp [value, noWord]

theorem value_intText (fuel : Nat) {n : Int}
    (short : (Decimal.digitsOf n.natAbs).length ≤ Numeral.maxDigits) {rest : List Char}
    (ends : EndsNumber rest) :
    value (fuel + 1) (intText n ++ rest) = .ok (.int n, rest) := by
  obtain ⟨c, tail, shape, digit⟩ := Decimal.digitsOf_head n.natAbs
  have reads (negative : Bool) (text : List Char) := number_digitsOf negative text short ends
  rw [shape, List.cons_append] at reads
  unfold intText
  split
  · next below =>
      rw [shape, List.cons_append, List.cons_append, value_minus fuel digit, reads]
      simp only [if_true]
      rw [Int.ofNat_natAbs_of_nonpos (Int.le_of_lt below), Int.neg_neg]
  · next above =>
      rw [shape, List.cons_append, value_digit fuel digit, reads]
      simp only [Bool.false_eq_true, if_false]
      rw [Int.natAbs_of_nonneg (Int.not_lt.mp above)]

/-! ### Lists and records -/

/-- However deep it stands, the text of the value is read as the value, with enough fuel and with
anything behind it that no number goes on with. -/
def ReadBack (format : Format) (v : Value) : Prop :=
  ∀ (depth fuel : Nat) (rest : List Char), (format.write depth v).length ≤ fuel →
    EndsNumber rest → value fuel (format.write depth v ++ rest) = .ok (v, rest)

theorem writeItems_cons_append (format : Format) (depth : Nat) (item : Value) (items : List Value)
    (rest : List Char) :
    writeItems format depth false (item :: items) ++ rest =
      ',' :: (lineBreak depth ++
        (format.write depth item ++ (writeItems format depth false items ++ rest))) := by
  simp [writeItems]

theorem writeEntries_cons_append (format : Format) (depth : Nat) (key : String) (item : Value)
    (entries : Entries) (rest : List Char) :
    writeEntries format depth false ((key, item) :: entries) ++ rest =
      ',' :: (lineBreak depth ++ (format.string key ++ ':' :: ' ' ::
        (format.write depth item ++ (writeEntries format depth false entries ++ rest)))) := by
  simp [writeEntries]

theorem endsNumber_writeItems (format : Format) (depth outer : Nat) (items : List Value)
    (rest : List Char) :
    EndsNumber (writeItems format depth false items ++ (lineBreak outer ++ rest)) := by
  cases items with
  | nil => exact endsNumber_lineBreak outer rest
  | cons item items => exact endsNumber_comma _

theorem endsNumber_writeEntries (format : Format) (depth outer : Nat) (entries : Entries)
    (rest : List Char) :
    EndsNumber (writeEntries format depth false entries ++ (lineBreak outer ++ rest)) := by
  cases entries with
  | nil => exact endsNumber_lineBreak outer rest
  | cons entry entries => exact endsNumber_comma _

theorem elements_writeItems (format : Format) (depth outer : Nat) {fuel : Nat}
    (read : List Value) {item : Value} {items : List Value}
    (exact : ∀ v ∈ item :: items, v.Exact) (back : ∀ v ∈ item :: items, ReadBack format v)
    (rest : List Char)
    (enough : (format.write depth item).length + (writeItems format depth false items).length <
      fuel) :
    elements fuel read (format.write depth item ++
        (writeItems format depth false items ++ (lineBreak outer ++ ']' :: rest))) =
      .ok (.list (read.reverse ++ item :: items), rest) := by
  induction items generalizing fuel read item with
  | nil =>
      cases fuel with
      | zero => exact absurd enough (Nat.not_lt_zero _)
      | succ fuel =>
          have ends := endsNumber_writeItems format depth outer [] (']' :: rest)
          rw [elements, back item List.mem_cons_self depth fuel _ (by omega) ends]
          simp [writeItems, skipSpace_lineBreak, skipSpace_of_solid (c := ']') rfl]
  | cons next items ih =>
      cases fuel with
      | zero => exact absurd enough (Nat.not_lt_zero _)
      | succ fuel =>
          have ends := endsNumber_writeItems format depth outer (next :: items) (']' :: rest)
          have starts := startsValue_write format depth (exact next (by simp))
          have shorter : (format.write depth next).length +
              (writeItems format depth false items).length < fuel := by
            simp only [writeItems, List.length_append, Bool.false_eq_true, if_false,
              List.length_singleton] at enough
            omega
          rw [elements, back item List.mem_cons_self depth fuel _ (by omega) ends,
            writeItems_cons_append]
          simp only [skipSpace_of_solid (c := ',') rfl]
          rw [skipSpace_lineBreak, (starts.append _).skipSpace,
            ih (item :: read) (fun v mem => exact v (.tail _ mem))
              (fun v mem => back v (.tail _ mem)) shorter]
          simp

theorem members_member (format : Format) (depth fuel : Nat) (read : Entries) (key : String)
    {item : Value} (exact : item.Exact) (rest : List Char)
    (reads : value fuel (format.write depth item ++ rest) = .ok (item, rest))
    {answer : Parsed Value}
    (behind : (match skipSpace rest with
      | '\x7d' :: after => .ok (.record (read.set key item), after)
      | ',' :: rest => members fuel (read.set key item) (skipSpace rest)
      | rest => complain .comma rest) = answer) :
    members (fuel + 1) read (format.string key ++ ':' :: ' ' :: (format.write depth item ++ rest)) =
      answer := by
  have starts := (startsValue_write format depth exact).append rest
  have blank : skipSpace (' ' :: (format.write depth item ++ rest)) =
      format.write depth item ++ rest := starts.skipSpace
  have written : '"' :: (key.toList.flatMap format.char ++ ['"'] ++
      ':' :: ' ' :: (format.write depth item ++ rest)) =
      format.string key ++ ':' :: ' ' :: (format.write depth item ++ rest) := rfl
  rw [← written, members, List.length_cons, string_tail format key _ written]
  simp only [skipSpace_of_solid (c := ':') rfl, blank, reads]
  exact behind

theorem members_writeEntries (format : Format) (depth outer : Nat) {fuel : Nat}
    (read : Entries) {key : String} {item : Value} {entries : Entries}
    (distinct : (read ++ (key, item) :: entries).keys.Nodup)
    (exact : ∀ entry ∈ (key, item) :: entries, entry.2.Exact)
    (back : ∀ entry ∈ (key, item) :: entries, ReadBack format entry.2) (rest : List Char)
    (enough : (format.write depth item).length + (writeEntries format depth false entries).length <
      fuel) :
    members fuel read (format.string key ++ ':' :: ' ' :: (format.write depth item ++
        (writeEntries format depth false entries ++ (lineBreak outer ++ '\x7d' :: rest)))) =
      .ok (.record (read ++ (key, item) :: entries), rest) := by
  induction entries generalizing fuel read key item with
  | nil =>
      cases fuel with
      | zero => exact absurd enough (Nat.not_lt_zero _)
      | succ fuel =>
          have ends := endsNumber_writeEntries format depth outer [] ('\x7d' :: rest)
          have itemBack : ReadBack format item := back _ List.mem_cons_self
          refine members_member format depth fuel read key (exact _ List.mem_cons_self) _
            (itemBack depth fuel _ (by omega) ends) ?_
          rw [Entries.set_of_notMem item (Entries.notMem_keys_of_nodup distinct)]
          simp [writeEntries, skipSpace_lineBreak, skipSpace_of_solid (c := '\x7d') rfl]
  | cons next entries ih =>
      obtain ⟨nextKey, nextItem⟩ := next
      cases fuel with
      | zero => exact absurd enough (Nat.not_lt_zero _)
      | succ fuel =>
          have ends := endsNumber_writeEntries format depth outer ((nextKey, nextItem) :: entries)
            ('\x7d' :: rest)
          have shorter : (format.write depth nextItem).length +
              (writeEntries format depth false entries).length < fuel := by
            simp only [writeEntries, List.length_append, Bool.false_eq_true, if_false,
              List.length_singleton] at enough
            omega
          have itemBack : ReadBack format item := back _ List.mem_cons_self
          have others := ih (read ++ [(key, item)]) (by simpa using distinct)
            (fun entry mem => exact entry (.tail _ mem))
            (fun entry mem => back entry (.tail _ mem)) shorter
          refine members_member format depth fuel read key (exact _ List.mem_cons_self) _
            (itemBack depth fuel _ (by omega) ends) ?_
          rw [writeEntries_cons_append,
            Entries.set_of_notMem item (Entries.notMem_keys_of_nodup distinct)]
          simp only [skipSpace_of_solid (c := ',') rfl]
          rw [skipSpace_lineBreak, skipSpace_string, others, List.append_assoc,
            List.singleton_append]

theorem value_bracket (fuel : Nat) {text start : List Char} (skips : skipSpace text = start)
    (starts : StartsValue start) :
    value (fuel + 1) ('[' :: text) = elements fuel [] start := by
  obtain ⟨c, tail, rfl, -, noBracket, -⟩ := starts
  rw [value, skips]
  split
  · next closes => exact absurd (List.cons.inj closes).1 noBracket
  · rfl

theorem value_brace (fuel : Nat) {text : List Char} {key : String} {rest : List Char}
    {format : Format} (skips : skipSpace text = format.string key ++ rest) :
    value (fuel + 1) ('\x7b' :: text) = members fuel [] (format.string key ++ rest) := by
  rw [value, skips]
  rfl

theorem readBack_list (format : Format) {items : List Value}
    (exact : ∀ item ∈ items, item.Exact) (back : ∀ item ∈ items, ReadBack format item) :
    ReadBack format (.list items) := by
  intro depth fuel rest enough ends
  obtain ⟨fuel, rfl⟩ := (startsValue_write format depth (.list exact)).fuel enough
  cases items with
  | nil => rfl
  | cons item items =>
      have starts := startsValue_write format (depth + 1) (exact item List.mem_cons_self)
      have shape : format.write depth (.list (item :: items)) =
          '[' :: (lineBreak (depth + 1) ++ (format.write (depth + 1) item ++
            (writeItems format (depth + 1) false items ++ (lineBreak depth ++ [']'])))) := by
        simp [Format.write, writeItems]
      have shorter : (format.write (depth + 1) item).length +
          (writeItems format (depth + 1) false items).length < fuel := by
        simp only [shape, List.length_cons, List.length_append] at enough
        omega
      simp only [shape, List.cons_append, List.append_assoc, List.nil_append]
      have skips := (skipSpace_lineBreak (depth + 1) _).trans
        (starts.append (writeItems format (depth + 1) false items ++
          (lineBreak depth ++ ']' :: rest))).skipSpace
      rw [value_bracket fuel skips (starts.append _),
        elements_writeItems format (depth + 1) depth [] exact back rest shorter]
      rfl

theorem readBack_record (format : Format) {entries : Entries} (distinct : entries.keys.Nodup)
    (exact : ∀ entry ∈ entries, entry.2.Exact)
    (back : ∀ entry ∈ entries, ReadBack format entry.2) :
    ReadBack format (.record entries) := by
  intro depth fuel rest enough ends
  obtain ⟨fuel, rfl⟩ := (startsValue_write format depth (.record distinct exact)).fuel enough
  cases entries with
  | nil => rfl
  | cons entry entries =>
      obtain ⟨key, item⟩ := entry
      have shape : format.write depth (.record ((key, item) :: entries)) =
          '\x7b' :: (lineBreak (depth + 1) ++ (format.string key ++ ':' :: ' ' ::
            (format.write (depth + 1) item ++ (writeEntries format (depth + 1) false entries ++
              (lineBreak depth ++ ['\x7d']))))) := by
        simp [Format.write, writeEntries]
      have shorter : (format.write (depth + 1) item).length +
          (writeEntries format (depth + 1) false entries).length < fuel := by
        simp only [shape, List.length_cons, List.length_append] at enough
        omega
      simp only [shape, List.cons_append, List.append_assoc, List.nil_append]
      rw [value_brace fuel ((skipSpace_lineBreak (depth + 1) _).trans
          (skipSpace_string format key _)),
        members_writeEntries format (depth + 1) depth [] distinct exact back rest shorter]
      rfl

theorem readBack (format : Format) {v : Value} (exact : v.Exact) : ReadBack format v := by
  induction exact with
  | list exact back => exact readBack_list format exact back
  | record distinct exact back => exact readBack_record format distinct exact back
  | null =>
      intro depth fuel rest enough ends
      obtain ⟨fuel, rfl⟩ := (startsValue_write format depth .null).fuel enough
      exact value_null fuel rest
  | bool b =>
      intro depth fuel rest enough ends
      obtain ⟨fuel, rfl⟩ := (startsValue_write format depth (.bool b)).fuel enough
      exact value_bool fuel b rest
  | int short =>
      intro depth fuel rest enough ends
      obtain ⟨fuel, rfl⟩ := (startsValue_write format depth (.int short)).fuel enough
      exact value_intText fuel short ends
  | text s =>
      intro depth fuel rest enough ends
      obtain ⟨fuel, rfl⟩ := (startsValue_write format depth (.text s)).fuel enough
      exact value_string format fuel s rest

/-! ### Documents -/

theorem read_write (format : Format) {v : Value} (exact : v.Exact) :
    read (format.write 0 v) = .ok v := by
  have starts := startsValue_write format 0 exact
  have reads := readBack format exact 0 (2 * (format.write 0 v).length + 2) [] (by omega)
    EndsNumber.nil
  rw [List.append_nil] at reads
  have skips := starts.skipSpace
  obtain ⟨c, tail, shape, -, -, noMark⟩ := starts
  have head : (format.write 0 v).head? ≠ some (Char.ofNat 0xfeff) := by
    rw [shape]
    exact fun same => noMark (Option.some.inj same)
  rw [read, if_neg head, skips, reads]
  rfl

theorem parse_print (format : Format) {v : Value} (exact : v.Exact) :
    parse (format.print v) = .ok v := by
  rw [parse, Format.print, String.toList_ofList, read_write format exact]
  rfl

theorem print_isEmpty (format : Format) {v : Value} (exact : v.Exact) :
    (format.print v).isEmpty = false := by
  obtain ⟨c, tail, shape, -⟩ := startsValue_write format 0 exact
  rw [Format.print, shape]
  simp

end Json

end StepGraph
