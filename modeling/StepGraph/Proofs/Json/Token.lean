import StepGraph.Json.Printer
import StepGraph.Json.Reader

namespace StepGraph

/-! ### Digits -/

namespace Decimal

theorem isDigit_of_mem_digitsOf {n : Nat} {c : Char} (mem : c ∈ digitsOf n) : isDigit c = true := by
  have digit := Nat.isDigit_of_mem_toDigits (by decide) (by decide) mem
  simpa [isDigit, Char.isDigit, Char.le_def] using digit

theorem digitsOf_head (n : Nat) : ∃ c tail, digitsOf n = c :: tail ∧ isDigit c = true := by
  obtain ⟨c, tail, shape⟩ := List.exists_cons_of_ne_nil (Nat.toDigits_ne_nil (b := 10) (n := n))
  exact ⟨c, tail, shape, isDigit_of_mem_digitsOf (shape ▸ List.mem_cons_self)⟩

theorem ne_of_isDigit {c d : Char} (digit : isDigit c = true) (other : isDigit d = false) :
    c ≠ d := by
  rintro rfl
  rw [digit] at other
  cases other

theorem natOf_digitsOf (n : Nat) : natOf (digitsOf n) = n := by
  have folded : Nat.ofDigitChars 10 (digitsOf n) 0 = n := Nat.ofDigitChars_ten_toDigits
  rw [Nat.ofDigitChars_eq_foldl] at folded
  simpa only [natOf, Nat.mul_comm, Char.reduceToNat] using folded

/-- No number but zero starts with a zero. -/
theorem digitsOf_eq_cons {n : Nat} (positive : 0 < n) :
    ∃ c tail, digitsOf n = c :: tail ∧ c ≠ '0' := by
  induction n using Nat.strongRecOn with
  | ind n ih =>
      unfold digitsOf at ih ⊢
      by_cases small : n < 10
      · refine ⟨_, [], Nat.toDigits_of_lt_base small, ?_⟩
        have nonzero : ∀ d : Fin 10, 0 < d.val → d.val.digitChar ≠ '0' := by decide
        exact nonzero ⟨n, small⟩ positive
      · obtain ⟨c, tail, digits, nonzero⟩ := ih (n / 10) (by omega) (by omega)
        refine ⟨c, tail ++ [(n % 10).digitChar], ?_, nonzero⟩
        rw [Nat.toDigits_of_base_le (by decide) (Nat.not_lt.mp small), digits]
        rfl

end Decimal

namespace Json

def EndsNumber (rest : List Char) : Prop :=
  ∀ c, rest.head? = some c → Decimal.isDigit c = false ∧ c ≠ '.' ∧ c ≠ 'e' ∧ c ≠ 'E'

theorem EndsNumber.nil : EndsNumber [] := by
  intro c head
  cases head

theorem EndsNumber.takeFraction {rest : List Char} (ends : EndsNumber rest) :
    takeFraction rest = ([], rest) := by
  cases rest with
  | nil => rfl
  | cons c rest =>
      have noPoint := (ends c rfl).2.1
      simp [Json.takeFraction, noPoint]

theorem EndsNumber.takeExponent {rest : List Char} (ends : EndsNumber rest) :
    takeExponent rest = (none, rest) := by
  cases rest with
  | nil => rfl
  | cons c rest =>
      obtain ⟨-, -, noSmall, noLarge⟩ := ends c rfl
      simp [Json.takeExponent, noSmall, noLarge]

theorem takeWhole_digitsOf (n : Nat) {rest : List Char} (ends : EndsNumber rest) :
    takeWhole (Decimal.digitsOf n ++ rest) = (Decimal.digitsOf n, rest) := by
  obtain rfl | positive := Nat.eq_zero_or_pos n
  · rfl
  · have digits : ∀ c ∈ Decimal.digitsOf n, Decimal.isDigit c = true :=
      fun c => Decimal.isDigit_of_mem_digitsOf
    have stops : rest.takeWhile Decimal.isDigit = [] ∧ rest.dropWhile Decimal.isDigit = rest := by
      cases rest with
      | nil => exact ⟨rfl, rfl⟩
      | cons c rest => simp [(ends c rfl).1]
    unfold takeWhole
    split
    · next starts =>
        obtain ⟨c, tail, shape, nonzero⟩ := Decimal.digitsOf_eq_cons positive
        rw [shape] at starts
        cases starts
        exact absurd rfl nonzero
    · rw [List.takeWhile_append_of_pos digits, List.dropWhile_append_of_pos digits,
        stops.1, stops.2, List.append_nil]

/-- A whole number that is not too long is read as it is written. -/
theorem number_digitsOf (negative : Bool) (text : List Char) {n : Nat}
    (short : (Decimal.digitsOf n).length ≤ Numeral.maxDigits) {rest : List Char}
    (ends : EndsNumber rest) :
    number negative text (Decimal.digitsOf n ++ rest) =
      .ok (.int (if negative then -n else n), rest) := by
  have nonempty : (Decimal.digitsOf n).isEmpty = false :=
    List.isEmpty_eq_false_iff.mpr Nat.toDigits_ne_nil
  simp only [number, takeWhole_digitsOf n ends, ends.takeFraction, ends.takeExponent, nonempty,
    Decimal.natOf_digitsOf, if_neg (Nat.not_lt.mpr short)]
  rfl

/-! ### Texts -/

theorem digitIn?_hexDigit {d : Nat} (small : d < 16) :
    Text.digitIn? 16 (Text.hexDigit d) = some d := by
  have each : ∀ d : Fin 16, Text.digitIn? 16 (Text.hexDigit d.val) = some d.val := by decide
  exact each ⟨d, small⟩

theorem unit?_hexDigits {unit : Nat} (small : unit < 0x10000) {rest : List Char}
    (more : rest ≠ []) : unit? (Text.hexDigits 4 unit ++ rest) = some (unit, rest) := by
  obtain ⟨next, rest, rfl⟩ := List.exists_cons_of_ne_nil more
  simp only [Text.hexDigits, List.nil_append, List.cons_append, unit?]
  rw [digitIn?_hexDigit (by omega), digitIn?_hexDigit (by omega), digitIn?_hexDigit (by omega),
    digitIn?_hexDigit (by omega)]
  have value : ((unit / 16 / 16 / 16 % 16 * 16 + unit / 16 / 16 % 16) * 16 + unit / 16 % 16) * 16 +
      unit % 16 = unit := by omega
  simp [value]

theorem unicodeEscape_basic {c : Char} (basic : c.toNat < 0x10000) {rest : List Char}
    (more : rest ≠ []) :
    unicodeEscape ('u' :: (Text.hexDigits 4 c.toNat ++ rest)) = .ok (c, rest) := by
  -- The halves of pairs are no characters.
  have whole : ¬(0xd800 ≤ c.toNat ∧ c.toNat ≤ 0xdfff) := by
    have valid : c.toNat < 0xd800 ∨ 0xdfff < c.toNat ∧ c.toNat < 0x110000 := c.valid
    omega
  have noHigh : isHighSurrogate c.toNat = false := by
    simp only [isHighSurrogate, Bool.and_eq_false_iff, decide_eq_false_iff_not]
    omega
  have char : unitChar c.toNat = c := by
    have noHalf : (0xd800 ≤ c.toNat && c.toNat ≤ 0xdfff) = false := by
      simpa using whole
    rw [unitChar, noHalf]
    exact Char.ofNat_toNat c
  simp [unicodeEscape, unit?_hexDigits basic more, noHigh, char]

theorem unicodeEscape_pair {high low : Nat} (isHigh : isHighSurrogate high = true)
    (isLow : isLowSurrogate low = true) {rest : List Char} (more : rest ≠ []) :
    unicodeEscape ('u' :: (Text.hexDigits 4 high ++
        '\\' :: 'u' :: (Text.hexDigits 4 low ++ rest))) =
      .ok (Char.ofNat (0x10000 + (high - 0xd800) * 0x400 + (low - 0xdc00)), rest) := by
  have smallHigh : high < 0x10000 := by
    simp only [isHighSurrogate, Bool.and_eq_true, decide_eq_true_eq] at isHigh
    omega
  have smallLow : low < 0x10000 := by
    simp only [isLowSurrogate, Bool.and_eq_true, decide_eq_true_eq] at isLow
    omega
  have long : ¬(Text.hexDigits 4 low).length + rest.length ≤ 4 := by
    have some : 0 < rest.length := List.length_pos_iff.mpr more
    simp only [Text.hexDigits, List.length_append, List.length_cons, List.length_nil]
    omega
  simp [unicodeEscape, unit?_hexDigits smallHigh, unit?_hexDigits smallLow more, isHigh, isLow,
    long]

theorem unicodeEscape_beyond {c : Char} (beyond : 0x10000 ≤ c.toNat) {rest : List Char}
    (more : rest ≠ []) :
    unicodeEscape ('u' :: (Text.hexDigits 4 (0xd800 + (c.toNat - 0x10000) / 0x400) ++
        '\\' :: 'u' :: (Text.hexDigits 4 (0xdc00 + (c.toNat - 0x10000) % 0x400) ++ rest))) =
      .ok (c, rest) := by
  have valid : c.toNat < 0xd800 ∨ 0xdfff < c.toNat ∧ c.toNat < 0x110000 := c.valid
  rw [unicodeEscape_pair _ _ more]
  · have joined : 0x10000 + (0xd800 + (c.toNat - 0x10000) / 0x400 - 0xd800) * 0x400 +
        (0xdc00 + (c.toNat - 0x10000) % 0x400 - 0xdc00) = c.toNat := by omega
    rw [joined, Char.ofNat_toNat]
  · simp only [isHighSurrogate, Bool.and_eq_true, decide_eq_true_eq]
    omega
  · simp only [isLowSurrogate, Bool.and_eq_true, decide_eq_true_eq]
    omega

section

variable (start fuel : Nat) (read rest : List Char)

theorem string_short {e c : Char} (noCode : e ≠ 'u') (short : shortEscape? e = some c) :
    string start (fuel + 1) read ('\\' :: e :: rest) = string start fuel (c :: read) rest := by
  rw [string, short]
  exact noCode

theorem string_raw {c : Char} (noQuote : c ≠ '"') (noSlash : c ≠ '\\') (raw : ¬c.toNat < 0x20) :
    string start (fuel + 1) read (c :: rest) = string start fuel (c :: read) rest := by
  rw [string, if_neg raw]
  · exact noQuote
  · exact noSlash

theorem string_code {c : Char} {text : List Char}
    (code : unicodeEscape ('u' :: text) = .ok (c, rest)) :
    string start (fuel + 1) read ('\\' :: 'u' :: text) = string start fuel (c :: read) rest := by
  rw [string, code]

/-- One character of a text is read as it is written, raw or as an escape. -/
theorem string_char (format : Format) (c : Char) {rest : List Char} (more : rest ≠ []) :
    string start (fuel + 1) read (format.char c ++ rest) = string start fuel (c :: read) rest := by
  unfold Format.char
  split
  · next quote =>
      simp only [Bool.or_eq_true, decide_eq_true_eq] at quote
      obtain rfl | rfl := quote <;> exact string_short start fuel read rest (by decide) rfl
  split
  · next newline =>
      subst newline
      exact string_short start fuel read rest (by decide) rfl
  split
  · next carriage =>
      subst carriage
      exact string_short start fuel read rest (by decide) rfl
  split
  · next tab =>
      subst tab
      exact string_short start fuel read rest (by decide) rfl
  split
  · next backspace =>
      rw [← Char.ofNat_toNat c, backspace]
      exact string_short start fuel read rest (by decide) rfl
  split
  · next feed =>
      rw [← Char.ofNat_toNat c, feed]
      exact string_short start fuel read rest (by decide) rfl
  split
  · unfold pointEscape
    split
    · next basic => exact string_code start fuel read rest (unicodeEscape_basic basic more)
    · next beyond =>
        have escaped := unicodeEscape_beyond (Nat.not_lt.mp beyond) more
        simpa [unitEscape] using string_code start fuel read rest escaped
  · next quote _ _ _ _ _ raw =>
      simp only [Bool.or_eq_true, decide_eq_true_eq, not_or] at quote raw
      exact string_raw start fuel read rest quote.1 quote.2 raw.1

end

theorem char_ne_nil (format : Format) (c : Char) : format.char c ≠ [] := by
  unfold Format.char pointEscape unitEscape
  repeat' split
  all_goals simp

theorem length_le_flatMap_char (format : Format) (text : List Char) :
    text.length ≤ (text.flatMap format.char).length := by
  induction text with
  | nil => exact Nat.zero_le 0
  | cons c text ih =>
      have one : 0 < (format.char c).length := List.length_pos_iff.mpr (char_ne_nil format c)
      rw [List.flatMap_cons, List.length_append, List.length_cons]
      omega

theorem string_chars (format : Format) (start : Nat) {fuel : Nat} (read : List Char)
    {text : List Char} (enough : text.length < fuel) (rest : List Char) :
    string start fuel read (text.flatMap format.char ++ '"' :: rest) =
      .ok (String.ofList (read.reverse ++ text), rest) := by
  induction text generalizing fuel read with
  | nil =>
      obtain ⟨fuel, rfl⟩ := Nat.exists_eq_add_of_lt enough
      rw [List.append_nil]
      rfl
  | cons c text ih =>
      cases fuel with
      | zero => exact absurd enough (Nat.not_lt_zero _)
      | succ fuel =>
          rw [List.flatMap_cons, List.append_assoc,
            string_char start fuel read format c (by simp), ih (c :: read) (by simpa using enough),
            List.reverse_cons, List.append_assoc]
          rfl

/-- A text is read as it is written; the opening quote has been taken already. -/
theorem string_tail (format : Format) (s : String) (rest : List Char) {tail : List Char}
    (written : '"' :: tail = format.string s ++ rest) :
    string (tail.length + 1) (tail.length + 1) [] tail = .ok (s, rest) := by
  have shape : tail = s.toList.flatMap format.char ++ '"' :: rest := by
    simpa [Format.string] using written
  have enough : s.toList.length < tail.length + 1 := by
    have least := length_le_flatMap_char format s.toList
    rw [shape, List.length_append]
    omega
  rw [shape] at enough ⊢
  rw [string_chars format _ [] enough rest, List.reverse_nil, List.nil_append, String.ofList_toList]

end Json

end StepGraph
