namespace StepGraph.Text

def isBlank (c : Char) : Bool :=
  let n := c.toNat
  (0x09 ≤ n && n ≤ 0x0d) || (0x1c ≤ n && n ≤ 0x20) || n == 0x85 || n == 0xa0 || n == 0x1680 ||
    (0x2000 ≤ n && n ≤ 0x200a) || n == 0x2028 || n == 0x2029 || n == 0x202f || n == 0x205f ||
    n == 0x3000

def isPadding (c : Char) : Bool :=
  isBlank c && !(0x1c ≤ c.toNat && c.toNat ≤ 0x1f)

def trimBy (skip : Char → Bool) (text : List Char) : List Char :=
  ((text.dropWhile skip).reverse.dropWhile skip).reverse

def strip (text : List Char) : List Char :=
  trimBy isBlank text

/-- The maximal runs of characters outside `skip`; `word` holds the current run, last first. -/
def wordsFrom (skip : Char → Bool) (word : List Char) : List Char → List (List Char)
  | [] => if word.isEmpty then [] else [word.reverse]
  | c :: rest =>
      if skip c then
        if word.isEmpty then wordsFrom skip [] rest
        else word.reverse :: wordsFrom skip [] rest
      else wordsFrom skip (c :: word) rest

def words (text : List Char) : List (List Char) :=
  wordsFrom isBlank [] text

/-- Whether `needle` stands somewhere in the text without a gap. -/
def occursIn (needle : List Char) : List Char → Bool
  | [] => needle.isEmpty
  | c :: rest => needle.isPrefixOf (c :: rest) || occursIn needle rest

theorem occursIn_iff_infix (needle text : List Char) :
    occursIn needle text = true ↔ needle <:+: text := by
  induction text with
  | nil => simp [occursIn]
  | cons c rest ih =>
      rw [occursIn, Bool.or_eq_true, List.isPrefixOf_iff_prefix, ih, List.infix_cons_iff]

end StepGraph.Text
