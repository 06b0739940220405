import StepGraph.Yaml.Tag
import StepGraph.Decimal.Reading

namespace StepGraph.Yaml.Meaning

def nullWords : List String :=
  ["", "~", "null", "Null", "NULL"]

def boolWords : List String :=
  ["yes", "Yes", "YES", "no", "No", "NO", "true", "True", "TRUE", "false", "False", "FALSE",
    "on", "On", "ON", "off", "Off", "OFF"]

def infinityWords : List String :=
  [".inf", ".Inf", ".INF"]

def notANumberWords : List String :=
  [".nan", ".NaN", ".NAN"]

def markWords : List String :=
  ["!", "&", "*"]

def isDigitOrGap (c : Char) : Bool :=
  c = '_' || Decimal.isDigit c

def colonParts : List Char → List (List Char)
  | [] => [[]]
  | c :: rest =>
      if c = ':' then [] :: colonParts rest
      else
        match colonParts rest with
        | [] => [[c]]
        | part :: parts => (c :: part) :: parts

def isSixtieth (part : List Char) : Bool :=
  part.all Decimal.isDigit && !part.isEmpty && part.length ≤ 2 && Decimal.natOf part < 60

/-- A number to the base of sixty, in which underscores may stand in the first part. -/
def isSixtieths (leads : Char → Bool) (text : List Char) : Bool :=
  match colonParts text with
  | first :: next :: rest =>
      first.head?.any leads && first.all isDigitOrGap && (next :: rest).all isSixtieth
  | _ => false

def isNonZeroDigit (c : Char) : Bool :=
  '1' ≤ c && c ≤ '9'

def isWhole (text : List Char) : Bool :=
  let runOf (base : Nat) (digits : List Char) : Bool :=
    !digits.isEmpty && digits.all fun c => c = '_' || (Text.digitIn? base c).isSome
  match (Decimal.takeSign text).2 with
  | ['0'] => true
  | '0' :: 'b' :: digits => runOf 2 digits
  | '0' :: 'x' :: digits => runOf 16 digits
  | '0' :: digits => runOf 8 digits
  | c :: digits =>
      isNonZeroDigit c && (digits.all isDigitOrGap || isSixtieths isNonZeroDigit (c :: digits))
  | [] => false

def isExponent : List Char → Bool
  | [] => true
  | mark :: sign :: digits =>
      (mark = 'e' || mark = 'E') && (sign = '+' || sign = '-') && !digits.isEmpty &&
        digits.all Decimal.isDigit
  | _ => false

def isPointed (signed : Bool) (text : List Char) : Bool :=
  let whole := text.takeWhile isDigitOrGap
  match text.dropWhile isDigitOrGap with
  | '.' :: rest =>
      (match whole with
        | [] => !signed && rest.head?.any Decimal.isDigit
        | c :: _ => Decimal.isDigit c) &&
      isExponent (rest.dropWhile isDigitOrGap)
  | _ => false

def isPointedSixtieths (text : List Char) : Bool :=
  match text.dropWhile (· != '.') with
  | '.' :: fraction =>
      fraction.all isDigitOrGap && isSixtieths Decimal.isDigit (text.takeWhile (· != '.'))
  | _ => false

def isDouble (text : List Char) : Bool :=
  let unsigned := (Decimal.takeSign text).2
  let signed := unsigned.length < text.length
  infinityWords.contains (String.ofList unsigned) ||
    notANumberWords.contains (String.ofList text) ||
    isPointed signed unsigned || isPointedSixtieths unsigned

/-- A word without the line feed at its end, which does not count unless the word is nothing
else. -/
def withoutLineFeed (word : List Char) : List Char :=
  if word.length > 1 && word.getLast? = some '\n' then word.dropLast else word

/-- What a word is taken for; whatever has no other meaning is a text. -/
def tagOf (isTimestamp : List Char → Bool) (word : String) : Tag :=
  let chars := withoutLineFeed word.toList
  let bare := String.ofList chars
  if boolWords.contains bare then .bool
  else if isDouble chars then .float
  else if isWhole chars then .int
  else if bare = "<<" then .merge
  else if nullWords.contains bare then .null
  else if isTimestamp chars then .timestamp
  else if bare = "=" then .value
  else if markWords.contains bare then .unknown
  else .text

end StepGraph.Yaml.Meaning
