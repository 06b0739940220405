import StepGraph.Decimal.Binary

namespace StepGraph

inductive Value where
  | null
  | bool (b : Bool)
  | int (n : Int)
  | float (x : Float)
  | text (s : String)
  | list (items : List Value)
  | record (entries : List (String × Value))
deriving BEq, Repr, Inhabited

abbrev Entries := List (String × Value)

namespace Entries

def get? (entries : Entries) (key : String) : Option Value :=
  entries.lookup key

def set (key : String) (value : Value) : Entries → Entries
  | [] => [(key, value)]
  | (k, v) :: rest => if k = key then (k, value) :: rest else (k, v) :: set key value rest

def erase (key : String) (entries : Entries) : Entries :=
  entries.filter (·.1 != key)

/-- Adds the entries one by one, later ones overwriting earlier ones with the same key. -/
def ofPairs (pairs : List (String × Value)) : Entries :=
  pairs.foldl (fun entries pair => set pair.1 pair.2 entries) []

def merge (first second : Entries) : Entries :=
  second.foldl (fun entries pair => set pair.1 pair.2 entries) first

def keys (entries : Entries) : List String :=
  entries.map (·.1)

@[simp] theorem get?_nil (key : String) : get? [] key = none := rfl

theorem get?_cons (key other : String) (value : Value) (entries : Entries) :
    get? ((other, value) :: entries) key =
      if key = other then some value else get? entries key := by
  by_cases h : key = other
  · simp [get?, h]
  · simp [get?, List.lookup_cons, h, beq_false_of_ne h]

theorem get?_set (key other : String) (value : Value) (entries : Entries) :
    get? (set key value entries) other =
      if other = key then some value else get? entries other := by
  induction entries with
  | nil => simp [set, get?_cons]
  | cons entry rest ih =>
      obtain ⟨k, v⟩ := entry
      by_cases h : k = key
      · subst h
        by_cases ho : other = k <;> simp [set, get?_cons, ho]
      · by_cases ho : other = k
        · subst ho
          simp [set, h, get?_cons]
        · simp [set, h, get?_cons, ho, ih]

theorem keys_set (key : String) (value : Value) (entries : Entries) :
    keys (set key value entries) =
      if key ∈ keys entries then keys entries else keys entries ++ [key] := by
  induction entries with
  | nil => simp [set, keys]
  | cons entry rest ih =>
      obtain ⟨k, v⟩ := entry
      simp only [keys] at ih ⊢
      by_cases h : k = key
      · simp [set, h]
      · by_cases hm : key ∈ rest.map (·.1) <;> simp [set, h, ih, hm, Ne.symm h]

theorem get?_erase (key other : String) (entries : Entries) :
    get? (erase key entries) other = if other = key then none else get? entries other := by
  induction entries with
  | nil => simp [erase]
  | cons entry rest ih =>
      obtain ⟨k, v⟩ := entry
      by_cases h : k = key
      · subst h
        have : erase k ((k, v) :: rest) = erase k rest := by simp [erase]
        rw [this, ih, get?_cons]
        by_cases ho : other = k <;> simp [ho]
      · have : erase key ((k, v) :: rest) = (k, v) :: erase key rest := by simp [erase, h]
        rw [this, get?_cons, get?_cons, ih]
        by_cases ho : other = k
        · subst ho
          simp [h]
        · simp [ho]

end Entries

namespace Value

/-- Whether a condition on the value holds: nothing, zero and whatever is empty count as no. -/
def holds : Value → Bool
  | .null => false
  | .bool b => b
  | .int n => n != 0
  | .float x => x != 0
  | .text s => !s.isEmpty
  | .list items => !items.isEmpty
  | .record entries => !entries.isEmpty

def kindName : Value → String
  | .null => "NoneType"
  | .bool _ => "bool"
  | .int _ => "int"
  | .float _ => "float"
  | .text _ => "str"
  | .list _ => "list"
  | .record _ => "dict"

def get? (value : Value) (key : String) : Option Value :=
  match value with
  | .record entries => Entries.get? entries key
  | _ => none

def getD (value : Value) (key : String) (default : Value) : Value :=
  (value.get? key).getD default

def entries : Value → Entries
  | .record entries => entries
  | _ => []

def items : Value → List Value
  | .list items => items
  | _ => []

def text? : Value → Option String
  | .text s => some s
  | _ => none

def int? : Value → Option Int
  | .int n => some n
  | _ => none

def whole? : Value → Option Int
  | .bool b => some (if b then 1 else 0)
  | .int n => some n
  | .float x => Decimal.toWhole? x
  | _ => none

end Value

def sameNumber (a b : Value) : Bool :=
  match a, b with
  | .float x, .float y => x == y
  | a, b =>
      match a.whole?, b.whole? with
      | some m, some n => m == n
      | _, _ => false

mutual

/-- Equality by meaning: numbers of any kind are compared as numbers, truth values being 0 and 1,
and the order of a record's entries does not matter. -/
def Value.alike : Value → Value → Bool
  | .null, b => match b with | .null => true | _ => false
  | .text s, b => match b with | .text t => s == t | _ => false
  | .list xs, b => match b with | .list ys => alikeLists xs ys | _ => false
  | .record xs, b =>
      match b with
      | .record ys => xs.length == ys.length && alikeEntries xs ys
      | _ => false
  | .bool p, b => sameNumber (.bool p) b
  | .int n, b => sameNumber (.int n) b
  | .float x, b => sameNumber (.float x) b

def alikeLists : List Value → List Value → Bool
  | [], ys => ys.isEmpty
  | x :: xs, ys => match ys with | [] => false | y :: ys => x.alike y && alikeLists xs ys

def alikeEntries : List (String × Value) → List (String × Value) → Bool
  | [], _ => true
  | (k, x) :: xs, ys =>
      (match ys.lookup k with | some y => x.alike y | none => false) && alikeEntries xs ys

end

end StepGraph
