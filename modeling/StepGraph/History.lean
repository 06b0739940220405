import StepGraph.Record

namespace StepGraph

/-- How many instances ended with each status, and the summed duration of the completed ones. -/
structure Tally where
  completed : Nat := 0
  failed : Nat := 0
  cancelled : Nat := 0
  completedDurationMs : Float := 0
deriving Repr, Inhabited

namespace Tally

def finished (tally : Tally) : Nat :=
  tally.completed + tally.failed + tally.cancelled

def add (tally : Tally) (record : Record) : Tally :=
  match record.status with
  | .completed =>
      { tally with
        completed := tally.completed + 1
        completedDurationMs := tally.completedDurationMs + record.durationMs }
  | .failed => { tally with failed := tally.failed + 1 }
  | .cancelled => { tally with cancelled := tally.cancelled + 1 }
  | .running => tally

def averageDurationMs (tally : Tally) : Float :=
  if tally.completed = 0 then 0 else tally.completedDurationMs / Decimal.ofInt tally.completed

def statistics (tally : Tally) (running : Nat) : GraphStatistics where
  total := tally.finished + running
  completed := tally.completed
  failed := tally.failed
  cancelled := tally.cancelled
  running := running
  averageDurationMs := tally.averageDurationMs

end Tally

def updateKey (key : String) (initial : α) (change : α → α) :
    List (String × α) → List (String × α)
  | [] => [(key, change initial)]
  | (k, a) :: rest =>
      if k = key then (k, change a) :: rest else (k, a) :: updateKey key initial change rest

theorem lookup_updateKey (key other : String) (initial : α) (change : α → α)
    (entries : List (String × α)) :
    (updateKey key initial change entries).lookup other =
      if other = key then some (change ((entries.lookup key).getD initial))
      else entries.lookup other := by
  induction entries with
  | nil =>
      by_cases h : other = key
      · simp [updateKey, h]
      · simp [updateKey, List.lookup_cons, h, beq_false_of_ne h]
  | cons entry rest ih =>
      obtain ⟨k, a⟩ := entry
      by_cases h : k = key
      · subst h
        by_cases ho : other = k
        · simp [updateKey, ho]
        · simp [updateKey, List.lookup_cons, ho, beq_false_of_ne ho]
      · have hk : (key == k) = false := beq_false_of_ne (Ne.symm h)
        by_cases ho : other = k
        · subst ho
          simp [updateKey, h]
        · simp [updateKey, List.lookup_cons, h, beq_false_of_ne ho, ih, hk]

/-- The records kept, oldest first; the latest record of each instance among them; and the tallies
of everything ever recorded. -/
structure History where
  limit : Nat
  records : List Record := []
  index : List (String × Record) := []
  overall : Tally := {}
  perGraph : List (String × Tally) := []
deriving Repr, Inhabited

namespace History

def create (limit : Int) : Fallible History :=
  if limit < 1 then .error (.fault .value "history limit must be at least 1")
  else .ok { limit := limit.toNat }

/-- Makes room for one more record by dropping the oldest. -/
def evict (history : History) : History :=
  match history.records with
  | oldest :: rest =>
      if history.limit ≤ history.records.length then
        { history with
          records := rest
          index := history.index.filter (·.1 != oldest.instanceId) }
      else history
  | [] => history

def append (history : History) (record : Record) : History :=
  let history := history.evict
  { history with
    records := history.records ++ [record]
    index := updateKey record.instanceId record (fun _ => record) history.index
    overall := history.overall.add record
    perGraph := updateKey record.graph {} (·.add record) history.perGraph }

def recent (history : History) (limit : Option Int) : List Record :=
  match limit with
  | none => history.records.reverse
  | some limit => history.records.reverse.take limit.toNat

def find? (history : History) (instanceId : String) : Option Record :=
  history.index.lookup instanceId

def contains (history : History) (instanceId : String) : Bool :=
  (history.find? instanceId).isSome

def size (history : History) : Nat :=
  history.records.length

@[simp] theorem overall_append (history : History) (record : Record) :
    (history.append record).overall = history.overall.add record := by
  unfold append evict
  cases history.records with
  | nil => rfl
  | cons oldest rest => dsimp only; split <;> rfl

@[simp] theorem limit_append (history : History) (record : Record) :
    (history.append record).limit = history.limit := by
  unfold append evict
  cases history.records with
  | nil => rfl
  | cons oldest rest => dsimp only; split <;> rfl

@[simp] theorem find?_append_self (history : History) (record : Record) :
    (history.append record).find? record.instanceId = some record := by
  simp [append, find?, lookup_updateKey]

theorem size_append_le (history : History) (record : Record) (hlimit : 0 < history.limit)
    (hsize : history.size ≤ history.limit) : (history.append record).size ≤ history.limit := by
  unfold size at *
  unfold append evict
  cases h : history.records with
  | nil => simp [h]; omega
  | cons oldest rest =>
      dsimp only
      split
      · simp [h] at *; omega
      · simp [h] at *; omega

theorem getLast?_append (history : History) (record : Record) :
    (history.append record).records.getLast? = some record := by
  simp [append]

def insertName (name : String) : List String → List String
  | [] => [name]
  | first :: rest =>
      if name < first then name :: first :: rest
      else if name = first then first :: rest
      else first :: insertName name rest

def sortNames (names : List String) : List String :=
  names.foldr insertName []

theorem mem_insertName (name other : String) (names : List String) :
    other ∈ insertName name names ↔ other = name ∨ other ∈ names := by
  induction names with
  | nil => simp [insertName]
  | cons first rest ih =>
      unfold insertName
      split
      · simp
      · split
        · next h => subst h; simp
        · simp only [List.mem_cons, ih]
          constructor
          · rintro (h | h | h) <;> simp [h]
          · rintro (h | h | h) <;> simp [h]

@[simp] theorem mem_sortNames (name : String) (names : List String) :
    name ∈ sortNames names ↔ name ∈ names := by
  induction names with
  | nil => simp [sortNames]
  | cons first rest ih =>
      have : sortNames (first :: rest) = insertName first (sortNames rest) := rfl
      rw [this, mem_insertName, ih, List.mem_cons]

/-- The statistics over everything recorded and over running instances, of which the names of their
graphs are given. -/
def statistics (history : History) (running : List String) : Statistics :=
  let names := sortNames (history.perGraph.map (·.1) ++ running)
  let overall := history.overall.statistics running.length
  { overall
    successRate :=
      if overall.total = 0 then 0
      else Decimal.ofInt overall.completed / Decimal.ofInt overall.total
    perGraph := names.map fun name =>
      (name, ((history.perGraph.lookup name).getD {}).statistics (running.count name)) }

end History

end StepGraph
