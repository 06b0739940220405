import StepGraph.State

namespace StepGraph

inductive Status where
  | running
  | completed
  | failed
  | cancelled
deriving Repr, DecidableEq, Inhabited

namespace Status

def all : List Status :=
  [.running, .completed, .failed, .cancelled]

def name : Status → String
  | .running => "running"
  | .completed => "completed"
  | .failed => "failed"
  | .cancelled => "cancelled"

def isTerminal (status : Status) : Bool :=
  status != .running

def ofName? (name : String) : Option Status :=
  all.find? (·.name == name)

def read (name : String) : Fallible Status :=
  match ofName? name with
  | some status => .ok status
  | none =>
      let shown := name.quoted
      .error (.fault .value s!"{shown} is not a valid InstanceStatus")

end Status

/-- A snapshot of an instance for listings. -/
structure Summary where
  instanceId : String
  graph : String
  status : Status
  startedAt : Instant
  endedAt : Option Instant
  durationMs : Float
  totalSteps : Int
  error : Option String
deriving Repr

/-- A frozen snapshot of an instance that has ended. -/
structure Record where
  instanceId : String
  graph : String
  status : Status
  startedAt : Instant
  endedAt : Instant
  terminalStep : Option String
  error : Option String
  state : State
deriving Repr, Inhabited

namespace Record

def durationMs (record : Record) : Float :=
  StepGraph.durationMs record.startedAt record.endedAt

def totalSteps (record : Record) : Int :=
  record.state.metadata.totalSteps

end Record

/-- What whoever started an instance receives in the end. `isCopy` says that the state is a copy
taken from the record, not the one the run itself worked on. -/
structure Result where
  instanceId : String
  graph : String
  status : Status
  state : State
  isCopy : Bool
  terminalStep : Option String
  durationMs : Float
  error : Option String
deriving Repr, Inhabited

def Result.succeeded (result : Result) : Bool :=
  result.status == .completed

def Record.result (record : Record) : Result where
  instanceId := record.instanceId
  graph := record.graph
  status := record.status
  state := record.state
  isCopy := true
  terminalStep := record.terminalStep
  durationMs := record.durationMs
  error := record.error

/-- Counts of instances by status, and the mean duration of the completed ones. -/
structure GraphStatistics where
  total : Nat := 0
  completed : Nat := 0
  failed : Nat := 0
  cancelled : Nat := 0
  running : Nat := 0
  averageDurationMs : Float := 0
deriving Repr, Inhabited

/-- The counts over all graphs, the share of completed instances, and the counts of each graph. -/
structure Statistics where
  overall : GraphStatistics := {}
  successRate : Float := 0
  perGraph : List (String × GraphStatistics) := []
deriving Repr, Inhabited

namespace GraphStatistics

def counts (statistics : GraphStatistics) : Entries :=
  [("total", .int statistics.total),
    ("completed", .int statistics.completed),
    ("failed", .int statistics.failed),
    ("cancelled", .int statistics.cancelled),
    ("running", .int statistics.running)]

def entries (statistics : GraphStatistics) : Entries :=
  statistics.counts ++ [("average_duration_ms", .float statistics.averageDurationMs)]

end GraphStatistics

def Statistics.entries (statistics : Statistics) : Entries :=
  statistics.overall.counts ++
    [("success_rate", .float statistics.successRate),
      ("average_duration_ms", .float statistics.overall.averageDurationMs),
      ("per_graph",
        .record (statistics.perGraph.map fun (name, counts) => (name, .record counts.entries)))]

end StepGraph
