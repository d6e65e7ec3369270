import Backlog.Json.Printer
import Backlog.Number.Fixed

/-!
# Timing of operations

Durations, in nanoseconds, are recorded under the names of operations. A report names each
operation once, in the order of names, with its number of samples and three percentiles.

**Percentiles** are of nearest rank: the value of rank `⌈q · n / 100⌉` among the `n` samples in
ascending order.
-/

namespace Backlog

/-- A summary of the samples of one operation. -/
structure OperationTiming where
  name : String
  count : Nat
  p50 : Nat
  p95 : Nat
  p99 : Nat
deriving DecidableEq

structure TimingReport where
  operations : List OperationTiming
deriving DecidableEq

namespace Timing

/-! ## Percentiles -/

/-- The rank of a percentage among so many samples, counted from zero. -/
def rank (count percent : Nat) : Nat :=
  min ((min percent 100 * count + 99) / 100 - 1) (count - 1)

/-- The percentile of samples in ascending order; without samples zero. -/
def percentile (sorted : List Nat) (percent : Nat) : Nat :=
  (sorted[rank sorted.length percent]?).getD 0

def summary (name : String) (samples : List Nat) : OperationTiming :=
  let sorted := samples.mergeSort
  ⟨name, samples.length, percentile sorted 50, percentile sorted 95, percentile sorted 99⟩

/-- The samples of every operation, in the order in which they were recorded. -/
def grouped (samples : List (String × Nat)) : Record (List Nat) :=
  samples.foldl (fun r e => r.insert e.1 ((r.find? e.1).getD [] ++ [e.2])) .empty

def report (samples : List (String × Nat)) : TimingReport :=
  ⟨(grouped samples).entries.map fun e => summary e.1 e.2⟩

/-! ## Output -/

/-- The nearest floating number of seconds: whole seconds and nanoseconds are rounded each, and
so is their sum. -/
def seconds? (nanos : Nat) : Option Binary64 := do
  let whole ← Binary64.ofNat? (nanos / 1000000000)
  let part ← (← Binary64.ofNat? (nanos % 1000000000)).div? (← Binary64.ofNat? 1000000000)
  whole.addMagnitude? part

/-- A duration in the unit that suits it. -/
def human (nanos : Nat) : String :=
  let micros := nanos / 1000
  let inSeconds := (seconds? nanos).getD (.zero false)
  if micros < 1000 then toString micros ++ "µs"
  else if micros < 1000000 then
    (((Binary64.ofNat? 1000).bind inSeconds.mul?).getD (.zero false)).threePlaces ++ "ms"
  else inSeconds.threePlaces ++ "s"

def padRight (width : Nat) (s : String) : String :=
  s ++ String.ofList (List.replicate (width - s.length) ' ')

def padLeft (width : Nat) (s : String) : String :=
  String.ofList (List.replicate (width - s.length) ' ') ++ s

def tableRow (name count p50 p95 p99 : String) : String :=
  padRight 32 name ++ " " ++ padLeft 6 count ++ " " ++ padLeft 10 p50 ++ " " ++ padLeft 10 p95 ++
    " " ++ padLeft 10 p99 ++ "\n"

end Timing

namespace TimingReport

def isEmpty (r : TimingReport) : Bool := r.operations.isEmpty

/-- A table of fixed columns. -/
def table (r : TimingReport) : String :=
  Timing.tableRow "operation" "count" "p50" "p95" "p99" ++
    String.join (r.operations.map fun o =>
      Timing.tableRow o.name (toString o.count) (Timing.human o.p50) (Timing.human o.p95)
        (Timing.human o.p99))

def operationJson (o : OperationTiming) : Json :=
  .obj [("name", .str o.name), ("count", .int o.count), ("p50_us", .int ↑(o.p50 / 1000)),
    ("p95_us", .int ↑(o.p95 / 1000)), ("p99_us", .int ↑(o.p99 / 1000))]

def toJson (r : TimingReport) : Json :=
  .obj [("operations", .arr (r.operations.map operationJson))]

end TimingReport

end Backlog
