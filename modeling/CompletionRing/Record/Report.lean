import CompletionRing.Engine
import CompletionRing.Record.Layout

/-!
# Reports and status

What one engine's record says is a report; the reports of all engines reduce to one status.
-/

namespace CompletionRing

/-- How the record of one engine reads. -/
inductive Completion where
  | pending
  | ran
  | skipped
  deriving DecidableEq

namespace Completion

def ofMarker (marker : UInt32) : Completion :=
  if marker = doneMarker then .ran
  else if marker = skippedMarker then .skipped
  else .pending

def isComplete : Completion → Bool
  | .pending => false
  | .ran | .skipped => true

def label : Completion → String
  | .pending => "Pending"
  | .ran => "Ran"
  | .skipped => "Skipped"

end Completion

/-- The status of one unit of submitted work. A unit that nobody asked for yet, or that is not
held, is unavailable. -/
inductive Status where
  | unavailable
  | incomplete
  | successful
  | error
  deriving DecidableEq

namespace Status

/-- A terminal status never changes once it was answered. -/
def isTerminal : Status → Bool
  | .successful | .error => true
  | .unavailable | .incomplete => false

def label : Status → String
  | .unavailable => "Unavailable"
  | .incomplete => "Incomplete"
  | .successful => "Successful"
  | .error => "Error"

instance : Inhabited Status := ⟨.unavailable⟩

end Status

/-- The contents of one engine's record. -/
structure Report where
  engine : Engine
  completion : Completion
  /-- The error register under the layout's mask. -/
  errorBits : UInt32
  checksum : Option UInt32
  workCount : Option UInt32
  lanes : List UInt32
  deriving DecidableEq

def Report.isFaulty (report : Report) : Bool := report.errorBits ≠ 0

/-- All engines have to be complete, and there has to be one; then any error bit decides. -/
def Status.ofReports (reports : List Report) : Status :=
  if reports.isEmpty || !reports.all (·.completion.isComplete) then .incomplete
  else if reports.any Report.isFaulty then .error
  else .successful

end CompletionRing
