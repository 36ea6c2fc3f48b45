import CompletionRing.Snapshot

/-!
# Slots
-/

namespace CompletionRing

/-- How far the host has followed a unit of work. It starts out as begun and is waiting once
somebody asked for it in vain. A completed, failed or abandoned unit is settled. -/
inductive Stage where
  | begun
  | waiting
  | completed
  | failed
  | abandoned
  deriving DecidableEq

namespace Stage

def status : Stage → Status
  | .begun => .unavailable
  | .waiting | .abandoned => .incomplete
  | .completed => .successful
  | .failed => .error

def isSettled : Stage → Bool
  | .begun | .waiting => false
  | .completed | .failed | .abandoned => true

/-- The stage that a status leads to when the device's records give it. -/
def ofStatus : Status → Stage
  | .unavailable => .begun
  | .incomplete => .waiting
  | .successful => .completed
  | .error => .failed

end Stage

/-- What the host keeps of one unit of work. -/
structure Slot where
  sequence : Nat
  number : UInt32
  frame : Option Frame
  stage : Stage
  /-- The reports of the last evaluation. -/
  reports : List Report
  deriving DecidableEq

namespace Slot

def begun (sequence : Nat) (number : UInt32) (frame : Option Frame) : Slot :=
  ⟨sequence, number, frame, .begun, []⟩

def status (slot : Slot) : Status := slot.stage.status

def snapshot (slot : Slot) : Snapshot :=
  ⟨slot.sequence, some slot.number, slot.frame, slot.status, slot.reports⟩

end Slot

end CompletionRing
