import CompletionRing.Frame
import CompletionRing.Record.Report

/-!
# Snapshots

A snapshot is a copy of what the ring knows of one unit of work. It refers to the unit's frame
without keeping it alive.
-/

namespace CompletionRing

structure Snapshot where
  sequence : Nat
  /-- The number that the caller gave the unit; none if the unit is not held. -/
  number : Option UInt32
  frame : Option Frame
  status : Status
  reports : List Report
  deriving DecidableEq

namespace Snapshot

/-- What is known of a unit that the ring does not hold. -/
def unavailable (sequence : Nat) : Snapshot := ⟨sequence, none, none, .unavailable, []⟩

/-- The engines that never ran for this unit. -/
def skipped (snapshot : Snapshot) : List Engine :=
  (snapshot.reports.filter (·.completion = .skipped)).map (·.engine)

/-- The frame, if it is still alive. -/
def frame? (snapshot : Snapshot) (alive : Frame → Bool) : Option Frame :=
  snapshot.frame.filter alive

end Snapshot

/-- What the reference of a snapshot leads to at some moment. -/
inductive Reference where
  | absent
  | dead
  | alive (frame : Frame)
  deriving DecidableEq

/-- A snapshot as somebody sees it at some moment. -/
structure Sight where
  snapshot : Snapshot
  reference : Reference
  deriving DecidableEq

def Snapshot.reference (snapshot : Snapshot) (alive : Frame → Bool) : Reference :=
  match snapshot.frame with
  | none => .absent
  | some frame => if alive frame then .alive frame else .dead

def Snapshot.sight (snapshot : Snapshot) (alive : Frame → Bool) : Sight :=
  ⟨snapshot, snapshot.reference alive⟩

end CompletionRing
