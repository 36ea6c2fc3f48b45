/-!
# Record layouts

An engine reports on a unit of work in a record of 32-bit fields. Compact records carry a
marker, an error register, one lane and a checksum; extended ones have four lanes and a work
counter as well.
-/

namespace CompletionRing

/-- Written by an engine that finished its part. -/
def doneMarker : UInt32 := 0x444F4E45

/-- Written by the host beforehand; it stays where the engine never ran. -/
def skippedMarker : UInt32 := 0x534B4950

/-- A field of a record. -/
inductive Field where
  | marker
  | error
  | lane (number : Nat)
  | checksum
  | workCount
  deriving DecidableEq

inductive Layout where
  | compact
  | extended
  deriving DecidableEq

namespace Layout

/-- No layout has more lanes than this. -/
def maxLanes : Nat := 4

/-- Records start at multiples of this many bytes. -/
def recordAlignment : Nat := 16

def recordSize : Layout → Nat
  | .compact => 16
  | .extended => 64

def laneCount : Layout → Nat
  | .compact => 1
  | .extended => 4

/-- The bits of the error register that make a unit of work fail. The upper half of the extended
register holds counters. -/
def errorMask : Layout → UInt32
  | .compact => 0xFFFFFFFF
  | .extended => 0x0000FFFF

/-- Where a field starts inside the record, if the layout has it. -/
def offset? : Layout → Field → Option Nat
  | _, .marker => some 0
  | _, .error => some 4
  | layout, .lane number => if number < layout.laneCount then some (8 + 4 * number) else none
  | .compact, .checksum => some 12
  | .extended, .checksum => some 24
  | .compact, .workCount => none
  | .extended, .workCount => some 28

/-- The distance between records: the record size rounded up to the record alignment. -/
def stride (layout : Layout) : Nat :=
  (layout.recordSize + (recordAlignment - 1)) / recordAlignment * recordAlignment

def recordOffset (layout : Layout) (index : Nat) : Nat := index * layout.stride

/-- The bytes that `capacity` records take. -/
def regionSize (layout : Layout) (capacity : Nat) : Nat := capacity * layout.stride

end Layout

end CompletionRing
