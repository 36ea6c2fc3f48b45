/-!
# Faults

A computation either ends normally or stops at a fault: an access that a region does not allow,
a count that no longer fits its 64 bits, or room that no memory has.
-/

namespace CompletionRing

/-- Why a computation stops short. -/
inductive Fault where
  | wordOutOfRange (offset length : Nat)
  | unalignedWord (offset : Nat)
  | fillOutOfRange (offset count length : Nat)
  | overflow
  | noRoom
  | boundTooLarge
  deriving DecidableEq

def Fault.message : Fault → String
  | .wordOutOfRange offset length =>
    s!"word at {offset} out of range for region of {length} bytes"
  | .unalignedWord offset => s!"unaligned word access at {offset}"
  | .fillOutOfRange offset count length =>
    s!"fill {offset}+{count} out of range for region of {length} bytes"
  | .overflow => "attempt to add with overflow"
  | .noRoom => "capacity overflow"
  | .boundTooLarge => "bounded channel capacity is too large"

/-- The sum of two counts, which has to fit in 64 bits. -/
def addCounts (a b : Nat) : Except Fault Nat :=
  if a + b < UInt64.size then .ok (a + b) else .error .overflow

/-- The most bytes in one piece, half of the address space. -/
def roomLimit : Nat := 0x7fffffffffffffff

/-- Reserves room in one piece for `count` items of `width` bytes. -/
def reserveItems (count width : Nat) : Except Fault Unit :=
  if count * width ≤ roomLimit then .ok () else .error .noRoom

end CompletionRing
