import CompletionRing.Ring.Basic

/-!
# Locations

What a command for the device has to name: the place of a record and of a fence word.
-/

namespace CompletionRing

/-- A range of bytes in one of the regions of a ring. -/
structure Location where
  region : String
  offset : Nat
  length : Nat
  deriving DecidableEq

namespace Ring

/-- Where the record of a live unit is, for an engine of the ring. -/
def recordRange? (ring : Ring) (engine : Engine) (sequence : Nat) : Option Location := do
  let index ← ring.heldIndex? sequence
  let bank ← (← ring.store).bank? engine
  return ⟨s!"{ring.name}.{bank.name}", bank.layout.recordOffset index, bank.layout.recordSize⟩

/-- Where the fence word of a live unit is. -/
def fenceRange? (ring : Ring) (sequence : Nat) : Option Location := do
  let index ← ring.heldIndex? sequence
  return ⟨s!"{ring.name}.fence", RecordStore.fenceOffset index, fenceWidth⟩

end Ring

end CompletionRing
