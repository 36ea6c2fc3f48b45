import CompletionRing.Ring.Basic
import CompletionRing.Run

/-!
# The device's side of a ring

The device knows units by their number only: it writes to the index of a unit whether or not
the ring still holds the unit. A destroyed ring has no memory to write to.
-/

namespace CompletionRing.Ring

/-- Stores a field of an engine's record of a unit, and says whether the engine and the field
exist. -/
def write (ring : Ring) (engine : Engine) (sequence : Nat) (field : Field) (value : UInt32) :
    Except Fault (Option Bool × Ring) :=
  match ring.store with
  | none => return (none, ring)
  | some store => do
    let (known, store) ← store.write engine (ring.index sequence) field value
    return (some known, { ring with store := some store })

/-- Stores fields of a unit's records one after the other. -/
def writeAll (ring : Ring) (sequence : Nat) : List (Engine × Field × UInt32) → Run Ring Unit
  | [] => .done ring ()
  | (engine, field, value) :: rest =>
    (Run.ofTraced ring (ring.write engine sequence field value)).bind fun _ ring =>
      ring.writeAll sequence rest

/-- Marks a unit as retired, and says at which index. -/
def retire (ring : Ring) (sequence : Nat) : Except Fault (Option Nat × Ring) :=
  match ring.store with
  | none => return (none, ring)
  | some store => do
    let index := ring.index sequence
    let store ← store.retire index sequence
    return (some index, { ring with store := some store })

end CompletionRing.Ring
