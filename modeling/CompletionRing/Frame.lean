/-!
# Frames

A frame is a resource that a unit of work fills. It lives as long as somebody holds it; the ring
itself only refers to frames.
-/

namespace CompletionRing

/-- A frame is told apart from an earlier one of the same id by its serial number. -/
structure Frame where
  id : Nat
  serial : Nat
  deriving DecidableEq

/-- The frames that the host holds, at most one for each id. -/
structure Frames where
  held : List Frame
  created : Nat

namespace Frames

def empty : Frames := ⟨[], 0⟩

def find? (frames : Frames) (id : Nat) : Option Frame := frames.held.find? (·.id = id)

def holds (frames : Frames) (frame : Frame) : Bool := frames.held.contains frame

/-- Lets go of the frame with this id, and says whether there was one. -/
def release (frames : Frames) (id : Nat) : Bool × Frames :=
  ((frames.find? id).isSome, { frames with held := frames.held.filter (·.id ≠ id) })

/-- A new frame takes the place of the one with its id. Says whether the id was free. -/
def create (frames : Frames) (id : Nat) : Bool × Frames :=
  let (taken, rest) := frames.release id
  (!taken, { held := ⟨id, rest.created⟩ :: rest.held, created := rest.created + 1 })

end Frames

end CompletionRing
