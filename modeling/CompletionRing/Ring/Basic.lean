import CompletionRing.Observer.Audience
import CompletionRing.Record.Store
import CompletionRing.Ring.Slot

/-!
# Completion rings

A ring of capacity `N` follows the last `N` units of submitted work. Unit `s` has the index
`s % N`, both among the host's slots and in the memory shared with the device.
-/

namespace CompletionRing

structure Ring where
  name : String
  capacity : Nat
  /-- The memory shared with the device, until the ring is destroyed. -/
  store : Option RecordStore
  slots : Array (Option Slot)
  submitted : Nat
  /-- Units that were answered terminally, abandoned, or evicted before either. -/
  reported : Nat
  audience : Audience
  /-- Deliveries that were refused. -/
  refusals : Nat

/-- A unit of work, and its index in the ring. -/
structure Ticket where
  sequence : Nat
  index : Nat
  deriving DecidableEq

/-- Why there is no ring. -/
inductive CreationError where
  | flawed (flaw : Flaw)
  | allocation (error : AllocationError)
  deriving DecidableEq

def CreationError.message : CreationError → String
  | .flawed flaw => flaw.message
  | .allocation error => s!"status store allocation failed: {error.message}"

namespace Ring

/-- Why an operation on a ring is refused. -/
inductive Error where
  | stale (sequence : Nat)
  | destroyed (name : String)
  deriving DecidableEq

def Error.message : Error → String
  | .stale sequence => s!"submission {sequence} is no longer held by the ring"
  | .destroyed name => s!"status ring `{name}` has been destroyed"

def isDestroyed (ring : Ring) : Bool := ring.store.isNone

/-- Units that still wait for a terminal answer. -/
def outstanding (ring : Ring) : Nat := ring.submitted - ring.reported

def index (ring : Ring) (sequence : Nat) : Nat := sequence % ring.capacity

/-- Is the unit among the last `capacity` units of a ring that was not destroyed? -/
def holds (ring : Ring) (sequence : Nat) : Bool :=
  !ring.isDestroyed && sequence < ring.submitted && ring.submitted - sequence ≤ ring.capacity

def heldIndex? (ring : Ring) (sequence : Nat) : Option Nat :=
  if ring.holds sequence then some (ring.index sequence) else none

/-- The slot of a live unit. -/
def slot? (ring : Ring) (sequence : Nat) : Option Slot :=
  (ring.heldIndex? sequence).bind fun index => ring.slots[index]?.join

def setSlot (ring : Ring) (slot : Slot) : Ring :=
  { ring with slots := ring.slots.setIfInBounds (ring.index slot.sequence) (some slot) }

def hasAbandoned (ring : Ring) (sequence : Nat) : Bool :=
  (ring.slot? sequence).any (·.stage = .abandoned)

/-- The engines of the ring in order; none once it was destroyed. -/
def engines (ring : Ring) : List Engine :=
  match ring.store with
  | none => []
  | some store => store.engines

def layout? (ring : Ring) (engine : Engine) : Option Layout := do
  return (← (← ring.store).bank? engine).layout

end Ring

end CompletionRing
