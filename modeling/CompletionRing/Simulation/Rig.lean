import CompletionRing.Device.Queue
import CompletionRing.Ring.Host
import CompletionRing.Ring.Lifetime
import CompletionRing.Ring.Location
import CompletionRing.Text.Description

/-!
# Rigs

A rig is a ring with a device on its other side and the pool of its regions. What can be done
to it is data.
-/

namespace CompletionRing

structure Rig where
  ring : Ring
  device : Device
  pool : Pool

namespace Rig

inductive Op where
  /-- Begins a unit, for the frame that the host holds under an id. -/
  | begin (number : UInt32) (frame : Option Nat)
  | prepareRetry (sequence : Nat)
  | query (sequence : Nat)
  /-- Asks for a unit, and wants its description. -/
  | describe (sequence : Nat)
  | force (sequence : Nat) (outOfRange : Bool)
  /-- Where a unit is, for all engines of the ring and one more. -/
  | locate (sequence : Nat) (engine : Option Engine)
  | layout (engine : Engine)
  | introduce
  | write (engine : Engine) (sequence : Nat) (field : Field) (value : UInt32)
  | retire (sequence : Nat)
  | destroy
  | replaceDevice (engines : List Engine)
  | setConduct (engine : Engine) (conduct : Conduct)
  | kick (sequence : Nat) (overrides : List (Engine × Conduct))
  | runOldest
  | runUnit (sequence : Nat)
  | runQueue
  | runPicked (pick : Nat)

/-- Where a unit is. -/
structure Whereabouts where
  index : Nat
  live : Option Nat
  abandoned : Bool
  fence : Option Location
  records : List (Engine × Option Location)

inductive Reply where
  | ticket (answer : Except Ring.Error Ticket)
  | sighted (sight : Sight)
  | described (text : String)
  | located (whereabouts : Whereabouts)
  | layout (layout : Option Layout)
  | introduced (name : String) (capacity : Nat) (engines : List Engine)
  | written (known : Option Bool)
  | retired (index : Option Nat)
  | destroyed (done : Bool)
  | done
  | outcome (outcome : Option Outcome)
  | outcomes (outcomes : List Outcome)

def whereabouts (ring : Ring) (sequence : Nat) (engine : Option Engine) : Whereabouts where
  index := ring.index sequence
  live := ring.heldIndex? sequence
  abandoned := ring.hasAbandoned sequence
  fence := ring.fenceRange? sequence
  records := (ring.engines ++ engine.toList).map fun engine =>
    (engine, ring.recordRange? engine sequence)

/-- A snapshot as it is seen after an operation on the ring. -/
def sightOf (held : Frame → Bool) (snapshot : Snapshot) (ring : Ring) : Sight :=
  snapshot.sight (ring.audience.keepsAlive held)

/-- Jobs as work on the rig. -/
def ofJobs {α : Type} (rig : Rig) (jobs : Run (Device × Ring) α) (reply : α → Reply) :
    Run Rig Reply :=
  (jobs.map reply).within fun (device, ring) => { rig with device, ring }

/-- One operation. A fault leaves the rig as the operation found it, but for jobs, which leave it
as far as they got. -/
def perform (rig : Rig) (frames : Frames) (held : Frame → Bool) : Op → Run Rig Reply
  | .begin number frame => .ofTraced rig do
    let (answer, ring) ← rig.ring.begin number (frame.bind frames.find?)
    return (.ticket answer, { rig with ring })
  | .prepareRetry sequence => .ofTraced rig do
    let (answer, ring) ← rig.ring.prepareRetry sequence
    return (.ticket answer, { rig with ring })
  | .query sequence => .ofTraced rig do
    let (snapshot, ring) ← rig.ring.query held sequence
    return (.sighted (sightOf held snapshot ring), { rig with ring })
  | .describe sequence => .ofTraced rig do
    let (snapshot, ring) ← rig.ring.query held sequence
    return (.described snapshot.describe, { rig with ring })
  | .force sequence outOfRange => .ofTraced rig do
    let (snapshot, ring) ← rig.ring.force sequence outOfRange
    return (.sighted (sightOf held snapshot ring), { rig with ring })
  | .locate sequence engine => .done rig (.located (whereabouts rig.ring sequence engine))
  | .layout engine => .done rig (.layout (rig.ring.layout? engine))
  | .introduce => .done rig (.introduced rig.ring.name rig.ring.capacity rig.ring.engines)
  | .write engine sequence field value => .ofTraced rig do
    let (known, ring) ← rig.ring.write engine sequence field value
    return (.written known, { rig with ring })
  | .retire sequence => .ofTraced rig do
    let (index, ring) ← rig.ring.retire sequence
    return (.retired index, { rig with ring })
  | .destroy => .ofTraced rig do
    let (ring, pool) ← rig.ring.destroy rig.pool
    return (.destroyed ring.isDestroyed, { rig with ring, pool })
  | .replaceDevice engines => .done { rig with device := .new engines } .done
  | .setConduct engine conduct =>
    .done { rig with device := rig.device.setConduct engine conduct } .done
  | .kick sequence overrides => .ofTraced rig do
    return (.done, { rig with device := ← rig.device.kick sequence overrides })
  | .runOldest => rig.ofJobs (rig.device.runOldest rig.ring) .outcome
  | .runUnit sequence => rig.ofJobs (rig.device.runUnit rig.ring sequence) .outcome
  | .runQueue => rig.ofJobs (rig.device.runQueue rig.ring) .outcomes
  | .runPicked pick => rig.ofJobs (rig.device.runPicked rig.ring pick) .outcome

/-- Operations one after the other. -/
def performAll (rig : Rig) (frames : Frames) (held : Frame → Bool) :
    List Op → Run Rig (List Reply)
  | [] => .done rig []
  | op :: rest => (rig.perform frames held op).bind fun reply rig =>
    (rig.performAll frames held rest).map (reply :: ·)

end Rig

end CompletionRing
