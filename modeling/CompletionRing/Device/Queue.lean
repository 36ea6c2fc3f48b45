import CompletionRing.Device.Checksum
import CompletionRing.Ring.Device

/-!
# A model of the device

Each unit that is kicked becomes a job. A job writes the record of every engine that takes part
in it, and then retires the unit unless some engine hangs. Jobs run in any order, and each leaves
the queue before the ring is looked at.
-/

namespace CompletionRing

/-- What an engine does with its part of a job. -/
inductive Conduct where
  | complete
  | fail (code : UInt32)
  /-- Never touches the record. -/
  | skip
  /-- Never ends. -/
  | hang
  deriving DecidableEq

instance : Inhabited Conduct := ⟨.complete⟩

/-- The error register that an engine leaves, if it writes its record at all. -/
def Conduct.errorCode? : Conduct → Option UInt32
  | .complete => some 0
  | .fail code => some code
  | .skip | .hang => none

structure Job where
  sequence : Nat
  /-- In increasing order of engine number. -/
  conducts : List (Engine × Conduct)
  deriving DecidableEq

namespace Job

def hangs (job : Job) : Bool := job.conducts.any (·.2 = .hang)

/-- The fields that an engine stores, the marker last. -/
def fields (sequence lane : Nat) (engine : Engine) (code : UInt32) : List (Field × UInt32) :=
  [(.lane lane, engine.number.toUInt32 + 1), (.checksum, Device.checksum sequence engine),
    (.workCount, 1), (.error, code), (.marker, doneMarker)]

/-- All that the job stores, engine by engine. The lane of an engine is its rank in the job. -/
def writes (job : Job) : List (Engine × Field × UInt32) :=
  job.conducts.zipIdx.flatMap fun ((engine, conduct), lane) =>
    match conduct.errorCode? with
    | none => []
    | some code => (fields job.sequence lane engine code).map fun field => (engine, field)

end Job

/-- How a job ended. -/
inductive Outcome where
  | retired (sequence : Nat)
  | hung (sequence : Nat)
  deriving DecidableEq

structure Device where
  /-- What each engine does in jobs kicked from now on. -/
  defaults : EngineTable Conduct
  /-- Oldest first. -/
  queue : List Job
  retired : Nat
  hung : Nat

namespace Device

def new (engines : List Engine) : Device := ⟨.ofEngines engines .complete, [], 0, 0⟩

def matching (ring : Ring) : Device := new ring.engines

def setConduct (device : Device) (engine : Engine) (conduct : Conduct) : Device :=
  { device with defaults := device.defaults.insert engine conduct }

/-- The conduct of each known engine: the first override for it, or else its default. -/
def conducts (device : Device) (overrides : List (Engine × Conduct)) : List (Engine × Conduct) :=
  device.defaults.entries.map fun (engine, conduct) =>
    (engine, ((overrides.find? (·.1 = engine)).map (·.2)).getD conduct)

def kick (device : Device) (sequence : Nat) (overrides : List (Engine × Conduct)) :
    Traced Device := do
  .emit (.jobQueued sequence)
  return { device with queue := device.queue ++ [⟨sequence, device.conducts overrides⟩] }

/-- Ends a job whose records are written: the unit is retired, unless some engine hangs. -/
def conclude (device : Device) (ring : Ring) (job : Job) : Run (Device × Ring) Outcome :=
  .ofTraced (device, ring) do
    if job.hangs then
      .emit (.jobHung job.sequence)
      return (.hung job.sequence, { device with hung := device.hung + 1 }, ring)
    let (_, ring) ← ring.retire job.sequence
    .emit (.jobRetired job.sequence)
    return (.retired job.sequence, { device with retired := device.retired + 1 }, ring)

/-- Runs a job that has left the queue. A destroyed ring takes no writes, and nothing comes of
the job. -/
def execute (device : Device) (ring : Ring) (job : Job) : Run (Device × Ring) (Option Outcome) :=
  if ring.isDestroyed then .done (device, ring) none
  else ((ring.writeAll job.sequence job.writes).within (device, ·)).bind
    fun _ (device, ring) => (device.conclude ring job).map some

/-- Runs the job at a position of the queue, if there is one. -/
def runAt (device : Device) (ring : Ring) (position : Nat) :
    Run (Device × Ring) (Option Outcome) :=
  match device.queue[position]? with
  | none => .done (device, ring) none
  | some job => execute { device with queue := device.queue.eraseIdx position } ring job

def runOldest (device : Device) (ring : Ring) : Run (Device × Ring) (Option Outcome) :=
  device.runAt ring 0

/-- Runs the oldest job for a unit. -/
def runUnit (device : Device) (ring : Ring) (sequence : Nat) :
    Run (Device × Ring) (Option Outcome) :=
  match device.queue.findIdx? (·.sequence = sequence) with
  | none => .done (device, ring) none
  | some position => device.runAt ring position

/-- Runs the job that a number picks, counted round the queue. -/
def runPicked (device : Device) (ring : Ring) (pick : Nat) :
    Run (Device × Ring) (Option Outcome) :=
  device.runAt ring (pick % device.queue.length)

/-- Runs at most `count` jobs, oldest first, up to one that nothing comes of. -/
def runFirst (device : Device) (ring : Ring) : Nat → Run (Device × Ring) (List Outcome)
  | 0 => .done (device, ring) []
  | count + 1 => (device.runOldest ring).bind fun outcome (device, ring) =>
    match outcome with
    | none => .done (device, ring) []
    | some outcome => (runFirst device ring count).map (outcome :: ·)

/-- Runs the whole queue. -/
def runQueue (device : Device) (ring : Ring) : Run (Device × Ring) (List Outcome) :=
  device.runFirst ring device.queue.length

end Device

end CompletionRing
