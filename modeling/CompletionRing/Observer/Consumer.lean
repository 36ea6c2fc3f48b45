import CompletionRing.Journal

/-!
# Consumers

A consumer takes snapshots or refuses them: a function, a channel with a waiting receiver, a
bounded list of promoted frames, or counters.
-/

namespace CompletionRing

/-- A function that answers each snapshot by the number of earlier calls. -/
structure Callback where
  calls : Nat
  answer : Nat → Snapshot → Except Refusal Unit

namespace Callback

/-- Answers in turn from a list, over and over; an empty list takes everything. -/
def cycling (answers : List (Except Refusal Unit)) : Callback where
  calls := 0
  answer call _ := answers.getD (call % answers.length) (.ok ())

def deliver (callback : Callback) (snapshot : Snapshot) : Except Refusal Unit × Callback :=
  (callback.answer callback.calls snapshot, { callback with calls := callback.calls + 1 })

end Callback

/-- A first-in first-out queue that never blocks its sender. -/
structure Channel where
  /-- How many snapshots may wait; none if there is no limit. -/
  bound : Option Nat
  waiting : List Snapshot
  /-- Is the receiving end still there? -/
  receiving : Bool

namespace Channel

def new (bound : Option Nat) : Channel := ⟨bound, [], true⟩

/-- A bound stays below a quarter of the address space. -/
def boundLimit : Nat := 0x4000000000000000

/-- The bytes that one waiting snapshot takes. -/
def placeWidth : Nat := 280

/-- Reserves the places of a channel, if it has a bound. -/
def reserve : Option Nat → Except Fault Unit
  | none => return ()
  | some bound =>
    if bound < boundLimit then reserveItems bound placeWidth else .error .boundTooLarge

def isFull (channel : Channel) : Bool := channel.bound.any (· ≤ channel.waiting.length)

/-- A channel that lost its receiver is disconnected, full or not. -/
def deliver (channel : Channel) (snapshot : Snapshot) : Except Refusal Unit × Channel :=
  if !channel.receiving then (.error .disconnected, channel)
  else if channel.isFull then (.error .full, channel)
  else (.ok (), { channel with waiting := channel.waiting ++ [snapshot] })

/-- Takes at most `limit` waiting snapshots, oldest first; none without a receiver. -/
def receive (channel : Channel) (limit : Option Nat) : Option (List Snapshot) × Channel :=
  if channel.receiving then
    let count := limit.getD channel.waiting.length
    (some (channel.waiting.take count), { channel with waiting := channel.waiting.drop count })
  else (none, channel)

/-- Drops the receiver and what waits for it. -/
def hangUp (channel : Channel) : Channel := { channel with waiting := [], receiving := false }

end Channel

/-- The frames of the latest successes, oldest first. The list keeps its frames alive. -/
structure Promotions where
  capacity : Nat
  entries : List (UInt32 × Frame)

namespace Promotions

/-- There is room for at least one frame. -/
def new (capacity : Nat) : Promotions := ⟨max capacity 1, []⟩

/-- The bytes that one entry takes. -/
def entryWidth : Nat := 16

/-- Reserves room for the entries of a list. -/
def reserve (capacity : Nat) : Except Fault Unit := reserveItems capacity entryWidth

def holds (list : Promotions) (frame : Frame) : Bool := list.entries.any (·.2 = frame)

def get? (list : Promotions) (number : UInt32) : Option Frame :=
  (list.entries.find? (·.1 = number)).map (·.2)

def contains (list : Promotions) (number : UInt32) : Bool := list.entries.any (·.1 = number)

def numbers (list : Promotions) : List UInt32 := list.entries.map (·.1)

/-- The number and the live frame of a snapshot that can be promoted. The frame is looked at
before the number. -/
def candidate (alive : Frame → Bool) (snapshot : Snapshot) : Except Refusal (UInt32 × Frame) :=
  match snapshot.frame? alive with
  | none => .error (.rejected "frame resource no longer alive")
  | some frame =>
    match snapshot.number with
    | none => .error (.rejected "snapshot has no report number")
    | some number => .ok (number, frame)

/-- The oldest entry makes room in a full list. -/
def push (list : Promotions) (entry : UInt32 × Frame) : Promotions :=
  let kept := if list.entries.length = list.capacity then list.entries.drop 1 else list.entries
  { list with entries := kept ++ [entry] }

def deliver (list : Promotions) (alive : Frame → Bool) (snapshot : Snapshot) :
    Traced (Except Refusal Unit × Promotions) :=
  match candidate alive snapshot with
  | .error refusal => return (.error refusal, list)
  | .ok entry => do
    .emit (.promoted entry.1)
    return (.ok (), list.push entry)

end Promotions

/-- Counters of the successes of one stream of numbered units. -/
structure Telemetry where
  successes : Nat
  /-- Successes with a lower number than the one before. -/
  outOfOrder : Nat
  lastNumber : Option UInt32
  /-- For each engine, how many units it skipped. -/
  skipped : EngineTable Nat

namespace Telemetry

def new : Telemetry := ⟨0, 0, none, .empty⟩

def countNumber (counts : Telemetry) : Option UInt32 → Telemetry
  | none => counts
  | some number => { counts with
      outOfOrder := counts.outOfOrder + if counts.lastNumber.any (number < ·) then 1 else 0
      lastNumber := some number }

def countSkipped (counts : Telemetry) (engine : Engine) : Telemetry :=
  { counts with skipped := counts.skipped.insert engine ((counts.skipped.get? engine).getD 0 + 1) }

def deliver (counts : Telemetry) (snapshot : Snapshot) : Telemetry :=
  snapshot.skipped.foldl countSkipped
    ({ counts with successes := counts.successes + 1 }.countNumber snapshot.number)

end Telemetry

inductive Consumer where
  | callback (function : Callback)
  | channel (queue : Channel)
  | promotions (list : Promotions)
  | telemetry (counts : Telemetry)

namespace Consumer

def kind : Consumer → ConsumerKind
  | .callback _ => .callback
  | .channel _ => .channel
  | .promotions _ | .telemetry _ => .shared

def holds : Consumer → Frame → Bool
  | .promotions list, frame => list.holds frame
  | _, _ => false

def deliver (alive : Frame → Bool) (snapshot : Snapshot) :
    Consumer → Traced (Except Refusal Unit × Consumer)
  | .callback function =>
    let (answer, function) := function.deliver snapshot
    return (answer, .callback function)
  | .channel queue =>
    let (answer, queue) := queue.deliver snapshot
    return (answer, .channel queue)
  | .promotions list => do
    let (answer, list) ← list.deliver alive snapshot
    return (answer, .promotions list)
  | .telemetry counts => return (.ok (), .telemetry (counts.deliver snapshot))

end Consumer

/-- What a caller wants to subscribe. -/
inductive ConsumerSetup where
  | callback (function : Callback)
  | channel (bound : Option Nat)
  | promotions (capacity : Nat)
  | telemetry

/-- A new consumer. The room of a bounded channel and of a list is reserved beforehand. -/
def ConsumerSetup.make : ConsumerSetup → Except Fault Consumer
  | .callback function => return .callback function
  | .channel bound => do
    Channel.reserve bound
    return .channel (.new bound)
  | .promotions capacity => do
    Promotions.reserve capacity
    return .promotions (.new capacity)
  | .telemetry => return .telemetry .new

end CompletionRing
