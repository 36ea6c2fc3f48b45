import CompletionRing.Observer.Consumer

/-!
# Audiences

An audience is told of each first success, consumer by consumer in the order of their
subscriptions. A consumer that refuses keeps nobody else from being told. Whoever subscribed
a consumer keeps its own end of it, also after the subscription was cancelled.
-/

namespace CompletionRing

structure Subscription where
  id : UInt32
  name : String
  consumer : Consumer
  /-- Is it still told of successes? -/
  active : Bool

/-- Subscriptions in order, with the cancelled ones still in place. -/
structure Audience where
  nextId : UInt32
  subscriptions : List Subscription

/-- What became of one announcement. -/
structure FanOut where
  delivered : Nat
  failures : List (UInt32 × Refusal)
  deriving DecidableEq

namespace FanOut

def none : FanOut := ⟨0, []⟩

/-- Puts one answer in front of those of the later consumers. -/
def answered (id : UInt32) (answer : Except Refusal Unit) (later : FanOut) : FanOut :=
  match answer with
  | .ok () => { later with delivered := later.delivered + 1 }
  | .error refusal => { later with failures := (id, refusal) :: later.failures }

end FanOut

namespace Audience

def empty : Audience := ⟨0, []⟩

def active (audience : Audience) : List Subscription := audience.subscriptions.filter (·.active)

/-- Does some consumer keep the frame alive? -/
def holds (audience : Audience) (frame : Frame) : Bool :=
  audience.subscriptions.any (·.consumer.holds frame)

/-- Identifiers count up and start again after the last 32-bit number. -/
def subscribe (audience : Audience) (name : String) (consumer : Consumer) : UInt32 × Audience :=
  (audience.nextId,
    { nextId := audience.nextId + 1
      subscriptions := audience.subscriptions ++ [⟨audience.nextId, name, consumer, true⟩] })

/-- Cancels what has this identifier, and says whether there was something to cancel. -/
def cancel (audience : Audience) (id : UInt32) : Bool × Audience :=
  (audience.active.any (·.id = id),
    { audience with subscriptions := audience.subscriptions.map fun subscription =>
        if subscription.id = id then { subscription with active := false } else subscription })

/-- Delivers a snapshot to the active subscriptions of a list, in order. -/
def deliverAll (alive : Frame → Bool) (snapshot : Snapshot) :
    List Subscription → Traced (FanOut × List Subscription)
  | [] => return (.none, [])
  | subscription :: rest =>
    if subscription.active then do
      let (answer, consumer) ← subscription.consumer.deliver alive snapshot
      .emit (.delivered subscription.id subscription.name consumer.kind snapshot answer)
      let (later, rest) ← deliverAll alive snapshot rest
      return (later.answered subscription.id answer, { subscription with consumer } :: rest)
    else do
      let (later, rest) ← deliverAll alive snapshot rest
      return (later, subscription :: rest)

/-- A frame is alive if it is `held` elsewhere or by one of the consumers. -/
def keepsAlive (audience : Audience) (held : Frame → Bool) (frame : Frame) : Bool :=
  held frame || audience.holds frame

/-- Tells the audience of a snapshot. -/
def announce (audience : Audience) (held : Frame → Bool) (snapshot : Snapshot) :
    Traced (FanOut × Audience) := do
  .emit (.announced snapshot)
  let (fanOut, subscriptions) ←
    deliverAll (audience.keepsAlive held) snapshot audience.subscriptions
  return (fanOut, { audience with subscriptions })

/-- The caller's end of the subscription at a position. -/
def consumer? (audience : Audience) (position : Nat) : Option Consumer :=
  (audience.subscriptions[position]?).map (·.consumer)

def setConsumer (audience : Audience) (position : Nat) (consumer : Consumer) : Audience :=
  { audience with subscriptions :=
      audience.subscriptions.modify position fun subscription => { subscription with consumer } }

/-- What the caller does with its audience and its own ends of the consumers. -/
inductive Op where
  | subscribe (name : String) (setup : ConsumerSetup)
  | cancel (position : Nat)
  | receive (position : Nat) (limit : Option Nat)
  | hangUp (position : Nat)
  | inspect (position : Nat)

inductive Reply where
  | subscribed (id : UInt32)
  | cancelled (found : Bool)
  | received (snapshots : Option (List Sight))
  | hungUp
  | inspected (consumer : Consumer)
  /-- There is no such consumer, or it has no such end. -/
  | absent

/-- One operation. A consumer that there is no room for is not subscribed. -/
def perform (audience : Audience) (held : Frame → Bool) : Op → Except Fault (Reply × Audience)
  | .subscribe name setup => do
    let (id, audience) := audience.subscribe name (← setup.make)
    return (.subscribed id, audience)
  | .cancel position =>
    match audience.subscriptions[position]? with
    | none => return (.absent, audience)
    | some subscription =>
      let (found, audience) := audience.cancel subscription.id
      return (.cancelled found, audience)
  | .receive position limit =>
    match audience.consumer? position with
    | some (.channel channel) =>
      let (snapshots, channel) := channel.receive limit
      let sights := snapshots.map (·.map (·.sight (audience.keepsAlive held)))
      return (.received sights, audience.setConsumer position (.channel channel))
    | _ => return (.absent, audience)
  | .hangUp position =>
    match audience.consumer? position with
    | some (.channel channel) =>
      return (.hungUp, audience.setConsumer position (.channel channel.hangUp))
    | _ => return (.absent, audience)
  | .inspect position =>
    match audience.consumer? position with
    | some consumer => return (.inspected consumer, audience)
    | none => return (.absent, audience)

end Audience

end CompletionRing
