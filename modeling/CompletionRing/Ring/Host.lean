import CompletionRing.Ring.Basic

/-!
# The host's side of a ring

The host begins units, asks for them, and gives up on them. A terminal answer is kept: whatever
the device writes later, a settled unit is answered from its slot. The first successful answer
for a unit is announced to the audience.
-/

namespace CompletionRing.Ring

/-- The number of reported units once the slot of a new unit is free: a unit that is evicted
unsettled counts as reported. -/
def evict (ring : Ring) (index : Nat) : Traced Nat :=
  match ring.slots[index]?.join with
  | none => return ring.reported
  | some previous =>
    if previous.stage.isSettled then return ring.reported
    else do
      .emit (.evicted ring.name previous.sequence previous.status)
      addCounts ring.reported 1

/-- Starts the next unit in the slot of the unit `capacity` units before. All records of its
index are marked as skipped. -/
def begin (ring : Ring) (number : UInt32) (frame : Option Frame) :
    Traced (Except Error Ticket × Ring) :=
  match ring.store with
  | none => return (.error (.destroyed ring.name), ring)
  | some store => do
    let sequence := ring.submitted
    let index := ring.index sequence
    let reported ← ring.evict index
    let store ← store.prime index
    let submitted ← addCounts ring.submitted 1
    .emit (.began ring.name sequence index number)
    return (.ok ⟨sequence, index⟩,
      { ring.setSlot (.begun sequence number frame) with
        store := some store, submitted, reported })

/-- Zeroes the records of a live unit, so that it can be submitted again. Its slot stays as it
is. -/
def prepareRetry (ring : Ring) (sequence : Nat) : Traced (Except Error Ticket × Ring) :=
  match ring.store with
  | none => return (.error (.destroyed ring.name), ring)
  | some store =>
    match ring.slot? sequence with
    | none => return (.error (.stale sequence), ring)
    | some slot => do
      let index := ring.index sequence
      if slot.status.isTerminal then
        .emit (.retriedResolved ring.name sequence slot.status)
      let store ← store.clear index
      .emit (.retried ring.name sequence index)
      return (.ok ⟨sequence, index⟩, { ring with store := some store })

/-- Did the unit at `index` retire, by its fence word? -/
def hasRetired (store : RecordStore) (index sequence : Nat) : Except Fault Bool :=
  return sequence < (← store.fenceWord index).toNat

/-- Tells the audience of a first success. -/
def announce (ring : Ring) (held : Frame → Bool) (snapshot : Snapshot) : Traced Ring := do
  let (fanOut, audience) ← ring.audience.announce held snapshot
  let refusals ← addCounts ring.refusals fanOut.failures.length
  return { ring with audience, refusals }

/-- Keeps a slot with the status of its latest evaluation. A terminal status counts the unit as
reported, and a success is announced. -/
def resolve (ring : Ring) (held : Frame → Bool) (slot : Slot) : Traced (Snapshot × Ring) := do
  let ring := ring.setSlot slot
  if slot.stage.isSettled then
    let reported ← addCounts ring.reported 1
    let ring := { ring with reported }
    if slot.stage = .completed then
      return (slot.snapshot, ← ring.announce held slot.snapshot)
    else return (slot.snapshot, ring)
  else return (slot.snapshot, ring)

/-- The status of a unit. A live unit that is not settled is evaluated from its records once its
fence word says that it retired. Frames that are `held` elsewhere can be promoted. -/
def query (ring : Ring) (held : Frame → Bool) (sequence : Nat) : Traced (Snapshot × Ring) :=
  match ring.store, ring.slot? sequence with
  | some store, some slot => do
    let index := ring.index sequence
    let retired ← hasRetired store index sequence
    if slot.stage.isSettled then return (slot.snapshot, ring)
    else if !retired then
      let slot := { slot with stage := .waiting }
      return (slot.snapshot, ring.setSlot slot)
    else do
      let reports ← store.reports index
      let status := Status.ofReports reports
      .emit (.evaluated ring.name sequence status)
      ring.resolve held { slot with stage := .ofStatus status, reports }
  | _, _ => do
    .emit (.outOfWindow ring.name sequence)
    return (.unavailable sequence, ring)

/-- Answers that a live unit is unavailable, without any change. -/
def disown (ring : Ring) (sequence : Nat) : Traced Snapshot :=
  match ring.slot? sequence with
  | none => return .unavailable sequence
  | some slot => do
    .emit (.forcedUnavailable ring.name sequence)
    return { slot.snapshot with status := .unavailable }

/-- Gives up on a live unit, which stays incomplete from now on unless it was resolved
before. -/
def abandon (ring : Ring) (sequence : Nat) : Traced (Snapshot × Ring) :=
  match ring.slot? sequence with
  | none => return (.unavailable sequence, ring)
  | some slot =>
    if slot.status.isTerminal then return (slot.snapshot, ring)
    else do
      .emit (.abandoned ring.name sequence slot.number)
      let reported ← if slot.stage.isSettled then pure ring.reported
        else (addCounts ring.reported 1 : Except Fault Nat)
      let slot := { slot with stage := .abandoned }
      return (slot.snapshot, { ring.setSlot slot with reported })

/-- Overrides the status of a unit without a look at the records: as unavailable if it is out of
range, or else as incomplete for good. -/
def force (ring : Ring) (sequence : Nat) (outOfRange : Bool) : Traced (Snapshot × Ring) :=
  if outOfRange then return (← ring.disown sequence, ring) else ring.abandon sequence

end CompletionRing.Ring
