import CompletionRing.Proofs.Ring.Steps

/-!
# Archives

An archive does what a ring does, without a ring: it keeps a file on every unit that was ever
begun, with fields of its own for each engine and a mark once the unit retired. Only the window
that its answers are restricted to reminds of the ring.
-/

namespace CompletionRing

/-- The file on one unit. -/
structure Dossier where
  slot : Slot
  fields : Engine → Field → UInt32
  retired : Bool

namespace Dossier

def begun (sequence : Nat) (number : UInt32) (frame : Option Frame) : Dossier where
  slot := .begun sequence number frame
  fields _ field := if field = .marker then skippedMarker else 0
  retired := false

def cleared (dossier : Dossier) : Dossier := { dossier with fields := fun _ _ => 0 }

def withField (dossier : Dossier) (engine : Engine) (field : Field) (datum : UInt32) : Dossier :=
  { dossier with fields := fun engine' field' =>
      if engine' = engine ∧ field' = field then datum else dossier.fields engine' field' }

/-- Does the unit still wait for a terminal answer? -/
def isOpen (dossier : Dossier) : Bool := !dossier.slot.stage.isSettled

/-- The reports of the engines, in order. -/
def reports (dossier : Dossier) (engines : List (Engine × Layout)) : List Report :=
  engines.map fun (engine, layout) => .ofFields engine layout (dossier.fields engine)

/-- What is known of the unit after somebody asked for it. A unit that is not settled waits until
it retires, and then its reports decide. -/
def asked (dossier : Dossier) (engines : List (Engine × Layout)) : Dossier :=
  if dossier.slot.stage.isSettled then dossier
  else if dossier.retired then
    { dossier with slot := dossier.slot.evaluated (dossier.reports engines) }
  else { dossier with slot := dossier.slot.waiting }

/-- A unit that is not settled is given up. -/
def givenUp (dossier : Dossier) : Dossier :=
  if dossier.slot.stage.isSettled then dossier
  else { dossier with slot := dossier.slot.abandoned }

end Dossier

structure Archive where
  name : String
  /-- How many of the latest units are live. -/
  window : Nat
  engines : List (Engine × Layout)
  /-- Of all units ever begun, by number. -/
  dossiers : List Dossier
  destroyed : Bool
  audience : Audience
  refusals : Nat

namespace Archive

def new (name : String) (window : Nat) (engines : List (Engine × Layout)) : Archive :=
  ⟨name, window, engines, [], false, .empty, 0⟩

def submitted (archive : Archive) : Nat := archive.dossiers.length

/-- How many of the latest units still wait for a terminal answer. -/
def outstanding (archive : Archive) : Nat :=
  (archive.dossiers.drop (archive.submitted - archive.window)).countP Dossier.isOpen

def reported (archive : Archive) : Nat := archive.submitted - archive.outstanding

/-- The file on a live unit. -/
def dossier? (archive : Archive) (sequence : Nat) : Option Dossier :=
  if !archive.destroyed && archive.submitted ≤ sequence + archive.window then
    archive.dossiers[sequence]?
  else none

def setDossier (archive : Archive) (sequence : Nat) (dossier : Dossier) : Archive :=
  { archive with dossiers := archive.dossiers.set sequence dossier }

/-- The place of a unit in a ring. -/
def ticket (archive : Archive) (sequence : Nat) : Ticket := ⟨sequence, sequence % archive.window⟩

/-- Is there such a field in the records of the engine? -/
def knows (archive : Archive) (engine : Engine) (field : Field) : Bool :=
  archive.engines.any fun entry => entry.1 = engine && entry.2.has field

/-- Tells the audience of a first success. -/
def announce (archive : Archive) (held : Frame → Bool) (snapshot : Snapshot) :
    Traced Archive := do
  let (fanOut, audience) ← archive.audience.announce held snapshot
  let refusals ← addCounts archive.refusals fanOut.failures.length
  return { archive with audience, refusals }

/-- What somebody learns who asks for a unit. A unit that is found to be complete is
announced. -/
def query (archive : Archive) (held : Frame → Bool) (sequence : Nat) :
    Traced (Ring.Reply × Archive) :=
  match archive.dossier? sequence with
  | none => return (.snapshot (.unavailable sequence), archive)
  | some before => do
    let dossier := before.asked archive.engines
    let archive := archive.setDossier sequence dossier
    if before.slot.stage ≠ .completed ∧ dossier.slot.stage = .completed then
      return (.snapshot dossier.slot.snapshot, ← archive.announce held dossier.slot.snapshot)
    else return (.snapshot dossier.slot.snapshot, archive)

def perform (archive : Archive) : Ring.Op → Run Archive Ring.Reply
  | .begin number frame =>
    if archive.destroyed then .done archive (.ticket (.error (.destroyed archive.name)))
    else if archive.submitted + 1 < UInt64.size then
      let dossier := .begun archive.submitted number frame
      .done { archive with dossiers := archive.dossiers ++ [dossier] }
        (.ticket (.ok (archive.ticket archive.submitted)))
    else .stopped archive .overflow
  | .prepareRetry sequence =>
    if archive.destroyed then .done archive (.ticket (.error (.destroyed archive.name)))
    else match archive.dossier? sequence with
      | none => .done archive (.ticket (.error (.stale sequence)))
      | some dossier => .done (archive.setDossier sequence dossier.cleared)
        (.ticket (.ok (archive.ticket sequence)))
  | .query held sequence => .ofTraced archive (archive.query held sequence)
  | .force sequence true =>
    match archive.dossier? sequence with
    | none => .done archive (.snapshot (.unavailable sequence))
    | some dossier =>
      .done archive (.snapshot { dossier.slot.snapshot with status := .unavailable })
  | .force sequence false =>
    match archive.dossier? sequence with
    | none => .done archive (.snapshot (.unavailable sequence))
    | some dossier =>
      .done (archive.setDossier sequence dossier.givenUp) (.snapshot dossier.givenUp.slot.snapshot)
  | .audience held op => .ofTraced archive do
    let (reply, audience) ← archive.audience.perform held op
    return (.audience reply, { archive with audience })
  | .cancel id =>
    let (found, audience) := archive.audience.cancel id
    .done { archive with audience } (.cancelled found)
  | .destroy _ => .done { archive with destroyed := true } .destroyed
  | .write engine sequence field datum =>
    if archive.destroyed then .done archive (.written none)
    else match archive.dossier? sequence with
      | none => .done archive (.written (some (archive.knows engine field)))
      | some dossier =>
        if archive.knows engine field then
          .done (archive.setDossier sequence (dossier.withField engine field datum))
            (.written (some true))
        else .done archive (.written (some false))
  | .retire sequence =>
    if archive.destroyed then .done archive (.retired none)
    else match archive.dossier? sequence with
      | none => .done archive (.retired (some (archive.ticket sequence).index))
      | some dossier => .done (archive.setDossier sequence { dossier with retired := true })
        (.retired (some (archive.ticket sequence).index))

end Archive

end CompletionRing
