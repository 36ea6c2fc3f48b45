import CompletionRing.Ring.Lifetime
import CompletionRing.Ring.Location
import CompletionRing.Session.Watcher

/-!
# Sessions

A session submits units of work to a command queue that may refuse them, and asks for them with
a watcher of its own.
-/

namespace CompletionRing

/-- Everything a command queue needs to start one unit of work. -/
structure Kick where
  ticket : Ticket
  number : UInt32
  /-- The records of the unit, engine by engine. -/
  records : List Location
  fence : Location
  /-- Zero for the first kick of the unit. -/
  attempt : Nat
  deriving DecidableEq

/-- Why a command queue did not take a kick. -/
inductive KickError where
  /-- The unit may be submitted again. -/
  | recoverable (reason : String)
  | fatal (reason : String)
  deriving DecidableEq

def KickError.message : KickError → String
  | .recoverable reason => s!"recoverable: {reason}"
  | .fatal reason => s!"fatal: {reason}"

/-- Why a unit was not submitted. -/
inductive SubmitError where
  | ring (error : Ring.Error)
  | kickFailed (sequence : Nat) (reason : String)
  | retriesExhausted (sequence attempts : Nat) (reason : String)
  deriving DecidableEq

def SubmitError.message : SubmitError → String
  | .ring error => error.message
  | .kickFailed sequence reason => s!"kick of submission {sequence} failed: {reason}"
  | .retriesExhausted sequence attempts reason =>
    s!"submission {sequence} still failing after {attempts} kicks: {reason}"

structure Session where
  ring : Ring
  retries : RetryLimit
  watcher : Watcher

namespace Session

def create (setup : RingSetup) (retries : RetryLimit) (polls : PollLimit) (pool : Pool) :
    Traced (Except CreationError Session × Pool) := do
  match ← Ring.create setup pool with
  | (.ok ring, pool) => return (.ok ⟨ring, retries, Watcher.new polls⟩, pool)
  | (.error error, pool) => return (.error error, pool)

/-- The first kick of a unit that the ring holds. -/
def firstKick? (ring : Ring) (ticket : Ticket) (number : UInt32) : Option Kick := do
  let records ← ring.engines.mapM fun engine => ring.recordRange? engine ticket.sequence
  return ⟨ticket, number, records, ← ring.fenceRange? ticket.sequence, 0⟩

/-- Kicks a unit until the queue takes it, refuses it for good, or has refused it once more than
there are retries. A unit that is not taken is abandoned. -/
def kickUntilTaken {κ : Type} (queue : Kick → κ → Traced (Except KickError Unit × κ)) :
    Nat → Kick → Ring → κ → Traced (Except SubmitError Ticket × Ring × κ)
  | retries, kick, ring, state => do
    match ← queue kick state with
    | (.ok (), state) => return (.ok kick.ticket, ring, state)
    | (.error (.fatal reason), state) =>
      let (_, ring) ← ring.abandon kick.ticket.sequence
      return (.error (.kickFailed kick.ticket.sequence reason), ring, state)
    | (.error (.recoverable reason), state) =>
      match retries with
      | 0 =>
        let (_, ring) ← ring.abandon kick.ticket.sequence
        return (.error (.retriesExhausted kick.ticket.sequence (kick.attempt + 1) reason),
          ring, state)
      | retries + 1 =>
        .emit (.kickRefused kick.ticket.sequence reason)
        match ← ring.prepareRetry kick.ticket.sequence with
        | (.error error, ring) => return (.error (.ring error), ring, state)
        | (.ok _, ring) =>
          kickUntilTaken queue retries { kick with attempt := kick.attempt + 1 } ring state

/-- Begins a unit and kicks it. The queue answers each kick and keeps a state of its own. -/
def submit {κ : Type} (session : Session) (number : UInt32) (frame : Option Frame)
    (queue : Kick → κ → Traced (Except KickError Unit × κ)) (state : κ) :
    Traced (Except SubmitError Ticket × Session × κ) := do
  match ← session.ring.begin number frame with
  | (.error error, ring) => return (.error (.ring error), { session with ring }, state)
  | (.ok ticket, ring) =>
    match firstKick? ring ticket number with
    | none => return (.error (.ring (.stale ticket.sequence)), { session with ring }, state)
    | some kick =>
      let (result, ring, state) ←
        kickUntilTaken queue session.retries.resubmits.toNat kick ring state
      return (result, { session with ring }, state)

def poll (session : Session) (held : Frame → Bool) (sequence : Nat) :
    Traced (Verdict × Session) := do
  let (verdict, watcher, ring) ← session.watcher.poll session.ring held sequence
  return (verdict, { session with watcher, ring })

def wait {σ : Type} (session : Session) (held : Frame → Bool) (sequence : Nat)
    (between : Ring → σ → Run (Ring × σ) Unit) (state : σ) : Run (Session × σ) Verdict :=
  (session.watcher.wait session.ring held sequence between state).within
    fun (watcher, ring, state) => ({ session with watcher, ring }, state)

/-- Destroys the ring of a session that is over. -/
def close (session : Session) (pool : Pool) : Traced (Session × Pool) := do
  .emit (.closing session.ring.name session.ring.submitted session.ring.outstanding)
  let (ring, pool) ← session.ring.destroy pool
  return ({ session with ring }, pool)

end Session

end CompletionRing
