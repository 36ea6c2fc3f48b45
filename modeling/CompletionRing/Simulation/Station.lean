import CompletionRing.Session.Session
import CompletionRing.Simulation.Rig

/-!
# Stations

A station is a session with a device on the other side of its ring, a command queue that answers
by a script, and a second watcher beside the session's own.
-/

namespace CompletionRing

structure Station where
  session : Session
  device : Device
  second : Watcher

/-- How the command queue answers one kick, and with which overrides the device gets it, if it
does. -/
structure ScriptedKick where
  answer : Except KickError Unit
  overrides : Option (List (Engine × Conduct))

/-- A command queue that answers by a script and keeps the kicks that it saw. -/
structure ScriptedQueue where
  device : Device
  script : List ScriptedKick
  seen : List (Kick × Except KickError Unit)

/-- Past the end of the script all kicks are taken and reach the device. -/
def ScriptedQueue.take (kick : Kick) (queue : ScriptedQueue) :
    Traced (Except KickError Unit × ScriptedQueue) := do
  let step := queue.script.headD ⟨.ok (), some []⟩
  let device ← match step.overrides with
    | none => pure queue.device
    | some overrides => queue.device.kick kick.ticket.sequence overrides
  return (step.answer, ⟨device, queue.script.drop 1, queue.seen ++ [(kick, step.answer)]⟩)

/-- What goes on between two polls: the device, the pool, the rounds that are still to come and
the answers of those before. -/
structure Interlude where
  device : Device
  pool : Pool
  script : List (List Rig.Op)
  rounds : Array (List Rig.Reply)

/-- Performs the next round on the ring; an empty one past the end of the script. -/
def Interlude.advance (frames : Frames) (held : Frame → Bool) (ring : Ring)
    (interlude : Interlude) : Run (Ring × Interlude) Unit :=
  let rig : Rig := ⟨ring, interlude.device, interlude.pool⟩
  let played := (rig.performAll frames held (interlude.script.headD [])).within fun rig =>
    (rig.ring, { interlude with device := rig.device, pool := rig.pool })
  played.bind fun replies (ring, interlude) =>
    .done (ring, { interlude with
      script := interlude.script.drop 1, rounds := interlude.rounds.push replies }) ()

namespace Station

inductive Op where
  | submit (number : UInt32) (frame : Option Nat) (script : List ScriptedKick)
  | poll (sequence : Nat)
  | wait (sequence : Nat) (between : List (List Rig.Op))
  /-- Puts a new watcher in the place of the second one. -/
  | replaceSecond (limit : PollLimit)
  | pollSecond (sequence : Nat)
  | waitSecond (sequence : Nat) (between : List (List Rig.Op))
  | forgetEvicted
  | close
  | audience (op : Audience.Op)
  | rig (op : Rig.Op)

/-- A verdict, and what its snapshot looks like at that moment. -/
structure Ruling where
  verdict : Verdict
  sight : Option Sight

def ruling (held : Frame → Bool) (verdict : Verdict) (ring : Ring) : Ruling :=
  ⟨verdict, verdict.snapshot?.map (Rig.sightOf held · ring)⟩

inductive Reply where
  | submitted (kicks : List (Kick × Except KickError Unit)) (answer : Except SubmitError Ticket)
  | ruled (ruling : Ruling)
  | waited (rounds : List (List Rig.Reply)) (ruling : Ruling)
  | replaced (limit : PollLimit)
  | forgot
  | closed (destroyed : Bool)
  | audience (reply : Audience.Reply)
  | rig (reply : Rig.Reply)

def ring (station : Station) : Ring := station.session.ring

def withRing (station : Station) (ring : Ring) : Station :=
  { station with session := { station.session with ring } }

/-- A session on its way: a device that knows its engines, and nobody watching but itself. -/
def ofSession (session : Session) : Station :=
  ⟨session, .matching session.ring, .new .standard⟩

/-- What a wait makes of a station, and its answer. -/
def afterWait (held : Frame → Bool) (wait : Run (Station × Interlude) Verdict) :
    Run (Station × Pool) Reply :=
  (wait.bind fun verdict (station, interlude) =>
    .done (station, interlude)
      (.waited interlude.rounds.toList (ruling held verdict station.ring))).within
    fun (station, interlude) => ({ station with device := interlude.device }, interlude.pool)

/-- One operation. The host holds `frames`; frames that are `held` elsewhere than by the
station's own audience are alive. -/
def perform (station : Station) (pool : Pool) (frames : Frames) (held : Frame → Bool) :
    Op → Run (Station × Pool) Reply
  | .submit number frame script => .ofTraced (station, pool) do
    let (answer, session, queue) ← station.session.submit number (frame.bind frames.find?)
      ScriptedQueue.take ⟨station.device, script, []⟩
    return (.submitted queue.seen answer, { station with session, device := queue.device }, pool)
  | .poll sequence => .ofTraced (station, pool) do
    let (verdict, session) ← station.session.poll held sequence
    return (.ruled (ruling held verdict session.ring), { station with session }, pool)
  | .wait sequence between =>
    afterWait held ((station.session.wait held sequence (Interlude.advance frames held)
      ⟨station.device, pool, between, #[]⟩).within fun (session, interlude) =>
        ({ station with session }, interlude))
  | .replaceSecond limit =>
    .done ({ station with second := .new limit }, pool) (.replaced limit)
  | .pollSecond sequence => .ofTraced (station, pool) do
    let (verdict, second, ring) ← station.second.poll station.ring held sequence
    return (.ruled (ruling held verdict ring), { station.withRing ring with second }, pool)
  | .waitSecond sequence between =>
    afterWait held ((station.second.wait station.ring held sequence
      (Interlude.advance frames held) ⟨station.device, pool, between, #[]⟩).within
        fun (second, ring, interlude) => ({ station.withRing ring with second }, interlude))
  | .forgetEvicted =>
    .done ({ station with second := station.second.forgetEvicted station.ring }, pool) .forgot
  | .close => .ofTraced (station, pool) do
    let (session, pool) ← station.session.close pool
    return (.closed session.ring.isDestroyed, { station with session }, pool)
  | .audience op => .ofTraced (station, pool) do
    let (reply, audience) ← station.ring.audience.perform held op
    return (.audience reply, station.withRing { station.ring with audience }, pool)
  | .rig op =>
    let rig : Rig := ⟨station.ring, station.device, pool⟩
    ((rig.perform frames held op).map .rig).within fun rig =>
      ({ station.withRing rig.ring with device := rig.device }, rig.pool)

end Station

end CompletionRing
