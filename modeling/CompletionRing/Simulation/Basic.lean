import CompletionRing.Simulation.Station

/-!
# Simulations

One pool, the frames of one host, and any number of stations. Every operation is data and has an
answer.
-/

namespace CompletionRing

structure Simulation where
  pool : Pool
  frames : Frames
  /-- The stations in the order in which they were started; none where that failed, or where
  the station is gone. -/
  stations : Array (Option Station)

/-- What a session is started from. -/
structure Plan where
  setup : RingSetup
  retries : RetryLimit
  polls : PollLimit

namespace Simulation

def new (budget : Option Nat) : Simulation := ⟨.new budget, .empty, #[]⟩

inductive Op where
  /-- Starts a session; none is a plan that could not be read. -/
  | start (plan : Option Plan)
  | drop
  | createFrame (id : Nat)
  | releaseFrame (id : Nat)
  | station (op : Station.Op)

inductive Reply where
  | unreadable
  | started (answer : Except CreationError Unit)
  | dropped (found : Bool)
  | frame (answer : Bool)
  | station (reply : Station.Reply)
  /-- There is no such station. -/
  | absent

/-- The station that an operation is for: the latest one started unless it says otherwise. -/
def target (simulation : Simulation) (position : Option Nat) : Nat :=
  position.getD (simulation.stations.size - 1)

def station? (simulation : Simulation) (position : Nat) : Option Station :=
  simulation.stations[position]?.join

def setStation (simulation : Simulation) (position : Nat) (station : Option Station) :
    Simulation :=
  { simulation with stations := simulation.stations.setIfInBounds position station }

/-- Does the host or another station than the one at `position` keep the frame? -/
def heldOutside (simulation : Simulation) (position : Nat) (frame : Frame) : Bool :=
  simulation.frames.holds frame ||
    simulation.stations.toList.zipIdx.any fun (station, k) =>
      k ≠ position && station.any (·.ring.audience.holds frame)

/-- Starts a session in the next place, which stays empty if there is none. -/
def start (simulation : Simulation) : Option Plan → Traced (Reply × Simulation)
  | none => return (.unreadable, { simulation with stations := simulation.stations.push none })
  | some plan => do
    match ← Session.create plan.setup plan.retries plan.polls simulation.pool with
    | (.error error, pool) =>
      return (.started (.error error),
        { simulation with pool, stations := simulation.stations.push none })
    | (.ok session, pool) =>
      let station := Station.ofSession session
      return (.started (.ok ()),
        { simulation with pool, stations := simulation.stations.push (some station) })

/-- Drops the station at a position, and says whether there was one. -/
def drop (simulation : Simulation) (position : Nat) : Traced (Reply × Simulation) :=
  match simulation.station? position with
  | none => return (.dropped false, simulation)
  | some station => do
    let (_, pool) ← station.ring.destroy simulation.pool
    return (.dropped true, { simulation with pool }.setStation position none)

/-- One operation, for the station at a position. -/
def perform (simulation : Simulation) (position : Nat) : Op → Run Simulation Reply
  | .start plan => .ofTraced simulation (simulation.start plan)
  | .drop => .ofTraced simulation (simulation.drop position)
  | .createFrame id =>
    let (free, frames) := simulation.frames.create id
    .done { simulation with frames } (.frame free)
  | .releaseFrame id =>
    let (found, frames) := simulation.frames.release id
    .done { simulation with frames } (.frame found)
  | .station op =>
    match simulation.station? position with
    | none => .done simulation .absent
    | some station =>
      ((station.perform simulation.pool simulation.frames (simulation.heldOutside position)
        op).map .station).within fun (station, pool) =>
          { simulation with pool }.setStation position (some station)

/-- Gives the regions of a list of stations back to a pool. -/
def releaseStations (pool : Pool) : List Station → Traced Pool
  | [] => return pool
  | station :: rest => do
    let (_, pool) ← station.ring.destroy pool
    releaseStations pool rest

/-- The pool once all stations are gone. -/
def clear (simulation : Simulation) : Traced Pool :=
  releaseStations simulation.pool (simulation.stations.toList.filterMap id)

end Simulation

end CompletionRing
