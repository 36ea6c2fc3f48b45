import CompletionRing.Ring.Basic

/-!
# Creating and destroying rings

A ring takes all its regions from a pool, or none: what was handed out before a refusal goes
back. Destroying a ring gives all of them back.
-/

namespace CompletionRing

namespace Bank

def request (name : String) (capacity : Nat) (setup : EngineSetup) : Request :=
  .forRecords s!"{name}.{setup.name}" (setup.layout.regionSize capacity)

def ofMapping (setup : EngineSetup) (mapping : Mapping) : Bank :=
  ⟨setup.engine, setup.name, setup.layout, mapping⟩

/-- Adds a bank for each engine setup to those that are there. At a refusal all of them go back
to the pool in order. -/
def allocateAll (name : String) (capacity : Nat) (banks : List Bank) (pool : Pool) :
    List EngineSetup → Traced (Except AllocationError (List Bank) × Pool)
  | [] => return (.ok banks, pool)
  | setup :: rest => do
    match ← pool.allocate (request name capacity setup) with
    | (.ok mapping, pool) =>
      allocateAll name capacity (banks ++ [ofMapping setup mapping]) pool rest
    | (.error refusal, pool) =>
      return (.error refusal, ← pool.releaseAll (banks.map (·.mapping)))

end Bank

namespace RecordStore

def fenceRequest (name : String) (capacity : Nat) : Request :=
  .forRecords s!"{name}.fence" (capacity * fenceWidth)

/-- Allocates the fence and then the banks. -/
def allocate (name : String) (capacity : Nat) (setups : List EngineSetup) (pool : Pool) :
    Traced (Except AllocationError RecordStore × Pool) := do
  match ← pool.allocate (fenceRequest name capacity) with
  | (.error refusal, pool) => return (.error refusal, pool)
  | (.ok fence, pool) =>
    match ← Bank.allocateAll name capacity [] pool setups with
    | (.ok banks, pool) => return (.ok ⟨fence, banks⟩, pool)
    | (.error refusal, pool) => return (.error refusal, ← pool.release fence)

end RecordStore

namespace Ring

/-- A ring that nothing was submitted to. -/
def fresh (name : String) (capacity : Nat) (store : RecordStore) : Ring where
  name := name
  capacity := capacity
  store := some store
  slots := Array.replicate capacity none
  submitted := 0
  reported := 0
  audience := .empty
  refusals := 0

def create (setup : RingSetup) (pool : Pool) : Traced (Except CreationError Ring × Pool) :=
  match setup.flaw? with
  | some flaw => return (.error (.flawed flaw), pool)
  | none => do
    let capacity := setup.capacity.toNat
    match ← RecordStore.allocate setup.name capacity setup.enabled pool with
    | (.error refusal, pool) => return (.error (.allocation refusal), pool)
    | (.ok store, pool) =>
      .emit (.created setup.name capacity store.banks.length)
      return (.ok (fresh setup.name capacity store), pool)

/-- Gives the shared memory back. Nothing happens to a ring that has none any more. -/
def destroy (ring : Ring) (pool : Pool) : Traced (Ring × Pool) :=
  match ring.store with
  | none => return (ring, pool)
  | some store => do
    let pool ← pool.releaseAll store.mappings
    .emit (.destroyed ring.name ring.submitted)
    return ({ ring with store := none }, pool)

end Ring

end CompletionRing
