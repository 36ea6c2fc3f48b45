import CompletionRing.Memory.Region
import CompletionRing.Run

/-!
# Pools

A pool hands out regions under an optional byte budget and counts what it has out. A shelf keeps
what a pool handed out, by slot, together with mappings that the pool does not count.
-/

namespace CompletionRing

/-- What a region is wanted for. -/
structure Request where
  name : String
  size : Nat
  alignment : Nat
  access : Access
  skipSync : Bool

/-- The alignment of regions that the device writes records into. -/
def pageAlignment : Nat := 4096

/-- A region for records: the device writes it, and the caller keeps it consistent. -/
def Request.forRecords (name : String) (size : Nat) : Request :=
  ⟨name, size, pageAlignment, .deviceWrites, true⟩

/-- A region with its name and use. Only a counted mapping goes back to a pool. -/
structure Mapping where
  name : String
  access : Access
  skipSync : Bool
  counted : Bool
  region : Region

/-- A mapping of a region that no pool counts. -/
def Mapping.wrap (request : Request) (mapper : Region.Mapper := .standard) :
    Except AllocationError Mapping := do
  let region ← Region.allocate request.name request.size request.alignment mapper
  return ⟨request.name, request.access, request.skipSync, false, region⟩

structure Pool where
  budget : Option Nat
  regions : Nat
  bytes : Nat

namespace Pool

def new (budget : Option Nat) : Pool := ⟨budget, 0, 0⟩

/-- Does the budget leave room for `size` more bytes? If not, the answer is what it leaves. -/
def shortage? (pool : Pool) (size : Nat) : Option Nat := do
  let available := (← pool.budget) - pool.bytes
  if available < size then some available else none

/-- Why a request is not granted: its size first, then the budget, then the system. -/
def refusal? (pool : Pool) (request : Request) (mapper : Region.Mapper := .standard) :
    Option AllocationError :=
  if request.size = 0 then some (.tooSmall request.name 0 1)
  else match pool.shortage? request.size with
    | some available => some (.overBudget request.name request.size available)
    | none =>
      if Region.mappable request.size request.alignment mapper then none
      else some (.refused request.name request.size request.alignment)

def allocate (pool : Pool) (request : Request) (mapper : Region.Mapper := .standard) :
    Traced (Except AllocationError Mapping × Pool) :=
  match pool.refusal? request mapper with
  | some refusal => return (.error refusal, pool)
  | none => do
    .emit (.allocated request.name request.size request.access request.skipSync)
    let region := Region.zeroed request.size request.alignment
    return (.ok ⟨request.name, request.access, request.skipSync, true, region⟩,
      { pool with regions := pool.regions + 1, bytes := pool.bytes + request.size })

/-- Takes a mapping back. -/
def release (pool : Pool) (mapping : Mapping) : Traced Pool :=
  if mapping.counted then do
    .emit (.released mapping.name)
    return { pool with
      regions := pool.regions - 1
      bytes := pool.bytes - mapping.region.length }
  else return pool

def releaseAll (pool : Pool) : List Mapping → Traced Pool
  | [] => return pool
  | mapping :: rest => do (← pool.release mapping).releaseAll rest

end Pool

/-- A pool and the mappings in use, by slot; a slot is empty after a refusal or a drop. -/
structure Shelf where
  pool : Pool
  slots : Array (Option Mapping)

namespace Shelf

def new (budget : Option Nat) : Shelf := ⟨Pool.new budget, #[]⟩

inductive Op where
  | allocate (request : Request)
  | wrap (request : Request)
  | drop (slot : Nat)
  | access (slot : Nat) (op : Region.Op)

inductive Reply where
  | mapped (mapping : Mapping)
  | refused (refusal : AllocationError)
  | dropped
  | accessed (answer : Region.Reply)
  | empty

def place (shelf : Shelf) : Except AllocationError Mapping → Reply × Shelf
  | .ok mapping => (.mapped mapping, { shelf with slots := shelf.slots.push (some mapping) })
  | .error refusal => (.refused refusal, { shelf with slots := shelf.slots.push none })

def mapping? (shelf : Shelf) (slot : Nat) : Option Mapping := shelf.slots[slot]?.join

/-- Lets an access work on a mapping of the shelf. -/
def access (shelf : Shelf) (slot : Nat) (mapping : Mapping) (op : Region.Op) :
    Except Fault (Reply × Shelf) := do
  let (answer, region) ← mapping.region.perform op
  let slots := shelf.slots.setIfInBounds slot (some { mapping with region })
  return (.accessed answer, { shelf with slots })

def perform (shelf : Shelf) (op : Op) (mapper : Region.Mapper := .standard) : Run Shelf Reply :=
  match op with
  | .allocate request => .ofTraced shelf do
    let (answer, pool) ← shelf.pool.allocate request mapper
    return { shelf with pool }.place answer
  | .wrap request => .ofTraced shelf do return shelf.place (Mapping.wrap request mapper)
  | .drop slot =>
    match shelf.mapping? slot with
    | none => .done shelf .empty
    | some mapping => .ofTraced shelf do
      let pool ← shelf.pool.release mapping
      return (.dropped, { pool, slots := shelf.slots.setIfInBounds slot none })
  | .access slot op =>
    match shelf.mapping? slot with
    | none => .done shelf .empty
    | some mapping => .ofTraced shelf (shelf.access slot mapping op)

/-- The pool after everything on the shelf was dropped. -/
def clear (shelf : Shelf) : Traced Pool := shelf.pool.releaseAll (shelf.slots.toList.filterMap id)

end Shelf

end CompletionRing
