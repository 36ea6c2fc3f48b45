import CompletionRing.Memory.Pool
import CompletionRing.Record.Report
import CompletionRing.Setup

/-!
# Record stores

The memory that a ring shares with the device. One region holds a fence word for each index; the
device stores there the number after that of the unit that retired. Each engine has a bank, a
region with one record for each index.
-/

namespace CompletionRing

def fenceWidth : Nat := 8

structure Bank where
  engine : Engine
  name : String
  layout : Layout
  mapping : Mapping

namespace Bank

def withRegion (bank : Bank) (region : Region) : Bank :=
  { bank with mapping := { bank.mapping with region } }

/-- Where a field of the record at `index` starts, if the layout has it. -/
def fieldOffset? (bank : Bank) (index : Nat) (field : Field) : Option Nat :=
  (bank.layout.offset? field).map (bank.layout.recordOffset index + ·)

/-- The value of a field, if the layout has it. -/
def read (bank : Bank) (index : Nat) (field : Field) : Except Fault (Option UInt32) :=
  match bank.fieldOffset? index field with
  | none => return none
  | some offset => return some (← bank.mapping.region.load32 offset)

/-- The value of a field; zero if the layout lacks it. -/
def readD (bank : Bank) (index : Nat) (field : Field) : Except Fault UInt32 :=
  return (← bank.read index field).getD 0

/-- The marker is read ahead of what it vouches for. -/
def report (bank : Bank) (index : Nat) : Except Fault Report := do
  let marker ← bank.readD index .marker
  let error ← bank.readD index .error
  let checksum ← bank.read index .checksum
  let workCount ← bank.read index .workCount
  let lanes ← (List.range bank.layout.laneCount).mapM fun number => bank.readD index (.lane number)
  return {
    engine := bank.engine
    completion := .ofMarker marker
    errorBits := error &&& bank.layout.errorMask
    checksum, workCount, lanes }

/-- Stores a field; none if the layout lacks it. -/
def write (bank : Bank) (index : Nat) (field : Field) (value : UInt32) :
    Except Fault (Option Bank) :=
  match bank.fieldOffset? index field with
  | none => return none
  | some offset => return some (bank.withRegion (← bank.mapping.region.store32 offset value))

/-- Zeroes the record at `index`. -/
def clear (bank : Bank) (index : Nat) : Except Fault Bank :=
  return bank.withRegion
    (← bank.mapping.region.fill (bank.layout.recordOffset index) bank.layout.recordSize 0)

/-- Zeroes the record and marks it as skipped. -/
def prime (bank : Bank) (index : Nat) : Except Fault Bank := do
  let cleared ← bank.clear index
  return (← cleared.write index .marker skippedMarker).getD cleared

end Bank

structure RecordStore where
  fence : Mapping
  banks : List Bank

namespace RecordStore

def engines (store : RecordStore) : List Engine := store.banks.map (·.engine)

def bank? (store : RecordStore) (engine : Engine) : Option Bank :=
  store.banks.find? (·.engine = engine)

/-- All mappings, the fence first. -/
def mappings (store : RecordStore) : List Mapping := store.fence :: store.banks.map (·.mapping)

def fenceOffset (index : Nat) : Nat := index * fenceWidth

def fenceWord (store : RecordStore) (index : Nat) : Except Fault UInt64 :=
  store.fence.region.load64 (fenceOffset index)

def reports (store : RecordStore) (index : Nat) : Except Fault (List Report) :=
  store.banks.mapM (·.report index)

def clear (store : RecordStore) (index : Nat) : Except Fault RecordStore :=
  return { store with banks := ← store.banks.mapM (·.clear index) }

def prime (store : RecordStore) (index : Nat) : Except Fault RecordStore :=
  return { store with banks := ← store.banks.mapM (·.prime index) }

/-- Stores a field in the bank of an engine; none if there is no such bank or field. -/
def writeBanks (engine : Engine) (index : Nat) (field : Field) (value : UInt32) :
    List Bank → Except Fault (Option (List Bank))
  | [] => return none
  | bank :: rest =>
    if bank.engine = engine then
      return (← bank.write index field value).map (· :: rest)
    else return (← writeBanks engine index field value rest).map (bank :: ·)

/-- Stores a field of an engine's record, and says whether the engine and the field exist. -/
def write (store : RecordStore) (engine : Engine) (index : Nat) (field : Field)
    (value : UInt32) : Except Fault (Bool × RecordStore) := do
  match ← writeBanks engine index field value store.banks with
  | none => return (false, store)
  | some banks => return (true, { store with banks })

/-- Marks the unit at `index` as retired. -/
def retire (store : RecordStore) (index sequence : Nat) : Except Fault RecordStore := do
  let word ← addCounts sequence 1
  let region ← store.fence.region.store64 (fenceOffset index) (UInt64.ofNat word)
  return { store with fence := { store.fence with region } }

end RecordStore

end CompletionRing
