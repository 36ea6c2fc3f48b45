import CompletionRing.Fault
import CompletionRing.Memory.Word

/-!
# Byte regions

A region is a zeroed block of bytes with a base alignment, which the host and the device share.
Word access is checked: the word has to lie inside the region, and its offset has to be a
multiple of its width, which may not exceed the alignment.
-/

namespace CompletionRing

/-- Why no region was handed out. -/
inductive AllocationError where
  | tooSmall (name : String) (requested minimum : Nat)
  | refused (name : String) (size alignment : Nat)
  | overBudget (name : String) (requested available : Nat)
  deriving DecidableEq

def AllocationError.message : AllocationError → String
  | .tooSmall name requested minimum =>
    s!"region `{name}` size {requested} must be at least {minimum} bytes"
  | .refused name size alignment =>
    s!"failed to allocate region `{name}` of {size} bytes aligned to {alignment}"
  | .overBudget name requested available =>
    s!"region `{name}` needs {requested} bytes but only {available} remain in budget"

structure Region where
  bytes : Array UInt8
  alignment : Nat

namespace Region

def length (region : Region) : Nat := region.bytes.size

/-- The byte at `offset`; zero outside the region. -/
def byte (region : Region) (offset : Nat) : UInt8 := region.bytes.getD offset 0

/-- A system that memory comes from: which lengths it maps at multiples of which alignments. -/
structure Mapper where
  grants : (length alignment : Nat) → Bool

/-- The usual system grants only lengths and alignments below this bound, a quarter of the
address space. -/
def systemBound : Nat := 0x4000000000000000

def Mapper.standard : Mapper where
  grants length alignment := length < systemBound && alignment < systemBound

/-- Can `length` bytes be had at a multiple of `alignment`? The length has to be positive and the
alignment a power of two, and the system decides on the rest. -/
def mappable (length alignment : Nat) (mapper : Mapper := .standard) : Bool :=
  0 < length && alignment == 1 <<< alignment.log2 && mapper.grants length alignment

def zeroed (length alignment : Nat) : Region := ⟨Array.replicate length 0, alignment⟩

/-- A zeroed region, if the system grants it. The name is only used to report a failure. -/
def allocate (name : String) (length alignment : Nat) (mapper : Mapper := .standard) :
    Except AllocationError Region :=
  if mappable length alignment mapper then .ok (zeroed length alignment)
  else .error (.refused name length alignment)

/-- Consecutive bytes from `offset` on. -/
def slice (region : Region) (offset count : Nat) : List UInt8 :=
  (List.range count).map fun k => region.byte (offset + k)

/-- Replaces the bytes from `offset` on; what falls outside the array is dropped. -/
def overwrite (bytes : Array UInt8) (offset : Nat) : List UInt8 → Array UInt8
  | [] => bytes
  | b :: rest => overwrite (bytes.setIfInBounds offset b) (offset + 1) rest

/-- Is a word of `width` bytes at `offset` inside the region and aligned? The range is
looked at first. -/
def checkWord (region : Region) (width offset : Nat) : Except Fault Unit :=
  if region.length < offset + width then .error (.wordOutOfRange offset region.length)
  else if offset % width = 0 ∧ width ≤ region.alignment then .ok ()
  else .error (.unalignedWord offset)

def load (region : Region) (width offset : Nat) : Except Fault Nat := do
  region.checkWord width offset
  return Word.ofBytes (region.slice offset width)

def store (region : Region) (width offset value : Nat) : Except Fault Region := do
  region.checkWord width offset
  return { region with bytes := overwrite region.bytes offset (Word.toBytes width value) }

def load32 (region : Region) (offset : Nat) : Except Fault UInt32 :=
  return UInt32.ofNat (← region.load 4 offset)

def load64 (region : Region) (offset : Nat) : Except Fault UInt64 :=
  return UInt64.ofNat (← region.load 8 offset)

def store32 (region : Region) (offset : Nat) (value : UInt32) : Except Fault Region :=
  region.store 4 offset value.toNat

def store64 (region : Region) (offset : Nat) (value : UInt64) : Except Fault Region :=
  region.store 8 offset value.toNat

/-- Sets `count` bytes from `offset` on to `byte`. -/
def fill (region : Region) (offset count : Nat) (byte : UInt8) : Except Fault Region :=
  if region.length < offset + count then .error (.fillOutOfRange offset count region.length)
  else .ok { region with bytes := overwrite region.bytes offset (List.replicate count byte) }

/-- An access to a region, as data. -/
inductive Op where
  | load32 (offset : Nat)
  | load64 (offset : Nat)
  | store32 (offset : Nat) (value : UInt32)
  | store64 (offset : Nat) (value : UInt64)
  | fill (offset count : Nat) (byte : UInt8)
  | slice (offset count : Nat)
  | measure

/-- What an access answers. -/
inductive Reply where
  | word (value : Nat)
  | done
  | bytes (bytes : List UInt8)
  | measured (length alignment : Nat)

def perform (region : Region) : Op → Except Fault (Reply × Region)
  | .load32 offset => return (.word (← region.load32 offset).toNat, region)
  | .load64 offset => return (.word (← region.load64 offset).toNat, region)
  | .store32 offset value => return (.done, ← region.store32 offset value)
  | .store64 offset value => return (.done, ← region.store64 offset value)
  | .fill offset count byte => return (.done, ← region.fill offset count byte)
  | .slice offset count => return (.bytes (region.slice offset count), region)
  | .measure => return (.measured region.length region.alignment, region)

/-- Performs an access where a fault is the answer and leaves the region as it was. -/
def attempt (region : Region) (op : Op) : Except Fault Reply × Region :=
  match region.perform op with
  | .ok (reply, region) => (.ok reply, region)
  | .error fault => (.error fault, region)

/-- The answers to a list of accesses in turn, and the region they leave. -/
def attemptAll (region : Region) : List Op → List (Except Fault Reply) × Region
  | [] => ([], region)
  | op :: rest =>
    let (reply, region) := region.attempt op
    let (replies, region) := region.attemptAll rest
    (reply :: replies, region)

end Region

end CompletionRing
