/-!
# Engines

An engine of the device is known by its number.
-/

namespace CompletionRing

structure Engine where
  number : UInt8
  deriving DecidableEq

def Engine.label (engine : Engine) : String := s!"engine{engine.number}"

/-- Entries by engine, in increasing order of engine number. -/
structure EngineTable (α : Type) where
  entries : List (Engine × α)

namespace EngineTable

variable {α : Type}

def empty : EngineTable α := ⟨[]⟩

/-- Puts an entry at its place in a sorted list, in place of one for the same engine. -/
def insertEntry (engine : Engine) (value : α) : List (Engine × α) → List (Engine × α)
  | [] => [(engine, value)]
  | (other, kept) :: rest =>
    if engine.number < other.number then (engine, value) :: (other, kept) :: rest
    else if engine = other then (engine, value) :: rest
    else (other, kept) :: insertEntry engine value rest

def insert (table : EngineTable α) (engine : Engine) (value : α) : EngineTable α :=
  ⟨insertEntry engine value table.entries⟩

def get? (table : EngineTable α) (engine : Engine) : Option α :=
  (table.entries.find? fun entry => entry.1 = engine).map (·.2)

/-- One entry per engine of the list, all with the same value. -/
def ofEngines (engines : List Engine) (value : α) : EngineTable α :=
  engines.foldl (fun table engine => table.insert engine value) empty

end EngineTable

end CompletionRing
