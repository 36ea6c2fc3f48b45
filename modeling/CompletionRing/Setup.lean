import CompletionRing.Engine
import CompletionRing.Record.Layout

/-!
# Ring setups

A setup names a ring, its capacity and its engines. A ring is only made from a setup without
flaws.
-/

namespace CompletionRing

/-- One engine of a ring. A disabled engine gets no records and takes no part in any status. -/
structure EngineSetup where
  engine : Engine
  name : String
  layout : Layout
  enabled : Bool
  deriving DecidableEq

structure RingSetup where
  name : String
  capacity : UInt32
  engines : List EngineSetup
  deriving DecidableEq

/-- What is wrong with a setup. -/
inductive Flaw where
  | noRingName
  | noCapacity
  | noEnabledEngine
  | noEngineName
  | repeatedEngine (engine : Engine)
  deriving DecidableEq

namespace Flaw

/-- Is something missing, rather than wrong? -/
def isMissing : Flaw → Bool
  | .noRingName | .noEnabledEngine | .noEngineName => true
  | .noCapacity | .repeatedEngine _ => false

def message : Flaw → String
  | .noRingName => "missing required configuration: ring name"
  | .noCapacity => "invalid ring configuration: capacity must be at least 1"
  | .noEnabledEngine => "missing required configuration: enabled engine set"
  | .noEngineName => "missing required configuration: engine name"
  | .repeatedEngine engine =>
    s!"invalid ring configuration: {engine.label} listed more than once"

end Flaw

namespace RingSetup

def enabled (setup : RingSetup) : List EngineSetup := setup.engines.filter (·.enabled)

/-- The first flaw of a list of engines that follow the engines `seen`. At each engine the name
is looked at before the number. -/
def engineFlaw? (seen : List Engine) : List EngineSetup → Option Flaw
  | [] => none
  | setup :: rest =>
    if setup.name.isEmpty then some .noEngineName
    else if setup.engine ∈ seen then some (.repeatedEngine setup.engine)
    else engineFlaw? (setup.engine :: seen) rest

def flaw? (setup : RingSetup) : Option Flaw :=
  if setup.name.isEmpty then some .noRingName
  else if setup.capacity = 0 then some .noCapacity
  else if setup.enabled.isEmpty then some .noEnabledEngine
  else engineFlaw? [] setup.engines

end RingSetup

end CompletionRing
