import CompletionRing.Setup
import CompletionRing.Setup.Document

/-!
# Written setups

Setups as documents: what is written, and which documents are read.
-/

namespace CompletionRing

def Layout.name : Layout → String
  | .compact => "compact"
  | .extended => "extended"

def Layout.ofName? : String → Option Layout
  | "compact" => some .compact
  | "extended" => some .extended
  | _ => none

/-- A layout is written as its name; it may also be read from an object whose one member has
that name and holds null. -/
def Layout.read? : Document → Option Layout
  | .string name => Layout.ofName? name
  | .object [(name, .null)] => Layout.ofName? name
  | _ => none

def Layout.write (layout : Layout) : Document := .string layout.name

def EngineSetup.fieldNames : List String := ["id", "name", "layout", "enabled"]

/-- Engines are compact and enabled unless the document says otherwise. -/
def EngineSetup.read? (document : Document) : Option EngineSetup := do
  match ← document.fields? fieldNames with
  | [engine, name, layout, enabled] =>
    return {
      engine := ⟨← Document.required Document.uint8? engine⟩
      name := ← Document.required Document.string? name
      layout := ← Document.withDefault .compact Layout.read? layout
      enabled := ← Document.withDefault true Document.bool? enabled }
  | _ => none

def EngineSetup.write (setup : EngineSetup) : Document :=
  .object [("id", .integer setup.engine.number.toNat), ("name", .string setup.name),
    ("layout", setup.layout.write), ("enabled", .bool setup.enabled)]

def RingSetup.fieldNames : List String := ["name", "capacity", "engines"]

def RingSetup.readEngines? (document : Document) : Option (List EngineSetup) := do
  (← document.items?).mapM EngineSetup.read?

/-- A ring has no engines unless the document lists some. -/
def RingSetup.read? (document : Document) : Option RingSetup := do
  match ← document.fields? fieldNames with
  | [name, capacity, engines] =>
    return {
      name := ← Document.required Document.string? name
      capacity := ← Document.required Document.uint32? capacity
      engines := ← Document.withDefault [] readEngines? engines }
  | _ => none

def RingSetup.write (setup : RingSetup) : Document :=
  .object [("name", .string setup.name), ("capacity", .integer setup.capacity.toNat),
    ("engines", .array (setup.engines.map EngineSetup.write))]

end CompletionRing
