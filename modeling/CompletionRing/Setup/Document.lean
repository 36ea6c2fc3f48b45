/-!
# Documents

A document is a value of a self-describing data format. A structure is written as an object with
named members or as the array of its fields in order; fields that have a default may be left
out.
-/

namespace CompletionRing

inductive Document where
  | null
  | bool (value : Bool)
  | integer (value : Int)
  /-- A number that is not written as an integer. -/
  | decimal
  | string (value : String)
  | array (items : List Document)
  | object (members : List (String × Document))
  deriving Inhabited

namespace Document

def bool? : Document → Option Bool
  | .bool value => some value
  | _ => none

def string? : Document → Option String
  | .string value => some value
  | _ => none

/-- An integer from zero up to and without `bound`. -/
def below? (bound : Nat) : Document → Option Nat
  | .integer value => if 0 ≤ value ∧ value < bound then some value.toNat else none
  | _ => none

def uint8? (document : Document) : Option UInt8 := (document.below? UInt8.size).map UInt8.ofNat

def uint32? (document : Document) : Option UInt32 :=
  (document.below? UInt32.size).map UInt32.ofNat

def items? : Document → Option (List Document)
  | .array items => some items
  | _ => none

/-- The fields of a structure, in the order of their names. Members of other names are
ignored; an array may stop early but has no items beyond the last field. -/
def fields? (names : List String) : Document → Option (List (Option Document))
  | .object members => some (names.map fun name => members.lookup name)
  | .array items =>
    if items.length ≤ names.length then
      some ((List.range names.length).map fun k => items[k]?)
    else none
  | _ => none

/-- A field that has to be there. -/
def required {α : Type} (read : Document → Option α) : Option Document → Option α
  | some document => read document
  | none => none

/-- A field that may be left out; a null is no way to leave it out. -/
def withDefault {α : Type} (default : α) (read : Document → Option α) :
    Option Document → Option α
  | some document => read document
  | none => some default

end Document

end CompletionRing
