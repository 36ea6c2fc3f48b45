import CompletionRing.Text.Plain

/-!
# Quoted text

Text between double quotes, with everything escaped that would not show as it is.
-/

namespace CompletionRing.Text

/-- The code point of a character in hexadecimal digits. -/
def codePoint (c : Char) : String := String.ofList (Nat.toDigits 16 c.toNat)

def quoteChar (c : Char) : String :=
  match c with
  | '\x00' => "\\0"
  | '\t' => "\\t"
  | '\r' => "\\r"
  | '\n' => "\\n"
  | '\\' => "\\\\"
  | '"' => "\\\""
  | c => if isPlain c then c.toString else "\\u\x7b" ++ codePoint c ++ "\x7d"

def quote (text : String) : String :=
  "\"" ++ String.join (text.toList.map quoteChar) ++ "\""

/-- Items in square brackets, parted by commas. -/
def bracketed (items : List String) : String := "[" ++ ", ".intercalate items ++ "]"

/-- A value with its fields by name. -/
def record (name : String) (fields : List (String × String)) : String :=
  name ++ " \x7b " ++ ", ".intercalate (fields.map fun field => field.1 ++ ": " ++ field.2) ++ " \x7d"

/-- A value wrapped in its name. -/
def wrapped (name value : String) : String := name ++ "(" ++ value ++ ")"

def optional : Option String → String
  | none => "None"
  | some value => wrapped "Some" value

end CompletionRing.Text
