/-!
# Little-endian words

A word of `w` bytes is the list of its base-256 digits, least significant first.
-/

namespace CompletionRing.Word

/-- The `w` low bytes of `value`, least significant first. -/
def toBytes : Nat → Nat → List UInt8
  | 0, _ => []
  | w + 1, value => UInt8.ofNat value :: toBytes w (value / 256)

/-- The number whose base-256 digits are the given bytes. -/
def ofBytes : List UInt8 → Nat
  | [] => 0
  | b :: rest => b.toNat + 256 * ofBytes rest

@[simp] theorem length_toBytes (w value : Nat) : (toBytes w value).length = w := by
  induction w generalizing value with
  | zero => rfl
  | succ w ih => simp [toBytes, ih]

end CompletionRing.Word
