import CompletionRing.Memory.Region
import Mathlib.Tactic.Common

/-!
# Access to regions

`Region.put` replaces bytes and `Region.word` reads a word, both without the checks of `store`
and `load`. An access that passes its check is one of these two, and what was put at one place
is read back there and changes nothing elsewhere.
-/

namespace CompletionRing

namespace Word

/-- The numbers that `w` bytes can hold. -/
def range : Nat → Nat
  | 0 => 1
  | w + 1 => 256 * range w

theorem ofBytes_toBytes (w value : Nat) : ofBytes (toBytes w value) = value % range w := by
  induction w generalizing value with
  | zero => simp [toBytes, ofBytes, range, Nat.mod_one]
  | succ w ih =>
    have hlow : (UInt8.ofNat value).toNat = value % 256 := UInt8.toNat_ofNat'
    rw [toBytes, ofBytes, ih, hlow, range, Nat.mod_mul]

lemma ofBytes_append (bytes rest : List UInt8) :
    ofBytes (bytes ++ rest) = ofBytes bytes + range bytes.length * ofBytes rest := by
  induction bytes with
  | nil => simp [ofBytes, range]
  | cons b bytes ih =>
    rw [List.cons_append, ofBytes, ofBytes, ih, List.length_cons, range, Nat.mul_add,
      Nat.mul_assoc, Nat.add_assoc]

lemma ofBytes_lt (bytes : List UInt8) : ofBytes bytes < range bytes.length := by
  induction bytes with
  | nil => exact Nat.one_pos
  | cons b rest ih =>
    have hb : b.toNat < 256 := b.toNat_lt
    rw [ofBytes, List.length_cons, range]
    omega

lemma ofBytes_replicate_zero (w : Nat) : ofBytes (List.replicate w 0) = 0 := by
  induction w with
  | zero => rfl
  | succ w ih => simp [List.replicate_succ, ofBytes, ih]

end Word

namespace Region

variable (region : Region)

/-- The word of `width` bytes at `offset`. -/
def word (width offset : Nat) : Nat := Word.ofBytes (region.slice offset width)

/-- Replaces the bytes from `offset` on. -/
def put (offset : Nat) (bytes : List UInt8) : Region :=
  { region with bytes := overwrite region.bytes offset bytes }

/-- Do the ranges of `m` bytes at `a` and of `n` bytes at `b` have no byte in common? -/
def Apart (a m b n : Nat) : Prop := a + m ≤ b ∨ b + n ≤ a

lemma size_overwrite (bytes : Array UInt8) (offset : Nat) (new : List UInt8) :
    (overwrite bytes offset new).size = bytes.size := by
  induction new generalizing bytes offset with
  | nil => rfl
  | cons b rest ih => rw [overwrite, ih, Array.size_setIfInBounds]

lemma getD_overwrite (bytes : Array UInt8) (offset k : Nat) (new : List UInt8) :
    (overwrite bytes offset new).getD k 0 =
      if offset ≤ k ∧ k < offset + new.length ∧ k < bytes.size then new.getD (k - offset) 0
      else bytes.getD k 0 := by
  induction new generalizing bytes offset with
  | nil =>
    have hout : ¬(offset ≤ k ∧ k < offset + 0 ∧ k < bytes.size) := by omega
    rw [overwrite, List.length_nil, if_neg hout]
  | cons b rest ih =>
    rw [overwrite, ih]
    simp only [Array.size_setIfInBounds, Array.getD_eq_getD_getElem?,
      Array.getElem?_setIfInBounds, List.length_cons]
    by_cases hk : k = offset
    · subst hk
      by_cases hs : k < bytes.size
      · have hout : ¬(k + 1 ≤ k ∧ k < k + 1 + rest.length ∧ k < bytes.size) := by omega
        have hin : k ≤ k ∧ k < k + (rest.length + 1) ∧ k < bytes.size := by omega
        rw [if_neg hout, if_pos hin]
        simp [hs]
      · simp [hs]
    · by_cases hin : offset + 1 ≤ k ∧ k < offset + 1 + rest.length ∧ k < bytes.size
      · have hin' : offset ≤ k ∧ k < offset + (rest.length + 1) ∧ k < bytes.size := by omega
        have hsub : k - offset = (k - (offset + 1)) + 1 := by omega
        rw [if_pos hin, if_pos hin', hsub, List.getD_cons_succ]
      · have hout : ¬(offset ≤ k ∧ k < offset + (rest.length + 1) ∧ k < bytes.size) := by omega
        rw [if_neg hin, if_neg hout, if_neg (Ne.symm hk)]

@[simp] theorem length_put (offset : Nat) (bytes : List UInt8) :
    (region.put offset bytes).length = region.length :=
  size_overwrite region.bytes offset bytes

@[simp] theorem alignment_put (offset : Nat) (bytes : List UInt8) :
    (region.put offset bytes).alignment = region.alignment := rfl

theorem byte_put (offset k : Nat) (bytes : List UInt8) :
    (region.put offset bytes).byte k =
      if offset ≤ k ∧ k < offset + bytes.length ∧ k < region.length then bytes.getD (k - offset) 0
      else region.byte k :=
  getD_overwrite region.bytes offset k bytes

lemma eq_of_byte_eq {region region' : Region} (hlength : region'.length = region.length)
    (halignment : region'.alignment = region.alignment)
    (hbyte : ∀ k, region'.byte k = region.byte k) : region' = region := by
  obtain ⟨bytes, alignment⟩ := region
  obtain ⟨bytes', alignment'⟩ := region'
  obtain rfl : alignment' = alignment := halignment
  have hbytes : bytes' = bytes := by
    apply Array.ext hlength
    intro k hk hk'
    have hsame : bytes'.getD k 0 = bytes.getD k 0 := hbyte k
    simpa only [Array.getD_eq_getD_getElem?, Array.getElem?_eq_getElem hk,
      Array.getElem?_eq_getElem hk', Option.getD_some] using hsame
  rw [hbytes]

theorem put_comm (offset other : Nat) (bytes bytes' : List UInt8)
    (h : Apart offset bytes.length other bytes'.length) :
    (region.put offset bytes).put other bytes' = (region.put other bytes').put offset bytes := by
  apply eq_of_byte_eq
  · simp
  · simp
  · intro k
    simp only [byte_put, length_put]
    unfold Apart at h
    by_cases hin : offset ≤ k ∧ k < offset + bytes.length ∧ k < region.length
    · have hout : ¬(other ≤ k ∧ k < other + bytes'.length ∧ k < region.length) := by omega
      rw [if_neg hout, if_pos hin, if_pos hin]
    · rw [if_neg hin, if_neg hin]

lemma slice_congr {region region' : Region} {offset count : Nat}
    (h : ∀ k, k < count → region.byte (offset + k) = region'.byte (offset + k)) :
    region.slice offset count = region'.slice offset count := by
  unfold slice
  apply List.map_congr_left
  intro k hk
  exact h k (List.mem_range.mp hk)

lemma slice_add (offset low high : Nat) :
    region.slice offset (low + high) =
      region.slice offset low ++ region.slice (offset + low) high := by
  unfold slice
  rw [List.range_add, List.map_append, List.map_map]
  simp only [Function.comp_def, Nat.add_assoc]

lemma word_add (low high offset : Nat) :
    region.word (low + high) offset =
      region.word low offset + Word.range low * region.word high (offset + low) := by
  have hlength : (region.slice offset low).length = low := by simp [slice]
  rw [word, slice_add, Word.ofBytes_append, hlength, word, word]

lemma word_lt (width offset : Nat) : region.word width offset < Word.range width := by
  have hlt := Word.ofBytes_lt (region.slice offset width)
  rwa [slice, List.length_map, List.length_range] at hlt

theorem slice_put_self (offset : Nat) (bytes : List UInt8)
    (h : offset + bytes.length ≤ region.length) :
    (region.put offset bytes).slice offset bytes.length = bytes := by
  apply List.ext_getElem
  · simp [slice]
  · intro k hk hk'
    have hin : offset ≤ offset + k ∧ offset + k < offset + bytes.length ∧
        offset + k < region.length := by omega
    simp only [slice, List.getElem_map, List.getElem_range, byte_put, if_pos hin,
      Nat.add_sub_cancel_left]
    rw [List.getD_eq_getElem?_getD, List.getElem?_eq_getElem hk', Option.getD_some]

theorem slice_put_apart (offset other count : Nat) (bytes : List UInt8)
    (h : Apart offset bytes.length other count) :
    (region.put offset bytes).slice other count = region.slice other count := by
  apply slice_congr
  intro k hk
  have hout : ¬(offset ≤ other + k ∧ other + k < offset + bytes.length ∧ other + k < region.length) := by
    unfold Apart at h
    omega
  rw [byte_put, if_neg hout]

theorem slice_put_replicate (offset count other width : Nat) (b : UInt8)
    (hlow : offset ≤ other) (hhigh : other + width ≤ offset + count)
    (h : offset + count ≤ region.length) :
    (region.put offset (List.replicate count b)).slice other width = List.replicate width b := by
  apply List.ext_getElem
  · simp [slice]
  · intro k hk hk'
    have hk'' : k < width := by simpa using hk'
    have hin : offset ≤ other + k ∧ other + k < offset + (List.replicate count b).length ∧
        other + k < region.length := by
      simp only [List.length_replicate]
      omega
    have hsub : other + k - offset < count := by omega
    simp only [slice, List.getElem_map, List.getElem_range, byte_put, if_pos hin,
      List.getElem_replicate]
    simp [List.getD_eq_getElem?_getD, hsub]

theorem checkWord_ok {width offset : Nat} (hin : offset + width ≤ region.length)
    (haligned : offset % width = 0) (hwidth : width ≤ region.alignment) :
    region.checkWord width offset = .ok () := by
  have hnot : ¬region.length < offset + width := by omega
  rw [checkWord, if_neg hnot, if_pos ⟨haligned, hwidth⟩]

theorem load_ok {width offset : Nat} (hin : offset + width ≤ region.length)
    (haligned : offset % width = 0) (hwidth : width ≤ region.alignment) :
    region.load width offset = .ok (region.word width offset) := by
  rw [load, region.checkWord_ok hin haligned hwidth]
  rfl

theorem store_ok {width offset : Nat} (value : Nat) (hin : offset + width ≤ region.length)
    (haligned : offset % width = 0) (hwidth : width ≤ region.alignment) :
    region.store width offset value = .ok (region.put offset (Word.toBytes width value)) := by
  rw [store, region.checkWord_ok hin haligned hwidth]
  rfl

theorem fill_ok {offset count : Nat} (b : UInt8) (hin : offset + count ≤ region.length) :
    region.fill offset count b = .ok (region.put offset (List.replicate count b)) := by
  have hnot : ¬region.length < offset + count := by omega
  rw [fill, if_neg hnot]
  rfl

theorem word_put_self (width offset value : Nat) (h : offset + width ≤ region.length) :
    (region.put offset (Word.toBytes width value)).word width offset =
      value % Word.range width := by
  have hlen : (Word.toBytes width value).length = width := Word.length_toBytes width value
  have hslice := region.slice_put_self offset (Word.toBytes width value) (by omega)
  rw [hlen] at hslice
  rw [word, hslice, Word.ofBytes_toBytes]

theorem word_put_apart (offset width other : Nat) (bytes : List UInt8)
    (h : Apart offset bytes.length other width) :
    (region.put offset bytes).word width other = region.word width other := by
  rw [word, region.slice_put_apart offset other width bytes h, word]

theorem word_put_zeros (offset count other width : Nat) (hlow : offset ≤ other)
    (hhigh : other + width ≤ offset + count) (h : offset + count ≤ region.length) :
    (region.put offset (List.replicate count 0)).word width other = 0 := by
  rw [word, region.slice_put_replicate offset count other width 0 hlow hhigh h,
    Word.ofBytes_replicate_zero]

lemma byte_zeroed (length alignment k : Nat) : (zeroed length alignment).byte k = 0 := by
  by_cases h : k < length
  · simp [byte, zeroed, Array.getD_eq_getD_getElem?, h]
  · simp [byte, zeroed, Array.getD_eq_getD_getElem?, h]

theorem word_zeroed (length alignment width offset : Nat) :
    (zeroed length alignment).word width offset = 0 := by
  have hslice : (zeroed length alignment).slice offset width = List.replicate width 0 := by
    apply List.ext_getElem
    · simp [slice]
    · intro k hk hk'
      simp [slice, byte_zeroed]
  rw [word, hslice, Word.ofBytes_replicate_zero]

/-! ### Regions before and after -/

/-- Has a region got new bytes from `offset` on, and is everything else in it as before? -/
structure Rewritten (region region' : Region) (offset : Nat) (bytes : List UInt8) : Prop where
  length : region'.length = region.length
  alignment : region'.alignment = region.alignment
  inside : region'.slice offset bytes.length = bytes
  outside : ∀ k, k < offset ∨ offset + bytes.length ≤ k → region'.byte k = region.byte k

lemma rewritten_put {offset : Nat} {bytes : List UInt8}
    (hin : offset + bytes.length ≤ region.length) :
    region.Rewritten (region.put offset bytes) offset bytes where
  length := length_put _ _ _
  alignment := alignment_put _ _ _
  inside := slice_put_self _ _ _ hin
  outside := by
    intro k hk
    rw [byte_put, if_neg (by omega)]

namespace Rewritten

variable {region region' region'' : Region} {offset other width count : Nat} {bytes rest : List UInt8}

lemma slice_apart (h : region.Rewritten region' offset bytes)
    (hapart : Apart offset bytes.length other count) :
    region'.slice other count = region.slice other count := by
  apply slice_congr
  intro k hk
  apply h.outside
  unfold Apart at hapart
  omega

lemma load_apart (h : region.Rewritten region' offset bytes)
    (hapart : Apart offset bytes.length other width) :
    region'.load width other = region.load width other := by
  unfold load checkWord
  rw [h.length, h.alignment, h.slice_apart hapart]

lemma load_self {value : Nat} (h : region.Rewritten region' offset (Word.toBytes width value))
    (hin : offset + width ≤ region.length) (haligned : offset % width = 0)
    (hwidth : width ≤ region.alignment) (hvalue : value < Word.range width) :
    region'.load width offset = .ok value := by
  rw [← h.length] at hin
  rw [← h.alignment] at hwidth
  have hinside := h.inside
  rw [Word.length_toBytes] at hinside
  rw [load_ok _ hin haligned hwidth, word, hinside, Word.ofBytes_toBytes, Nat.mod_eq_of_lt hvalue]

lemma overlaid {first : List UInt8} (h : region.Rewritten region' offset (first ++ rest))
    (hfirst : region'.Rewritten region'' offset bytes) (hlength : bytes.length = first.length) :
    region.Rewritten region'' offset (bytes ++ rest) where
  length := hfirst.length.trans h.length
  alignment := hfirst.alignment.trans h.alignment
  inside := by
    have hinside := h.inside
    rw [List.length_append, slice_add] at hinside
    have hrest := (List.append_inj' hinside (by simp [slice])).2
    rw [List.length_append, slice_add, hfirst.inside,
      hfirst.slice_apart (Or.inl (Nat.le_refl _)), hlength, hrest]
  outside := by
    intro k hk
    rw [List.length_append] at hk
    rw [hfirst.outside k (by omega), h.outside k]
    rw [List.length_append]
    omega

end Rewritten

end Region

end CompletionRing
