import CompletionRing.Proofs.Memory.Access

/-!
# What a region remembers

After any accesses to a region of zeros, each of its bytes is the one that was stored there last.
An access is stopped just when its range or its alignment is bad, and then changes nothing; a load
answers the little-endian number of the bytes in its range.
-/

namespace CompletionRing

namespace Region

/-- May a word be at this place in a region of this length and alignment? -/
def admits (length alignment width offset : Nat) : Bool :=
  offset + width ≤ length ∧ width ∣ offset ∧ width ≤ alignment

namespace Op

/-- The width and the place of the word that is loaded or stored. -/
def word? : Op → Option (Nat × Nat)
  | .load32 offset | .store32 offset _ => some (4, offset)
  | .load64 offset | .store64 offset _ => some (8, offset)
  | _ => none

/-- The width and the place of the word that is loaded. -/
def loaded? : Op → Option (Nat × Nat)
  | .load32 offset => some (4, offset)
  | .load64 offset => some (8, offset)
  | _ => none

/-- From where on bytes are stored, and which. -/
def stored? : Op → Option (Nat × List UInt8)
  | .store32 offset value => some (offset, Word.toBytes 4 value.toNat)
  | .store64 offset value => some (offset, Word.toBytes 8 value.toNat)
  | .fill offset count byte => some (offset, List.replicate count byte)
  | _ => none

/-- May the access be made to a region of this length and alignment? -/
def allowed (length alignment : Nat) : Op → Bool
  | .load32 offset | .store32 offset _ => admits length alignment 4 offset
  | .load64 offset | .store64 offset _ => admits length alignment 8 offset
  | .fill offset count _ => offset + count ≤ length
  | .slice _ _ | .measure => true

/-- The byte that an access stores at `k`, if it may and does. -/
def byteAt? (length alignment : Nat) (op : Op) (k : Nat) : Option UInt8 := do
  let (offset, bytes) ← op.stored?
  if op.allowed length alignment ∧ offset ≤ k then bytes[k - offset]? else none

/-- The load that answers what the access stores, and this value. -/
def readBack? : Op → Option (Op × Nat)
  | .store32 offset value => some (.load32 offset, value.toNat)
  | .store64 offset value => some (.load64 offset, value.toNat)
  | _ => none

/-- Does the access store nothing in a range? -/
def Spares (op : Op) (offset width : Nat) : Prop :=
  ∀ other bytes, op.stored? = some (other, bytes) → Apart other bytes.length offset width

end Op

/-- The byte that some accesses stored at `k` last, or zero if none did. -/
def lastByte (length alignment : Nat) (ops : List Op) (k : Nat) : UInt8 :=
  (ops.reverse.findSome? (·.byteAt? length alignment k)).getD 0

/-- Is this what a region of this length and alignment is like after some accesses? -/
structure Remembers (length alignment : Nat) (ops : List Op) (region : Region) : Prop where
  size : region.length = length ∧ region.alignment = alignment
  byte : ∀ k, region.byte k = lastByte length alignment ops k
  words : ∀ op width offset, op.word? = some (width, offset) →
    ((region.attempt op).1.isOk ↔ offset + width ≤ length ∧ width ∣ offset ∧ width ≤ alignment)
  /-- The range of a word is looked at ahead of its alignment. -/
  wordFaults : ∀ op width offset fault, op.word? = some (width, offset) →
    (region.attempt op).1 = .error fault →
      fault = if offset + width ≤ length then .unalignedWord offset
        else .wordOutOfRange offset length
  fills : ∀ offset count byte,
    (region.attempt (.fill offset count byte)).1.isOk ↔ offset + count ≤ length
  fillFaults : ∀ offset count byte fault,
    (region.attempt (.fill offset count byte)).1 = .error fault →
      fault = .fillOutOfRange offset count length
  stopped : ∀ op fault, (region.attempt op).1 = .error fault → (region.attempt op).2 = region
  stores : ∀ op offset bytes, op.stored? = some (offset, bytes) → (region.attempt op).1.isOk →
    (region.attempt op).1 = .ok .done ∧ region.Rewritten (region.attempt op).2 offset bytes
  loads : ∀ op width offset, op.loaded? = some (width, offset) → (region.attempt op).1.isOk →
    region.attempt op = (.ok (.word (Word.ofBytes ((List.range width).map fun k =>
      lastByte length alignment ops (offset + k)))), region)
  halves : ∀ offset, (region.attempt (.load64 offset)).1.isOk → ∃ low high,
    (region.attempt (.load32 offset)).1 = .ok (.word low) ∧
      (region.attempt (.load32 (offset + 4))).1 = .ok (.word high) ∧
      (region.attempt (.load64 offset)).1 = .ok (.word (low + UInt32.size * high))
  readBack : ∀ op load value width offset between, op.readBack? = some (load, value) →
    load.loaded? = some (width, offset) → (region.attempt op).1.isOk →
    (∀ other ∈ between, Op.Spares other offset width) →
      (((region.attempt op).2.attemptAll between).2.attempt load).1 = .ok (.word value)

variable {region : Region} {op : Op} {ops : List Op} {width offset count : Nat} {bytes : List UInt8}

/-! ### One access -/

lemma admits_iff {length alignment : Nat} : admits length alignment width offset ↔
    offset + width ≤ length ∧ width ∣ offset ∧ width ≤ alignment := by
  rw [admits, decide_eq_true_eq]

lemma Op.allowed_of_word? {length alignment : Nat} (hword : op.word? = some (width, offset)) :
    op.allowed length alignment = admits length alignment width offset := by
  cases op <;> cases hword <;> rfl

lemma Op.word?_of_loaded? (hload : op.loaded? = some (width, offset)) :
    op.word? = some (width, offset) := by
  cases op <;> cases hload <;> rfl

lemma checkWord_of_admits (hadmits : admits region.length region.alignment width offset) :
    region.checkWord width offset = .ok () := by
  obtain ⟨hin, haligned, hwidth⟩ := admits_iff.mp hadmits
  exact region.checkWord_ok hin (Nat.mod_eq_zero_of_dvd haligned) hwidth

lemma checkWord_of_not_admits (hadmits : ¬admits region.length region.alignment width offset) :
    region.checkWord width offset = .error (if offset + width ≤ region.length
      then .unalignedWord offset else .wordOutOfRange offset region.length) := by
  rw [admits_iff, Nat.dvd_iff_mod_eq_zero] at hadmits
  unfold checkWord
  by_cases hin : offset + width ≤ region.length
  · have haligned : ¬(offset % width = 0 ∧ width ≤ region.alignment) := fun h => hadmits ⟨hin, h⟩
    rw [if_neg (Nat.not_lt.mpr hin), if_neg haligned, if_pos hin]
  · rw [if_pos (Nat.not_le.mp hin), if_neg hin]

lemma attempt_word_refused {fault : Fault} (hword : op.word? = some (width, offset))
    (hcheck : region.checkWord width offset = .error fault) :
    region.attempt op = (.error fault, region) := by
  cases op <;> cases hword <;>
    simp only [attempt, perform, load32, load64, store32, store64, load, store, hcheck] <;> rfl

lemma attempt_fill_refused {byte : UInt8} (hout : region.length < offset + count) :
    region.attempt (.fill offset count byte) =
      (.error (.fillOutOfRange offset count region.length), region) := by
  simp only [attempt, perform, fill, if_pos hout]
  rfl

lemma attempt_load (hload : op.loaded? = some (width, offset))
    (hallowed : op.allowed region.length region.alignment) :
    region.attempt op = (.ok (.word (region.word width offset)), region) := by
  rw [Op.allowed_of_word? (Op.word?_of_loaded? hload)] at hallowed
  have hcheck := checkWord_of_admits hallowed
  have hlt := region.word_lt width offset
  cases op <;> cases hload
  · have hword := UInt32.toNat_ofNat_of_lt hlt
    simp only [attempt, perform, load32, load, hcheck, bind, Except.bind, pure, Except.pure]
    exact congrArg (fun value => (Except.ok (Reply.word value), region)) hword
  · have hword := UInt64.toNat_ofNat_of_lt hlt
    simp only [attempt, perform, load64, load, hcheck, bind, Except.bind, pure, Except.pure]
    exact congrArg (fun value => (Except.ok (Reply.word value), region)) hword

lemma attempt_store (hstore : op.stored? = some (offset, bytes))
    (hallowed : op.allowed region.length region.alignment) :
    region.attempt op = (.ok .done, region.put offset bytes) := by
  cases op <;> cases hstore
  · have hcheck := checkWord_of_admits hallowed
    simp only [attempt, perform, store32, store, hcheck]
    rfl
  · have hcheck := checkWord_of_admits hallowed
    simp only [attempt, perform, store64, store, hcheck]
    rfl
  · have hin := of_decide_eq_true hallowed
    simp only [attempt, perform, region.fill_ok _ hin]
    rfl

lemma attempt_of_not_allowed (hallowed : ¬op.allowed region.length region.alignment) :
    ∃ fault, region.attempt op = (.error fault, region) := by
  cases hword : op.word? with
  | some word =>
    rw [Op.allowed_of_word? hword] at hallowed
    exact ⟨_, attempt_word_refused hword (checkWord_of_not_admits hallowed)⟩
  | none =>
    cases op <;> cases hword
    · next offset count byte =>
      have hout : region.length < offset + count := by simpa [Op.allowed] using hallowed
      exact ⟨_, attempt_fill_refused hout⟩
    · exact absurd rfl hallowed
    · exact absurd rfl hallowed

lemma attempt_of_allowed (hallowed : op.allowed region.length region.alignment) :
    ∃ reply, (region.attempt op).1 = .ok reply := by
  cases op with
  | load32 | load64 => exact ⟨_, congrArg Prod.fst (attempt_load rfl hallowed)⟩
  | store32 | store64 | fill => exact ⟨_, congrArg Prod.fst (attempt_store rfl hallowed)⟩
  | slice | measure => exact ⟨_, rfl⟩

lemma isOk_attempt_iff : (region.attempt op).1.isOk ↔
    op.allowed region.length region.alignment := by
  constructor
  · intro hok
    by_contra hallowed
    obtain ⟨fault, hattempt⟩ := attempt_of_not_allowed hallowed
    rw [hattempt] at hok
    cases hok
  · intro hallowed
    obtain ⟨reply, hreply⟩ := attempt_of_allowed hallowed
    rw [hreply]
    rfl

lemma attempt_of_stored?_eq_none (hstore : op.stored? = none) : (region.attempt op).2 = region := by
  by_cases hallowed : op.allowed region.length region.alignment
  · cases op <;> cases hstore
    · exact congrArg Prod.snd (attempt_load rfl hallowed)
    · exact congrArg Prod.snd (attempt_load rfl hallowed)
    · rfl
    · rfl
  · obtain ⟨fault, hattempt⟩ := attempt_of_not_allowed hallowed
    rw [hattempt]

lemma in_range_of_stored? {length alignment : Nat} (hstore : op.stored? = some (offset, bytes))
    (hallowed : op.allowed length alignment) : offset + bytes.length ≤ length := by
  cases op <;> cases hstore
  · rw [Word.length_toBytes]
    exact (admits_iff.mp hallowed).1
  · rw [Word.length_toBytes]
    exact (admits_iff.mp hallowed).1
  · rw [List.length_replicate]
    exact of_decide_eq_true hallowed

@[simp] lemma length_attempt (region : Region) (op : Op) :
    (region.attempt op).2.length = region.length := by
  cases hstore : op.stored? with
  | none => rw [attempt_of_stored?_eq_none hstore]
  | some stored =>
    by_cases hallowed : op.allowed region.length region.alignment
    · rw [attempt_store hstore hallowed, length_put]
    · obtain ⟨fault, hattempt⟩ := attempt_of_not_allowed hallowed
      rw [hattempt]

@[simp] lemma alignment_attempt (region : Region) (op : Op) :
    (region.attempt op).2.alignment = region.alignment := by
  cases hstore : op.stored? with
  | none => rw [attempt_of_stored?_eq_none hstore]
  | some stored =>
    by_cases hallowed : op.allowed region.length region.alignment
    · rw [attempt_store hstore hallowed, alignment_put]
    · obtain ⟨fault, hattempt⟩ := attempt_of_not_allowed hallowed
      rw [hattempt]

lemma byte_attempt (region : Region) (op : Op) (k : Nat) :
    (region.attempt op).2.byte k =
      (op.byteAt? region.length region.alignment k).getD (region.byte k) := by
  unfold Op.byteAt?
  cases hstore : op.stored? with
  | none =>
    rw [attempt_of_stored?_eq_none hstore]
    rfl
  | some stored =>
    obtain ⟨offset, bytes⟩ := stored
    by_cases hallowed : op.allowed region.length region.alignment
    · have hin := in_range_of_stored? hstore hallowed
      rw [attempt_store hstore hallowed, byte_put]
      simp only [Option.bind_eq_bind, Option.bind_some, hallowed, true_and]
      by_cases hk : offset ≤ k ∧ k < offset + bytes.length
      · have hlt : k - offset < bytes.length := by omega
        rw [if_pos ⟨hk.1, hk.2, by omega⟩, if_pos hk.1, List.getD_eq_getElem?_getD,
          List.getElem?_eq_getElem hlt, Option.getD_some, Option.getD_some]
      · rw [if_neg (by omega)]
        by_cases hlow : offset ≤ k
        · rw [if_pos hlow, List.getElem?_eq_none (by omega), Option.getD_none]
        · rw [if_neg hlow, Option.getD_none]
    · obtain ⟨fault, hattempt⟩ := attempt_of_not_allowed hallowed
      simp only [hattempt, Option.bind_eq_bind, Option.bind_some, hallowed, Bool.false_eq_true,
        false_and, if_false, Option.getD_none]

/-! ### Accesses one after the other -/

/-- The region that accesses leave. -/
def after (region : Region) (ops : List Op) : Region := (region.attemptAll ops).2

@[simp] lemma after_nil (region : Region) : region.after [] = region := rfl

lemma after_cons (region : Region) (op : Op) (rest : List Op) :
    region.after (op :: rest) = (region.attempt op).2.after rest := rfl

lemma after_append (region : Region) (ops rest : List Op) :
    region.after (ops ++ rest) = (region.after ops).after rest := by
  induction ops generalizing region with
  | nil => rfl
  | cons op ops ih => rw [List.cons_append, after_cons, after_cons, ih]

@[simp] lemma length_after (region : Region) (ops : List Op) :
    (region.after ops).length = region.length := by
  induction ops generalizing region with
  | nil => rfl
  | cons op rest ih => rw [after_cons, ih, length_attempt]

@[simp] lemma alignment_after (region : Region) (ops : List Op) :
    (region.after ops).alignment = region.alignment := by
  induction ops generalizing region with
  | nil => rfl
  | cons op rest ih => rw [after_cons, ih, alignment_attempt]

lemma attemptAll_eq (region : Region) (before : List Op) (op : Op) (rest : List Op) :
    (region.attemptAll (before ++ op :: rest)).1[before.length]? =
      some ((region.after before).attempt op).1 := by
  induction before generalizing region with
  | nil => rfl
  | cons first before ih => exact ih (region.attempt first).2

lemma byte_after (region : Region) (ops : List Op) (k : Nat) :
    (region.after ops).byte k =
      (ops.reverse.findSome? (·.byteAt? region.length region.alignment k)).getD (region.byte k) := by
  induction ops generalizing region with
  | nil => rfl
  | cons op rest ih =>
    rw [after_cons, ih, length_attempt, alignment_attempt, byte_attempt, List.reverse_cons,
      List.findSome?_append]
    cases rest.reverse.findSome? (·.byteAt? region.length region.alignment k) with
    | some b => rfl
    | none => rw [Option.none_or, List.findSome?_singleton, Option.getD_none]

lemma slice_after (region : Region) (hspares : ∀ op ∈ ops, op.Spares offset width) :
    (region.after ops).slice offset width = region.slice offset width := by
  induction ops generalizing region with
  | nil => rfl
  | cons op rest ih =>
    rw [after_cons, ih _ fun other hmem => hspares other (List.mem_cons_of_mem _ hmem)]
    cases hstore : op.stored? with
    | none => rw [attempt_of_stored?_eq_none hstore]
    | some stored =>
      by_cases hallowed : op.allowed region.length region.alignment
      · rw [attempt_store hstore hallowed]
        exact slice_put_apart _ _ _ _ _ (hspares op List.mem_cons_self _ _ hstore)
      · obtain ⟨fault, hattempt⟩ := attempt_of_not_allowed hallowed
        rw [hattempt]

lemma halves_of_isOk (hok : (region.attempt (.load64 offset)).1.isOk) : ∃ low high,
    (region.attempt (.load32 offset)).1 = .ok (.word low) ∧
      (region.attempt (.load32 (offset + 4))).1 = .ok (.word high) ∧
      (region.attempt (.load64 offset)).1 = .ok (.word (low + UInt32.size * high)) := by
  have hallowed := isOk_attempt_iff.mp hok
  obtain ⟨hin, haligned, hwidth⟩ := admits_iff.mp hallowed
  have hlow : (Op.load32 offset).allowed region.length region.alignment :=
    admits_iff.mpr (by omega)
  have hhigh : (Op.load32 (offset + 4)).allowed region.length region.alignment :=
    admits_iff.mpr (by omega)
  refine ⟨region.word 4 offset, region.word 4 (offset + 4),
    congrArg Prod.fst (attempt_load rfl hlow), congrArg Prod.fst (attempt_load rfl hhigh), ?_⟩
  rw [attempt_load rfl hallowed, region.word_add 4 4 offset]
  rfl

lemma attempt_readBack {load : Op} {value : Nat} (hback : op.readBack? = some (load, value))
    (hload : load.loaded? = some (width, offset)) (hok : (region.attempt op).1.isOk)
    (hspares : ∀ other ∈ ops, Op.Spares other offset width) :
    (((region.attempt op).2.after ops).attempt load).1 = .ok (.word value) := by
  have hallowed := isOk_attempt_iff.mp hok
  obtain ⟨hstore, hvalue⟩ : op.stored? = some (offset, Word.toBytes width value) ∧
      value < Word.range width := by
    cases op <;> cases hback <;> cases hload
    · exact ⟨rfl, UInt32.toNat_lt_size _⟩
    · exact ⟨rfl, UInt64.toNat_lt_size _⟩
  have hload' : load.allowed region.length region.alignment := by
    cases op <;> cases hback <;> exact hallowed
  have hin := in_range_of_stored? hstore hallowed
  rw [Word.length_toBytes] at hin
  have hword : ((region.attempt op).2.after ops).word width offset = value := by
    rw [word, slice_after _ hspares, attempt_store hstore hallowed]
    exact (region.word_put_self width offset value hin).trans (Nat.mod_eq_of_lt hvalue)
  rw [attempt_load hload (by simpa using hload'), hword]

/-- A region answers from its bytes, so it is enough to know these. -/
lemma remembers_of_bytes {length alignment : Nat} (hlength : region.length = length)
    (halignment : region.alignment = alignment)
    (hbyte : ∀ k, region.byte k = lastByte length alignment ops k) :
    Remembers length alignment ops region where
  size := ⟨hlength, halignment⟩
  byte := hbyte
  words := by
    intro op width offset hword
    rw [isOk_attempt_iff, Op.allowed_of_word? hword, admits_iff, hlength, halignment]
  wordFaults := by
    intro op width offset fault hword hfault
    by_cases hadmits : admits region.length region.alignment width offset
    · have hok : (region.attempt op).1.isOk := by
        rwa [isOk_attempt_iff, Op.allowed_of_word? hword]
      rw [hfault] at hok
      cases hok
    · rw [attempt_word_refused hword (checkWord_of_not_admits hadmits), hlength] at hfault
      exact (Except.error.inj hfault).symm
  fills := by
    intro offset count byte
    rw [isOk_attempt_iff, Op.allowed, decide_eq_true_eq, hlength]
  fillFaults := by
    intro offset count byte fault hfault
    by_cases hin : offset + count ≤ region.length
    · have hok : (region.attempt (.fill offset count byte)).1.isOk :=
        isOk_attempt_iff.mpr (decide_eq_true hin)
      rw [hfault] at hok
      cases hok
    · rw [attempt_fill_refused (Nat.not_le.mp hin), hlength] at hfault
      exact (Except.error.inj hfault).symm
  stopped := by
    intro op fault hfault
    by_cases hallowed : op.allowed region.length region.alignment
    · obtain ⟨reply, hreply⟩ := attempt_of_allowed hallowed
      rw [hreply] at hfault
      cases hfault
    · obtain ⟨fault', hattempt⟩ := attempt_of_not_allowed hallowed
      rw [hattempt]
  stores := by
    intro op offset bytes hstore hok
    have hallowed := isOk_attempt_iff.mp hok
    rw [attempt_store hstore hallowed]
    exact ⟨rfl, rewritten_put _ (in_range_of_stored? hstore hallowed)⟩
  loads := by
    intro op width offset hload hok
    simp only [← hbyte]
    exact attempt_load hload (isOk_attempt_iff.mp hok)
  halves := fun _ hok => halves_of_isOk hok
  readBack := fun _ _ _ _ _ _ hback hload hok hspares => attempt_readBack hback hload hok hspares

/-- A region starts out as zeros, and whatever accesses are made, one after the other, it answers
from the bytes that were stored last. -/
theorem remembers_after (length alignment : Nat) (ops : List Op) :
    (∀ name mapper region, allocate name length alignment mapper = .ok region →
      region = zeroed length alignment) ∧
    (∀ before op rest, ops = before ++ op :: rest →
      ((zeroed length alignment).attemptAll ops).1[before.length]? =
        some (((zeroed length alignment).attemptAll before).2.attempt op).1) ∧
    Remembers length alignment ops ((zeroed length alignment).attemptAll ops).2 := by
  have hlength : (zeroed length alignment).length = length := Array.size_replicate
  refine ⟨?_, ?_, ?_⟩
  · intro name mapper region hregion
    unfold allocate at hregion
    split at hregion
    · exact (Except.ok.inj hregion).symm
    · cases hregion
  · rintro before op rest rfl
    exact attemptAll_eq _ before op rest
  · have hbyte : ∀ k, ((zeroed length alignment).after ops).byte k =
        lastByte length alignment ops k := by
      intro k
      rw [byte_after, hlength, byte_zeroed]
      rfl
    exact remembers_of_bytes ((length_after _ _).trans hlength) (alignment_after _ _) hbyte

/-- Words of two widths and a filling, one over the other. -/
example : ((zeroed 16 8).attemptAll [.store64 8 0x1122334455667788, .fill 9 2 0xFF,
      .load32 8, .load64 8, .load64 12, .load32 13, .load32 2]).1.map (·.toOption.isSome) =
    [true, true, true, true, false, false, false] := by decide

end Region

end CompletionRing
