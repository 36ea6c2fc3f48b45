import CompletionRing.Proofs.Record.Stores
import Mathlib.Data.List.Forall2

/-!
# Footprints

Which bytes the operations of a record store change. A store to a field changes the four bytes of
the field, clearing and priming change the record of each engine at one index, and a retirement
changes one fence word. Every other byte stays as it is.
-/

namespace CompletionRing

namespace Layout

/-- The bytes of a record of zeros. -/
def blankRecord (layout : Layout) : List UInt8 := List.replicate layout.recordSize 0

/-- The bytes of a record that is marked as skipped and otherwise zero. -/
def primedRecord (layout : Layout) : List UInt8 :=
  Word.toBytes 4 skippedMarker.toNat ++ List.replicate (layout.recordSize - 4) 0

end Layout

namespace Bank

variable {bank bank' : Bank} {capacity index index' offset inner : Nat} {field other : Field}
  {bytes : List UInt8} {datum : UInt32}

/-- Has a bank got new bytes in its region, and is everything else of it as before? -/
structure Rewritten (bank bank' : Bank) (offset : Nat) (bytes : List UInt8) : Prop where
  rest : bank' = bank.withRegion bank'.mapping.region
  region : bank.mapping.region.Rewritten bank'.mapping.region offset bytes

lemma Rewritten.read_apart (h : bank.Rewritten bank' offset bytes)
    (hapart : ∀ place, bank.fieldOffset? index field = some place →
      Region.Apart offset bytes.length place 4) :
    bank'.read index field = bank.read index field := by
  have hplace : bank'.fieldOffset? index field = bank.fieldOffset? index field := by
    rw [h.rest]
    rfl
  unfold read
  rw [hplace]
  cases hoffset : bank.fieldOffset? index field with
  | none => rfl
  | some place =>
    simp only [Region.load32, h.region.load_apart (hapart place hoffset)]

lemma fieldOffset?_of_offset? (hinner : bank.layout.offset? field = some inner) (index : Nat) :
    bank.fieldOffset? index field = some (bank.layout.recordOffset index + inner) := by
  rw [fieldOffset?, hinner, Option.map_some]

lemma rewritten_withField (h : bank.Fits capacity) (hi : index < capacity)
    (hinner : bank.layout.offset? field = some inner) (datum : UInt32) :
    bank.Rewritten (bank.withField index field datum) (bank.layout.recordOffset index + inner)
      (Word.toBytes 4 datum.toNat) := by
  have hoffset := fieldOffset?_of_offset? hinner index
  unfold withField
  rw [hoffset]
  refine ⟨rfl, Region.rewritten_put _ ?_⟩
  rw [Word.length_toBytes]
  exact (h.word hi hoffset).1

lemma withField_of_lacks (hlacks : bank.layout.offset? field = none) (index : Nat)
    (datum : UInt32) : bank.withField index field datum = bank := by
  rw [withField, fieldOffset?, hlacks, Option.map_none]

lemma rewritten_cleared (h : bank.Fits capacity) (hi : index < capacity) :
    bank.Rewritten (bank.cleared index) (bank.layout.recordOffset index)
      bank.layout.blankRecord := by
  refine ⟨rfl, Region.rewritten_put _ ?_⟩
  rw [List.length_replicate, h.length]
  exact Layout.recordOffset_le hi

lemma rewritten_primed (h : bank.Fits capacity) (hi : index < capacity) :
    bank.Rewritten (bank.primed index) (bank.layout.recordOffset index)
      bank.layout.primedRecord := by
  have hcleared := rewritten_cleared h hi
  have hmarker : (bank.cleared index).layout.offset? .marker = some 0 := by
    cases (bank.cleared index).layout <;> rfl
  have hmarked := rewritten_withField (h.cleared index) hi hmarker skippedMarker
  have hblank : bank.layout.blankRecord =
      List.replicate 4 0 ++ List.replicate (bank.layout.recordSize - 4) 0 := by
    cases hlayout : bank.layout <;> rfl
  have hregion := hcleared.region
  rw [hblank] at hregion
  exact ⟨hmarked.rest, hregion.overlaid hmarked.region (Word.length_toBytes _ _)⟩

lemma Rewritten.read_other (h : bank.Rewritten bank' (bank.layout.recordOffset index) bytes)
    (hlength : bytes.length = bank.layout.recordSize) (hindex : index' ≠ index) (field : Field) :
    bank'.read index' field = bank.read index' field := by
  apply h.read_apart
  intro place hplace
  obtain ⟨inner, hinner, rfl⟩ := fieldOffset?_eq_some hplace
  have hbounds := Layout.offset?_bounds hinner
  have hrecords := bank.layout.recordOffset_apart (Ne.symm hindex)
  rw [hlength]
  unfold Region.Apart at hrecords ⊢
  omega

lemma read_withField_of_ne (h : bank.Fits capacity) (hi : index < capacity)
    (hne : ¬(index' = index ∧ other = field)) (datum : UInt32) :
    (bank.withField index field datum).read index' other = bank.read index' other := by
  cases hinner : bank.layout.offset? field with
  | none => rw [withField_of_lacks hinner]
  | some inner =>
    apply (rewritten_withField h hi hinner datum).read_apart
    intro place hplace
    rw [Word.length_toBytes]
    exact fieldOffset?_apart (fieldOffset?_of_offset? hinner index) hplace hne

lemma read_withField_self (h : bank.Fits capacity) (hi : index < capacity)
    (hhas : bank.layout.has field) (datum : UInt32) :
    (bank.withField index field datum).read index field = .ok (some datum) := by
  rw [read_ok (h.withField index field datum) hi, layout_withField, if_pos hhas,
    value_withField h hi hhas, if_pos ⟨rfl, rfl⟩]

end Bank

namespace RecordStore

variable {store : RecordStore} {capacity index number : Nat} {engine : Engine} {field : Field}
  {datum : UInt32}

/-- What a field of an engine's record reads; none if there is no such engine or field. -/
def read (store : RecordStore) (engine : Engine) (index : Nat) (field : Field) :
    Except Fault (Option UInt32) :=
  match store.bank? engine with
  | none => return none
  | some bank => bank.read index field

/-- Does a store differ from the one before in one field of a record of an engine only? -/
structure Wrote (store store' : RecordStore) (engine : Engine) (index : Nat) (field : Field)
    (datum : UInt32) : Prop where
  fence : store'.fence = store.fence
  /-- The four bytes of the field are new, in the bank of the engine. -/
  bytes : List.Forall₂ (fun bank bank' => if bank.engine = engine then
      ∃ inner, bank.layout.offset? field = some inner ∧ bank.Rewritten bank'
        (bank.layout.recordOffset index + inner) (Word.toBytes 4 datum.toNat)
    else bank' = bank) store.banks store'.banks
  written : store'.read engine index field = .ok (some datum)
  others : ∀ engine' index' other, (engine', index', other) ≠ (engine, index, field) →
    store'.read engine' index' other = store.read engine' index' other

/-- Does a store differ from the one before in the records of one index only, and do these consist
of the given bytes? -/
structure Reset (store store' : RecordStore) (index : Nat) (record : Layout → List UInt8) :
    Prop where
  fence : store'.fence = store.fence
  whole : ∀ layout, (record layout).length = layout.recordSize
  bytes : List.Forall₂ (fun bank bank' =>
    bank.Rewritten bank' (bank.layout.recordOffset index) (record bank.layout))
    store.banks store'.banks
  others : ∀ engine index' field, index' ≠ index →
    store'.read engine index' field = store.read engine index' field

/-- Does a store differ from the one before in one fence word only? -/
structure Marked (store store' : RecordStore) (index number : Nat) : Prop where
  banks : store'.banks = store.banks
  rest : store'.fence = { store.fence with region := store'.fence.region }
  bytes : store.fence.region.Rewritten store'.fence.region (fenceOffset index)
    (Word.toBytes fenceWidth number)
  word : store'.fenceWord index = .ok (UInt64.ofNat number)
  others : ∀ index', index' ≠ index → store'.fenceWord index' = store.fenceWord index'

lemma forall₂_mapBanks {R : Bank → Bank → Prop} {f : Bank → Bank}
    (h : ∀ bank ∈ store.banks, R bank (f bank)) :
    List.Forall₂ R store.banks (store.mapBanks f).banks :=
  List.forall₂_map_right_iff.mpr (List.forall₂_same.mpr h)

lemma read_mapBanks {f : Bank → Bank} (hengine : ∀ bank, (f bank).engine = bank.engine)
    (hread : ∀ bank ∈ store.banks, bank.engine = engine →
      (f bank).read index field = bank.read index field) :
    (store.mapBanks f).read engine index field = store.read engine index field := by
  unfold read
  rw [bank?_mapBanks hengine]
  cases hbank : store.bank? engine with
  | none => rfl
  | some bank =>
    obtain ⟨hmem, hsame⟩ := bank?_eq_some_mem hbank
    exact hread bank hmem hsame

theorem wrote_withField (h : store.Fits capacity) (hi : index < capacity)
    (hknows : store.knows engine field) (datum : UInt32) :
    store.Wrote (store.withField engine index field datum) engine index field datum := by
  have hengine : ∀ bank : Bank, (if bank.engine = engine then
      bank.withField index field datum else bank).engine = bank.engine := by
    intro bank
    split <;> simp
  obtain ⟨bank, hbank, hhas⟩ := (Option.any_eq_true _ _).mp hknows
  obtain ⟨hmem, hsame⟩ := bank?_eq_some_mem hbank
  refine ⟨rfl, ?_, ?_, ?_⟩
  · apply forall₂_mapBanks
    intro bank' hmem'
    split
    · next hengine' =>
      rw [← hengine', h.bank? hmem'] at hbank
      cases hbank
      obtain ⟨inner, hinner⟩ := Option.isSome_iff_exists.mp hhas
      exact ⟨inner, hinner, Bank.rewritten_withField (h.banks bank hmem) hi hinner datum⟩
    · rfl
  · unfold read withField
    rw [bank?_mapBanks hengine, hbank, Option.map_some, if_pos hsame]
    exact Bank.read_withField_self (h.banks bank hmem) hi hhas datum
  · intro engine' index' other hne
    apply read_mapBanks hengine
    rintro bank' hmem' rfl
    split
    · next hengine' =>
      apply Bank.read_withField_of_ne (h.banks bank' hmem') hi
      rintro ⟨rfl, rfl⟩
      exact hne (by rw [hengine'])
    · rfl

theorem reset_cleared (h : store.Fits capacity) (hi : index < capacity) :
    store.Reset (store.cleared index) index Layout.blankRecord where
  fence := rfl
  whole := fun layout => List.length_replicate
  bytes := forall₂_mapBanks fun bank hmem => Bank.rewritten_cleared (h.banks bank hmem) hi
  others := by
    intro engine index' field hne
    apply read_mapBanks fun bank => bank.engine_cleared index
    intro bank hmem _
    exact (Bank.rewritten_cleared (h.banks bank hmem) hi).read_other List.length_replicate hne field

lemma length_primedRecord (layout : Layout) :
    layout.primedRecord.length = layout.recordSize := by
  cases layout <;> rfl

theorem reset_primed (h : store.Fits capacity) (hi : index < capacity) :
    store.Reset (store.primed index) index Layout.primedRecord where
  fence := rfl
  whole := length_primedRecord
  bytes := forall₂_mapBanks fun bank hmem => Bank.rewritten_primed (h.banks bank hmem) hi
  others := by
    intro engine index' field hne
    apply read_mapBanks fun bank => bank.engine_primed index
    intro bank hmem _
    exact (Bank.rewritten_primed (h.banks bank hmem) hi).read_other (length_primedRecord _) hne field

lemma rewritten_withFence (h : store.Fits capacity) (hi : index < capacity) (number : Nat) :
    store.fence.region.Rewritten (store.withFence index number).fence.region
      (fenceOffset index) (Word.toBytes fenceWidth number) := by
  apply Region.rewritten_put
  rw [Word.length_toBytes]
  exact (h.fenceOffset hi).1

lemma fenceWord_eq (store : RecordStore) (index : Nat) : store.fenceWord index =
    UInt64.ofNat <$> store.fence.region.load fenceWidth (fenceOffset index) := rfl

theorem marked_withFence (h : store.Fits capacity) (hi : index < capacity)
    (hnumber : number < UInt64.size) :
    store.Marked (store.withFence index number) index number where
  -- The definition is unfolded first, or the bytes of the word would be computed.
  banks := by
    unfold withFence
    rfl
  rest := by
    unfold withFence
    rfl
  bytes := rewritten_withFence h hi number
  word := by
    obtain ⟨hin, haligned⟩ := h.fenceOffset hi
    have hload := (rewritten_withFence h hi number).load_self hin haligned h.alignment hnumber
    rw [fenceWord_eq, hload]
    rfl
  others := by
    intro index' hne
    have hapart : Region.Apart (fenceOffset index) (Word.toBytes fenceWidth number).length
        (fenceOffset index') fenceWidth := by
      rw [Word.length_toBytes]
      exact fenceOffset_apart hne
    rw [fenceWord_eq, (rewritten_withFence h hi number).load_apart hapart, fenceWord_eq]

end RecordStore

end CompletionRing
