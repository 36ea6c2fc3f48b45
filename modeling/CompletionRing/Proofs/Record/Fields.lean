import CompletionRing.Proofs.Memory.Access
import CompletionRing.Record.Store

/-!
# Fields of records

`Bank.value` is the field of a record without the checks of an access. In a bank whose region has
room for its records every access succeeds, a store changes the one field that it names, and
clearing or priming a record changes the fields of that record only.
-/

namespace CompletionRing

namespace Layout

/-- Does the layout have the field? -/
def has (layout : Layout) (field : Field) : Bool := (layout.offset? field).isSome

lemma stride_eq (layout : Layout) : layout.stride = layout.recordSize := by
  cases layout <;> rfl

lemma recordSize_mod (layout : Layout) : layout.recordSize % 4 = 0 := by
  cases layout <;> rfl

lemma offset?_bounds {layout : Layout} {field : Field} {offset : Nat}
    (h : layout.offset? field = some offset) :
    offset + 4 ≤ layout.recordSize ∧ offset % 4 = 0 := by
  have hcompact : compact.laneCount = 1 := rfl
  have hextended : extended.laneCount = 4 := rfl
  cases layout <;> cases field <;>
    simp only [offset?, Option.ite_none_right_eq_some, Option.some.injEq, reduceCtorEq] at h <;>
    simp only [recordSize] <;> omega

lemma offset?_apart {layout : Layout} {field other : Field} {offset offset' : Nat}
    (h : layout.offset? field = some offset) (h' : layout.offset? other = some offset')
    (hne : other ≠ field) : offset + 4 ≤ offset' ∨ offset' + 4 ≤ offset := by
  have hcompact : compact.laneCount = 1 := rfl
  have hextended : extended.laneCount = 4 := rfl
  cases layout <;> cases field <;> cases other <;>
    simp only [offset?, Option.ite_none_right_eq_some, Option.some.injEq, ne_eq,
      Field.lane.injEq, not_true_eq_false, reduceCtorEq] at h h' hne <;> omega

lemma recordOffset_le {layout : Layout} {index capacity : Nat} (h : index < capacity) :
    layout.recordOffset index + layout.recordSize ≤ layout.regionSize capacity := by
  have hstep : (index + 1) * layout.stride ≤ capacity * layout.stride :=
    Nat.mul_le_mul_right layout.stride h
  rw [Nat.succ_mul] at hstep
  rw [recordOffset, regionSize, ← stride_eq]
  exact hstep

lemma regionSize_lt (layout : Layout) {capacity : Nat} (h : capacity < UInt32.size) :
    layout.regionSize capacity < Region.systemBound := by
  have hstride : layout.stride ≤ 64 := by
    cases layout <;> decide
  calc capacity * layout.stride
    _ ≤ capacity * 64 := Nat.mul_le_mul_left capacity hstride
    _ < UInt32.size * 64 := Nat.mul_lt_mul_of_pos_right h (by decide)
    _ ≤ Region.systemBound := by decide

lemma recordOffset_mod (layout : Layout) (index : Nat) : layout.recordOffset index % 4 = 0 := by
  rw [recordOffset, stride_eq, Nat.mul_mod, recordSize_mod, Nat.mul_zero, Nat.zero_mod]

lemma recordOffset_apart (layout : Layout) {index index' : Nat} (h : index ≠ index') :
    Region.Apart (layout.recordOffset index) layout.recordSize
      (layout.recordOffset index') layout.recordSize := by
  rcases Nat.lt_or_gt_of_ne h with hlt | hgt
  · exact Or.inl (recordOffset_le hlt)
  · exact Or.inr (recordOffset_le hgt)

@[simp] lemma has_marker (layout : Layout) : layout.has .marker = true := by
  cases layout <;> rfl

@[simp] lemma has_error (layout : Layout) : layout.has .error = true := by
  cases layout <;> rfl

lemma has_lane (layout : Layout) (number : Nat) :
    layout.has (.lane number) = decide (number < layout.laneCount) := by
  cases layout <;> simp only [has, offset?] <;> split <;> simp [*]

end Layout

lemma mapM_eq_pure {α β : Type} {m : Type → Type} [Monad m] [LawfulMonad m] {f : α → m β}
    {g : α → β} {list : List α} (h : ∀ a ∈ list, f a = pure (g a)) :
    list.mapM f = pure (list.map g) := by
  induction list with
  | nil => rfl
  | cons a rest ih =>
    rw [List.mapM_cons, h a (by simp), ih fun b hb => h b (by simp [hb])]
    simp only [pure_bind, List.map_cons]

/-- What a record with these fields reports. -/
def Report.ofFields (engine : Engine) (layout : Layout) (fields : Field → UInt32) : Report where
  engine := engine
  completion := .ofMarker (fields .marker)
  errorBits := fields .error &&& layout.errorMask
  checksum := if layout.has .checksum then some (fields .checksum) else none
  workCount := if layout.has .workCount then some (fields .workCount) else none
  lanes := (List.range layout.laneCount).map fun number => fields (.lane number)

lemma Report.ofFields_congr {engine : Engine} {layout : Layout} {fields fields' : Field → UInt32}
    (h : ∀ field, layout.has field → fields field = fields' field) :
    ofFields engine layout fields = ofFields engine layout fields' := by
  have hlanes : (List.range layout.laneCount).map (fun number => fields (.lane number)) =
      (List.range layout.laneCount).map fun number => fields' (.lane number) := by
    apply List.map_congr_left
    intro number hn
    apply h
    rw [Layout.has_lane]
    simpa using hn
  unfold ofFields
  rw [hlanes, h .marker (by simp), h .error (by simp)]
  congr 1
  · split
    · next hc => rw [h _ hc]
    · rfl
  · split
    · next hw => rw [h _ hw]
    · rfl

/-- The fields of a record that is marked as skipped and otherwise zero. -/
def Field.primed (field : Field) : UInt32 := if field = .marker then skippedMarker else 0

namespace Bank

variable {bank : Bank} {capacity index index' : Nat} {field other : Field} {datum : UInt32}

/-- Does the region have room for `capacity` records, with words at their places? -/
structure Fits (bank : Bank) (capacity : Nat) : Prop where
  length : bank.mapping.region.length = bank.layout.regionSize capacity
  alignment : 4 ≤ bank.mapping.region.alignment

/-- The value of a field of the record at `index`; zero if the layout lacks it. -/
def value (bank : Bank) (index : Nat) (field : Field) : UInt32 :=
  match bank.fieldOffset? index field with
  | none => 0
  | some offset => UInt32.ofNat (bank.mapping.region.word 4 offset)

/-- The bank after a store to a field, unless the layout lacks it. -/
def withField (bank : Bank) (index : Nat) (field : Field) (datum : UInt32) : Bank :=
  match bank.fieldOffset? index field with
  | none => bank
  | some offset =>
    bank.withRegion (bank.mapping.region.put offset (Word.toBytes 4 datum.toNat))

/-- The bank with a record of zeros. -/
def cleared (bank : Bank) (index : Nat) : Bank :=
  bank.withRegion (bank.mapping.region.put (bank.layout.recordOffset index)
    (List.replicate bank.layout.recordSize 0))

/-- The bank with a record marked as skipped. -/
def primed (bank : Bank) (index : Nat) : Bank :=
  (bank.cleared index).withField index .marker skippedMarker

lemma fieldOffset?_eq_some {offset : Nat} (h : bank.fieldOffset? index field = some offset) :
    ∃ inner, bank.layout.offset? field = some inner ∧
      offset = bank.layout.recordOffset index + inner := by
  obtain ⟨inner, hinner, rfl⟩ := Option.map_eq_some_iff.mp h
  exact ⟨inner, hinner, rfl⟩

lemma fieldOffset?_isSome (bank : Bank) (index : Nat) (field : Field) :
    (bank.fieldOffset? index field).isSome = bank.layout.has field := by
  simp [fieldOffset?, Layout.has]

lemma Fits.word {offset : Nat} (h : bank.Fits capacity) (hi : index < capacity)
    (hoffset : bank.fieldOffset? index field = some offset) :
    offset + 4 ≤ bank.mapping.region.length ∧ offset % 4 = 0 := by
  obtain ⟨inner, hinner, rfl⟩ := fieldOffset?_eq_some hoffset
  have hbounds := Layout.offset?_bounds hinner
  have hrecord : bank.layout.recordOffset index + bank.layout.recordSize ≤
      bank.layout.regionSize capacity := Layout.recordOffset_le hi
  have haligned := bank.layout.recordOffset_mod index
  have hlength := h.length
  omega

lemma fieldOffset?_apart {offset offset' : Nat}
    (h : bank.fieldOffset? index field = some offset)
    (h' : bank.fieldOffset? index' other = some offset')
    (hne : ¬(index' = index ∧ other = field)) : Region.Apart offset 4 offset' 4 := by
  obtain ⟨inner, hinner, rfl⟩ := fieldOffset?_eq_some h
  obtain ⟨inner', hinner', rfl⟩ := fieldOffset?_eq_some h'
  have hbounds := Layout.offset?_bounds hinner
  have hbounds' := Layout.offset?_bounds hinner'
  unfold Region.Apart
  by_cases hindex : index' = index
  · subst hindex
    have hfield : other ≠ field := fun hf => hne ⟨rfl, hf⟩
    have hinnerApart := Layout.offset?_apart hinner hinner' hfield
    omega
  · have hrecords := bank.layout.recordOffset_apart (Ne.symm hindex)
    unfold Region.Apart at hrecords
    omega

theorem read_ok (h : bank.Fits capacity) (hi : index < capacity) :
    bank.read index field =
      .ok (if bank.layout.has field then some (bank.value index field) else none) := by
  have hhas := bank.fieldOffset?_isSome index field
  unfold read value
  cases hoffset : bank.fieldOffset? index field with
  | none =>
    rw [hoffset] at hhas
    rw [← hhas]
    rfl
  | some offset =>
    obtain ⟨hin, haligned⟩ := h.word hi hoffset
    rw [hoffset] at hhas
    rw [← hhas]
    simp only [Region.load32, Region.load_ok _ hin haligned h.alignment]
    rfl

theorem readD_ok (h : bank.Fits capacity) (hi : index < capacity) :
    bank.readD index field = .ok (bank.value index field) := by
  have hhas := bank.fieldOffset?_isSome index field
  unfold readD
  rw [read_ok h hi, ← hhas, value]
  cases bank.fieldOffset? index field <;> rfl

theorem report_ok (h : bank.Fits capacity) (hi : index < capacity) :
    bank.report index = .ok (.ofFields bank.engine bank.layout (bank.value index)) := by
  have hlanes : (List.range bank.layout.laneCount).mapM
      (fun number => bank.readD index (.lane number)) =
      Except.ok ((List.range bank.layout.laneCount).map fun number =>
        bank.value index (.lane number)) := mapM_eq_pure fun _ _ => readD_ok h hi
  unfold report
  rw [readD_ok h hi, readD_ok h hi, read_ok h hi, read_ok h hi, hlanes]
  rfl

theorem write_ok (h : bank.Fits capacity) (hi : index < capacity) :
    bank.write index field datum =
      .ok (if bank.layout.has field then some (bank.withField index field datum) else none) := by
  have hhas := bank.fieldOffset?_isSome index field
  unfold write withField
  cases hoffset : bank.fieldOffset? index field with
  | none =>
    rw [hoffset] at hhas
    rw [← hhas]
    rfl
  | some offset =>
    obtain ⟨hin, haligned⟩ := h.word hi hoffset
    rw [hoffset] at hhas
    rw [← hhas]
    simp only [Region.store32, Region.store_ok _ _ hin haligned h.alignment]
    rfl

theorem clear_ok (h : bank.Fits capacity) (hi : index < capacity) :
    bank.clear index = .ok (bank.cleared index) := by
  have hin : bank.layout.recordOffset index + bank.layout.recordSize ≤
      bank.mapping.region.length := by
    rw [h.length]
    exact Layout.recordOffset_le hi
  rw [clear, Region.fill_ok _ _ hin]
  rfl

@[simp] lemma engine_withField (bank : Bank) (index : Nat) (field : Field) (datum : UInt32) :
    (bank.withField index field datum).engine = bank.engine := by
  unfold withField
  split <;> rfl

@[simp] lemma layout_withField (bank : Bank) (index : Nat) (field : Field) (datum : UInt32) :
    (bank.withField index field datum).layout = bank.layout := by
  unfold withField
  split <;> rfl

@[simp] lemma engine_cleared (bank : Bank) (index : Nat) :
    (bank.cleared index).engine = bank.engine := rfl

@[simp] lemma layout_cleared (bank : Bank) (index : Nat) :
    (bank.cleared index).layout = bank.layout := rfl

@[simp] lemma engine_primed (bank : Bank) (index : Nat) :
    (bank.primed index).engine = bank.engine := engine_withField _ _ _ _

@[simp] lemma layout_primed (bank : Bank) (index : Nat) :
    (bank.primed index).layout = bank.layout := layout_withField _ _ _ _

lemma Fits.withField (h : bank.Fits capacity) (index : Nat) (field : Field) (datum : UInt32) :
    (bank.withField index field datum).Fits capacity := by
  unfold Bank.withField
  split
  · exact h
  · exact ⟨(Region.length_put _ _ _).trans h.length, h.alignment⟩

lemma Fits.cleared (h : bank.Fits capacity) (index : Nat) : (bank.cleared index).Fits capacity :=
  ⟨(Region.length_put _ _ _).trans h.length, h.alignment⟩

lemma Fits.primed (h : bank.Fits capacity) (index : Nat) : (bank.primed index).Fits capacity :=
  (h.cleared index).withField index .marker skippedMarker

theorem prime_ok (h : bank.Fits capacity) (hi : index < capacity) :
    bank.prime index = .ok (bank.primed index) := by
  have hwrite : (bank.cleared index).write index .marker skippedMarker =
      .ok (some (bank.primed index)) := by
    rw [write_ok (h.cleared index) hi, Layout.has_marker]
    rfl
  rw [prime, clear_ok h hi]
  simp only [bind, Except.bind, hwrite]
  rfl

theorem value_withField (h : bank.Fits capacity) (hi : index < capacity)
    (hhas : bank.layout.has field) (datum : UInt32) (index' : Nat) (other : Field) :
    (bank.withField index field datum).value index' other =
      if index' = index ∧ other = field then datum else bank.value index' other := by
  have hsome : (bank.fieldOffset? index field).isSome := by rwa [fieldOffset?_isSome]
  obtain ⟨offset, hoffset⟩ := Option.isSome_iff_exists.mp hsome
  obtain ⟨hin, haligned⟩ := h.word hi hoffset
  have hregion : bank.withField index field datum =
      bank.withRegion (bank.mapping.region.put offset (Word.toBytes 4 datum.toNat)) := by
    rw [withField, hoffset]
  have hplace : (bank.withField index field datum).fieldOffset? index' other =
      bank.fieldOffset? index' other := by
    rw [fieldOffset?, layout_withField, fieldOffset?]
  by_cases hsame : index' = index ∧ other = field
  · obtain ⟨rfl, rfl⟩ := hsame
    have hword := bank.mapping.region.word_put_self 4 offset datum.toNat hin
    have hrange : datum.toNat % Word.range 4 = datum.toNat := Nat.mod_eq_of_lt datum.toNat_lt
    rw [hrange] at hword
    rw [if_pos ⟨rfl, rfl⟩, Bank.value, hplace, hoffset, hregion]
    simp only [withRegion, hword, UInt32.ofNat_toNat]
  · rw [if_neg hsame, Bank.value, hplace, Bank.value]
    cases hoffset' : bank.fieldOffset? index' other with
    | none => rfl
    | some offset' =>
      have hapart := fieldOffset?_apart hoffset hoffset' hsame
      have hword := bank.mapping.region.word_put_apart offset 4 offset'
        (Word.toBytes 4 datum.toNat) (by simpa using hapart)
      simp only [hregion, withRegion, hword]

theorem value_cleared (h : bank.Fits capacity) (hi : index < capacity) (index' : Nat)
    (other : Field) :
    (bank.cleared index).value index' other =
      if index' = index then 0 else bank.value index' other := by
  have hplace : (bank.cleared index).fieldOffset? index' other =
      bank.fieldOffset? index' other := rfl
  rw [value, hplace, value]
  cases hoffset : bank.fieldOffset? index' other with
  | none => simp
  | some offset =>
    obtain ⟨inner, hinner, rfl⟩ := fieldOffset?_eq_some hoffset
    have hbounds := Layout.offset?_bounds hinner
    by_cases hsame : index' = index
    · subst hsame
      have hin : bank.layout.recordOffset index' + bank.layout.recordSize ≤
          bank.mapping.region.length := by
        rw [h.length]
        exact Layout.recordOffset_le hi
      have hword := bank.mapping.region.word_put_zeros (bank.layout.recordOffset index')
        bank.layout.recordSize (bank.layout.recordOffset index' + inner) 4
        (Nat.le_add_right _ _) (by omega) hin
      rw [if_pos rfl]
      simp only [cleared, withRegion, hword]
      rfl
    · have hrecords := bank.layout.recordOffset_apart (Ne.symm hsame)
      have hapart : Region.Apart (bank.layout.recordOffset index)
          (List.replicate bank.layout.recordSize (0 : UInt8)).length
          (bank.layout.recordOffset index' + inner) 4 := by
        unfold Region.Apart at hrecords ⊢
        rw [List.length_replicate]
        omega
      have hword := bank.mapping.region.word_put_apart _ 4 _ _ hapart
      rw [if_neg hsame]
      simp only [cleared, withRegion, hword]

theorem value_primed (h : bank.Fits capacity) (hi : index < capacity) (index' : Nat)
    (other : Field) :
    (bank.primed index).value index' other =
      if index' = index then other.primed else bank.value index' other := by
  rw [primed, value_withField (h.cleared index) hi (by simp), value_cleared h hi, Field.primed]
  by_cases hindex : index' = index <;> by_cases hmarker : other = .marker <;>
    simp [hindex, hmarker]

end Bank

end CompletionRing
