import CompletionRing.Proofs.Record.Fields

/-!
# Record stores by engine, index and field

A store whose regions have room for `capacity` indices is read as a fence number for each index
and a value for each engine, index and field. Every access succeeds, and each operation is told by
what it does to these numbers.
-/

namespace CompletionRing.RecordStore

variable {store : RecordStore} {capacity index sequence : Nat} {engine : Engine} {field : Field}
  {datum : UInt32}

/-- Do the regions have room for `capacity` indices, and is there one bank for each engine? -/
structure Fits (store : RecordStore) (capacity : Nat) : Prop where
  fence : store.fence.region.length = capacity * fenceWidth
  alignment : fenceWidth ≤ store.fence.region.alignment
  banks : ∀ bank ∈ store.banks, bank.Fits capacity
  nodup : store.engines.Nodup

/-- The number in the fence word at `index`. -/
def fenceNumber (store : RecordStore) (index : Nat) : Nat :=
  store.fence.region.word fenceWidth (fenceOffset index)

/-- The value of a field of an engine's record at `index`; zero if there is no such field. -/
def value (store : RecordStore) (engine : Engine) (index : Nat) (field : Field) : UInt32 :=
  match store.bank? engine with
  | none => 0
  | some bank => bank.value index field

/-- The engines and the layouts of their records, in order. -/
def layouts (store : RecordStore) : List (Engine × Layout) :=
  store.banks.map fun bank => (bank.engine, bank.layout)

/-- Is there such a field in the records of the engine? -/
def knows (store : RecordStore) (engine : Engine) (field : Field) : Bool :=
  (store.bank? engine).any (·.layout.has field)

def mapBanks (store : RecordStore) (f : Bank → Bank) : RecordStore :=
  { store with banks := store.banks.map f }

/-- The store with records of zeros at `index`. -/
def cleared (store : RecordStore) (index : Nat) : RecordStore := store.mapBanks (·.cleared index)

/-- The store with the records at `index` marked as skipped. -/
def primed (store : RecordStore) (index : Nat) : RecordStore := store.mapBanks (·.primed index)

/-- The store after a store to a field of an engine's record. -/
def withField (store : RecordStore) (engine : Engine) (index : Nat) (field : Field)
    (datum : UInt32) : RecordStore :=
  store.mapBanks fun bank =>
    if bank.engine = engine then bank.withField index field datum else bank

/-- The store with a number in the fence word at `index`. -/
def withFence (store : RecordStore) (index number : Nat) : RecordStore :=
  { store with fence := { store.fence with
      region := store.fence.region.put (fenceOffset index) (Word.toBytes fenceWidth number) } }

/-! ### Banks by engine -/

lemma bank?_eq_some_mem {bank : Bank} (h : store.bank? engine = some bank) :
    bank ∈ store.banks ∧ bank.engine = engine :=
  ⟨List.mem_of_find?_eq_some h, by simpa using List.find?_some h⟩

lemma Fits.bank? {bank : Bank} (h : store.Fits capacity) (hmem : bank ∈ store.banks) :
    store.bank? bank.engine = some bank := by
  have hnodup := h.nodup
  unfold engines at hnodup
  unfold RecordStore.bank?
  generalize store.banks = banks at hmem hnodup
  induction banks with
  | nil => simp at hmem
  | cons first rest ih =>
    rw [List.map_cons, List.nodup_cons] at hnodup
    rcases List.mem_cons.mp hmem with rfl | hrest
    · simp
    · have hne : first.engine ≠ bank.engine := by
        intro he
        exact hnodup.1 (he ▸ List.mem_map_of_mem hrest)
      rw [List.find?_cons_of_neg (by simpa using hne)]
      exact ih hrest hnodup.2

lemma bank?_isSome (store : RecordStore) (engine : Engine) :
    (store.bank? engine).isSome = decide (engine ∈ store.engines) := by
  rw [Bool.eq_iff_iff]
  simp only [bank?, engines, List.find?_isSome, decide_eq_true_eq, List.mem_map]

lemma bank?_of_not_mem (hout : engine ∉ store.engines) : store.bank? engine = none := by
  rw [← Option.isNone_iff_eq_none, ← Option.not_isSome, bank?_isSome, decide_eq_false hout]
  rfl

lemma value_of_not_mem (hout : engine ∉ store.engines) (index : Nat) (field : Field) :
    store.value engine index field = 0 := by
  rw [value, bank?_of_not_mem hout]

lemma knows_of_not_mem (hout : engine ∉ store.engines) (field : Field) :
    store.knows engine field = false := by
  rw [knows, bank?_of_not_mem hout, Option.any_none]

lemma engines_eq_layouts (store : RecordStore) : store.engines = store.layouts.map (·.1) := by
  simp [engines, layouts]

lemma engines_congr {store store' : RecordStore} (h : store'.layouts = store.layouts) :
    store'.engines = store.engines := by
  rw [engines_eq_layouts, h, ← engines_eq_layouts]

lemma bank?_mapBanks {f : Bank → Bank} (hengine : ∀ bank, (f bank).engine = bank.engine)
    (store : RecordStore) (engine : Engine) :
    (store.mapBanks f).bank? engine = (store.bank? engine).map f := by
  have hsame : ((fun bank : Bank => decide (bank.engine = engine)) ∘ f) =
      fun bank => decide (bank.engine = engine) := by
    funext bank
    simp [hengine]
  rw [bank?, mapBanks, List.find?_map, hsame, bank?]

lemma layouts_mapBanks {f : Bank → Bank} (hengine : ∀ bank, (f bank).engine = bank.engine)
    (hlayout : ∀ bank, (f bank).layout = bank.layout) (store : RecordStore) :
    (store.mapBanks f).layouts = store.layouts := by
  unfold layouts mapBanks
  rw [List.map_map]
  apply List.map_congr_left
  intro bank _
  simp [hengine, hlayout]

lemma Fits.mapBanks (h : store.Fits capacity) {f : Bank → Bank}
    (hengine : ∀ bank, (f bank).engine = bank.engine)
    (hfits : ∀ bank, bank.Fits capacity → (f bank).Fits capacity) :
    (store.mapBanks f).Fits capacity where
  fence := h.fence
  alignment := h.alignment
  banks := by
    intro bank hmem
    obtain ⟨bank', hmem', rfl⟩ := List.mem_map.mp hmem
    exact hfits bank' (h.banks bank' hmem')
  nodup := by
    have hsame : (store.mapBanks f).engines = store.engines := by
      unfold engines RecordStore.mapBanks
      rw [List.map_map]
      exact List.map_congr_left fun bank _ => hengine bank
    rw [hsame]
    exact h.nodup

@[simp] lemma fenceNumber_mapBanks (store : RecordStore) (f : Bank → Bank) (index : Nat) :
    (store.mapBanks f).fenceNumber index = store.fenceNumber index := rfl

@[simp] lemma layouts_cleared (store : RecordStore) (index : Nat) :
    (store.cleared index).layouts = store.layouts :=
  layouts_mapBanks (fun bank => bank.engine_cleared index) (fun bank => bank.layout_cleared index)
    store

@[simp] lemma layouts_primed (store : RecordStore) (index : Nat) :
    (store.primed index).layouts = store.layouts :=
  layouts_mapBanks (fun bank => bank.engine_primed index) (fun bank => bank.layout_primed index)
    store

@[simp] lemma layouts_withField (store : RecordStore) (engine : Engine) (index : Nat)
    (field : Field) (datum : UInt32) :
    (store.withField engine index field datum).layouts = store.layouts := by
  apply layouts_mapBanks
  · intro bank
    split <;> simp
  · intro bank
    split <;> simp

@[simp] lemma layouts_withFence (store : RecordStore) (index number : Nat) :
    (store.withFence index number).layouts = store.layouts := by
  unfold layouts withFence
  rfl

@[simp] lemma fenceNumber_cleared (store : RecordStore) (index index' : Nat) :
    (store.cleared index).fenceNumber index' = store.fenceNumber index' :=
  fenceNumber_mapBanks store _ index'

@[simp] lemma fenceNumber_primed (store : RecordStore) (index index' : Nat) :
    (store.primed index).fenceNumber index' = store.fenceNumber index' :=
  fenceNumber_mapBanks store _ index'

@[simp] lemma fenceNumber_withField (store : RecordStore) (engine : Engine) (index : Nat)
    (field : Field) (datum : UInt32) (index' : Nat) :
    (store.withField engine index field datum).fenceNumber index' = store.fenceNumber index' :=
  fenceNumber_mapBanks store _ index'

@[simp] lemma value_withFence (store : RecordStore) (index number : Nat) (engine : Engine)
    (index' : Nat) (field : Field) :
    (store.withFence index number).value engine index' field =
      store.value engine index' field := by
  unfold value bank? withFence
  rfl

lemma Fits.cleared (h : store.Fits capacity) (index : Nat) : (store.cleared index).Fits capacity :=
  h.mapBanks (fun bank => bank.engine_cleared index) fun _ hbank => hbank.cleared index

lemma Fits.primed (h : store.Fits capacity) (index : Nat) : (store.primed index).Fits capacity :=
  h.mapBanks (fun bank => bank.engine_primed index) fun _ hbank => hbank.primed index

lemma Fits.withField (h : store.Fits capacity) (engine : Engine) (index : Nat) (field : Field)
    (datum : UInt32) : (store.withField engine index field datum).Fits capacity := by
  apply h.mapBanks
  · intro bank
    split <;> simp
  · intro bank hbank
    split
    · exact hbank.withField index field datum
    · exact hbank

lemma Fits.withFence (h : store.Fits capacity) (index number : Nat) :
    (store.withFence index number).Fits capacity := by
  unfold RecordStore.withFence
  constructor
  · rw [Region.length_put]
    exact h.fence
  · rw [Region.alignment_put]
    exact h.alignment
  · exact h.banks
  · unfold engines
    exact h.nodup

/-! ### Fence words -/

lemma Fits.fenceOffset (h : store.Fits capacity) (hi : index < capacity) :
    fenceOffset index + fenceWidth ≤ store.fence.region.length ∧
      fenceOffset index % fenceWidth = 0 := by
  have hstep : (index + 1) * fenceWidth ≤ capacity * fenceWidth := Nat.mul_le_mul_right _ hi
  rw [Nat.succ_mul] at hstep
  have hlength := h.fence
  unfold RecordStore.fenceOffset
  exact ⟨by omega, Nat.mul_mod_left index fenceWidth⟩

lemma fenceSize_lt (h : capacity < UInt32.size) :
    capacity * fenceWidth < Region.systemBound := by
  calc capacity * fenceWidth
    _ < UInt32.size * fenceWidth := Nat.mul_lt_mul_of_pos_right h (by decide)
    _ ≤ Region.systemBound := by decide

lemma fenceOffset_apart {index index' : Nat} (h : index' ≠ index) :
    Region.Apart (fenceOffset index) fenceWidth (fenceOffset index') fenceWidth := by
  unfold Region.Apart fenceOffset fenceWidth
  omega

theorem fenceWord_ok (h : store.Fits capacity) (hi : index < capacity) :
    store.fenceWord index = .ok (UInt64.ofNat (store.fenceNumber index)) := by
  obtain ⟨hin, haligned⟩ := h.fenceOffset hi
  have hload := Region.load_ok _ hin haligned h.alignment
  unfold fenceWord Region.load64
  rw [show (8 : Nat) = fenceWidth from rfl, hload]
  rfl

lemma fenceWord_toNat (store : RecordStore) (index : Nat) :
    (UInt64.ofNat (store.fenceNumber index)).toNat = store.fenceNumber index := by
  have hlt : store.fenceNumber index < Word.range fenceWidth := Region.word_lt _ _ _
  exact UInt64.toNat_ofNat_of_lt hlt

/-- A unit is retired unless its number plus one is too large for a word. -/
theorem retire_ok (h : store.Fits capacity) (hi : index < capacity)
    (hsequence : sequence + 1 < UInt64.size) :
    store.retire index sequence = .ok (store.withFence index (sequence + 1)) := by
  obtain ⟨hin, haligned⟩ := h.fenceOffset hi
  have hstore := Region.store_ok store.fence.region (sequence + 1) hin haligned h.alignment
  have hword : (UInt64.ofNat (sequence + 1)).toNat = sequence + 1 :=
    UInt64.toNat_ofNat_of_lt hsequence
  unfold retire addCounts Region.store64
  rw [if_pos hsequence]
  simp only [bind, Except.bind, hword]
  rw [show (8 : Nat) = fenceWidth from rfl, hstore]
  rfl

theorem retire_overflow (hsequence : ¬sequence + 1 < UInt64.size) :
    store.retire index sequence = .error .overflow := by
  unfold retire addCounts
  rw [if_neg hsequence]
  rfl

lemma fenceNumber_withFence_of_ne (store : RecordStore) (number : Nat) {index index' : Nat}
    (h : index' ≠ index) :
    (store.withFence index number).fenceNumber index' = store.fenceNumber index' := by
  apply Region.word_put_apart
  rw [Word.length_toBytes]
  exact fenceOffset_apart h

theorem fenceNumber_withFence (h : store.Fits capacity) (hi : index < capacity)
    {number : Nat} (hnumber : number < UInt64.size) (index' : Nat) :
    (store.withFence index number).fenceNumber index' =
      if index' = index then number else store.fenceNumber index' := by
  by_cases hsame : index' = index
  · subst hsame
    rw [if_pos rfl]
    have hword := store.fence.region.word_put_self fenceWidth (fenceOffset index') number
      (h.fenceOffset hi).1
    exact hword.trans (Nat.mod_eq_of_lt hnumber)
  · rw [if_neg hsame, fenceNumber_withFence_of_ne store number hsame]

/-! ### Values -/

lemma value_of_mem {bank : Bank} (h : store.Fits capacity) (hmem : bank ∈ store.banks) :
    store.value bank.engine = bank.value := by
  funext index field
  rw [value, h.bank? hmem]

theorem reports_ok (h : store.Fits capacity) (hi : index < capacity) :
    store.reports index = .ok (store.layouts.map fun (engine, layout) =>
      .ofFields engine layout (store.value engine index)) := by
  have hreports : store.reports index = .ok (store.banks.map fun bank =>
      .ofFields bank.engine bank.layout (bank.value index)) :=
    mapM_eq_pure fun bank hmem => Bank.report_ok (h.banks bank hmem) hi
  rw [hreports, layouts, List.map_map]
  congr 1
  apply List.map_congr_left
  intro bank hmem
  simp only [Function.comp_apply, value_of_mem h hmem]

theorem clear_ok (h : store.Fits capacity) (hi : index < capacity) :
    store.clear index = .ok (store.cleared index) := by
  have hbanks : store.banks.mapM (·.clear index) = .ok (store.banks.map (·.cleared index)) :=
    mapM_eq_pure fun bank hmem => Bank.clear_ok (h.banks bank hmem) hi
  rw [clear, hbanks]
  rfl

theorem prime_ok (h : store.Fits capacity) (hi : index < capacity) :
    store.prime index = .ok (store.primed index) := by
  have hbanks : store.banks.mapM (·.prime index) = .ok (store.banks.map (·.primed index)) :=
    mapM_eq_pure fun bank hmem => Bank.prime_ok (h.banks bank hmem) hi
  rw [prime, hbanks]
  rfl

theorem value_cleared (h : store.Fits capacity) (hi : index < capacity) (engine : Engine)
    (index' : Nat) (field : Field) :
    (store.cleared index).value engine index' field =
      if index' = index then 0 else store.value engine index' field := by
  unfold value cleared
  rw [bank?_mapBanks fun bank => bank.engine_cleared index]
  cases hbank : store.bank? engine with
  | none => simp
  | some bank =>
    have hfits := h.banks bank (bank?_eq_some_mem hbank).1
    simp only [Option.map_some, Bank.value_cleared hfits hi]

theorem value_primed (h : store.Fits capacity) (hi : index < capacity) (engine : Engine)
    (index' : Nat) (field : Field) :
    (store.primed index).value engine index' field =
      if index' = index ∧ engine ∈ store.engines then field.primed
      else store.value engine index' field := by
  have hsome := store.bank?_isSome engine
  unfold value primed
  rw [bank?_mapBanks fun bank => bank.engine_primed index]
  cases hbank : store.bank? engine with
  | none =>
    rw [hbank] at hsome
    have hout : engine ∉ store.engines := by simpa using hsome.symm
    simp [hout]
  | some bank =>
    rw [hbank] at hsome
    have hmem : engine ∈ store.engines := by simpa using hsome.symm
    have hfits := h.banks bank (bank?_eq_some_mem hbank).1
    simp only [Option.map_some, Bank.value_primed hfits hi, hmem, and_true]

lemma map_eq_self {α : Type} {f : α → α} {list : List α} (h : ∀ a ∈ list, f a = a) :
    list.map f = list := by
  have hid : list.map f = list.map id := List.map_congr_left h
  rw [hid, List.map_id]

lemma writeBanks_ok (engine : Engine) (field : Field) (datum : UInt32) {banks : List Bank}
    (hfits : ∀ bank ∈ banks, bank.Fits capacity)
    (hnodup : (banks.map (·.engine)).Nodup) (hi : index < capacity) :
    writeBanks engine index field datum banks =
      .ok (if (banks.find? (·.engine = engine)).any (·.layout.has field) then
        some (banks.map fun bank =>
          if bank.engine = engine then bank.withField index field datum else bank)
      else none) := by
  induction banks with
  | nil => rfl
  | cons first rest ih =>
    rw [List.map_cons, List.nodup_cons] at hnodup
    unfold writeBanks
    by_cases hengine : first.engine = engine
    · have hrest : rest.map (fun bank =>
          if bank.engine = engine then bank.withField index field datum else bank) = rest := by
        apply map_eq_self
        intro bank hmem
        have hne : bank.engine ≠ engine := by
          intro he
          exact hnodup.1 (hengine.trans he.symm ▸ List.mem_map_of_mem hmem)
        rw [if_neg hne]
      rw [if_pos hengine, Bank.write_ok (hfits first (by simp)) hi,
        List.find?_cons_of_pos (by simpa using hengine), List.map_cons, hrest, if_pos hengine]
      by_cases hhas : first.layout.has field
      · simp only [hhas, if_true, Option.any_some]
        rfl
      · simp only [hhas, Option.any_some]
        rfl
    · rw [if_neg hengine, List.find?_cons_of_neg (by simpa using hengine),
        ih (fun bank hmem => hfits bank (by simp [hmem])) hnodup.2, List.map_cons,
        if_neg hengine]
      by_cases hany : (rest.find? (·.engine = engine)).any (·.layout.has field)
      · rw [if_pos hany, if_pos hany]
        rfl
      · rw [if_neg hany, if_neg hany]
        rfl

lemma withField_of_not_knows (h : store.Fits capacity) (hknows : store.knows engine field = false) :
    store.withField engine index field datum = store := by
  have hbanks : store.banks.map (fun bank =>
      if bank.engine = engine then bank.withField index field datum else bank) = store.banks := by
    apply map_eq_self
    intro bank hmem
    split
    · next hengine =>
      have hhas : bank.layout.has field = false := by
        rw [knows, ← hengine, h.bank? hmem] at hknows
        exact hknows
      have hnone : bank.fieldOffset? index field = none := by
        rw [← bank.fieldOffset?_isSome index field] at hhas
        simpa using hhas
      rw [Bank.withField, hnone]
    · rfl
  unfold withField mapBanks
  rw [hbanks]

theorem write_ok (h : store.Fits capacity) (hi : index < capacity) :
    store.write engine index field datum =
      .ok (store.knows engine field, store.withField engine index field datum) := by
  have hbanks := writeBanks_ok engine field datum h.banks h.nodup hi
  unfold write
  rw [hbanks]
  by_cases hknows : store.knows engine field
  · have hany : (store.banks.find? (·.engine = engine)).any (·.layout.has field) := hknows
    rw [if_pos hany, hknows]
    rfl
  · have hany : ¬(store.banks.find? (·.engine = engine)).any (·.layout.has field) := hknows
    have hfalse : store.knows engine field = false := by simpa using hknows
    rw [if_neg hany, withField_of_not_knows h hfalse, hfalse]
    rfl

theorem value_withField (h : store.Fits capacity) (hi : index < capacity)
    (engine' : Engine) (index' : Nat) (other : Field) :
    (store.withField engine index field datum).value engine' index' other =
      if engine' = engine ∧ index' = index ∧ other = field ∧ store.knows engine field then datum
      else store.value engine' index' other := by
  by_cases hknows : store.knows engine field
  · have hengines : ∀ bank : Bank, (if bank.engine = engine then
        bank.withField index field datum else bank).engine = bank.engine := by
      intro bank
      split <;> simp
    unfold value withField
    rw [bank?_mapBanks hengines]
    cases hbank : store.bank? engine' with
    | none =>
      have hne : engine' ≠ engine := by
        rintro rfl
        rw [knows, hbank] at hknows
        exact absurd hknows (by simp)
      simp [hne]
    | some bank =>
      obtain ⟨hmem, hengine'⟩ := bank?_eq_some_mem hbank
      by_cases hengine : engine' = engine
      · have hhas : bank.layout.has field := by
          rw [knows, ← hengine, hbank] at hknows
          exact hknows
        have hvalue := Bank.value_withField (h.banks bank hmem) hi hhas datum index' other
        simp only [Option.map_some, hengine', hengine, hknows, if_true, hvalue, and_true,
          true_and]
      · simp [hengine', hengine]
  · have hfalse : store.knows engine field = false := by simpa using hknows
    rw [withField_of_not_knows h hfalse]
    simp [hfalse]

lemma knows_eq_layouts (h : store.Fits capacity) :
    store.knows engine field =
      store.layouts.any fun entry => entry.1 = engine && entry.2.has field := by
  rw [Bool.eq_iff_iff]
  simp only [knows, layouts, Option.any_eq_true, List.any_eq_true, List.mem_map,
    Bool.and_eq_true, decide_eq_true_eq]
  constructor
  · rintro ⟨bank, hbank, hhas⟩
    obtain ⟨hmem, hengine⟩ := bank?_eq_some_mem hbank
    exact ⟨(bank.engine, bank.layout), ⟨bank, hmem, rfl⟩, hengine, hhas⟩
  · rintro ⟨entry, ⟨bank, hmem, rfl⟩, hengine, hhas⟩
    exact ⟨bank, hengine ▸ h.bank? hmem, hhas⟩

end CompletionRing.RecordStore
