import CompletionRing.Proofs.Record.Stores

/-!
# Changes at one index

Whatever is put into the records at one index leaves those at other indices as they are, and so
does a number in the fence word. Changes at different indices can be made in either order, with
the same bytes in the end.
-/

namespace CompletionRing

namespace Bank

/-- Does the function put bytes into the record at `index`, and nothing else? Where in the record,
and which bytes, depends on the engine and on the layout only. -/
def PutsAt (f : Bank → Bank) (index : Nat) : Prop :=
  ∃ piece : Engine → Layout → Nat × List UInt8,
    (∀ engine layout,
      (piece engine layout).1 + (piece engine layout).2.length ≤ layout.recordSize) ∧
    ∀ bank, f bank = bank.withRegion (bank.mapping.region.put
      (bank.layout.recordOffset index + (piece bank.engine bank.layout).1)
      (piece bank.engine bank.layout).2)

lemma putsAt_cleared (index : Nat) : PutsAt (·.cleared index) index := by
  refine ⟨fun _ layout => (0, List.replicate layout.recordSize 0), ?_, fun _ => rfl⟩
  intro engine layout
  simp

lemma putsAt_withField (engine : Engine) (index : Nat) (field : Field) (datum : UInt32) :
    PutsAt (fun bank => if bank.engine = engine then bank.withField index field datum else bank)
      index := by
  refine ⟨fun other layout => (layout.offset? field).elim (0, []) fun inner =>
    if other = engine then (inner, Word.toBytes 4 datum.toNat) else (0, []), ?_, ?_⟩
  · intro other layout
    dsimp only
    cases hoffset : layout.offset? field with
    | none => simp
    | some inner =>
      have hbounds := Layout.offset?_bounds hoffset
      by_cases hengine : other = engine
      · simpa [hengine] using hbounds.1
      · simp [hengine]
  · intro bank
    dsimp only
    cases hoffset : bank.layout.offset? field with
    | none =>
      simp only [withField, fieldOffset?, hoffset, Option.map_none, ite_self]
      rfl
    | some inner =>
      by_cases hengine : bank.engine = engine
      · simp only [withField, fieldOffset?, hoffset, hengine, Option.map_some, Option.elim_some,
          if_true]
      · simp only [hengine, if_false]
        rfl

namespace PutsAt

variable {f g : Bank → Bank} {index other : Nat}

lemma engine (h : PutsAt f index) (bank : Bank) : (f bank).engine = bank.engine := by
  obtain ⟨piece, -, hf⟩ := h
  rw [hf]
  rfl

lemma layout (h : PutsAt f index) (bank : Bank) : (f bank).layout = bank.layout := by
  obtain ⟨piece, -, hf⟩ := h
  rw [hf]
  rfl

lemma comm (hf : PutsAt f index) (hg : PutsAt g other) (hne : index ≠ other) (bank : Bank) :
    f (g bank) = g (f bank) := by
  have hlayout := hg.layout bank
  have hlayout' := hf.layout bank
  have hengine := hg.engine bank
  have hengine' := hf.engine bank
  obtain ⟨piece, hroom, hf⟩ := hf
  obtain ⟨piece', hroom', hg⟩ := hg
  have hrecords := bank.layout.recordOffset_apart hne
  have hapart : Region.Apart
      (bank.layout.recordOffset other + (piece' bank.engine bank.layout).1)
      (piece' bank.engine bank.layout).2.length
      (bank.layout.recordOffset index + (piece bank.engine bank.layout).1)
      (piece bank.engine bank.layout).2.length := by
    have hin := hroom bank.engine bank.layout
    have hin' := hroom' bank.engine bank.layout
    unfold Region.Apart at hrecords ⊢
    omega
  rw [hf (g bank), hg (f bank), hlayout, hlayout', hengine, hengine', hf bank, hg bank]
  exact congrArg bank.withRegion (bank.mapping.region.put_comm _ _ _ _ hapart)

lemma value_of_ne (h : PutsAt f index) (hne : other ≠ index) (bank : Bank) (field : Field) :
    (f bank).value other field = bank.value other field := by
  have hplace : (f bank).fieldOffset? other field = bank.fieldOffset? other field := by
    rw [fieldOffset?, h.layout, fieldOffset?]
  obtain ⟨piece, hroom, hf⟩ := h
  rw [value, hplace, value]
  cases hoffset : bank.fieldOffset? other field with
  | none => rfl
  | some offset =>
    obtain ⟨inner, hinner, rfl⟩ := fieldOffset?_eq_some hoffset
    have hbounds := Layout.offset?_bounds hinner
    have hrecords := bank.layout.recordOffset_apart hne
    have hapart : Region.Apart
        (bank.layout.recordOffset index + (piece bank.engine bank.layout).1)
        (piece bank.engine bank.layout).2.length (bank.layout.recordOffset other + inner) 4 := by
      have hin := hroom bank.engine bank.layout
      unfold Region.Apart at hrecords ⊢
      omega
    have hword := bank.mapping.region.word_put_apart _ 4 _ _ hapart
    simp only [hf, withRegion, hword]

end PutsAt

end Bank

namespace RecordStore

variable {store : RecordStore} {f g : Bank → Bank} {index other : Nat}

lemma mapBanks_comm (hf : Bank.PutsAt f index) (hg : Bank.PutsAt g other) (hne : index ≠ other)
    (store : RecordStore) :
    (store.mapBanks f).mapBanks g = (store.mapBanks g).mapBanks f := by
  have hsame : g ∘ f = f ∘ g := by
    funext bank
    exact (hf.comm hg hne bank).symm
  simp only [mapBanks, List.map_map, hsame]

lemma withFence_comm (store : RecordStore) (number number' : Nat) (hne : index ≠ other) :
    (store.withFence index number).withFence other number' =
      (store.withFence other number').withFence index number := by
  have hapart : Region.Apart (fenceOffset index) (Word.toBytes fenceWidth number).length
      (fenceOffset other) (Word.toBytes fenceWidth number').length := by
    rw [Word.length_toBytes, Word.length_toBytes]
    exact fenceOffset_apart hne.symm
  have hput := store.fence.region.put_comm _ _ _ _ hapart
  simp only [withFence, hput]

lemma withFence_mapBanks (store : RecordStore) (f : Bank → Bank) (number : Nat) :
    (store.mapBanks f).withFence index number = (store.withFence index number).mapBanks f := by
  simp only [withFence, mapBanks]

lemma value_mapBanks_of_ne (hf : Bank.PutsAt f index) (hne : other ≠ index) (store : RecordStore)
    (engine : Engine) (field : Field) :
    (store.mapBanks f).value engine other field = store.value engine other field := by
  unfold value
  rw [bank?_mapBanks hf.engine]
  cases store.bank? engine with
  | none => rfl
  | some bank => exact hf.value_of_ne hne bank field

lemma knows_withFence (store : RecordStore) (number : Nat) (engine : Engine) (field : Field) :
    (store.withFence index number).knows engine field = store.knows engine field := by
  unfold knows bank? withFence
  rfl

lemma knows_mapBanks (hf : Bank.PutsAt f index) (store : RecordStore) (engine : Engine)
    (field : Field) : (store.mapBanks f).knows engine field = store.knows engine field := by
  unfold knows
  rw [bank?_mapBanks hf.engine, Option.any_map]
  simp only [hf.layout]

end RecordStore

end CompletionRing
