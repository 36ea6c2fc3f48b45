import CompletionRing.Proofs.Observer.FanOut
import CompletionRing.Proofs.Ring.Window
import CompletionRing.Proofs.Setup.Flaws

/-!
# New rings

A ring that was created has zeroed regions with room for all indices, and a bank for each engine
that its setup enables.
-/

namespace CompletionRing

namespace RingSetup

variable {setup : RingSetup}

/-- The enabled engines with the layouts of their records, in order. -/
def layouts (setup : RingSetup) : List (Engine × Layout) :=
  setup.enabled.map fun entry => (entry.engine, entry.layout)

lemma map_enabled (setup : RingSetup) :
    setup.enabled.map (fun entry => { entry with enabled := true }) = setup.enabled := by
  apply RecordStore.map_eq_self
  intro entry hmem
  obtain ⟨-, henabled⟩ := List.mem_filter.mp hmem
  rw [← henabled]

lemma of_flaw?_eq_none (h : setup.flaw? = none) :
    0 < setup.capacity.toNat ∧ setup.layouts ≠ [] ∧ (setup.layouts.map (·.1)).Nodup := by
  have hsound := flaw?_eq_none_iff.mp h
  refine ⟨?_, ?_, ?_⟩
  · rw [Nat.pos_iff_ne_zero]
    intro hzero
    exact hsound.capacity (UInt32.toNat_inj.mp hzero)
  · obtain ⟨entry, hmem, henabled⟩ := hsound.enabled
    intro hnil
    have hnone : setup.enabled = [] := List.map_eq_nil_iff.mp hnil
    exact List.filter_eq_nil_iff.mp hnone entry hmem henabled
  · have hsub : (setup.enabled.map (·.engine)).Sublist (setup.engines.map (·.engine)) :=
      List.filter_sublist.map _
    have henabled := hsound.engines.sublist hsub
    unfold layouts
    rw [List.map_map]
    exact henabled

end RingSetup

lemma Pool.region_of_allocate {pool pool' : Pool} {request : Request} {mapping : Mapping}
    (h : (pool.allocate request).result = .ok (.ok mapping, pool')) :
    mapping.region = .zeroed request.size request.alignment := by
  unfold allocate at h
  cases hrefusal : pool.refusal? request with
  | some refusal =>
    rw [hrefusal] at h
    cases h
  | none =>
    rw [hrefusal] at h
    cases h
    rfl

/-- What a bank was made for. -/
def Bank.setup (bank : Bank) : EngineSetup := ⟨bank.engine, bank.name, bank.layout, true⟩

/-- What the banks of a store were made for, in order. -/
def RecordStore.setups (store : RecordStore) : List EngineSetup := store.banks.map Bank.setup

lemma RecordStore.layouts_eq_setups (store : RecordStore) :
    store.layouts = store.setups.map fun setup => (setup.engine, setup.layout) := by
  rw [setups, List.map_map]
  rfl

lemma Bank.exists_of_allocateAll {name : String} {capacity : Nat} {banks banks' : List Bank}
    {pool pool' : Pool} {setups : List EngineSetup}
    (h : (allocateAll name capacity banks pool setups).result = .ok (.ok banks', pool')) :
    ∃ made, banks' = banks ++ made ∧
      made.map Bank.setup = setups.map (fun setup => { setup with enabled := true }) ∧
      ∀ bank ∈ made, bank.mapping.region =
        .zeroed (bank.layout.regionSize capacity) pageAlignment := by
  induction setups generalizing banks pool with
  | nil =>
    unfold allocateAll at h
    cases h
    exact ⟨[], by simp, rfl, by simp⟩
  | cons setup rest ih =>
    unfold allocateAll at h
    obtain ⟨⟨answer, pool₁⟩, hallocate, hrest⟩ := Traced.result_bind_eq_ok h
    cases answer with
    | error refusal =>
      obtain ⟨pool₂, -, hlast⟩ := Traced.result_bind_eq_ok hrest
      cases hlast
    | ok mapping =>
      obtain ⟨made, rfl, hsetups, hregions⟩ := ih hrest
      have hregion := Pool.region_of_allocate hallocate
      refine ⟨ofMapping setup mapping :: made, by simp, ?_, ?_⟩
      · rw [List.map_cons, List.map_cons, hsetups]
        rfl
      · intro bank hmem
        rcases List.mem_cons.mp hmem with rfl | hmade
        · exact hregion
        · exact hregions bank hmade

lemma RecordStore.of_allocate {name : String} {capacity : Nat} {setups : List EngineSetup}
    {pool pool' : Pool} {store : RecordStore}
    (hnodup : (setups.map (·.engine)).Nodup)
    (h : (allocate name capacity setups pool).result = .ok (.ok store, pool')) :
    store.Fits capacity ∧ (∀ index, store.fenceNumber index = 0) ∧
      store.setups = setups.map fun setup => { setup with enabled := true } := by
  unfold allocate at h
  obtain ⟨⟨answer, pool₁⟩, hfence, hrest⟩ := Traced.result_bind_eq_ok h
  cases answer with
  | error refusal => cases hrest
  | ok fence =>
    have hregion := Pool.region_of_allocate hfence
    obtain ⟨⟨banks?, pool₂⟩, hbanks, hlast⟩ := Traced.result_bind_eq_ok hrest
    cases banks? with
    | error refusal =>
      obtain ⟨pool₃, -, hnever⟩ := Traced.result_bind_eq_ok hlast
      cases hnever
    | ok banks =>
      obtain ⟨made, hmade, hsetups, hregions⟩ := Bank.exists_of_allocateAll hbanks
      cases hlast
      rw [List.nil_append] at hmade
      subst hmade
      refine ⟨⟨?_, ?_, ?_, ?_⟩, ?_, hsetups⟩
      · rw [hregion]
        exact Array.size_replicate
      · have hpage : fenceWidth ≤ pageAlignment := by decide
        rw [hregion]
        exact hpage
      · intro bank hmem
        have hbank := hregions bank hmem
        constructor
        · rw [hbank]
          exact Array.size_replicate
        · have hpage : 4 ≤ pageAlignment := by decide
          rw [hbank]
          exact hpage
      · have hengines : RecordStore.engines ⟨fence, banks⟩ = setups.map (·.engine) := by
          rw [engines_eq_layouts, layouts_eq_setups, RecordStore.setups, hsetups, List.map_map,
            List.map_map]
          rfl
        rw [hengines]
        exact hnodup
      · intro index
        unfold fenceNumber
        rw [hregion]
        exact Region.word_zeroed _ _ _ _

namespace Ring

/-- A ring that was created is a fresh one, over zeroed memory with a bank for each enabled engine,
and its setup has no flaws. -/
theorem exists_store_of_create {setup : RingSetup} {pool pool' : Pool} {ring : Ring}
    (h : (create setup pool).result = .ok (.ok ring, pool')) :
    setup.flaw? = none ∧ ∃ store, ring = fresh setup.name setup.capacity.toNat store ∧
      store.Fits setup.capacity.toNat ∧ (∀ index, store.fenceNumber index = 0) ∧
      store.setups = setup.enabled := by
  unfold create at h
  cases hflaw : setup.flaw? with
  | some flaw =>
    rw [hflaw] at h
    cases h
  | none =>
    rw [hflaw] at h
    obtain ⟨⟨answer, pool₁⟩, hallocate, hrest⟩ := Traced.result_bind_eq_ok h
    cases answer with
    | error refusal => cases hrest
    | ok store =>
      obtain ⟨-, -, hnodup⟩ := RingSetup.of_flaw?_eq_none hflaw
      have hengines : (setup.enabled.map (·.engine)).Nodup := by
        unfold RingSetup.layouts at hnodup
        rw [List.map_map] at hnodup
        exact hnodup
      obtain ⟨hfits, hzero, hsetups⟩ := RecordStore.of_allocate hengines hallocate
      obtain ⟨-, -, hlast⟩ := Traced.result_bind_eq_ok hrest
      cases hlast
      exact ⟨rfl, store, rfl, hfits, hzero, hsetups.trans setup.map_enabled⟩

lemma fresh_of_create {setup : RingSetup} {pool pool' : Pool} {ring : Ring}
    (h : (create setup pool).result = .ok (.ok ring, pool')) :
    setup.flaw? = none ∧ ∃ store, ring = fresh setup.name setup.capacity.toNat store ∧
      store.Fits setup.capacity.toNat ∧ (∀ index, store.fenceNumber index = 0) ∧
      store.layouts = setup.layouts := by
  obtain ⟨hflaw, store, hring, hfits, hzero, hsetups⟩ := exists_store_of_create h
  refine ⟨hflaw, store, hring, hfits, hzero, ?_⟩
  rw [RecordStore.layouts_eq_setups, hsetups]
  rfl

lemma IsNew.exists_fresh {ring : Ring} (h : ring.IsNew) :
    ∃ (setup : RingSetup) (store : RecordStore), setup.flaw? = none ∧
      ring = fresh setup.name setup.capacity.toNat store ∧ store.Fits setup.capacity.toNat := by
  obtain ⟨setup, pool, pool', hcreate⟩ := h
  obtain ⟨hflaw, store, hring, hfits, -, -⟩ := fresh_of_create hcreate
  exact ⟨setup, store, hflaw, hring, hfits⟩

lemma wellFormed_fresh {name : String} {capacity : Nat} {store : RecordStore}
    (hpos : 0 < capacity) (hfits : store.Fits capacity) :
    (fresh name capacity store).WellFormed where
  capacity_pos := hpos
  size_slots := Array.size_replicate
  fits := by
    intro store' hstore
    cases hstore
    exact hfits
  held := by
    intro index slot hslot
    simp [fresh, Array.getElem?_replicate] at hslot
  window := by
    intro sequence hlow
    exact absurd hlow (Nat.not_lt_zero sequence)
  accounting := by
    have hnone : (fresh name capacity store).slots.countP isOpen = 0 := by
      rw [Array.countP_eq_zero]
      intro slot hmem
      rw [(Array.mem_replicate.mp hmem).2]
      simp [isOpen]
    rw [hnone]
    rfl
  submitted_lt := by
    change 0 < UInt64.size
    decide

/-- A ring with one place for one engine. -/
def single : Ring :=
  fresh "ring" 1
    ⟨⟨"ring.fence", .deviceWrites, true, true, .zeroed 8 pageAlignment⟩,
      [⟨⟨0⟩, "engine", .compact,
        ⟨"ring.engine", .deviceWrites, true, true, .zeroed 16 pageAlignment⟩⟩]⟩

lemma isNew_single : single.IsNew :=
  ⟨⟨"ring", 1, [⟨⟨0⟩, "engine", .compact, true⟩]⟩, .new none, _, rfl⟩

theorem IsNew.wellFormed {ring : Ring} (h : ring.IsNew) : ring.WellFormed := by
  obtain ⟨setup, store, hflaw, rfl, hfits⟩ := h.exists_fresh
  exact wellFormed_fresh (RingSetup.of_flaw?_eq_none hflaw).1 hfits

end Ring

end CompletionRing
