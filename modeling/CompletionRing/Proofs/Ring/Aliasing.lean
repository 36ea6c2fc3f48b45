import CompletionRing.Proofs.Ring.Faults

/-!
# Which ranges the names tell apart

The device knows a region by its name only. The name of a bank's region comes from the name of its
engine, and nothing in a setup keeps two engines from having one name, or an engine from being
called like the fence. The ranges handed out for live units are apart just where the setup avoids
both.
-/

namespace CompletionRing

open RecordStore

/-- Have two ranges no byte in common, for whoever knows regions by their names? -/
def Location.Apart (range range' : Location) : Prop :=
  range.region = range'.region →
    Region.Apart range.offset range.length range'.offset range'.length

/-- Has each enabled engine a name for itself, and none that of the fence? -/
structure RingSetup.WellNamed (setup : RingSetup) : Prop where
  nodup : (setup.enabled.map (·.name)).Nodup
  not_fence : "fence" ∉ setup.enabled.map (·.name)

namespace Ring

/-- Are all the ranges apart that are handed out for different records and fence words? -/
structure Unambiguous (ring : Ring) : Prop where
  records : ∀ engine sequence engine' sequence' range range',
    ring.recordRange? engine sequence = some range →
    ring.recordRange? engine' sequence' = some range' →
    (engine, sequence) ≠ (engine', sequence') → range.Apart range'
  recordFence : ∀ engine sequence sequence' range range',
    ring.recordRange? engine sequence = some range →
    ring.fenceRange? sequence' = some range' → range.Apart range'
  fences : ∀ sequence sequence' range range',
    ring.fenceRange? sequence = some range → ring.fenceRange? sequence' = some range' →
    sequence ≠ sequence' → range.Apart range'

variable {ring : Ring} {setup : RingSetup} {sequence sequence' : Nat} {store : RecordStore}
  {bank bank' : Bank} {pool pool' : Pool}

lemma holds_of_recordRange? {engine : Engine} {range : Location}
    (hrange : ring.recordRange? engine sequence = some range) : ring.holds sequence := by
  by_contra hdead
  rw [recordRange?, heldIndex?, if_neg hdead] at hrange
  cases hrange

lemma holds_of_fenceRange? {range : Location} (hrange : ring.fenceRange? sequence = some range) :
    ring.holds sequence := by
  by_contra hdead
  rw [fenceRange?, heldIndex?, if_neg hdead] at hrange
  cases hrange

/-! ### Names -/

lemma region_inj {name own other : String} (h : s!"{name}.{own}" = s!"{name}.{other}") :
    own = other := (String.append_right_inj _).mp h

lemma region_fence (name : String) : s!"{name}.fence" = name ++ "." ++ "fence" := by
  rw [String.append_assoc]
  rfl

lemma MadeFor.names (hmade : ring.MadeFor setup) (hstore : ring.store = some store) :
    store.banks.map (·.name) = setup.enabled.map (·.name) := by
  rw [← hmade.setups store hstore, RecordStore.setups, List.map_map]
  rfl

lemma eq_of_engine_eq {capacity : Nat} (hfits : store.Fits capacity) (hmem : bank ∈ store.banks)
    (hmem' : bank' ∈ store.banks) (hengine : bank.engine = bank'.engine) : bank = bank' := by
  have hbank := hfits.bank? hmem
  rw [hengine, hfits.bank? hmem'] at hbank
  exact (Option.some.inj hbank).symm

/-- Where the names are good, the ranges are apart: those of one bank by their indices, and the
others by their regions. -/
lemma MadeFor.unambiguous (hmade : ring.MadeFor setup) (hnamed : setup.WellNamed) :
    ring.Unambiguous where
  records := by
    intro engine sequence engine' sequence' range range' hrange hrange' hne hregion
    have hlive := holds_of_recordRange? hrange
    have hlive' := holds_of_recordRange? hrange'
    obtain ⟨store, hstore, bank, hmem, rfl, rfl⟩ := recordRange?_eq_some hrange
    obtain ⟨store', hstore', bank', hmem', rfl, rfl⟩ := recordRange?_eq_some hrange'
    obtain rfl : store = store' := Option.some.inj (hstore.symm.trans hstore')
    have hnodup := hnamed.nodup
    rw [← hmade.names hstore] at hnodup
    obtain rfl : bank = bank' := List.inj_on_of_nodup_map hnodup hmem hmem' (region_inj hregion)
    apply Layout.recordOffset_apart
    intro hindex
    exact hne (by rw [index_inj hlive hlive' hindex])
  recordFence := by
    intro engine sequence sequence' range range' hrange hrange' hregion
    obtain ⟨store, hstore, bank, hmem, rfl, rfl⟩ := recordRange?_eq_some hrange
    obtain ⟨-, -, rfl⟩ := fenceRange?_eq_some hrange'
    have hname : bank.name = "fence" := region_inj (hregion.trans (region_fence ring.name))
    refine absurd ?_ hnamed.not_fence
    rw [← hmade.names hstore, ← hname]
    exact List.mem_map_of_mem hmem
  fences := by
    intro sequence sequence' range range' hrange hrange' hne hregion
    have hlive := holds_of_fenceRange? hrange
    have hlive' := holds_of_fenceRange? hrange'
    obtain ⟨-, -, rfl⟩ := fenceRange?_eq_some hrange
    obtain ⟨-, -, rfl⟩ := fenceRange?_eq_some hrange'
    apply fenceOffset_apart
    intro hindex
    exact hne (index_inj hlive hlive' hindex.symm)

/-! ### Ranges at the first index -/

lemma exists_holds_zero (hlive : ring.holds sequence) :
    ∃ first, ring.holds first ∧ ring.index first = 0 := by
  obtain ⟨hstored, hlow, hhigh⟩ := holds_iff.mp hlive
  have hcapacity : 0 < ring.capacity := by omega
  refine ⟨(ring.submitted - 1) / ring.capacity * ring.capacity, ?_, Nat.mul_mod_left _ _⟩
  have hle := Nat.div_mul_le_self (ring.submitted - 1) ring.capacity
  have hlt := Nat.lt_div_mul_add hcapacity (a := ring.submitted - 1)
  exact holds_iff.mpr ⟨hstored, by omega, by omega⟩

lemma recordSize_pos (layout : Layout) : 0 < layout.recordSize := by
  cases layout <;> decide

lemma not_apart_at_zero {region : String} {size size' : Nat} (hpos : 0 < size) (hpos' : 0 < size') :
    ¬Location.Apart ⟨region, 0, size⟩ ⟨region, 0, size'⟩ := by
  intro happart
  rcases happart rfl with hle | hle
  · simp only at hle
    omega
  · simp only at hle
    omega

lemma recordRange?_at_zero (h : ring.WellFormed) (hstore : ring.store = some store)
    (hlive : ring.holds sequence) (hindex : ring.index sequence = 0) (hmem : bank ∈ store.banks) :
    ring.recordRange? bank.engine sequence =
      some ⟨s!"{ring.name}.{bank.name}", 0, bank.layout.recordSize⟩ := by
  rw [recordRange?_of_mem h hstore hlive hmem, hindex, Layout.recordOffset, Nat.zero_mul]

lemma fenceRange?_at_zero (hlive : ring.holds sequence) (hindex : ring.index sequence = 0) :
    ring.fenceRange? sequence = some ⟨s!"{ring.name}.fence", 0, fenceWidth⟩ := by
  unfold fenceRange? heldIndex?
  rw [if_pos hlive, hindex]
  rfl

/-- The ranges at the first index show a name that is not good. -/
lemma Unambiguous.wellNamed (hapart : ring.Unambiguous) (h : ring.WellFormed)
    (hmade : ring.MadeFor setup) (hlive : ring.holds sequence) : setup.WellNamed := by
  obtain ⟨first, hfirst, hindex⟩ := exists_holds_zero hlive
  obtain ⟨store, hstore⟩ := exists_store hfirst
  have hfits := h.fits store hstore
  constructor
  · rw [← hmade.names hstore]
    apply List.Nodup.map_on
    · intro bank hmem bank' hmem' hname
      apply eq_of_engine_eq hfits hmem hmem'
      by_contra hengine
      have hrange := recordRange?_at_zero h hstore hfirst hindex hmem
      have hrange' := recordRange?_at_zero h hstore hfirst hindex hmem'
      rw [hname] at hrange
      refine not_apart_at_zero (recordSize_pos _) (recordSize_pos _)
        (hapart.records _ _ _ _ _ _ hrange hrange' ?_)
      intro hsame
      exact hengine (Prod.mk.inj hsame).1
    · exact hfits.nodup.of_map _
  · rw [← hmade.names hstore]
    intro hfence
    obtain ⟨bank, hmem, hname⟩ := List.mem_map.mp hfence
    have hrange := recordRange?_at_zero h hstore hfirst hindex hmem
    have hrange' := fenceRange?_at_zero hfirst hindex
    rw [hname] at hrange
    rw [region_fence] at hrange'
    exact not_apart_at_zero (recordSize_pos _) (by decide)
      (hapart.recordFence _ _ _ _ _ hrange hrange')

/-- In every run of a created ring, the ranges handed out are apart just if the names of the engines
are good, or no unit is live and nothing is handed out. -/
theorem unambiguous_iff (hcreate : (create setup pool).result = .ok (.ok ring, pool'))
    (ops : List Op) : (ring.after ops).Unambiguous ↔
      ∀ sequence, (ring.after ops).holds sequence → setup.WellNamed := by
  have hnew : ring.IsNew := ⟨setup, pool, pool', hcreate⟩
  have h := hnew.wellFormed_after ops
  have hmade := madeFor_after hcreate ops
  constructor
  · intro hapart sequence hlive
    exact hapart.wellNamed h hmade hlive
  · intro hnamed
    by_cases hlive : ∃ sequence, (ring.after ops).holds sequence
    · obtain ⟨sequence, hlive⟩ := hlive
      exact hmade.unambiguous (hnamed sequence hlive)
    · push Not at hlive
      constructor
      · intro engine sequence _ _ _ _ hrange
        exact absurd (holds_of_recordRange? hrange) (hlive sequence)
      · intro engine sequence _ _ _ hrange
        exact absurd (holds_of_recordRange? hrange) (hlive sequence)
      · intro sequence _ _ _ hrange
        exact absurd (holds_of_fenceRange? hrange) (hlive sequence)

theorem unambiguous_iff_single : single.holds 0 = false ∧
    (single.after [.begin 7 none]).holds 0 ∧ (single.after [.begin 7 none]).Unambiguous := by
  have hiff := unambiguous_iff
    (rfl : (create ⟨"ring", 1, [⟨⟨0⟩, "engine", .compact, true⟩]⟩ (.new none)).result =
      .ok (.ok single, _)) [.begin 7 none]
  refine ⟨rfl, rfl, hiff.mpr ?_⟩
  intro sequence _
  exact ⟨by decide, by decide⟩

/-- Two engines of one name, and one that is called like the fence. -/
def sameNames : RingSetup :=
  ⟨"ring", 2, [⟨⟨0⟩, "vd", .compact, true⟩, ⟨⟨1⟩, "vd", .compact, true⟩,
    ⟨⟨2⟩, "fence", .compact, true⟩]⟩

/-- A ring can be created with such names, and the ranges of its first unit are not apart. -/
theorem ambiguous_sameNames : ∃ ring pool,
    (create sameNames (.new none)).result = .ok (.ok ring, pool) ∧
    (ring.after [.begin 7 none]).recordRange? ⟨0⟩ 0 = some ⟨"ring.vd", 0, 16⟩ ∧
    (ring.after [.begin 7 none]).recordRange? ⟨1⟩ 0 = some ⟨"ring.vd", 0, 16⟩ ∧
    (ring.after [.begin 7 none]).recordRange? ⟨2⟩ 0 = some ⟨"ring.fence", 0, 16⟩ ∧
    (ring.after [.begin 7 none]).fenceRange? 0 = some ⟨"ring.fence", 0, 8⟩ ∧
    ¬(ring.after [.begin 7 none]).Unambiguous := by
  refine ⟨_, _, rfl, rfl, rfl, rfl, rfl, ?_⟩
  intro hapart
  exact not_apart_at_zero (by decide) (by decide)
    (hapart.records ⟨0⟩ 0 ⟨1⟩ 0 _ _ rfl rfl (by decide))

end Ring

end CompletionRing
