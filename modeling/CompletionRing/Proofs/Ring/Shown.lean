import CompletionRing.Proofs.Ring.Slots

/-!
# What the memory shows

A ring reads its memory through few values: the fields of the records of live units, and whether a
unit's fence word is beyond it. Two memories that have the same values there, for units from some
number on, go on to do so whatever is done to both.
-/

namespace CompletionRing.Ring

/-- Do two memories of a ring read the same for its live units from `first` on? Their banks may be
in any order. -/
structure Shows (ring : Ring) (first : Nat) (store store' : RecordStore) : Prop where
  layouts : store'.layouts.Perm store.layouts
  values : ∀ sequence, first ≤ sequence → ring.holds sequence → ∀ engine field,
    store'.value engine (ring.index sequence) field = store.value engine (ring.index sequence) field
  gates : ∀ sequence, first ≤ sequence →
    (sequence < store'.fenceNumber (ring.index sequence) ↔
      sequence < store.fenceNumber (ring.index sequence))

variable {ring ring' : Ring} {first sequence index : Nat} {store store' : RecordStore}

lemma holds_of_begun {number : UInt32} {frame : Option Frame} (h : ring.WellFormed)
    (hstore : ring.store = some store) (hlive : (ring.begun store number frame).holds sequence)
    (hnew : sequence ≠ ring.submitted) :
    ring.index sequence ≠ ring.index ring.submitted ∧ ring.holds sequence := by
  obtain ⟨-, hlow, hhigh⟩ := holds_iff.mp hlive
  change sequence < ring.submitted + 1 at hlow
  change ring.submitted + 1 ≤ sequence + ring.capacity at hhigh
  constructor
  · intro hindex
    exact hnew (eq_of_mod_eq hindex hlow hhigh (Nat.lt_succ_self _)
      (Nat.add_le_add_left h.capacity_pos _))
  · rw [holds_iff, hstore]
    exact ⟨rfl, by omega, by omega⟩

namespace Shows

lemma refl (ring : Ring) (first : Nat) (store : RecordStore) : ring.Shows first store store :=
  ⟨.refl _, fun _ _ _ _ _ => rfl, fun _ _ => Iff.rfl⟩

lemma mem_engines (h : ring.Shows first store store') (engine : Engine) :
    engine ∈ store'.engines ↔ engine ∈ store.engines := by
  rw [RecordStore.engines_eq_layouts, RecordStore.engines_eq_layouts]
  exact (h.layouts.map Prod.fst).mem_iff

lemma knows {capacity capacity' : Nat} (h : ring.Shows first store store')
    (hfits : store.Fits capacity) (hfits' : store'.Fits capacity') (engine : Engine)
    (field : Field) : store'.knows engine field = store.knows engine field := by
  rw [RecordStore.knows_eq_layouts hfits, RecordStore.knows_eq_layouts hfits']
  exact h.layouts.any_eq

lemma value_eq (h : ring.Shows first store store') (hfirst : first ≤ sequence)
    (hlive : ring.holds sequence) (engine : Engine) :
    store'.value engine (ring.index sequence) = store.value engine (ring.index sequence) := by
  funext field
  exact h.values sequence hfirst hlive engine field

lemma readings_perm (h : ring.Shows first store store') (hfirst : first ≤ sequence)
    (hlive : ring.holds sequence) :
    (store'.readings (ring.index sequence)).Perm (store.readings (ring.index sequence)) := by
  unfold RecordStore.readings
  simp only [h.value_eq hfirst hlive]
  exact h.layouts.map _

lemma of_window (h : ring.Shows first store store') (hcapacity : ring'.capacity = ring.capacity)
    (hlive : ∀ sequence, first ≤ sequence → ring'.holds sequence → ring.holds sequence) :
    ring'.Shows first store store' := by
  have hindex := index_congr hcapacity
  refine ⟨h.layouts, ?_, ?_⟩
  · intro sequence hfirst hholds engine field
    rw [hindex]
    exact h.values sequence hfirst (hlive sequence hfirst hholds) engine field
  · intro sequence hfirst
    rw [hindex]
    exact h.gates sequence hfirst

lemma stored {new new' : RecordStore} (h : ring.Shows first new new')
    (hstore : ring.store = some store) :
    { ring with store := some new }.Shows first new new' := by
  refine h.of_window rfl ?_
  intro sequence _ hlive
  rw [holds_iff] at hlive ⊢
  rw [hstore]
  exact hlive

/-! ### The same is done to both memories -/

lemma cleared (h : ring.Shows first store store') (hfits : store.Fits ring.capacity)
    (hfits' : store'.Fits ring.capacity) (hindex : index < ring.capacity) :
    ring.Shows first (store.cleared index) (store'.cleared index) := by
  refine ⟨?_, ?_, ?_⟩
  · rw [RecordStore.layouts_cleared, RecordStore.layouts_cleared]
    exact h.layouts
  · intro sequence hfirst hlive engine field
    rw [RecordStore.value_cleared hfits hindex, RecordStore.value_cleared hfits' hindex,
      h.values sequence hfirst hlive]
  · intro sequence hfirst
    rw [RecordStore.fenceNumber_cleared, RecordStore.fenceNumber_cleared]
    exact h.gates sequence hfirst

lemma withField (h : ring.Shows first store store') (hfits : store.Fits ring.capacity)
    (hfits' : store'.Fits ring.capacity) (hindex : index < ring.capacity) (engine : Engine)
    (field : Field) (datum : UInt32) :
    ring.Shows first (store.withField engine index field datum)
      (store'.withField engine index field datum) := by
  refine ⟨?_, ?_, ?_⟩
  · rw [RecordStore.layouts_withField, RecordStore.layouts_withField]
    exact h.layouts
  · intro sequence hfirst hlive engine' field'
    rw [RecordStore.value_withField hfits hindex, RecordStore.value_withField hfits' hindex,
      h.knows hfits hfits', h.values sequence hfirst hlive]
  · intro sequence hfirst
    rw [RecordStore.fenceNumber_withField, RecordStore.fenceNumber_withField]
    exact h.gates sequence hfirst

lemma withFence {number : Nat} (h : ring.Shows first store store')
    (hfits : store.Fits ring.capacity) (hfits' : store'.Fits ring.capacity)
    (hindex : index < ring.capacity) (hnumber : number < UInt64.size) :
    ring.Shows first (store.withFence index number) (store'.withFence index number) := by
  refine ⟨?_, ?_, ?_⟩
  · rw [RecordStore.layouts_withFence, RecordStore.layouts_withFence]
    exact h.layouts
  · intro sequence hfirst hlive engine field
    rw [RecordStore.value_withFence, RecordStore.value_withFence]
    exact h.values sequence hfirst hlive engine field
  · intro sequence hfirst
    rw [RecordStore.fenceNumber_withFence hfits hindex hnumber,
      RecordStore.fenceNumber_withFence hfits' hindex hnumber]
    by_cases hsame : ring.index sequence = index
    · rw [if_pos hsame, if_pos hsame]
    · rw [if_neg hsame, if_neg hsame]
      exact h.gates sequence hfirst

lemma begun (h : ring.Shows first store store') (hring : ring.WellFormed)
    (hstore : ring.store = some store) (hfits' : store'.Fits ring.capacity) (number : UInt32)
    (frame : Option Frame) :
    (ring.begun store number frame).Shows first (store.primed (ring.index ring.submitted))
      (store'.primed (ring.index ring.submitted)) := by
  refine ⟨?_, ?_, ?_⟩
  · rw [RecordStore.layouts_primed, RecordStore.layouts_primed]
    exact h.layouts
  · intro sequence hfirst hlive engine field
    change (store'.primed _).value engine (ring.index sequence) field =
      (store.primed _).value engine (ring.index sequence) field
    rw [RecordStore.value_primed (hring.fits store hstore) (hring.index_lt _),
      RecordStore.value_primed hfits' (hring.index_lt _)]
    simp only [h.mem_engines]
    by_cases hnew : sequence = ring.submitted
    · by_cases hmem : engine ∈ store.engines
      · rw [if_pos ⟨congrArg ring.index hnew, hmem⟩, if_pos ⟨congrArg ring.index hnew, hmem⟩]
      · have hmem' : engine ∉ store'.engines := by rwa [h.mem_engines]
        rw [if_neg (fun hboth => hmem hboth.2), if_neg (fun hboth => hmem hboth.2),
          RecordStore.value_of_not_mem hmem, RecordStore.value_of_not_mem hmem']
    · obtain ⟨hapart, hbefore⟩ := holds_of_begun hring hstore hlive hnew
      rw [if_neg (fun hboth => hapart hboth.1), if_neg (fun hboth => hapart hboth.1)]
      exact h.values sequence hfirst hbefore engine field
  · intro sequence hfirst
    rw [RecordStore.fenceNumber_primed, RecordStore.fenceNumber_primed]
    exact h.gates sequence hfirst

end Shows

end CompletionRing.Ring
