import CompletionRing.Proofs.Ring.Slots
import CompletionRing.Ring.Location

/-!
# Places

A ring keeps the name, the capacity and the banks that its setup asks for, so the places of records
and fence words are known from the setup.
-/

namespace CompletionRing

namespace RingSetup

/-- Where the records at an index are, engine by engine. -/
def recordRanges (setup : RingSetup) (index : Nat) : List Location :=
  setup.enabled.map fun entry =>
    ⟨s!"{setup.name}.{entry.name}", entry.layout.recordOffset index, entry.layout.recordSize⟩

/-- Where the fence word at an index is. -/
def fenceRange (setup : RingSetup) (index : Nat) : Location :=
  ⟨s!"{setup.name}.fence", RecordStore.fenceOffset index, fenceWidth⟩

end RingSetup

namespace Bank

@[simp] lemma setup_withField (bank : Bank) (index : Nat) (field : Field) (datum : UInt32) :
    (bank.withField index field datum).setup = bank.setup := by
  unfold withField
  split <;> rfl

@[simp] lemma setup_cleared (bank : Bank) (index : Nat) :
    (bank.cleared index).setup = bank.setup := rfl

@[simp] lemma setup_primed (bank : Bank) (index : Nat) :
    (bank.primed index).setup = bank.setup := setup_withField _ _ _ _

end Bank

namespace RecordStore

lemma setups_mapBanks {f : Bank → Bank} (hsetup : ∀ bank, (f bank).setup = bank.setup)
    (store : RecordStore) : (store.mapBanks f).setups = store.setups := by
  unfold setups mapBanks
  rw [List.map_map]
  apply List.map_congr_left
  intro bank _
  exact hsetup bank

@[simp] lemma setups_cleared (store : RecordStore) (index : Nat) :
    (store.cleared index).setups = store.setups :=
  setups_mapBanks (fun bank => bank.setup_cleared index) store

@[simp] lemma setups_primed (store : RecordStore) (index : Nat) :
    (store.primed index).setups = store.setups :=
  setups_mapBanks (fun bank => bank.setup_primed index) store

@[simp] lemma setups_withField (store : RecordStore) (engine : Engine) (index : Nat)
    (field : Field) (datum : UInt32) :
    (store.withField engine index field datum).setups = store.setups := by
  apply setups_mapBanks
  intro bank
  split <;> simp

@[simp] lemma setups_withFence (store : RecordStore) (index number : Nat) :
    (store.withFence index number).setups = store.setups := by
  unfold setups withFence
  rfl

end RecordStore

namespace Ring

/-- Are the name, the capacity and the banks those of the setup? -/
structure MadeFor (ring : Ring) (setup : RingSetup) : Prop where
  name : ring.name = setup.name
  capacity : ring.capacity = setup.capacity.toNat
  setups : ∀ store, ring.store = some store → store.setups = setup.enabled

variable {ring : Ring} {setup : RingSetup} {op : Op} {run : Run Ring Reply} {sequence : Nat}
  {store : RecordStore}

lemma Step.madeFor (h : ring.MadeFor setup) (hstep : Step ring op run) :
    run.state.MadeFor setup := by
  have hsame : run.state.name = ring.name ∧ run.state.capacity = ring.capacity := by
    cases hstep <;> exact ⟨rfl, rfl⟩
  refine ⟨hsame.1.trans h.name, hsame.2.trans h.capacity, hstep.lasting ⟨?_, ?_, ?_, ?_⟩ h.setups⟩
  · intro store index hsetups
    exact (store.setups_primed index).trans hsetups
  · intro store index hsetups
    exact (store.setups_cleared index).trans hsetups
  · intro store engine index field datum hsetups
    exact (store.setups_withField engine index field datum).trans hsetups
  · intro store index number hsetups
    exact (store.setups_withFence index number).trans hsetups

lemma madeFor_after {pool pool' : Pool}
    (hcreate : (create setup pool).result = .ok (.ok ring, pool')) (ops : List Op) :
    (ring.after ops).MadeFor setup := by
  have hnew : ring.IsNew := ⟨setup, pool, pool', hcreate⟩
  apply hnew.wellFormed.kept_after (P := fun ring => ring.MadeFor setup)
  · obtain ⟨-, store, rfl, -, -, hsetups⟩ := exists_store_of_create hcreate
    refine ⟨rfl, rfl, ?_⟩
    rintro _ ⟨⟩
    exact hsetups
  · intro ring op run _ hstep hmade
    exact hstep.madeFor hmade

lemma MadeFor.engines (hmade : ring.MadeFor setup) (hstore : ring.store = some store) :
    store.engines = setup.enabled.map (·.engine) := by
  rw [← hmade.setups store hstore, RecordStore.setups, List.map_map]
  rfl

lemma MadeFor.layouts (hmade : ring.MadeFor setup) (hstore : ring.store = some store) :
    store.layouts = setup.layouts := by
  rw [RecordStore.layouts_eq_setups, hmade.setups store hstore]
  rfl

/-! ### The places of a live unit -/

lemma recordRange?_of_mem (h : ring.WellFormed) (hstore : ring.store = some store)
    (hlive : ring.holds sequence) {bank : Bank} (hmem : bank ∈ store.banks) :
    ring.recordRange? bank.engine sequence = some ⟨s!"{ring.name}.{bank.name}",
      bank.layout.recordOffset (ring.index sequence), bank.layout.recordSize⟩ := by
  have hbank := (h.fits store hstore).bank? hmem
  unfold recordRange? heldIndex?
  rw [if_pos hlive, hstore]
  simp only [Option.bind_eq_bind, Option.bind_some, hbank]
  rfl

lemma mapM_recordRange? (h : ring.WellFormed) (hmade : ring.MadeFor setup)
    (hlive : ring.holds sequence) :
    ring.engines.mapM (fun engine => ring.recordRange? engine sequence) =
      some (setup.recordRanges (ring.index sequence)) := by
  obtain ⟨store, hstore⟩ := exists_store hlive
  have hengines : ring.engines = store.banks.map (·.engine) := by
    rw [engines, hstore]
    rfl
  have hranges : setup.recordRanges (ring.index sequence) = store.banks.map fun bank =>
      ⟨s!"{ring.name}.{bank.name}", bank.layout.recordOffset (ring.index sequence),
        bank.layout.recordSize⟩ := by
    rw [RingSetup.recordRanges, ← hmade.setups store hstore, ← hmade.name, RecordStore.setups,
      List.map_map]
    rfl
  rw [hengines, hranges, List.mapM_map]
  exact mapM_eq_pure fun bank hmem => recordRange?_of_mem h hstore hlive hmem

lemma fenceRange?_of_holds (hmade : ring.MadeFor setup) (hlive : ring.holds sequence) :
    ring.fenceRange? sequence = some (setup.fenceRange (ring.index sequence)) := by
  unfold fenceRange? heldIndex?
  rw [if_pos hlive, RingSetup.fenceRange, ← hmade.name]
  rfl

end Ring

end CompletionRing
