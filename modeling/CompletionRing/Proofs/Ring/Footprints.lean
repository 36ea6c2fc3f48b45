import CompletionRing.Proofs.Record.Footprints
import CompletionRing.Proofs.Ring.Places
import CompletionRing.Proofs.Ring.Reachable

/-!
# What is written to the shared memory

Whatever happened to a live ring before: a store of the device changes the one field that it names,
if there is such a field, and a retirement changes one fence word. Beginning a unit and preparing a
retry change the records of its index, and no fence word.
-/

namespace CompletionRing.Ring

/-- Does each operation write to the memory of a live ring just what it names? -/
structure WritesOnly (ring : Ring) (setup : RingSetup) (store : RecordStore) : Prop where
  capacity : ring.capacity = setup.capacity.toNat
  written : ∀ engine layout sequence field datum, (engine, layout) ∈ setup.layouts →
    layout.has field →
      ring.answer (.write engine sequence field datum) = .ok (.written (some true)) ∧
        ∃ store', ring.next (.write engine sequence field datum) =
            { ring with store := some store' } ∧
          store.Wrote store' engine (sequence % ring.capacity) field datum
  unknown : ∀ engine sequence field datum,
    (∀ layout, (engine, layout) ∈ setup.layouts → layout.has field = false) →
      ring.answer (.write engine sequence field datum) = .ok (.written (some false)) ∧
        ring.next (.write engine sequence field datum) = ring
  retired : ∀ sequence, sequence + 1 < UInt64.size →
    ring.answer (.retire sequence) = .ok (.retired (some (sequence % ring.capacity))) ∧
      ∃ store', ring.next (.retire sequence) = { ring with store := some store' } ∧
        store.Marked store' (sequence % ring.capacity) (sequence + 1)
  /-- The slots and the counts change as well, and they are not shared. -/
  began : ∀ number frame, ring.submitted + 1 < UInt64.size →
    ring.answer (.begin number frame) =
        .ok (.ticket (.ok ⟨ring.submitted, ring.submitted % ring.capacity⟩)) ∧
      ∃ store', (ring.next (.begin number frame)).store = some store' ∧
        store.Reset store' (ring.submitted % ring.capacity) Layout.primedRecord
  retried : ∀ sequence, ring.holds sequence →
    ring.answer (.prepareRetry sequence) =
        .ok (.ticket (.ok ⟨sequence, sequence % ring.capacity⟩)) ∧
      ∃ store', ring.next (.prepareRetry sequence) = { ring with store := some store' } ∧
        store.Reset store' (sequence % ring.capacity) Layout.blankRecord
  stale : ∀ sequence, ¬ring.holds sequence →
    ring.answer (.prepareRetry sequence) = .ok (.ticket (.error (.stale sequence))) ∧
      ring.next (.prepareRetry sequence) = ring

variable {ring : Ring} {setup : RingSetup} {store : RecordStore} {engine : Engine} {field : Field}

lemma MadeFor.knows_iff (h : ring.WellFormed) (hmade : ring.MadeFor setup)
    (hstore : ring.store = some store) : store.knows engine field ↔
      ∃ layout, (engine, layout) ∈ setup.layouts ∧ layout.has field := by
  rw [RecordStore.knows_eq_layouts (h.fits store hstore), hmade.layouts hstore, List.any_eq_true]
  constructor
  · rintro ⟨⟨engine', layout⟩, hmem, hknows⟩
    rw [Bool.and_eq_true, decide_eq_true_eq] at hknows
    obtain ⟨rfl, hhas⟩ := hknows
    exact ⟨layout, hmem, hhas⟩
  · rintro ⟨layout, hmem, hhas⟩
    exact ⟨(engine, layout), hmem, by simpa using hhas⟩

lemma WellFormed.writesOnly (h : ring.WellFormed) (hmade : ring.MadeFor setup)
    (hstore : ring.store = some store) : ring.WritesOnly setup store where
  capacity := hmade.capacity
  written := by
    intro engine layout sequence field datum hmem hhas
    have hknows : store.knows engine field := (hmade.knows_iff h hstore).mpr ⟨layout, hmem, hhas⟩
    have hstep : Step ring (.write engine sequence field datum) _ := .written hstore
    refine ⟨?_, _, hstep.next h, ?_⟩
    · rw [hstep.answer h, hknows]
      rfl
    · exact RecordStore.wrote_withField (h.fits store hstore) (h.index_lt sequence) hknows datum
  unknown := by
    intro engine sequence field datum hlacks
    have hknows : store.knows engine field = false := by
      rw [Bool.eq_false_iff, ne_eq, hmade.knows_iff h hstore]
      rintro ⟨layout, hmem, hhas⟩
      rw [hlacks layout hmem] at hhas
      cases hhas
    have hstep : Step ring (.write engine sequence field datum) _ := .written hstore
    constructor
    · rw [hstep.answer h, hknows]
      rfl
    · rw [hstep.next h, RecordStore.withField_of_not_knows (h.fits store hstore) hknows, ← hstore]
      rfl
  retired := by
    intro sequence hroom
    have hstep := Step.retired hstore hroom
    exact ⟨hstep.answer h, _, hstep.next h,
      RecordStore.marked_withFence (h.fits store hstore) (h.index_lt sequence) hroom⟩
  began := by
    intro number frame hroom
    have hstep : Step ring (.begin number frame) _ := .began hstore hroom
    refine ⟨hstep.answer h, _, congrArg Ring.store (hstep.next h), ?_⟩
    exact RecordStore.reset_primed (h.fits store hstore) (h.index_lt ring.submitted)
  retried := by
    intro sequence hlive
    have hstep := Step.retried hstore hlive
    exact ⟨hstep.answer h, _, hstep.next h,
      RecordStore.reset_cleared (h.fits store hstore) (h.index_lt sequence)⟩
  stale := by
    intro sequence hdead
    have hstep := Step.retryStale hstore hdead
    exact ⟨hstep.answer h, hstep.next h⟩

/-- In every run of a created ring, as long as it is not destroyed, each operation writes to its
memory just what it names. -/
theorem writesOnly_after {pool pool' : Pool}
    (hcreate : (create setup pool).result = .ok (.ok ring, pool')) (ops : List Op)
    (hstore : (ring.after ops).store = some store) : (ring.after ops).WritesOnly setup store := by
  have hnew : ring.IsNew := ⟨setup, pool, pool', hcreate⟩
  exact (hnew.wellFormed_after ops).writesOnly (madeFor_after hcreate ops) hstore

/-- Two engines with records of either kind, and one that is not enabled. -/
def mixedSetup : RingSetup :=
  ⟨"ring", 2, [⟨⟨3⟩, "first", .compact, true⟩, ⟨⟨4⟩, "off", .extended, false⟩,
    ⟨⟨5⟩, "second", .extended, true⟩]⟩

/-- The third unit shares its index with the first one, which retired. -/
def thirdBegun : List Op :=
  [.begin 7 none, .write ⟨5⟩ 0 (.lane 3) 1, .retire 0, .begin 8 none, .begin 9 none]

theorem writesOnly_after_thirdBegun :
    ∃ ring pool store, (create mixedSetup (.new none)).result = .ok (.ok ring, pool) ∧
      (ring.after thirdBegun).store = some store ∧
      (ring.after thirdBegun).WritesOnly mixedSetup store := by
  have hcreate : ∃ ring pool, (create mixedSetup (.new none)).result = .ok (.ok ring, pool) ∧
      (ring.after thirdBegun).store.isSome := by
    refine ⟨_, _, rfl, ?_⟩
    decide +kernel
  obtain ⟨ring, pool, hcreate, hsome⟩ := hcreate
  obtain ⟨store, hstore⟩ := Option.isSome_iff_exists.mp hsome
  exact ⟨ring, pool, store, hcreate, hstore, writesOnly_after hcreate thirdBegun hstore⟩

end CompletionRing.Ring
