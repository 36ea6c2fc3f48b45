import CompletionRing.Proofs.Ring.Footprints
import CompletionRing.Proofs.Ring.LateRetirement
import CompletionRing.Proofs.Ring.Names
import CompletionRing.Proofs.Session.Submission

/-!
# Addresses

A kick names the records of a unit and its fence word by offsets into regions. At these offsets the
ring itself reads and writes when it is given the number of the unit, so it makes no difference
whether the device stores through the ring or at the places of the kick.
-/

namespace CompletionRing

/-! ### Accesses by offset -/

namespace Bank

variable {bank : Bank} {capacity index inner : Nat} {field : Field}

lemma load32_field (h : bank.Fits capacity) (hi : index < capacity)
    (hinner : bank.layout.offset? field = some inner) :
    bank.mapping.region.load32 (bank.layout.recordOffset index + inner) =
      .ok (bank.value index field) := by
  have hoffset := fieldOffset?_of_offset? hinner index
  obtain ⟨hin, haligned⟩ := h.word hi hoffset
  rw [Region.load32, Region.load_ok _ hin haligned h.alignment, value, hoffset]
  rfl

lemma store32_field (h : bank.Fits capacity) (hi : index < capacity)
    (hinner : bank.layout.offset? field = some inner) (datum : UInt32) :
    ∃ region,
      bank.mapping.region.store32 (bank.layout.recordOffset index + inner) datum = .ok region ∧
        bank.withRegion region = bank.withField index field datum := by
  have hoffset := fieldOffset?_of_offset? hinner index
  obtain ⟨hin, haligned⟩ := h.word hi hoffset
  refine ⟨_, Region.store_ok _ _ hin haligned h.alignment, ?_⟩
  rw [withField, hoffset]

end Bank

namespace RecordStore

variable {store : RecordStore} {bank : Bank} {capacity index number : Nat} {field : Field}

/-- The store with a bank in place of the one of the same engine. -/
def withBank (store : RecordStore) (bank : Bank) : RecordStore :=
  store.mapBanks fun other => if other.engine = bank.engine then bank else other

/-- The store with another region for the fence words. -/
def withFenceRegion (store : RecordStore) (region : Region) : RecordStore :=
  { store with fence := { store.fence with region } }

lemma withField_eq_withBank (h : store.Fits capacity) (hmem : bank ∈ store.banks) (index : Nat)
    (field : Field) (datum : UInt32) : store.withField bank.engine index field datum =
      store.withBank (bank.withField index field datum) := by
  have hbanks : ∀ other ∈ store.banks,
      (if other.engine = bank.engine then other.withField index field datum else other) =
        if other.engine = bank.engine then bank.withField index field datum else other := by
    intro other hother
    split
    · next hengine => rw [Ring.eq_of_engine_eq h hother hmem hengine]
    · rfl
  unfold withField withBank mapBanks
  rw [Bank.engine_withField, List.map_congr_left hbanks]

lemma store64_fence (h : store.Fits capacity) (hi : index < capacity)
    (hnumber : number < UInt64.size) : ∃ region,
      store.fence.region.store64 (fenceOffset index) (UInt64.ofNat number) = .ok region ∧
        store.withFenceRegion region = store.withFence index number := by
  obtain ⟨hin, haligned⟩ := h.fenceOffset hi
  have hword : (UInt64.ofNat number).toNat = number := UInt64.toNat_ofNat_of_lt hnumber
  have hstore : store.fence.region.store64 (fenceOffset index) (UInt64.ofNat number) =
      .ok (store.fence.region.put (fenceOffset index) (Word.toBytes fenceWidth number)) := by
    rw [Region.store64, hword]
    exact Region.store_ok _ _ hin haligned h.alignment
  exact ⟨_, hstore, rfl⟩

end RecordStore

/-! ### Stores of the device -/

/-- A store of the device for a unit: to a field of one of its records, or the one that retires
it. -/
inductive Deposit where
  | record (engine : Engine) (field : Field) (datum : UInt32)
  | fence

/-- The store as an operation of the ring, which finds the place by the number of the unit. -/
def Deposit.op (sequence : Nat) : Deposit → Ring.Op
  | .record engine field datum => .write engine sequence field datum
  | .fence => .retire sequence

/-- The store at the places of a kick. The records of a kick are in the order of the engines, and
a field is at its offset from the place of the record. -/
def Kick.deposit (kick : Kick) (store : RecordStore) : Deposit → Except Fault RecordStore
  | .record engine field datum =>
    match (store.banks.zip kick.records).find? (·.1.engine = engine) with
    | none => return store
    | some (bank, place) =>
      match bank.layout.offset? field with
      | none => return store
      | some inner => do
        let region ← bank.mapping.region.store32 (place.offset + inner) datum
        return store.withBank (bank.withRegion region)
  | .fence => do
    let word ← addCounts kick.ticket.sequence 1
    let region ← store.fence.region.store64 kick.fence.offset (UInt64.ofNat word)
    return store.withFenceRegion region

namespace Ring

/-- The ring after operations in turn and stores at the places of a kick. Nothing is stored once
the ring is destroyed. -/
def runKick (kick : Kick) (ring : Ring) : List (Op ⊕ Deposit) → Except Fault Ring
  | [] => return ring
  | .inl op :: rest => (ring.next op).runKick kick rest
  | .inr deposit :: rest =>
    match ring.store with
    | none => ring.runKick kick rest
    | some store => do
      let store ← kick.deposit store deposit
      { ring with store := some store }.runKick kick rest

/-- Is a place that of the record which the ring reads and writes for a unit, in the region of a
bank? The fields are given as they read there. -/
structure RecordAt (ring : Ring) (store : RecordStore) (sequence : Nat) (bank : Bank)
    (place : Location) (fields : Field → UInt32) : Prop where
  region : place.region = bank.mapping.name
  inside : place.offset + place.length ≤ bank.mapping.region.length
  covers : ∀ field inner, bank.layout.offset? field = some inner → inner + 4 ≤ place.length
  read : ∀ field inner, bank.layout.offset? field = some inner →
    bank.mapping.region.load32 (place.offset + inner) = .ok (fields field)
  written : ∀ field inner datum, bank.layout.offset? field = some inner → ∃ region,
    bank.mapping.region.store32 (place.offset + inner) datum = .ok region ∧
      ring.next (.write bank.engine sequence field datum) =
        { ring with store := some (store.withBank (bank.withRegion region)) }

/-- Is a place that of the fence word which the ring reads and writes for a unit? -/
structure FenceAt (ring : Ring) (store : RecordStore) (sequence : Nat) (place : Location)
    (word : UInt64) : Prop where
  region : place.region = store.fence.name
  length : place.length = fenceWidth
  inside : place.offset + place.length ≤ store.fence.region.length
  read : store.fence.region.load64 place.offset = .ok word
  written : ∃ region,
    store.fence.region.store64 place.offset (UInt64.ofNat (sequence + 1)) = .ok region ∧
      ring.next (.retire sequence) = { ring with store := some (store.withFenceRegion region) }

/-- Are the places handed out for a live unit those where the ring reads and writes? The fields of
its records and its fence word are given as they read there. -/
structure Located (ring : Ring) (setup : RingSetup) (store : RecordStore) (sequence : Nat)
    (fields : Engine → Field → UInt32) (word : UInt64) : Prop where
  records : ∀ entry ∈ setup.enabled, ∃ bank ∈ store.banks, bank.setup = entry ∧
    ∃ place, ring.recordRange? entry.engine sequence = some place ∧
      ring.RecordAt store sequence bank place (fields entry.engine)
  fence : ∃ place, ring.fenceRange? sequence = some place ∧
    ring.FenceAt store sequence place word
  /-- The fence word is the gate of a query, and the reports are made of the fields. -/
  queried : ∀ held slot, ring.slot? sequence = some slot → slot.stage.isSettled = false →
    ring.answer (.query held sequence) =
      if sequence < word.toNat then
        ring.verdict held (slot.evaluated (setup.layouts.map fun (engine, layout) =>
          .ofFields engine layout (fields engine)))
      else .ok (.snapshot slot.waiting.snapshot)
  recordsApart : ∀ engine other place place', other ≠ sequence →
    ring.recordRange? engine sequence = some place →
    ring.recordRange? engine other = some place' → place.region = place'.region ∧
      Region.Apart place.offset place.length place'.offset place'.length
  fencesApart : ∀ other place place', other ≠ sequence →
    ring.fenceRange? sequence = some place → ring.fenceRange? other = some place' →
    place.region = place'.region ∧
      Region.Apart place.offset place.length place'.offset place'.length
  /-- If the names in the setup are good, each region is told by its name. -/
  named : setup.WellNamed → (store.mappings.map (·.name)).Nodup
  /-- A kick names the regions in order. The device may store at its places at any later time,
  whatever else happens. -/
  kicked : ∀ number, ∃ kick,
    Session.firstKick? ring ⟨sequence, ring.index sequence⟩ number = some kick ∧
      (kick.fence :: kick.records).map (·.region) = store.mappings.map (·.name) ∧
      ∀ turns : List (Op ⊕ Deposit), ring.runKick kick turns =
        .ok (ring.after (turns.map (Sum.elim id (·.op sequence))))

variable {ring : Ring} {setup : RingSetup} {store : RecordStore} {bank : Bank} {sequence : Nat}
  {number : UInt32} {pool pool' : Pool}

/-! ### The places of a live unit -/

lemma recordAt (h : ring.WellFormed) (hstore : ring.store = some store)
    (hnamed : store.Named ring.name) (hmem : bank ∈ store.banks) (sequence : Nat) :
    ring.RecordAt store sequence bank ⟨s!"{ring.name}.{bank.name}",
      bank.layout.recordOffset (ring.index sequence), bank.layout.recordSize⟩
      (store.value bank.engine (ring.index sequence)) where
  region := (hnamed.banks bank hmem).symm
  inside := by
    rw [((h.fits store hstore).banks bank hmem).length]
    exact Layout.recordOffset_le (h.index_lt sequence)
  covers := fun field inner hinner => (Layout.offset?_bounds hinner).1
  read := by
    intro field inner hinner
    rw [RecordStore.value_of_mem (h.fits store hstore) hmem]
    exact Bank.load32_field ((h.fits store hstore).banks bank hmem) (h.index_lt sequence) hinner
  written := by
    intro field inner datum hinner
    have hfits := (h.fits store hstore).banks bank hmem
    obtain ⟨region, hregion, hbank⟩ := Bank.store32_field hfits (h.index_lt sequence) hinner datum
    refine ⟨region, hregion, ?_⟩
    rw [next_write h hstore, hbank, ← RecordStore.withField_eq_withBank (h.fits store hstore) hmem]

lemma fenceAt (h : ring.WellFormed) (hstore : ring.store = some store)
    (hnamed : store.Named ring.name) (hroom : sequence + 1 < UInt64.size) :
    ring.FenceAt store sequence ⟨s!"{ring.name}.fence",
      RecordStore.fenceOffset (ring.index sequence), fenceWidth⟩
      (UInt64.ofNat (store.fenceNumber (ring.index sequence))) where
  region := hnamed.fence.symm
  length := rfl
  inside := ((h.fits store hstore).fenceOffset (h.index_lt sequence)).1
  read := RecordStore.fenceWord_ok (h.fits store hstore) (h.index_lt sequence)
  written := by
    obtain ⟨region, hregion, hfence⟩ :=
      RecordStore.store64_fence (h.fits store hstore) (h.index_lt sequence) hroom
    refine ⟨region, hregion, ?_⟩
    rw [next_retire h hstore hroom, hfence]

/-! ### Stores at the places of a kick -/

lemma find?_zip_recordRanges (hmade : ring.MadeFor setup) (hstore : ring.store = some store)
    (engine : Engine) (index : Nat) :
    (store.banks.zip (setup.recordRanges index)).find? (·.1.engine = engine) =
      (store.bank? engine).map fun bank => (bank, ⟨s!"{setup.name}.{bank.name}",
        bank.layout.recordOffset index, bank.layout.recordSize⟩) := by
  rw [RingSetup.recordRanges, ← hmade.setups store hstore, RecordStore.setups, List.map_map,
    ← List.map_prod_left_eq_zip, List.find?_map]
  rfl

lemma deposit_eq_next (h : ring.WellFormed) (hmade : ring.MadeFor setup)
    (hstore : ring.store = some store) (hnamed : store.Named ring.name)
    (hroom : sequence + 1 < UInt64.size) (number : UInt32) (deposit : Deposit) : ∃ store',
      (setup.kick ⟨sequence, ring.index sequence⟩ number).deposit store deposit = .ok store' ∧
        ring.next (deposit.op sequence) = { ring with store := some store' } := by
  cases deposit with
  | fence =>
    obtain ⟨region, hregion, hnext⟩ := (fenceAt h hstore hnamed hroom).written
    refine ⟨store.withFenceRegion region, ?_, hnext⟩
    simp only [Kick.deposit, RingSetup.kick, RingSetup.fenceRange, addCounts_ok hroom]
    simp only [bind, Except.bind, hregion]
    rfl
  | record engine field datum =>
    have hfind := find?_zip_recordRanges hmade hstore engine (ring.index sequence)
    -- Where there is no such field, neither of the two stores anything.
    have hunknown : store.knows engine field = false →
        ring.next (.write engine sequence field datum) = { ring with store := some store } := by
      intro hknows
      rw [next_write h hstore, RecordStore.withField_of_not_knows (h.fits store hstore) hknows]
    cases hbank : store.bank? engine with
    | none =>
      rw [hbank] at hfind
      refine ⟨store, ?_, hunknown (by rw [RecordStore.knows, hbank]; rfl)⟩
      simp only [Kick.deposit, RingSetup.kick, hfind, Option.map_none]
      rfl
    | some bank =>
      obtain ⟨hmem, rfl⟩ := RecordStore.bank?_eq_some_mem hbank
      rw [hbank] at hfind
      cases hinner : bank.layout.offset? field with
      | none =>
        refine ⟨store, ?_, hunknown ?_⟩
        · simp only [Kick.deposit, RingSetup.kick, hfind, Option.map_some, hinner]
          rfl
        · rw [RecordStore.knows, hbank, Option.any_some, Layout.has, hinner]
          rfl
      | some inner =>
        obtain ⟨region, hregion, hnext⟩ :=
          (recordAt h hstore hnamed hmem sequence).written field inner datum hinner
        refine ⟨store.withBank (bank.withRegion region), ?_, hnext⟩
        simp only [Kick.deposit, RingSetup.kick, hfind, Option.map_some, hinner]
        simp only [bind, Except.bind, hregion]
        rfl

lemma next_deposit_of_destroyed (h : ring.WellFormed) (hnone : ring.store = none)
    (deposit : Deposit) (sequence : Nat) : ring.next (deposit.op sequence) = ring := by
  cases deposit with
  | record engine field datum =>
    have hstep : Step ring (.write engine sequence field datum) _ := .writeDestroyed hnone
    exact hstep.next h
  | fence =>
    have hstep : Step ring (.retire sequence) _ := .retireDestroyed hnone
    exact hstep.next h

/-- What the device stores through the ring in a run, it may as well store at the places of a
kick. -/
lemma runKick_eq_after {kick : Kick} (h : ring.WellFormed) (hmade : ring.MadeFor setup)
    (hnamed : ∀ store, ring.store = some store → store.Named ring.name)
    (hroom : sequence + 1 < UInt64.size)
    (hkick : kick = setup.kick ⟨sequence, ring.index sequence⟩ number)
    (turns : List (Op ⊕ Deposit)) :
    ring.runKick kick turns = .ok (ring.after (turns.map (Sum.elim id (·.op sequence)))) := by
  induction turns generalizing ring with
  | nil => rfl
  | cons turn rest ih =>
    have hlater : ∀ op, (ring.next op).runKick kick rest =
        .ok ((ring.next op).after (rest.map (Sum.elim id (·.op sequence)))) := by
      intro op
      have hstep := step h op
      rw [next_eq]
      have hmade' := hstep.madeFor hmade
      apply ih (hstep.wellFormed h) hmade'
      · rw [hmade'.name, ← hmade.name]
        exact hstep.named hnamed
      · rw [hkick, index, index, hmade.capacity, hmade'.capacity]
    cases turn with
    | inl op => exact hlater op
    | inr deposit =>
      rw [List.map_cons, after_cons, Sum.elim_inr, ← hlater, runKick]
      cases hstore : ring.store with
      | none => rw [next_deposit_of_destroyed h hstore]
      | some store =>
        obtain ⟨store', hdeposit, hnext⟩ :=
          deposit_eq_next h hmade hstore (hnamed store hstore) hroom number deposit
        rw [← hkick] at hdeposit
        rw [hnext]
        simp only [bind, Except.bind, hdeposit]

/-! ### Live units -/

lemma WellFormed.located (h : ring.WellFormed) (hmade : ring.MadeFor setup)
    (hnamed : ∀ store, ring.store = some store → store.Named ring.name)
    (hstore : ring.store = some store) (hlive : ring.holds sequence) :
    ring.Located setup store sequence (fun engine => store.value engine (ring.index sequence))
      (UInt64.ofNat (store.fenceNumber (ring.index sequence))) where
  records := by
    intro entry hmem
    rw [← hmade.setups store hstore] at hmem
    obtain ⟨bank, hbank, rfl⟩ := List.mem_map.mp hmem
    exact ⟨bank, hbank, rfl, _, recordRange?_of_mem h hstore hlive hbank,
      recordAt h hstore (hnamed store hstore) hbank sequence⟩
  fence := by
    refine ⟨_, fenceRange?_of_holds hmade hlive, ?_⟩
    rw [RingSetup.fenceRange, ← hmade.name]
    exact fenceAt h hstore (hnamed store hstore) (h.succ_lt hlive)
  queried := by
    intro held slot hslot hopen
    rw [answer_eq, (step h (.query held sequence)).query_of_open hstore hslot hopen,
      RecordStore.fenceWord_toNat, RecordStore.readings, hmade.layouts hstore]
  recordsApart := by
    intro engine other place place' hne hplace hplace'
    have hlive' := holds_of_recordRange? hplace'
    obtain ⟨_, hstore₁, bank, hmem, rfl, rfl⟩ := recordRange?_eq_some hplace
    obtain ⟨_, hstore₂, bank', hmem', hengine, rfl⟩ := recordRange?_eq_some hplace'
    obtain rfl := Option.some.inj (hstore₁.symm.trans hstore₂)
    obtain rfl := eq_of_engine_eq (h.fits _ hstore₁) hmem' hmem hengine
    refine ⟨rfl, Layout.recordOffset_apart _ ?_⟩
    intro hindex
    exact hne (index_inj hlive' hlive hindex.symm)
  fencesApart := by
    intro other place place' hne hplace hplace'
    have hlive' := holds_of_fenceRange? hplace'
    obtain ⟨-, -, rfl⟩ := fenceRange?_eq_some hplace
    obtain ⟨-, -, rfl⟩ := fenceRange?_eq_some hplace'
    refine ⟨rfl, RecordStore.fenceOffset_apart ?_⟩
    intro hindex
    exact hne (index_inj hlive' hlive hindex)
  named := by
    have hname := hnamed store hstore
    rw [hmade.name] at hname
    exact nodup_regions hmade hstore hname
  kicked := by
    intro number
    have hname := hnamed store hstore
    refine ⟨_, Session.firstKick?_of_holds h hmade hlive number, ?_,
      runKick_eq_after h hmade hnamed (h.succ_lt hlive) rfl⟩
    rw [hname.mappings, hmade.name, RingSetup.kick, RingSetup.recordRanges,
      ← hmade.setups store hstore, RecordStore.setups, List.map_cons, List.map_map, List.map_map]
    rfl

/-- In every run of a created ring, the places that it hands out for a live unit are those where it
reads and writes. -/
theorem located_after (hcreate : (create setup pool).result = .ok (.ok ring, pool'))
    (ops : List Op) (hlive : (ring.after ops).holds sequence) :
    ∃ store fields word, (ring.after ops).store = some store ∧
      (ring.after ops).Located setup store sequence fields word := by
  have hnew : ring.IsNew := ⟨setup, pool, pool', hcreate⟩
  have hmade := madeFor_after hcreate ops
  obtain ⟨store, hstore⟩ := exists_store hlive
  refine ⟨store, _, _, hstore, (hnew.wellFormed_after ops).located hmade ?_ hstore hlive⟩
  rw [hmade.name]
  exact named_after hcreate ops

/-- The second and the third unit are live, at different indices. -/
theorem located_after_thirdBegun :
    ∃ ring pool, (create mixedSetup (.new none)).result = .ok (.ok ring, pool) ∧
      (ring.after thirdBegun).holds 1 ∧ (ring.after thirdBegun).holds 2 ∧
      ∃ store fields word, (ring.after thirdBegun).store = some store ∧
        (ring.after thirdBegun).Located mixedSetup store 2 fields word := by
  have hcreate : ∃ ring pool, (create mixedSetup (.new none)).result = .ok (.ok ring, pool) ∧
      (ring.after thirdBegun).holds 1 ∧ (ring.after thirdBegun).holds 2 := by
    refine ⟨_, _, rfl, ?_⟩
    decide +kernel
  obtain ⟨ring, pool, hcreate, hsecond, hthird⟩ := hcreate
  exact ⟨ring, pool, hcreate, hsecond, hthird, located_after hcreate thirdBegun hthird⟩

end Ring

end CompletionRing
