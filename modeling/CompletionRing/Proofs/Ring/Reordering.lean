import CompletionRing.Proofs.Observer.Matching
import CompletionRing.Proofs.Ring.Independence
import CompletionRing.Proofs.Ring.Places
import CompletionRing.Proofs.Ring.Shown

/-!
# The order of engines

Rings for the same enabled engines in another order do the same, whatever engines are disabled
besides. A ring finds the records of an engine by its number, and the reports reduce to the same
status in any order.
-/

namespace CompletionRing

/-- Do the slots hold the same unit with the same reports, but for their order? -/
structure Slot.Matches (slot slot' : Slot) : Prop where
  sequence : slot'.sequence = slot.sequence
  number : slot'.number = slot.number
  frame : slot'.frame = slot.frame
  stage : slot'.stage = slot.stage
  reports : Report.Matching slot.reports slot'.reports

/-- Do the setups ask for the same ring, but for the order of the engines and for those that are
disabled? -/
structure RingSetup.Matches (setup setup' : RingSetup) : Prop where
  name : setup'.name = setup.name
  capacity : setup'.capacity = setup.capacity
  enabled : setup'.enabled.Perm setup.enabled

namespace Ring

/-- Are the rings in the same state, but for the order of their engines? -/
structure Reordered (ring ring' : Ring) : Prop where
  name : ring'.name = ring.name
  capacity : ring'.capacity = ring.capacity
  submitted : ring'.submitted = ring.submitted
  reported : ring'.reported = ring.reported
  refusals : ring'.refusals = ring.refusals
  slots : ∀ index : Nat, Option.Rel Slot.Matches ring.slots[index]?.join ring'.slots[index]?.join
  destroyed : ring'.store = none ↔ ring.store = none
  /-- The memories read the same for all live units. -/
  stores : ∀ store store', ring.store = some store → ring'.store = some store' →
    ring.Shows 0 store store'
  audience : ring.audience.Matches ring'.audience

/-- Do the replies say the same, but for the order of the engines? -/
inductive Reply.Matches : Reply → Reply → Prop
  | same {reply} : Matches reply reply
  | snapshot {snapshot snapshot'} (h : snapshot.Matches snapshot') :
    Matches (.snapshot snapshot) (.snapshot snapshot')
  | audience {reply reply'} (h : reply.Matches reply') : Matches (.audience reply) (.audience reply')

/-- Are the rings that two runs leave the same but for the order of their engines, and the answers
and notices too? -/
structure Corresponds (run run' : Run Ring Reply) : Prop where
  state : Reordered run.state run'.state
  answer : Outcomes Reply.Matches run.trace.result run'.trace.result
  notices : List.Forall₂ Event.Matches run.trace.events run'.trace.events

/-- Does the operation subscribe no function that looks at the reports? -/
def Op.IgnoresReports : Op → Prop
  | .audience _ op => op.IgnoresReports
  | _ => True

end Ring

lemma Status.ofReports_perm {reports reports' : List Report} (h : reports'.Perm reports) :
    ofReports reports' = ofReports reports := by
  unfold ofReports
  rw [h.isEmpty_eq, h.all_eq, h.any_eq]

namespace Slot.Matches

variable {slot slot' : Slot} {reports reports' : List Report}

lemma status_eq (h : slot.Matches slot') : slot'.status = slot.status := by
  unfold Slot.status
  rw [h.stage]

lemma snapshot (h : slot.Matches slot') : slot.snapshot.Matches slot'.snapshot :=
  ⟨h.sequence, congrArg some h.number, h.frame, h.status_eq, h.reports⟩

lemma refl_begun (sequence : Nat) (number : UInt32) (frame : Option Frame) :
    (Slot.begun sequence number frame).Matches (.begun sequence number frame) :=
  ⟨rfl, rfl, rfl, rfl, .refl _⟩

lemma waiting (h : slot.Matches slot') : slot.waiting.Matches slot'.waiting :=
  ⟨h.sequence, h.number, h.frame, rfl, h.reports⟩

lemma abandoned (h : slot.Matches slot') : slot.abandoned.Matches slot'.abandoned :=
  ⟨h.sequence, h.number, h.frame, rfl, h.reports⟩

lemma evaluated (h : slot.Matches slot') (hreports : Report.Matching reports reports') :
    (slot.evaluated reports).Matches (slot'.evaluated reports') :=
  ⟨h.sequence, h.number, h.frame, congrArg Stage.ofStatus (Status.ofReports_perm hreports.perm),
    hreports⟩

end Slot.Matches

lemma RecordStore.engines_readings (store : RecordStore) (index : Nat) :
    (store.readings index).map (·.engine) = store.engines := by
  rw [engines_eq_layouts, readings, List.map_map]
  rfl

namespace Ring

variable {ring ring' : Ring} {sequence : Nat} {op : Op} {run : Run Ring Reply} {slot slot' : Slot}
  {store store' : RecordStore}

lemma Shows.readings_matching {capacity : Nat} (h : ring.Shows 0 store store')
    (hfits : store.Fits capacity) (hlive : ring.holds sequence) :
    Report.Matching (store.readings (ring.index sequence))
      (store'.readings (ring.index sequence)) := by
  apply Report.Matching.of_perm (h.readings_perm (Nat.zero_le sequence) hlive)
  rw [RecordStore.engines_readings]
  exact hfits.nodup

namespace Reordered

lemma index (h : Reordered ring ring') (sequence : Nat) :
    ring'.index sequence = ring.index sequence := index_congr h.capacity sequence

lemma holds (h : Reordered ring ring') (sequence : Nat) :
    ring'.holds sequence = ring.holds sequence :=
  holds_congr h.capacity h.submitted h.destroyed sequence

lemma exists_store (h : Reordered ring ring') (hring' : ring'.WellFormed)
    (hstore : ring.store = some store) :
    ∃ store', ring'.store = some store' ∧ ring.Shows 0 store store' ∧ store'.Fits ring.capacity := by
  obtain ⟨store', hstore'⟩ := exists_store_congr h.destroyed hstore
  refine ⟨store', hstore', h.stores store store' hstore hstore', ?_⟩
  rw [← h.capacity]
  exact hring'.fits store' hstore'

lemma exists_slot (h : Reordered ring ring') (hslot : ring.slot? sequence = some slot) :
    ∃ slot', ring'.slot? sequence = some slot' ∧ slot.Matches slot' := by
  obtain ⟨hlive, hat⟩ := slot?_eq_some_iff.mp hslot
  have hslots := h.slots (ring.index sequence)
  rw [hat, Option.join_some] at hslots
  generalize hat' : ring'.slots[ring.index sequence]?.join = found at hslots
  cases hslots with
  | @some _ slot' hmatches =>
    refine ⟨slot', ?_, hmatches⟩
    rw [slot?_eq_some_iff, h.holds, h.index]
    exact ⟨hlive, Option.join_eq_some_iff.mp hat'⟩

lemma isOpen_eq (h : Reordered ring ring') (index : Nat) :
    isOpen ring'.slots[index]?.join = isOpen ring.slots[index]?.join := by
  have hslots := h.slots index
  generalize ring.slots[index]?.join = found, ring'.slots[index]?.join = found' at hslots ⊢
  cases hslots with
  | none => rfl
  | some hmatches =>
    unfold isOpen
    rw [Option.any_some, Option.any_some, hmatches.stage]

lemma exists_evaluated (h : Reordered ring ring') (hring : ring.WellFormed)
    (hring' : ring'.WellFormed) (hstore : ring.store = some store)
    (hslot : ring.slot? sequence = some slot)
    (hfence : sequence < store.fenceNumber (ring.index sequence)) :
    ∃ store' slot', ring'.store = some store' ∧ ring'.slot? sequence = some slot' ∧
      slot'.stage = slot.stage ∧ sequence < store'.fenceNumber (ring'.index sequence) ∧
      (slot.evaluated (store.readings (ring.index sequence))).Matches
        (slot'.evaluated (store'.readings (ring'.index sequence))) := by
  obtain ⟨store', hstore', hshows, -⟩ := h.exists_store hring' hstore
  obtain ⟨slot', hslot', hmatches⟩ := h.exists_slot hslot
  have hlive := (slot?_eq_some_iff.mp hslot).1
  refine ⟨store', slot', hstore', hslot', hmatches.stage, ?_, ?_⟩
  · rw [h.index]
    exact (hshows.gates sequence (Nat.zero_le sequence)).mpr hfence
  · rw [h.index]
    exact hmatches.evaluated (hshows.readings_matching (hring.fits store hstore) hlive)

/-! ### The same is done to both rings -/

lemma setSlot (h : Reordered ring ring') (hring : ring.WellFormed) (hring' : ring'.WellFormed)
    (hmatches : slot.Matches slot') (index : Nat) :
    Option.Rel Slot.Matches (ring.setSlot slot).slots[index]?.join
      (ring'.setSlot slot').slots[index]?.join := by
  have hsize : ring'.slots.size = ring.slots.size := by
    rw [hring.size_slots, hring'.size_slots, h.capacity]
  rw [slots_setSlot, slots_setSlot, h.index, hmatches.sequence, hsize]
  split_ifs
  · exact .some hmatches
  · exact .none
  · exact h.slots index

lemma revise (h : Reordered ring ring') (hring : ring.WellFormed) (hring' : ring'.WellFormed)
    (hmatches : slot.Matches slot') : Reordered (ring.revise slot) (ring'.revise slot') := by
  refine ⟨h.name, h.capacity, h.submitted, ?_, h.refusals, h.setSlot hring hring' hmatches,
    h.destroyed, ?_, h.audience⟩
  · unfold Ring.revise
    rw [hmatches.stage]
    exact congrArg (· + _) h.reported
  · intro store store' hstore hstore'
    exact (h.stores store store' hstore hstore').of_window rfl fun _ _ => id

lemma withStores {new new' : RecordStore} (h : Reordered ring ring')
    (hstore : ring.store = some store) (hshows : ring.Shows 0 new new') :
    Reordered { ring with store := some new } { ring' with store := some new' } := by
  refine ⟨h.name, h.capacity, h.submitted, h.reported, h.refusals, h.slots, ⟨nofun, nofun⟩, ?_,
    h.audience⟩
  rintro _ _ ⟨⟩ ⟨⟩
  exact hshows.stored hstore

lemma begun (h : Reordered ring ring') (hring : ring.WellFormed) (hring' : ring'.WellFormed)
    (hstore : ring.store = some store) (hshows : ring.Shows 0 store store')
    (hfits' : store'.Fits ring.capacity) (number : UInt32) (frame : Option Frame) :
    Reordered (ring.begun store number frame) (ring'.begun store' number frame) := by
  have hindex : ring'.index ring'.submitted = ring.index ring.submitted := by
    rw [h.index, h.submitted]
  have hmatches : (Slot.begun ring.submitted number frame).Matches
      (.begun ring'.submitted number frame) := by
    rw [h.submitted]
    exact .refl_begun _ _ _
  refine ⟨h.name, h.capacity, congrArg (· + 1) h.submitted, ?_, h.refusals,
    h.setSlot hring hring' hmatches, ⟨nofun, nofun⟩, ?_, h.audience⟩
  · -- Both give up an older unit that is not settled, or neither does.
    unfold Ring.begun
    rw [hindex, h.isOpen_eq]
    exact congrArg (· + _) h.reported
  · rintro _ _ ⟨⟩ ⟨⟩
    rw [hindex]
    exact hshows.begun hring hstore hfits' number frame

lemma facing (h : Reordered ring ring') {audience audience' : Audience}
    (haudience : audience.Matches audience') {refusals refusals' : Nat}
    (hrefusals : refusals' = refusals) :
    Reordered (ring.facing audience refusals) (ring'.facing audience' refusals') :=
  ⟨h.name, h.capacity, h.submitted, h.reported, hrefusals, h.slots, h.destroyed,
    fun store store' hstore hstore' =>
      (h.stores store store' hstore hstore').of_window rfl fun _ _ => id, haudience⟩

lemma told {snapshot snapshot' : Snapshot} (h : Reordered ring ring')
    (hsnapshot : snapshot.Matches snapshot') (held : Frame → Bool) :
    Reordered (ring.told held snapshot) (ring'.told held snapshot') := by
  obtain ⟨hfanOut, haudience, -⟩ := h.audience.announce hsnapshot held
  refine h.facing haudience ?_
  rw [hfanOut, h.refusals]

lemma emptied (h : Reordered ring ring') :
    Reordered { ring with store := none } { ring' with store := none } :=
  ⟨h.name, h.capacity, h.submitted, h.reported, h.refusals, h.slots, ⟨fun _ => rfl, fun _ => rfl⟩,
    nofun, h.audience⟩

/-! ### Steps -/

lemma done {reply reply' : Reply} (h : Reordered ring ring') (hreply : reply.Matches reply') :
    Corresponds (.done ring reply) (.done ring' reply') := ⟨h, .value hreply, .nil⟩

lemma stopped (h : Reordered ring ring') (fault : Fault) :
    Corresponds (.stopped ring fault) (.stopped ring' fault) := ⟨h, .fault, .nil⟩

lemma query {held : Frame → Bool} (h : Reordered ring ring') (hring : ring.WellFormed)
    (hring' : ring'.WellFormed) (hstep : Step ring (.query held sequence) run) :
    ∃ run', Step ring' (.query held sequence) run' ∧ Corresponds run run' := by
  cases hstep with
  | queriedOutside hlive => exact ⟨_, .queriedOutside (by rwa [h.holds]), h.done .same⟩
  | queriedSettled hslot hsettled =>
    obtain ⟨slot', hslot', hmatches⟩ := h.exists_slot hslot
    exact ⟨_, .queriedSettled hslot' (by rwa [hmatches.stage]), h.done (.snapshot hmatches.snapshot)⟩
  | queriedWaiting hstore hslot hopen hfence =>
    obtain ⟨store', hstore', hshows, -⟩ := h.exists_store hring' hstore
    obtain ⟨slot', hslot', hmatches⟩ := h.exists_slot hslot
    have hfence' : ¬sequence < store'.fenceNumber (ring'.index sequence) := by
      rwa [h.index, hshows.gates sequence (Nat.zero_le sequence)]
    refine ⟨_, .queriedWaiting hstore' hslot' (by rwa [hmatches.stage]) hfence', ?_⟩
    exact (h.revise hring hring' hmatches.waiting).done (.snapshot hmatches.waiting.snapshot)
  | queriedEvaluated hstore hslot hopen hfence hslot' hstage =>
    obtain ⟨store', before, hstore', hbefore, hsame, hfence', hmatches⟩ :=
      h.exists_evaluated hring hring' hstore hslot hfence
    rw [← hslot'] at hmatches
    refine ⟨_, .queriedEvaluated hstore' hbefore (by rwa [hsame]) hfence' rfl
      (by rwa [hmatches.stage]), ?_⟩
    exact (h.revise hring hring' hmatches).done (.snapshot hmatches.snapshot)
  | queriedCompleted hstore hslot hopen hfence hslot' hstage hroom =>
    obtain ⟨store', before, hstore', hbefore, hsame, hfence', hmatches⟩ :=
      h.exists_evaluated hring hring' hstore hslot hfence
    rw [← hslot'] at hmatches
    obtain ⟨hfanOut, haudience, hevents⟩ := h.audience.announce hmatches.snapshot held
    refine ⟨_, .queriedCompleted hstore' hbefore (by rwa [hsame]) hfence' rfl
      (by rwa [hmatches.stage]) (by rwa [hfanOut, h.refusals]), ?_⟩
    exact ⟨(h.revise hring hring' hmatches).told hmatches.snapshot held,
      .value (.snapshot hmatches.snapshot), hevents⟩
  | queriedOverflow hstore hslot hopen hfence hslot' hstage hfull =>
    obtain ⟨store', before, hstore', hbefore, hsame, hfence', hmatches⟩ :=
      h.exists_evaluated hring hring' hstore hslot hfence
    rw [← hslot'] at hmatches
    obtain ⟨hfanOut, haudience, hevents⟩ := h.audience.announce hmatches.snapshot held
    refine ⟨_, .queriedOverflow hstore' hbefore (by rwa [hsame]) hfence' rfl
      (by rwa [hmatches.stage]) (by rwa [hfanOut, h.refusals]), ?_⟩
    exact ⟨h, .fault, hevents⟩

lemma force {outOfRange : Bool} (h : Reordered ring ring') (hring : ring.WellFormed)
    (hring' : ring'.WellFormed) (hstep : Step ring (.force sequence outOfRange) run) :
    ∃ run', Step ring' (.force sequence outOfRange) run' ∧ Corresponds run run' := by
  cases hstep with
  | forcedOutside hlive => exact ⟨_, .forcedOutside (by rwa [h.holds]), h.done .same⟩
  | disowned hslot =>
    obtain ⟨slot', hslot', hmatches⟩ := h.exists_slot hslot
    obtain ⟨hsequence, hnumber, hframe, -, hreports⟩ := hmatches.snapshot
    exact ⟨_, .disowned hslot', h.done (.snapshot ⟨hsequence, hnumber, hframe, rfl, hreports⟩)⟩
  | forcedSettled hslot hsettled =>
    obtain ⟨slot', hslot', hmatches⟩ := h.exists_slot hslot
    exact ⟨_, .forcedSettled hslot' (by rwa [hmatches.stage]), h.done (.snapshot hmatches.snapshot)⟩
  | abandoned hslot hopen =>
    obtain ⟨slot', hslot', hmatches⟩ := h.exists_slot hslot
    refine ⟨_, .abandoned hslot' (by rwa [hmatches.stage]), ?_⟩
    exact (h.revise hring hring' hmatches.abandoned).done (.snapshot hmatches.abandoned.snapshot)

lemma begin {number : UInt32} {frame : Option Frame} (h : Reordered ring ring')
    (hring : ring.WellFormed) (hring' : ring'.WellFormed)
    (hstep : Step ring (.begin number frame) run) :
    ∃ run', Step ring' (.begin number frame) run' ∧ Corresponds run run' := by
  cases hstep with
  | beginDestroyed hstore =>
    refine ⟨_, .beginDestroyed (h.destroyed.mpr hstore), ?_⟩
    rw [h.name]
    exact h.done .same
  | beginOverflow hstore hfull =>
    obtain ⟨store', hstore', -⟩ := h.exists_store hring' hstore
    exact ⟨_, .beginOverflow hstore' (by rwa [h.submitted]), h.stopped _⟩
  | began hstore hroom =>
    obtain ⟨store', hstore', hshows, hfits'⟩ := h.exists_store hring' hstore
    refine ⟨_, .began hstore' (by rwa [h.submitted]), ?_⟩
    rw [h.index, h.submitted]
    exact (h.begun hring hring' hstore hshows hfits' number frame).done .same

lemma prepareRetry (h : Reordered ring ring') (hring : ring.WellFormed)
    (hring' : ring'.WellFormed) (hstep : Step ring (.prepareRetry sequence) run) :
    ∃ run', Step ring' (.prepareRetry sequence) run' ∧ Corresponds run run' := by
  cases hstep with
  | retryDestroyed hstore =>
    refine ⟨_, .retryDestroyed (h.destroyed.mpr hstore), ?_⟩
    rw [h.name]
    exact h.done .same
  | retryStale hstore hlive =>
    obtain ⟨store', hstore', -⟩ := h.exists_store hring' hstore
    exact ⟨_, .retryStale hstore' (by rwa [h.holds]), h.done .same⟩
  | retried hstore hlive =>
    obtain ⟨store', hstore', hshows, hfits'⟩ := h.exists_store hring' hstore
    refine ⟨_, .retried hstore' (by rwa [h.holds]), ?_⟩
    rw [h.index]
    exact (h.withStores hstore (hshows.cleared (hring.fits _ hstore) hfits'
      (hring.index_lt sequence))).done .same

lemma write {engine : Engine} {field : Field} {datum : UInt32} (h : Reordered ring ring')
    (hring : ring.WellFormed) (hring' : ring'.WellFormed)
    (hstep : Step ring (.write engine sequence field datum) run) :
    ∃ run', Step ring' (.write engine sequence field datum) run' ∧ Corresponds run run' := by
  cases hstep with
  | writeDestroyed hstore => exact ⟨_, .writeDestroyed (h.destroyed.mpr hstore), h.done .same⟩
  | written hstore =>
    obtain ⟨store', hstore', hshows, hfits'⟩ := h.exists_store hring' hstore
    refine ⟨_, .written hstore', ?_⟩
    rw [h.index, hshows.knows (hring.fits _ hstore) hfits']
    exact (h.withStores hstore (hshows.withField (hring.fits _ hstore) hfits'
      (hring.index_lt sequence) engine field datum)).done .same

lemma retire (h : Reordered ring ring') (hring : ring.WellFormed) (hring' : ring'.WellFormed)
    (hstep : Step ring (.retire sequence) run) :
    ∃ run', Step ring' (.retire sequence) run' ∧ Corresponds run run' := by
  cases hstep with
  | retireDestroyed hstore => exact ⟨_, .retireDestroyed (h.destroyed.mpr hstore), h.done .same⟩
  | retireOverflow hstore hfull =>
    obtain ⟨store', hstore', -⟩ := h.exists_store hring' hstore
    exact ⟨_, .retireOverflow hstore' hfull, h.stopped _⟩
  | retired hstore hroom =>
    obtain ⟨store', hstore', hshows, hfits'⟩ := h.exists_store hring' hstore
    refine ⟨_, .retired hstore' hroom, ?_⟩
    rw [h.index]
    exact (h.withStores hstore (hshows.withFence (hring.fits _ hstore) hfits'
      (hring.index_lt sequence) hroom)).done .same

lemma performed {held : Frame → Bool} {op : Audience.Op} (h : Reordered ring ring')
    (hop : op.IgnoresReports) (hstep : Step ring (.audience held op) run) :
    ∃ run', Step ring' (.audience held op) run' ∧ Corresponds run run' := by
  have hperform := h.audience.perform held hop
  generalize houtcome : ring'.audience.perform held op = outcome at hperform
  cases hstep with
  | audience hdone =>
    rw [hdone] at hperform
    cases hperform with
    | value hmatches =>
      exact ⟨_, .audience houtcome, (h.facing hmatches.2 h.refusals).done (.audience hmatches.1)⟩
  | audienceFault hfault =>
    rw [hfault] at hperform
    cases hperform with
    | fault => exact ⟨_, .audienceFault houtcome, h.stopped _⟩

theorem step (h : Reordered ring ring') (hring : ring.WellFormed) (hring' : ring'.WellFormed)
    (hop : op.IgnoresReports) (hstep : Step ring op run) :
    ∃ run', Step ring' op run' ∧ Corresponds run run' := by
  cases op with
  | begin => exact h.begin hring hring' hstep
  | prepareRetry => exact h.prepareRetry hring hring' hstep
  | query => exact h.query hring hring' hstep
  | force => exact h.force hring hring' hstep
  | audience => exact h.performed hop hstep
  | cancel id =>
    cases hstep with
    | cancelled =>
      obtain ⟨hfound, haudience⟩ := h.audience.cancel id
      refine ⟨_, .cancelled, ?_⟩
      rw [hfound]
      exact (h.facing haudience h.refusals).done .same
  | destroy =>
    cases hstep with
    | destroyedAgain hstore => exact ⟨_, .destroyedAgain (h.destroyed.mpr hstore), h.done .same⟩
    | destroyed hstore =>
      obtain ⟨store', hstore', -⟩ := h.exists_store hring' hstore
      exact ⟨_, .destroyed hstore', h.emptied.done .same⟩
  | write => exact h.write hring hring' hstep
  | retire => exact h.retire hring hring' hstep

end Reordered

/-! ### Two runs -/

lemma reordered_of_create {setup setup' : RingSetup} {pool pool' spare spare' : Pool}
    (hsetup : setup.Matches setup')
    (hcreate : (create setup pool).result = .ok (.ok ring, spare))
    (hcreate' : (create setup' pool').result = .ok (.ok ring', spare')) :
    Reordered ring ring' := by
  obtain ⟨-, store, rfl, -, hzero, hsetups⟩ := exists_store_of_create hcreate
  obtain ⟨-, store', rfl, -, hzero', hsetups'⟩ := exists_store_of_create hcreate'
  refine ⟨hsetup.name, congrArg UInt32.toNat hsetup.capacity, rfl, rfl, rfl, ?_, ⟨nofun, nofun⟩, ?_,
    ⟨rfl, .nil⟩⟩
  · intro index
    unfold fresh
    rw [hsetup.capacity, Array.getElem?_replicate]
    split_ifs <;> exact .none
  · rintro _ _ ⟨⟩ ⟨⟩
    refine ⟨?_, ?_, ?_⟩
    · rw [RecordStore.layouts_eq_setups, RecordStore.layouts_eq_setups, hsetups, hsetups']
      exact hsetup.enabled.map _
    · intro sequence _ hlive
      obtain ⟨-, hbegun, -⟩ := holds_iff.mp hlive
      exact absurd hbegun (Nat.not_lt_zero sequence)
    · intro sequence _
      rw [hzero, hzero']

/-- Two operations of two runs that are the same, have answers and notices that say the same but
for the order of the engines, and leave the same counters. -/
structure Entry.Matches (entry entry' : Entry) : Prop where
  op : entry'.op = entry.op
  answer : Outcomes Reply.Matches entry.answer entry'.answer
  notices : List.Forall₂ Event.Matches (entry.events.filter Event.isNotice)
    (entry'.events.filter Event.isNotice)
  submitted : entry'.ring.submitted = entry.ring.submitted
  reported : entry'.ring.reported = entry.ring.reported
  outstanding : entry'.ring.outstanding = entry.ring.outstanding
  refusals : entry'.ring.refusals = entry.ring.refusals

lemma Reordered.entries (h : Reordered ring ring') (hring : ring.WellFormed)
    (hring' : ring'.WellFormed) {ops : List Op} (hops : ∀ op ∈ ops, op.IgnoresReports) :
    List.Forall₂ Entry.Matches (ring.entries ops) (ring'.entries ops) := by
  induction ops generalizing ring ring' with
  | nil => exact .nil
  | cons op rest ih =>
    obtain ⟨run', hstep', hcorresponds⟩ :=
      h.step hring hring' (hops op List.mem_cons_self) (Ring.step hring op)
    rw [(Ring.step hring' op).unique hstep'] at hcorresponds
    obtain ⟨hnext, hanswer, hnotices⟩ := hcorresponds
    refine .cons ⟨rfl, hanswer, hnotices, hnext.submitted, hnext.reported, ?_, hnext.refusals⟩
      (ih hnext (hring.next op) (hring'.next op) fun op hmem => hops op (List.mem_cons_of_mem _ hmem))
    change (ring'.next op).submitted - (ring'.next op).reported = _
    rw [next_eq, hnext.submitted, hnext.reported]
    rfl

/-- The order of the engines of a ring, and the engines that are disabled, make no difference. The
same run on rings for setups that differ in nothing else gives the same tickets, statuses, numbers,
notices and counters throughout, and the same report for each engine. -/
theorem engine_order_irrelevant {setup setup' : RingSetup} {pool pool' spare spare' : Pool}
    {ring ring' : Ring} (hsetup : setup.Matches setup')
    (hcreate : (create setup pool).result = .ok (.ok ring, spare))
    (hcreate' : (create setup' pool').result = .ok (.ok ring', spare')) {ops : List Op}
    (hops : ∀ op ∈ ops, op.IgnoresReports) :
    List.Forall₂ Entry.Matches (ring.entries ops) (ring'.entries ops) := by
  have hnew : ring.IsNew := ⟨setup, pool, spare, hcreate⟩
  have hnew' : ring'.IsNew := ⟨setup', pool', spare', hcreate'⟩
  exact (reordered_of_create hsetup hcreate hcreate').entries hnew.wellFormed hnew'.wellFormed hops

/-- Two engines with records of different layouts. -/
def straight : RingSetup :=
  ⟨"ring", 2, [⟨⟨0⟩, "first", .compact, true⟩, ⟨⟨1⟩, "second", .extended, true⟩]⟩

/-- The same engines the other way round, after one that is disabled. -/
def turned : RingSetup :=
  ⟨"ring", 2, [⟨⟨2⟩, "spare", .compact, false⟩, ⟨⟨1⟩, "second", .extended, true⟩,
    ⟨⟨0⟩, "first", .compact, true⟩]⟩

/-- One engine finishes, the other one is never run, and somebody is told. -/
def halfRun : List Op :=
  [.audience (fun _ => true) (.subscribe "log" (.callback (.cycling []))), .begin 7 none,
    .write ⟨1⟩ 0 .marker doneMarker, .retire 0, .query (fun _ => true) 0]

theorem engine_order_irrelevant_turned :
    ∃ ring ring' spare spare', (create straight (.new none)).result = .ok (.ok ring, spare) ∧
      (create turned (.new none)).result = .ok (.ok ring', spare') ∧
      List.Forall₂ Entry.Matches (ring.entries halfRun) (ring'.entries halfRun) := by
  obtain ⟨ring, spare, hcreate⟩ : ∃ ring spare,
      (create straight (.new none)).result = .ok (.ok ring, spare) := ⟨_, _, rfl⟩
  obtain ⟨ring', spare', hcreate'⟩ : ∃ ring spare,
      (create turned (.new none)).result = .ok (.ok ring, spare) := ⟨_, _, rfl⟩
  have hsetup : straight.Matches turned := ⟨rfl, rfl, .swap _ _ _⟩
  have hops : ∀ op ∈ halfRun, op.IgnoresReports := by
    simp only [halfRun, List.forall_mem_cons, List.not_mem_nil, false_implies, implies_true, and_true]
    exact ⟨fun _ _ _ => rfl, trivial, trivial, trivial, trivial⟩
  exact ⟨ring, ring', spare, spare', hcreate, hcreate',
    engine_order_irrelevant hsetup hcreate hcreate' hops⟩

end Ring

end CompletionRing
