import CompletionRing.Proofs.Ring.Announcements
import CompletionRing.Proofs.Ring.Occupancy
import CompletionRing.Proofs.Ring.Places

/-!
# Faults

Every operation keeps to the slots, the regions and the counts of a ring. As long as there are not
too many units and refusals to count, the only thing that stops an operation is the number after
the largest one, and what is stopped leaves everything as it was.
-/

namespace CompletionRing

open RecordStore

namespace Ring

/-- Does the operation begin a unit? -/
def Op.isBegin : Op → Bool
  | .begin .. => true
  | _ => false

/-- Is every place that operations go to inside the slots and the regions, and are the words
aligned? Are all counts and lengths numbers of the machine? -/
structure InBounds (ring : Ring) : Prop where
  capacity_lt : ring.capacity < UInt32.size
  index_lt : ∀ sequence, ring.index sequence < ring.slots.size ∧
    ring.index sequence < UInt32.size
  /-- The slot of a live unit is its own. -/
  live : ∀ sequence index, ring.heldIndex? sequence = some index →
    ∃ slot, ring.slots[index]? = some (some slot) ∧ slot.sequence = sequence
  /-- No more units are reported than were begun. -/
  counts : ring.reported ≤ ring.submitted ∧ ring.submitted < UInt64.size
  lengths : ∀ store, ring.store = some store → ∀ mapping ∈ store.mappings,
    mapping.region.length < UInt64.size
  fences : ∀ store, ring.store = some store → ∀ sequence,
    store.fence.region.checkWord fenceWidth (fenceOffset (ring.index sequence)) = .ok ()
  records : ∀ store, ring.store = some store → ∀ bank ∈ store.banks, ∀ sequence,
    bank.layout.recordOffset (ring.index sequence) + bank.layout.recordSize ≤
      bank.mapping.region.length
  fields : ∀ store, ring.store = some store → ∀ bank ∈ store.banks, ∀ sequence field offset,
    bank.fieldOffset? (ring.index sequence) field = some offset →
      bank.mapping.region.checkWord 4 offset = .ok ()
  recordRanges : ∀ engine sequence location, ring.recordRange? engine sequence = some location →
    ∃ store, ring.store = some store ∧ ∃ bank ∈ store.banks, bank.engine = engine ∧
      location.region = s!"{ring.name}.{bank.name}" ∧
      location.offset + location.length ≤ bank.mapping.region.length
  fenceRanges : ∀ sequence location, ring.fenceRange? sequence = some location →
    ∃ store, ring.store = some store ∧ location.region = s!"{ring.name}.fence" ∧
      location.offset + location.length ≤ store.fence.region.length

variable {ring : Ring} {op : Op} {run : Run Ring Reply} {sequence : Nat} {fault : Fault}
  {store : RecordStore}

lemma regionLength_lt (h : ring.WellFormed) (hcapacity : ring.capacity < UInt32.size)
    (hstore : ring.store = some store) :
    ∀ mapping ∈ store.mappings, mapping.region.length < UInt64.size := by
  have hbound : Region.systemBound < UInt64.size := by decide
  have hfits := h.fits store hstore
  intro mapping hmem
  rcases List.mem_cons.mp hmem with rfl | hbank
  · rw [hfits.fence]
    exact Nat.lt_trans (fenceSize_lt hcapacity) hbound
  · obtain ⟨bank, hbank', rfl⟩ := List.mem_map.mp hbank
    rw [(hfits.banks bank hbank').length]
    exact Nat.lt_trans (bank.layout.regionSize_lt hcapacity) hbound

lemma recordRange?_eq_some {engine : Engine} {location : Location}
    (h : ring.recordRange? engine sequence = some location) :
    ∃ store, ring.store = some store ∧ ∃ bank ∈ store.banks, bank.engine = engine ∧
      location = ⟨s!"{ring.name}.{bank.name}", bank.layout.recordOffset (ring.index sequence),
        bank.layout.recordSize⟩ := by
  unfold recordRange? heldIndex? at h
  simp only [Option.bind_eq_bind, Option.bind_eq_some_iff, Option.ite_none_right_eq_some,
    Option.some.injEq] at h
  obtain ⟨_, ⟨-, rfl⟩, store, hstore, bank, hbank, hlocation⟩ := h
  obtain ⟨hmem, hengine⟩ := bank?_eq_some_mem hbank
  exact ⟨store, hstore, bank, hmem, hengine, (Option.some.inj hlocation).symm⟩

lemma fenceRange?_eq_some {location : Location}
    (h : ring.fenceRange? sequence = some location) :
    ∃ store, ring.store = some store ∧
      location = ⟨s!"{ring.name}.fence", fenceOffset (ring.index sequence), fenceWidth⟩ := by
  unfold fenceRange? heldIndex? at h
  simp only [Option.bind_eq_bind, Option.bind_eq_some_iff, Option.ite_none_right_eq_some,
    Option.some.injEq] at h
  obtain ⟨_, ⟨hlive, rfl⟩, hlocation⟩ := h
  obtain ⟨store, hstore⟩ := exists_store hlive
  exact ⟨store, hstore, (Option.some.inj hlocation).symm⟩

lemma WellFormed.inBounds (h : ring.WellFormed) (hcapacity : ring.capacity < UInt32.size) :
    ring.InBounds where
  capacity_lt := hcapacity
  index_lt := by
    intro sequence
    have hlt := h.index_lt sequence
    rw [h.size_slots]
    exact ⟨hlt, Nat.lt_trans hlt hcapacity⟩
  live := by
    intro sequence index hindex
    unfold heldIndex? at hindex
    by_cases hlive : ring.holds sequence
    · rw [if_pos hlive] at hindex
      cases hindex
      obtain ⟨slot, hslot, hsequence⟩ := h.exists_slot hlive
      exact ⟨slot, (slot?_eq_some_iff.mp hslot).2, hsequence⟩
    · rw [if_neg hlive] at hindex
      cases hindex
  counts := ⟨h.reported_le, h.submitted_lt⟩
  lengths := fun _ hstore => regionLength_lt h hcapacity hstore
  fences := by
    intro store hstore sequence
    have hfits := h.fits store hstore
    obtain ⟨hin, haligned⟩ := hfits.fenceOffset (h.index_lt sequence)
    exact Region.checkWord_ok _ hin haligned hfits.alignment
  records := by
    intro store hstore bank hmem sequence
    rw [((h.fits store hstore).banks bank hmem).length]
    exact Layout.recordOffset_le (h.index_lt sequence)
  fields := by
    intro store hstore bank hmem sequence field offset hoffset
    have hfits := (h.fits store hstore).banks bank hmem
    obtain ⟨hin, haligned⟩ := hfits.word (h.index_lt sequence) hoffset
    exact Region.checkWord_ok _ hin haligned hfits.alignment
  recordRanges := by
    intro engine sequence location hlocation
    obtain ⟨store, hstore, bank, hmem, hengine, rfl⟩ := recordRange?_eq_some hlocation
    have hlength := ((h.fits store hstore).banks bank hmem).length
    refine ⟨store, hstore, bank, hmem, hengine, rfl, ?_⟩
    rw [hlength]
    exact Layout.recordOffset_le (h.index_lt sequence)
  fenceRanges := by
    intro sequence location hlocation
    obtain ⟨store, hstore, rfl⟩ := fenceRange?_eq_some hlocation
    exact ⟨store, hstore, rfl, ((h.fits store hstore).fenceOffset (h.index_lt sequence)).1⟩

lemma IsNew.capacity_lt (hnew : ring.IsNew) : ring.capacity < UInt32.size := by
  obtain ⟨setup, store, -, rfl, -⟩ := hnew.exists_fresh
  exact setup.capacity.toNat_lt_size

/-! ### Counts -/

/-- An operation is only stopped by a number that is too large, and then changes nothing. -/
lemma Step.overflow (hstep : Step ring op run) (hop : ∀ held op', op ≠ .audience held op')
    (hfault : run.trace.result = .error fault) :
    fault = .overflow ∧ run.state = ring ∧
      (op.isBegin ∧ UInt64.size ≤ ring.submitted + 1 ∨
        UInt64.size ≤ ring.refusals + refusalsIn run.trace.events ∨
        ∃ sequence, op = .retire sequence ∧ UInt64.size ≤ sequence + 1 ∧
          ring.isDestroyed = false) := by
  cases hstep with
  | beginOverflow hstore hfull =>
    cases hfault
    exact ⟨rfl, rfl, Or.inl ⟨rfl, Nat.not_lt.mp hfull⟩⟩
  | @queriedOverflow held sequence store slot slot' hstore hslot hopen hfence hslot' hstage hfull =>
    cases hfault
    obtain ⟨-, -, hrefused, -⟩ := ring.audience.announce_spec held slot'.snapshot
    rw [← hrefused, Nat.not_lt] at hfull
    exact ⟨rfl, rfl, Or.inr (Or.inl hfull)⟩
  | @audienceFault held op' fault => exact absurd rfl (hop held op')
  | @retireOverflow sequence store hstore hfull =>
    cases hfault
    have hlive : ring.isDestroyed = false := by
      rw [isDestroyed, hstore]
      rfl
    exact ⟨rfl, rfl, Or.inr (Or.inr ⟨sequence, rfl, Nat.not_lt.mp hfull, hlive⟩)⟩
  | _ => cases hfault

lemma Step.submitted_le (hstep : Step ring op run) :
    run.state.submitted ≤ ring.submitted + if op.isBegin then 1 else 0 := by
  cases hstep with
  | began => exact Nat.le_refl _
  | _ => exact Nat.le_add_right _ _

lemma submitted_le_after (h : ring.WellFormed) (ops : List Op) :
    (ring.after ops).submitted ≤ ring.submitted + ops.countP Op.isBegin := by
  induction ops generalizing ring with
  | nil => exact Nat.le_refl _
  | cons op rest ih =>
    have hfirst := (step h op).submitted_le
    rw [← next_eq] at hfirst
    have hrest := ih (h.next op)
    rw [after_cons, List.countP_cons]
    omega

lemma IsNew.submitted (hnew : ring.IsNew) : ring.submitted = 0 := by
  obtain ⟨setup, store, -, rfl, -⟩ := hnew.exists_fresh
  rfl

/-- In a run that does not begin 2^64 units and does not meet 2^64 refusals, every operation keeps
to the slots, the regions and the counts of the ring. The retirement of the unit with the largest
number is the only one that is stopped, and it leaves everything as it was. -/
theorem stopped_only_by_largest (hnew : ring.IsNew) (ops : List Op) (op : Op)
    (hop : ∀ held op', op ≠ .audience held op')
    (hbegins : (ops ++ [op]).countP Op.isBegin < UInt64.size)
    (hrefusals : refused (ring.entries ops) + refusalsIn ((ring.after ops).events op) <
      UInt64.size) :
    (ring.after ops).InBounds ∧ ((ring.after ops).next op).InBounds ∧
      (∀ fault, (ring.after ops).answer op = .error fault ↔
        fault = .overflow ∧ (ring.after ops).isDestroyed = false ∧
          ∃ sequence, op = .retire sequence ∧ UInt64.size - 1 ≤ sequence) ∧
      ∀ fault, (ring.after ops).answer op = .error fault →
        (ring.after ops).next op = ring.after ops := by
  have h := hnew.wellFormed_after ops
  have hcapacity : ∀ ops, (ring.after ops).capacity < UInt32.size := by
    intro ops
    rw [capacity_after hnew.wellFormed]
    exact hnew.capacity_lt
  have hnext : (ring.after ops).next op = ring.after (ops ++ [op]) := by
    rw [after_append, after_cons, after_nil]
  refine ⟨h.inBounds (hcapacity ops), ?_, ?_, ?_⟩
  · rw [hnext]
    exact (hnew.wellFormed_after (ops ++ [op])).inBounds (hcapacity _)
  · have hsubmitted := submitted_le_after hnew.wellFormed ops
    have hcounted := refusals_after hnew.wellFormed ops
    rw [hnew.submitted] at hsubmitted
    rw [hnew.refusals] at hcounted
    rw [List.countP_append, List.countP_singleton] at hbegins
    rw [events_refusals] at hrefusals
    intro fault
    constructor
    · intro hfault
      obtain ⟨hoverflow, -, hreason⟩ := (step h op).overflow hop hfault
      rcases hreason with ⟨hbegin, hfull⟩ | hfull | ⟨sequence, hretire, hfull, hlive⟩
      · rw [if_pos hbegin] at hbegins
        omega
      · omega
      · exact ⟨hoverflow, hlive, sequence, hretire, Nat.sub_le_of_le_add hfull⟩
    · rintro ⟨rfl, hlive, sequence, rfl, hfull⟩
      obtain ⟨store, hstore⟩ := Option.isSome_iff_exists.mp (Option.isNone_eq_false_iff.mp hlive)
      exact (Step.retireOverflow hstore (by omega)).answer h
  · intro fault hfault
    exact ((step h op).overflow hop hfault).2.1

/-- A unit is begun, retires and is asked for, and then the unit with the largest number
retires. -/
theorem stopped_only_by_largest_single :
    let ops : List Op := [.begin 7 none, .retire 0, .query (fun _ => true) 0]
    let largest := Op.retire (UInt64.size - 1)
    (ops ++ [largest]).countP Op.isBegin < UInt64.size ∧
      refused (single.entries ops) + refusalsIn ((single.after ops).events largest) <
        UInt64.size ∧
      (single.after ops).InBounds ∧ (single.after ops).answer largest = .error .overflow ∧
      (single.after ops).next largest = single.after ops := by
  intro ops largest
  have hbegins : (ops ++ [largest]).countP Op.isBegin < UInt64.size := by decide +kernel
  have hrefusals : refused (single.entries ops) +
      refusalsIn ((single.after ops).events largest) < UInt64.size := by decide +kernel
  obtain ⟨hbounds, -, hstopped, hsame⟩ :=
    stopped_only_by_largest isNew_single ops largest nofun hbegins hrefusals
  have hoverflow := (hstopped .overflow).mpr ⟨rfl, rfl, _, rfl, Nat.le_refl _⟩
  exact ⟨hbegins, hrefusals, hbounds, hoverflow, hsame .overflow hoverflow⟩

end Ring

end CompletionRing
