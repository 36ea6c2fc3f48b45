import CompletionRing.Proofs.Record.Stores
import CompletionRing.Proofs.Ring.Operations

/-!
# The window of live units

In a well-formed ring the slots hold exactly the last `capacity` units, each at its index, and the
reported units are those begun less those in slots that are not settled. A unit of the window has
its index for itself.
-/

namespace CompletionRing.Ring

variable {ring ring' : Ring} {sequence other index : Nat} {slot : Slot}

/-- Does a slot hold a unit that is not settled? -/
def isOpen (slot? : Option Slot) : Bool := slot?.any fun slot => !slot.stage.isSettled

structure WellFormed (ring : Ring) : Prop where
  capacity_pos : 0 < ring.capacity
  size_slots : ring.slots.size = ring.capacity
  /-- The regions have room for all indices. -/
  fits : ∀ store, ring.store = some store → store.Fits ring.capacity
  /-- A slot holds a unit of the window. -/
  held : ∀ index slot, ring.slots[index]? = some (some slot) →
    slot.sequence % ring.capacity = index ∧ slot.sequence < ring.submitted ∧
      ring.submitted ≤ slot.sequence + ring.capacity
  /-- A unit of the window is in the slot at its index. -/
  window : ∀ sequence, sequence < ring.submitted → ring.submitted ≤ sequence + ring.capacity →
    ∃ slot, ring.slots[sequence % ring.capacity]? = some (some slot) ∧ slot.sequence = sequence
  accounting : ring.reported + ring.slots.countP isOpen = ring.submitted
  submitted_lt : ring.submitted < UInt64.size

lemma holds_iff : ring.holds sequence ↔
    ring.store.isSome ∧ sequence < ring.submitted ∧ ring.submitted ≤ sequence + ring.capacity := by
  unfold holds isDestroyed
  cases ring.store with
  | none => simp
  | some store =>
    simp only [Option.isNone_some, Bool.not_false, Bool.true_and, Bool.and_eq_true,
      decide_eq_true_eq, Option.isSome_some, true_and]
    omega

lemma index_congr (hcapacity : ring'.capacity = ring.capacity) (sequence : Nat) :
    ring'.index sequence = ring.index sequence := by
  unfold index
  rw [hcapacity]

lemma holds_congr (hcapacity : ring'.capacity = ring.capacity)
    (hsubmitted : ring'.submitted = ring.submitted)
    (hdestroyed : ring'.store = none ↔ ring.store = none) (sequence : Nat) :
    ring'.holds sequence = ring.holds sequence := by
  have hstored : ring'.store.isSome = ring.store.isSome := by
    rw [Bool.eq_iff_iff, Option.isSome_iff_ne_none, Option.isSome_iff_ne_none, not_iff_not]
    exact hdestroyed
  rw [Bool.eq_iff_iff, holds_iff, holds_iff, hstored, hcapacity, hsubmitted]

lemma exists_store_congr {store : RecordStore} (hdestroyed : ring'.store = none ↔ ring.store = none)
    (hstore : ring.store = some store) : ∃ store', ring'.store = some store' := by
  rw [← Option.ne_none_iff_exists', ne_eq, hdestroyed, hstore]
  nofun

lemma not_holds_of_store_none (h : ring.store = none) : ¬ring.holds sequence := by
  rw [holds_iff, h]
  simp

lemma slot?_eq_none (h : ¬ring.holds sequence) : ring.slot? sequence = none := by
  rw [slot?, heldIndex?, if_neg h, Option.bind_none]

lemma slot?_eq_some_iff : ring.slot? sequence = some slot ↔
    ring.holds sequence ∧ ring.slots[ring.index sequence]? = some (some slot) := by
  unfold slot? heldIndex?
  by_cases h : ring.holds sequence
  · rw [if_pos h, Option.bind_some, Option.join_eq_some_iff]
    simp [h]
  · simp [h]

lemma eq_of_mod_eq {capacity submitted : Nat} (h : sequence % capacity = other % capacity)
    (hs : sequence < submitted) (hs' : submitted ≤ sequence + capacity)
    (ho : other < submitted) (ho' : submitted ≤ other + capacity) : sequence = other := by
  have hdiv := Nat.div_add_mod sequence capacity
  have hdiv' := Nat.div_add_mod other capacity
  rcases Nat.lt_trichotomy (sequence / capacity) (other / capacity) with hlt | heq | hgt
  · have hstep : capacity * (sequence / capacity + 1) ≤ capacity * (other / capacity) :=
      Nat.mul_le_mul_left capacity hlt
    rw [Nat.mul_succ] at hstep
    omega
  · rw [heq] at hdiv
    omega
  · have hstep : capacity * (other / capacity + 1) ≤ capacity * (sequence / capacity) :=
      Nat.mul_le_mul_left capacity hgt
    rw [Nat.mul_succ] at hstep
    omega

lemma index_inj (hs : ring.holds sequence) (ho : ring.holds other)
    (hindex : ring.index sequence = ring.index other) : sequence = other := by
  obtain ⟨-, hs, hs'⟩ := holds_iff.mp hs
  obtain ⟨-, ho, ho'⟩ := holds_iff.mp ho
  exact eq_of_mod_eq hindex hs hs' ho ho'

namespace WellFormed

lemma index_lt (h : ring.WellFormed) (sequence : Nat) : ring.index sequence < ring.capacity :=
  Nat.mod_lt sequence h.capacity_pos

lemma exists_slot (h : ring.WellFormed) (hlive : ring.holds sequence) :
    ∃ slot, ring.slot? sequence = some slot ∧ slot.sequence = sequence := by
  obtain ⟨-, hlow, hhigh⟩ := holds_iff.mp hlive
  obtain ⟨slot, hslot, hsequence⟩ := h.window sequence hlow hhigh
  exact ⟨slot, slot?_eq_some_iff.mpr ⟨hlive, hslot⟩, hsequence⟩

lemma sequence_eq (h : ring.WellFormed) (hslot : ring.slot? sequence = some slot) :
    slot.sequence = sequence := by
  obtain ⟨hlive, -⟩ := slot?_eq_some_iff.mp hslot
  obtain ⟨slot', hslot', hsequence⟩ := h.exists_slot hlive
  rw [hslot] at hslot'
  cases hslot'
  exact hsequence

lemma reported_lt (h : ring.WellFormed) (hslot : ring.slot? sequence = some slot)
    (hopen : slot.stage.isSettled = false) : ring.reported < ring.submitted := by
  obtain ⟨-, hat⟩ := slot?_eq_some_iff.mp hslot
  have hcount : 0 < ring.slots.countP isOpen := by
    rw [Array.countP_pos_iff]
    exact ⟨some slot, Array.mem_of_getElem? hat, by simp [isOpen, hopen]⟩
  have haccounting := h.accounting
  omega

lemma reported_le (h : ring.WellFormed) : ring.reported ≤ ring.submitted := by
  have haccounting := h.accounting
  omega

lemma succ_lt (h : ring.WellFormed) (hlive : ring.holds sequence) :
    sequence + 1 < UInt64.size := by
  obtain ⟨-, hbegun, -⟩ := holds_iff.mp hlive
  have hlt := h.submitted_lt
  omega

end WellFormed

/-! ### A slot is replaced -/

@[simp] lemma holds_setSlot (ring : Ring) (slot : Slot) (sequence : Nat) :
    (ring.setSlot slot).holds sequence = ring.holds sequence := rfl

@[simp] lemma index_setSlot (ring : Ring) (slot : Slot) (sequence : Nat) :
    (ring.setSlot slot).index sequence = ring.index sequence := rfl

lemma slots_setSlot (ring : Ring) (slot : Slot) (index : Nat) :
    (ring.setSlot slot).slots[index]? =
      if ring.index slot.sequence = index then
        if index < ring.slots.size then some (some slot) else none
      else ring.slots[index]? := by
  simp only [setSlot, Array.getElem?_setIfInBounds]
  by_cases h : ring.index slot.sequence = index
  · simp [h]
  · simp [h]

lemma countP_setSlot {before : Option Slot}
    (hslot : ring.slots[ring.index slot.sequence]? = some before) :
    (ring.setSlot slot).slots.countP isOpen + (if isOpen before then 1 else 0) =
      ring.slots.countP isOpen + (if isOpen (some slot) then 1 else 0) := by
  obtain ⟨hlt, hget⟩ := Array.getElem?_eq_some_iff.mp hslot
  have hpos : isOpen before → 0 < ring.slots.countP isOpen := by
    intro hopen
    rw [Array.countP_pos_iff]
    exact ⟨before, Array.mem_of_getElem? hslot, hopen⟩
  have hset : (ring.setSlot slot).slots = ring.slots.set (ring.index slot.sequence) (some slot) := by
    simp [setSlot, Array.setIfInBounds, hlt]
  rw [hset, Array.countP_set, hget]
  by_cases hopen : isOpen before
  · have hp := hpos hopen
    rw [if_pos hopen]
    omega
  · rw [if_neg hopen]
    omega

lemma slot?_setSlot {before : Slot} (h : ring.WellFormed)
    (hslot : ring.slot? slot.sequence = some before) (sequence : Nat) :
    (ring.setSlot slot).slot? sequence =
      if sequence = slot.sequence then some slot else ring.slot? sequence := by
  obtain ⟨hlive, hat⟩ := slot?_eq_some_iff.mp hslot
  have hlt : ring.index slot.sequence < ring.slots.size := by
    rw [h.size_slots]
    exact h.index_lt _
  by_cases hsame : sequence = slot.sequence
  · rw [if_pos hsame, slot?_eq_some_iff, hsame]
    refine ⟨hlive, ?_⟩
    rw [index_setSlot, slots_setSlot, if_pos rfl, if_pos hlt]
  · rw [if_neg hsame]
    by_cases hholds : ring.holds sequence
    · have hindex : ring.index slot.sequence ≠ ring.index sequence := by
        intro he
        exact hsame (index_inj hholds hlive he.symm)
      unfold slot? heldIndex?
      rw [holds_setSlot, index_setSlot, if_pos hholds, Option.bind_some, Option.bind_some,
        slots_setSlot, if_neg hindex]
    · rw [slot?_eq_none hholds, slot?_eq_none (by rwa [holds_setSlot])]

end CompletionRing.Ring
