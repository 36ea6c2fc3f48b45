import CompletionRing.Proofs.Ring.Creation
import CompletionRing.Proofs.Ring.Steps

/-!
# Reachable rings

Every operation keeps a ring well-formed, so every run of a new ring goes through well-formed
rings only.
-/

namespace CompletionRing.Ring

variable {ring : Ring} {op : Op} {run : Run Ring Reply} {slot before : Slot}

namespace WellFormed

lemma withStore (h : ring.WellFormed) {store? : Option RecordStore}
    (hfits : ∀ store, store? = some store → store.Fits ring.capacity) :
    { ring with store := store? }.WellFormed :=
  ⟨h.capacity_pos, h.size_slots, hfits, h.held, h.window, h.accounting, h.submitted_lt⟩

lemma withAudience (h : ring.WellFormed) (audience : Audience) (refusals : Nat) :
    { ring with audience, refusals }.WellFormed :=
  ⟨h.capacity_pos, h.size_slots, h.fits, h.held, h.window, h.accounting, h.submitted_lt⟩

lemma told (h : ring.WellFormed) (held : Frame → Bool) (snapshot : Snapshot) :
    (ring.told held snapshot).WellFormed :=
  h.withAudience _ _

lemma begun {store : RecordStore} (h : ring.WellFormed) (hstore : ring.store = some store)
    (hroom : ring.submitted + 1 < UInt64.size) (number : UInt32) (frame : Option Frame) :
    (ring.begun store number frame).WellFormed where
  capacity_pos := h.capacity_pos
  size_slots := by
    change (ring.slots.setIfInBounds _ _).size = ring.capacity
    rw [Array.size_setIfInBounds]
    exact h.size_slots
  fits := by
    intro store' hstore'
    cases hstore'
    exact (h.fits store hstore).primed _
  held := by
    intro index slot hslot
    have hpos := h.capacity_pos
    change (ring.setSlot (.begun ring.submitted number frame)).slots[index]? = _ at hslot
    change slot.sequence % ring.capacity = index ∧ slot.sequence < ring.submitted + 1 ∧
      ring.submitted + 1 ≤ slot.sequence + ring.capacity
    rw [slots_setSlot] at hslot
    by_cases hindex : ring.index ring.submitted = index
    · have hlt : index < ring.slots.size := by
        rw [h.size_slots, ← hindex]
        exact h.index_lt _
      rw [if_pos (by exact hindex), if_pos hlt] at hslot
      cases hslot
      exact ⟨hindex, Nat.lt_succ_self _, Nat.add_le_add_left hpos _⟩
    · rw [if_neg (by exact hindex)] at hslot
      obtain ⟨hmod, hlow, hhigh⟩ := h.held index slot hslot
      have hne : ring.submitted ≠ slot.sequence + ring.capacity := by
        intro he
        apply hindex
        rw [Ring.index, he, Nat.add_mod_right]
        exact hmod
      exact ⟨hmod, by omega, by omega⟩
  window := by
    intro sequence hlow hhigh
    change sequence < ring.submitted + 1 at hlow
    change ring.submitted + 1 ≤ sequence + ring.capacity at hhigh
    change ∃ slot, (ring.setSlot (.begun ring.submitted number frame)).slots[
      sequence % ring.capacity]? = some (some slot) ∧ slot.sequence = sequence
    rw [slots_setSlot]
    by_cases hnew : sequence = ring.submitted
    · have hindex : ring.index ring.submitted = sequence % ring.capacity := by
        rw [hnew]
        rfl
      have hlt : sequence % ring.capacity < ring.slots.size := by
        rw [h.size_slots]
        exact h.index_lt _
      rw [if_pos (by exact hindex), if_pos hlt]
      exact ⟨_, rfl, hnew.symm⟩
    · have hindex : ring.index ring.submitted ≠ sequence % ring.capacity := by
        intro he
        exact hnew (eq_of_mod_eq he.symm hlow hhigh (Nat.lt_succ_self _)
          (Nat.add_le_add_left h.capacity_pos _))
      rw [if_neg (by exact hindex)]
      exact h.window sequence (by omega) (by omega)
  accounting := by
    have hlt : ring.index ring.submitted < ring.slots.size := by
      rw [h.size_slots]
      exact h.index_lt _
    have hat := Array.getElem?_eq_getElem hlt
    have hat' : ring.slots[ring.index (Slot.begun ring.submitted number frame).sequence]? =
        some ring.slots[ring.index ring.submitted] := hat
    have hcount := countP_setSlot hat'
    have hopen : isOpen (some (.begun ring.submitted number frame)) = true := rfl
    have haccounting := h.accounting
    change ring.reported + (if isOpen ring.slots[ring.index ring.submitted]?.join then 1 else 0) +
      (ring.setSlot (.begun ring.submitted number frame)).slots.countP isOpen = ring.submitted + 1
    rw [hopen, if_pos rfl] at hcount
    rw [hat, Option.join_some]
    omega
  submitted_lt := hroom

lemma revise (h : ring.WellFormed) (hslot : ring.slot? slot.sequence = some before)
    (hopen : before.stage.isSettled = false) : (ring.revise slot).WellFormed where
  capacity_pos := h.capacity_pos
  size_slots := by
    change (ring.slots.setIfInBounds _ _).size = ring.capacity
    rw [Array.size_setIfInBounds]
    exact h.size_slots
  fits := h.fits
  held := by
    intro index slot' hslot'
    obtain ⟨hlive, hat⟩ := slot?_eq_some_iff.mp hslot
    obtain ⟨-, hlow, hhigh⟩ := holds_iff.mp hlive
    change (ring.setSlot slot).slots[index]? = _ at hslot'
    rw [slots_setSlot] at hslot'
    by_cases hindex : ring.index slot.sequence = index
    · have hlt : index < ring.slots.size := by
        rw [h.size_slots, ← hindex]
        exact h.index_lt _
      rw [if_pos hindex, if_pos hlt] at hslot'
      cases hslot'
      exact ⟨hindex, hlow, hhigh⟩
    · rw [if_neg hindex] at hslot'
      exact h.held index slot' hslot'
  window := by
    intro sequence hlow hhigh
    change ∃ slot', (ring.setSlot slot).slots[sequence % ring.capacity]? = some (some slot') ∧
      slot'.sequence = sequence
    rw [slots_setSlot]
    by_cases hindex : ring.index slot.sequence = sequence % ring.capacity
    · obtain ⟨hlive, -⟩ := slot?_eq_some_iff.mp hslot
      obtain ⟨-, hlow', hhigh'⟩ := holds_iff.mp hlive
      have hlt : sequence % ring.capacity < ring.slots.size := by
        rw [h.size_slots]
        exact h.index_lt _
      rw [if_pos hindex, if_pos hlt]
      exact ⟨slot, rfl, eq_of_mod_eq hindex hlow' hhigh' hlow hhigh⟩
    · rw [if_neg hindex]
      exact h.window sequence hlow hhigh
  accounting := by
    obtain ⟨-, hat⟩ := slot?_eq_some_iff.mp hslot
    have hcount := countP_setSlot hat
    have hbefore : isOpen (some before) = true := by simp [isOpen, hopen]
    have hafter : isOpen (some slot) = !slot.stage.isSettled := rfl
    have haccounting := h.accounting
    change ring.reported + (if slot.stage.isSettled then 1 else 0) +
      (ring.setSlot slot).slots.countP isOpen = ring.submitted
    rw [hbefore, hafter, if_pos rfl] at hcount
    cases hsettled : slot.stage.isSettled <;> simp [hsettled] at hcount ⊢ <;> omega
  submitted_lt := h.submitted_lt

end WellFormed

theorem Step.wellFormed (h : ring.WellFormed) (hstep : Step ring op run) :
    run.state.WellFormed := by
  cases hstep with
  | beginDestroyed | beginOverflow | retryDestroyed | retryStale => exact h
  | began hstore hroom => exact h.begun hstore hroom _ _
  | @retried sequence store hstore hlive =>
    apply h.withStore
    rintro _ ⟨⟩
    exact (h.fits store hstore).cleared _
  | queriedOutside | queriedSettled | queriedOverflow => exact h
  | @queriedWaiting held sequence store slot hstore hslot hopen =>
    have hsequence := h.sequence_eq hslot
    rw [← hsequence] at hslot
    exact h.revise hslot hopen
  | @queriedEvaluated held sequence store slot slot' hstore hslot hopen hfence hslot' =>
    have hsequence := h.sequence_eq hslot
    subst hslot'
    rw [← hsequence] at hslot
    exact h.revise hslot hopen
  | @queriedCompleted held sequence store slot slot' hstore hslot hopen hfence hslot' =>
    have hsequence := h.sequence_eq hslot
    subst hslot'
    rw [← hsequence] at hslot
    have hrevised : (ring.revise (slot.evaluated
        (store.readings (ring.index slot.sequence)))).WellFormed := h.revise hslot hopen
    rw [← hsequence]
    exact hrevised.told held _
  | forcedOutside | disowned | forcedSettled => exact h
  | @abandoned sequence slot hslot hopen =>
    have hsequence := h.sequence_eq hslot
    rw [← hsequence] at hslot
    exact h.revise hslot hopen
  | audience | cancelled => exact h.withAudience _ _
  | audienceFault | destroyedAgain => exact h
  | destroyed =>
    apply h.withStore
    rintro _ ⟨⟩
  | writeDestroyed | retireDestroyed | retireOverflow => exact h
  | @written engine sequence field datum store hstore =>
    apply h.withStore
    rintro _ ⟨⟩
    exact (h.fits store hstore).withField _ _ _ _
  | @retired sequence store hstore hroom =>
    apply h.withStore
    rintro _ ⟨⟩
    exact (h.fits store hstore).withFence _ _

/-- Is a property of the shared memory kept by whatever is stored there? -/
structure Lasting (P : RecordStore → Prop) : Prop where
  primed : ∀ store index, P store → P (store.primed index)
  cleared : ∀ store index, P store → P (store.cleared index)
  withField : ∀ store engine index field datum,
    P store → P (store.withField engine index field datum)
  withFence : ∀ store index number, P store → P (store.withFence index number)

lemma Step.lasting {P : RecordStore → Prop} (hlasting : Lasting P)
    (h : ∀ store, ring.store = some store → P store) (hstep : Step ring op run) :
    ∀ store, run.state.store = some store → P store := by
  cases hstep with
  | @began _ _ store hstore =>
    rintro _ ⟨⟩
    exact hlasting.primed _ _ (h store hstore)
  | @retried _ store hstore =>
    rintro _ ⟨⟩
    exact hlasting.cleared _ _ (h store hstore)
  | @written _ _ _ _ store hstore =>
    rintro _ ⟨⟩
    exact hlasting.withField _ _ _ _ _ (h store hstore)
  | @retired _ store hstore =>
    rintro _ ⟨⟩
    exact hlasting.withFence _ _ _ (h store hstore)
  | destroyed =>
    rintro _ ⟨⟩
  | _ => exact h

lemma WellFormed.next (h : ring.WellFormed) (op : Op) : (ring.next op).WellFormed := by
  rw [next_eq]
  exact (step h op).wellFormed h

lemma WellFormed.after (h : ring.WellFormed) (ops : List Op) : (ring.after ops).WellFormed :=
  after_induction h (fun _ op hring => hring.next op) ops

/-- What every step of a well-formed ring keeps holds after every run of one. -/
theorem WellFormed.kept_after {P : Ring → Prop} (h : ring.WellFormed) (hnow : P ring)
    (hkept : ∀ ring op run, WellFormed ring → Step ring op run → P ring → P run.state)
    (ops : List Op) : P (ring.after ops) := by
  have hafter : (ring.after ops).WellFormed ∧ P (ring.after ops) := by
    apply after_induction (P := fun ring => ring.WellFormed ∧ P ring) ⟨h, hnow⟩
    rintro ring op ⟨hring, hbefore⟩
    refine ⟨hring.next op, ?_⟩
    rw [next_eq]
    exact hkept ring op _ hring (step hring op) hbefore
  exact hafter.2

theorem WellFormed.noted_after {α : Type} {note? : Op → Except Fault Reply → Option α}
    {P : Ring → List α → Prop} {earlier : List α} (h : ring.WellFormed) (hnow : P ring earlier)
    (hkept : ∀ ring earlier op run, WellFormed ring → Step ring op run → P ring earlier →
      P run.state (earlier ++ (note? op run.trace.result).toList)) (ops : List Op) :
    P (ring.after ops) (earlier ++ noted note? (ring.entries ops)) := by
  have hafter : (ring.after ops).WellFormed ∧
      P (ring.after ops) (earlier ++ noted note? (ring.entries ops)) := by
    apply noted_induction (P := fun ring earlier => ring.WellFormed ∧ P ring earlier) ⟨h, hnow⟩
    rintro ring earlier op ⟨hring, hbefore⟩
    refine ⟨hring.next op, ?_⟩
    rw [next_eq, answer_eq]
    exact hkept ring earlier op _ hring (step hring op) hbefore
  exact hafter.2

theorem IsNew.wellFormed_after (h : ring.IsNew) (ops : List Op) : (ring.after ops).WellFormed :=
  h.wellFormed.after ops

end CompletionRing.Ring
