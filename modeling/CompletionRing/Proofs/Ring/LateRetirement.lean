import CompletionRing.Proofs.Ring.Fences
import CompletionRing.Proofs.Ring.Latching

/-!
# Late retirements

A unit can retire after it was evicted, and then the fence word at its index names an old unit
again. This takes the retirement of the unit back that lives at this index now, unless somebody
asked for it in time. No other unit is answered differently.
-/

namespace CompletionRing.Ring

/-- The answer of a query that found these reports: a success can be announced unless its refusals
are too many to count. -/
def verdict (ring : Ring) (held : Frame → Bool) (slot : Slot) : Except Fault Reply :=
  if slot.stage = .completed ∧
      ¬ring.refusals + (ring.audience.told held slot.snapshot).1.failures.length < UInt64.size then
    .error .overflow
  else .ok (.snapshot slot.snapshot)

variable {ring : Ring} {run : Run Ring Reply} {sequence late : Nat} {slot : Slot}
  {store : RecordStore} {held : Frame → Bool}

lemma Step.query_of_open (hstep : Step ring (.query held sequence) run)
    (hstore : ring.store = some store) (hslot : ring.slot? sequence = some slot)
    (hopen : slot.stage.isSettled = false) :
    run.trace.result =
      if sequence < store.fenceNumber (ring.index sequence) then
        ring.verdict held (slot.evaluated (store.readings (ring.index sequence)))
      else .ok (.snapshot slot.waiting.snapshot) := by
  have hstores : ∀ store', ring.store = some store' → store' = store := by
    intro store' hstore'
    rw [hstore, Option.some.injEq] at hstore'
    exact hstore'.symm
  have hslots : ∀ slot', ring.slot? sequence = some slot' → slot' = slot := by
    intro slot' hslot'
    rw [hslot, Option.some.injEq] at hslot'
    exact hslot'.symm
  cases hstep with
  | queriedOutside hlive => exact absurd (slot?_eq_some_iff.mp hslot).1 hlive
  | queriedSettled hslot' hsettled => exact (not_open hslot' hsettled hslot hopen).elim
  | queriedWaiting hstore' hslot' _ hfence =>
    rw [← hstores _ hstore', ← hslots _ hslot', if_neg hfence]
    rfl
  | queriedEvaluated hstore' hslot' _ hfence hevaluated hstage =>
    rw [← hstores _ hstore', ← hslots _ hslot', if_pos hfence, ← hevaluated, verdict,
      if_neg fun hfull => hstage hfull.1]
    rfl
  | queriedCompleted hstore' hslot' _ hfence hevaluated hstage hroom =>
    rw [← hstores _ hstore', ← hslots _ hslot', if_pos hfence, ← hevaluated, verdict,
      if_neg fun hfull => hfull.2 hroom]
  | queriedOverflow hstore' hslot' _ hfence hevaluated hstage hfull =>
    rw [← hstores _ hstore', ← hslots _ hslot', if_pos hfence, ← hevaluated, verdict,
      if_pos ⟨hstage, hfull⟩]

lemma readings_withFence (store : RecordStore) (index number index' : Nat) :
    (store.withFence index number).readings index' = store.readings index' := by
  have hvalue : ∀ engine, (store.withFence index number).value engine index' =
      store.value engine index' := by
    intro engine
    funext field
    exact RecordStore.value_withFence _ _ _ _ _ _
  unfold RecordStore.readings
  simp only [RecordStore.layouts_withFence, hvalue]

lemma answer_retire_of_open (h : ring.WellFormed) (hstore : ring.store = some store)
    (hslot : ring.slot? sequence = some slot) (hopen : slot.stage.isSettled = false)
    (hroom : late + 1 < UInt64.size) :
    (ring.next (.retire late)).answer (.query held sequence) =
      if sequence < (if ring.index sequence = ring.index late then late + 1
          else store.fenceNumber (ring.index sequence)) then
        ring.verdict held (slot.evaluated (store.readings (ring.index sequence)))
      else .ok (.snapshot slot.waiting.snapshot) := by
  have hnext := h.next (.retire late)
  rw [next_retire h hstore hroom] at hnext ⊢
  have hslot' : { ring with store := some (store.withFence (ring.index late) (late + 1)) }.slot?
      sequence = some slot := by
    rw [slot?_withStore hstore]
    exact hslot
  have hanswer := (step hnext (.query held sequence)).query_of_open rfl hslot' hopen
  have hfence := RecordStore.fenceNumber_withFence (h.fits store hstore) (h.index_lt late) hroom
    (ring.index sequence)
  rw [answer_eq, hanswer, readings_withFence, ← hfence]
  rfl

lemma answer_retire_of_settled (h : ring.WellFormed) (hstore : ring.store = some store)
    (hslot : ring.slot? sequence = some slot) (hsettled : slot.stage.isSettled)
    (hroom : late + 1 < UInt64.size) :
    (ring.next (.retire late)).answer (.query held sequence) =
      ring.answer (.query held sequence) := by
  have hnext := h.next (.retire late)
  have hkept : (ring.next (.retire late)).slot? sequence = some slot := by
    rw [next_retire h hstore hroom, slot?_withStore hstore]
    exact hslot
  rw [answer_eq, answer_eq, (step hnext (.query held sequence)).query_of_settled hkept hsettled,
    (step h (.query held sequence)).query_of_settled hslot hsettled]

/-- An evicted unit is older than every live one, so its retirement shuts the gate at its index. -/
lemma Gated.answer_retire {retired : List Nat} (h : ring.WellFormed) (hgated : ring.Gated retired)
    (hevicted : late + ring.capacity < ring.submitted)
    (hslot : ring.slot? sequence = some slot) :
    (ring.next (.retire late)).answer (.query held sequence) =
      if ring.index late = ring.index sequence ∧
          ring.lastAt? retired (ring.index sequence) = some sequence ∧
          slot.stage.isSettled = false then
        .ok (.snapshot slot.waiting.snapshot)
      else ring.answer (.query held sequence) := by
  have hlive := (slot?_eq_some_iff.mp hslot).1
  obtain ⟨store, hstore⟩ := exists_store hlive
  obtain ⟨-, -, hyoung⟩ := holds_iff.mp hlive
  have hlt := h.submitted_lt
  have hroom : late + 1 < UInt64.size := by omega
  cases hopen : slot.stage.isSettled with
  | true =>
    rw [answer_retire_of_settled h hstore hslot hopen hroom]
    simp
  | false =>
    have hbefore := (step h (.query held sequence)).query_of_open hstore hslot hopen
    rw [← answer_eq] at hbefore
    have hgate := hgated.lt_fence_iff h hstore hlive
    rw [answer_retire_of_open h hstore hslot hopen hroom, hbefore]
    by_cases hindex : ring.index late = ring.index sequence
    · have hshut : ¬sequence < late + 1 := by omega
      rw [if_pos hindex.symm, if_neg hshut]
      by_cases hlast : ring.lastAt? retired (ring.index sequence) = some sequence
      · rw [if_pos ⟨hindex, hlast, rfl⟩]
      · rw [if_neg (mt hgate.mp hlast), ite_self]
    · rw [if_neg (Ne.symm hindex)]
      simp only [hindex, false_and, if_false]

/-- The retirement of an evicted unit changes the answer for a live unit just in one case: the
live unit has the same index, was the last one that retired there, and was not settled yet. It is
answered as incomplete then, with the reports it had before. -/
theorem answer_after_late_retirement (hnew : ring.IsNew) (ops : List Op)
    (hbegun : ring.retiresBegun ops) (late sequence : Nat) (held : Frame → Bool)
    (hevicted : late + (ring.after ops).capacity < (ring.after ops).submitted)
    (hlive : (ring.after ops).holds sequence) :
    ∃ slot, (ring.after ops).slot? sequence = some slot ∧
      ((ring.after ops).next (.retire late)).answer (.query held sequence) =
        if (ring.after ops).index late = (ring.after ops).index sequence ∧
            (ring.after ops).lastAt? (retirements (ring.entries ops))
              ((ring.after ops).index sequence) = some sequence ∧
            slot.stage.isSettled = false then
          .ok (.snapshot { slot.snapshot with status := .incomplete })
        else (ring.after ops).answer (.query held sequence) := by
  have h := hnew.wellFormed_after ops
  obtain ⟨slot, hslot, -⟩ := h.exists_slot hlive
  exact ⟨slot, hslot, (hnew.gated_after hbegun).answer_retire h hevicted hslot⟩

/-- Two units with one index, of which the second one is done when it retires. -/
def retiredInTime : List Op :=
  [.begin 7 none, .begin 8 none, .write ⟨0⟩ 1 .marker doneMarker, .retire 1]

theorem answer_after_late_retirement_single :
    ∃ slot, (single.after retiredInTime).slot? 1 = some slot ∧
      ((single.after retiredInTime).next (.retire 0)).answer (.query (fun _ => true) 1) =
        .ok (.snapshot { slot.snapshot with status := .incomplete }) := by
  obtain ⟨slot, hslot, hanswer⟩ := answer_after_late_retirement isNew_single retiredInTime rfl 0 1
    (fun _ => true) (by decide) rfl
  have hbegun : (single.after retiredInTime).slot? 1 = some (.begun 1 8 none) := rfl
  rw [hbegun] at hslot
  cases hslot
  exact ⟨_, hbegun, hanswer⟩

/-- A unit that retired and is done is answered as successful, and as incomplete once the unit
which was evicted from its index has retired after it. -/
theorem late_retirement_takes_back :
    single.IsNew ∧ single.retiresBegun (retiredInTime ++ [.retire 0]) ∧
    0 + (single.after retiredInTime).capacity < (single.after retiredInTime).submitted ∧
    (single.after retiredInTime).holds 1 ∧
    (single.after retiredInTime).answer (.query (fun _ => true) 1) =
      .ok (.snapshot ⟨1, some 8, none, .successful, [⟨⟨0⟩, .ran, 0, some 0, none, [0]⟩]⟩) ∧
    ((single.after retiredInTime).next (.retire 0)).answer (.query (fun _ => true) 1) =
      .ok (.snapshot ⟨1, some 8, none, .incomplete, []⟩) :=
  ⟨isNew_single, rfl, by decide, rfl, rfl, rfl⟩

end CompletionRing.Ring
