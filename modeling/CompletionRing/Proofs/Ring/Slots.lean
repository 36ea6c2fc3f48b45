import CompletionRing.Proofs.Ring.Reachable

/-!
# How slots change

A step leaves the slot of a live unit as it is, or puts a new unit there, or goes on with a unit
that is not settled and answers with its snapshot. What left the window does not come back.
-/

namespace CompletionRing.Ring

variable {ring ring' : Ring} {op : Op} {run : Run Ring Reply} {slot slot' before : Slot}
  {sequence : Nat} {store : RecordStore}

/-- What a query or an abandonment of a unit would answer if nothing more was to be found out. -/
def view (ring : Ring) (sequence : Nat) : Snapshot :=
  match ring.slot? sequence with
  | none => .unavailable sequence
  | some slot => slot.snapshot

/-- Was the ring destroyed, or is the unit older than the window? -/
def Gone (ring : Ring) (sequence : Nat) : Prop :=
  ring.store = none ∨ sequence + ring.capacity < ring.submitted

/-- Does the operation destroy the ring? -/
def Op.isDestroy : Op → Bool
  | .destroy _ => true
  | _ => false

lemma Step.isDestroyed_state (hstep : Step ring op run) :
    run.state.isDestroyed = (op.isDestroy || ring.isDestroyed) := by
  cases hstep with
  | began hstore | retried hstore | written hstore | retired hstore =>
    simp only [Ring.isDestroyed, Run.state_done, begun, hstore, Option.isNone_some, Op.isDestroy,
      Bool.or_self]
  | destroyedAgain hstore =>
    simp only [Ring.isDestroyed, Run.state_done, hstore, Option.isNone_none, Bool.or_true]
  | destroyed => rfl
  | _ => rfl

lemma isDestroyed_after (h : ring.WellFormed) (ops : List Op) :
    (ring.after ops).isDestroyed = (ops.any Op.isDestroy || ring.isDestroyed) := by
  induction ops generalizing ring with
  | nil => rfl
  | cons op rest ih =>
    have hnext := (step h op).isDestroyed_state
    rw [← next_eq] at hnext
    rw [after_cons, ih (h.next op), hnext, List.any_cons, ← Bool.or_assoc,
      Bool.or_comm op.isDestroy]

lemma view_eq (hslot : ring.slot? sequence = some slot) : ring.view sequence = slot.snapshot := by
  rw [view, hslot]

lemma view_of_not_holds (h : ¬ring.holds sequence) : ring.view sequence = .unavailable sequence := by
  rw [view, slot?_eq_none h]

lemma Gone.not_holds (h : ring.Gone sequence) : ¬ring.holds sequence := by
  rw [holds_iff]
  rintro ⟨hstore, -, hhigh⟩
  rcases h with hnone | hold
  · rw [hnone] at hstore
    cases hstore
  · omega

lemma gone_of_not_holds (hbegun : sequence < ring.submitted) (h : ¬ring.holds sequence) :
    ring.Gone sequence := by
  rw [holds_iff] at h
  by_cases hstore : ring.store = none
  · exact Or.inl hstore
  · right
    by_contra hyoung
    exact h ⟨Option.isSome_iff_ne_none.mpr hstore, hbegun, Nat.not_lt.mp hyoung⟩

lemma slot?_congr (hcapacity : ring'.capacity = ring.capacity)
    (hstore : ring'.store.isNone = ring.store.isNone) (hslots : ring'.slots = ring.slots)
    (hsubmitted : ring'.submitted = ring.submitted) (sequence : Nat) :
    ring'.slot? sequence = ring.slot? sequence := by
  unfold slot? heldIndex? holds isDestroyed index
  rw [hcapacity, hstore, hslots, hsubmitted]

lemma slot?_withStore {store' : RecordStore} (hstore : ring.store = some store) (sequence : Nat) :
    { ring with store := some store' }.slot? sequence = ring.slot? sequence := by
  apply slot?_congr
  · rfl
  · rw [hstore]
    rfl
  · rfl
  · rfl

lemma slot?_revise (h : ring.WellFormed) (hslot : ring.slot? slot.sequence = some before)
    (sequence : Nat) :
    (ring.revise slot).slot? sequence =
      if sequence = slot.sequence then some slot else ring.slot? sequence :=
  slot?_setSlot h hslot sequence

lemma slot?_begun (h : ring.WellFormed) (hstore : ring.store = some store) (number : UInt32)
    (frame : Option Frame) (hlive : (ring.begun store number frame).holds sequence) :
    (ring.begun store number frame).slot? sequence =
      if sequence = ring.submitted then some (.begun ring.submitted number frame)
      else ring.slot? sequence := by
  obtain ⟨-, hlow, hhigh⟩ := holds_iff.mp hlive
  change sequence < ring.submitted + 1 at hlow
  change ring.submitted + 1 ≤ sequence + ring.capacity at hhigh
  have hlt : ∀ other, ring.index other < ring.slots.size := by
    intro other
    rw [h.size_slots]
    exact h.index_lt other
  have hslots : (ring.begun store number frame).slots =
      (ring.setSlot (.begun ring.submitted number frame)).slots := rfl
  have hindex : (ring.begun store number frame).index sequence = ring.index sequence := rfl
  have hsequence : (Slot.begun ring.submitted number frame).sequence = ring.submitted := rfl
  by_cases hnew : sequence = ring.submitted
  · rw [if_pos hnew, slot?_eq_some_iff, hslots, hindex, slots_setSlot, hsequence, hnew, if_pos rfl,
      if_pos (hlt _)]
    exact ⟨hnew ▸ hlive, rfl⟩
  · have hold : ring.holds sequence := by
      rw [holds_iff, hstore]
      exact ⟨rfl, by omega, by omega⟩
    have hapart : ring.index ring.submitted ≠ ring.index sequence := by
      intro he
      exact hnew (eq_of_mod_eq he.symm hlow hhigh (Nat.lt_succ_self _)
        (Nat.add_le_add_left h.capacity_pos _))
    unfold slot? heldIndex?
    rw [if_neg hnew, if_pos hlive, if_pos hold, Option.bind_some, Option.bind_some, hslots, hindex,
      slots_setSlot, hsequence, if_neg hapart]

lemma slot?_begun_self (h : ring.WellFormed) (hstore : ring.store = some store) (number : UInt32)
    (frame : Option Frame) : (ring.begun store number frame).slot? ring.submitted =
      some (.begun ring.submitted number frame) := by
  have hlive : (ring.begun store number frame).holds ring.submitted :=
    holds_iff.mpr ⟨rfl, Nat.lt_succ_self _, Nat.add_le_add_left h.capacity_pos _⟩
  rw [slot?_begun h hstore number frame hlive, if_pos rfl]

lemma slot?_of_revise (h : ring.WellFormed) (hslot : ring.slot? sequence = some before)
    (slot : Slot) (hsame : slot.sequence = before.sequence) {other : Nat}
    (hslot' : (ring.revise slot).slot? other = some slot') :
    ring.slot? other = some slot' ∨ other = sequence ∧ slot' = slot := by
  have hsequence : slot.sequence = sequence := hsame.trans (h.sequence_eq hslot)
  rw [slot?_revise h (by rwa [hsequence]), hsequence] at hslot'
  by_cases hother : other = sequence
  · rw [if_pos hother] at hslot'
    cases hslot'
    exact Or.inr ⟨hother, rfl⟩
  · rw [if_neg hother] at hslot'
    exact Or.inl hslot'

/-- What an operation makes of the slot of a unit that is not settled. -/
inductive Revision (ring : Ring) (sequence : Nat) (slot : Slot) : Op → Slot → Prop
  | waiting {held store} (hstore : ring.store = some store)
      (hfence : ¬sequence < store.fenceNumber (ring.index sequence)) :
    Revision ring sequence slot (.query held sequence) slot.waiting
  | evaluated {held store} (hstore : ring.store = some store)
      (hfence : sequence < store.fenceNumber (ring.index sequence)) :
    Revision ring sequence slot (.query held sequence)
      (slot.evaluated (store.readings (ring.index sequence)))
  | abandoned : Revision ring sequence slot (.force sequence false) slot.abandoned

/-- After a step the slot of a live unit is the same, or that of a new unit, or a revision of that
of a unit which was not settled and which the step answered for. -/
theorem Step.slot?_origin (h : ring.WellFormed) (hstep : Step ring op run)
    (hslot' : run.state.slot? sequence = some slot') :
    ring.slot? sequence = some slot' ∨
    (sequence = ring.submitted ∧ ∃ number frame, op = .begin number frame ∧
      slot' = .begun sequence number frame) ∨
    ∃ slot, ring.slot? sequence = some slot ∧ slot.stage.isSettled = false ∧
      run.trace.result = .ok (.snapshot slot'.snapshot) ∧ Revision ring sequence slot op slot' := by
  cases hstep with
  | beginDestroyed | beginOverflow | retryDestroyed | retryStale => exact Or.inl hslot'
  | @began number frame store hstore hroom =>
    have hlive := (slot?_eq_some_iff.mp hslot').1
    have hbegun := slot?_begun h hstore number frame hlive
    rw [show (ring.begun store number frame).slot? sequence = some slot' from hslot'] at hbegun
    by_cases hnew : sequence = ring.submitted
    · rw [if_pos hnew, ← hnew] at hbegun
      cases hbegun
      exact Or.inr (Or.inl ⟨hnew, number, frame, rfl, rfl⟩)
    · rw [if_neg hnew] at hbegun
      exact Or.inl hbegun.symm
  | retried hstore hlive =>
    left
    rw [← hslot']
    exact (slot?_withStore hstore sequence).symm
  | queriedOutside | queriedSettled | queriedOverflow => exact Or.inl hslot'
  | @queriedWaiting held other store slot hstore hslot hopen hfence =>
    rcases slot?_of_revise h hslot slot.waiting rfl hslot' with hsame | ⟨rfl, rfl⟩
    · exact Or.inl hsame
    · exact Or.inr (Or.inr ⟨slot, hslot, hopen, rfl, .waiting hstore hfence⟩)
  | @queriedEvaluated held other store slot new hstore hslot hopen hfence hnew =>
    rcases slot?_of_revise h hslot new (by rw [hnew]; rfl) hslot' with hsame | ⟨rfl, rfl⟩
    · exact Or.inl hsame
    · have hrevision : Revision ring sequence slot (.query held sequence) slot' := by
        rw [hnew]
        exact .evaluated hstore hfence
      exact Or.inr (Or.inr ⟨slot, hslot, hopen, rfl, hrevision⟩)
  | @queriedCompleted held other store slot new hstore hslot hopen hfence hnew =>
    rcases slot?_of_revise h hslot new (by rw [hnew]; rfl) hslot' with hsame | ⟨rfl, rfl⟩
    · exact Or.inl hsame
    · have hrevision : Revision ring sequence slot (.query held sequence) slot' := by
        rw [hnew]
        exact .evaluated hstore hfence
      exact Or.inr (Or.inr ⟨slot, hslot, hopen, rfl, hrevision⟩)
  | forcedOutside | disowned | forcedSettled => exact Or.inl hslot'
  | @abandoned other slot hslot hopen =>
    rcases slot?_of_revise h hslot slot.abandoned rfl hslot' with hsame | ⟨rfl, rfl⟩
    · exact Or.inl hsame
    · exact Or.inr (Or.inr ⟨slot, hslot, hopen, rfl, .abandoned⟩)
  | audience | cancelled => exact Or.inl hslot'
  | audienceFault | destroyedAgain => exact Or.inl hslot'
  | destroyed =>
    have hlive := (slot?_eq_some_iff.mp hslot').1
    exact absurd hlive (not_holds_of_store_none rfl)
  | writeDestroyed | retireDestroyed | retireOverflow => exact Or.inl hslot'
  | written hstore =>
    left
    rw [← hslot']
    exact (slot?_withStore hstore sequence).symm
  | retired hstore =>
    left
    rw [← hslot']
    exact (slot?_withStore hstore sequence).symm

lemma Step.forward (hstep : Step ring op run) :
    run.state.capacity = ring.capacity ∧ ring.submitted ≤ run.state.submitted ∧
      (ring.store = none → run.state.store = none) := by
  cases hstep with
  | began hstore | retried hstore | written hstore | retired hstore =>
    refine ⟨rfl, ?_, ?_⟩
    · first | exact Nat.le_succ _ | exact Nat.le_refl _
    · rw [hstore]
      rintro ⟨⟩
  | destroyed => exact ⟨rfl, Nat.le_refl _, fun _ => rfl⟩
  | _ => exact ⟨rfl, Nat.le_refl _, id⟩

lemma Gone.step (h : ring.Gone sequence) (hstep : Step ring op run) : run.state.Gone sequence := by
  obtain ⟨hcapacity, hsubmitted, hstore⟩ := hstep.forward
  rcases h with hnone | hold
  · exact Or.inl (hstore hnone)
  · right
    rw [hcapacity]
    omega

theorem Step.keeps_settled (h : ring.WellFormed) (hstep : Step ring op run)
    (hslot : ring.slot? sequence = some slot) (hsettled : slot.stage.isSettled) :
    run.state.slot? sequence = some slot ∨ run.state.Gone sequence := by
  obtain ⟨-, hbegun, -⟩ := holds_iff.mp (slot?_eq_some_iff.mp hslot).1
  by_cases hlive : run.state.holds sequence
  · obtain ⟨slot', hslot', -⟩ := (hstep.wellFormed h).exists_slot hlive
    rcases hstep.slot?_origin h hslot' with hsame | ⟨hnew, -⟩ | ⟨before, hbefore, hopen, -⟩
    · rw [hslot] at hsame
      cases hsame
      exact Or.inl hslot'
    · omega
    · rw [hslot] at hbefore
      cases hbefore
      rw [hsettled] at hopen
      cases hopen
  · obtain ⟨-, hsubmitted, -⟩ := hstep.forward
    exact Or.inr (gone_of_not_holds (by omega) hlive)

/-- Are the live units with a slot of such a stage the ones of the list? -/
structure Marks (ring : Ring) (p : Stage → Prop) (earlier : List Nat) : Prop where
  begun : ∀ sequence ∈ earlier, sequence < ring.submitted
  marked : ∀ sequence slot, ring.slot? sequence = some slot → (p slot.stage ↔ sequence ∈ earlier)

/-- Which units have a settled slot of some kind is known from the answers, if an answer tells of
each slot that comes to be of that kind. -/
theorem Step.marks {p : Stage → Prop} {earlier : List Nat} {told : Option Nat}
    (h : ring.WellFormed) (hmarks : ring.Marks p earlier) (hstep : Step ring op run)
    (hsettled : ∀ stage, p stage → stage.isSettled)
    (htold : ∀ sequence, told = some sequence →
      ∃ slot, run.state.slot? sequence = some slot ∧ p slot.stage)
    (hrevised : ∀ sequence slot slot', Revision ring sequence slot op slot' →
      run.trace.result = .ok (.snapshot slot'.snapshot) → p slot'.stage → told = some sequence) :
    run.state.Marks p (earlier ++ told.toList) := by
  obtain ⟨-, hsubmitted, -⟩ := hstep.forward
  constructor
  · intro sequence hmem
    rcases List.mem_append.mp hmem with hbefore | hnow
    · have hbegun := hmarks.begun sequence hbefore
      omega
    · obtain ⟨slot, hslot, -⟩ := htold sequence (Option.mem_toList.mp hnow)
      exact (holds_iff.mp (slot?_eq_some_iff.mp hslot).1).2.1
  · intro sequence slot' hslot'
    have hnow : sequence ∈ told.toList → p slot'.stage := by
      intro hmem
      obtain ⟨slot, hslot, hstage⟩ := htold sequence (Option.mem_toList.mp hmem)
      rw [hslot'] at hslot
      cases hslot
      exact hstage
    have hopened : ∀ stage : Stage, stage.isSettled = false → ¬p stage := by
      intro stage hopen hstage
      rw [hsettled stage hstage] at hopen
      cases hopen
    rw [List.mem_append]
    rcases hstep.slot?_origin h hslot' with
      hsame | ⟨hnew, number, frame, -, rfl⟩ | ⟨slot, hslot, hopen, hanswer, hrevision⟩
    · rw [hmarks.marked sequence slot' hsame]
      constructor
      · exact Or.inl
      · rintro (hbefore | hmem)
        · exact hbefore
        · exact (hmarks.marked sequence slot' hsame).mp (hnow hmem)
    · constructor
      · intro hstage
        exact absurd hstage (hopened _ rfl)
      · rintro (hbefore | hmem)
        · have hbegun := hmarks.begun sequence hbefore
          omega
        · exact hnow hmem
    · -- The answer is the first to tell of a unit that is still open.
      have hfirst : sequence ∉ earlier := by
        rw [← hmarks.marked sequence slot hslot]
        exact hopened _ hopen
      constructor
      · intro hstage
        exact Or.inr (Option.mem_toList.mpr (hrevised sequence slot slot' hrevision hanswer hstage))
      · rintro (hbefore | hmem)
        · exact absurd hbefore hfirst
        · exact hnow hmem

/-! ### Answers -/

lemma slot?_revise_self (h : ring.WellFormed) (hslot : ring.slot? sequence = some before)
    (slot : Slot) (hsame : slot.sequence = before.sequence) :
    (ring.revise slot).slot? sequence = some slot := by
  have hsequence : slot.sequence = sequence := hsame.trans (h.sequence_eq hslot)
  rw [slot?_revise h (by rwa [hsequence]), if_pos hsequence.symm]

lemma view_revise (h : ring.WellFormed) (hslot : ring.slot? sequence = some before) (slot : Slot)
    (hsame : slot.sequence = before.sequence) :
    (ring.revise slot).view sequence = slot.snapshot :=
  view_eq (slot?_revise_self h hslot slot hsame)

theorem Step.answer_query {held : Frame → Bool} (h : ring.WellFormed)
    (hstep : Step ring (.query held sequence) run) :
    run.trace.result = .ok (.snapshot (run.state.view sequence)) ∨
      run.trace.result = .error .overflow ∧ run.state = ring := by
  cases hstep with
  | queriedOutside hlive =>
    left
    rw [Run.trace_done, Traced.result_pure, Run.state_done, view_of_not_holds hlive]
  | queriedSettled hslot =>
    left
    rw [Run.trace_done, Traced.result_pure, Run.state_done, view_eq hslot]
  | @queriedWaiting _ _ store slot hstore hslot =>
    left
    rw [Run.trace_done, Traced.result_pure, Run.state_done, view_revise h hslot slot.waiting rfl]
  | @queriedEvaluated _ _ store slot slot' hstore hslot hopen hfence hslot' =>
    left
    rw [Run.trace_done, Traced.result_pure, Run.state_done,
      view_revise h hslot slot' (by rw [hslot']; rfl)]
  | @queriedCompleted _ _ store slot slot' hstore hslot hopen hfence hslot' =>
    left
    have hview : ((ring.revise slot').told held slot'.snapshot).view sequence = slot'.snapshot :=
      view_revise h hslot slot' (by rw [hslot']; rfl)
    rw [hview]
  | queriedOverflow => exact Or.inr ⟨rfl, rfl⟩

lemma Step.view_of_query {held : Frame → Bool} {snapshot : Snapshot} (h : ring.WellFormed)
    (hstep : Step ring (.query held sequence) run)
    (hanswer : run.trace.result = .ok (.snapshot snapshot)) :
    run.state.view sequence = snapshot := by
  rcases hstep.answer_query h with hview | ⟨hfault, -⟩
  · rw [hview, Except.ok.injEq, Reply.snapshot.injEq] at hanswer
    exact hanswer
  · rw [hfault] at hanswer
    cases hanswer

lemma Step.query_outside {held : Frame → Bool} (hstep : Step ring (.query held sequence) run)
    (hdead : ¬ring.holds sequence) : run = .done ring (.snapshot (.unavailable sequence)) := by
  cases hstep with
  | queriedOutside => rfl
  | queriedSettled hslot => exact absurd (slot?_eq_some_iff.mp hslot).1 hdead
  | queriedWaiting _ hslot => exact absurd (slot?_eq_some_iff.mp hslot).1 hdead
  | queriedEvaluated _ hslot => exact absurd (slot?_eq_some_iff.mp hslot).1 hdead
  | queriedCompleted _ hslot => exact absurd (slot?_eq_some_iff.mp hslot).1 hdead
  | queriedOverflow _ hslot => exact absurd (slot?_eq_some_iff.mp hslot).1 hdead

theorem Step.answer_abandon (h : ring.WellFormed) (hstep : Step ring (.force sequence false) run) :
    run.trace.result = .ok (.snapshot (run.state.view sequence)) ∧
      ∀ slot, run.state.slot? sequence = some slot → slot.stage.isSettled := by
  cases hstep with
  | forcedOutside hlive =>
    constructor
    · rw [Run.trace_done, Traced.result_pure, Run.state_done, view_of_not_holds hlive]
    · intro slot hslot
      exact absurd (slot?_eq_some_iff.mp hslot).1 hlive
  | forcedSettled hslot hsettled =>
    constructor
    · rw [Run.trace_done, Traced.result_pure, Run.state_done, view_eq hslot]
    · intro slot' hslot'
      rw [Run.state_done, hslot] at hslot'
      cases hslot'
      exact hsettled
  | @abandoned _ slot hslot hopen =>
    constructor
    · rw [Run.trace_done, Traced.result_pure, Run.state_done,
        view_revise h hslot slot.abandoned rfl]
    · intro slot' hslot'
      rw [Run.state_done, slot?_revise_self h hslot slot.abandoned rfl] at hslot'
      cases hslot'
      rfl

end CompletionRing.Ring
