import CompletionRing.Proofs.Ring.Slots

/-!
# Fence words

A fence word names the unit that retired last at its index. As long as the device retires only
units that were begun, the gate of a live unit is open just when it is this unit, and so a unit is
never resolved before its own retirement.
-/

namespace CompletionRing.Ring

/-- The unit that an operation lets retire. -/
def Op.retires? : Op → Option Nat
  | .retire sequence => some sequence
  | _ => none

/-- The unit that an operation let retire. A destroyed ring has no fence that could say so. -/
def retired? : Op → Except Fault Reply → Option Nat
  | .retire sequence, .ok (.retired (some _)) => some sequence
  | _, _ => none

/-- The units that retired in a run, in order and as often as they did. -/
def retirements (entries : List Entry) : List Nat := noted retired? entries

/-- Does the device let units retire only once they were begun? -/
def retiresBegun (ring : Ring) : List Op → Bool
  | [] => true
  | op :: rest => op.retires?.all (· < ring.submitted) && (ring.next op).retiresBegun rest

/-- The last of some units with an index. -/
def lastAt? (ring : Ring) (units : List Nat) (index : Nat) : Option Nat :=
  (units.filter (ring.index · = index)).getLast?

/-- Do the fence words and the slots follow from the units that retired so far? -/
structure Gated (ring : Ring) (retired : List Nat) : Prop where
  begun : ∀ sequence ∈ retired, sequence < ring.submitted
  /-- The word at an index is the number after that of the unit that retired there last. -/
  fences : ∀ store, ring.store = some store → ∀ index, index < ring.capacity →
    store.fenceNumber index = (ring.lastAt? retired index).elim 0 (· + 1)
  /-- What the records say of a unit is not looked at before it retires. -/
  unseen : ∀ sequence slot, ring.slot? sequence = some slot → sequence ∉ retired →
    slot.snapshot.status.isTerminal = false ∧ slot.reports = []

variable {ring ring' : Ring} {op : Op} {run : Run Ring Reply} {sequence index : Nat}
  {slot slot' : Slot} {store : RecordStore} {retired : List Nat}

lemma lastAt?_append (ring : Ring) (units : List Nat) (sequence index : Nat) :
    ring.lastAt? (units ++ [sequence]) index =
      if index = ring.index sequence then some sequence else ring.lastAt? units index := by
  unfold lastAt?
  by_cases hindex : index = ring.index sequence
  · rw [if_pos hindex, List.filter_append,
      List.filter_cons_of_pos (by simpa using hindex.symm), List.filter_nil,
      List.getLast?_append, List.getLast?_singleton, Option.some_or]
  · rw [if_neg hindex, List.filter_append,
      List.filter_cons_of_neg (by simpa using Ne.symm hindex), List.filter_nil, List.append_nil]

lemma of_lastAt? {units : List Nat} (h : ring.lastAt? units index = some sequence) :
    sequence ∈ units ∧ ring.index sequence = index := by
  simpa using List.mem_filter.mp (List.mem_of_getLast? h)

lemma lastAt?_congr (hcapacity : ring'.capacity = ring.capacity) (units : List Nat)
    (index : Nat) : ring'.lastAt? units index = ring.lastAt? units index := by
  unfold lastAt? Ring.index
  rw [hcapacity]

/-- The gate of a live unit is open just when it is the unit that retired last at its index. -/
theorem Gated.lt_fence_iff (h : ring.WellFormed) (hgated : ring.Gated retired)
    (hstore : ring.store = some store) (hlive : ring.holds sequence) :
    sequence < store.fenceNumber (ring.index sequence) ↔
      ring.lastAt? retired (ring.index sequence) = some sequence := by
  rw [hgated.fences store hstore _ (h.index_lt sequence)]
  cases hlast : ring.lastAt? retired (ring.index sequence) with
  | none => simp
  | some last =>
    rw [Option.elim_some, Option.some.injEq]
    constructor
    · intro hlt
      -- The window leaves no room for a younger unit with the same index.
      obtain ⟨hmem, hindex⟩ := of_lastAt? hlast
      obtain ⟨-, hbegun, hyoung⟩ := holds_iff.mp hlive
      have hlast' := hgated.begun last hmem
      exact eq_of_mod_eq hindex hlast' (by omega) hbegun hyoung
    · rintro rfl
      exact Nat.lt_succ_self last

lemma Gated.not_lt_fence (h : ring.WellFormed) (hgated : ring.Gated retired)
    (hstore : ring.store = some store) (hlive : ring.holds sequence) (hnot : sequence ∉ retired) :
    ¬sequence < store.fenceNumber (ring.index sequence) := by
  rw [hgated.lt_fence_iff h hstore hlive]
  intro hlast
  exact hnot (of_lastAt? hlast).1

/-! ### Steps -/

lemma retired?_eq_some {answer : Except Fault Reply} (h : retired? op answer = some sequence) :
    op = .retire sequence ∧ ∃ index, answer = .ok (.retired (some index)) := by
  unfold retired? at h
  split at h
  · next index =>
    cases h
    exact ⟨rfl, index, rfl⟩
  · cases h

lemma Step.fenceNumber {store' : RecordStore} (h : ring.WellFormed) (hstep : Step ring op run)
    (hstore' : run.state.store = some store') :
    ∃ store, ring.store = some store ∧ ∀ index, store'.fenceNumber index =
      match retired? op run.trace.result with
      | some sequence =>
        if index = ring.index sequence then sequence + 1 else store.fenceNumber index
      | none => store.fenceNumber index := by
  cases hstep with
  | @began _ _ store hstore =>
    cases hstore'
    exact ⟨store, hstore, store.fenceNumber_primed _⟩
  | @retried _ store hstore =>
    cases hstore'
    exact ⟨store, hstore, store.fenceNumber_cleared _⟩
  | @written _ _ _ _ store hstore =>
    cases hstore'
    exact ⟨store, hstore, store.fenceNumber_withField _ _ _ _⟩
  | @retired sequence store hstore hroom =>
    cases hstore'
    exact ⟨store, hstore,
      RecordStore.fenceNumber_withFence (h.fits store hstore) (h.index_lt sequence) hroom⟩
  | destroyed => cases hstore'
  | _ => exact ⟨store', hstore', fun _ => rfl⟩

lemma Step.gated (h : ring.WellFormed) (hgated : ring.Gated retired) (hstep : Step ring op run)
    (hbegun : op.retires?.all (· < ring.submitted)) :
    run.state.Gated (retired ++ (retired? op run.trace.result).toList) := by
  obtain ⟨hcapacity, hsubmitted, -⟩ := hstep.forward
  constructor
  · intro sequence hmem
    rcases List.mem_append.mp hmem with hbefore | hnow
    · have hearlier := hgated.begun sequence hbefore
      omega
    · obtain ⟨rfl, -⟩ := retired?_eq_some (Option.mem_toList.mp hnow)
      have hlt : sequence < ring.submitted := by simpa [Op.retires?] using hbegun
      omega
  · intro store' hstore' index hindex
    obtain ⟨store, hstore, hfence⟩ := hstep.fenceNumber h hstore'
    have hbefore := hgated.fences store hstore index (hcapacity ▸ hindex)
    rw [hfence, lastAt?_congr hcapacity]
    cases hretired : retired? op run.trace.result with
    | none =>
      rw [Option.toList_none, List.append_nil]
      exact hbefore
    | some sequence =>
      simp only [Option.toList_some, lastAt?_append]
      by_cases hsame : index = ring.index sequence
      · rw [if_pos hsame, if_pos hsame, Option.elim_some]
      · rw [if_neg hsame, if_neg hsame, hbefore]
  · intro sequence slot' hslot' hunretired
    have hnot : sequence ∉ retired := fun hmem => hunretired (List.mem_append_left _ hmem)
    rcases hstep.slot?_origin h hslot' with
      hsame | ⟨-, number, frame, -, rfl⟩ | ⟨slot, hslot, hopen, -, hrevision⟩
    · exact hgated.unseen sequence slot' hsame hnot
    · exact ⟨rfl, rfl⟩
    · obtain ⟨-, hreports⟩ := hgated.unseen sequence slot hslot hnot
      cases hrevision with
      | waiting => exact ⟨rfl, hreports⟩
      | evaluated hstore hfence =>
        have hlive := (slot?_eq_some_iff.mp hslot).1
        exact absurd hfence (hgated.not_lt_fence h hstore hlive hnot)
      | abandoned => exact ⟨rfl, hreports⟩

lemma gated_after (h : ring.WellFormed) (hgated : ring.Gated retired) {ops : List Op}
    (hbegun : ring.retiresBegun ops) :
    (ring.after ops).Gated (retired ++ retirements (ring.entries ops)) := by
  -- What the rest of the run may retire depends on the ring, so `noted_after` does not apply.
  induction ops generalizing ring retired with
  | nil =>
    rw [entries, retirements, noted, List.filterMap_nil, List.append_nil]
    exact hgated
  | cons op rest ih =>
    rw [retiresBegun, Bool.and_eq_true] at hbegun
    obtain ⟨hnow, hlater⟩ := hbegun
    rw [retirements, noted_entries_cons, ← List.append_assoc]
    apply ih (h.next op) _ hlater
    rw [next_eq, answer_eq]
    exact (step h op).gated h hgated hnow

lemma IsNew.gated (hnew : ring.IsNew) : ring.Gated [] := by
  obtain ⟨setup, pool, pool', hcreate⟩ := hnew
  obtain ⟨-, store, rfl, -, hzero, -⟩ := fresh_of_create hcreate
  constructor
  · intro sequence hmem
    cases hmem
  · rintro _ ⟨⟩ index -
    exact hzero index
  · intro sequence slot hslot
    obtain ⟨-, hbegun, -⟩ := holds_iff.mp (slot?_eq_some_iff.mp hslot).1
    exact absurd hbegun (Nat.not_lt_zero sequence)

lemma IsNew.gated_after (hnew : ring.IsNew) {ops : List Op} (hbegun : ring.retiresBegun ops) :
    (ring.after ops).Gated (retirements (ring.entries ops)) := by
  have hgated := Ring.gated_after hnew.wellFormed hnew.gated hbegun
  rwa [List.nil_append] at hgated

/-! ### Answers -/

lemma status_of_settled (hsettled : slot.stage.isSettled)
    (hopen : slot.snapshot.status.isTerminal = false) : slot.snapshot.status = .incomplete := by
  change slot.stage.status.isTerminal = false at hopen
  change slot.stage.status = .incomplete
  cases hstage : slot.stage <;>
    simp_all [Stage.isSettled, Stage.status, Status.isTerminal]

/-- A query tells of a unit nothing that the device did not let it see. -/
lemma Step.query_seen {held : Frame → Bool} {snapshot : Snapshot} (h : ring.WellFormed)
    (hgated : ring.Gated retired) (hstep : Step ring (.query held sequence) run)
    (hanswer : run.trace.result = .ok (.snapshot snapshot))
    (hseen : snapshot.status.isTerminal ∨ snapshot.reports ≠ []) : sequence ∈ retired := by
  have hnone : retired? (.query held sequence) run.trace.result = none := rfl
  have hnext := hstep.gated h hgated rfl
  rw [hnone, Option.toList_none, List.append_nil] at hnext
  rw [← hstep.view_of_query h hanswer, view] at hseen
  cases hslot : run.state.slot? sequence with
  | none => simp [hslot, Snapshot.unavailable, Status.isTerminal] at hseen
  | some slot =>
    by_contra hnot
    obtain ⟨hopen, hreports⟩ := hnext.unseen sequence slot hslot hnot
    rw [hslot] at hseen
    rcases hseen with hterminal | hreports'
    · rw [hopen] at hterminal
      cases hterminal
    · exact hreports' hreports

lemma Step.query_unretired {held : Frame → Bool} (h : ring.WellFormed)
    (hgated : ring.Gated retired) (hstep : Step ring (.query held sequence) run)
    (hlive : ring.holds sequence) (hnot : sequence ∉ retired) :
    ∃ number frame, run.trace.result =
      .ok (.snapshot ⟨sequence, some number, frame, .incomplete, []⟩) := by
  cases hstep with
  | queriedOutside hdead => exact absurd hlive hdead
  | @queriedSettled _ _ slot hslot hsettled =>
    obtain ⟨hopen, hreports⟩ := hgated.unseen sequence slot hslot hnot
    have hsnapshot : slot.snapshot = ⟨sequence, some slot.number, slot.frame, .incomplete, []⟩ := by
      rw [← status_of_settled hsettled hopen, ← hreports, ← h.sequence_eq hslot]
      rfl
    exact ⟨slot.number, slot.frame, by rw [hsnapshot]; rfl⟩
  | @queriedWaiting _ _ store slot hstore hslot =>
    obtain ⟨-, hreports⟩ := hgated.unseen sequence slot hslot hnot
    have hsnapshot : slot.waiting.snapshot =
        ⟨sequence, some slot.number, slot.frame, .incomplete, []⟩ := by
      rw [← hreports, ← h.sequence_eq hslot]
      rfl
    exact ⟨slot.number, slot.frame, by rw [hsnapshot]; rfl⟩
  | queriedEvaluated hstore _ _ hfence =>
    exact absurd hfence (hgated.not_lt_fence h hstore hlive hnot)
  | queriedCompleted hstore _ _ hfence =>
    exact absurd hfence (hgated.not_lt_fence h hstore hlive hnot)
  | queriedOverflow hstore _ _ hfence =>
    exact absurd hfence (hgated.not_lt_fence h hstore hlive hnot)

/-- A query resolves a unit, or shows reports on it, only if this unit itself retired before. Until
then it is incomplete for as long as it is live, whatever the device wrote to its records and
whichever other units retired at its index. -/
theorem resolved_once_retired (hnew : ring.IsNew) (ops : List Op)
    (hbegun : ring.retiresBegun ops) (sequence : Nat) (held : Frame → Bool) :
    (∀ snapshot, (ring.after ops).answer (.query held sequence) = .ok (.snapshot snapshot) →
      snapshot.status.isTerminal ∨ snapshot.reports ≠ [] →
        sequence ∈ retirements (ring.entries ops)) ∧
    ((ring.after ops).holds sequence → sequence ∉ retirements (ring.entries ops) →
      ∃ number frame, (ring.after ops).answer (.query held sequence) =
        .ok (.snapshot ⟨sequence, some number, frame, .incomplete, []⟩)) := by
  have h := hnew.wellFormed_after ops
  have hgated := hnew.gated_after hbegun
  have hstep := step h (.query held sequence)
  constructor
  · intro snapshot hanswer hseen
    rw [answer_eq] at hanswer
    exact hstep.query_seen h hgated hanswer hseen
  · intro hlive hnot
    rw [answer_eq]
    exact hstep.query_unretired h hgated hlive hnot

/-- The first of two units with one index retires when the second one is begun, and the second one
looks as if it were done. -/
def lateRetirement : List Op :=
  [.begin 7 none, .begin 8 none, .write ⟨0⟩ 1 .marker doneMarker, .retire 0]

theorem resolved_once_retired_single :
    1 ∈ retirements (single.entries (lateRetirement ++ [.retire 1])) ∧
    ∃ number frame, (single.after lateRetirement).answer (.query (fun _ => true) 1) =
      .ok (.snapshot ⟨1, some number, frame, .incomplete, []⟩) := by
  obtain ⟨hresolved, -⟩ := resolved_once_retired isNew_single (lateRetirement ++ [.retire 1]) rfl 1
    (fun _ => true)
  obtain ⟨-, hwaiting⟩ := resolved_once_retired isNew_single lateRetirement rfl 1 (fun _ => true)
  constructor
  · exact hresolved _ rfl (Or.inl rfl)
  · exact hwaiting rfl (by decide)

end CompletionRing.Ring
