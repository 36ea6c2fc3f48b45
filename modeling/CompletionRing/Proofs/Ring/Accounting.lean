import CompletionRing.Proofs.Ring.Latching
import CompletionRing.Proofs.Ring.Occupancy
import Mathlib.Data.List.Perm.Basic

/-!
# Accounting

A unit is counted as reported when it leaves: once it was answered terminally, once it was given
up, or once its slot was given to another unit, whichever comes first. The outstanding units are
those of the window that have not left.
-/

namespace CompletionRing.Ring

/-- The unit that an answer settles: a query answers a terminal status, or the unit is given up. -/
def settled? : Op → Except Fault Reply → Option Nat
  | .query _ sequence, .ok (.snapshot snapshot) =>
    if snapshot.status.isTerminal then some sequence else none
  | .force sequence false, .ok (.snapshot snapshot) =>
    if snapshot.status = .incomplete then some sequence else none
  | _, _ => none

/-- The units that were settled in a run, as often as an answer said so. -/
def settlements (entries : List Entry) : List Nat := noted settled? entries

/-- Was a later unit begun in the slot of the unit? -/
def isOverwritten (ring : Ring) (sequence : Nat) : Bool := sequence + ring.capacity < ring.submitted

/-- Are the settled slots those of the units of the list? This is asked of a destroyed ring too. -/
structure Settles (ring : Ring) (settled : List Nat) : Prop where
  begun : ∀ sequence ∈ settled, sequence < ring.submitted
  slots : ∀ slot, some slot ∈ ring.slots → (slot.stage.isSettled ↔ slot.sequence ∈ settled)

variable {ring : Ring} {op : Op} {run : Run Ring Reply} {sequence : Nat} {slot : Slot}
  {settled : List Nat}

/-! ### Settled slots -/

lemma settled?_eq_some {answer : Except Fault Reply} (h : settled? op answer = some sequence) :
    ∃ snapshot, answer = .ok (.snapshot snapshot) ∧
      ((∃ held, op = .query held sequence) ∧ snapshot.status.isTerminal ∨
        op = .force sequence false ∧ snapshot.status = .incomplete) := by
  unfold settled? at h
  split at h
  · next held other snapshot =>
    by_cases hterminal : snapshot.status.isTerminal
    · rw [if_pos hterminal] at h
      cases h
      exact ⟨snapshot, rfl, Or.inl ⟨⟨held, rfl⟩, hterminal⟩⟩
    · rw [if_neg hterminal] at h
      cases h
  · next other snapshot =>
    by_cases hincomplete : snapshot.status = .incomplete
    · rw [if_pos hincomplete] at h
      cases h
      exact ⟨snapshot, rfl, Or.inr ⟨rfl, hincomplete⟩⟩
    · rw [if_neg hincomplete] at h
      cases h
  · cases h

lemma Step.settled_of_answer (h : ring.WellFormed) (hstep : Step ring op run)
    (hsettled : settled? op run.trace.result = some sequence) :
    ∃ slot, run.state.slot? sequence = some slot ∧ slot.stage.isSettled := by
  obtain ⟨snapshot, hanswer, ⟨⟨held, rfl⟩, hterminal⟩ | ⟨rfl, hincomplete⟩⟩ :=
    settled?_eq_some hsettled
  · obtain ⟨slot, hslot, hstage, -⟩ :=
      exists_resolved (hstep.view_of_query h hanswer) hterminal
    exact ⟨slot, hslot, hstage⟩
  · obtain ⟨hview, hstages⟩ := hstep.answer_abandon h
    rw [hview, Except.ok.injEq, Reply.snapshot.injEq] at hanswer
    obtain ⟨slot, hslot, -⟩ := exists_given_up hanswer hincomplete
    exact ⟨slot, hslot, hstages slot hslot⟩

lemma Revision.settled? {slot' : Slot} (hrevision : Revision ring sequence slot op slot')
    (hsettled : slot'.stage.isSettled) :
    Ring.settled? op (.ok (.snapshot slot'.snapshot)) = some sequence := by
  cases hrevision with
  | waiting => cases hsettled
  | @evaluated held store =>
    have hterminal : (slot.evaluated
        (store.readings (ring.index sequence))).snapshot.status.isTerminal := by
      change (Stage.ofStatus (Status.ofReports _)).isSettled at hsettled
      change (Stage.ofStatus (Status.ofReports _)).status.isTerminal
      cases hstatus : Status.ofReports (store.readings (ring.index sequence)) <;>
        simp_all [Stage.ofStatus, Stage.isSettled, Stage.status, Status.isTerminal]
    exact if_pos hterminal
  | abandoned => rfl

lemma WellFormed.slot?_of_mem (h : ring.WellFormed) (hlive : ring.isDestroyed = false)
    (hmem : some slot ∈ ring.slots) : ring.slot? slot.sequence = some slot := by
  obtain ⟨index, hat⟩ := Array.getElem?_of_mem hmem
  obtain ⟨rfl, hlow, hhigh⟩ := h.held index slot hat
  exact slot?_eq_some_iff.mpr ⟨holds_iff_mem_window.mpr ⟨hlive, mem_window.mpr ⟨hlow, hhigh⟩⟩, hat⟩

lemma Step.of_destroyed (hstep : Step ring op run) (hdestroyed : run.state.store = none) :
    run.state.slots = ring.slots ∧ run.state.submitted = ring.submitted := by
  cases hstep with
  | began => cases hdestroyed
  | queriedWaiting hstore =>
    rw [show ring.store = none from hdestroyed] at hstore
    cases hstore
  | queriedEvaluated hstore =>
    rw [show ring.store = none from hdestroyed] at hstore
    cases hstore
  | queriedCompleted hstore =>
    rw [show ring.store = none from hdestroyed] at hstore
    cases hstore
  | abandoned hslot =>
    exact absurd (slot?_eq_some_iff.mp hslot).1 (not_holds_of_store_none hdestroyed)
  | _ => exact ⟨rfl, rfl⟩

lemma Step.settles (h : ring.WellFormed) (hsettles : ring.Settles settled)
    (hstep : Step ring op run) :
    run.state.Settles (settled ++ (settled? op run.trace.result).toList) := by
  have hring := hstep.wellFormed h
  cases hdestroyed : run.state.isDestroyed with
  | true =>
    -- No unit is live in a destroyed ring, so its slots are compared with those before the step.
    have hstore : run.state.store = none := Option.isNone_iff_eq_none.mp hdestroyed
    have hnone : settled? op run.trace.result = none := by
      rw [Option.eq_none_iff_forall_ne_some]
      intro sequence hsettled
      obtain ⟨slot, hslot, -⟩ := hstep.settled_of_answer h hsettled
      exact not_holds_of_store_none hstore (slot?_eq_some_iff.mp hslot).1
    obtain ⟨hslots, hsubmitted⟩ := hstep.of_destroyed hstore
    rw [hnone, Option.toList_none, List.append_nil]
    constructor
    · rw [hsubmitted]
      exact hsettles.begun
    · rw [hslots]
      exact hsettles.slots
  | false =>
    have hmarks : ring.Marks (·.isSettled) settled := by
      refine ⟨hsettles.begun, ?_⟩
      intro sequence slot hslot
      have hmem : some slot ∈ ring.slots :=
        Array.mem_of_getElem? (slot?_eq_some_iff.mp hslot).2
      rw [hsettles.slots slot hmem, h.sequence_eq hslot]
    have hnext : run.state.Marks (·.isSettled)
        (settled ++ (settled? op run.trace.result).toList) := by
      apply hstep.marks h hmarks
      · exact fun _ hstage => hstage
      · exact fun sequence hsettled => hstep.settled_of_answer h hsettled
      · intro sequence slot slot' hrevision hanswer hstage
        rw [hanswer]
        exact hrevision.settled? hstage
    refine ⟨hnext.begun, ?_⟩
    intro slot hmem
    exact hnext.marked slot.sequence slot (hring.slot?_of_mem hdestroyed hmem)

lemma IsNew.settles_after (hnew : ring.IsNew) (ops : List Op) :
    (ring.after ops).Settles (settlements (ring.entries ops)) := by
  have hfresh : ring.Settles [] := by
    obtain ⟨setup, store, -, rfl, -⟩ := hnew.exists_fresh
    constructor
    · intro sequence hmem
      cases hmem
    · intro slot hmem
      simp [fresh] at hmem
  exact hnew.wellFormed.noted_after hfresh
    (fun _ _ _ _ hring hstep hsettles => hstep.settles hring hsettles) ops

/-! ### Counting -/

/-- The units in the slots, in the order of the slots. -/
def occupants (ring : Ring) : List Nat := ring.slots.toList.filterMap (·.map (·.sequence))

/-- The slots hold the window, turned round to where it starts. -/
lemma WellFormed.occupants_perm (h : ring.WellFormed) : ring.occupants.Perm ring.window := by
  have hat : ∀ index (hlt : index < ring.slots.toList.length) slot,
      ring.slots.toList[index] = some slot → slot.sequence % ring.capacity = index := by
    intro index hlt slot hslot
    have hget : ring.slots[index]? = some (some slot) := by
      rw [← hslot, Array.getElem_toList]
      exact Array.getElem?_eq_getElem _
    exact (h.held index slot hget).1
  have hnodup : ring.occupants.Nodup := by
    unfold occupants
    rw [List.Nodup, List.pairwise_filterMap, List.pairwise_iff_getElem]
    intro i j hi hj hlt sequence hsequence other hother hsame
    obtain ⟨slot, hslot, rfl⟩ := Option.map_eq_some_iff.mp hsequence
    obtain ⟨slot', hslot', rfl⟩ := Option.map_eq_some_iff.mp hother
    have hindex := hat i hi slot hslot
    have hindex' := hat j hj slot' hslot'
    rw [hsame] at hindex
    omega
  have hwindow : ring.window.Nodup := List.Nodup.of_map _ (nodup_indices_window ring)
  -- Neither list repeats a unit, so it is enough that they have the same ones.
  rw [List.perm_ext_iff_of_nodup hnodup hwindow]
  intro sequence
  unfold occupants
  rw [List.mem_filterMap]
  constructor
  · rintro ⟨slot?, hmem, hsequence⟩
    obtain ⟨slot, rfl, rfl⟩ := Option.map_eq_some_iff.mp hsequence
    obtain ⟨index, hslot⟩ := Array.getElem?_of_mem (Array.mem_toList_iff.mp hmem)
    exact ((h.occupied.slots index _).mp ⟨slot, hslot, rfl⟩).1
  · intro hmem
    obtain ⟨slot, hslot, rfl⟩ := (h.occupied.slots _ sequence).mpr ⟨hmem, rfl⟩
    exact ⟨some slot, Array.mem_toList_iff.mpr (Array.mem_of_getElem? hslot), rfl⟩

lemma WellFormed.countP_isOpen (h : ring.WellFormed) (hsettles : ring.Settles settled) :
    ring.slots.countP isOpen = ring.window.countP (· ∉ settled) := by
  rw [← h.occupants_perm.countP_eq, occupants, List.countP_filterMap, ← Array.countP_toList]
  apply List.countP_congr
  intro slot? hmem
  cases slot? with
  | none => simp [isOpen]
  | some slot =>
    have hslot := hsettles.slots slot (Array.mem_toList_iff.mp hmem)
    simp only [isOpen, Option.any_some, Option.map_some, Option.getD_some, decide_eq_true_eq,
      ← hslot, Bool.not_eq_true', Bool.not_eq_true]

lemma range_submitted (ring : Ring) : List.range ring.submitted =
    List.range (ring.submitted - ring.capacity) ++ ring.window := by
  have hsplit := List.take_append_drop (ring.submitted - ring.capacity) (List.range ring.submitted)
  rw [List.take_range, Nat.min_eq_left (Nat.sub_le _ _)] at hsplit
  exact hsplit.symm

lemma countP_range_submitted {p : Nat → Bool}
    (h : ∀ sequence, ring.isOverwritten sequence → p sequence) :
    (List.range ring.submitted).countP p =
      (ring.submitted - ring.capacity) + ring.window.countP p := by
  rw [range_submitted, List.countP_append]
  congr 1
  have hall : (List.range (ring.submitted - ring.capacity)).countP p =
      (List.range (ring.submitted - ring.capacity)).length := by
    rw [List.countP_eq_length]
    intro sequence hmem
    have hlt := List.mem_range.mp hmem
    apply h
    simp only [isOverwritten, decide_eq_true_eq]
    omega
  rw [hall, List.length_range]

lemma not_isOverwritten (hmem : sequence ∈ ring.window) : ring.isOverwritten sequence = false := by
  obtain ⟨-, hhigh⟩ := mem_window.mp hmem
  simpa [isOverwritten] using hhigh

lemma WellFormed.isOverwritten_iff (h : ring.WellFormed) : ring.isOverwritten sequence ↔
    ∃ later, sequence < later ∧ later < ring.submitted ∧
      ring.index later = ring.index sequence := by
  have hpos := h.capacity_pos
  unfold isOverwritten
  rw [decide_eq_true_eq]
  constructor
  · intro hlt
    exact ⟨sequence + ring.capacity, by omega, hlt, Nat.add_mod_right sequence ring.capacity⟩
  · rintro ⟨later, hlater, hbegun, hindex⟩
    by_contra hroom
    have hsame : sequence = later :=
      eq_of_mod_eq hindex.symm (Nat.lt_succ_of_lt hlater) (by omega) (Nat.lt_succ_self later)
        (by omega)
    omega

lemma length_window (ring : Ring) :
    ring.window.length = ring.submitted - (ring.submitted - ring.capacity) := by
  rw [window, List.length_drop, List.length_range]

lemma Step.reported_le (hstep : Step ring op run) : ring.reported ≤ run.state.reported := by
  cases hstep with
  | began => exact Nat.le_add_right _ _
  | queriedWaiting => exact Nat.le_add_right _ _
  | queriedEvaluated => exact Nat.le_add_right _ _
  | queriedCompleted => exact Nat.le_add_right _ _
  | abandoned => exact Nat.le_add_right _ _
  | _ => exact Nat.le_refl _

lemma counts_le_after (h : ring.WellFormed) (later : List Op) :
    ring.reported ≤ (ring.after later).reported ∧
      ring.submitted ≤ (ring.after later).submitted := by
  apply h.kept_after (P := fun ring' => ring.reported ≤ ring'.reported ∧
    ring.submitted ≤ ring'.submitted) ⟨Nat.le_refl _, Nat.le_refl _⟩
  rintro ring' op run hring' hstep ⟨hreported, hsubmitted⟩
  obtain ⟨-, hforward, -⟩ := hstep.forward
  exact ⟨Nat.le_trans hreported hstep.reported_le, Nat.le_trans hsubmitted hforward⟩

/-- The reported units are those that were settled or lost their slot to another unit, each counted
once, and the outstanding ones are those of the window that were not settled. -/
theorem outstanding_accounting (hnew : ring.IsNew) (ops : List Op) :
    (ring.after ops).reported =
      (List.range (ring.after ops).submitted).countP (ring.after ops).isOverwritten +
        (ring.after ops).window.countP (· ∈ settlements (ring.entries ops)) ∧
    (ring.after ops).reported = (List.range (ring.after ops).submitted).countP
      (fun sequence => (ring.after ops).isOverwritten sequence ∨
        sequence ∈ settlements (ring.entries ops)) ∧
    (ring.after ops).outstanding =
      (ring.after ops).window.countP (· ∉ settlements (ring.entries ops)) ∧
    (ring.after ops).outstanding ≤ (ring.after ops).capacity ∧
    (ring.after ops).reported ≤ (ring.after ops).submitted ∧
    (∀ sequence, (ring.after ops).isOverwritten sequence ↔ ∃ later, sequence < later ∧
      later < (ring.after ops).submitted ∧
        (ring.after ops).index later = (ring.after ops).index sequence) ∧
    (∀ sequence ∈ (ring.after ops).window, ∃ slot,
      (ring.after ops).slots[(ring.after ops).index sequence]? = some (some slot) ∧
        slot.sequence = sequence ∧
          (slot.stage.isSettled ↔ sequence ∈ settlements (ring.entries ops))) ∧
    ∀ later, (ring.after ops).reported ≤ ((ring.after ops).after later).reported ∧
      (ring.after ops).submitted ≤ ((ring.after ops).after later).submitted := by
  have h := hnew.wellFormed_after ops
  have hsettles := hnew.settles_after ops
  generalize ring.after ops = now at h hsettles ⊢
  generalize settlements (ring.entries ops) = settled at hsettles ⊢
  have hopen := h.countP_isOpen hsettles
  have haccounting := h.accounting
  have hlength := length_window now
  have hsplit := List.length_eq_countP_add_countP (fun sequence => decide (sequence ∈ settled))
    (l := now.window)
  simp only [decide_eq_true_eq] at hsplit
  -- Before the window everything was overwritten, and in it nothing was.
  have hoverwritten : (List.range now.submitted).countP now.isOverwritten =
      now.submitted - now.capacity := by
    rw [countP_range_submitted fun _ hlost => hlost, List.countP_eq_zero.mpr, Nat.add_zero]
    intro sequence hmem
    rw [not_isOverwritten hmem]
    exact Bool.false_ne_true
  have hreported : now.reported = (List.range now.submitted).countP now.isOverwritten +
      now.window.countP (· ∈ settled) := by
    omega
  have houtstanding : now.outstanding = now.window.countP (· ∉ settled) := by
    unfold outstanding
    omega
  refine ⟨hreported, ?_, houtstanding, ?_, h.reported_le, fun _ => h.isOverwritten_iff, ?_, ?_⟩
  · rw [hreported, hoverwritten, countP_range_submitted fun _ hlost => by simp [hlost]]
    congr 1
    apply List.countP_congr
    intro sequence hmem
    simp [not_isOverwritten hmem]
  · unfold outstanding
    omega
  · intro sequence hmem
    obtain ⟨slot, hslot, rfl⟩ := (h.occupied.slots _ sequence).mpr ⟨hmem, rfl⟩
    exact ⟨slot, hslot, rfl, hsettles.slots slot (Array.mem_of_getElem? hslot)⟩
  · exact counts_le_after h

/-- A unit is answered, the next one is overwritten before anybody asked for it, and the last one
is given up. -/
def threeWaysOut : List Op :=
  [.begin 7 none, .retire 0, .query (fun _ => true) 0, .begin 8 none, .begin 9 none,
    .force 2 false]

theorem outstanding_accounting_single :
    settlements (single.entries threeWaysOut) = [0, 2] ∧
    (single.after threeWaysOut).reported = 2 + 1 ∧
    (single.after (threeWaysOut.take 5)).reported = 2 + 0 ∧
    (single.after (threeWaysOut.take 5)).outstanding = 1 ∧
    (single.after (threeWaysOut.take 3)).reported = 0 + 1 := by
  obtain ⟨hreported, -⟩ := outstanding_accounting isNew_single threeWaysOut
  obtain ⟨hreported', -, houtstanding, -⟩ :=
    outstanding_accounting isNew_single (threeWaysOut.take 5)
  obtain ⟨hreported'', -⟩ := outstanding_accounting isNew_single (threeWaysOut.take 3)
  exact ⟨rfl, hreported.trans rfl, hreported'.trans rfl, houtstanding.trans rfl,
    hreported''.trans rfl⟩

end CompletionRing.Ring
