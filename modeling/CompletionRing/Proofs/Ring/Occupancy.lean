import CompletionRing.Proofs.Ring.Slots
import CompletionRing.Ring.Location
import Mathlib.Data.List.Nodup

/-!
# Who is in which slot

The slots are always those of the units begun last, each at its index, and the units are numbered
in the order in which they are begun. Whatever is done about another unit, or about a destroyed
ring, is refused and changes nothing.
-/

namespace CompletionRing.Ring

/-- The units begun last, as many as the ring has slots. -/
def window (ring : Ring) : List Nat :=
  (List.range ring.submitted).drop (ring.submitted - ring.capacity)

/-- The ticket of a unit that an operation began. -/
def begun? : Op → Except Fault Reply → Option Ticket
  | .begin _ _, .ok (.ticket (.ok ticket)) => some ticket
  | _, _ => none

/-- The tickets of the units begun in a run, in order. -/
def tickets (entries : List Entry) : List Ticket := noted begun? entries

/-- Does an operation do nothing but answer? -/
def OnlyAnswers (ring : Ring) (op : Op) (reply : Reply) : Prop :=
  (ring.perform op).quiet = .done ring reply

/-- Are the slots those of the units begun last? -/
structure Occupied (ring : Ring) : Prop where
  size_slots : ring.slots.size = ring.capacity
  slots : ∀ index sequence,
    (∃ slot, ring.slots[index]? = some (some slot) ∧ slot.sequence = sequence) ↔
      sequence ∈ ring.window ∧ sequence % ring.capacity = index
  /-- A unit has an index as long as it is live. -/
  heldIndex? : ∀ sequence, ring.heldIndex? sequence =
    if ring.isDestroyed = false ∧ sequence < ring.submitted ∧
        ring.submitted ≤ sequence + ring.capacity then
      some (sequence % ring.capacity)
    else none
  /-- The slot at this index is its own. -/
  own : ∀ sequence index, ring.heldIndex? sequence = some index →
    ∃ slot, ring.slots[index]? = some (some slot) ∧ slot.sequence = sequence

/-- Is the unit out of reach, so that whatever is done about it is refused? -/
structure OutOfReach (ring : Ring) (sequence : Nat) : Prop where
  query : ∀ held, ring.OnlyAnswers (.query held sequence)
    (.snapshot ⟨sequence, none, none, .unavailable, []⟩)
  force : ∀ outOfRange, ring.OnlyAnswers (.force sequence outOfRange)
    (.snapshot ⟨sequence, none, none, .unavailable, []⟩)
  prepareRetry : ring.OnlyAnswers (.prepareRetry sequence)
    (.ticket (.error (if ring.isDestroyed then .destroyed ring.name else .stale sequence)))
  hasAbandoned : ring.hasAbandoned sequence = false
  recordRange? : ∀ engine, ring.recordRange? engine sequence = none
  fenceRange? : ring.fenceRange? sequence = none

variable {ring : Ring} {op : Op} {run : Run Ring Reply} {sequence index : Nat}

/-! ### The window -/

lemma mem_window : sequence ∈ ring.window ↔
    sequence < ring.submitted ∧ ring.submitted ≤ sequence + ring.capacity := by
  unfold window
  rw [List.range_eq_range', List.drop_range', List.mem_range'_1]
  omega

lemma holds_iff_mem_window : ring.holds sequence ↔
    ring.isDestroyed = false ∧ sequence ∈ ring.window := by
  rw [holds_iff, mem_window, isDestroyed, Option.isNone_eq_false_iff]

lemma nodup_indices_window (ring : Ring) : (ring.window.map (· % ring.capacity)).Nodup := by
  apply List.Nodup.map_on
  · intro sequence hmem other hother hindex
    obtain ⟨hlow, hhigh⟩ := mem_window.mp hmem
    obtain ⟨hlow', hhigh'⟩ := mem_window.mp hother
    exact eq_of_mod_eq hindex hlow hhigh hlow' hhigh'
  · exact List.nodup_range.sublist (List.drop_sublist _ _)

lemma WellFormed.occupied (h : ring.WellFormed) : ring.Occupied where
  size_slots := h.size_slots
  slots := by
    intro index sequence
    constructor
    · rintro ⟨slot, hslot, rfl⟩
      obtain ⟨hindex, hlow, hhigh⟩ := h.held index slot hslot
      exact ⟨mem_window.mpr ⟨hlow, hhigh⟩, hindex⟩
    · rintro ⟨hmem, rfl⟩
      obtain ⟨hlow, hhigh⟩ := mem_window.mp hmem
      exact h.window sequence hlow hhigh
  heldIndex? := by
    intro sequence
    unfold Ring.heldIndex? Ring.index
    simp only [holds_iff_mem_window, mem_window]
  own := by
    intro sequence index hindex
    unfold Ring.heldIndex? at hindex
    by_cases hlive : ring.holds sequence
    · rw [if_pos hlive] at hindex
      cases hindex
      obtain ⟨-, hlow, hhigh⟩ := holds_iff.mp hlive
      exact h.window sequence hlow hhigh
    · rw [if_neg hlive] at hindex
      cases hindex

/-! ### Tickets -/

lemma Step.answer_begin {number : UInt32} {frame : Option Frame}
    (hstep : Step ring (.begin number frame) run) (hlive : ring.isDestroyed = false) :
    run.trace.result = if ring.submitted + 1 < UInt64.size then
      .ok (.ticket (.ok ⟨ring.submitted, ring.submitted % ring.capacity⟩))
    else .error .overflow := by
  cases hstep with
  | beginDestroyed hstore =>
    rw [isDestroyed, hstore] at hlive
    cases hlive
  | beginOverflow _ hfull => exact (if_neg hfull).symm
  | began _ hroom => exact (if_pos hroom).symm

/-- The tickets of all units begun so far. -/
def issued (ring : Ring) : List Ticket :=
  (List.range ring.submitted).map fun sequence => ⟨sequence, ring.index sequence⟩

lemma Step.issued (hstep : Step ring op run) :
    run.state.issued = ring.issued ++ (begun? op run.trace.result).toList := by
  cases hstep with
  | began =>
    change (List.range (ring.submitted + 1)).map _ = _
    rw [List.range_succ, List.map_append]
    rfl
  | _ => exact (List.append_nil _).symm

lemma capacity_after (h : ring.WellFormed) (ops : List Op) :
    (ring.after ops).capacity = ring.capacity := by
  apply h.kept_after (P := fun ring' => ring'.capacity = ring.capacity) rfl
  intro ring' op run hring' hstep hcapacity
  obtain ⟨hsame, -, -⟩ := hstep.forward
  exact hsame.trans hcapacity

lemma IsNew.issued (hnew : ring.IsNew) : ring.issued = [] := by
  obtain ⟨setup, store, -, rfl, -⟩ := hnew.exists_fresh
  rfl

lemma IsNew.tickets_after (hnew : ring.IsNew) (ops : List Op) :
    tickets (ring.entries ops) = (ring.after ops).issued := by
  have hissued : (ring.after ops).issued = [] ++ noted begun? (ring.entries ops) := by
    apply hnew.wellFormed.noted_after (P := fun ring earlier => ring.issued = earlier) hnew.issued
    rintro ring earlier op run hring hstep rfl
    exact hstep.issued
  exact hissued.symm

/-! ### Refusals -/

lemma Step.force_outside {outOfRange : Bool} (hstep : Step ring (.force sequence outOfRange) run)
    (hdead : ¬ring.holds sequence) : run = .done ring (.snapshot (.unavailable sequence)) := by
  cases hstep with
  | forcedOutside => rfl
  | disowned hslot => exact absurd (slot?_eq_some_iff.mp hslot).1 hdead
  | forcedSettled hslot => exact absurd (slot?_eq_some_iff.mp hslot).1 hdead
  | abandoned hslot => exact absurd (slot?_eq_some_iff.mp hslot).1 hdead

lemma Step.retry_outside (hstep : Step ring (.prepareRetry sequence) run)
    (hdead : ¬ring.holds sequence) : run = .done ring
      (.ticket (.error (if ring.isDestroyed then .destroyed ring.name else .stale sequence))) := by
  cases hstep with
  | retryDestroyed hstore =>
    rw [isDestroyed, hstore]
    rfl
  | retryStale hstore =>
    rw [isDestroyed, hstore]
    rfl
  | retried _ hlive => exact absurd hlive hdead

lemma Step.begin_destroyed {number : UInt32} {frame : Option Frame}
    (hstep : Step ring (.begin number frame) run) (hdestroyed : ring.store = none) :
    run = .done ring (.ticket (.error (.destroyed ring.name))) := by
  cases hstep with
  | beginDestroyed => rfl
  | beginOverflow hstore =>
    rw [hdestroyed] at hstore
    cases hstore
  | began hstore =>
    rw [hdestroyed] at hstore
    cases hstore

lemma destroy_destroyed (hdestroyed : ring.store = none) (pool : Pool) :
    ring.destroy pool = return (ring, pool) := by
  rw [destroy, hdestroyed]

lemma WellFormed.outOfReach (h : ring.WellFormed) (hdead : ¬ring.holds sequence) :
    ring.OutOfReach sequence where
  query held := (step h (.query held sequence)).query_outside hdead
  force outOfRange := (step h (.force sequence outOfRange)).force_outside hdead
  prepareRetry := (step h (.prepareRetry sequence)).retry_outside hdead
  hasAbandoned := by rw [hasAbandoned, slot?_eq_none hdead, Option.any_none]
  recordRange? := by
    intro engine
    rw [recordRange?, heldIndex?, if_neg hdead]
    rfl
  fenceRange? := by
    rw [fenceRange?, heldIndex?, if_neg hdead]
    rfl

/-- In every run the slots are those of the units begun last, the tickets count the units from
zero and the last ones have different indices, and nothing comes of what is done about a unit that
is not live or about a destroyed ring. -/
theorem occupied_in_order (hnew : ring.IsNew) (ops : List Op) :
    (ring.after ops).capacity = ring.capacity ∧ (ring.after ops).Occupied ∧
    (∀ number frame, (ring.after ops).isDestroyed = false →
      (ring.after ops).answer (.begin number frame) =
        if (ring.after ops).submitted + 1 < UInt64.size then
          .ok (.ticket (.ok ⟨(ring.after ops).submitted,
            (ring.after ops).submitted % (ring.after ops).capacity⟩))
        else .error .overflow) ∧
    tickets (ring.entries ops) = (List.range (ring.after ops).submitted).map
      (fun sequence => ⟨sequence, sequence % (ring.after ops).capacity⟩) ∧
    (((tickets (ring.entries ops)).drop
      ((ring.after ops).submitted - (ring.after ops).capacity)).map (·.index)).Nodup ∧
    (∀ sequence, (ring.after ops).isDestroyed ∨ (ring.after ops).submitted ≤ sequence ∨
        sequence + (ring.after ops).capacity < (ring.after ops).submitted →
      (ring.after ops).OutOfReach sequence) ∧
    ((ring.after ops).isDestroyed →
      (∀ number frame, (ring.after ops).OnlyAnswers (.begin number frame)
        (.ticket (.error (.destroyed (ring.after ops).name)))) ∧
      ∀ pool, (ring.after ops).destroy pool = return (ring.after ops, pool)) := by
  have h := hnew.wellFormed_after ops
  have htickets := hnew.tickets_after ops
  refine ⟨capacity_after hnew.wellFormed ops, h.occupied, ?_, htickets, ?_, ?_, ?_⟩
  · intro number frame hlive
    exact (step h (.begin number frame)).answer_begin hlive
  · rw [htickets, issued, ← List.map_drop, List.map_map]
    exact nodup_indices_window (ring.after ops)
  · intro sequence hdead
    apply h.outOfReach
    rw [holds_iff_mem_window, mem_window]
    rintro ⟨hlive, hlow, hhigh⟩
    rcases hdead with hdestroyed | hfuture | hevicted
    · rw [hlive] at hdestroyed
      cases hdestroyed
    · omega
    · omega
  · intro hdestroyed
    have hstore : (ring.after ops).store = none := Option.isNone_iff_eq_none.mp hdestroyed
    exact ⟨fun number frame => (step h (.begin number frame)).begin_destroyed hstore,
      destroy_destroyed hstore⟩

theorem occupied_in_order_single :
    tickets (single.entries [.begin 7 none, .begin 8 none, .destroy (.new none)]) =
      [⟨0, 0⟩, ⟨1, 0⟩] ∧
    (single.after [.begin 7 none, .begin 8 none]).OutOfReach 0 ∧
    (single.after [.begin 7 none, .begin 8 none]).OutOfReach 2 ∧
    (single.after [.begin 7 none, .begin 8 none, .destroy (.new none)]).OutOfReach 1 := by
  obtain ⟨-, -, -, -, -, hstale, -⟩ := occupied_in_order isNew_single [.begin 7 none, .begin 8 none]
  obtain ⟨-, -, -, htickets, -, hdestroyed, -⟩ :=
    occupied_in_order isNew_single [.begin 7 none, .begin 8 none, .destroy (.new none)]
  refine ⟨htickets.trans rfl, ?_, ?_, ?_⟩
  · exact hstale 0 (Or.inr (Or.inr (by decide)))
  · exact hstale 2 (Or.inr (Or.inl (by decide)))
  · exact hdestroyed 1 (Or.inl rfl)

end CompletionRing.Ring
