import CompletionRing.Proofs.Ring.Calls
import CompletionRing.Session.Watcher

/-!
# Polls

A poll asks the ring for a unit and looks at nothing but the answer, the unit's budget, and whether
the unit was abandoned before. It touches no budget but the unit's own, and those of units that the
ring no longer holds.
-/

namespace CompletionRing

namespace Ring

variable {ring : Ring} {sequence : Nat} {held : Frame → Bool} {run : Run Ring Reply}
  {snapshot : Snapshot} {slot : Slot}

lemma hasAbandoned_of_slot? (hslot : ring.slot? sequence = some slot) :
    ring.hasAbandoned sequence = decide (slot.stage = .abandoned) := by
  rw [hasAbandoned, hslot, Option.any_some]

lemma not_hasAbandoned (hdead : ¬ring.holds sequence) : ring.hasAbandoned sequence = false := by
  rw [hasAbandoned, slot?_eq_none hdead, Option.any_none]

lemma holds_of_hasAbandoned (h : ring.hasAbandoned sequence) : ring.holds sequence := by
  by_contra hdead
  rw [not_hasAbandoned hdead] at h
  cases h

/-- Is the unit one that the host goes on asking for? -/
def awaits (ring : Ring) (sequence : Nat) : Prop :=
  ∃ slot, ring.slot? sequence = some slot ∧ slot.stage.isSettled = false

lemma awaits.holds (h : ring.awaits sequence) : ring.holds sequence := by
  obtain ⟨slot, hslot, -⟩ := h
  exact (slot?_eq_some_iff.mp hslot).1

lemma awaits_after (h : ring.WellFormed) (ops : List Op) :
    ring.submitted ≤ (ring.after ops).submitted ∧ ∀ sequence, (ring.after ops).awaits sequence →
      ring.awaits sequence ∨ ring.submitted ≤ sequence := by
  apply h.kept_after (P := fun now => ring.submitted ≤ now.submitted ∧
    ∀ sequence, now.awaits sequence → ring.awaits sequence ∨ ring.submitted ≤ sequence)
  · exact ⟨Nat.le_refl _, fun _ => Or.inl⟩
  · rintro now op run hnow hstep ⟨hsubmitted, hbefore⟩
    refine ⟨Nat.le_trans hsubmitted hstep.forward.2.1, ?_⟩
    rintro sequence ⟨slot', hslot', hopen'⟩
    rcases hstep.slot?_origin hnow hslot' with hsame | ⟨hnew, -⟩ | ⟨slot, hslot, hopen, -⟩
    · exact hbefore sequence ⟨slot', hsame, hopen'⟩
    · exact Or.inr (hnew ▸ hsubmitted)
    · exact hbefore sequence ⟨slot, hslot, hopen⟩

lemma stage_ofStatus_ofReports (reports : List Report) :
    Stage.ofStatus (Status.ofReports reports) ≠ .begun ∧
      Stage.ofStatus (Status.ofReports reports) ≠ .abandoned := by
  unfold Status.ofReports
  split
  · exact ⟨nofun, nofun⟩
  · split <;> exact ⟨nofun, nofun⟩

lemma Step.stage_of_query (h : ring.WellFormed) (hstep : Step ring (.query held sequence) run)
    (hlive : ring.holds sequence) (hanswer : run.trace.result = .ok (.snapshot snapshot)) :
    ∃ slot, run.state.slot? sequence = some slot ∧ slot.snapshot = snapshot ∧
      slot.stage ≠ .begun ∧ run.state.hasAbandoned sequence = ring.hasAbandoned sequence := by
  have hview := hstep.view_of_query h hanswer
  cases hstep with
  | queriedOutside hdead => exact absurd hlive hdead
  | @queriedSettled _ _ slot hslot hsettled =>
    rw [Run.state_done, view_eq hslot] at hview
    refine ⟨slot, hslot, hview, ?_, rfl⟩
    intro hbegun
    rw [hbegun] at hsettled
    cases hsettled
  | @queriedWaiting _ _ store slot hstore hslot hopen =>
    have hslot' : (ring.revise slot.waiting).slot? sequence = some slot.waiting :=
      slot?_revise_self h hslot _ rfl
    rw [Run.state_done, view_eq hslot'] at hview
    have hwaiting : slot.waiting.stage ≠ .begun := by rintro ⟨⟩
    refine ⟨slot.waiting, hslot', hview, hwaiting, ?_⟩
    rw [Run.state_done, hasAbandoned_of_slot? hslot', hasAbandoned_of_slot? hslot]
    cases hstage : slot.stage <;> simp_all [Stage.isSettled, Slot.waiting]
  | @queriedEvaluated _ _ store slot slot' hstore hslot hopen hfence hnew =>
    have hstage' := stage_ofStatus_ofReports (store.readings (ring.index sequence))
    have hslot' : (ring.revise slot').slot? sequence = some slot' :=
      slot?_revise_self h hslot _ (by rw [hnew]; rfl)
    rw [Run.state_done, view_eq hslot'] at hview
    refine ⟨slot', hslot', hview, by rw [hnew]; exact hstage'.1, ?_⟩
    rw [Run.state_done, hasAbandoned_of_slot? hslot', hasAbandoned_of_slot? hslot, hnew]
    cases hstage : slot.stage <;> simp_all [Stage.isSettled, Slot.evaluated]
  | @queriedCompleted _ _ store slot slot' hstore hslot hopen hfence hnew hstage =>
    have hslot' : ((ring.revise slot').told held slot'.snapshot).slot? sequence = some slot' :=
      slot?_revise_self h hslot _ (by rw [hnew]; rfl)
    rw [view_eq hslot'] at hview
    have hcompleted : slot'.stage ≠ .begun := by
      rw [hstage]
      rintro ⟨⟩
    refine ⟨slot', hslot', hview, hcompleted, ?_⟩
    rw [hasAbandoned_of_slot? hslot', hasAbandoned_of_slot? hslot, hstage]
    cases hstage : slot.stage <;> simp_all [Stage.isSettled]
  | queriedOverflow => cases hanswer

lemma Step.reported_of_query (h : ring.WellFormed) (hstep : Step ring (.query held sequence) run)
    (hlive : ring.holds sequence) (habandoned : ring.hasAbandoned sequence = false)
    (hanswer : run.trace.result = .ok (.snapshot snapshot))
    (hincomplete : snapshot.status = .incomplete) : run.state.reported = ring.reported := by
  obtain ⟨slot, hslot, rfl, -, hsame⟩ := hstep.stage_of_query h hlive hanswer
  have hopen : slot.stage.isSettled = false := by
    rw [habandoned, hasAbandoned_of_slot? hslot, decide_eq_false_iff_not] at hsame
    rw [Slot.snapshot, Slot.status] at hincomplete
    cases hstage : slot.stage <;> simp_all [Stage.status, Stage.isSettled]
  cases hstep with
  | queriedOutside | queriedSettled | queriedWaiting | queriedOverflow => rfl
  | @queriedEvaluated _ _ store before slot' hstore hbefore _ _ hnew =>
    have hslot' : (ring.revise slot').slot? sequence = some slot' :=
      slot?_revise_self h hbefore _ (by rw [hnew]; rfl)
    rw [Run.state_done, hslot'] at hslot
    cases hslot
    rw [Run.state_done, revise, hopen]
    rfl
  | @queriedCompleted _ _ store before slot' hstore hbefore _ _ hnew hstage =>
    have hslot' : ((ring.revise slot').told held slot'.snapshot).slot? sequence = some slot' :=
      slot?_revise_self h hbefore _ (by rw [hnew]; rfl)
    rw [hslot'] at hslot
    cases hslot
    rw [hstage] at hopen
    cases hopen

lemma Step.holds_of_force {outOfRange : Bool} (hstep : Step ring (.force sequence outOfRange) run)
    (other : Nat) :
    run.state.holds other = ring.holds other ∧ run.state.submitted = ring.submitted := by
  cases hstep <;> exact ⟨rfl, rfl⟩

end Ring

namespace Watcher

variable {watcher : Watcher} {ring : Ring} {held : Frame → Bool} {sequence other : Nat}

/-! ### Budgets -/

lemma lookup_filter (p : Nat → Bool) (entries : List (Nat × Nat)) (sequence : Nat) :
    (entries.filter (p ·.1)).lookup sequence =
      if p sequence then entries.lookup sequence else none := by
  induction entries with
  | nil => simp
  | cons entry rest ih =>
    obtain ⟨other, count⟩ := entry
    by_cases hsame : sequence = other
    · subst hsame
      cases hp : p sequence <;> simp [hp, ih]
    · have hother : (sequence == other) = false := beq_false_of_ne hsame
      rw [List.filter_cons, List.lookup_cons, hother]
      cases hp : p other with
      | true => rw [if_pos rfl, List.lookup_cons, hother, ih]
      | false => exact ih

lemma spentOn_forget (watcher : Watcher) (sequence other : Nat) :
    (watcher.forget sequence).spentOn other =
      if other = sequence then 0 else watcher.spentOn other := by
  have hlookup := lookup_filter (fun unit => decide (unit ≠ sequence)) watcher.spent other
  unfold spentOn forget
  rw [hlookup]
  by_cases hsame : other = sequence <;> simp [hsame]

lemma spentOn_charge (watcher : Watcher) (sequence count other : Nat) :
    (watcher.charge sequence count).spentOn other =
      if other = sequence then count else watcher.spentOn other := by
  have hforget := spentOn_forget watcher sequence other
  unfold spentOn charge at *
  by_cases hsame : other = sequence
  · simp [hsame]
  · rw [if_neg hsame] at hforget ⊢
    rw [List.lookup_cons, beq_false_of_ne hsame]
    exact hforget

lemma spentOn_forgetEvicted (watcher : Watcher) (ring : Ring) (other : Nat) :
    (watcher.forgetEvicted ring).spentOn other =
      if ring.holds other then watcher.spentOn other else 0 := by
  have hlookup := lookup_filter ring.holds watcher.spent other
  unfold spentOn forgetEvicted
  rw [hlookup]
  split <;> rfl

/-- Room is made at the cost of units that the ring no longer holds. -/
lemma spentOn_makeRoom (watcher : Watcher) (ring : Ring) (other : Nat) :
    (watcher.makeRoom ring).spentOn other = watcher.spentOn other ∨
      ring.holds other = false ∧ (watcher.makeRoom ring).spentOn other = 0 := by
  unfold makeRoom
  split
  · rw [spentOn_forgetEvicted]
    cases hlive : ring.holds other with
    | true => exact Or.inl (if_pos rfl)
    | false => exact Or.inr ⟨rfl, rfl⟩
  · exact Or.inl rfl

lemma spentOn_makeRoom_of_holds (watcher : Watcher) (hlive : ring.holds other) :
    (watcher.makeRoom ring).spentOn other = watcher.spentOn other := by
  rcases watcher.spentOn_makeRoom ring other with hsame | ⟨hdead, -⟩
  · exact hsame
  · rw [hlive] at hdead
    cases hdead

/-- Is each budget partly spent, and none spent up? -/
def InBudget (watcher : Watcher) : Prop :=
  ∀ entry ∈ watcher.spent, 1 ≤ entry.2 ∧ entry.2 < watcher.limit.queries.toNat

lemma InBudget.forget (h : watcher.InBudget) (sequence : Nat) :
    (watcher.forget sequence).InBudget :=
  fun entry hmem => h entry (List.mem_filter.mp hmem).1

lemma InBudget.forgetEvicted (h : watcher.InBudget) (ring : Ring) :
    (watcher.forgetEvicted ring).InBudget :=
  fun entry hmem => h entry (List.mem_filter.mp hmem).1

lemma InBudget.makeRoom (h : watcher.InBudget) (ring : Ring) : (watcher.makeRoom ring).InBudget := by
  unfold Watcher.makeRoom
  split
  · exact h.forgetEvicted ring
  · exact h

lemma limit_makeRoom (watcher : Watcher) (ring : Ring) :
    (watcher.makeRoom ring).limit = watcher.limit := by
  unfold makeRoom
  split <;> rfl

lemma InBudget.charge (h : watcher.InBudget) {count : Nat} (hpos : 1 ≤ count)
    (hlt : count < watcher.limit.queries.toNat) (sequence : Nat) :
    (watcher.charge sequence count).InBudget := by
  intro entry hmem
  rcases List.mem_cons.mp hmem with rfl | hbefore
  · exact ⟨hpos, hlt⟩
  · exact h.forget sequence entry hbefore

lemma InBudget.spentOn_lt (h : watcher.InBudget) (sequence : Nat) :
    watcher.spentOn sequence + 1 < UInt32.size := by
  unfold spentOn
  cases hlookup : watcher.spent.lookup sequence with
  | none => exact (by decide : 1 < UInt32.size)
  | some count =>
    obtain ⟨before, after, hspent, -⟩ := List.lookup_eq_some_iff.mp hlookup
    obtain ⟨-, hlt⟩ := h (sequence, count) (by simp [hspent])
    have hsize := watcher.limit.queries.toNat_lt_size
    exact Nat.lt_of_le_of_lt (Nat.succ_le_of_lt hlt) hsize

/-! ### What a poll comes to -/

/-- The result of a poll, by the ring's answer and the unit's budget. -/
inductive Polled (watcher : Watcher) (ring : Ring) (held : Frame → Bool) (sequence : Nat) :
    Except Fault (Verdict × Watcher × Ring) → Prop
  | unavailable (hdead : ¬ring.holds sequence) :
    Polled watcher ring held sequence
      (.ok (.unavailable (.unavailable sequence), watcher.forget sequence, ring))
  | abandoned (habandoned : ring.hasAbandoned sequence) :
    Polled watcher ring held sequence
      (.ok (.timedOut (ring.view sequence), watcher.forget sequence, ring))
  | faulted {fault} (hlive : ring.holds sequence) (habandoned : ring.hasAbandoned sequence = false)
      (hquery : ring.answer (.query held sequence) = .error fault) :
    Polled watcher ring held sequence (.error fault)
  | ready {snapshot} (hlive : ring.holds sequence) (habandoned : ring.hasAbandoned sequence = false)
      (hquery : ring.answer (.query held sequence) = .ok (.snapshot snapshot))
      (hterminal : snapshot.status.isTerminal) :
    Polled watcher ring held sequence
      (.ok (.ready snapshot, watcher.forget sequence, ring.next (.query held sequence)))
  | pending {snapshot} (hlive : ring.holds sequence)
      (habandoned : ring.hasAbandoned sequence = false)
      (hquery : ring.answer (.query held sequence) = .ok (.snapshot snapshot))
      (hincomplete : snapshot.status = .incomplete)
      (hroom : watcher.spentOn sequence + 1 < watcher.limit.queries.toNat) :
    Polled watcher ring held sequence
      (.ok (.pending (watcher.limit.queries.toNat - (watcher.spentOn sequence + 1)),
        (watcher.makeRoom (ring.next (.query held sequence))).charge sequence
          (watcher.spentOn sequence + 1),
        ring.next (.query held sequence)))
  | exhausted {snapshot} (hlive : ring.holds sequence)
      (habandoned : ring.hasAbandoned sequence = false)
      (hquery : ring.answer (.query held sequence) = .ok (.snapshot snapshot))
      (hincomplete : snapshot.status = .incomplete)
      (hspent : ¬watcher.spentOn sequence + 1 < watcher.limit.queries.toNat) :
    Polled watcher ring held sequence
      (.ok (.timedOut
          ((ring.after [.query held sequence, .force sequence false]).view sequence),
        (watcher.makeRoom (ring.next (.query held sequence))).forget sequence,
        ring.after [.query held sequence, .force sequence false]))

lemma query_of_hasAbandoned (h : ring.WellFormed) (held : Frame → Bool)
    (habandoned : ring.hasAbandoned sequence) :
    ring.next (.query held sequence) = ring ∧
      ring.answer (.query held sequence) = .ok (.snapshot (ring.view sequence)) := by
  obtain ⟨slot, hslot, -⟩ := h.exists_slot (Ring.holds_of_hasAbandoned habandoned)
  rw [Ring.hasAbandoned_of_slot? hslot, decide_eq_true_eq] at habandoned
  have hsettled : slot.stage.isSettled := by rw [habandoned]; rfl
  have hstep : Ring.Step ring (.query held sequence) _ := .queriedSettled hslot hsettled
  rw [Ring.view_eq hslot]
  exact ⟨hstep.next h, hstep.answer h⟩

lemma status_of_hasAbandoned (h : ring.WellFormed) (habandoned : ring.hasAbandoned sequence) :
    (ring.view sequence).status = .incomplete := by
  obtain ⟨slot, hslot, -⟩ := h.exists_slot (Ring.holds_of_hasAbandoned habandoned)
  rw [Ring.hasAbandoned_of_slot? hslot, decide_eq_true_eq] at habandoned
  rw [Ring.view_eq hslot, Slot.snapshot, Slot.status, habandoned]
  rfl

lemma awaits_of_query {snapshot : Snapshot} (h : ring.WellFormed) (hlive : ring.holds sequence)
    (habandoned : ring.hasAbandoned sequence = false)
    (hquery : ring.answer (.query held sequence) = .ok (.snapshot snapshot)) :
    snapshot.status.isTerminal ∧ ¬(ring.next (.query held sequence)).awaits sequence ∨
      snapshot.status = .incomplete ∧ (ring.next (.query held sequence)).awaits sequence := by
  obtain ⟨slot, hslot, rfl, hbegun, hsame⟩ :=
    (Ring.step h (.query held sequence)).stage_of_query h hlive hquery
  rw [habandoned, Ring.hasAbandoned_of_slot? hslot, decide_eq_false_iff_not] at hsame
  rw [← Ring.next_eq] at hslot
  cases hstage : slot.stage with
  | begun => exact absurd hstage hbegun
  | abandoned => exact absurd hstage hsame
  | waiting =>
    right
    refine ⟨?_, slot, hslot, by rw [hstage]; rfl⟩
    rw [Slot.snapshot, Slot.status, hstage]
    rfl
  | completed | failed =>
    left
    constructor
    · rw [Slot.snapshot, Slot.status, hstage]
      rfl
    · rintro ⟨slot', hslot', hopen⟩
      rw [hslot] at hslot'
      cases hslot'
      rw [hstage] at hopen
      cases hopen

lemma abandon_of_awaits (h : ring.WellFormed) (hawaits : ring.awaits sequence) :
    (ring.abandon sequence).result =
      .ok ((ring.next (.force sequence false)).view sequence, ring.next (.force sequence false)) ∧
    ((ring.next (.force sequence false)).view sequence).status = .incomplete ∧
    (ring.next (.force sequence false)).hasAbandoned sequence ∧
    (ring.next (.force sequence false)).reported = ring.reported + 1 := by
  obtain ⟨slot, hslot, hopen⟩ := hawaits
  have hstep := Ring.Step.abandoned hslot hopen
  have hslot' : (ring.revise slot.abandoned).slot? sequence = some slot.abandoned :=
    Ring.slot?_revise_self h hslot _ rfl
  have habandon := Ring.abandon_of_answer (hstep.answer h)
  rw [hstep.next h, Run.state_done] at habandon ⊢
  rw [Ring.view_eq hslot', Ring.hasAbandoned_of_slot? hslot']
  exact ⟨habandon, rfl, rfl, rfl⟩

lemma polled_of_answer {snapshot : Snapshot} (h : ring.WellFormed) (watcher : Watcher)
    (hlive : ring.holds sequence) (habandoned : ring.hasAbandoned sequence = false)
    (hanswer : ring.answer (.query held sequence) = .ok (.snapshot snapshot)) :
    Polled watcher ring held sequence (watcher.poll ring held sequence).result := by
  have hquery := Ring.query_of_answer hanswer
  unfold poll
  rw [Traced.result_bind _ hquery, habandoned]
  rcases awaits_of_query h hlive habandoned hanswer with ⟨hterminal, -⟩ | ⟨hincomplete, hawaits⟩
  · have hready : Polled watcher ring held sequence _ := .ready hlive habandoned hanswer hterminal
    simp only [Bool.false_eq_true, if_false]
    cases hstatus : snapshot.status with
    | successful | error => exact hready
    | unavailable | incomplete =>
      rw [hstatus] at hterminal
      cases hterminal
  · have hspent := watcher.spentOn_makeRoom_of_holds hawaits.holds
    simp only [hincomplete, hspent, limit_makeRoom, Bool.false_eq_true, if_false]
    by_cases hroom : watcher.spentOn sequence + 1 < watcher.limit.queries.toNat
    · rw [if_pos hroom]
      exact .pending hlive habandoned hanswer hincomplete hroom
    · rw [if_neg hroom, Traced.emit_bind]
      obtain ⟨habandon, -⟩ := abandon_of_awaits (h.next _) hawaits
      have hexhausted : Polled watcher ring held sequence _ :=
        .exhausted hlive habandoned hanswer hincomplete hroom
      simp only
      rw [Traced.result_bind _ habandon]
      exact hexhausted

theorem polled (h : ring.WellFormed) (watcher : Watcher) (held : Frame → Bool) (sequence : Nat) :
    Polled watcher ring held sequence (watcher.poll ring held sequence).result := by
  by_cases hlive : ring.holds sequence
  · cases habandoned : ring.hasAbandoned sequence with
    | true =>
      have hpolled : Polled watcher ring held sequence _ := .abandoned habandoned
      obtain ⟨hnext, hanswer⟩ := query_of_hasAbandoned h held habandoned
      have hquery := Ring.query_of_answer hanswer
      rw [hnext] at hquery
      unfold poll
      rw [Traced.result_bind _ hquery, habandoned]
      exact hpolled
    | false =>
      rcases (Ring.step h (.query held sequence)).answer_query h with hanswer | ⟨hfault, -⟩
      · rw [← Ring.answer_eq] at hanswer
        exact polled_of_answer h watcher hlive habandoned hanswer
      · rw [← Ring.answer_eq] at hfault
        unfold poll
        rw [Traced.result_bind_error _ (Ring.query_of_fault hfault)]
        exact .faulted hlive habandoned hfault
  · have hpolled : Polled watcher ring held sequence _ := .unavailable hlive
    have hstep : Ring.Step ring (.query held sequence) _ := .queriedOutside hlive
    have hquery := Ring.query_of_answer (hstep.answer h)
    rw [hstep.next h] at hquery
    unfold poll
    rw [Traced.result_bind _ hquery, Ring.not_hasAbandoned hlive]
    exact hpolled

/-! ### What a poll changes -/

variable {verdict : Verdict} {watcher' : Watcher} {ring' : Ring}

lemma Polled.limit_eq (hpolled : Polled watcher ring held sequence (.ok (verdict, watcher', ring'))) :
    watcher'.limit = watcher.limit := by
  cases hpolled with
  | pending | exhausted => exact limit_makeRoom watcher _
  | _ => rfl

lemma Polled.inBudget (hpolled : Polled watcher ring held sequence (.ok (verdict, watcher', ring')))
    (hbudget : watcher.InBudget) : watcher'.InBudget := by
  cases hpolled with
  | pending _ _ _ _ hroom =>
    apply (hbudget.makeRoom _).charge (Nat.le_add_left 1 _)
    rw [limit_makeRoom]
    exact hroom
  | exhausted => exact (hbudget.makeRoom _).forget sequence
  | _ => exact hbudget.forget sequence

lemma Polled.exists_ops
    (hpolled : Polled watcher ring held sequence (.ok (verdict, watcher', ring'))) :
    ∃ ops, ring' = ring.after ops := by
  cases hpolled with
  | unavailable | abandoned => exact ⟨[], rfl⟩
  | ready | pending => exact ⟨[.query held sequence], rfl⟩
  | exhausted => exact ⟨[.query held sequence, .force sequence false], rfl⟩

lemma Polled.others (h : ring.WellFormed)
    (hpolled : Polled watcher ring held sequence (.ok (verdict, watcher', ring')))
    (hother : other ≠ sequence) :
    (ring'.holds other → watcher'.spentOn other = watcher.spentOn other) ∧
      (watcher.spentOn other = 0 → watcher'.spentOn other = 0) := by
  have hroom : ((ring.next (.query held sequence)).holds other →
      (watcher.makeRoom (ring.next (.query held sequence))).spentOn other =
        watcher.spentOn other) ∧ (watcher.spentOn other = 0 →
      (watcher.makeRoom (ring.next (.query held sequence))).spentOn other = 0) := by
    refine ⟨watcher.spentOn_makeRoom_of_holds, ?_⟩
    intro hzero
    rcases watcher.spentOn_makeRoom (ring.next (.query held sequence)) other with
      hsame | ⟨-, hnone⟩
    · exact hsame.trans hzero
    · exact hnone
  cases hpolled with
  | pending =>
    rw [spentOn_charge, if_neg hother]
    exact hroom
  | exhausted =>
    have hforce := (Ring.step (h.next (.query held sequence))
      (.force sequence false)).holds_of_force other
    rw [← Ring.next_eq] at hforce
    rw [spentOn_forget, if_neg hother, Ring.after_cons, Ring.after_cons, Ring.after_nil, hforce.1]
    exact hroom
  | _ =>
    rw [spentOn_forget, if_neg hother]
    exact ⟨fun _ => rfl, id⟩

lemma not_awaits_of_hasAbandoned (habandoned : ring.hasAbandoned sequence) :
    ¬ring.awaits sequence := by
  rintro ⟨slot, hslot, hopen⟩
  rw [Ring.hasAbandoned_of_slot? hslot, decide_eq_true_eq] at habandoned
  rw [habandoned] at hopen
  cases hopen

lemma Polled.own (h : ring.WellFormed)
    (hpolled : Polled watcher ring held sequence (.ok (verdict, watcher', ring'))) :
    if verdict.isPending then
      watcher'.spentOn sequence = watcher.spentOn sequence + 1 ∧ ring.holds sequence
    else watcher'.spentOn sequence = 0 ∧ ¬ring'.awaits sequence := by
  cases hpolled with
  | unavailable hdead =>
    refine ⟨by rw [spentOn_forget, if_pos rfl], ?_⟩
    intro hawaits
    exact hdead hawaits.holds
  | abandoned habandoned =>
    exact ⟨by rw [spentOn_forget, if_pos rfl], not_awaits_of_hasAbandoned habandoned⟩
  | ready hlive habandoned hquery hterminal =>
    refine ⟨by rw [spentOn_forget, if_pos rfl], ?_⟩
    rcases awaits_of_query h hlive habandoned hquery with ⟨-, hsettled⟩ | ⟨hincomplete, -⟩
    · exact hsettled
    · rw [hincomplete] at hterminal
      cases hterminal
  | pending hlive =>
    exact ⟨by rw [spentOn_charge, if_pos rfl], hlive⟩
  | exhausted hlive habandoned hquery hincomplete =>
    refine ⟨by rw [spentOn_forget, if_pos rfl], ?_⟩
    rcases awaits_of_query h hlive habandoned hquery with ⟨hterminal, -⟩ | ⟨-, hawaits⟩
    · rw [hincomplete] at hterminal
      cases hterminal
    · obtain ⟨-, -, habandoned', -⟩ := abandon_of_awaits (h.next _) hawaits
      exact not_awaits_of_hasAbandoned habandoned'

/-- A poll takes a pending verdict from the budget of its unit, and nothing from the budgets of
other units that are waited for. -/
lemma Polled.spent (h : ring.WellFormed)
    (hpolled : Polled watcher ring held sequence (.ok (verdict, watcher', ring')))
    (hawaits : ring'.awaits other) :
    watcher'.spentOn other =
      watcher.spentOn other + if decide (sequence = other) && verdict.isPending then 1 else 0 := by
  by_cases hsame : sequence = other
  · subst hsame
    have hown := hpolled.own h
    rw [decide_eq_true rfl, Bool.true_and]
    cases hpending : verdict.isPending with
    | true =>
      rw [hpending] at hown
      exact hown.1
    | false =>
      rw [hpending] at hown
      exact absurd hawaits hown.2
  · rw [decide_eq_false hsame]
    exact (hpolled.others h (Ne.symm hsame)).1 hawaits.holds

lemma Polled.unspent (h : ring.WellFormed)
    (hpolled : Polled watcher ring held sequence (.ok (verdict, watcher', ring')))
    (hnew : ring.submitted ≤ other) (hzero : watcher.spentOn other = 0) :
    watcher'.spentOn other = 0 ∧ (decide (sequence = other) && verdict.isPending) = false := by
  by_cases hsame : sequence = other
  · subst hsame
    have hown := hpolled.own h
    rw [decide_eq_true rfl, Bool.true_and]
    cases hpending : verdict.isPending with
    | true =>
      rw [hpending] at hown
      have hbegun := (Ring.holds_iff.mp hown.2).2.1
      omega
    | false =>
      rw [hpending] at hown
      exact ⟨hown.1, rfl⟩
  · rw [decide_eq_false hsame]
    exact ⟨(hpolled.others h (Ne.symm hsame)).2 hzero, rfl⟩

end Watcher

end CompletionRing
