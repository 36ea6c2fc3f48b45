import CompletionRing.Proofs.Ring.Independence

/-!
# Announcements

The audience is told of a unit once: by the first query that answers a success, and with the
snapshot that this query answers. What the consumers make of it is counted, and changes nothing
else.
-/

namespace CompletionRing.Ring

/-- The unit that a query answered a success for, and the snapshot that it answered. -/
def succeeded? : Op → Except Fault Reply → Option (Nat × Snapshot)
  | .query _ sequence, .ok (.snapshot snapshot) =>
    if snapshot.status = .successful then some (sequence, snapshot) else none
  | _, _ => none

/-- The unit that a query answered a success for. -/
def success? (op : Op) (answer : Except Fault Reply) : Option Nat :=
  (succeeded? op answer).map (·.1)

/-- The snapshot of a success that a query answered. -/
def successSnapshot? (op : Op) (answer : Except Fault Reply) : Option Snapshot :=
  (succeeded? op answer).map (·.2)

/-- The units that were answered with a success, in order. -/
def successes (entries : List Entry) : List Nat :=
  entries.filterMap fun entry => success? entry.op entry.answer

/-- The snapshot of a success that is the first of its unit after `earlier` ones. -/
def firstSuccess (earlier : List Nat) : Op → Except Fault Reply → List Snapshot
  | .query _ sequence, .ok (.snapshot snapshot) =>
    if snapshot.status = .successful ∧ sequence ∉ earlier then [snapshot] else []
  | _, _ => []

/-- The refused deliveries of the operations that came to their end. -/
def refused (entries : List Entry) : Nat :=
  refusalsIn ((entries.filter (·.answer.isOk)).flatMap fun entry => entry.events)

/-- Are the completed units those that were answered with a success? -/
structure Heard (ring : Ring) (earlier : List Nat) : Prop where
  begun : ∀ sequence ∈ earlier, sequence < ring.submitted
  completed : ∀ sequence slot, ring.slot? sequence = some slot →
    (slot.stage = .completed ↔ sequence ∈ earlier)

variable {ring : Ring} {op : Op} {run : Run Ring Reply} {sequence : Nat} {slot : Slot}
  {earlier : List Nat} {held : Frame → Bool}

lemma status_successful_iff (slot : Slot) :
    slot.snapshot.status = .successful ↔ slot.stage = .completed := by
  change slot.stage.status = .successful ↔ _
  cases slot.stage <;> simp [Stage.status]

lemma view_successful (hview : (ring.view sequence).status = .successful) :
    ∃ slot, ring.slot? sequence = some slot ∧ slot.stage = .completed := by
  unfold view at hview
  cases hslot : ring.slot? sequence with
  | none =>
    rw [hslot] at hview
    cases hview
  | some slot =>
    rw [hslot] at hview
    exact ⟨slot, rfl, (status_successful_iff slot).mp hview⟩

@[simp] lemma success?_snapshot (held : Frame → Bool) (sequence : Nat) (snapshot : Snapshot) :
    success? (.query held sequence) (.ok (.snapshot snapshot)) =
      if snapshot.status = .successful then some sequence else none := by
  change (if snapshot.status = .successful then some (sequence, snapshot) else none).map _ = _
  split <;> rfl

lemma succeeded?_eq_some_iff {answer : Except Fault Reply} {snapshot : Snapshot} :
    succeeded? op answer = some (sequence, snapshot) ↔
      ∃ held, op = .query held sequence ∧ answer = .ok (.snapshot snapshot) ∧
        snapshot.status = .successful := by
  constructor
  · intro h
    unfold succeeded? at h
    split at h
    · next held sequence snapshot =>
      split at h
      · next hstatus =>
        cases h
        exact ⟨held, rfl, rfl, hstatus⟩
      · cases h
    · cases h
  · rintro ⟨held, rfl, rfl, hstatus⟩
    exact if_pos hstatus

lemma success?_eq_some {answer : Except Fault Reply}
    (h : success? op answer = some sequence) :
    ∃ held snapshot, op = .query held sequence ∧ answer = .ok (.snapshot snapshot) ∧
      snapshot.status = .successful := by
  obtain ⟨⟨_, snapshot⟩, hsucceeded, rfl⟩ := Option.map_eq_some_iff.mp h
  obtain ⟨held, hop, hanswer, hstatus⟩ := succeeded?_eq_some_iff.mp hsucceeded
  exact ⟨held, snapshot, hop, hanswer, hstatus⟩

lemma Step.completed_of_success (h : ring.WellFormed) (hstep : Step ring op run)
    (hsuccess : success? op run.trace.result = some sequence) :
    ∃ slot, run.state.slot? sequence = some slot ∧ slot.stage = .completed := by
  obtain ⟨held, snapshot, rfl, hanswer, hstatus⟩ := success?_eq_some hsuccess
  rw [← hstep.view_of_query h hanswer] at hstatus
  exact view_successful hstatus

lemma Step.heard (h : ring.WellFormed) (hheard : ring.Heard earlier) (hstep : Step ring op run) :
    run.state.Heard (earlier ++ (success? op run.trace.result).toList) := by
  have hmarks : ring.Marks (· = .completed) earlier := ⟨hheard.begun, hheard.completed⟩
  have hnext : run.state.Marks (· = .completed)
      (earlier ++ (success? op run.trace.result).toList) := by
    apply hstep.marks h hmarks
    · rintro _ rfl
      rfl
    · intro sequence hsuccess
      exact hstep.completed_of_success h hsuccess
    · intro sequence slot slot' hrevision hanswer hstage
      have hstatus := (status_successful_iff slot').mpr hstage
      cases hrevision with
      | waiting => cases hstage
      | evaluated => rw [hanswer, success?_snapshot, if_pos hstatus]
      | abandoned => cases hstage
  exact ⟨hnext.begun, hnext.marked⟩

/-- The audience is told of the first success of a unit, and of nothing else. -/
lemma Step.announces (hheard : ring.Heard earlier) (hstep : Step ring op run)
    (hreturned : run.trace.result.isOk) :
    announcements run.trace.events = firstSuccess earlier op run.trace.result := by
  cases hstep with
  | queriedOutside => rfl
  | @queriedSettled held sequence slot hslot hsettled =>
    have hnot : ¬(slot.snapshot.status = .successful ∧ sequence ∉ earlier) := by
      rintro ⟨hstatus, hfirst⟩
      have hstage := (status_successful_iff slot).mp hstatus
      exact hfirst ((hheard.completed sequence slot hslot).mp hstage)
    exact (if_neg hnot).symm
  | queriedWaiting => rfl
  | @queriedEvaluated held sequence store slot slot' hstore hslot hopen hfence hslot' hstage =>
    have hnot : ¬(slot'.snapshot.status = .successful ∧ sequence ∉ earlier) := by
      rintro ⟨hstatus, -⟩
      exact hstage ((status_successful_iff slot').mp hstatus)
    exact (if_neg hnot).symm
  | @queriedCompleted held sequence store slot slot' hstore hslot hopen hfence hslot' hstage =>
    obtain ⟨-, htold, -, -⟩ := ring.audience.announce_spec held slot'.snapshot
    have hfirst : slot'.snapshot.status = .successful ∧ sequence ∉ earlier := by
      refine ⟨(status_successful_iff slot').mpr hstage, ?_⟩
      rw [← hheard.completed sequence slot hslot]
      intro hcompleted
      rw [hcompleted] at hopen
      cases hopen
    exact htold.trans (if_pos hfirst).symm
  | queriedOverflow => cases hreturned
  | beginOverflow | audienceFault | retireOverflow => cases hreturned
  | _ => rfl

lemma Step.counts_refusals (hstep : Step ring op run) :
    run.state.refusals = ring.refusals +
      if run.trace.result.isOk then refusalsIn run.trace.events else 0 := by
  cases hstep with
  | @queriedCompleted held sequence store slot slot' =>
    obtain ⟨-, -, hrefused, -⟩ := ring.audience.announce_spec held slot'.snapshot
    change ring.refusals + (ring.audience.told held slot'.snapshot).1.failures.length =
      ring.refusals + refusalsIn (ring.audience.announce held slot'.snapshot).events
    rw [hrefused]
  | _ => rfl

lemma Step.refusals_overflow {fault : Fault} (hstep : Step ring op run)
    (hfault : run.trace.result = .error fault) (htold : announcements run.trace.events ≠ []) :
    UInt64.size ≤ run.state.refusals + refusalsIn run.trace.events := by
  cases hstep with
  | @queriedOverflow held sequence store slot slot' hstore hslot hopen hfence hslot' hstage hfull =>
    obtain ⟨-, -, hrefused, -⟩ := ring.audience.announce_spec held slot'.snapshot
    change UInt64.size ≤ ring.refusals + refusalsIn _
    rw [hrefused]
    omega
  | beginOverflow | audienceFault | retireOverflow => exact absurd rfl htold
  | _ => cases hfault

lemma Step.query_overflow {held : Frame → Bool} {fault : Fault}
    (hstep : Step ring (.query held sequence) run) (hfault : run.trace.result = .error fault) :
    UInt64.size ≤ run.state.refusals + refusalsIn run.trace.events := by
  apply hstep.refusals_overflow hfault
  cases hstep with
  | @queriedOverflow _ _ store slot slot' =>
    obtain ⟨-, htold, -, -⟩ := ring.audience.announce_spec held slot'.snapshot
    rw [htold]
    exact List.cons_ne_nil _ _
  | _ => cases hfault

/-! ### Runs -/

lemma events_announcements (ring : Ring) (op : Op) :
    announcements (ring.events op) = announcements (ring.perform op).quiet.trace.events :=
  (announcements_filter _).symm

lemma events_refusals (ring : Ring) (op : Op) :
    refusalsIn (ring.events op) = refusalsIn (ring.perform op).quiet.trace.events :=
  (refusalsIn_filter _).symm

lemma heard_after (h : ring.WellFormed) (hheard : ring.Heard earlier) (ops : List Op) :
    (ring.after ops).Heard (earlier ++ successes (ring.entries ops)) :=
  h.noted_after hheard (fun _ _ _ _ hring hstep hbefore => hstep.heard hring hbefore) ops

lemma refusals_after (h : ring.WellFormed) (ops : List Op) :
    (ring.after ops).refusals = ring.refusals + refused (ring.entries ops) := by
  induction ops generalizing ring with
  | nil => rfl
  | cons op rest ih =>
    have hnext : (ring.next op).refusals = ring.refusals +
        if (ring.answer op).isOk then refusalsIn (ring.events op) else 0 := by
      rw [next_eq, answer_eq, events_refusals]
      exact (step h op).counts_refusals
    have hsplit : refused (ring.entries (op :: rest)) =
        (if (ring.answer op).isOk then refusalsIn (ring.events op) else 0) +
          refused ((ring.next op).entries rest) := by
      unfold refused
      rw [entries, List.filter_cons]
      by_cases hok : (ring.answer op).isOk
      · rw [if_pos hok, if_pos hok, List.flatMap_cons, refusalsIn_append]
      · rw [if_neg hok, if_neg hok, Nat.zero_add]
    rw [after_cons, ih (h.next op), hnext, hsplit, Nat.add_assoc]

lemma IsNew.heard (hnew : ring.IsNew) : ring.Heard [] := by
  obtain ⟨setup, store, -, rfl, -⟩ := hnew.exists_fresh
  constructor
  · intro sequence hmem
    cases hmem
  · intro sequence slot hslot
    obtain ⟨-, hbegun, -⟩ := holds_iff.mp (slot?_eq_some_iff.mp hslot).1
    exact absurd hbegun (Nat.not_lt_zero sequence)

lemma IsNew.refusals (hnew : ring.IsNew) : ring.refusals = 0 := by
  obtain ⟨setup, store, -, rfl, -⟩ := hnew.exists_fresh
  rfl

lemma mem_firstSuccess {answer : Except Fault Reply} {snapshot : Snapshot}
    (hmem : snapshot ∈ firstSuccess earlier op answer) :
    ∃ held sequence, op = .query held sequence ∧ answer = .ok (.snapshot snapshot) := by
  unfold firstSuccess at hmem
  split at hmem
  · next held sequence other =>
    split at hmem
    · rw [List.mem_singleton.mp hmem]
      exact ⟨held, sequence, rfl, rfl⟩
    · cases hmem
  · cases hmem

lemma exists_of_not_isOk {ε α : Type} {x : Except ε α} (h : x.isOk = false) :
    ∃ e, x = .error e := by
  cases x with
  | error e => exact ⟨e, rfl⟩
  | ok a => cases h

lemma sequence_view (h : ring.WellFormed) (sequence : Nat) :
    (ring.view sequence).sequence = sequence := by
  unfold view
  cases hslot : ring.slot? sequence with
  | none => rfl
  | some slot => exact h.sequence_eq hslot

/-- The audience is told of a unit within the first query that answers a success for it, exactly
once and with the snapshot of this answer, and by no other operation. An operation that does not
return after it told the audience has met more refusals than can be counted. The count of
refusals is that of the refused deliveries, and as long as it has room the audience has no
influence on anything else. -/
theorem announced_once (hnew : ring.IsNew) (ops : List Op) :
    (∀ before entry after, ring.entries ops = before ++ entry :: after → entry.answer.isOk →
      announcements entry.events = firstSuccess (successes before) entry.op entry.answer ∧
      ∀ snapshot ∈ announcements entry.events,
        ∃ held, entry.op = .query held snapshot.sequence) ∧
    (∀ entry ∈ ring.entries ops, entry.answer.isOk = false → announcements entry.events ≠ [] →
      UInt64.size ≤ entry.ring.refusals + refusalsIn entry.events) ∧
    (ring.after ops).refusals = refused (ring.entries ops) ∧
    ∀ ops', List.Forall₂ Op.Alike ops ops' →
      QueriesReturn (ring.entries ops) → QueriesReturn (ring.entries ops') →
      List.Forall₂ Entry.Agrees (ring.entries ops) (ring.entries ops') := by
  have h := hnew.wellFormed
  refine ⟨?_, ?_, ?_, ?_⟩
  · intro before entry after hsplit hreturned
    obtain ⟨earlier, later, -, rfl, hentry⟩ := exists_of_entries_eq hsplit
    have hring := hnew.wellFormed_after earlier
    have hstep := step hring entry.op
    have hheard := heard_after h hnew.heard earlier
    rw [List.nil_append] at hheard
    have hanswer := congrArg Entry.answer hentry
    have hevents := congrArg Entry.events hentry
    change entry.answer = (ring.after earlier).answer entry.op at hanswer
    change entry.events = (ring.after earlier).events entry.op at hevents
    rw [hanswer, answer_eq] at hreturned
    have htold : announcements entry.events =
        firstSuccess (successes (ring.entries earlier)) entry.op entry.answer := by
      rw [hevents, hanswer, events_announcements, answer_eq]
      exact hstep.announces hheard hreturned
    refine ⟨htold, ?_⟩
    intro snapshot hmem
    rw [htold, hanswer, answer_eq] at hmem
    obtain ⟨held, sequence, hop, hsnapshot⟩ := mem_firstSuccess hmem
    rw [hop] at hstep hsnapshot
    refine ⟨held, ?_⟩
    rcases hstep.answer_query hring with hview | ⟨hfault, -⟩
    · rw [hview, Except.ok.injEq, Reply.snapshot.injEq] at hsnapshot
      rw [← hsnapshot, sequence_view (hstep.wellFormed hring), hop]
    · rw [hfault] at hsnapshot
      cases hsnapshot
  · intro entry hmem hstopped htold
    obtain ⟨before, after, hsplit⟩ := List.append_of_mem hmem
    obtain ⟨earlier, later, -, -, hentry⟩ := exists_of_entries_eq hsplit
    have hstep := step (hnew.wellFormed_after earlier) entry.op
    rw [hentry] at hstopped htold ⊢
    change ((ring.after earlier).answer entry.op).isOk = false at hstopped
    change announcements ((ring.after earlier).events entry.op) ≠ [] at htold
    change UInt64.size ≤ ((ring.after earlier).next entry.op).refusals +
      refusalsIn ((ring.after earlier).events entry.op)
    rw [events_announcements] at htold
    rw [answer_eq] at hstopped
    rw [next_eq, events_refusals]
    obtain ⟨fault, hfault⟩ := exists_of_not_isOk hstopped
    exact hstep.refusals_overflow hfault htold
  · rw [refusals_after h ops, hnew.refusals, Nat.zero_add]
  · intro ops' halike hreturn hreturn'
    exact entries_agree h halike ring.audience ring.refusals hreturn hreturn'

/-- One consumer subscribes, and one unit is begun, retires and is asked for twice. -/
def tellOnce (consumer : ConsumerSetup) : List Op :=
  [.audience (fun _ => true) (.subscribe "consumer" consumer), .begin 7 none, .retire 0,
    .query (fun _ => true) 0, .query (fun _ => true) 0]

theorem announced_once_single :
    announcements ((single.after ((tellOnce .telemetry).take 3)).events
      (.query (fun _ => true) 0)) =
        [⟨0, some 7, none, .successful, [⟨⟨0⟩, .skipped, 0, some 0, none, [0]⟩]⟩] ∧
    announcements ((single.after ((tellOnce .telemetry).take 4)).events
      (.query (fun _ => true) 0)) = [] ∧
    (single.after (tellOnce (.callback (.cycling [.error .full])))).refusals = 1 ∧
    List.Forall₂ Entry.Agrees (single.entries (tellOnce .telemetry))
      (single.entries (tellOnce (.callback (.cycling [.error .full])))) := by
  obtain ⟨htold, -, -, hagree⟩ := announced_once isNew_single (tellOnce .telemetry)
  obtain ⟨-, -, hrefused, -⟩ :=
    announced_once isNew_single (tellOnce (.callback (.cycling [.error .full])))
  refine ⟨?_, ?_, hrefused.trans rfl, ?_⟩
  · exact (htold (single.entries ((tellOnce .telemetry).take 3)) _ _ rfl rfl).1
  · exact (htold (single.entries ((tellOnce .telemetry).take 4)) _ _ rfl rfl).1
  · apply hagree
    · exact .cons (.audience rfl rfl) (.cons .same (.cons .same (.cons .same (.cons .same .nil))))
    · intro entry hmem held sequence _
      exact List.all_eq_true.mp
        (rfl : (single.entries (tellOnce .telemetry)).all (·.answer.isOk) = true) entry hmem
    · intro entry hmem held sequence _
      exact List.all_eq_true.mp
        (rfl : (single.entries (tellOnce (.callback (.cycling [.error .full])))).all
          (·.answer.isOk) = true) entry hmem

end CompletionRing.Ring
