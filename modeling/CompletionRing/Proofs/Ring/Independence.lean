import CompletionRing.Proofs.Ring.Slots

/-!
# The ring does not depend on its audience

Two runs that differ in nothing but what they do to the audience, and hence in what the consumers
answer, give the same answers and leave the same slots and memory.
-/

namespace CompletionRing.Ring

/-- The ring with another audience and another count of refusals. -/
def facing (ring : Ring) (audience : Audience) (refusals : Nat) : Ring :=
  { ring with audience, refusals }

/-- Does the operation concern nothing but the audience? -/
def Op.isAudience : Op → Bool
  | .audience _ _ | .cancel _ => true
  | _ => false

/-- Is the operation the same, but for what it does to the audience? -/
inductive Op.Alike : Op → Op → Prop
  | same {op} : Alike op op
  | query {held held' sequence} : Alike (.query held sequence) (.query held' sequence)
  | audience {op op' : Op} (hop : op.isAudience) (hop' : op'.isAudience) : Alike op op'

/-- Do two operations of two runs have the same answer, unless they concern the audience, and do
they leave the same ring but for the audience? -/
structure Entry.Agrees (entry entry' : Entry) : Prop where
  answer : entry.op.isAudience = false → entry'.answer = entry.answer
  ring : entry'.ring = entry.ring.facing entry'.ring.audience entry'.ring.refusals

/-- The slot of a unit that is not settled after it was asked for. -/
def followed (store : RecordStore) (index : Nat) (slot : Slot) : Slot :=
  if slot.sequence < store.fenceNumber index then slot.evaluated (store.readings index)
  else slot.waiting

/-- The ring after a query, but for the audience. -/
def asked (ring : Ring) (sequence : Nat) : Ring :=
  match ring.store, ring.slot? sequence with
  | some store, some slot =>
    if slot.stage.isSettled then ring else ring.revise (followed store (ring.index sequence) slot)
  | _, _ => ring

variable {ring ring' : Ring} {op op' : Op} {sequence : Nat} {held : Frame → Bool}
  {audience : Audience} {refusals : Nat}

/-! ### Operations that the audience has no part in -/

lemma begin_facing (number : UInt32) (frame : Option Frame) :
    (ring.facing audience refusals).begin number frame =
      (fun answer => (answer.1, answer.2.facing audience refusals)) <$>
        ring.begin number frame := by
  unfold begin
  cases hstore : ring.store with
  | none =>
    simp only [facing, hstore, map_pure]
  | some store =>
    simp only [facing, hstore, map_bind, map_pure]
    rfl

lemma prepareRetry_facing (sequence : Nat) :
    (ring.facing audience refusals).prepareRetry sequence =
      (fun answer => (answer.1, answer.2.facing audience refusals)) <$>
        ring.prepareRetry sequence := by
  have hslot : (ring.facing audience refusals).slot? sequence = ring.slot? sequence := rfl
  unfold prepareRetry
  rw [hslot]
  cases hstore : ring.store with
  | none =>
    simp only [facing, hstore, map_pure]
  | some store =>
    cases ring.slot? sequence with
    | none =>
      simp only [facing, hstore, map_pure]
    | some slot =>
      by_cases hterminal : slot.status.isTerminal
      · simp only [facing, hstore, hterminal, if_true, map_bind, map_pure]
        rfl
      · simp only [facing, hstore, hterminal, Bool.false_eq_true, if_false, map_bind, map_pure]
        rfl

lemma force_facing (sequence : Nat) (outOfRange : Bool) :
    (ring.facing audience refusals).force sequence outOfRange =
      (fun answer => (answer.1, answer.2.facing audience refusals)) <$>
        ring.force sequence outOfRange := by
  have hslot : (ring.facing audience refusals).slot? sequence = ring.slot? sequence := rfl
  unfold force
  cases outOfRange with
  | true =>
    simp only [if_true, map_bind, map_pure]
    rfl
  | false =>
    unfold abandon
    rw [hslot]
    cases ring.slot? sequence with
    | none => rfl
    | some slot =>
      by_cases hterminal : slot.status.isTerminal
      · simp only [hterminal, Bool.false_eq_true, if_false, if_true, map_pure]
      · by_cases hsettled : slot.stage.isSettled
        · simp only [hterminal, hsettled, Bool.false_eq_true, if_false, if_true, map_bind, map_pure]
          rfl
        · simp only [hterminal, hsettled, Bool.false_eq_true, if_false, map_bind, map_pure]
          rfl

lemma destroy_facing (pool : Pool) :
    (ring.facing audience refusals).destroy pool =
      (fun answer => (answer.1.facing audience refusals, answer.2)) <$> ring.destroy pool := by
  unfold destroy
  cases hstore : ring.store with
  | none =>
    simp only [facing, hstore, map_pure]
  | some store =>
    simp only [facing, hstore, map_bind, map_pure]

lemma write_facing (engine : Engine) (sequence : Nat) (field : Field) (datum : UInt32) :
    (ring.facing audience refusals).write engine sequence field datum =
      (fun answer => (answer.1, answer.2.facing audience refusals)) <$>
        ring.write engine sequence field datum := by
  unfold write
  cases hstore : ring.store with
  | none =>
    simp only [facing, hstore, map_pure]
  | some store =>
    simp only [facing, hstore, map_bind, map_pure]
    rfl

lemma retire_facing (sequence : Nat) :
    (ring.facing audience refusals).retire sequence =
      (fun answer => (answer.1, answer.2.facing audience refusals)) <$> ring.retire sequence := by
  unfold retire
  cases hstore : ring.store with
  | none =>
    simp only [facing, hstore, map_pure]
  | some store =>
    simp only [facing, hstore, map_bind, map_pure]
    rfl

lemma ofTraced_facing (x : Traced (Reply × Ring)) :
    Run.ofTraced (ring.facing audience refusals)
        ((fun answer => (answer.1, answer.2.facing audience refusals)) <$> x) =
      (Run.ofTraced ring x).within (·.facing audience refusals) := by
  obtain ⟨events, result⟩ := x
  cases result with
  | error fault => rfl
  | ok answer =>
    have hevents : events ++ [] = events := List.append_nil events
    change (⟨_, events ++ [], _⟩ : Run Ring Reply) = _
    rw [hevents]
    rfl

lemma liftM_map {α β : Type} (f : α → β) (x : Except Fault α) :
    (liftM (f <$> x) : Traced β) = f <$> (liftM x : Traced α) := by
  cases x <;> rfl

lemma perform_facing (hop : op.isAudience = false)
    (hquery : ∀ held sequence, op ≠ .query held sequence) :
    (ring.facing audience refusals).perform op =
      (ring.perform op).within (·.facing audience refusals) := by
  cases op with
  | begin number frame =>
    simp only [perform, begin_facing, bind_map_left, ← ofTraced_facing, map_bind, map_pure]
  | prepareRetry sequence =>
    simp only [perform, prepareRetry_facing, bind_map_left, ← ofTraced_facing, map_bind, map_pure]
  | query held sequence => exact absurd rfl (hquery held sequence)
  | force sequence outOfRange =>
    simp only [perform, force_facing, bind_map_left, ← ofTraced_facing, map_bind, map_pure]
  | audience held op => cases hop
  | cancel id => cases hop
  | destroy pool =>
    simp only [perform, destroy_facing, bind_map_left, ← ofTraced_facing, map_bind, map_pure]
  | write engine sequence field datum =>
    simp only [perform, write_facing, liftM_map, bind_map_left, ← ofTraced_facing, map_bind, map_pure]
  | retire sequence =>
    simp only [perform, retire_facing, liftM_map, bind_map_left, ← ofTraced_facing, map_bind, map_pure]

/-! ### Queries -/

lemma asked_facing (sequence : Nat) :
    (ring.facing audience refusals).asked sequence =
      (ring.asked sequence).facing audience refusals := by
  have hslot : (ring.facing audience refusals).slot? sequence = ring.slot? sequence := rfl
  have hstore : (ring.facing audience refusals).store = ring.store := rfl
  unfold asked
  rw [hslot, hstore]
  cases ring.store with
  | none => rfl
  | some store =>
    cases ring.slot? sequence with
    | none => rfl
    | some slot =>
      by_cases hsettled : slot.stage.isSettled
      · simp only [hsettled, if_true]
      · simp only [hsettled, Bool.false_eq_true, if_false]
        rfl

lemma asked_of_not_holds (hlive : ¬ring.holds sequence) : ring.asked sequence = ring := by
  unfold asked
  rw [slot?_eq_none hlive]
  cases ring.store <;> rfl

lemma asked_of_settled {slot : Slot} (hslot : ring.slot? sequence = some slot)
    (hsettled : slot.stage.isSettled) : ring.asked sequence = ring := by
  obtain ⟨store, hstore⟩ := exists_store (slot?_eq_some_iff.mp hslot).1
  unfold asked
  rw [hstore, hslot]
  exact if_pos hsettled

lemma asked_of_open {store : RecordStore} {slot : Slot} (hstore : ring.store = some store)
    (hslot : ring.slot? sequence = some slot) (hopen : slot.stage.isSettled = false) :
    ring.asked sequence = ring.revise (followed store (ring.index sequence) slot) := by
  unfold asked
  rw [hstore, hslot]
  simp only [hopen, Bool.false_eq_true, if_false]

theorem Step.asked {run : Run Ring Reply} {reply : Reply} (h : ring.WellFormed)
    (hstep : Step ring (.query held sequence) run) (hreply : run.trace.result = .ok reply) :
    run.state = (ring.asked sequence).facing run.state.audience run.state.refusals ∧
      reply = .snapshot ((ring.asked sequence).view sequence) := by
  have hstate : run.state = (ring.asked sequence).facing run.state.audience run.state.refusals := by
    cases hstep with
    | queriedOutside hlive =>
      rw [asked_of_not_holds hlive]
      rfl
    | queriedSettled hslot hsettled =>
      rw [asked_of_settled hslot hsettled]
      rfl
    | @queriedWaiting _ _ store slot hstore hslot hopen hfence =>
      have hfollowed : followed store (ring.index sequence) slot = slot.waiting := by
        rw [followed, h.sequence_eq hslot, if_neg hfence]
      rw [asked_of_open hstore hslot hopen, hfollowed]
      rfl
    | @queriedEvaluated _ _ store slot slot' hstore hslot hopen hfence hslot' =>
      have hfollowed : followed store (ring.index sequence) slot = slot' := by
        rw [followed, h.sequence_eq hslot, if_pos hfence, hslot']
      rw [asked_of_open hstore hslot hopen, hfollowed]
      rfl
    | @queriedCompleted _ _ store slot slot' hstore hslot hopen hfence hslot' =>
      have hfollowed : followed store (ring.index sequence) slot = slot' := by
        rw [followed, h.sequence_eq hslot, if_pos hfence, hslot']
      rw [asked_of_open hstore hslot hopen, hfollowed]
      rfl
    | queriedOverflow => cases hreply
  refine ⟨hstate, ?_⟩
  rcases hstep.answer_query h with hview | ⟨hfault, -⟩
  · rw [hview, Except.ok.injEq] at hreply
    rw [← hreply, hstate]
    rfl
  · rw [hfault] at hreply
    cases hreply

/-! ### Two runs -/

/-- Do all queries of a run come to their end? Only the count of refusals can stop them. -/
def QueriesReturn (entries : List Entry) : Prop :=
  ∀ entry ∈ entries, ∀ held sequence, entry.op = .query held sequence → entry.answer.isOk

lemma exists_of_isOk {ε α : Type} {x : Except ε α} (h : x.isOk) : ∃ a, x = .ok a := by
  cases x with
  | error e => cases h
  | ok a => exact ⟨a, rfl⟩

/-- An operation and what came of it. -/
def entry (ring : Ring) (op : Op) : Entry := ⟨op, ring.answer op, ring.events op, ring.next op⟩

lemma agrees_query (h : ring.WellFormed) {held held' : Frame → Bool}
    (hreturn : (ring.answer (.query held sequence)).isOk)
    (hreturn' : ((ring.facing audience refusals).answer (.query held' sequence)).isOk) :
    (ring.entry (.query held sequence)).Agrees
      ((ring.facing audience refusals).entry (.query held' sequence)) := by
  have h' : (ring.facing audience refusals).WellFormed := h.withAudience audience refusals
  obtain ⟨reply, hreply⟩ := exists_of_isOk hreturn
  obtain ⟨reply', hreply'⟩ := exists_of_isOk hreturn'
  obtain ⟨hstate, hanswer⟩ := (step h (.query held sequence)).asked h hreply
  obtain ⟨hstate', hanswer'⟩ := (step h' (.query held' sequence)).asked h' hreply'
  rw [asked_facing] at hstate' hanswer'
  constructor
  · intro _
    change (ring.facing audience refusals).answer _ = ring.answer _
    rw [hreply, hreply', hanswer, hanswer']
    rfl
  · change (ring.facing audience refusals).next (.query held' sequence) =
      (ring.next (.query held sequence)).facing _ _
    rw [next_eq, next_eq, hstate, hstate']
    rfl

lemma Step.of_isAudience {run : Run Ring Reply} (hstep : Step ring op run) (hop : op.isAudience) :
    run.state = ring.facing run.state.audience ring.refusals := by
  cases hstep with
  | audience | audienceFault | cancelled => rfl
  | _ => cases hop

lemma eq_facing (hring' : ring' = ring.facing audience refusals) :
    ring' = ring.facing ring'.audience ring'.refusals := by
  rw [hring']
  rfl

lemma agrees_audience (h : ring.WellFormed) (hop : op.isAudience) (hop' : op'.isAudience) :
    (ring.entry op).Agrees ((ring.facing audience refusals).entry op') := by
  have h' : (ring.facing audience refusals).WellFormed := h.withAudience audience refusals
  constructor
  · intro hnot
    change op.isAudience = false at hnot
    rw [hop] at hnot
    cases hnot
  · have hstate := (step h op).of_isAudience hop
    have hstate' := (step h' op').of_isAudience hop'
    rw [← next_eq] at hstate hstate'
    have hnext : (ring.facing audience refusals).next op' =
        (ring.next op).facing ((ring.facing audience refusals).next op').audience refusals := by
      rw [hstate]
      exact hstate'
    exact eq_facing hnext

lemma agrees_of_alike (h : ring.WellFormed) (halike : op.Alike op')
    (hreturn : ∀ held sequence, op = .query held sequence → (ring.answer op).isOk)
    (hreturn' : ∀ held sequence, op' = .query held sequence →
      ((ring.facing audience refusals).answer op').isOk) :
    (ring.entry op).Agrees ((ring.facing audience refusals).entry op') := by
  cases halike with
  | query => exact agrees_query h (hreturn _ _ rfl) (hreturn' _ _ rfl)
  | audience hop hop' => exact agrees_audience h hop hop'
  | same =>
    by_cases hquery : ∃ held sequence, op = .query held sequence
    · obtain ⟨held, sequence, rfl⟩ := hquery
      exact agrees_query h (hreturn _ _ rfl) (hreturn' _ _ rfl)
    · cases hop : op.isAudience with
      | true => exact agrees_audience h hop hop
      | false =>
        have hperform : (ring.facing audience refusals).perform op =
            (ring.perform op).within (·.facing audience refusals) := by
          apply perform_facing hop
          intro held sequence he
          exact hquery ⟨held, sequence, he⟩
        constructor
        · intro _
          change ((ring.facing audience refusals).perform op).trace.result = _
          rw [hperform]
          rfl
        · have hnext : (ring.facing audience refusals).next op =
              (ring.next op).facing audience refusals := congrArg Run.state hperform
          exact eq_facing hnext

/-- Two runs that differ only in what they do to the audience agree throughout, as long as no
query stops because of too many refusals. -/
theorem entries_agree (h : ring.WellFormed) {ops ops' : List Op}
    (halike : List.Forall₂ Op.Alike ops ops') (audience : Audience) (refusals : Nat)
    (hreturn : QueriesReturn (ring.entries ops))
    (hreturn' : QueriesReturn ((ring.facing audience refusals).entries ops')) :
    List.Forall₂ Entry.Agrees (ring.entries ops)
      ((ring.facing audience refusals).entries ops') := by
  induction halike generalizing ring audience refusals with
  | nil => exact .nil
  | @cons op op' rest rest' hop hrest ih =>
    have hagrees : (ring.entry op).Agrees ((ring.facing audience refusals).entry op') := by
      apply agrees_of_alike h hop
      · intro held sequence he
        exact hreturn _ List.mem_cons_self held sequence he
      · intro held sequence he
        exact hreturn' _ List.mem_cons_self held sequence he
    have hnext : (ring.facing audience refusals).next op' = (ring.next op).facing _ _ :=
      hagrees.ring
    refine .cons hagrees ?_
    rw [hnext]
    apply ih (h.next op)
    · intro entry hmem
      exact hreturn entry (List.mem_cons_of_mem _ hmem)
    · rw [← hnext]
      intro entry hmem
      exact hreturn' entry (List.mem_cons_of_mem _ hmem)

end CompletionRing.Ring
