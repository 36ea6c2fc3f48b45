import CompletionRing.Proofs.Ring.Slots

/-!
# Answers that stay

Whatever the host and the device do, a terminal answer is repeated for as long as the unit is
live, and so is the answer that a unit was given up with. After that the unit is unavailable.
-/

namespace CompletionRing.Ring

variable {ring : Ring} {sequence : Nat} {slot : Slot} {snapshot : Snapshot} {held : Frame → Bool}

/-- Is the unit answered with this snapshot from now on, as long as it is live? -/
def Latched (ring : Ring) (sequence : Nat) (snapshot : Snapshot) : Prop :=
  ∀ later, (ring.after later).holds sequence → ∀ held,
    (ring.after later).answer (.query held sequence) = .ok (.snapshot snapshot) ∧
    (ring.after later).answer (.force sequence false) = .ok (.snapshot snapshot)

/-- Is the unit unavailable from now on, with nothing known of it? -/
def Forgotten (ring : Ring) (sequence : Nat) : Prop :=
  ∀ later held, (ring.after later).answer (.query held sequence) =
    .ok (.snapshot ⟨sequence, none, none, .unavailable, []⟩)

lemma not_open {slot' : Slot} (hslot : ring.slot? sequence = some slot)
    (hsettled : slot.stage.isSettled) (hslot' : ring.slot? sequence = some slot')
    (hopen : slot'.stage.isSettled = false) : False := by
  rw [hslot] at hslot'
  cases hslot'
  rw [hsettled] at hopen
  cases hopen

lemma Step.query_of_settled {run : Run Ring Reply} (hstep : Step ring (.query held sequence) run)
    (hslot : ring.slot? sequence = some slot) (hsettled : slot.stage.isSettled) :
    run.trace.result = .ok (.snapshot slot.snapshot) := by
  cases hstep with
  | queriedOutside hlive => exact absurd (slot?_eq_some_iff.mp hslot).1 hlive
  | queriedSettled hslot' =>
    rw [hslot] at hslot'
    cases hslot'
    rfl
  | queriedWaiting _ hslot' hopen => exact (not_open hslot hsettled hslot' hopen).elim
  | queriedEvaluated _ hslot' hopen => exact (not_open hslot hsettled hslot' hopen).elim
  | queriedCompleted _ hslot' hopen => exact (not_open hslot hsettled hslot' hopen).elim
  | queriedOverflow _ hslot' hopen => exact (not_open hslot hsettled hslot' hopen).elim

lemma Step.abandon_of_settled {run : Run Ring Reply}
    (hstep : Step ring (.force sequence false) run) (hslot : ring.slot? sequence = some slot)
    (hsettled : slot.stage.isSettled) : run.trace.result = .ok (.snapshot slot.snapshot) := by
  cases hstep with
  | forcedOutside hlive => exact absurd (slot?_eq_some_iff.mp hslot).1 hlive
  | forcedSettled hslot' =>
    rw [hslot] at hslot'
    cases hslot'
    rfl
  | abandoned hslot' hopen => exact (not_open hslot hsettled hslot' hopen).elim

lemma Step.query_of_not_holds {run : Run Ring Reply}
    (hstep : Step ring (.query held sequence) run) (hlive : ¬ring.holds sequence) :
    run.trace.result = .ok (.snapshot (.unavailable sequence)) := by
  rw [hstep.query_outside hlive]
  rfl

lemma settled_after (h : ring.WellFormed) (hslot : ring.slot? sequence = some slot)
    (hsettled : slot.stage.isSettled) (later : List Op) :
    (ring.after later).WellFormed ∧
      ((ring.after later).slot? sequence = some slot ∨ (ring.after later).Gone sequence) := by
  refine ⟨h.after later, ?_⟩
  apply h.kept_after (P := fun ring => ring.slot? sequence = some slot ∨ ring.Gone sequence)
    (Or.inl hslot)
  intro ring op run hring hstep hbefore
  rcases hbefore with hslot | hgone
  · exact hstep.keeps_settled hring hslot hsettled
  · exact Or.inr (hgone.step hstep)

lemma gone_after (h : ring.WellFormed) (hgone : ring.Gone sequence) (later : List Op) :
    (ring.after later).WellFormed ∧ (ring.after later).Gone sequence := by
  refine ⟨h.after later, ?_⟩
  apply h.kept_after (P := fun ring => ring.Gone sequence) hgone
  intro ring op run hring hstep hbefore
  exact hbefore.step hstep

lemma latched_of_settled (h : ring.WellFormed) (hslot : ring.slot? sequence = some slot)
    (hsettled : slot.stage.isSettled) : ring.Latched sequence slot.snapshot := by
  intro later hlive held
  obtain ⟨hring, hkept | hgone⟩ := settled_after h hslot hsettled later
  · exact ⟨(step hring (.query held sequence)).query_of_settled hkept hsettled,
      (step hring (.force sequence false)).abandon_of_settled hkept hsettled⟩
  · exact absurd hlive hgone.not_holds

lemma forgotten_of_gone (h : ring.WellFormed) (hgone : ring.Gone sequence) :
    ring.Forgotten sequence := by
  intro later held
  obtain ⟨hring, hgone'⟩ := gone_after h hgone later
  exact (step hring (.query held sequence)).query_of_not_holds hgone'.not_holds

lemma exists_resolved (hanswer : ring.view sequence = snapshot)
    (hterminal : snapshot.status.isTerminal) :
    ∃ slot, ring.slot? sequence = some slot ∧ slot.stage.isSettled ∧ slot.stage ≠ .abandoned ∧
      slot.snapshot = snapshot := by
  unfold view at hanswer
  cases hslot : ring.slot? sequence with
  | none =>
    rw [hslot] at hanswer
    subst hanswer
    cases hterminal
  | some slot =>
    rw [hslot] at hanswer
    subst hanswer
    have hstage : slot.stage = .completed ∨ slot.stage = .failed := by
      change slot.stage.status.isTerminal at hterminal
      cases hcase : slot.stage <;> simp_all [Stage.status, Status.isTerminal]
    refine ⟨slot, rfl, ?_, ?_, rfl⟩
    · rcases hstage with hstage | hstage <;> rw [hstage] <;> rfl
    · rcases hstage with hstage | hstage <;> rw [hstage] <;> decide

lemma exists_given_up (hanswer : ring.view sequence = snapshot)
    (hincomplete : snapshot.status = .incomplete) :
    ∃ slot, ring.slot? sequence = some slot ∧ slot.snapshot = snapshot := by
  unfold view at hanswer
  cases hslot : ring.slot? sequence with
  | none =>
    rw [hslot] at hanswer
    subst hanswer
    cases hincomplete
  | some slot =>
    rw [hslot] at hanswer
    exact ⟨slot, rfl, hanswer⟩

/-- Every terminal answer, and every answer that a unit was given up with, stays for as long as
the unit is live, and nothing is known of the unit after that. A unit that was given up is never
answered terminally, and one that was answered terminally is never given up. -/
theorem answers_stay (hnew : ring.IsNew) (before : List Op) (sequence : Nat) :
    (∀ held snapshot,
      (ring.after before).answer (.query held sequence) = .ok (.snapshot snapshot) →
      snapshot.status.isTerminal →
        ((ring.after before).next (.query held sequence)).Latched sequence snapshot ∧
        ∀ later, (((ring.after before).next (.query held sequence)).after later).hasAbandoned
          sequence = false) ∧
    (∀ snapshot,
      (ring.after before).answer (.force sequence false) = .ok (.snapshot snapshot) →
      snapshot.status = .incomplete →
        ((ring.after before).next (.force sequence false)).Latched sequence snapshot ∧
        ∀ later held snapshot',
          (((ring.after before).next (.force sequence false)).after later).answer
            (.query held sequence) = .ok (.snapshot snapshot') → ¬snapshot'.status.isTerminal) ∧
    ((ring.after before).isDestroyed ∨
        sequence < (ring.after before).submitted ∧ ¬(ring.after before).holds sequence →
      (ring.after before).Forgotten sequence) ∧
    ((ring.after before).hasAbandoned sequence →
      ∀ held, ∃ snapshot, snapshot.status = .incomplete ∧
        (ring.after before).answer (.query held sequence) = .ok (.snapshot snapshot)) := by
  have h := hnew.wellFormed_after before
  refine ⟨?_, ?_, ?_, ?_⟩
  · intro held snapshot hanswer hterminal
    have hstep := step h (.query held sequence)
    have hnext := h.next (.query held sequence)
    rw [answer_eq] at hanswer
    rw [next_eq] at hnext ⊢
    rcases hstep.answer_query h with hview | ⟨hfault, -⟩
    · rw [hview, Except.ok.injEq, Reply.snapshot.injEq] at hanswer
      obtain ⟨slot, hslot, hsettled, hresolved, rfl⟩ := exists_resolved hanswer hterminal
      refine ⟨latched_of_settled hnext hslot hsettled, ?_⟩
      intro later
      obtain ⟨-, hkept | hgone⟩ := settled_after hnext hslot hsettled later
      · rw [hasAbandoned, hkept, Option.any_some]
        simpa using hresolved
      · rw [hasAbandoned, slot?_eq_none hgone.not_holds, Option.any_none]
    · rw [hfault] at hanswer
      cases hanswer
  · intro snapshot hanswer hincomplete
    have hstep := step h (.force sequence false)
    have hnext := h.next (.force sequence false)
    rw [answer_eq] at hanswer
    rw [next_eq] at hnext ⊢
    obtain ⟨hview, hsettled⟩ := hstep.answer_abandon h
    rw [hview, Except.ok.injEq, Reply.snapshot.injEq] at hanswer
    obtain ⟨slot, hslot, rfl⟩ := exists_given_up hanswer hincomplete
    refine ⟨latched_of_settled hnext hslot (hsettled slot hslot), ?_⟩
    intro later held snapshot' hlater
    obtain ⟨hring, hkept | hgone⟩ := settled_after hnext hslot (hsettled slot hslot) later
    · have hquery := (step hring (.query held sequence)).query_of_settled hkept (hsettled slot hslot)
      rw [answer_eq, hquery, Except.ok.injEq, Reply.snapshot.injEq] at hlater
      rw [← hlater, hincomplete]
      decide
    · have hquery := (step hring (.query held sequence)).query_of_not_holds hgone.not_holds
      rw [answer_eq, hquery, Except.ok.injEq, Reply.snapshot.injEq] at hlater
      rw [← hlater]
      exact Bool.false_ne_true
  · intro hgone
    apply forgotten_of_gone h
    rcases hgone with hdestroyed | ⟨hbegun, hlive⟩
    · exact Or.inl (Option.isNone_iff_eq_none.mp hdestroyed)
    · exact gone_of_not_holds hbegun hlive
  · intro habandoned held
    obtain ⟨slot, hslot, hstage⟩ := Option.any_eq_true _ _ |>.mp habandoned
    have hstage : slot.stage = .abandoned := by simpa using hstage
    have hsettled : slot.stage.isSettled := by
      rw [hstage]
      rfl
    refine ⟨slot.snapshot, ?_, ?_⟩
    · change slot.stage.status = .incomplete
      rw [hstage]
      rfl
    · exact (step h (.query held sequence)).query_of_settled hslot hsettled

theorem answers_stay_single :
    ((single.after [.begin 7 none, .retire 0]).next (.query (fun _ => true) 0)).Latched 0
      ⟨0, some 7, none, .successful, [⟨⟨0⟩, .skipped, 0, some 0, none, [0]⟩]⟩ ∧
    ((single.after [.begin 7 none]).next (.force 0 false)).Latched 0
      ⟨0, some 7, none, .incomplete, []⟩ ∧
    (single.after [.begin 7 none, .begin 8 none]).Forgotten 0 := by
  obtain ⟨hsuccess, -⟩ := answers_stay isNew_single [.begin 7 none, .retire 0] 0
  obtain ⟨-, habandoned, -⟩ := answers_stay isNew_single [.begin 7 none] 0
  obtain ⟨-, -, hevicted, -⟩ := answers_stay isNew_single [.begin 7 none, .begin 8 none] 0
  refine ⟨(hsuccess _ _ rfl rfl).1, (habandoned _ rfl rfl).1, hevicted (Or.inr ⟨?_, ?_⟩)⟩
  · decide
  · decide

end CompletionRing.Ring
