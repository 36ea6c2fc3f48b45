import CompletionRing.Proofs.Archive.Mirrors

/-!
# Archives simulate rings

An archive that is mirrored by a ring answers each operation as the ring does, and is mirrored by
the ring that the operation leaves, as long as the device writes to live units only.
-/

namespace CompletionRing

namespace Ring

lemma not_completed {stage : Stage} (hopen : stage.isSettled = false) : stage ≠ .completed := by
  rintro rfl
  cases hopen

variable {ring : Ring} {archive : Archive} {op : Op} {run : Run Ring Reply} {sequence : Nat}

/-- Does the archive answer an operation as the ring does, with the same notices, and does the
ring mirror the archive after it? -/
def Simulated (archive : Archive) (op : Op) (run : Run Ring Reply) : Prop :=
  (archive.perform op).trace = run.trace ∧ run.state.Mirrors (archive.perform op).state

lemma simulated_of_eq {archive' : Archive} (hperform : archive.perform op = ⟨archive', run.trace⟩)
    (hmirrors : run.state.Mirrors archive') : Simulated archive op run := by
  unfold Simulated
  rw [hperform]
  exact ⟨rfl, hmirrors⟩

lemma Step.begin_simulated {number : UInt32} {frame : Option Frame} (hring : ring.WellFormed)
    (h : ring.Mirrors archive) (hstep : Step ring (.begin number frame) run) :
    Simulated archive (.begin number frame) run := by
  have hsubmitted : archive.submitted = ring.submitted := h.submitted
  cases hstep with
  | beginDestroyed hstore =>
    refine simulated_of_eq ?_ h
    rw [Archive.perform, if_pos (h.destroyed_of_none hstore), h.name]
    rfl
  | beginOverflow hstore hfull =>
    refine simulated_of_eq ?_ h
    rw [Archive.perform, h.not_destroyed hstore, if_neg Bool.false_ne_true, hsubmitted,
      if_neg hfull]
    rfl
  | began hstore hroom =>
    refine simulated_of_eq ?_ (h.begun hring hstore number frame)
    rw [Archive.perform, h.not_destroyed hstore, if_neg Bool.false_ne_true, h.ticket_eq, hsubmitted,
      if_pos hroom]
    rfl

lemma Step.prepareRetry_simulated (hring : ring.WellFormed) (h : ring.Mirrors archive)
    (hstep : Step ring (.prepareRetry sequence) run) :
    Simulated archive (.prepareRetry sequence) run := by
  cases hstep with
  | retryDestroyed hstore =>
    refine simulated_of_eq ?_ h
    rw [Archive.perform, if_pos (h.destroyed_of_none hstore), h.name]
    rfl
  | retryStale hstore hlive =>
    refine simulated_of_eq ?_ h
    rw [Archive.perform, h.not_destroyed hstore, if_neg Bool.false_ne_true,
      h.dossier?_of_not_holds hlive]
    rfl
  | @retried _ store hstore hlive =>
    obtain ⟨slot, hslot, -⟩ := hring.exists_slot hlive
    obtain ⟨dossier, hdossier, -, hget, hyoung⟩ := h.exists_dossier hslot
    refine simulated_of_eq ?_ (h.cleared hring hstore hget hyoung)
    rw [Archive.perform, h.not_destroyed hstore, if_neg Bool.false_ne_true, hdossier, h.ticket_eq]
    rfl

lemma Step.query_simulated {held : Frame → Bool} (hring : ring.WellFormed)
    (h : ring.Mirrors archive) (hstep : Step ring (.query held sequence) run) :
    Simulated archive (.query held sequence) run := by
  cases hstep with
  | queriedOutside hlive =>
    refine simulated_of_eq ?_ h
    rw [Archive.perform, Archive.query, h.dossier?_of_not_holds hlive]
    rfl
  | queriedSettled hslot hsettled =>
    obtain ⟨dossier, hdossier, rfl, hget, -⟩ := h.exists_dossier hslot
    have hasked : dossier.asked archive.engines = dossier := if_pos hsettled
    have hstage : dossier.slot.stage = .completed ∨ dossier.slot.stage ≠ .completed :=
      Decidable.em _
    refine simulated_of_eq ?_ h
    rw [Archive.perform, Archive.query_unannounced hdossier hasked hstage,
      Archive.setDossier_self hget]
    rfl
  | @queriedWaiting _ _ store slot hstore hslot hopen hfence =>
    obtain ⟨dossier, hdossier, rfl, hget, hyoung⟩ := h.exists_dossier hslot
    have hrecords := h.records store hstore sequence dossier hget hyoung
    have hretired : ¬dossier.retired := by rwa [← hrecords.retired]
    have hasked : dossier.asked archive.engines = { dossier with slot := dossier.slot.waiting } := by
      unfold Dossier.asked
      rw [hopen, if_neg Bool.false_ne_true, if_neg hretired]
    have hsequence := hring.sequence_eq hslot
    refine simulated_of_eq ?_ (h.revise hring hslot hopen hget dossier.slot.waiting hsequence)
    rw [Archive.perform, Archive.query_unannounced hdossier hasked (Or.inr (by rintro ⟨⟩))]
    rfl
  | @queriedEvaluated _ _ store slot slot' hstore hslot hopen hfence hslot' hstage =>
    obtain ⟨dossier, hdossier, rfl, hget, hyoung⟩ := h.exists_dossier hslot
    have hasked := h.asked_of_retired hstore hget hyoung hopen hfence
    rw [← hslot'] at hasked
    have hsequence := hring.sequence_eq hslot
    have hsequence' : slot'.sequence = sequence := by
      rw [hslot']
      exact hsequence
    refine simulated_of_eq ?_ (h.revise hring hslot hopen hget slot' hsequence')
    rw [Archive.perform, Archive.query_unannounced hdossier hasked (Or.inr hstage)]
    rfl
  | @queriedCompleted _ _ store slot slot' hstore hslot hopen hfence hslot' hstage hroom =>
    obtain ⟨dossier, hdossier, rfl, hget, hyoung⟩ := h.exists_dossier hslot
    have hasked := h.asked_of_retired hstore hget hyoung hopen hfence
    rw [← hslot'] at hasked
    have hsequence := hring.sequence_eq hslot
    have hsequence' : slot'.sequence = sequence := by
      rw [hslot']
      exact hsequence
    have hmirrors := (h.revise hring hslot hopen hget slot' hsequence').told held slot'.snapshot
    refine simulated_of_eq ?_ hmirrors
    rw [Archive.perform, Archive.query_announced hdossier hasked (not_completed hopen) hstage,
      h.audience, h.refusals, if_pos hroom]
    rfl
  | @queriedOverflow _ _ store slot slot' hstore hslot hopen hfence hslot' hstage hfull =>
    obtain ⟨dossier, hdossier, rfl, hget, hyoung⟩ := h.exists_dossier hslot
    have hasked := h.asked_of_retired hstore hget hyoung hopen hfence
    rw [← hslot'] at hasked
    refine simulated_of_eq ?_ h
    rw [Archive.perform, Archive.query_announced hdossier hasked (not_completed hopen) hstage,
      h.audience, h.refusals, if_neg hfull]
    rfl

lemma Step.force_simulated {outOfRange : Bool} (hring : ring.WellFormed) (h : ring.Mirrors archive)
    (hstep : Step ring (.force sequence outOfRange) run) :
    Simulated archive (.force sequence outOfRange) run := by
  cases hstep with
  | forcedOutside hlive =>
    refine simulated_of_eq ?_ h
    cases outOfRange <;> rw [Archive.perform, h.dossier?_of_not_holds hlive] <;> rfl
  | disowned hslot =>
    obtain ⟨dossier, hdossier, rfl, -, -⟩ := h.exists_dossier hslot
    refine simulated_of_eq ?_ h
    rw [Archive.perform, hdossier]
    rfl
  | forcedSettled hslot hsettled =>
    obtain ⟨dossier, hdossier, rfl, hget, -⟩ := h.exists_dossier hslot
    have hgivenUp : dossier.givenUp = dossier := if_pos hsettled
    refine simulated_of_eq ?_ h
    rw [Archive.perform, hdossier]
    simp only [hgivenUp, Archive.setDossier_self hget]
    rfl
  | abandoned hslot hopen =>
    obtain ⟨dossier, hdossier, rfl, hget, -⟩ := h.exists_dossier hslot
    have hgivenUp : dossier.givenUp = { dossier with slot := dossier.slot.abandoned } := by
      unfold Dossier.givenUp
      rw [hopen, if_neg Bool.false_ne_true]
    have hsequence := hring.sequence_eq hslot
    refine simulated_of_eq ?_ (h.revise hring hslot hopen hget dossier.slot.abandoned hsequence)
    rw [Archive.perform, hdossier]
    simp only [hgivenUp]
    rfl

lemma Step.audience_simulated {held : Frame → Bool} {op : Audience.Op} (h : ring.Mirrors archive)
    (hstep : Step ring (.audience held op) run) : Simulated archive (.audience held op) run := by
  cases hstep with
  | @audience _ _ reply audience hop =>
    have hmirrors := h.withAudience audience ring.refusals
    refine simulated_of_eq ?_ hmirrors
    rw [Archive.perform, h.audience, hop, ← h.refusals]
    rfl
  | audienceFault hop =>
    refine simulated_of_eq ?_ h
    rw [Archive.perform, h.audience, hop]
    rfl

lemma Step.cancel_simulated {id : UInt32} (h : ring.Mirrors archive)
    (hstep : Step ring (.cancel id) run) : Simulated archive (.cancel id) run := by
  cases hstep with
  | cancelled =>
    have hmirrors := h.withAudience (ring.audience.cancel id).2 ring.refusals
    refine simulated_of_eq ?_ hmirrors
    rw [Archive.perform, h.audience, ← h.refusals]
    rfl

lemma Step.destroy_simulated {pool : Pool} (h : ring.Mirrors archive)
    (hstep : Step ring (.destroy pool) run) : Simulated archive (.destroy pool) run := by
  cases hstep with
  | destroyedAgain hstore =>
    have hsame : { archive with destroyed := true } = archive := by
      rw [← h.destroyed_of_none hstore]
    refine simulated_of_eq ?_ h
    rw [Archive.perform, hsame]
    rfl
  | destroyed hstore => exact simulated_of_eq rfl h.withoutStore

lemma knows_eq (hring : ring.WellFormed) (h : ring.Mirrors archive) {store : RecordStore}
    (hstore : ring.store = some store) (engine : Engine) (field : Field) :
    archive.knows engine field = store.knows engine field := by
  rw [RecordStore.knows_eq_layouts (hring.fits store hstore), h.layouts store hstore]
  rfl

lemma Step.write_simulated {engine : Engine} {field : Field} {datum : UInt32}
    (hring : ring.WellFormed) (h : ring.Mirrors archive) (hlive : ring.holds sequence)
    (hstep : Step ring (.write engine sequence field datum) run) :
    Simulated archive (.write engine sequence field datum) run := by
  cases hstep with
  | writeDestroyed hstore => exact absurd hlive (not_holds_of_store_none hstore)
  | @written _ _ _ _ store hstore =>
    obtain ⟨slot, hslot, -⟩ := hring.exists_slot hlive
    obtain ⟨dossier, hdossier, -, hget, hyoung⟩ := h.exists_dossier hslot
    cases hknows : store.knows engine field with
    | false =>
      have hsame : store.withField engine (ring.index sequence) field datum = store :=
        RecordStore.withField_of_not_knows (hring.fits store hstore) hknows
      have hring' : { ring with store := some store } = ring := by rw [← hstore]
      rw [hsame, hring']
      refine simulated_of_eq ?_ h
      rw [Archive.perform, h.not_destroyed hstore, if_neg Bool.false_ne_true, hdossier,
        knows_eq hring h hstore, hknows]
      rfl
    | true =>
      refine simulated_of_eq ?_ (h.withField hring hstore hget hyoung hknows datum)
      rw [Archive.perform, h.not_destroyed hstore, if_neg Bool.false_ne_true, hdossier,
        knows_eq hring h hstore, hknows]
      rfl

lemma Step.retire_simulated (hring : ring.WellFormed) (h : ring.Mirrors archive)
    (hlive : ring.holds sequence) (hstep : Step ring (.retire sequence) run) :
    Simulated archive (.retire sequence) run := by
  cases hstep with
  | retireDestroyed hstore => exact absurd hlive (not_holds_of_store_none hstore)
  | retireOverflow _ hfull => exact absurd (hring.succ_lt hlive) hfull
  | @retired _ store hstore hroom =>
    obtain ⟨slot, hslot, -⟩ := hring.exists_slot hlive
    obtain ⟨dossier, hdossier, -, hget, hyoung⟩ := h.exists_dossier hslot
    refine simulated_of_eq ?_ (h.withFence hring hstore hget hyoung hroom)
    rw [Archive.perform, h.not_destroyed hstore, if_neg Bool.false_ne_true, hdossier, h.ticket_eq]
    rfl

/-- The archive answers each step of the ring as the ring does, as long as the device writes to
live units only. -/
theorem Mirrors.simulated (hring : ring.WellFormed) (h : ring.Mirrors archive)
    (hstep : Step ring op run) (hdevice : ∀ sequence, op.touched? = some sequence →
      ring.holds sequence) : Simulated archive op run := by
  cases op with
  | begin number frame => exact hstep.begin_simulated hring h
  | prepareRetry sequence => exact hstep.prepareRetry_simulated hring h
  | query held sequence => exact hstep.query_simulated hring h
  | force sequence outOfRange => exact hstep.force_simulated hring h
  | audience held op => exact hstep.audience_simulated h
  | cancel id => exact hstep.cancel_simulated h
  | destroy pool => exact hstep.destroy_simulated h
  | write engine sequence field datum => exact hstep.write_simulated hring h (hdevice sequence rfl)
  | retire sequence => exact hstep.retire_simulated hring h (hdevice sequence rfl)

end Ring

end CompletionRing
