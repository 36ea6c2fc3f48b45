import CompletionRing.Proofs.Archive.Refinement
import CompletionRing.Proofs.Device.Jobs
import CompletionRing.Proofs.Device.Plant

/-!
# Files and ledgers

The file on a unit agrees with the ledger: its records are primed until the unit's job ended, its
mark says whether the unit retired, and a settled slot has the status and the reports that the
ledger calls for.
-/

namespace CompletionRing

/-- Does the host begin a unit or ask for one, or does the audience change? -/
def Ring.Op.isHost : Ring.Op → Bool
  | .begin _ _ | .query _ _ | .audience _ _ | .cancel _ => true
  | _ => false

namespace Archive

variable {archive : Archive} {dossier : Dossier} {sequence : Nat}

def after (archive : Archive) (ops : List Ring.Op) : Archive := ops.foldl next archive

lemma of_dossier?_eq_some (h : archive.dossier? sequence = some dossier) :
    archive.destroyed = false ∧ archive.dossiers[sequence]? = some dossier ∧
      archive.submitted ≤ sequence + archive.window := by
  unfold dossier? at h
  split at h
  · next hlive =>
    rw [Bool.and_eq_true, Bool.not_eq_true', decide_eq_true_eq] at hlive
    exact ⟨hlive.1, h, hlive.2⟩
  · cases h

lemma dossier?_setDossier (h : archive.dossier? sequence = some dossier) (dossier' : Dossier) :
    (archive.setDossier sequence dossier').dossier? sequence = some dossier' := by
  obtain ⟨hdestroyed, hget, hyoung⟩ := of_dossier?_eq_some h
  have hlt := (List.getElem?_eq_some_iff.mp hget).1
  have hsubmitted : (archive.setDossier sequence dossier').submitted = archive.submitted :=
    List.length_set
  have hat : (archive.setDossier sequence dossier').dossiers[sequence]? = some dossier' :=
    List.getElem?_set_self hlt
  unfold dossier?
  rw [hsubmitted, hat]
  change (if (!archive.destroyed && decide (archive.submitted ≤ sequence + archive.window)) = true
    then _ else _) = _
  rw [hdestroyed, decide_eq_true hyoung]
  rfl

lemma setDossier_setDossier (archive : Archive) (sequence : Nat) (dossier dossier' : Dossier) :
    (archive.setDossier sequence dossier).setDossier sequence dossier' =
      archive.setDossier sequence dossier' := by
  unfold setDossier
  rw [List.set_set]

lemma next_write (h : archive.dossier? sequence = some dossier) (engine : Engine) (field : Field)
    (datum : UInt32) :
    archive.next (.write engine sequence field datum) = archive.setDossier sequence
      (if archive.knows engine field then dossier.withField engine field datum else dossier) := by
  obtain ⟨hdestroyed, hget, -⟩ := of_dossier?_eq_some h
  rw [next, perform, hdestroyed, if_neg Bool.false_ne_true, h]
  by_cases hknows : archive.knows engine field
  · simp only [hknows, if_true]
    rfl
  · simp only [hknows, Bool.false_eq_true, if_false, setDossier_self hget]
    rfl

lemma next_retire (h : archive.dossier? sequence = some dossier) :
    archive.next (.retire sequence) =
      archive.setDossier sequence { dossier with retired := true } := by
  obtain ⟨hdestroyed, -, -⟩ := of_dossier?_eq_some h
  rw [next, perform, hdestroyed, if_neg Bool.false_ne_true, h]
  rfl

lemma after_writes (h : archive.dossier? sequence = some dossier)
    (writes : List (Engine × Field × UInt32)) :
    archive.after (writes.map fun (engine, field, datum) => .write engine sequence field datum) =
      archive.setDossier sequence (dossier.stored archive.engines writes) := by
  induction writes generalizing archive dossier with
  | nil => exact (setDossier_self (of_dossier?_eq_some h).2.1).symm
  | cons write rest ih =>
    obtain ⟨engine, field, datum⟩ := write
    have hnext := ih (dossier?_setDossier h
      (if archive.knows engine field then dossier.withField engine field datum else dossier))
    rw [setDossier_setDossier] at hnext
    rw [List.map_cons]
    change (archive.next (.write engine sequence field datum)).after _ = _
    rw [next_write h]
    exact hnext

theorem after_job {job : Job} (h : archive.dossier? job.sequence = some dossier) :
    archive.after job.ops =
      archive.setDossier job.sequence (dossier.ran archive.engines job) := by
  have hstored := after_writes h job.writes
  unfold Job.ops Dossier.ran
  cases hhangs : job.hangs with
  | true =>
    rw [if_pos rfl, List.append_nil, hstored, Bool.not_true, Bool.or_false,
      ← dossier.retired_stored archive.engines job.writes]
  | false =>
    have hlast := next_retire (dossier?_setDossier h (dossier.stored archive.engines job.writes))
    rw [setDossier_setDossier] at hlast
    rw [if_neg Bool.false_ne_true, Bool.not_false, Bool.or_true, ← hlast, ← hstored]
    exact List.foldl_append

lemma query_cases (h : archive.dossier? sequence = some dossier) (held : Frame → Bool) :
    (∃ archive' events, archive.perform (.query held sequence) = ⟨archive', events,
        .ok (.snapshot (dossier.asked archive.engines).slot.snapshot)⟩ ∧
      archive'.engines = archive.engines ∧
      archive'.dossiers = archive.dossiers.set sequence (dossier.asked archive.engines)) ∨
    (∃ events, archive.perform (.query held sequence) = ⟨archive, events, .error .overflow⟩) ∧
      (dossier.asked archive.engines).slot.stage = .completed := by
  obtain ⟨asked, hasked⟩ : ∃ asked, dossier.asked archive.engines = asked := ⟨_, rfl⟩
  rw [hasked, perform]
  by_cases hfirst : dossier.slot.stage ≠ .completed ∧ asked.slot.stage = .completed
  · rw [query_announced h hasked hfirst.1 hfirst.2]
    split
    · exact Or.inl ⟨_, _, rfl, rfl, rfl⟩
    · exact Or.inr ⟨⟨_, rfl⟩, hfirst.2⟩
  · have hstage : dossier.slot.stage = .completed ∨ asked.slot.stage ≠ .completed := by
      by_cases hbefore : dossier.slot.stage = .completed
      · exact Or.inl hbefore
      · exact Or.inr fun hafter => hfirst ⟨hbefore, hafter⟩
    rw [query_unannounced h hasked hstage]
    exact Or.inl ⟨_, _, rfl, rfl, rfl⟩

lemma next_cases {op : Ring.Op} (hop : op.isHost) :
    (archive.next op).engines = archive.engines ∧
      ((archive.next op).dossiers = archive.dossiers ∨
      (∃ number frame, (archive.next op).dossiers =
        archive.dossiers ++ [.begun archive.submitted number frame]) ∨
      ∃ sequence dossier, archive.dossier? sequence = some dossier ∧
        (archive.next op).dossiers =
          archive.dossiers.set sequence (dossier.asked archive.engines)) := by
  rw [next]
  cases op with
  | begin number frame =>
    rw [perform]
    split_ifs
    · exact ⟨rfl, Or.inl rfl⟩
    · exact ⟨rfl, Or.inr (Or.inl ⟨number, frame, rfl⟩)⟩
    · exact ⟨rfl, Or.inl rfl⟩
  | query held sequence =>
    cases hdossier : archive.dossier? sequence with
    | none =>
      rw [perform, query, hdossier]
      exact ⟨rfl, Or.inl rfl⟩
    | some dossier =>
      rcases query_cases hdossier held with
        ⟨archive', events, hperform, hengines, hdossiers⟩ | ⟨⟨events, hperform⟩, -⟩
      · rw [hperform]
        exact ⟨hengines, Or.inr (Or.inr ⟨sequence, dossier, hdossier, hdossiers⟩)⟩
      · rw [hperform]
        exact ⟨rfl, Or.inl rfl⟩
  | audience held op =>
    rw [perform]
    cases archive.audience.perform held op with
    | error fault => exact ⟨rfl, Or.inl rfl⟩
    | ok answer => exact ⟨rfl, Or.inl rfl⟩
  | cancel id => exact ⟨rfl, Or.inl rfl⟩
  | prepareRetry | force | destroy | write | retire => cases hop

end Archive

namespace Ring

variable {ring : Ring} {archive : Archive} {sequence : Nat}

lemma Mirrors.after_touched (hring : ring.WellFormed) (h : ring.Mirrors archive)
    (hlive : ring.holds sequence) {ops : List Op} (hops : ∀ op ∈ ops, op.touched? = some sequence) :
    (ring.after ops).Mirrors (archive.after ops) := by
  induction ops generalizing ring archive with
  | nil => exact h
  | cons op rest ih =>
    have htouches := hops op List.mem_cons_self
    obtain ⟨hholds, -, -⟩ := (step hring op).touched htouches
    have hdevice : op.touched?.all ring.holds := by
      rw [htouches]
      exact hlive
    have hlive' : (ring.next op).holds sequence := by
      rw [next_eq, hholds]
      exact hlive
    exact ih (hring.next op) (h.next hring hdevice).2 hlive'
      fun op hmem => hops op (List.mem_cons_of_mem _ hmem)

end Ring

lemma Stage.status_ofStatus {status : Status} (h : status.isTerminal) :
    (Stage.ofStatus status).status = status := by
  cases status with
  | successful | error => rfl
  | unavailable | incomplete => cases h

namespace Dossier

/-- Is the file what the ledger calls for? -/
structure Agrees (dossier : Dossier) (engines : List (Engine × Layout)) (sequence : Nat)
    (progress : Progress) : Prop where
  retired : dossier.retired = progress.hasRetired engines
  primed : progress.hasEnded = false → ∀ engine field,
    dossier.fields engine field = field.primed
  reports : dossier.reports engines = progress.reports engines sequence
  settled : dossier.slot.stage.isSettled → progress.hasRetired engines ∧
    dossier.slot.status = progress.status engines ∧
    dossier.slot.reports = progress.reports engines sequence

variable {dossier : Dossier} {engines : List (Engine × Layout)} {sequence : Nat}
  {progress : Progress}

lemma agrees_begun (engines : List (Engine × Layout)) (sequence : Nat) (number : UInt32)
    (frame : Option Frame) : (begun sequence number frame).Agrees engines sequence .idle where
  retired := rfl
  primed := fun _ _ _ => rfl
  reports := by
    apply List.map_congr_left
    rintro ⟨engine, layout⟩ -
    exact Conduct.ofFields_primed engine layout
  settled := by rintro ⟨⟩

namespace Agrees

lemma kicked (h : dossier.Agrees engines sequence .idle) (conduct : Engine → Conduct) :
    dossier.Agrees engines sequence (.kicked conduct) :=
  ⟨h.retired, h.primed, h.reports, h.settled⟩

lemma withSlot (h : dossier.Agrees engines sequence progress) (slot : Slot)
    (hsettled : slot.stage.isSettled → progress.hasRetired engines ∧
      slot.status = progress.status engines ∧ slot.reports = progress.reports engines sequence) :
    { dossier with slot }.Agrees engines sequence progress :=
  ⟨h.retired, h.primed, h.reports, hsettled⟩

lemma evaluated (h : dossier.Agrees engines sequence progress) (hengines : engines ≠ [])
    (hretired : dossier.retired) :
    (dossier.slot.evaluated (dossier.reports engines)).status = progress.status engines ∧
      (dossier.slot.evaluated (dossier.reports engines)).reports =
        progress.reports engines sequence := by
  have hretired' : progress.hasRetired engines := by rwa [← h.retired]
  obtain ⟨hstatus, hterminal⟩ := Progress.status_of_hasRetired hengines sequence hretired'
  rw [h.reports]
  refine ⟨?_, rfl⟩
  change (Stage.ofStatus (Status.ofReports (progress.reports engines sequence))).status = _
  rw [hstatus, Stage.status_ofStatus hterminal]

lemma asked (h : dossier.Agrees engines sequence progress) (hengines : engines ≠ []) :
    (dossier.asked engines).Agrees engines sequence progress := by
  unfold Dossier.asked
  split_ifs with hsettled hretired
  · exact h
  · have hretired' : progress.hasRetired engines := by rwa [← h.retired]
    exact h.withSlot _ fun _ => ⟨hretired', h.evaluated hengines hretired⟩
  · exact h.withSlot _ (by rintro ⟨⟩)

lemma snapshot_asked (h : dossier.Agrees engines sequence progress) (hengines : engines ≠ []) :
    (dossier.asked engines).slot.snapshot.status = progress.status engines ∧
      ((progress.status engines).isTerminal → (dossier.asked engines).slot.snapshot.reports =
        progress.reports engines sequence) := by
  unfold Dossier.asked
  split_ifs with hsettled hretired
  · obtain ⟨-, hstatus, hreports⟩ := h.settled hsettled
    exact ⟨hstatus, fun _ => hreports⟩
  · obtain ⟨hstatus, hreports⟩ := h.evaluated hengines hretired
    exact ⟨hstatus, fun _ => hreports⟩
  · have hwaiting : progress.status engines = .incomplete := by
      apply Progress.status_of_not_hasRetired
      rw [← h.retired]
      exact Bool.not_eq_true _ ▸ hretired
    rw [hwaiting]
    exact ⟨rfl, by rintro ⟨⟩⟩

lemma ended {job : Job} {conduct : Engine → Conduct}
    (h : dossier.Agrees engines job.sequence (.kicked conduct))
    (hnodup : (engines.map (·.1)).Nodup)
    (hcovers : EngineTable.Covers job.conducts (engines.map (·.1)) conduct) :
    (dossier.ran engines job).Agrees engines job.sequence (.ended conduct) := by
  have hretired : dossier.retired = false := h.retired
  have hhangs : job.hangs = engines.any fun entry => conduct entry.1 = .hang := by
    have hany := hcovers.any fun conduct => decide (conduct = .hang)
    rw [List.any_map] at hany
    exact hany
  constructor
  · change (dossier.retired || !job.hangs) = _
    rw [hretired, Bool.false_or, hhangs]
    rfl
  · rintro ⟨⟩
  · exact reports_ran_primed hnodup hcovers (h.primed rfl)
  · rw [slot_ran]
    intro hsettled
    cases (h.settled hsettled).1

end Agrees

end Dossier

end CompletionRing
