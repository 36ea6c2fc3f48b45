import CompletionRing.Proofs.Device.Files
import CompletionRing.Proofs.Device.Traffic
import Mathlib.Data.List.InsertIdx
import Mathlib.Data.List.Nodup

/-!
# Orderly runs

A plant follows the ledger of its run as long as units are kicked once and jobs run while their
units are live: the files on the units and the queue are what the ledger says.
-/

namespace CompletionRing

lemma Ledger.due?_eq {device : Device} {ledger : Ledger}
    (hqueue : device.queue.map (·.sequence) = ledger.queue) (choice : Choice) :
    ledger.due? choice = (device.due? choice).map (·.sequence) := by
  cases choice with
  | oldest => rw [due?, ← hqueue, List.head?_eq_getElem?, List.getElem?_map, Device.due?]
  | picked pick => rw [due?, ← hqueue, List.length_map, List.getElem?_map, Device.due?]
  | unit sequence =>
    rw [due?, ← hqueue, Device.due?]
    cases hjob : device.queue.find? (·.sequence = sequence) with
    | none =>
      rw [List.find?_eq_none] at hjob
      refine if_neg ?_
      intro hmem
      obtain ⟨job, hother, hsame⟩ := List.mem_map.mp hmem
      exact hjob job hother (decide_eq_true hsame)
    | some job =>
      have hsame : job.sequence = sequence := by simpa using List.find?_some hjob
      have hmem : sequence ∈ device.queue.map (·.sequence) :=
        List.mem_map.mpr ⟨job, List.mem_of_find?_eq_some hjob, hsame⟩
      rw [if_pos hmem, Option.map_some, hsame]

lemma Device.run_cases {device : Device} {ledger : Ledger}
    (hqueue : device.queue.map (·.sequence) = ledger.queue) (ring : Ring) (choice : Choice) :
    (ledger.due? choice = none ∧ device.run ring choice = .done (device, ring) none) ∨
    ∃ (place : Nat) (job : Job), ledger.due? choice = some job.sequence ∧
      device.queue[place]? = some job ∧ device.run ring choice =
        execute { device with queue := device.queue.eraseIdx place } ring job := by
  rw [Ledger.due?_eq hqueue]
  rcases device.run_eq ring choice with ⟨hdue, hrun⟩ | ⟨place, job, hdue, hjob, hrun⟩
  · exact Or.inl ⟨by rw [hdue, Option.map_none], hrun⟩
  · exact Or.inr ⟨place, job, by rw [hdue, Option.map_some], hjob, hrun⟩

namespace Plant

/-- Do the plant and an archive of its units follow the ledger? The units `earlier` were answered
with a success. -/
structure Follows (plant : Plant) (engines : List (Engine × Layout)) (archive : Archive)
    (ledger : Ledger) (earlier : List Nat) : Prop where
  wellFormed : plant.ring.WellFormed
  mirrors : plant.ring.Mirrors archive
  heard : plant.ring.Heard earlier
  layouts : archive.engines = engines
  defaults : EngineTable.Covers plant.device.defaults.entries (engines.map (·.1)) ledger.defaults
  queue : plant.device.queue.map (·.sequence) = ledger.queue
  distinct : ledger.queue.Nodup
  jobs : ∀ job ∈ plant.device.queue, ∃ conduct, ledger.units job.sequence = .kicked conduct ∧
    EngineTable.Covers job.conducts (engines.map (·.1)) conduct
  begun : ∀ sequence, (ledger.units sequence).isIdle = false → sequence < plant.ring.submitted
  files : ∀ (sequence : Nat) (dossier : Dossier), archive.dossiers[sequence]? = some dossier →
    dossier.Agrees engines sequence (ledger.units sequence)

variable {plant : Plant} {engines : List (Engine × Layout)} {archive : Archive} {ledger : Ledger}
  {earlier : List Nat}

lemma answer_ring (plant : Plant) (op : Ring.Op) :
    plant.answer (.ring op) = (plant.ring.answer op).map .ring :=
  Traced.result_map Reply.ring (plant.ring.perform op).trace

lemma success?_ring (op : Ring.Op) (answer : Except Fault Ring.Reply) :
    success? (.ring op) (answer.map .ring) = Ring.success? op answer := by
  cases answer with
  | error fault => cases op <;> rfl
  | ok reply => rfl

lemma eq_idle {progress : Progress} (h : progress.isIdle) : progress = .idle := by
  cases progress with
  | idle => rfl
  | kicked | ended => cases h

namespace Follows

lemma ring (h : plant.Follows engines archive ledger earlier) (hengines : engines ≠ [])
    {op : Ring.Op} (hop : op.isHost) :
    (plant.next (.ring op)).Follows engines (archive.next op) ledger
      (earlier ++ (success? (.ring op) (plant.answer (.ring op))).toList) := by
  have hstep := Ring.step h.wellFormed op
  have hdevice : op.touched?.all plant.ring.holds := by
    cases op with
    | begin | query | audience | cancel => rfl
    | prepareRetry | force | destroy | write | retire => cases hop
  have hsubmitted : archive.submitted = plant.ring.submitted := h.mirrors.submitted
  obtain ⟨hsame, hdossiers⟩ := archive.next_cases hop
  constructor
  · exact h.wellFormed.next op
  · exact (h.mirrors.next h.wellFormed hdevice).2
  · have hheard := hstep.heard h.wellFormed h.heard
    rw [answer_ring, success?_ring, Ring.answer_eq]
    exact hheard
  · exact hsame.trans h.layouts
  · exact h.defaults
  · exact h.queue
  · exact h.distinct
  · exact h.jobs
  · intro sequence hkicked
    obtain ⟨-, hforward, -⟩ := hstep.forward
    exact Nat.lt_of_lt_of_le (h.begun sequence hkicked) hforward
  · intro sequence dossier hget
    rcases hdossiers with hkept | ⟨number, frame, hnew⟩ | ⟨other, before, hbefore, hasked⟩
    · rw [hkept] at hget
      exact h.files sequence dossier hget
    · rw [hnew] at hget
      rcases h.mirrors.append_cases hget with ⟨hold, -⟩ | ⟨rfl, rfl⟩
      · exact h.files sequence dossier hold
      · -- Units are kicked after they were begun, so the new unit has no job yet.
        have hidle : (ledger.units plant.ring.submitted).isIdle := by
          by_contra hkicked
          rw [Bool.not_eq_true] at hkicked
          exact Nat.lt_irrefl _ (h.begun _ hkicked)
        rw [eq_idle hidle, hsubmitted]
        exact Dossier.agrees_begun _ _ _ _
    · obtain ⟨-, hat, -⟩ := Archive.of_dossier?_eq_some hbefore
      rw [hasked] at hget
      rcases Archive.dossiers_setDossier hat hget with ⟨rfl, rfl⟩ | ⟨-, hkept⟩
      · rw [h.layouts]
        exact (h.files _ _ hat).asked hengines
      · exact h.files sequence dossier hkept

lemma setConduct (h : plant.Follows engines archive ledger earlier) {engine : Engine}
    (hmem : engine ∈ plant.ring.engines) (conduct : Conduct) :
    (plant.next (.setConduct engine conduct)).Follows engines archive
      (ledger.setConduct engine conduct) earlier where
  wellFormed := h.wellFormed
  mirrors := h.mirrors
  heard := h.heard
  layouts := h.layouts
  defaults := by
    apply (h.defaults.insert engine conduct).congr
    have hknown : engine ∈ engines.map (·.1) := by
      unfold Ring.engines at hmem
      cases hstore : plant.ring.store with
      | none =>
        rw [hstore] at hmem
        cases hmem
      | some store =>
        rw [hstore] at hmem
        rw [← h.layouts, ← h.mirrors.layouts store hstore, ← RecordStore.engines_eq_layouts]
        exact hmem
    intro other
    rw [List.mem_cons, or_iff_right_iff_imp]
    rintro rfl
    exact hknown
  queue := h.queue
  distinct := h.distinct
  jobs := h.jobs
  begun := h.begun
  files := h.files

lemma kick (h : plant.Follows engines archive ledger earlier) {sequence : Nat}
    (hbegun : sequence < plant.ring.submitted) (hidle : (ledger.units sequence).isIdle)
    (overrides : List (Engine × Conduct)) :
    (plant.next (.kick sequence overrides)).Follows engines archive
      (ledger.kick sequence overrides) earlier where
  wellFormed := h.wellFormed
  mirrors := h.mirrors
  heard := h.heard
  layouts := h.layouts
  defaults := h.defaults
  queue := by
    change (plant.device.queue ++ [Job.mk sequence (plant.device.conducts overrides)]).map
      Job.sequence = ledger.queue ++ [sequence]
    rw [List.map_append, h.queue]
    rfl
  distinct := by
    change (ledger.queue ++ [sequence]).Nodup
    rw [List.nodup_append]
    refine ⟨h.distinct, List.nodup_singleton _, ?_⟩
    intro other hmem new hnew
    rw [← h.queue] at hmem
    obtain ⟨job, hjob, rfl⟩ := List.mem_map.mp hmem
    obtain ⟨conduct, hkicked, -⟩ := h.jobs job hjob
    rw [List.mem_singleton.mp hnew]
    intro he
    rw [he, eq_idle hidle] at hkicked
    cases hkicked
  jobs := by
    intro job hmem
    rcases List.mem_append.mp hmem with hold | hnew
    · obtain ⟨conduct, hkicked, hcovers⟩ := h.jobs job hold
      have hother : job.sequence ≠ sequence := by
        intro he
        rw [he, eq_idle hidle] at hkicked
        cases hkicked
      exact ⟨conduct, (if_neg hother).trans hkicked, hcovers⟩
    · have hcovers : EngineTable.Covers (plant.device.conducts overrides) (engines.map (·.1))
          (ledger.conduct overrides) :=
        h.defaults.map fun engine conduct => conduct.overridden overrides engine
      rw [List.mem_singleton.mp hnew]
      exact ⟨ledger.conduct overrides, if_pos rfl, hcovers⟩
  begun := by
    intro other hkicked
    by_cases hother : other = sequence
    · rw [hother]
      exact hbegun
    · apply h.begun
      rw [← hkicked]
      exact congrArg Progress.isIdle (if_neg hother).symm
  files := by
    intro other dossier hget
    have hagrees := h.files other dossier hget
    by_cases hother : other = sequence
    · subst hother
      rw [eq_idle hidle] at hagrees
      have hunit : (ledger.kick other overrides).units other =
          .kicked (ledger.conduct overrides) := if_pos rfl
      rw [hunit]
      exact hagrees.kicked _
    · have hunit : (ledger.kick sequence overrides).units other = ledger.units other :=
        if_neg hother
      rw [hunit]
      exact hagrees

lemma waiting (h : plant.Follows engines archive ledger earlier) {place : Nat} {job : Job}
    (hjob : plant.device.queue[place]? = some job) :
    (plant.device.queue.eraseIdx place).map (·.sequence) = ledger.queue.erase job.sequence := by
  have hdistinct := h.distinct
  obtain ⟨hlt, hat⟩ := List.getElem?_eq_some_iff.mp hjob
  rw [← h.queue] at hdistinct ⊢
  have herase := hdistinct.erase_getElem place (by rwa [List.length_map])
  rw [List.getElem_map, hat] at herase
  rw [herase, List.eraseIdx_map]

lemma ended_files (h : plant.Follows engines archive ledger earlier)
    (hnodup : (engines.map (·.1)).Nodup) {job : Job} {before file : Dossier}
    (hget : archive.dossiers[job.sequence]? = some before) {conduct : Engine → Conduct}
    (hkicked : ledger.units job.sequence = .kicked conduct)
    (hcovers : EngineTable.Covers job.conducts (engines.map (·.1)) conduct) {sequence : Nat}
    (hfile : (archive.dossiers.set job.sequence (before.ran engines job))[sequence]? =
      some file) :
    file.Agrees engines sequence
      ((ledger.setUnit job.sequence (.ended conduct)).units sequence) := by
  rw [Ledger.units_setUnit]
  rcases Archive.dossiers_setDossier hget hfile with ⟨rfl, rfl⟩ | ⟨hne, hkept⟩
  · have hagrees := h.files _ _ hget
    rw [hkicked] at hagrees
    rw [if_pos rfl]
    exact hagrees.ended hnodup hcovers
  · rw [if_neg hne]
    exact h.files sequence file hkept

lemma run (h : plant.Follows engines archive ledger earlier) (hnodup : (engines.map (·.1)).Nodup)
    {choice : Choice} {place : Nat} {job : Job} (hdue : ledger.due? choice = some job.sequence)
    (hjob : plant.device.queue[place]? = some job) (hlive : plant.ring.holds job.sequence)
    (hrun : plant.device.run plant.ring choice = Device.execute
      { plant.device with queue := plant.device.queue.eraseIdx place } plant.ring job) :
    (plant.next (.run choice)).Follows engines (archive.after job.ops) (ledger.run choice)
        earlier ∧
      announcements (plant.events (.run choice)) = [] := by
  have hmem : job ∈ plant.device.queue := List.mem_of_getElem? hjob
  have htouches : ∀ op ∈ job.ops, op.touched? = some job.sequence :=
    fun _ => Ring.touched_of_mem_ops
  obtain ⟨conduct, hkicked, hcovers⟩ := h.jobs job hmem
  obtain ⟨slot, hslot, -⟩ := h.wellFormed.exists_slot hlive
  obtain ⟨dossier, hdossier, -, hget, -⟩ := h.mirrors.exists_dossier hslot
  obtain ⟨device', events, hexecute, hqueue, hdefaults, hquiet⟩ :=
    Device.execute_eq { plant.device with queue := plant.device.queue.eraseIdx place }
      h.wellFormed hlive
  rw [hexecute] at hrun
  have hnext : plant.next (.run choice) = ⟨device', plant.ring.after job.ops⟩ := by
    rw [next, perform, hrun]
    rfl
  have hevents : plant.events (.run choice) = events := by
    rw [Plant.events, perform, hrun]
    exact Traced.events_map _ _
  obtain ⟨hwell, -, hsubmitted⟩ := Ring.after_touched h.wellFormed htouches
  have hledger := Ledger.run_of_due? hdue hkicked
  have hrest := h.waiting hjob
  have hfile := Archive.after_job hdossier
  rw [h.layouts] at hfile
  refine ⟨?_, by rw [hevents, hquiet]⟩
  rw [hnext, hledger]
  constructor
  · exact hwell
  · exact h.mirrors.after_touched h.wellFormed hlive htouches
  · exact Ring.heard_touched h.wellFormed htouches h.heard
  · rw [hfile]
    exact h.layouts
  · change EngineTable.Covers device'.defaults.entries _ _
    rw [hdefaults]
    exact h.defaults
  · change device'.queue.map (·.sequence) = _
    rw [hqueue]
    exact hrest
  · exact h.distinct.erase _
  · intro other hother
    change other ∈ device'.queue at hother
    rw [hqueue] at hother
    have hne : other.sequence ≠ job.sequence := by
      have hwaits : other.sequence ∈ ledger.queue.erase job.sequence := by
        rw [← hrest]
        exact List.mem_map.mpr ⟨other, hother, rfl⟩
      exact (h.distinct.mem_erase_iff.mp hwaits).1
    obtain ⟨conduct', hkicked', hcovers'⟩ := h.jobs other (List.mem_of_mem_eraseIdx hother)
    refine ⟨conduct', ?_, hcovers'⟩
    change (ledger.setUnit job.sequence (.ended conduct)).units other.sequence = _
    rw [Ledger.units_setUnit, if_neg hne]
    exact hkicked'
  · intro sequence hbusy
    change sequence < (plant.ring.after job.ops).submitted
    change ((ledger.setUnit job.sequence (.ended conduct)).units sequence).isIdle = false at hbusy
    rw [hsubmitted]
    rw [Ledger.units_setUnit] at hbusy
    by_cases hsame : sequence = job.sequence
    · rw [hsame]
      exact (Ring.holds_iff.mp hlive).2.1
    · rw [if_neg hsame] at hbusy
      exact h.begun sequence hbusy
  · intro sequence file hget'
    rw [hfile] at hget'
    exact h.ended_files hnodup hget hkicked hcovers hget'

lemma idle {choice : Choice}
    (hrun : plant.device.run plant.ring choice = .done (plant.device, plant.ring) none) :
    plant.next (.run choice) = plant ∧ announcements (plant.events (.run choice)) = [] := by
  rw [Plant.next, Plant.events, perform, hrun]
  exact ⟨rfl, rfl⟩

lemma step_run (h : plant.Follows engines archive ledger earlier)
    (hnodup : (engines.map (·.1)).Nodup) {choice : Choice}
    (hadmits : plant.admits ledger (.run choice)) :
    (∃ archive', (plant.next (.run choice)).Follows engines archive' (ledger.run choice)
        earlier) ∧
      announcements (plant.events (.run choice)) = [] := by
  rcases Device.run_cases h.queue plant.ring choice with
    ⟨hdue, hrun⟩ | ⟨place, job, hdue, hjob, hrun⟩
  · obtain ⟨hnext, hquiet⟩ := idle hrun
    have hledger : ledger.run choice = ledger := by
      unfold Ledger.run
      rw [hdue]
    rw [hnext, hledger]
    exact ⟨⟨archive, h⟩, hquiet⟩
  · have hlive : plant.ring.holds job.sequence := by
      rw [admits, hdue] at hadmits
      exact hadmits
    obtain ⟨hfollows, hquiet⟩ := h.run hnodup hdue hjob hlive hrun
    exact ⟨⟨_, hfollows⟩, hquiet⟩

lemma next (h : plant.Follows engines archive ledger earlier) (hengines : engines ≠ [])
    (hnodup : (engines.map (·.1)).Nodup) {op : Op} (hadmits : plant.admits ledger op) :
    ∃ archive', (plant.next op).Follows engines archive' (ledger.follow op)
      (earlier ++ (success? op (plant.answer op)).toList) := by
  cases op with
  | ring op =>
    have hop : op.isHost := by
      cases op with
      | begin | query | audience | cancel => rfl
      | prepareRetry | force | destroy | write | retire => cases hadmits
    exact ⟨_, h.ring hengines hop⟩
  | setConduct engine conduct =>
    have hmem : engine ∈ plant.ring.engines := List.contains_iff_mem.mp hadmits
    have hsuccess : success? (.setConduct engine conduct)
        (plant.answer (.setConduct engine conduct)) = none := rfl
    rw [hsuccess, Option.toList_none, List.append_nil]
    exact ⟨archive, h.setConduct hmem conduct⟩
  | kick sequence overrides =>
    have hsuccess : success? (.kick sequence overrides)
        (plant.answer (.kick sequence overrides)) = none := rfl
    rw [admits, Bool.and_eq_true, decide_eq_true_eq] at hadmits
    rw [hsuccess, Option.toList_none, List.append_nil]
    exact ⟨archive, h.kick hadmits.1 hadmits.2 overrides⟩
  | run choice =>
    have hsuccess : success? (.run choice) (plant.answer (.run choice)) = none := rfl
    rw [hsuccess, Option.toList_none, List.append_nil]
    exact (h.step_run hnodup hadmits).1

end Follows

end Plant

end CompletionRing
