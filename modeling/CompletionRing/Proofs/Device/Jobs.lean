import CompletionRing.Proofs.Archive.Basic
import CompletionRing.Proofs.Device.Ledger

/-!
# What jobs write

Each engine of a job writes to its own record, so the file on a unit shows after the unit's job
what every engine did, whatever the order of the writes.
-/

namespace CompletionRing

namespace Conduct

/-- What an engine stores in its part of a job. -/
def writes (conduct : Conduct) (sequence lane : Nat) (engine : Engine) :
    List (Engine × Field × UInt32) :=
  match conduct.errorCode? with
  | none => []
  | some code => (Job.fields sequence lane engine code).map fun field => (engine, field)

/-- The record of an engine that ran and left an error code. -/
def finished (code : UInt32) (sequence lane : Nat) (engine : Engine) (fields : Field → UInt32) :
    Field → UInt32
  | .marker => doneMarker
  | .error => code
  | .lane number => if number = lane then engine.number.toUInt32 + 1 else fields (.lane number)
  | .checksum => Device.checksum sequence engine
  | .workCount => 1

/-- The record of an engine after its part of a job. -/
def record (conduct : Conduct) (sequence lane : Nat) (engine : Engine)
    (fields : Field → UInt32) : Field → UInt32 :=
  match conduct with
  | .complete => finished 0 sequence lane engine fields
  | .fail code => finished code sequence lane engine fields
  | .skip | .hang => fields

lemma record_eq (conduct : Conduct) (sequence lane : Nat) (engine : Engine)
    (fields : Field → UInt32) : conduct.record sequence lane engine fields =
      match conduct.errorCode? with
      | none => fields
      | some code => finished code sequence lane engine fields := by
  cases conduct <;> rfl

lemma ofFields_primed (engine : Engine) (layout : Layout) :
    Report.ofFields engine layout Field.primed = .untouched engine layout := by
  cases layout <;> rfl

lemma ofFields_record (conduct : Conduct) (sequence lane : Nat) (engine : Engine)
    (layout : Layout) :
    Report.ofFields engine layout (conduct.record sequence lane engine Field.primed) =
      conduct.report sequence engine layout lane := by
  cases conduct with
  | complete | fail => cases layout <;> rfl
  | skip | hang => exact ofFields_primed engine layout

lemma writes_engine {conduct : Conduct} {sequence lane : Nat} {engine : Engine}
    {write : Engine × Field × UInt32} (h : write ∈ conduct.writes sequence lane engine) :
    write.1 = engine := by
  unfold writes at h
  split at h
  · cases h
  · obtain ⟨field, -, rfl⟩ := List.mem_map.mp h
    rfl

end Conduct

namespace Job

/-- What the engines store one after the other, from a lane on. -/
def writesFrom (sequence lane : Nat) : List (Engine × Conduct) → List (Engine × Field × UInt32)
  | [] => []
  | (engine, conduct) :: rest =>
    conduct.writes sequence lane engine ++ writesFrom sequence (lane + 1) rest

lemma writes_eq (job : Job) : job.writes = writesFrom job.sequence 0 job.conducts := by
  have hfrom : ∀ (conducts : List (Engine × Conduct)) (lane : Nat),
      ((conducts.zipIdx lane).flatMap fun entry =>
        entry.1.2.writes job.sequence entry.2 entry.1.1) =
        writesFrom job.sequence lane conducts := by
    intro conducts
    induction conducts with
    | nil =>
      intro lane
      rfl
    | cons first rest ih =>
      intro lane
      rw [List.zipIdx_cons, List.flatMap_cons, ih, writesFrom]
  exact hfrom job.conducts 0

/-- What an engine does in the job. -/
def conduct (job : Job) (engine : Engine) : Conduct :=
  ((EngineTable.mk job.conducts).get? engine).getD .skip

/-- The lane of an engine is its rank in the job. -/
def lane (job : Job) (engine : Engine) : Nat := engine.rank (job.conducts.map (·.1))

lemma exists_part {job : Job} {engines : List Engine}
    (hserves : EngineTable.Serves job.conducts engines) {engine : Engine}
    (hengine : engine ∈ engines) :
    job.conducts[job.lane engine]? = some (engine, job.conduct engine) := by
  obtain ⟨conduct, hconduct, hat⟩ := hserves.exists_entry hengine
  rw [Job.conduct, hconduct]
  exact hat

lemma writesFrom_engine {sequence lane : Nat} {conducts : List (Engine × Conduct)}
    {write : Engine × Field × UInt32} (h : write ∈ writesFrom sequence lane conducts) :
    write.1 ∈ conducts.map (·.1) := by
  induction conducts generalizing lane with
  | nil => cases h
  | cons first rest ih =>
    obtain ⟨engine, conduct⟩ := first
    rw [List.map_cons, List.mem_cons]
    rcases List.mem_append.mp h with hfirst | hrest
    · exact Or.inl (Conduct.writes_engine hfirst)
    · exact Or.inr (ih hrest)

end Job

namespace Dossier

variable {dossier : Dossier} {knows : Engine → Field → Bool} {engine : Engine} {field : Field}
  {sequence lane : Nat}

/-- The file after stores of fields, of which the unknown ones have no effect. -/
def written (dossier : Dossier) (knows : Engine → Field → Bool)
    (writes : List (Engine × Field × UInt32)) : Dossier :=
  writes.foldl (fun dossier (engine, field, datum) =>
    if knows engine field then dossier.withField engine field datum else dossier) dossier

lemma written_nil (dossier : Dossier) (knows : Engine → Field → Bool) :
    dossier.written knows [] = dossier := rfl

lemma written_cons (dossier : Dossier) (knows : Engine → Field → Bool) (engine : Engine)
    (field : Field) (datum : UInt32) (rest : List (Engine × Field × UInt32)) :
    dossier.written knows ((engine, field, datum) :: rest) =
      (if knows engine field then dossier.withField engine field datum else dossier).written
        knows rest := rfl

lemma written_append (dossier : Dossier) (knows : Engine → Field → Bool)
    (writes rest : List (Engine × Field × UInt32)) :
    dossier.written knows (writes ++ rest) = (dossier.written knows writes).written knows rest :=
  List.foldl_append

lemma written_same (dossier : Dossier) (knows : Engine → Field → Bool)
    (writes : List (Engine × Field × UInt32)) :
    (dossier.written knows writes).slot = dossier.slot ∧
      (dossier.written knows writes).retired = dossier.retired := by
  induction writes generalizing dossier with
  | nil => exact ⟨rfl, rfl⟩
  | cons write rest ih =>
    obtain ⟨engine, field, datum⟩ := write
    obtain ⟨hslot, hretired⟩ :=
      ih (if knows engine field then dossier.withField engine field datum else dossier)
    rw [written_cons, hslot, hretired]
    split <;> exact ⟨rfl, rfl⟩

lemma fields_written_apart {writes : List (Engine × Field × UInt32)}
    (h : ∀ write ∈ writes, write.1 ≠ engine) :
    (dossier.written knows writes).fields engine = dossier.fields engine := by
  induction writes generalizing dossier with
  | nil => rfl
  | cons write rest ih =>
    obtain ⟨other, field, datum⟩ := write
    have hother : engine ≠ other := (h _ List.mem_cons_self).symm
    rw [written_cons, ih fun write hmem => h write (List.mem_cons_of_mem _ hmem)]
    split
    · funext field'
      exact if_neg fun he => hother he.1
    · rfl

lemma fields_written_unknown (hknows : knows engine field = false)
    (writes : List (Engine × Field × UInt32)) :
    (dossier.written knows writes).fields engine field = dossier.fields engine field := by
  induction writes generalizing dossier with
  | nil => rfl
  | cons write rest ih =>
    obtain ⟨other, field', datum⟩ := write
    rw [written_cons, ih]
    by_cases hother : knows other field'
    · rw [if_pos hother]
      refine if_neg ?_
      rintro ⟨rfl, rfl⟩
      rw [hknows] at hother
      cases hother
    · rw [if_neg hother]

lemma fields_written_conduct (hknows : knows engine field) (conduct : Conduct) :
    (dossier.written knows (conduct.writes sequence lane engine)).fields engine field =
      conduct.record sequence lane engine (dossier.fields engine) field := by
  rw [Conduct.record_eq, Conduct.writes]
  cases conduct.errorCode? with
  | none => rfl
  | some code =>
    have hself : ∀ (before : Dossier) (other : Field) (datum : UInt32),
        (if knows engine other then before.withField engine other datum else before).fields
          engine field = if field = other then datum else before.fields engine field := by
      intro before other datum
      by_cases hfield : field = other
      · subst hfield
        rw [if_pos hknows, if_pos rfl]
        exact if_pos ⟨rfl, rfl⟩
      · rw [if_neg hfield]
        split
        · exact if_neg fun he => hfield he.2
        · rfl
    simp only [Job.fields, List.map_cons, List.map_nil, written_cons, written_nil]
    rw [hself, hself, hself, hself, hself]
    cases field <;> simp [Conduct.finished]

lemma fields_written_conducts {conducts : List (Engine × Conduct)} {conduct : Conduct}
    (hknows : knows engine field) (hnodup : (conducts.map (·.1)).Nodup) {place : Nat}
    (hat : conducts[place]? = some (engine, conduct)) :
    (dossier.written knows (Job.writesFrom sequence lane conducts)).fields engine field =
      conduct.record sequence (lane + place) engine (dossier.fields engine) field := by
  induction conducts generalizing dossier lane place with
  | nil => cases hat
  | cons first rest ih =>
    obtain ⟨other, conduct'⟩ := first
    obtain ⟨hfirst, hrest⟩ := List.nodup_cons.mp hnodup
    rw [Job.writesFrom, written_append]
    cases place with
    | zero =>
      cases hat
      -- The engines after this one write to records of their own.
      have hapart : ∀ write ∈ Job.writesFrom sequence (lane + 1) rest, write.1 ≠ engine := by
        rintro write hmem rfl
        exact hfirst (Job.writesFrom_engine hmem)
      rw [fields_written_apart hapart, fields_written_conduct hknows, Nat.add_zero]
    | succ place =>
      rw [List.getElem?_cons_succ] at hat
      have hapart : ∀ write ∈ conduct'.writes sequence lane other, write.1 ≠ engine := by
        intro write hmem he
        have hlater : (engine, conduct) ∈ rest := List.mem_of_getElem? hat
        apply hfirst
        rw [← Conduct.writes_engine hmem, he]
        exact List.mem_map.mpr ⟨_, hlater, rfl⟩
      rw [ih hrest hat, fields_written_apart hapart]
      congr 1
      omega

/-- The file after stores of fields, of which those that the layouts lack have no effect. -/
def stored (dossier : Dossier) (engines : List (Engine × Layout))
    (writes : List (Engine × Field × UInt32)) : Dossier :=
  dossier.written (fun engine field =>
    engines.any fun entry => entry.1 = engine && entry.2.has field) writes

/-- The file once a job ended. -/
def ran (dossier : Dossier) (engines : List (Engine × Layout)) (job : Job) : Dossier :=
  { dossier.stored engines job.writes with retired := dossier.retired || !job.hangs }

variable {engines : List (Engine × Layout)} {job : Job}

lemma retired_stored (dossier : Dossier) (engines : List (Engine × Layout))
    (writes : List (Engine × Field × UInt32)) :
    (dossier.stored engines writes).retired = dossier.retired := (dossier.written_same _ writes).2

lemma slot_ran : (dossier.ran engines job).slot = dossier.slot :=
  (dossier.written_same _ job.writes).1

/-- The job of a unit leaves in the record of each engine what the engine's part calls for. -/
theorem reports_ran (hserves : EngineTable.Serves job.conducts (engines.map (·.1))) :
    (dossier.ran engines job).reports engines = engines.map fun (engine, layout) =>
      .ofFields engine layout ((job.conduct engine).record job.sequence (job.lane engine) engine
        (dossier.fields engine)) := by
  apply List.map_congr_left
  rintro ⟨engine, layout⟩ hmem
  have hat := Job.exists_part hserves (List.mem_map_of_mem hmem)
  apply Report.ofFields_congr
  intro field hhas
  change (dossier.written _ job.writes).fields engine field = _
  rw [Job.writes_eq, fields_written_conducts ?_ hserves.nodup hat, Nat.zero_add]
  rw [List.any_eq_true]
  exact ⟨_, hmem, by simp [hhas]⟩

lemma reports_ran_primed {conduct : Engine → Conduct} (hnodup : (engines.map (·.1)).Nodup)
    (hcovers : EngineTable.Covers job.conducts (engines.map (·.1)) conduct)
    (hprimed : ∀ engine field, dossier.fields engine field = field.primed) :
    (dossier.ran engines job).reports engines =
      (Progress.ended conduct).reports engines job.sequence := by
  rw [reports_ran hcovers.serves, Progress.reports]
  apply List.map_congr_left
  rintro ⟨engine, layout⟩ hmem
  have hat := Job.exists_part hcovers.serves (List.mem_map_of_mem hmem)
  have hconduct : job.conduct engine = conduct engine :=
    hcovers.values _ (List.mem_of_getElem? hat)
  have hfields : dossier.fields engine = Field.primed := funext (hprimed engine)
  simp only
  rw [hcovers.rank hnodup hat, ← hconduct, hfields, Conduct.ofFields_record]

end Dossier

end CompletionRing
