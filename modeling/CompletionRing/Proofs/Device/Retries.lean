import CompletionRing.Proofs.Archive.SingleFiles
import CompletionRing.Proofs.Device.Reduction
import CompletionRing.Proofs.Device.Traffic
import CompletionRing.Proofs.Ring.Occupancy
import CompletionRing.Proofs.Ring.Places
import CompletionRing.Proofs.Session.Polls

/-!
# Retries

A unit that is prepared for a retry starts over from records of zeros. The fence word may be ahead
of the unit from an earlier attempt, but records of zeros are pending, so the unit is open until
its next job ends; what was written before has no influence on what is answered then.
-/

namespace CompletionRing

namespace Report

/-- The report of an engine that left a record of zeros alone. -/
def blank (engine : Engine) (layout : Layout) : Report :=
  { untouched engine layout with completion := .pending }

lemma ofFields_zero (engine : Engine) (layout : Layout) :
    ofFields engine layout (fun _ => 0) = blank engine layout := by
  cases layout <;> rfl

end Report

namespace Conduct

/-- What an engine that found a record of zeros reports after its part of a job. -/
def reportOnZeros (conduct : Conduct) (sequence : Nat) (engine : Engine) (layout : Layout)
    (lane : Nat) : Report :=
  match conduct.errorCode? with
  | none => .blank engine layout
  | some code => .ofRun sequence engine layout lane code

variable {conduct : Conduct} {sequence lane : Nat} {engine : Engine} {layout : Layout}

lemma ofFields_record_zero : Report.ofFields engine layout
      (conduct.record sequence lane engine fun _ => 0) =
    conduct.reportOnZeros sequence engine layout lane := by
  cases conduct with
  | complete | fail => cases layout <;> rfl
  | skip | hang => exact Report.ofFields_zero engine layout

lemma isComplete_reportOnZeros (hends : conduct ≠ .hang) :
    (conduct.reportOnZeros sequence engine layout lane).completion.isComplete =
      !decide (conduct = .skip) := by
  cases conduct with
  | complete | fail | skip => rfl
  | hang => exact absurd rfl hends

lemma isFaulty_reportOnZeros :
    (conduct.reportOnZeros sequence engine layout lane).isFaulty = conduct.fails layout := by
  cases conduct with
  | complete => exact isFaulty_report .complete sequence engine layout lane
  | fail code => exact isFaulty_report (.fail code) sequence engine layout lane
  | skip | hang => rfl

end Conduct

namespace Job

/-- The status of a unit that has only this job to go by. -/
def status (job : Job) (engines : List (Engine × Layout)) : Status :=
  if engines.any fun entry => job.conduct entry.1 = .skip then .incomplete
  else if engines.any fun entry => (job.conduct entry.1).fails entry.2 then .error
  else .successful

/-- What the engines report of the job if they found records of zeros. -/
def reports (job : Job) (engines : List (Engine × Layout)) : List Report :=
  engines.map fun (engine, layout) =>
    (job.conduct engine).reportOnZeros job.sequence engine layout (job.lane engine)

variable {job : Job} {engines : List (Engine × Layout)}

lemma conduct_ne_hang (hends : job.hangs = false) (engine : Engine) :
    job.conduct engine ≠ .hang := by
  intro hconduct
  rw [conduct, EngineTable.get?] at hconduct
  cases hfind : job.conducts.find? (·.1 = engine) with
  | none =>
    rw [hfind] at hconduct
    cases hconduct
  | some entry =>
    rw [hfind] at hconduct
    have hhangs := List.any_eq_false.mp hends entry (List.mem_of_find?_eq_some hfind)
    exact hhangs (decide_eq_true hconduct)

lemma ofReports_reports (hengines : engines ≠ []) (hends : job.hangs = false) :
    Status.ofReports (job.reports engines) = job.status engines := by
  have hempty : (job.reports engines).isEmpty = false := by
    rw [List.isEmpty_eq_false_iff]
    exact fun hnil => hengines (List.map_eq_nil_iff.mp hnil)
  have hcomplete : (!(job.reports engines).all (·.completion.isComplete)) =
      engines.any fun entry => job.conduct entry.1 = .skip := by
    rw [reports, List.all_map, List.not_all_eq_any_not]
    congr 1
    funext entry
    simp only [Function.comp]
    rw [Conduct.isComplete_reportOnZeros (conduct_ne_hang hends _), Bool.not_not]
  have hfaulty : (job.reports engines).any Report.isFaulty =
      engines.any fun entry => (job.conduct entry.1).fails entry.2 := by
    rw [reports, List.any_map]
    congr 1
    funext entry
    exact Conduct.isFaulty_reportOnZeros
  rw [Status.ofReports, hempty, hcomplete, hfaulty, Bool.false_or, status]

end Job

lemma Stage.status_ofStatus_ofReports (reports : List Report) :
    (Stage.ofStatus (Status.ofReports reports)).status = Status.ofReports reports := by
  unfold Status.ofReports
  split_ifs <;> rfl

namespace Dossier

variable {dossier : Dossier} {engines : List (Engine × Layout)} {slot : Slot} {job : Job}

/-- Is this the file on the open unit of a slot, with records of zeros? -/
structure Blank (dossier : Dossier) (slot : Slot) : Prop where
  unit : ∃ stage reports, dossier.slot = { slot with stage, reports }
  isOpen : dossier.slot.stage.isSettled = false
  fields : ∀ engine, dossier.fields engine = fun _ => 0

lemma blank_cleared (hopen : dossier.slot.stage.isSettled = false) :
    dossier.cleared.Blank dossier.slot :=
  ⟨⟨_, _, rfl⟩, hopen, fun _ => rfl⟩

lemma Blank.reports (h : dossier.Blank slot) (engines : List (Engine × Layout)) :
    dossier.reports engines = engines.map fun (engine, layout) => .blank engine layout := by
  apply List.map_congr_left
  rintro ⟨engine, layout⟩ -
  simp only
  rw [h.fields, Report.ofFields_zero]

lemma Blank.ofReports (h : dossier.Blank slot) (engines : List (Engine × Layout)) :
    Status.ofReports (dossier.reports engines) = .incomplete := by
  rw [h.reports]
  cases engines with
  | nil => rfl
  | cons first rest => rfl

lemma Blank.asked (h : dossier.Blank slot) (engines : List (Engine × Layout)) :
    (dossier.asked engines).Blank slot := by
  obtain ⟨stage, reports, hslot⟩ := h.unit
  have hstatus := h.ofReports engines
  unfold Dossier.asked
  rw [h.isOpen, if_neg Bool.false_ne_true]
  split_ifs with hretired
  · refine ⟨?_, ?_, h.fields⟩
    · rw [hslot]
      exact ⟨_, _, rfl⟩
    · rw [Slot.evaluated, hstatus]
      rfl
  · refine ⟨?_, rfl, h.fields⟩
    rw [hslot]
    exact ⟨_, _, rfl⟩

lemma Blank.ran (h : dossier.Blank slot) (hengines : engines ≠ [])
    (hserves : EngineTable.Serves job.conducts (engines.map (·.1))) (hends : job.hangs = false) :
    ((dossier.ran engines job).asked engines).slot.snapshot = { slot.snapshot with
      status := job.status engines, reports := job.reports engines } := by
  obtain ⟨stage, reports, hslot⟩ := h.unit
  have hretired : (dossier.ran engines job).retired = true := by
    rw [Dossier.ran, hends, Bool.not_false, Bool.or_true]
  have hreports : (dossier.ran engines job).reports engines = job.reports engines := by
    rw [reports_ran hserves]
    apply List.map_congr_left
    rintro ⟨engine, layout⟩ -
    simp only
    rw [h.fields, Conduct.ofFields_record_zero]
  have hstatus : (Stage.ofStatus (Status.ofReports (job.reports engines))).status =
      job.status engines := by
    rw [Stage.status_ofStatus_ofReports, Job.ofReports_reports hengines hends]
  rw [Dossier.asked, slot_ran, h.isOpen, if_neg Bool.false_ne_true, if_pos hretired, hreports]
  simp only [Slot.evaluated, Slot.snapshot, Slot.status, hstatus, hslot]

end Dossier

namespace Ring

variable {ring : Ring} {engines : List (Engine × Layout)} {sequence : Nat} {dossier : Dossier}
  {slot : Slot} {job : Job}

lemma OnFile.stored (h : ring.WellFormed) (hfile : ring.OnFile engines sequence dossier)
    (writes : List (Engine × Field × UInt32)) :
    (ring.after (writes.map fun (engine, field, datum) =>
      .write engine sequence field datum)).OnFile engines sequence
        (dossier.stored engines writes) := by
  induction writes generalizing ring dossier with
  | nil => exact hfile
  | cons write rest ih =>
    obtain ⟨engine, field, datum⟩ := write
    obtain ⟨store, hstore⟩ := exists_store hfile.holds
    have hnext := hfile.write h hstore engine field datum
    rw [RecordStore.knows_eq_layouts (h.fits store hstore), hfile.layouts store hstore] at hnext
    exact ih (h.next _) hnext

lemma OnFile.ran (h : ring.WellFormed) (hfile : ring.OnFile engines job.sequence dossier) :
    (ring.after job.ops).OnFile engines job.sequence (dossier.ran engines job) := by
  have hstored := hfile.stored h job.writes
  rw [Dossier.ran, Job.ops, after_append]
  cases hhangs : job.hangs with
  | true =>
    rw [if_pos rfl, Bool.not_true, Bool.or_false, ← dossier.retired_stored engines job.writes]
    exact hstored
  | false =>
    rw [if_neg Bool.false_ne_true, Bool.not_false, Bool.or_true]
    exact hstored.retire (h.after _)

lemma OnFile.blank_after (h : ring.WellFormed) (hfile : ring.OnFile engines sequence dossier)
    (hblank : dossier.Blank slot) {ops : List Op}
    (hspares : ∀ op ∈ ops, op.spares ring.capacity sequence)
    (hlive : (ring.after ops).holds sequence) :
    ∃ dossier', (ring.after ops).OnFile engines sequence dossier' ∧ dossier'.Blank slot := by
  rcases hfile.after h hspares hlive with hsame | hasked
  · exact ⟨dossier, hsame, hblank⟩
  · exact ⟨_, hasked, hblank.asked engines⟩

lemma OnFile.query_after (h : ring.WellFormed) (hfile : ring.OnFile engines sequence dossier)
    {ops : List Op} (hspares : ∀ op ∈ ops, op.spares ring.capacity sequence)
    (hlive : (ring.after ops).holds sequence) (held : Frame → Bool) :
    (ring.after ops).answer (.query held sequence) =
        .ok (.snapshot (dossier.asked engines).slot.snapshot) ∨
      (ring.after ops).answer (.query held sequence) = .error .overflow ∧
        (dossier.asked engines).slot.stage = .completed ∧
        UInt64.size ≤ (ring.after ops).refusals +
          refusalsIn ((ring.after ops).events (.query held sequence)) := by
  rcases hfile.after h hspares hlive with hsame | hasked
  · exact hsame.query (h.after ops) held
  · have hquery := hasked.query (h.after ops) held
    rwa [Dossier.asked_asked] at hquery

lemma holds_of_append (h : ring.WellFormed) (hbegun : sequence < ring.submitted)
    {ops rest : List Op} (hlive : (ring.after (ops ++ rest)).holds sequence) :
    (ring.after ops).holds sequence := by
  rw [after_append] at hlive
  have hforward := (awaits_after h ops).1
  exact holds_of_after (h.after ops) (Nat.lt_of_lt_of_le hbegun hforward) hlive

/-- A job after a retry decides alone, if the unit is spared but for this job. -/
theorem query_after_attempt (h : ring.WellFormed) (hengines : engines ≠ [])
    (hlayouts : ∀ store, ring.store = some store → store.layouts = engines)
    (hawaits : ring.awaits job.sequence)
    (hserves : EngineTable.Serves job.conducts (engines.map (·.1))) (hends : job.hangs = false)
    {between later : List Op}
    (hbetween : ∀ op ∈ between, op.spares ring.capacity job.sequence)
    (hlater : ∀ op ∈ later, op.spares ring.capacity job.sequence) {last : Ring}
    (hlast : ring.after ((.prepareRetry job.sequence :: between) ++ job.ops ++ later) = last)
    (hlive : last.holds job.sequence) (held : Frame → Bool) :
    last.answer (.query held job.sequence) = .ok (.snapshot { ring.view job.sequence with
        status := job.status engines, reports := job.reports engines }) ∨
      last.answer (.query held job.sequence) = .error .overflow ∧
        job.status engines = .successful ∧
        UInt64.size ≤ last.refusals + refusalsIn (last.events (.query held job.sequence)) := by
  have hbegun := (holds_iff.mp hawaits.holds).2.1
  obtain ⟨store, hstore⟩ := exists_store hawaits.holds
  obtain ⟨slot, hslot, hopen⟩ := hawaits
  obtain ⟨dossier, hfile, rfl⟩ := exists_onFile hstore hslot
  rw [hlayouts store hstore] at hfile
  rw [← hlast] at hlive
  have hended := holds_of_append h hbegun hlive
  have hwaits := holds_of_append h hbegun hended
  rw [after_cons] at hwaits
  have hcapacity := capacity_after h [.prepareRetry job.sequence]
  rw [after_cons, after_nil] at hcapacity
  obtain ⟨waiting, hwaiting, hblank⟩ := (hfile.cleared h).blank_after (h.next _)
    (Dossier.blank_cleared hopen) (by rwa [hcapacity]) hwaits
  -- The job ends on a file with records of zeros, and nothing happens to the unit afterwards.
  have hran := hwaiting.ran ((h.next _).after between)
  have hsnapshot := hblank.ran hengines hserves hends
  rw [← after_cons, ← after_append] at hran
  rw [after_append] at hlive hlast
  have hquery := hran.query_after (h.after _) (by rwa [capacity_after h]) hlive held
  rw [hlast] at hquery
  rw [hsnapshot, ← view_eq hslot] at hquery
  refine hquery.imp_right ?_
  rintro ⟨hfault, hstage, hfull⟩
  refine ⟨hfault, ?_, hfull⟩
  have hstatus := congrArg Snapshot.status hsnapshot
  rw [Slot.snapshot, Slot.status, hstage] at hstatus
  exact hstatus.symm

lemma exists_store_of_after (h : ring.WellFormed) {ops : List Op}
    (hlive : (ring.after ops).holds sequence) : ∃ store, ring.store = some store := by
  cases hstore : ring.store with
  | none => exact absurd hlive (gone_after h (Or.inl hstore) ops).2.not_holds
  | some store => exact ⟨store, rfl⟩

end Ring

namespace Plant

variable {plant : Plant} {job : Job}

lemma traffic_append (plant : Plant) (ops rest : List Op) :
    plant.traffic (ops ++ rest) = plant.traffic ops ++ (plant.after ops).traffic rest := by
  induction ops generalizing plant with
  | nil => rfl
  | cons op ops ih =>
    rw [List.cons_append, traffic, traffic, ih, List.append_assoc]
    rfl

/-- A retry of a unit, and a job that is run some time later. -/
structure Attempt where
  sequence : Nat
  /-- From the retry to the job. -/
  between : List Op
  choice : Choice
  /-- From the job on. -/
  later : List Op

namespace Attempt

def ready (attempt : Attempt) : List Op :=
  .ring (.prepareRetry attempt.sequence) :: attempt.between

def ran (attempt : Attempt) : List Op := attempt.ready ++ [.run attempt.choice]

def ops (attempt : Attempt) : List Op := attempt.ran ++ attempt.later

/-- Does the attempt retry a unit that waits, with a job that comes to its end? Nothing else may
be done to the unit, and nothing else may be written to its index. -/
structure Sole (attempt : Attempt) (plant : Plant) (job : Job) : Prop where
  awaits : plant.ring.awaits attempt.sequence
  between : ∀ op ∈ (plant.next (.ring (.prepareRetry attempt.sequence))).traffic attempt.between,
    op.spares plant.ring.capacity attempt.sequence
  due : (plant.after attempt.ready).device.due? attempt.choice = some job
  unit : job.sequence = attempt.sequence
  ends : job.hangs = false
  later : ∀ op ∈ (plant.after attempt.ran).traffic attempt.later,
    op.spares plant.ring.capacity attempt.sequence
  live : (plant.after attempt.ops).ring.holds attempt.sequence

lemma Sole.traffic {attempt : Attempt} (h : attempt.Sole plant job) :
    plant.traffic attempt.ops = (.prepareRetry job.sequence :: (plant.next
        (.ring (.prepareRetry attempt.sequence))).traffic attempt.between) ++ job.ops ++
      (plant.after attempt.ran).traffic attempt.later := by
  have hrun : (plant.after attempt.ready).traffic [.run attempt.choice] = job.ops := by
    rw [Plant.traffic, Plant.traffic, List.append_nil, ringOps, h.due]
    rfl
  rw [ops, traffic_append, ran, traffic_append, hrun, h.unit]
  rfl

lemma Sole.serves {attempt : Attempt} {ring : Ring} (hring : ring.WellFormed) {earlier : List Op}
    (h : attempt.Sole ((ofRing ring).after earlier) job) :
    EngineTable.Serves job.conducts ring.engines := by
  have hmade : (ofRing ring).device.Serves ring.engines := Device.serves_matching ring
  have hearlier := serves_after hring hmade earlier
  have hready := serves_after (wellFormed_after hring earlier) hearlier attempt.ready
  exact hready.queue job (Device.mem_of_due? h.due)

end Attempt

/-- In every run of a ring and of a device made for it at any time, a retry starts a unit over:
the status and the reports of the unit are those of the one job that is run for it afterwards,
over records of zeros, no matter what earlier jobs did and whether they retired. A query that
finds the unit successful may have no answer, if there are more refusals than can be counted. -/
theorem last_attempt_decides {ring : Ring} {setup : RingSetup} {pool pool' : Pool}
    (hcreate : (Ring.create setup pool).result = .ok (.ok ring, pool')) (past : List Ring.Op)
    (earlier : List Op) {attempt : Attempt} {job : Job}
    (hsole : attempt.Sole ((ofRing (ring.after past)).after earlier) job) (held : Frame → Bool) :
    let before := (ofRing (ring.after past)).after earlier
    let last := before.after attempt.ops
    (∀ entry ∈ setup.layouts, entry.1 ∈ job.conducts.map (·.1)) ∧
    (last.answer (.ring (.query held attempt.sequence)) =
        .ok (.ring (.snapshot { before.ring.view attempt.sequence with
          status := job.status setup.layouts, reports := job.reports setup.layouts })) ∨
      last.answer (.ring (.query held attempt.sequence)) = .error .overflow ∧
        job.status setup.layouts = .successful ∧
        UInt64.size ≤ last.ring.refusals +
          refusalsIn (last.events (.ring (.query held attempt.sequence)))) := by
  intro before last
  have hnew : ring.IsNew := ⟨setup, pool, pool', hcreate⟩
  obtain ⟨hflaw, -⟩ := Ring.fresh_of_create hcreate
  obtain ⟨-, hengines, -⟩ := RingSetup.of_flaw?_eq_none hflaw
  have hpast : (ofRing (ring.after past)).ring.WellFormed := hnew.wellFormed_after past
  have hwell : before.ring.WellFormed := wellFormed_after hpast earlier
  have hbefore : before.ring =
      (ring.after past).after ((ofRing (ring.after past)).traffic earlier) :=
    ring_after hpast earlier
  have hmade : before.ring.MadeFor setup := by
    rw [hbefore, ← Ring.after_append]
    exact Ring.madeFor_after hcreate _
  have hserves : EngineTable.Serves job.conducts (setup.layouts.map (·.1)) := by
    have hlive : before.ring.holds attempt.sequence := hsole.awaits.holds
    rw [hbefore] at hlive
    obtain ⟨store, hstore⟩ := Ring.exists_store_of_after hpast hlive
    rw [← (Ring.madeFor_after hcreate past).layouts hstore, ← RecordStore.engines_eq_layouts]
    have hengines := hsole.serves hpast
    rwa [Ring.engines, hstore] at hengines
  have hlast : last.ring = before.ring.after (before.traffic attempt.ops) := ring_after hwell _
  rw [hsole.traffic] at hlast
  have hquery := Ring.query_after_attempt hwell hengines
    (fun store hstore => hmade.layouts hstore) (hsole.unit ▸ hsole.awaits) hserves hsole.ends
    (hsole.unit ▸ hsole.between) (hsole.unit ▸ hsole.later) hlast.symm
    (hsole.unit ▸ hsole.live) held
  refine ⟨fun entry hentry => hserves.engines _ (List.mem_map_of_mem hentry), ?_⟩
  rw [answer_ring, events_ring, ← hsole.unit]
  rcases hquery with hanswer | ⟨hfault, hrest⟩
  · rw [hanswer]
    exact Or.inl rfl
  · rw [hfault]
    exact Or.inr ⟨rfl, hrest⟩

/-- A unit that retired with an error which nobody asked for. -/
def failedOnce : Plant :=
  (ofRing (pair.after [.begin 7 none])).after [.kick 0 [(⟨1⟩, .fail 0x20)], .run .oldest]

def afterFailure : Attempt := ⟨0, [.kick 0 []], .oldest, []⟩

theorem last_attempt_decides_failedOnce :
    (failedOnce.after afterFailure.ops).answer (.ring (.query (fun _ => true) 0)) =
      .ok (.ring (.snapshot ⟨0, some 7, none, .successful,
        [⟨⟨1⟩, .ran, 0, some (Device.checksum 0 ⟨1⟩), some 1, [0, 2, 0, 0]⟩,
          ⟨⟨0⟩, .ran, 0, some (Device.checksum 0 ⟨0⟩), none, [1]⟩]⟩)) := by
  have hcreate : (Ring.create ⟨"ring", 2, [⟨⟨1⟩, "second", .extended, true⟩,
      ⟨⟨0⟩, "first", .compact, true⟩]⟩ (.new none)).result = .ok (.ok pair, ⟨none, 3, 176⟩) := rfl
  have hsole : afterFailure.Sole failedOnce ⟨0, [(⟨0⟩, .complete), (⟨1⟩, .complete)]⟩ := by
    constructor
    case awaits => exact ⟨.begun 0 7 none, by decide +kernel, rfl⟩
    case unit => rfl
    all_goals decide +kernel
  obtain ⟨-, hanswer | ⟨-, -, hfull⟩⟩ := last_attempt_decides hcreate [.begin 7 none] _ hsole
    fun _ => true
  · refine hanswer.trans (congrArg Except.ok (congrArg Reply.ring (congrArg _ ?_)))
    decide +kernel
  · exact absurd hfull (by decide +kernel)

end Plant

end CompletionRing
