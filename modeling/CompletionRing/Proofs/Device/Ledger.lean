import CompletionRing.Device.Queue
import CompletionRing.Proofs.Device.Tables
import CompletionRing.Proofs.Record.Fields

/-!
# Ledgers

A ledger says what has to come of each unit, from what the device was told to do and from the
order in which jobs are run. It knows of no memory, no fence words and no slots.
-/

namespace CompletionRing

namespace Report

/-- The report of an engine that wrote its record. -/
def ofRun (sequence : Nat) (engine : Engine) (layout : Layout) (lane : Nat) (code : UInt32) :
    Report where
  engine := engine
  completion := .ran
  errorBits := code &&& layout.errorMask
  checksum := some (Device.checksum sequence engine)
  workCount := if layout.has .workCount then some 1 else none
  lanes := (List.range layout.laneCount).map fun number =>
    if number = lane then engine.number.toUInt32 + 1 else 0

/-- The report of an engine that left its record alone. -/
def untouched (engine : Engine) (layout : Layout) : Report where
  engine := engine
  completion := .skipped
  errorBits := 0
  checksum := some 0
  workCount := if layout.has .workCount then some 0 else none
  lanes := List.replicate layout.laneCount 0

end Report

namespace Conduct

/-- Does the engine report an error that counts in its layout? -/
def fails (conduct : Conduct) (layout : Layout) : Bool :=
  match conduct with
  | .fail code => code &&& layout.errorMask ≠ 0
  | .complete | .skip | .hang => false

def report (conduct : Conduct) (sequence : Nat) (engine : Engine) (layout : Layout)
    (lane : Nat) : Report :=
  match conduct with
  | .complete => .ofRun sequence engine layout lane 0
  | .fail code => .ofRun sequence engine layout lane code
  | .skip | .hang => .untouched engine layout

/-- What an engine does in a job: the first override for it, or else its default. -/
def overridden (conduct : Conduct) (overrides : List (Engine × Conduct)) (engine : Engine) :
    Conduct :=
  ((overrides.find? (·.1 = engine)).map (·.2)).getD conduct

lemma isComplete_report (conduct : Conduct) (sequence : Nat) (engine : Engine) (layout : Layout)
    (lane : Nat) : (conduct.report sequence engine layout lane).completion.isComplete := by
  cases conduct <;> rfl

lemma isFaulty_report (conduct : Conduct) (sequence : Nat) (engine : Engine) (layout : Layout)
    (lane : Nat) :
    (conduct.report sequence engine layout lane).isFaulty = conduct.fails layout := by
  have hzero : (0 : UInt32) &&& layout.errorMask = 0 := UInt32.zero_and
  cases conduct with
  | complete => simp [report, Report.ofRun, Report.isFaulty, fails, hzero]
  | fail code => rfl
  | skip | hang => rfl

end Conduct

/-- How far the device is with a unit, and what each engine does in the unit's job. -/
inductive Progress where
  | idle
  | kicked (conduct : Engine → Conduct)
  | ended (conduct : Engine → Conduct)

namespace Progress

def isIdle : Progress → Bool
  | .idle => true
  | .kicked _ | .ended _ => false

def hasEnded : Progress → Bool
  | .idle | .kicked _ => false
  | .ended _ => true

/-- The progress of a unit once its job ended. -/
def conclude : Progress → Progress
  | .idle => .idle
  | .kicked conduct | .ended conduct => .ended conduct

/-- Did the job end, and did none of the engines hang? -/
def hasRetired (engines : List (Engine × Layout)) : Progress → Bool
  | .idle | .kicked _ => false
  | .ended conduct => !engines.any fun entry => conduct entry.1 = .hang

/-- The status of a live unit. -/
def status (engines : List (Engine × Layout)) : Progress → Status
  | .idle | .kicked _ => .incomplete
  | .ended conduct =>
    if engines.any fun entry => conduct entry.1 = .hang then .incomplete
    else if engines.any fun entry => (conduct entry.1).fails entry.2 then .error
    else .successful

/-- The reports of the engines, in the order of the setup. The lane of an engine is its rank. -/
def reports (engines : List (Engine × Layout)) (sequence : Nat) : Progress → List Report
  | .idle | .kicked _ => engines.map fun (engine, layout) => .untouched engine layout
  | .ended conduct => engines.map fun (engine, layout) =>
    (conduct engine).report sequence engine layout (engine.rank (engines.map (·.1)))

variable {engines : List (Engine × Layout)} {progress : Progress}

lemma status_of_not_hasRetired (h : progress.hasRetired engines = false) :
    progress.status engines = .incomplete := by
  cases progress with
  | idle | kicked => rfl
  | ended conduct =>
    rw [hasRetired, Bool.not_eq_false'] at h
    rw [status, if_pos h]

theorem status_of_hasRetired (hengines : engines ≠ []) (sequence : Nat)
    (h : progress.hasRetired engines) :
    Status.ofReports (progress.reports engines sequence) = progress.status engines ∧
      (progress.status engines).isTerminal := by
  cases progress with
  | idle | kicked => cases h
  | ended conduct =>
    rw [hasRetired, Bool.not_eq_true'] at h
    have hempty : (((ended conduct).reports engines sequence).isEmpty ||
        !((ended conduct).reports engines sequence).all (·.completion.isComplete)) = false := by
      rw [reports, Bool.or_eq_false_iff, Bool.not_eq_false', List.all_eq_true]
      constructor
      · rw [List.isEmpty_eq_false_iff]
        exact fun hnil => hengines (List.map_eq_nil_iff.mp hnil)
      · intro report hmem
        obtain ⟨⟨engine, layout⟩, -, rfl⟩ := List.mem_map.mp hmem
        exact Conduct.isComplete_report _ _ _ _ _
    have hfaulty : ((ended conduct).reports engines sequence).any Report.isFaulty =
        engines.any fun entry => (conduct entry.1).fails entry.2 := by
      rw [reports, List.any_map]
      congr 1
      funext entry
      exact Conduct.isFaulty_report _ _ _ _ _
    rw [status, h, Status.ofReports, hempty, hfaulty]
    simp only [Bool.false_eq_true, if_false, true_and]
    split <;> rfl

end Progress

/-- Which job of the queue is run. -/
inductive Choice where
  | oldest
  | unit (sequence : Nat)
  | picked (pick : Nat)

structure Ledger where
  /-- What each engine does in jobs kicked from now on. -/
  defaults : Engine → Conduct
  /-- The units whose jobs wait, the oldest one first. -/
  queue : List Nat
  units : Nat → Progress

namespace Ledger

/-- Engines complete their part unless they are told otherwise. -/
def blank : Ledger := ⟨fun _ => .complete, [], fun _ => .idle⟩

def setUnit (ledger : Ledger) (sequence : Nat) (progress : Progress) : Ledger :=
  { ledger with units := fun other =>
      if other = sequence then progress else ledger.units other }

def setConduct (ledger : Ledger) (engine : Engine) (conduct : Conduct) : Ledger :=
  { ledger with defaults := fun other =>
      if other = engine then conduct else ledger.defaults other }

def conduct (ledger : Ledger) (overrides : List (Engine × Conduct)) (engine : Engine) : Conduct :=
  (ledger.defaults engine).overridden overrides engine

def kick (ledger : Ledger) (sequence : Nat) (overrides : List (Engine × Conduct)) : Ledger :=
  { ledger.setUnit sequence (.kicked (ledger.conduct overrides)) with
    queue := ledger.queue ++ [sequence] }

/-- The unit whose job a choice runs. -/
def due? (ledger : Ledger) : Choice → Option Nat
  | .oldest => ledger.queue.head?
  | .unit sequence => if sequence ∈ ledger.queue then some sequence else none
  | .picked pick => ledger.queue[pick % ledger.queue.length]?

def run (ledger : Ledger) (choice : Choice) : Ledger :=
  match ledger.due? choice with
  | none => ledger
  | some sequence =>
    { ledger.setUnit sequence (ledger.units sequence).conclude with
      queue := ledger.queue.erase sequence }

lemma units_setUnit (ledger : Ledger) (sequence other : Nat) (progress : Progress) :
    (ledger.setUnit sequence progress).units other =
      if other = sequence then progress else ledger.units other := rfl

lemma run_of_due? {ledger : Ledger} {choice : Choice} {sequence : Nat} {conduct : Engine → Conduct}
    (hdue : ledger.due? choice = some sequence) (hkicked : ledger.units sequence = .kicked conduct) :
    ledger.run choice = { ledger.setUnit sequence (.ended conduct) with
      queue := ledger.queue.erase sequence } := by
  have hconclude : (ledger.units sequence).conclude = .ended conduct := by
    rw [hkicked]
    rfl
  unfold run
  rw [hdue, ← hconclude]

end Ledger

end CompletionRing
