import CompletionRing.Proofs.Device.Ledger
import CompletionRing.Proofs.Ring.Announcements

/-!
# Plants

A plant is a ring with a device that works for it. Its operations interleave the host's with the
jobs of the device, which run in any order.
-/

namespace CompletionRing

def Device.run (device : Device) (ring : Ring) : Choice → Run (Device × Ring) (Option Outcome)
  | .oldest => device.runOldest ring
  | .unit sequence => device.runUnit ring sequence
  | .picked pick => device.runPicked ring pick

structure Plant where
  device : Device
  ring : Ring

namespace Plant

inductive Op where
  | ring (op : Ring.Op)
  | setConduct (engine : Engine) (conduct : Conduct)
  | kick (sequence : Nat) (overrides : List (Engine × Conduct))
  | run (choice : Choice)

inductive Reply where
  | ring (reply : Ring.Reply)
  | done
  | ended (outcome : Option Outcome)

/-- A ring with a device made for it. -/
def ofRing (ring : Ring) : Plant := ⟨.matching ring, ring⟩

def perform (plant : Plant) : Op → Run Plant Reply
  | .ring op => ((plant.ring.perform op).map .ring).within fun ring => { plant with ring }
  | .setConduct engine conduct =>
    .done { plant with device := plant.device.setConduct engine conduct } .done
  | .kick sequence overrides => .ofTraced plant do
    let device ← plant.device.kick sequence overrides
    return (.done, { plant with device })
  | .run choice =>
    ((plant.device.run plant.ring choice).map .ended).within fun (device, ring) => ⟨device, ring⟩

def next (plant : Plant) (op : Op) : Plant := (plant.perform op).state

def answer (plant : Plant) (op : Op) : Except Fault Reply := (plant.perform op).trace.result

def events (plant : Plant) (op : Op) : List Event := (plant.perform op).trace.events

/-- One operation of a run. -/
structure Entry where
  op : Op
  answer : Except Fault Reply
  events : List Event
  /-- The plant that the operation left. -/
  plant : Plant

def entry (plant : Plant) (op : Op) : Entry :=
  ⟨op, plant.answer op, plant.events op, plant.next op⟩

/-- The operations of a run one after the other. -/
def entries (plant : Plant) : List Op → List Entry
  | [] => []
  | op :: rest => plant.entry op :: (plant.next op).entries rest

/-- The units that were answered with a success, in order. -/
def success? : Op → Except Fault Reply → Option Nat
  | .ring op, .ok (.ring reply) => Ring.success? op (.ok reply)
  | _, _ => none

def successes (entries : List Entry) : List Nat :=
  entries.filterMap fun entry => success? entry.op entry.answer

/-- What the audience is told by the operations that come to their end. -/
def told (entries : List Entry) : List Snapshot :=
  (entries.filter (·.answer.isOk)).flatMap fun entry => announcements entry.events

end Plant

namespace Ledger

def follow (ledger : Ledger) : Plant.Op → Ledger
  | .ring _ => ledger
  | .setConduct engine conduct => ledger.setConduct engine conduct
  | .kick sequence overrides => ledger.kick sequence overrides
  | .run choice => ledger.run choice

/-- The ledger after the operations of a run. -/
def after (ledger : Ledger) (ops : List Plant.Op) : Ledger := ops.foldl follow ledger

end Ledger

namespace Plant

/-- Does an operation keep to the order of work? Units are kicked once, after they were begun,
and jobs run while their units are live. Nothing is retried, given up or destroyed. -/
def admits (plant : Plant) (ledger : Ledger) : Op → Bool
  | .ring (.begin _ _) | .ring (.query _ _) | .ring (.audience _ _) | .ring (.cancel _) => true
  | .ring _ => false
  | .setConduct engine _ => plant.ring.engines.contains engine
  | .kick sequence _ => sequence < plant.ring.submitted && (ledger.units sequence).isIdle
  | .run choice => (ledger.due? choice).all plant.ring.holds

/-- Does every operation of a run keep to the order of work? -/
def orderly (plant : Plant) (ledger : Ledger) : List Op → Bool
  | [] => true
  | op :: rest => plant.admits ledger op && (plant.next op).orderly (ledger.follow op) rest

end Plant

/-! ### Jobs as operations of a ring -/

namespace Job

/-- What a job does to a ring. -/
def ops (job : Job) : List Ring.Op :=
  job.writes.map (fun (engine, field, datum) => .write engine job.sequence field datum) ++
    if job.hangs then [] else [.retire job.sequence]

def outcome (job : Job) : Outcome :=
  if job.hangs then .hung job.sequence else .retired job.sequence

end Job

namespace Ring

variable {ring : Ring} {sequence : Nat} {op : Op}

lemma touched_of_mem_ops {job : Job} (hmem : op ∈ job.ops) :
    op.touched? = some job.sequence := by
  rcases List.mem_append.mp hmem with hwrite | hlast
  · obtain ⟨⟨engine, field, datum⟩, -, rfl⟩ := List.mem_map.mp hwrite
    rfl
  · split at hlast
    · cases hlast
    · rw [List.mem_singleton.mp hlast]
      rfl

lemma holds_withStore {store store' : RecordStore} (hstore : ring.store = some store) :
    { ring with store := some store' }.holds = ring.holds := by
  funext other
  unfold holds isDestroyed
  rw [hstore, Option.isNone_some, Option.isNone_some]

lemma Step.touched {run : Run Ring Reply} (hstep : Step ring op run)
    (htouches : op.touched? = some sequence) :
    run.state.holds = ring.holds ∧ run.state.submitted = ring.submitted ∧
      success? op run.trace.result = none := by
  cases hstep with
  | written hstore | retired hstore => exact ⟨holds_withStore hstore, rfl, rfl⟩
  | writeDestroyed | retireDestroyed | retireOverflow => exact ⟨rfl, rfl, rfl⟩
  | _ => cases htouches

lemma write_eq (h : ring.WellFormed) (engine : Engine) (sequence : Nat) (field : Field)
    (datum : UInt32) : ∃ known, ring.write engine sequence field datum =
      .ok (known, ring.next (.write engine sequence field datum)) := by
  have hnext : ∀ known ring', ring.write engine sequence field datum = .ok (known, ring') →
      ring.next (.write engine sequence field datum) = ring' := by
    intro known ring' hwrite
    rw [next, perform, hwrite]
    rfl
  cases hstore : ring.store with
  | none =>
    have hwrite : ring.write engine sequence field datum = .ok (none, ring) := by
      unfold write
      rw [hstore]
      rfl
    rw [hnext _ _ hwrite]
    exact ⟨none, hwrite⟩
  | some store =>
    have hok : store.write engine (ring.index sequence) field datum = _ :=
      RecordStore.write_ok (h.fits store hstore) (h.index_lt sequence)
    have hwrite : ring.write engine sequence field datum = .ok (some (store.knows engine field),
        { ring with
          store := some (store.withField engine (ring.index sequence) field datum) }) := by
      unfold write
      rw [hstore]
      simp only [hok]
      rfl
    rw [hnext _ _ hwrite]
    exact ⟨_, hwrite⟩

lemma retire_eq (h : ring.WellFormed) (hstands : ring.isDestroyed = false)
    (hroom : sequence + 1 < UInt64.size) :
    ∃ index, ring.retire sequence = .ok (index, ring.next (.retire sequence)) := by
  obtain ⟨store, hstore⟩ := Option.isSome_iff_exists.mp (Option.isNone_eq_false_iff.mp hstands)
  have hok := RecordStore.retire_ok (h.fits store hstore) (h.index_lt sequence) hroom
  have hretire : ring.retire sequence = .ok (some (ring.index sequence), { ring with
      store := some (store.withFence (ring.index sequence) (sequence + 1)) }) := by
    unfold retire
    rw [hstore]
    simp only [hok]
    rfl
  have hnext : ring.next (.retire sequence) = { ring with
      store := some (store.withFence (ring.index sequence) (sequence + 1)) } := by
    rw [next, perform, hretire]
    rfl
  rw [hnext]
  exact ⟨_, hretire⟩

lemma writeAll_eq (h : ring.WellFormed) (sequence : Nat)
    (writes : List (Engine × Field × UInt32)) :
    ring.writeAll sequence writes =
      .done (ring.after (writes.map fun (engine, field, datum) =>
        .write engine sequence field datum)) () := by
  induction writes generalizing ring with
  | nil => rfl
  | cons write rest ih =>
    obtain ⟨engine, field, datum⟩ := write
    have hnext := ih (h.next (.write engine sequence field datum))
    obtain ⟨known, hwrite⟩ := write_eq h engine sequence field datum
    rw [writeAll, hwrite]
    exact hnext

lemma after_touched (h : ring.WellFormed) {ops : List Op}
    (hops : ∀ op ∈ ops, op.touched? = some sequence) :
    (ring.after ops).WellFormed ∧ (ring.after ops).holds = ring.holds ∧
      (ring.after ops).submitted = ring.submitted := by
  induction ops generalizing ring with
  | nil => exact ⟨h, rfl, rfl⟩
  | cons op rest ih =>
    obtain ⟨hholds, hsubmitted, -⟩ := (step h op).touched (hops op List.mem_cons_self)
    obtain ⟨hwell, hholds', hsubmitted'⟩ :=
      ih (h.next op) fun op hmem => hops op (List.mem_cons_of_mem _ hmem)
    exact ⟨hwell, hholds'.trans hholds, hsubmitted'.trans hsubmitted⟩

lemma isDestroy_of_touched (htouches : op.touched? = some sequence) : op.isDestroy = false := by
  cases op with
  | destroy pool => cases htouches
  | _ => rfl

lemma isDestroyed_after_touched (h : ring.WellFormed) {ops : List Op}
    (hops : ∀ op ∈ ops, ∃ sequence, op.touched? = some sequence) :
    (ring.after ops).isDestroyed = ring.isDestroyed := by
  have hnone : ops.any Op.isDestroy = false := by
    rw [List.any_eq_false]
    intro op hmem
    obtain ⟨sequence, htouches⟩ := hops op hmem
    rw [isDestroy_of_touched htouches]
    exact Bool.false_ne_true
  rw [isDestroyed_after h, hnone, Bool.false_or]

lemma heard_touched (h : ring.WellFormed) {ops : List Op}
    (hops : ∀ op ∈ ops, op.touched? = some sequence) {earlier : List Nat}
    (hheard : ring.Heard earlier) : (ring.after ops).Heard earlier := by
  induction ops generalizing ring with
  | nil => exact hheard
  | cons op rest ih =>
    have hstep := step h op
    obtain ⟨-, -, hsuccess⟩ := hstep.touched (hops op List.mem_cons_self)
    have hnext := hstep.heard h hheard
    rw [hsuccess, Option.toList_none, List.append_nil] at hnext
    exact ih (h.next op) (fun op hmem => hops op (List.mem_cons_of_mem _ hmem)) hnext

end Ring

def Outcome.isRetired : Outcome → Bool
  | .retired _ => true
  | .hung _ => false

namespace Device

variable {ring : Ring} {job : Job}

/-- The device with some more outcomes in its counters. -/
def counted (device : Device) (outcomes : List Outcome) : Device :=
  { device with
    retired := device.retired + outcomes.countP (·.isRetired)
    hung := device.hung + outcomes.countP (!·.isRetired) }

@[simp] lemma counted_nil (device : Device) : device.counted [] = device := rfl

lemma counted_append (device : Device) (outcomes more : List Outcome) :
    (device.counted outcomes).counted more = device.counted (outcomes ++ more) := by
  simp only [counted, List.countP_append, Nat.add_assoc]

/-- As long as the ring stands, every job that is run comes to its end, and does to the ring what
its operations do. -/
theorem execute_of_stands (device : Device) (h : ring.WellFormed)
    (hstands : ring.isDestroyed = false) (hroom : job.sequence + 1 < UInt64.size) :
    ∃ events, device.execute ring job =
        ⟨(device.counted [job.outcome], ring.after job.ops), events, .ok (some job.outcome)⟩ ∧
      announcements events = [] := by
  unfold execute
  rw [hstands, if_neg Bool.false_ne_true, Ring.writeAll_eq h]
  unfold Job.ops Job.outcome
  obtain ⟨written, hwritten⟩ : ∃ written, written = ring.after
      (job.writes.map fun (engine, field, datum) => .write engine job.sequence field datum) :=
    ⟨_, rfl⟩
  have htouches : ∀ op ∈ job.writes.map fun (engine, field, datum) =>
      Ring.Op.write engine job.sequence field datum, op.touched? = some job.sequence := by
    intro op hmem
    obtain ⟨⟨engine, field, datum⟩, -, rfl⟩ := List.mem_map.mp hmem
    rfl
  cases hhangs : job.hangs with
  | true =>
    refine ⟨[.jobHung job.sequence], ?_, rfl⟩
    rw [if_pos rfl, if_pos rfl, List.append_nil, ← hwritten]
    change (Device.conclude device written job).map some = _
    unfold conclude
    rw [hhangs]
    rfl
  | false =>
    obtain ⟨hwell, -, -⟩ := Ring.after_touched h htouches
    have hstands' := (Ring.isDestroyed_after_touched h fun op hmem =>
      ⟨_, htouches op hmem⟩).trans hstands
    rw [← hwritten] at hwell hstands'
    obtain ⟨index, hretire⟩ := Ring.retire_eq hwell hstands' hroom
    refine ⟨[.jobRetired job.sequence], ?_, rfl⟩
    rw [if_neg Bool.false_ne_true, if_neg Bool.false_ne_true, Ring.after_append, ← hwritten]
    change (Device.conclude device written job).map some = _
    unfold conclude
    rw [hhangs, hretire]
    rfl

theorem execute_eq (device : Device) (h : ring.WellFormed) (hlive : ring.holds job.sequence) :
    ∃ device' events, device.execute ring job =
        ⟨(device', ring.after job.ops), events, .ok (some job.outcome)⟩ ∧
      device'.queue = device.queue ∧ device'.defaults = device.defaults ∧
      announcements events = [] := by
  have hstands : ring.isDestroyed = false := by
    obtain ⟨store, hstore⟩ := Ring.exists_store hlive
    unfold Ring.isDestroyed
    rw [hstore]
    rfl
  obtain ⟨events, hexecute, hquiet⟩ := device.execute_of_stands h hstands (h.succ_lt hlive)
  exact ⟨_, events, hexecute, rfl, rfl, hquiet⟩

end Device

namespace Plant

/-- A ring with two places for two engines, of which the second one has the smaller number. -/
def pair : Ring :=
  .fresh "ring" 2
    ⟨⟨"ring.fence", .deviceWrites, true, true, .zeroed 16 pageAlignment⟩,
      [⟨⟨1⟩, "second", .extended,
        ⟨"ring.second", .deviceWrites, true, true, .zeroed 128 pageAlignment⟩⟩,
      ⟨⟨0⟩, "first", .compact,
        ⟨"ring.first", .deviceWrites, true, true, .zeroed 32 pageAlignment⟩⟩]⟩

lemma create_pair : (Ring.create ⟨"ring", 2, [⟨⟨1⟩, "second", .extended, true⟩,
    ⟨⟨0⟩, "first", .compact, true⟩]⟩ (.new none)).result = .ok (.ok pair, ⟨none, 3, 176⟩) := rfl

end Plant

end CompletionRing
