import CompletionRing.Proofs.Archive.Mirrors
import CompletionRing.Proofs.Device.Jobs
import CompletionRing.Proofs.Device.Plant
import Mathlib.Data.List.Dedup

/-!
# Orders

An order is what a kick asks of the device. Its job leaves the record of each engine as the engine
was told to, and the fence number of the unit unless an engine hangs; the rest of the shared memory
stays as it is.
-/

namespace CompletionRing

/-- What a kick asks for. -/
structure Order where
  sequence : Nat
  /-- The engines that were known at the kick. -/
  engines : List Engine
  conduct : Engine → Conduct

namespace Order

def hangs (order : Order) : Bool := order.engines.any fun engine => order.conduct engine = .hang

def outcome (order : Order) : Outcome :=
  if order.hangs then .hung order.sequence else .retired order.sequence

/-- How many of the engines have a smaller number. -/
def lane (order : Order) (engine : Engine) : Nat := engine.rank order.engines.dedup

/-- Is the job for the unit, and does it have what is asked for as the part of each engine? -/
structure Describes (order : Order) (job : Job) : Prop where
  sequence : job.sequence = order.sequence
  conducts : EngineTable.Covers job.conducts order.engines order.conduct

/-- Does the second store differ from the first one by what is asked for at an index? -/
structure Leaves (order : Order) (index : Nat) (store store' : RecordStore) : Prop where
  layouts : store'.layouts = store.layouts
  values : ∀ engine place field, store'.value engine place field =
    if place = index ∧ engine ∈ order.engines ∧ store.knows engine field then
      (order.conduct engine).record order.sequence (order.lane engine) engine
        (store.value engine index) field
    else store.value engine place field
  fences : ∀ place, store'.fenceNumber place =
    if place = index ∧ order.hangs = false then order.sequence + 1 else store.fenceNumber place

/-- Is the second ring what the job of the order makes of the first one? -/
def Done (order : Order) (ring ring' : Ring) : Prop :=
  ∃ store store', ring.store = some store ∧ ring' = { ring with store := some store' } ∧
    order.Leaves (ring.index order.sequence) store store'

/-- Is the last ring what the jobs of the orders make of the first one, one after the other? -/
inductive AllDone : List Order → Ring → Ring → Prop
  | nil (ring : Ring) : AllDone [] ring ring
  | cons {order : Order} {rest : List Order} {ring between ring' : Ring}
      (hfirst : order.Done ring between) (hrest : AllDone rest between ring') :
    AllDone (order :: rest) ring ring'

variable {order : Order} {job : Job}

lemma Describes.hangs (h : order.Describes job) : job.hangs = order.hangs :=
  h.conducts.any (· = .hang)

lemma Describes.outcome (h : order.Describes job) : job.outcome = order.outcome := by
  rw [Job.outcome, Order.outcome, h.hangs, h.sequence]

lemma Describes.part (h : order.Describes job) {engine : Engine}
    (hengine : engine ∈ order.engines) :
    job.conducts[order.lane engine]? = some (engine, order.conduct engine) := by
  have hcovers := h.conducts.congr fun engine => List.mem_dedup.symm
  obtain ⟨place, hat⟩ := h.conducts.exists_entry hengine
  rw [Order.lane, hcovers.rank order.engines.nodup_dedup hat]
  exact hat

end Order

lemma Dossier.fields_written_job {order : Order} {job : Job} (h : order.Describes job)
    (dossier : Dossier) (knows : Engine → Field → Bool) (engine : Engine) (field : Field) :
    (dossier.written knows job.writes).fields engine field =
      if engine ∈ order.engines ∧ knows engine field then
        (order.conduct engine).record order.sequence (order.lane engine) engine
          (dossier.fields engine) field
      else dossier.fields engine field := by
  rw [Job.writes_eq]
  by_cases hengine : engine ∈ order.engines
  · by_cases hknows : knows engine field
    · rw [if_pos ⟨hengine, hknows⟩,
        fields_written_conducts hknows h.conducts.nodup (h.part hengine), Nat.zero_add, h.sequence]
    · rw [if_neg fun hboth => hknows hboth.2]
      exact fields_written_unknown (Bool.eq_false_iff.mpr hknows) _
  · have hapart : ∀ write ∈ Job.writesFrom job.sequence 0 job.conducts, write.1 ≠ engine := by
      rintro write hmem rfl
      exact hengine ((h.conducts.engines _).mp (Job.writesFrom_engine hmem))
    rw [if_neg fun hboth => hengine hboth.1, fields_written_apart hapart]

namespace Ring

variable {ring : Ring} {store : RecordStore} {dossier : Dossier} {sequence : Nat}

/-- Stores to the records of a unit change these as they change a file on them, and no others. -/
lemma after_writes (h : ring.WellFormed) (hstore : ring.store = some store)
    (hrecords : dossier.Records store (ring.index sequence) sequence)
    (writes : List (Engine × Field × UInt32)) :
    ∃ store', ring.after (writes.map fun (engine, field, datum) =>
        .write engine sequence field datum) = { ring with store := some store' } ∧
      (dossier.stored store.layouts writes).Records store' (ring.index sequence) sequence ∧
      store'.layouts = store.layouts ∧ store'.fenceNumber = store.fenceNumber ∧
      ∀ engine place field, place ≠ ring.index sequence →
        store'.value engine place field = store.value engine place field := by
  induction writes generalizing ring store dossier with
  | nil =>
    refine ⟨store, ?_, hrecords, rfl, rfl, fun _ _ _ _ => rfl⟩
    rw [← hstore]
    rfl
  | cons write rest ih =>
    obtain ⟨engine, field, datum⟩ := write
    have hfits := h.fits store hstore
    have hi := h.index_lt sequence
    have hnext := next_write h hstore engine sequence field datum
    have hwell := h.next (.write engine sequence field datum)
    rw [hnext] at hwell
    obtain ⟨store', hafter, hrecords', hlayouts, hfences, hothers⟩ :=
      ih hwell rfl (hrecords.write hfits hi engine field datum)
    rw [RecordStore.layouts_withField] at hrecords' hlayouts
    rw [RecordStore.knows_eq_layouts hfits] at hrecords'
    refine ⟨store', ?_, hrecords', hlayouts, hfences, ?_⟩
    · rw [List.map_cons, after_cons, hnext, hafter]
    · intro other place field' hplace
      rw [hothers other place field' hplace, RecordStore.value_withField hfits hi]
      exact if_neg fun hsame => hplace hsame.2.1

end Ring

namespace Order

variable {order : Order} {job : Job} {ring : Ring} {store : RecordStore}

lemma Describes.written (h : order.Describes job) (hring : ring.WellFormed)
    (hstore : ring.store = some store) :
    ∃ store', ring.after (job.writes.map fun (engine, field, datum) =>
        .write engine job.sequence field datum) = { ring with store := some store' } ∧
      store'.layouts = store.layouts ∧ store'.fenceNumber = store.fenceNumber ∧
      ∀ engine place field, store'.value engine place field =
        if place = ring.index job.sequence ∧ engine ∈ order.engines ∧ store.knows engine field then
          (order.conduct engine).record order.sequence (order.lane engine) engine
            (store.value engine (ring.index job.sequence)) field
        else store.value engine place field := by
  -- A file with what the records hold: its slot is of no account here.
  let dossier : Dossier := ⟨.begun job.sequence 0 none,
    fun engine => store.value engine (ring.index job.sequence),
    job.sequence < store.fenceNumber (ring.index job.sequence)⟩
  have hrecords : dossier.Records store (ring.index job.sequence) job.sequence :=
    ⟨by simp [dossier], fun _ _ _ => rfl⟩
  obtain ⟨store', hafter, hrecords', hlayouts, hfences, hothers⟩ :=
    Ring.after_writes hring hstore hrecords job.writes
  refine ⟨store', hafter, hlayouts, hfences, ?_⟩
  intro engine place field
  by_cases hplace : place = ring.index job.sequence
  · by_cases hengine : engine ∈ store.engines
    · have hengine' : engine ∈ store'.engines := RecordStore.engines_congr hlayouts ▸ hengine
      rw [hplace, hrecords'.fields engine hengine' field, Dossier.stored,
        Dossier.fields_written_job h, RecordStore.knows_eq_layouts (hring.fits store hstore)]
      simp only [true_and]
      rfl
    · have hengine' : engine ∉ store'.engines := RecordStore.engines_congr hlayouts ▸ hengine
      rw [RecordStore.value_of_not_mem hengine', RecordStore.value_of_not_mem hengine,
        RecordStore.knows_of_not_mem hengine]
      simp
  · rw [hothers _ _ _ hplace, if_neg fun hall => hplace hall.1]

/-- The job of an order does what the order asks for. -/
theorem Describes.done (h : order.Describes job) (hring : ring.WellFormed)
    (hstands : ring.isDestroyed = false) (hroom : job.sequence + 1 < UInt64.size) :
    order.Done ring (ring.after job.ops) := by
  obtain ⟨store, hstore⟩ := Option.isSome_iff_exists.mp (Option.isNone_eq_false_iff.mp hstands)
  obtain ⟨store', hafter, hlayouts, hfences, hvalues⟩ := h.written hring hstore
  rw [Job.ops, Ring.after_append, hafter, h.hangs]
  rw [h.sequence] at hvalues hroom ⊢
  cases hhangs : order.hangs with
  | true =>
    refine ⟨store, store', hstore, rfl, hlayouts, hvalues, ?_⟩
    intro place
    rw [hfences, hhangs]
    simp
  | false =>
    have hwell : Ring.WellFormed { ring with store := some store' } := by
      rw [← hafter]
      exact hring.after _
    have hfits := hwell.fits store' rfl
    refine ⟨store, store'.withFence (ring.index order.sequence) (order.sequence + 1), hstore,
      ?_, ?_, ?_, ?_⟩
    · rw [if_neg Bool.false_ne_true]
      exact Ring.next_retire hwell rfl hroom
    · rw [RecordStore.layouts_withFence, hlayouts]
    · intro engine place field
      rw [RecordStore.value_withFence, hvalues]
    · intro place
      rw [RecordStore.fenceNumber_withFence hfits (hring.index_lt order.sequence) hroom, hfences,
        hhangs]
      simp

theorem allDone_of_describes {orders : List Order} {jobs : List Job}
    (h : List.Forall₂ Describes orders jobs) (hring : ring.WellFormed)
    (hstands : ring.isDestroyed = false) (hroom : ∀ job ∈ jobs, job.sequence + 1 < UInt64.size) :
    AllDone orders ring (ring.after (jobs.flatMap Job.ops)) := by
  induction h generalizing ring with
  | nil => exact .nil ring
  | @cons order job orders jobs hfirst hrest ih =>
    obtain ⟨hjob, hlater⟩ := List.forall_mem_cons.mp hroom
    have hstands' := (Ring.isDestroyed_after_touched hring fun op hmem =>
      ⟨job.sequence, Ring.touched_of_mem_ops hmem⟩).trans hstands
    rw [List.flatMap_cons, Ring.after_append]
    exact .cons (hfirst.done hring hstands hjob) (ih (hring.after job.ops) hstands' hlater)

end Order

end CompletionRing
