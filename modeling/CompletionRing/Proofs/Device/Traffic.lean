import CompletionRing.Proofs.Device.Plant

/-!
# Traffic

All that a plant does to its ring are operations of the ring, also where the device runs a job for
a unit that is gone or after the ring was destroyed. So a run of a plant is a run of its ring.
Meanwhile every job of the device keeps a part for each engine that the device was made for.
-/

namespace CompletionRing

namespace Ring

variable {ring : Ring} {sequence : Nat} {op : Op}

lemma next_touched_destroyed (h : ring.WellFormed) (hstore : ring.store = none)
    (htouches : op.touched? = some sequence) : ring.next op = ring := by
  have hstep := step h op
  rw [next_eq]
  generalize (ring.perform op).quiet = run at hstep
  cases hstep with
  | writeDestroyed | retireDestroyed => rfl
  | written hstore' | retireOverflow hstore' | retired hstore' =>
    rw [hstore] at hstore'
    cases hstore'
  | _ => cases htouches

lemma after_touched_destroyed (h : ring.WellFormed) (hstore : ring.store = none) {ops : List Op}
    (hops : ∀ op ∈ ops, op.touched? = some sequence) : ring.after ops = ring := by
  induction ops with
  | nil => rfl
  | cons op rest ih =>
    rw [after_cons, next_touched_destroyed h hstore (hops op List.mem_cons_self)]
    exact ih fun op hmem => hops op (List.mem_cons_of_mem _ hmem)

end Ring

namespace Choice

variable {α : Type}

/-- What a choice leads to in a list of things that each have a unit: to the first of all, to the
first for a unit, or to the one that a number picks. -/
def find? (unit : α → Nat) (list : List α) : Choice → Option α
  | .oldest => list[0]?
  | .unit sequence => list.find? (unit · = sequence)
  | .picked pick => list[pick % list.length]?

/-- The place that a choice leads to depends on the units only. There may be nothing at it. -/
def place? (units : List Nat) : Choice → Option Nat
  | .oldest => some 0
  | .unit sequence => units.findIdx? (· = sequence)
  | .picked pick => some (pick % units.length)

lemma find?_eq (unit : α → Nat) (list : List α) (choice : Choice) :
    choice.find? unit list = (choice.place? (list.map unit)).bind (list[·]?) := by
  cases choice with
  | oldest => rfl
  | picked pick => rw [find?, place?, List.length_map, Option.bind_some]
  | unit sequence =>
    rw [find?, place?, List.findIdx?_map, List.find?_eq_bind_findIdx?_getElem?]
    rfl

end Choice

namespace Device

variable {device : Device} {ring : Ring} {job : Job} {engines : List Engine}

/-- The job that a choice leads to. -/
def due? (device : Device) : Choice → Option Job
  | .oldest => device.queue[0]?
  | .unit sequence => device.queue.find? (·.sequence = sequence)
  | .picked pick => device.queue[pick % device.queue.length]?

lemma due?_eq (device : Device) (choice : Choice) : device.due? choice =
    (choice.place? (device.queue.map (·.sequence))).bind (device.queue[·]?) := by
  rw [← Choice.find?_eq]
  cases choice <;> rfl

lemma run_eq_runAt (device : Device) (ring : Ring) (choice : Choice) :
    device.run ring choice = match choice.place? (device.queue.map (·.sequence)) with
      | none => .done (device, ring) none
      | some place => device.runAt ring place := by
  cases choice with
  | oldest => rfl
  | picked pick => rw [run, runPicked, Choice.place?, List.length_map]
  | unit sequence =>
    rw [run, runUnit, Choice.place?, List.findIdx?_map]
    rfl

lemma run_of_due?_none {choice : Choice} (hdue : device.due? choice = none) (ring : Ring) :
    device.run ring choice = .done (device, ring) none := by
  rw [due?_eq] at hdue
  rw [run_eq_runAt]
  cases hplace : choice.place? (device.queue.map (·.sequence)) with
  | none => rfl
  | some place =>
    rw [hplace, Option.bind_some] at hdue
    simp only [runAt, hdue]

lemma run_of_due? {choice : Choice} (hdue : device.due? choice = some job) (ring : Ring) :
    ∃ place, choice.place? (device.queue.map (·.sequence)) = some place ∧
      device.queue[place]? = some job ∧ device.run ring choice =
        execute { device with queue := device.queue.eraseIdx place } ring job := by
  rw [due?_eq] at hdue
  obtain ⟨place, hplace, hjob⟩ := Option.bind_eq_some_iff.mp hdue
  refine ⟨place, hplace, hjob, ?_⟩
  rw [run_eq_runAt, hplace]
  simp only [runAt, hjob]

lemma run_eq (device : Device) (ring : Ring) (choice : Choice) :
    (device.due? choice = none ∧ device.run ring choice = .done (device, ring) none) ∨
    ∃ (place : Nat) (job : Job), device.due? choice = some job ∧
      device.queue[place]? = some job ∧ device.run ring choice =
        execute { device with queue := device.queue.eraseIdx place } ring job := by
  cases hdue : device.due? choice with
  | none => exact Or.inl ⟨rfl, run_of_due?_none hdue ring⟩
  | some job =>
    obtain ⟨place, -, hjob, hrun⟩ := run_of_due? hdue ring
    exact Or.inr ⟨place, job, rfl, hjob, hrun⟩

lemma mem_of_due? {choice : Choice} (hdue : device.due? choice = some job) :
    job ∈ device.queue := by
  cases choice with
  | oldest | picked => exact List.mem_of_getElem? hdue
  | unit => exact List.mem_of_find?_eq_some hdue

/-- Do all jobs, those that wait and those to come, have a part for each of the engines? -/
structure Serves (device : Device) (engines : List Engine) : Prop where
  defaults : EngineTable.Serves device.defaults.entries engines
  queue : ∀ job ∈ device.queue, EngineTable.Serves job.conducts engines

lemma Serves.of_same {device' : Device} (h : device.Serves engines)
    (hdefaults : device'.defaults = device.defaults)
    (hqueue : ∀ job ∈ device'.queue, job ∈ device.queue) : device'.Serves engines :=
  ⟨hdefaults ▸ h.defaults, fun job hmem => h.queue job (hqueue job hmem)⟩

lemma Serves.setConduct (h : device.Serves engines) (engine : Engine) (conduct : Conduct) :
    (device.setConduct engine conduct).Serves engines where
  defaults := h.defaults.insert engine conduct
  queue := h.queue

lemma serves_conducts (h : device.Serves engines) (overrides : List (Engine × Conduct)) :
    EngineTable.Serves (device.conducts overrides) engines := by
  have hkeys : (device.conducts overrides).map (·.1) = device.defaults.entries.map (·.1) := by
    rw [conducts, List.map_map]
    rfl
  exact ⟨hkeys ▸ h.defaults.sorted, hkeys ▸ h.defaults.engines⟩

lemma serves_matching (ring : Ring) : (matching ring).Serves ring.engines :=
  ⟨(EngineTable.covers_ofEngines ring.engines Conduct.complete).serves, by rintro _ ⟨⟩⟩

/-! ### Jobs -/

lemma conclude_state (device : Device) (ring : Ring) (job : Job) :
    (device.conclude ring job).state.2 =
        ring.after (if job.hangs then [] else [.retire job.sequence]) ∧
      (device.conclude ring job).state.1.queue = device.queue ∧
      (device.conclude ring job).state.1.defaults = device.defaults := by
  unfold conclude
  cases hhangs : job.hangs with
  | true => exact ⟨rfl, rfl, rfl⟩
  | false =>
    rw [if_neg Bool.false_ne_true, if_neg Bool.false_ne_true, Ring.after_cons, Ring.after_nil,
      Ring.next, Ring.perform]
    cases ring.retire job.sequence with
    | error fault => exact ⟨rfl, rfl, rfl⟩
    | ok answer => exact ⟨rfl, rfl, rfl⟩

theorem execute_state (device : Device) (h : ring.WellFormed) (job : Job) :
    (device.execute ring job).state.2 = ring.after job.ops ∧
      (device.execute ring job).state.1.queue = device.queue ∧
      (device.execute ring job).state.1.defaults = device.defaults := by
  unfold execute
  cases hdestroyed : ring.isDestroyed with
  | true =>
    have hstore : ring.store = none := Option.isNone_iff_eq_none.mp hdestroyed
    have hops : ∀ op ∈ job.ops, op.touched? = some job.sequence := fun _ => Ring.touched_of_mem_ops
    have hsame := Ring.after_touched_destroyed h hstore hops
    rw [if_pos rfl, hsame]
    exact ⟨rfl, rfl, rfl⟩
  | false =>
    rw [if_neg Bool.false_ne_true, Ring.writeAll_eq h, Job.ops, Ring.after_append]
    exact conclude_state device _ job

end Device

namespace Plant

variable {plant : Plant} {op : Op} {engines : List Engine}

def after (plant : Plant) (ops : List Op) : Plant := ops.foldl next plant

lemma after_cons (plant : Plant) (op : Op) (rest : List Op) :
    plant.after (op :: rest) = (plant.next op).after rest := rfl

lemma after_append (plant : Plant) (ops rest : List Op) :
    plant.after (ops ++ rest) = (plant.after ops).after rest := List.foldl_append

/-- What an operation does to the ring. -/
def ringOps (plant : Plant) : Op → List Ring.Op
  | .ring op => [op]
  | .setConduct _ _ | .kick _ _ => []
  | .run choice => ((plant.device.due? choice).map Job.ops).getD []

/-- What a run does to the ring. -/
def traffic (plant : Plant) : List Op → List Ring.Op
  | [] => []
  | op :: rest => plant.ringOps op ++ (plant.next op).traffic rest

lemma next_run (plant : Plant) (choice : Choice) :
    plant.next (.run choice) = ⟨(plant.device.run plant.ring choice).state.1,
      (plant.device.run plant.ring choice).state.2⟩ := rfl

lemma ring_next (h : plant.ring.WellFormed) (op : Op) :
    (plant.next op).ring = plant.ring.after (plant.ringOps op) := by
  cases op with
  | ring op => rfl
  | setConduct engine conduct => rfl
  | kick sequence overrides => rfl
  | run choice =>
    rw [next_run, ringOps]
    rcases plant.device.run_eq plant.ring choice with
      ⟨hdue, hrun⟩ | ⟨place, job, hdue, -, hrun⟩
    · rw [hdue, hrun]
      rfl
    · rw [hdue, hrun]
      exact (Device.execute_state _ h job).1

lemma serves_next (h : plant.ring.WellFormed) (hserves : plant.device.Serves engines) (op : Op) :
    (plant.next op).device.Serves engines := by
  cases op with
  | ring op => exact hserves
  | setConduct engine conduct => exact hserves.setConduct engine conduct
  | kick sequence overrides =>
    refine ⟨hserves.defaults, ?_⟩
    intro job hmem
    change job ∈ plant.device.queue ++ [⟨sequence, plant.device.conducts overrides⟩] at hmem
    rcases List.mem_append.mp hmem with hold | hnew
    · exact hserves.queue job hold
    · rw [List.mem_singleton.mp hnew]
      exact Device.serves_conducts hserves overrides
  | run choice =>
    rw [next_run]
    rcases plant.device.run_eq plant.ring choice with
      ⟨-, hrun⟩ | ⟨place, job, -, -, hrun⟩
    · rw [hrun]
      exact hserves
    · obtain ⟨-, hqueue, hdefaults⟩ := Device.execute_state
        { plant.device with queue := plant.device.queue.eraseIdx place } h job
      rw [hrun]
      refine hserves.of_same hdefaults ?_
      rw [hqueue]
      exact fun other hother => List.mem_of_mem_eraseIdx hother

/-- A run of a plant is a run of its ring. -/
theorem ring_after (h : plant.ring.WellFormed) (ops : List Op) :
    (plant.after ops).ring = plant.ring.after (plant.traffic ops) := by
  induction ops generalizing plant with
  | nil => rfl
  | cons op rest ih =>
    have hnext : (plant.next op).ring.WellFormed := by
      rw [ring_next h]
      exact h.after _
    rw [after_cons, ih hnext, traffic, Ring.after_append, ring_next h]

lemma wellFormed_after (h : plant.ring.WellFormed) (ops : List Op) :
    (plant.after ops).ring.WellFormed := by
  rw [ring_after h]
  exact h.after _

theorem serves_after (h : plant.ring.WellFormed) (hserves : plant.device.Serves engines)
    (ops : List Op) : (plant.after ops).device.Serves engines := by
  induction ops generalizing plant with
  | nil => exact hserves
  | cons op rest ih => exact ih (wellFormed_after h [op]) (serves_next h hserves op)

end Plant

end CompletionRing
