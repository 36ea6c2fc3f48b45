import CompletionRing.Proofs.Device.Traffic

/-!
# Commands

A plant is told one operation after the other, or to run the whole queue. While its ring stands
every job that is run comes to its end; nothing comes of a job that is run for a destroyed ring.
-/

namespace CompletionRing

namespace Device

variable {device : Device} {ring : Ring} {job : Job} {queue rest : List Job}

def withQueue (device : Device) (queue : List Job) : Device := { device with queue }

lemma withQueue_self (device : Device) : device.withQueue device.queue = device := rfl

lemma runOldest_of_nil (hqueue : device.queue = []) (ring : Ring) :
    device.runOldest ring = .done (device, ring) none := by
  rw [runOldest, runAt, hqueue]
  rfl

lemma runOldest_of_cons (hqueue : device.queue = job :: rest) (ring : Ring) :
    device.runOldest ring = (device.withQueue rest).execute ring job := by
  rw [runOldest, runAt, hqueue]
  rfl

lemma execute_of_destroyed (device : Device) (hdestroyed : ring.isDestroyed) (job : Job) :
    device.execute ring job = .done (device, ring) none := by
  rw [execute, if_pos hdestroyed]

/-- For a destroyed ring the queue is not run: the oldest job leaves it, and that is all. -/
lemma runQueue_of_destroyed (device : Device) (hdestroyed : ring.isDestroyed) :
    device.runQueue ring = .done (device.withQueue device.queue.tail, ring) [] := by
  unfold runQueue
  cases hqueue : device.queue with
  | nil =>
    rw [List.length_nil, runFirst, List.tail_nil, ← hqueue]
    rfl
  | cons job rest =>
    rw [List.length_cons, runFirst, runOldest_of_cons hqueue, execute_of_destroyed _ hdestroyed]
    rfl

lemma runFirst_of_stands (hqueue : device.queue = queue) (h : ring.WellFormed)
    (hstands : ring.isDestroyed = false)
    (hroom : ∀ job ∈ queue, job.sequence + 1 < UInt64.size) :
    ∃ events, ∀ count, queue.length ≤ count → device.runFirst ring count =
      ⟨((device.withQueue []).counted (queue.map Job.outcome),
        ring.after (queue.flatMap Job.ops)), events, .ok (queue.map Job.outcome)⟩ := by
  induction queue generalizing device ring with
  | nil =>
    refine ⟨[], fun count _ => ?_⟩
    rw [List.map_nil, counted_nil, List.flatMap_nil, ← hqueue, withQueue_self]
    cases count with
    | zero => rfl
    | succ count =>
      rw [runFirst, runOldest_of_nil hqueue]
      rfl
  | cons job rest ih =>
    obtain ⟨hjob, hrest⟩ := List.forall_mem_cons.mp hroom
    -- The job does not destroy the ring, so the ones behind it come to their ends as well.
    have htouches : ∀ op ∈ job.ops, ∃ sequence, op.touched? = some sequence :=
      fun _ hmem => ⟨_, Ring.touched_of_mem_ops hmem⟩
    have hstands' := (Ring.isDestroyed_after_touched h htouches).trans hstands
    obtain ⟨events, hexecute, -⟩ := (device.withQueue rest).execute_of_stands h hstands hjob
    have hrest' : ((device.withQueue rest).counted [job.outcome]).queue = rest := rfl
    obtain ⟨later, hlater⟩ := ih hrest' (h.after job.ops) hstands' hrest
    refine ⟨events ++ later, fun count hcount => ?_⟩
    cases count with
    | zero => cases hcount
    | succ count =>
      have hcounted : (((device.withQueue rest).counted [job.outcome]).withQueue []).counted
            (rest.map Job.outcome) =
          (device.withQueue []).counted (job.outcome :: rest.map Job.outcome) :=
        counted_append (device.withQueue []) [job.outcome] _
      rw [runFirst, runOldest_of_cons hqueue, hexecute, List.flatMap_cons, Ring.after_append,
        List.map_cons, ← hcounted]
      simp only [Run.bind, hlater count (Nat.le_of_succ_le_succ hcount), Run.state_map,
        Run.trace_map, Traced.events_map, Traced.result_map, Except.map]

end Device

namespace Plant

variable {plant : Plant} {choice : Choice} {job : Job}

/-! ### One job -/

lemma of_run {device' : Device} {ring' : Ring} {events : List Event} {outcome : Option Outcome}
    (hrun : plant.device.run plant.ring choice = ⟨(device', ring'), events, .ok outcome⟩) :
    plant.next (.run choice) = ⟨device', ring'⟩ ∧
      plant.answer (.run choice) = .ok (.ended outcome) := by
  constructor
  · rw [next, perform, hrun]
    rfl
  · rw [answer, perform, hrun]
    rfl

lemma run_of_due?_none (hdue : plant.device.due? choice = none) :
    plant.next (.run choice) = plant ∧ plant.answer (.run choice) = .ok (.ended none) :=
  of_run (Device.run_of_due?_none hdue plant.ring)

lemma run_of_destroyed (hdestroyed : plant.ring.isDestroyed)
    (hdue : plant.device.due? choice = some job) :
    ∃ place, plant.device.queue[place]? = some job ∧
      plant.next (.run choice) =
        ⟨plant.device.withQueue (plant.device.queue.eraseIdx place), plant.ring⟩ ∧
      plant.answer (.run choice) = .ok (.ended none) := by
  obtain ⟨place, -, hjob, hrun⟩ := Device.run_of_due? hdue plant.ring
  rw [Device.execute_of_destroyed _ hdestroyed] at hrun
  exact ⟨place, hjob, of_run hrun⟩

lemma run_of_stands (h : plant.ring.WellFormed) (hstands : plant.ring.isDestroyed = false)
    (hdue : plant.device.due? choice = some job) (hroom : job.sequence + 1 < UInt64.size) :
    ∃ place, choice.place? (plant.device.queue.map (·.sequence)) = some place ∧
      plant.device.queue[place]? = some job ∧
      plant.next (.run choice) =
        ⟨(plant.device.withQueue (plant.device.queue.eraseIdx place)).counted [job.outcome],
          plant.ring.after job.ops⟩ ∧
      plant.answer (.run choice) = .ok (.ended (some job.outcome)) := by
  obtain ⟨place, hplace, hjob, hrun⟩ := Device.run_of_due? hdue plant.ring
  obtain ⟨events, hexecute, -⟩ := Device.execute_of_stands
    (plant.device.withQueue (plant.device.queue.eraseIdx place)) h hstands hroom
  exact ⟨place, hplace, hjob, of_run (hrun.trans hexecute)⟩

/-! ### Commands -/

/-- What a plant is told: one operation, or to run the whole queue. -/
inductive Command where
  | single (op : Op)
  | runQueue

namespace Command

def isKick : Command → Bool
  | .single (.kick _ _) => true
  | _ => false

def isDestroy : Command → Bool
  | .single (.ring op) => op.isDestroy
  | _ => false

/-- If a unit is kicked, is there a fence number for it? -/
def HasRoom : Command → Prop
  | .single (.kick sequence _) => sequence + 1 < UInt64.size
  | _ => True

end Command

def obey (plant : Plant) : Command → Plant
  | .single op => plant.next op
  | .runQueue =>
    let (device, ring) := (plant.device.runQueue plant.ring).state
    ⟨device, ring⟩

def obeyed (plant : Plant) (commands : List Command) : Plant := commands.foldl obey plant

lemma obeyed_cons (plant : Plant) (command : Command) (rest : List Command) :
    plant.obeyed (command :: rest) = (plant.obey command).obeyed rest := rfl

/-- Is the ring well-formed, and is there a fence number for each unit whose job waits? -/
structure Ready (plant : Plant) : Prop where
  wellFormed : plant.ring.WellFormed
  room : ∀ job ∈ plant.device.queue, job.sequence + 1 < UInt64.size

lemma runQueue_of_destroyed (hdestroyed : plant.ring.isDestroyed) :
    plant.obey .runQueue = ⟨plant.device.withQueue plant.device.queue.tail, plant.ring⟩ ∧
      (plant.device.runQueue plant.ring).trace.result = .ok [] := by
  rw [obey, Device.runQueue_of_destroyed _ hdestroyed]
  exact ⟨rfl, rfl⟩

lemma Ready.runQueue (h : plant.Ready) (hstands : plant.ring.isDestroyed = false) :
    plant.obey .runQueue =
        ⟨(plant.device.withQueue []).counted (plant.device.queue.map Job.outcome),
          plant.ring.after (plant.device.queue.flatMap Job.ops)⟩ ∧
      (plant.device.runQueue plant.ring).trace.result =
        .ok (plant.device.queue.map Job.outcome) := by
  obtain ⟨events, hrun⟩ := Device.runFirst_of_stands rfl h.wellFormed hstands h.room
  rw [obey, Device.runQueue, hrun _ (Nat.le_refl _)]
  exact ⟨rfl, rfl⟩

/-- All that a command can do to a plant whose jobs have fence numbers. -/
inductive Obeys (plant : Plant) : Command → Plant → Prop
  | ring (op : Ring.Op) : Obeys plant (.single (.ring op)) ⟨plant.device, plant.ring.next op⟩
  | setConduct (engine : Engine) (conduct : Conduct) :
    Obeys plant (.single (.setConduct engine conduct))
      ⟨plant.device.setConduct engine conduct, plant.ring⟩
  | kick (sequence : Nat) (overrides : List (Engine × Conduct)) :
    Obeys plant (.single (.kick sequence overrides))
      ⟨plant.device.withQueue
        (plant.device.queue ++ [⟨sequence, plant.device.conducts overrides⟩]), plant.ring⟩
  | idle {choice : Choice} (hdue : plant.device.due? choice = none) :
    Obeys plant (.single (.run choice)) plant
  | dropped {choice : Choice} {job : Job} {place : Nat} (hdestroyed : plant.ring.isDestroyed)
      (hdue : plant.device.due? choice = some job)
      (hjob : plant.device.queue[place]? = some job) :
    Obeys plant (.single (.run choice))
      ⟨plant.device.withQueue (plant.device.queue.eraseIdx place), plant.ring⟩
  | ran {choice : Choice} {job : Job} {place : Nat} (hstands : plant.ring.isDestroyed = false)
      (hdue : plant.device.due? choice = some job)
      (hplace : choice.place? (plant.device.queue.map (·.sequence)) = some place)
      (hjob : plant.device.queue[place]? = some job) :
    Obeys plant (.single (.run choice))
      ⟨(plant.device.withQueue (plant.device.queue.eraseIdx place)).counted [job.outcome],
        plant.ring.after job.ops⟩
  | queueDropped (hdestroyed : plant.ring.isDestroyed) :
    Obeys plant .runQueue ⟨plant.device.withQueue plant.device.queue.tail, plant.ring⟩
  | queueRan (hstands : plant.ring.isDestroyed = false) :
    Obeys plant .runQueue
      ⟨(plant.device.withQueue []).counted (plant.device.queue.map Job.outcome),
        plant.ring.after (plant.device.queue.flatMap Job.ops)⟩

theorem Ready.obeys (h : plant.Ready) (command : Command) :
    plant.Obeys command (plant.obey command) := by
  cases command with
  | runQueue =>
    cases hdestroyed : plant.ring.isDestroyed with
    | true =>
      rw [(runQueue_of_destroyed hdestroyed).1]
      exact .queueDropped hdestroyed
    | false =>
      rw [(h.runQueue hdestroyed).1]
      exact .queueRan hdestroyed
  | single op =>
    cases op with
    | ring op => exact .ring op
    | setConduct engine conduct => exact .setConduct engine conduct
    | kick sequence overrides => exact .kick sequence overrides
    | run choice =>
      rw [obey]
      cases hdue : plant.device.due? choice with
      | none =>
        rw [(run_of_due?_none hdue).1]
        exact .idle hdue
      | some job =>
        cases hdestroyed : plant.ring.isDestroyed with
        | true =>
          obtain ⟨place, hjob, hnext, -⟩ := run_of_destroyed hdestroyed hdue
          rw [hnext]
          exact .dropped hdestroyed hdue hjob
        | false =>
          obtain ⟨place, hplace, hjob, hnext, -⟩ := run_of_stands h.wellFormed hdestroyed hdue
            (h.room job (Device.mem_of_due? hdue))
          rw [hnext]
          exact .ran hdestroyed hdue hplace hjob

variable {command : Command} {plant' : Plant}

lemma Ready.after_ops (h : plant.Ready) (ops : List Ring.Op) {device' : Device}
    (hqueue : ∀ job ∈ device'.queue, job ∈ plant.device.queue) :
    Ready ⟨device', plant.ring.after ops⟩ :=
  ⟨h.wellFormed.after ops, fun job hmem => h.room job (hqueue job hmem)⟩

lemma Ready.of_obeys (h : plant.Ready) (hroom : command.HasRoom)
    (hobeys : plant.Obeys command plant') : plant'.Ready := by
  cases hobeys with
  | ring op => exact h.after_ops [op] fun _ hmem => hmem
  | setConduct => exact h.after_ops [] fun _ hmem => hmem
  | kick sequence overrides =>
    refine ⟨h.wellFormed, ?_⟩
    intro job hmem
    rcases List.mem_append.mp hmem with hold | hnew
    · exact h.room job hold
    · rw [List.mem_singleton.mp hnew]
      exact hroom
  | idle => exact h
  | dropped => exact h.after_ops [] fun _ hmem => List.mem_of_mem_eraseIdx hmem
  | ran => exact h.after_ops _ fun _ hmem => List.mem_of_mem_eraseIdx hmem
  | queueDropped => exact h.after_ops [] fun _ hmem => List.mem_of_mem_tail hmem
  | queueRan => exact h.after_ops _ nofun

lemma Ready.obeyed (h : plant.Ready) {commands : List Command}
    (hroom : ∀ command ∈ commands, command.HasRoom) : (plant.obeyed commands).Ready := by
  induction commands generalizing plant with
  | nil => exact h
  | cons command rest ih =>
    obtain ⟨hfirst, hrest⟩ := List.forall_mem_cons.mp hroom
    exact ih (h.of_obeys hfirst (h.obeys command)) hrest

lemma Ready.isDestroyed_of_obeys (h : plant.Ready) (hobeys : plant.Obeys command plant') :
    plant'.ring.isDestroyed = (command.isDestroy || plant.ring.isDestroyed) := by
  cases hobeys with
  | ring op =>
    have hafter := Ring.isDestroyed_after h.wellFormed [op]
    rw [List.any_cons, List.any_nil, Bool.or_false] at hafter
    exact hafter
  | ran =>
    exact Ring.isDestroyed_after_touched h.wellFormed
      fun _ hmem => ⟨_, Ring.touched_of_mem_ops hmem⟩
  | queueRan =>
    refine Ring.isDestroyed_after_touched h.wellFormed fun op hmem => ?_
    obtain ⟨job, -, hop⟩ := List.mem_flatMap.mp hmem
    exact ⟨_, Ring.touched_of_mem_ops hop⟩
  | _ => rfl

lemma ready_new {ring : Ring} (hnew : ring.IsNew) (earlier : List Ring.Op)
    (engines : List Engine) : Ready ⟨.new engines, ring.after earlier⟩ :=
  ⟨hnew.wellFormed_after earlier, nofun⟩

end Plant

end CompletionRing
