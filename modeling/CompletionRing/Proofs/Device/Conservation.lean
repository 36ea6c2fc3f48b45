import CompletionRing.Proofs.Device.Commands

/-!
# Where jobs go

A job that was kicked waits in the queue or was counted as retired or hung, or it was run for a
destroyed ring: such a job leaves the queue and is not counted.
-/

namespace CompletionRing

namespace Plant

/-- The choice by which a command takes its first job. -/
def Command.choice? : Command → Option Choice
  | .single (.run choice) => some choice
  | .runQueue => some .oldest
  | _ => none

/-- The job that a command runs for a destroyed ring. -/
def lost (plant : Plant) (command : Command) : List Job :=
  if plant.ring.isDestroyed then (command.choice?.bind plant.device.due?).toList else []

/-- The jobs that the commands run for a destroyed ring. -/
def losses (plant : Plant) : List Command → List Job
  | [] => []
  | command :: rest => plant.lost command ++ (plant.obey command).losses rest

variable {plant : Plant} {command : Command} {choice : Choice} {job : Job}

/-- The jobs that wait and those that were counted. -/
def jobs (plant : Plant) : Nat :=
  plant.device.queue.length + plant.device.retired + plant.device.hung

lemma lost_of_stands (hstands : plant.ring.isDestroyed = false) : plant.lost command = [] := by
  rw [lost, hstands, if_neg Bool.false_ne_true]

lemma jobs_counted (device : Device) (ring : Ring) (outcomes : List Outcome) :
    jobs ⟨device.counted outcomes, ring⟩ = jobs ⟨device, ring⟩ + outcomes.length := by
  have hlength := List.length_eq_countP_add_countP (l := outcomes) (·.isRetired)
  simp only [Bool.not_eq_true, Bool.decide_eq_false] at hlength
  simp only [jobs, Device.counted]
  omega

lemma jobs_withQueue (device : Device) (queue : List Job) (ring : Ring) :
    jobs ⟨device.withQueue queue, ring⟩ = queue.length + device.retired + device.hung := rfl

lemma length_eraseIdx {queue : List Job} {place : Nat} (hjob : queue[place]? = some job) :
    (queue.eraseIdx place).length + 1 = queue.length := by
  obtain ⟨hlt, -⟩ := List.getElem?_eq_some_iff.mp hjob
  rw [List.length_eraseIdx_of_lt hlt]
  omega

/-- A kick adds one job, and no command makes a job vanish unless the ring is destroyed. -/
lemma Obeys.jobs {plant' : Plant} (hobeys : plant.Obeys command plant') :
    plant'.jobs + (plant.lost command).length =
      plant.jobs + if command.isKick then 1 else 0 := by
  -- What takes no job loses none.
  have hnone : command.choice? = none → plant.lost command = [] := by
    intro hchoice
    rw [lost, hchoice, Option.bind_none, Option.toList_none, ite_self]
  cases hobeys with
  | ring | setConduct =>
    rw [hnone rfl]
    rfl
  | kick =>
    rw [hnone rfl, jobs_withQueue, List.length_append]
    simp only [jobs, Command.isKick, List.length_singleton, List.length_nil, if_true]
    omega
  | idle hdue =>
    rw [lost, Command.choice?, Option.bind_some, hdue, Option.toList_none, ite_self]
    rfl
  | dropped hdestroyed hdue hjob =>
    have hlength := length_eraseIdx hjob
    rw [lost, if_pos hdestroyed, Command.choice?, Option.bind_some, hdue, jobs_withQueue]
    simp only [jobs, Command.isKick, Option.toList_some, List.length_singleton,
      Bool.false_eq_true, if_false]
    omega
  | ran hstands hdue hplace hjob =>
    have hlength := length_eraseIdx hjob
    rw [lost_of_stands hstands, jobs_counted, jobs_withQueue]
    simp only [jobs, Command.isKick, List.length_singleton, List.length_nil, Bool.false_eq_true,
      if_false]
    omega
  | queueDropped hdestroyed =>
    rw [lost, if_pos hdestroyed, Command.choice?, Option.bind_some, Device.due?, jobs_withQueue,
      jobs]
    cases plant.device.queue with
    | nil => rfl
    | cons job rest =>
      simp only [Command.isKick, List.tail_cons, List.getElem?_cons_zero, Option.toList_some,
        List.length_cons, List.length_nil, Bool.false_eq_true, if_false]
      omega
  | queueRan hstands =>
    rw [lost_of_stands hstands, jobs_counted, jobs_withQueue, List.length_map]
    simp only [jobs, Command.isKick, List.length_nil, Bool.false_eq_true, if_false]
    omega

/-- In a run the jobs that were kicked are those that wait, those that were counted and those that
were lost. -/
lemma Ready.jobs_obeyed (h : plant.Ready) {commands : List Command}
    (hroom : ∀ command ∈ commands, command.HasRoom) :
    (plant.obeyed commands).jobs + (plant.losses commands).length =
      plant.jobs + commands.countP (·.isKick) := by
  induction commands generalizing plant with
  | nil => rfl
  | cons command rest ih =>
    obtain ⟨hfirst, hrest⟩ := List.forall_mem_cons.mp hroom
    have hobeys := h.obeys command
    have hnow := hobeys.jobs
    have hlater := ih (h.of_obeys hfirst hobeys) hrest
    rw [obeyed_cons, losses, List.length_append, List.countP_cons]
    omega

lemma Ready.losses_of_stands (h : plant.Ready) {commands : List Command}
    (hroom : ∀ command ∈ commands, command.HasRoom)
    (hstands : (plant.obeyed commands).ring.isDestroyed = false) :
    plant.losses commands = [] ∧ plant.ring.isDestroyed = false := by
  induction commands generalizing plant with
  | nil => exact ⟨rfl, hstands⟩
  | cons command rest ih =>
    obtain ⟨hfirst, hrest⟩ := List.forall_mem_cons.mp hroom
    have hobeys := h.obeys command
    obtain ⟨hlosses, hnext⟩ := ih (h.of_obeys hfirst hobeys) hrest hstands
    rw [h.isDestroyed_of_obeys hobeys, Bool.or_eq_false_iff] at hnext
    rw [losses, hlosses, lost_of_stands hnext.2]
    exact ⟨rfl, hnext.2⟩

lemma Ready.ended_none_iff (h : plant.Ready) (choice : Choice) :
    plant.answer (.run choice) = .ok (.ended none) ↔
      plant.device.due? choice = none ∨ plant.ring.isDestroyed := by
  cases hdue : plant.device.due? choice with
  | none => exact iff_of_true (run_of_due?_none hdue).2 (Or.inl rfl)
  | some job =>
    cases hdestroyed : plant.ring.isDestroyed with
    | true =>
      obtain ⟨place, -, -, hanswer⟩ := run_of_destroyed hdestroyed hdue
      exact iff_of_true hanswer (Or.inr rfl)
    | false =>
      obtain ⟨place, -, -, -, hanswer⟩ := run_of_stands h.wellFormed hdestroyed hdue
        (h.room job (Device.mem_of_due? hdue))
      rw [hanswer]
      simp

/-- Of the jobs that were kicked each waits, or was counted, or was lost, and none is lost as long
as the ring stands. A run without an outcome leaves everything as it is if there was no job to run;
else the ring is destroyed, and the job is gone from the queue. -/
theorem jobs_conserved {ring : Ring} (hnew : ring.IsNew) (earlier : List Ring.Op)
    (engines : List Engine) {commands : List Command}
    (hroom : ∀ command ∈ commands, command.HasRoom) :
    let start : Plant := ⟨.new engines, ring.after earlier⟩
    let plant := start.obeyed commands
    commands.countP (·.isKick) = plant.device.queue.length + plant.device.retired +
        plant.device.hung + (start.losses commands).length ∧
      (plant.ring.isDestroyed = false → start.losses commands = []) ∧
      (∀ choice, (plant.answer (.run choice) = .ok (.ended none) ↔
          plant.device.due? choice = none ∨ plant.ring.isDestroyed) ∧
        (plant.device.due? choice = none → plant.next (.run choice) = plant) ∧
        ∀ job, plant.device.due? choice = some job → plant.ring.isDestroyed →
          ∃ place, plant.device.queue[place]? = some job ∧ plant.next (.run choice) =
            ⟨plant.device.withQueue (plant.device.queue.eraseIdx place), plant.ring⟩) ∧
      (plant.ring.isDestroyed →
        plant.obey .runQueue = ⟨plant.device.withQueue plant.device.queue.tail, plant.ring⟩ ∧
        (plant.device.runQueue plant.ring).trace.result = .ok []) := by
  intro start plant
  have hstart : start.Ready := ready_new hnew earlier engines
  have h : plant.Ready := hstart.obeyed hroom
  refine ⟨?_, fun hstands => (hstart.losses_of_stands hroom hstands).1, ?_, runQueue_of_destroyed⟩
  · have hjobs := hstart.jobs_obeyed hroom
    have hnone : start.jobs = 0 := rfl
    rw [hnone, Nat.zero_add] at hjobs
    exact hjobs.symm
  · intro choice
    refine ⟨h.ended_none_iff choice, fun hdue => (run_of_due?_none hdue).1, ?_⟩
    intro job hdue hdestroyed
    obtain ⟨place, hjob, hnext, -⟩ := run_of_destroyed hdestroyed hdue
    exact ⟨place, hjob, hnext⟩

/-- Of two jobs one is run, and one is lost after the ring was destroyed. -/
theorem jobs_conserved_single :
    let start : Plant := ⟨.new [⟨0⟩], .single⟩
    let commands : List Command := [.single (.ring (.begin 7 none)), .single (.kick 0 []),
      .single (.kick 0 []), .single (.run .oldest), .single (.ring (.destroy (.new none))),
      .runQueue]
    let plant := start.obeyed commands
    (∀ command ∈ commands, command.HasRoom) ∧
      2 = plant.device.queue.length + plant.device.retired + plant.device.hung +
        (start.losses commands).length ∧
      plant.device.retired = 1 ∧ (start.losses commands).length = 1 := by
  have hroom : ∀ command ∈ [Command.single (.ring (.begin 7 none)), .single (.kick 0 []),
      .single (.kick 0 []), .single (.run .oldest), .single (.ring (.destroy (.new none))),
      .runQueue], command.HasRoom := by
    simp [Command.HasRoom, UInt64.size]
  exact ⟨hroom, (jobs_conserved Ring.isNew_single [] [⟨0⟩] hroom).1, rfl, rfl⟩

/-- A job that was kicked neither waits nor was counted, and the run that took it from the queue had
no outcome. -/
theorem job_lost :
    let plant := obeyed (.ofRing .single) [.single (.ring (.begin 7 none)), .single (.kick 0 []),
      .single (.ring (.destroy (.new none)))]
    plant.device.queue.length = 1 ∧
      plant.answer (.run .oldest) = .ok (.ended none) ∧
      let next := plant.next (.run .oldest)
      next.device.queue.length + next.device.retired + next.device.hung = 0 :=
  ⟨rfl, rfl, rfl⟩

end Plant

end CompletionRing
