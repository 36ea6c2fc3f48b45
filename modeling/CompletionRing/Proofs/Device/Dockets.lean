import CompletionRing.Proofs.Device.Commands
import CompletionRing.Proofs.Device.Orders

/-!
# Dockets

A docket numbers the kicks and notes what each asks of the engines that are known then, and which
of the jobs were run. It has no queue: the jobs that wait are those that were kicked and not run. As
long as its ring stands, the queue of a device is what the docket says.
-/

namespace CompletionRing

structure Docket where
  /-- The engines that are known. -/
  engines : List Engine
  /-- What each engine does in jobs kicked from now on. -/
  defaults : Engine → Conduct
  /-- What the kicks asked for, the first one first. -/
  orders : List Order
  /-- The orders whose jobs were run, with the numbers of their kicks, in the order of the runs. -/
  ran : List (Order × Nat)

namespace Docket

/-- The docket of a device that was made for these engines. -/
def blank (engines : List Engine) : Docket := ⟨engines, fun _ => .complete, [], []⟩

/-- The orders whose jobs were not run, in the order of their kicks. -/
def waiting (docket : Docket) : List (Order × Nat) :=
  docket.orders.zipIdx.filter fun entry => !(docket.ran.map (·.2)).contains entry.2

def due? (docket : Docket) (choice : Choice) : Option (Order × Nat) :=
  choice.find? (·.1.sequence) docket.waiting

def setConduct (docket : Docket) (engine : Engine) (conduct : Conduct) : Docket :=
  { docket with
    engines := engine :: docket.engines
    defaults := fun other => if other = engine then conduct else docket.defaults other }

/-- Each engine that is known does what the first override for it says, or else its default. -/
def kick (docket : Docket) (sequence : Nat) (overrides : List (Engine × Conduct)) : Docket :=
  { docket with
    orders := docket.orders ++ [⟨sequence, docket.engines, fun engine =>
      (docket.defaults engine).overridden overrides engine⟩] }

def run (docket : Docket) (entries : List (Order × Nat)) : Docket :=
  { docket with ran := docket.ran ++ entries }

def follow (docket : Docket) : Plant.Command → Docket
  | .single (.ring _) => docket
  | .single (.setConduct engine conduct) => docket.setConduct engine conduct
  | .single (.kick sequence overrides) => docket.kick sequence overrides
  | .single (.run choice) => docket.run (docket.due? choice).toList
  | .runQueue => docket.run docket.waiting

def after (docket : Docket) (commands : List Plant.Command) : Docket := commands.foldl follow docket

variable {docket : Docket} {place : Nat} {entry : Order × Nat} {choice : Choice}

/-! ### What waits -/

lemma waiting_kick (hran : ∀ entry ∈ docket.ran, entry.2 < docket.orders.length) (sequence : Nat)
    (overrides : List (Engine × Conduct)) :
    (docket.kick sequence overrides).waiting = docket.waiting ++
      [(⟨sequence, docket.engines, fun engine =>
        (docket.defaults engine).overridden overrides engine⟩, docket.orders.length)] := by
  -- No job of the new number was run.
  have hnew : docket.orders.length ∉ docket.ran.map (·.2) := by
    intro hmem
    obtain ⟨entry, hentry, hnumber⟩ := List.mem_map.mp hmem
    exact absurd hnumber (Nat.ne_of_lt (hran entry hentry))
  have hopen : (docket.ran.map (·.2)).contains docket.orders.length = false := by
    rw [List.contains_eq_mem, decide_eq_false hnew]
  rw [waiting, kick, List.zipIdx_append, List.filter_append, Nat.zero_add, List.zipIdx_singleton,
    List.filter_singleton, hopen]
  rfl

lemma nodup_waiting (docket : Docket) : (docket.waiting.map (·.2)).Nodup := by
  have hall : (docket.orders.zipIdx.map (·.2)).Nodup := by
    rw [List.zipIdx_map_snd]
    exact List.nodup_range'
  exact hall.sublist (List.filter_sublist.map _)

lemma filter_ne_eq_eraseIdx {α β : Type} [DecidableEq β] {key : α → β} {list : List α} {a : α}
    (hnodup : (list.map key).Nodup) (hat : list[place]? = some a) :
    list.filter (fun b => key b ≠ key a) = list.eraseIdx place := by
  induction list generalizing place with
  | nil => cases hat
  | cons first rest ih =>
    obtain ⟨hfirst, hrest⟩ := List.nodup_cons.mp hnodup
    cases place with
    | zero =>
      cases hat
      rw [List.filter_cons_of_neg (by simp), List.eraseIdx_cons_zero, List.filter_eq_self]
      intro b hmem
      rw [decide_eq_true_eq]
      intro hsame
      exact hfirst (hsame ▸ List.mem_map_of_mem hmem)
    | succ place =>
      rw [List.getElem?_cons_succ] at hat
      have hne : key first ≠ key a := by
        intro hsame
        exact hfirst (hsame ▸ List.mem_map_of_mem (List.mem_of_getElem? hat))
      rw [List.filter_cons_of_pos (by simpa using hne), List.eraseIdx_cons_succ, ih hrest hat]

lemma run_nil (docket : Docket) : docket.run [] = docket := by
  rw [run, List.append_nil]

lemma waiting_run (docket : Docket) (entries : List (Order × Nat)) :
    (docket.run entries).waiting =
      docket.waiting.filter fun entry => !(entries.map (·.2)).contains entry.2 := by
  rw [waiting, run, waiting, List.filter_filter]
  apply List.filter_congr
  intro entry _
  rw [List.map_append, List.contains_append, Bool.not_or, Bool.and_comm]

lemma waiting_run_singleton (hat : docket.waiting[place]? = some entry) :
    (docket.run [entry]).waiting = docket.waiting.eraseIdx place := by
  rw [waiting_run, ← filter_ne_eq_eraseIdx docket.nodup_waiting hat]
  simp

lemma waiting_run_waiting (docket : Docket) : (docket.run docket.waiting).waiting = [] := by
  rw [waiting_run, List.filter_eq_nil_iff]
  intro entry hmem
  simpa using ⟨entry.1, hmem⟩

lemma lt_of_mem_waiting (hmem : entry ∈ docket.waiting) : entry.2 < docket.orders.length := by
  have hlt := List.snd_lt_of_mem_zipIdx (List.mem_of_mem_filter hmem)
  rwa [Nat.add_zero] at hlt

lemma due?_eq (docket : Docket) (choice : Choice) : docket.due? choice =
    (choice.place? (docket.waiting.map (·.1.sequence))).bind (docket.waiting[·]?) :=
  choice.find?_eq _ _

lemma mem_waiting_of_due? (hdue : docket.due? choice = some entry) : entry ∈ docket.waiting := by
  rw [due?_eq] at hdue
  obtain ⟨place, -, hat⟩ := Option.bind_eq_some_iff.mp hdue
  exact List.mem_of_getElem? hat

end Docket

namespace Ring

variable {ring : Ring} {job : Job}

lemma fence_next_write (h : ring.WellFormed) (engine : Engine) (sequence : Nat) (field : Field)
    (datum : UInt32) : (ring.next (.write engine sequence field datum)).store.map (·.fence) =
      ring.store.map (·.fence) := by
  have hstep := step h (.write engine sequence field datum)
  rw [next_eq]
  generalize (ring.perform (.write engine sequence field datum)).quiet = run at hstep
  cases hstep with
  | writeDestroyed => rfl
  | written hstore =>
    rw [hstore]
    rfl

/-- A job in which an engine hangs changes no fence word. -/
lemma fence_after_ops (h : ring.WellFormed) (hhangs : job.hangs) :
    (ring.after job.ops).store.map (·.fence) = ring.store.map (·.fence) := by
  rw [Job.ops, if_pos hhangs, List.append_nil]
  generalize job.writes = writes
  induction writes generalizing ring with
  | nil => rfl
  | cons write rest ih =>
    obtain ⟨engine, field, datum⟩ := write
    rw [List.map_cons, after_cons, ih (h.next _), fence_next_write h]

end Ring

namespace Plant

variable {plant : Plant} {docket : Docket} {command : Command} {choice : Choice}
  {entry : Order × Nat}

/-- The outcomes that a command answers. -/
def ended (plant : Plant) : Command → List Outcome
  | .single (.run choice) =>
    match plant.answer (.run choice) with
    | .ok (.ended outcome) => outcome.toList
    | _ => []
  | .runQueue => (plant.device.runQueue plant.ring).trace.result.toOption.getD []
  | _ => []

/-- The outcomes that a run answers, in order. -/
def outcomes (plant : Plant) : List Command → List Outcome
  | [] => []
  | command :: rest => plant.ended command ++ (plant.obey command).outcomes rest

/-- Are the jobs of the plant those of the docket, and did those that were run come to their
ends? -/
structure Keeps (plant : Plant) (docket : Docket) : Prop where
  ready : plant.Ready
  stands : plant.ring.isDestroyed = false
  defaults : EngineTable.Covers plant.device.defaults.entries docket.engines docket.defaults
  queue : List.Forall₂ (fun entry job => entry.1.Describes job) docket.waiting plant.device.queue
  ran : ∀ entry ∈ docket.ran, entry.2 < docket.orders.length
  retired : plant.device.retired = (docket.ran.map (·.1.outcome)).countP (·.isRetired)
  hung : plant.device.hung = (docket.ran.map (·.1.outcome)).countP (!·.isRetired)

/-- Does a choice run the job of the order that is due, and nothing if there is none? -/
structure RunsDue (plant : Plant) (docket : Docket) (choice : Choice) : Prop where
  answer : plant.answer (.run choice) =
    .ok (.ended ((docket.due? choice).map (·.1.outcome)))
  idle : docket.due? choice = none → plant.next (.run choice) = plant
  job : ∀ entry, docket.due? choice = some entry → ∃ job ∈ plant.device.queue,
    entry.1.Describes job ∧ (plant.next (.run choice)).ring = plant.ring.after job.ops
  done : ∀ entry, docket.due? choice = some entry →
    entry.1.Done plant.ring (plant.next (.run choice)).ring
  fence : ∀ entry, docket.due? choice = some entry → entry.1.hangs →
    (plant.next (.run choice)).ring.store.map (·.fence) = plant.ring.store.map (·.fence)

/-- Is the queue run to its end, in the order of the kicks? -/
structure RunsAll (plant : Plant) (docket : Docket) : Prop where
  answer : (plant.device.runQueue plant.ring).trace.result =
    .ok (docket.waiting.map (·.1.outcome))
  emptied : (plant.obey .runQueue).device.queue = []
  jobs : (plant.obey .runQueue).ring = plant.ring.after (plant.device.queue.flatMap Job.ops)
  done : Order.AllDone (docket.waiting.map (·.1)) plant.ring (plant.obey .runQueue).ring
  /-- It makes no difference how many more jobs might be run. -/
  enough : ∀ count, plant.device.queue.length ≤ count →
    plant.device.runFirst plant.ring count = plant.device.runQueue plant.ring

namespace Keeps

lemma units (h : plant.Keeps docket) :
    docket.waiting.map (·.1.sequence) = plant.device.queue.map (·.sequence) := by
  rw [← List.forall₂_eq_eq_eq, List.forall₂_map_left_iff, List.forall₂_map_right_iff]
  exact h.queue.imp fun entry job hjob => hjob.sequence.symm

lemma outcomes (h : plant.Keeps docket) :
    plant.device.queue.map Job.outcome = docket.waiting.map (·.1.outcome) := by
  rw [← List.forall₂_eq_eq_eq, List.forall₂_map_left_iff, List.forall₂_map_right_iff]
  exact h.queue.flip.imp fun job entry hjob => hjob.outcome

lemma exists_entry (h : plant.Keeps docket) {place : Nat} {job : Job}
    (hjob : plant.device.queue[place]? = some job) :
    ∃ entry, docket.waiting[place]? = some entry ∧ entry.1.Describes job := by
  obtain ⟨hlt, rfl⟩ := List.getElem?_eq_some_iff.mp hjob
  have hlt' : place < docket.waiting.length := by
    rw [h.queue.length_eq]
    exact hlt
  exact ⟨_, List.getElem?_eq_getElem hlt', h.queue.get hlt' hlt⟩

lemma run_cases (h : plant.Keeps docket) (choice : Choice) :
    (docket.due? choice = none ∧ plant.next (.run choice) = plant ∧
      plant.answer (.run choice) = .ok (.ended none)) ∨
    ∃ place entry job, docket.due? choice = some entry ∧ docket.waiting[place]? = some entry ∧
      plant.device.queue[place]? = some job ∧ entry.1.Describes job ∧
      plant.next (.run choice) =
        ⟨(plant.device.withQueue (plant.device.queue.eraseIdx place)).counted [entry.1.outcome],
          plant.ring.after job.ops⟩ ∧
      plant.answer (.run choice) = .ok (.ended (some entry.1.outcome)) := by
  cases hdue : plant.device.due? choice with
  | none =>
    left
    refine ⟨?_, run_of_due?_none hdue⟩
    rw [Device.due?_eq, Option.bind_eq_none_iff] at hdue
    rw [Docket.due?_eq, h.units, Option.bind_eq_none_iff]
    intro place hplace
    rw [List.getElem?_eq_none_iff, h.queue.length_eq, ← List.getElem?_eq_none_iff]
    exact hdue place hplace
  | some job =>
    right
    -- The choice leads to a place, which is the same one among what waits.
    obtain ⟨place, hplace, hjob, hnext, hanswer⟩ := run_of_stands h.ready.wellFormed h.stands hdue
      (h.ready.room job (Device.mem_of_due? hdue))
    obtain ⟨entry, hat, hdescribes⟩ := h.exists_entry hjob
    rw [hdescribes.outcome] at hnext hanswer
    refine ⟨place, entry, job, ?_, hat, hjob, hdescribes, hnext, hanswer⟩
    rw [Docket.due?_eq, h.units, hplace]
    exact hat

lemma runsDue (h : plant.Keeps docket) (choice : Choice) : plant.RunsDue docket choice := by
  rcases h.run_cases choice with
    ⟨hdue, hnext, hanswer⟩ | ⟨place, entry, job, hdue, -, hjob, hdescribes, hnext, hanswer⟩
  · have hnone : ∀ entry, docket.due? choice ≠ some entry := by simp [hdue]
    refine ⟨?_, fun _ => hnext, fun entry hsome => absurd hsome (hnone entry),
      fun entry hsome => absurd hsome (hnone entry), fun entry hsome => absurd hsome (hnone entry)⟩
    rw [hdue, hanswer]
    rfl
  · have hmem := List.mem_of_getElem? hjob
    have hring : (plant.next (.run choice)).ring = plant.ring.after job.ops := by rw [hnext]
    have hsame : ∀ other, docket.due? choice = some other → other = entry := by
      intro other hother
      rw [hdue, Option.some.injEq] at hother
      exact hother.symm
    refine ⟨?_, ?_, ?_, ?_, ?_⟩
    · rw [hdue, hanswer]
      rfl
    · rw [hdue]
      nofun
    · intro other hother
      rw [hsame other hother]
      exact ⟨job, hmem, hdescribes, hring⟩
    · intro other hother
      rw [hsame other hother, hring]
      exact hdescribes.done h.ready.wellFormed h.stands (h.ready.room job hmem)
    · intro other hother hhangs
      rw [hsame other hother] at hhangs
      rw [hring]
      exact Ring.fence_after_ops h.ready.wellFormed (hdescribes.hangs.trans hhangs)

lemma runsAll (h : plant.Keeps docket) : plant.RunsAll docket := by
  obtain ⟨hnext, hresult⟩ := h.ready.runQueue h.stands
  refine ⟨?_, ?_, ?_, ?_, ?_⟩
  · rw [hresult, h.outcomes]
  · rw [hnext]
    rfl
  · rw [hnext]
  · rw [hnext]
    refine Order.allDone_of_describes ?_ h.ready.wellFormed h.stands h.ready.room
    rw [List.forall₂_map_left_iff]
    exact h.queue
  · intro count hcount
    obtain ⟨events, hrun⟩ :=
      Device.runFirst_of_stands rfl h.ready.wellFormed h.stands h.ready.room
    rw [Device.runQueue, hrun count hcount, hrun _ (Nat.le_refl _)]

lemma eraseIdx (h : plant.Keeps docket) {place : Nat}
    (hat : docket.waiting[place]? = some entry) :
    List.Forall₂ (fun entry job => entry.1.Describes job) (docket.run [entry]).waiting
      (plant.device.queue.eraseIdx place) := by
  rw [Docket.waiting_run_singleton hat, List.eraseIdx_eq_take_drop_succ,
    List.eraseIdx_eq_take_drop_succ]
  exact List.rel_append (List.forall₂_take _ h.queue) (List.forall₂_drop _ h.queue)

lemma run (h : plant.Keeps docket) {entries : List (Order × Nat)} {plant' : Plant}
    (hentries : ∀ entry ∈ entries, entry ∈ docket.waiting) {queue : List Job}
    (hdevice : plant'.device =
      (plant.device.withQueue queue).counted (entries.map (·.1.outcome)))
    (hqueue : List.Forall₂ (fun entry job => entry.1.Describes job) (docket.run entries).waiting
      queue) (hready : plant'.Ready) (hstands : plant'.ring.isDestroyed = false) :
    plant'.Keeps (docket.run entries) where
  ready := hready
  stands := hstands
  defaults := by
    rw [hdevice]
    exact h.defaults
  queue := by
    rw [hdevice]
    exact hqueue
  ran := by
    intro entry hmem
    rcases List.mem_append.mp hmem with hold | hnew
    · exact h.ran entry hold
    · have hlt := Docket.lt_of_mem_waiting (hentries entry hnew)
      exact hlt
  retired := by
    rw [hdevice, Docket.run, List.map_append, List.countP_append, ← h.retired]
    rfl
  hung := by
    rw [hdevice, Docket.run, List.map_append, List.countP_append, ← h.hung]
    rfl

lemma obey (h : plant.Keeps docket) (hlive : command.isDestroy = false)
    (hroom : command.HasRoom) : (plant.obey command).Keeps (docket.follow command) := by
  have hobeys := h.ready.obeys command
  have hready := h.ready.of_obeys hroom hobeys
  have hstands : (plant.obey command).ring.isDestroyed = false := by
    rw [h.ready.isDestroyed_of_obeys hobeys, hlive, Bool.false_or]
    exact h.stands
  cases command with
  | runQueue =>
    have hqueue : List.Forall₂ (fun entry job => entry.1.Describes job)
        (docket.run docket.waiting).waiting [] := by
      rw [Docket.waiting_run_waiting]
      exact .nil
    refine h.run (fun _ hmem => hmem) ?_ hqueue hready hstands
    rw [(h.ready.runQueue h.stands).1, h.outcomes]
  | single op =>
    cases op with
    | ring op => exact ⟨hready, hstands, h.defaults, h.queue, h.ran, h.retired, h.hung⟩
    | setConduct engine conduct =>
      exact ⟨hready, hstands, h.defaults.insert engine conduct, h.queue, h.ran, h.retired, h.hung⟩
    | kick sequence overrides =>
      refine ⟨hready, hstands, h.defaults, ?_, ?_, h.retired, h.hung⟩
      · rw [Docket.follow, Docket.waiting_kick h.ran]
        refine List.rel_append h.queue (.cons ⟨rfl, ?_⟩ .nil)
        exact h.defaults.map fun engine conduct => conduct.overridden overrides engine
      · intro entry hmem
        change entry.2 < (docket.orders ++ [_]).length
        rw [List.length_append]
        exact Nat.lt_add_right _ (h.ran entry hmem)
    | run choice =>
      rw [Docket.follow]
      rcases h.run_cases choice with
        ⟨hdue, hnext, -⟩ | ⟨place, entry, job, hdue, hat, -, -, hnext, -⟩
      · rw [hdue, Option.toList_none, Docket.run_nil, Plant.obey, hnext]
        exact h
      · rw [hdue]
        refine h.run ?_ ?_ (h.eraseIdx hat) hready hstands
        · intro other hmem
          rw [List.mem_singleton.mp hmem]
          exact Docket.mem_waiting_of_due? hdue
        · rw [Plant.obey, hnext]
          rfl

lemma ran_follow (h : plant.Keeps docket) (command : Command) :
    (docket.follow command).ran.map (·.1.outcome) =
      docket.ran.map (·.1.outcome) ++ plant.ended command := by
  cases command with
  | runQueue =>
    rw [Docket.follow, Docket.run, List.map_append, ended, h.runsAll.answer]
    rfl
  | single op =>
    cases op with
    | ring op => exact (List.append_nil _).symm
    | setConduct engine conduct => exact (List.append_nil _).symm
    | kick sequence overrides => exact (List.append_nil _).symm
    | run choice =>
      rw [Docket.follow, Docket.run, List.map_append, ended, (h.runsDue choice).answer]
      cases docket.due? choice with
      | none => rfl
      | some entry => rfl

lemma obeyed (h : plant.Keeps docket) {commands : List Command}
    (hlive : ∀ command ∈ commands, command.isDestroy = false)
    (hroom : ∀ command ∈ commands, command.HasRoom) :
    (plant.obeyed commands).Keeps (docket.after commands) ∧
      (docket.after commands).ran.map (·.1.outcome) =
        docket.ran.map (·.1.outcome) ++ plant.outcomes commands := by
  induction commands generalizing plant docket with
  | nil => exact ⟨h, (List.append_nil _).symm⟩
  | cons command rest ih =>
    obtain ⟨hlive', hlater⟩ := List.forall_mem_cons.mp hlive
    obtain ⟨hroom', hrest⟩ := List.forall_mem_cons.mp hroom
    obtain ⟨hkeeps, hran⟩ := ih (h.obey hlive' hroom') hlater hrest
    refine ⟨hkeeps, ?_⟩
    rw [h.ran_follow, List.append_assoc] at hran
    exact hran

end Keeps

lemma keeps_new {ring : Ring} (hnew : ring.IsNew) {earlier : List Ring.Op}
    (hstands : (ring.after earlier).isDestroyed = false) (engines : List Engine) :
    Keeps ⟨.new engines, ring.after earlier⟩ (.blank engines) where
  ready := ready_new hnew earlier engines
  stands := hstands
  defaults := EngineTable.covers_ofEngines engines Conduct.complete
  queue := .nil
  ran := nofun
  retired := rfl
  hung := rfl

/-- While the ring stands, the queue has the jobs that were kicked and not run, in the order of the
kicks. A choice runs the job that it leads to among these, and the whole queue is run to its end in
this order; each engine leaves its record as the kick asked for. A job is hung if one of its engines
hangs, and then no fence word changes; the counters count the outcomes that were answered. -/
theorem queue_in_kick_order {ring : Ring} (hnew : ring.IsNew) {earlier : List Ring.Op}
    (hstands : (ring.after earlier).isDestroyed = false) (engines : List Engine)
    {commands : List Command} (hlive : ∀ command ∈ commands, command.isDestroy = false)
    (hroom : ∀ command ∈ commands, command.HasRoom) :
    let start : Plant := ⟨.new engines, ring.after earlier⟩
    let plant := start.obeyed commands
    let docket := (Docket.blank engines).after commands
    List.Forall₂ (fun entry job => entry.1.Describes job) docket.waiting plant.device.queue ∧
      start.outcomes commands = docket.ran.map (·.1.outcome) ∧
      plant.device.retired = (start.outcomes commands).countP (·.isRetired) ∧
      plant.device.hung = (start.outcomes commands).countP (!·.isRetired) ∧
      (∀ choice, plant.RunsDue docket choice) ∧ plant.RunsAll docket := by
  intro start plant docket
  have hstart : start.Keeps (.blank engines) := keeps_new hnew hstands engines
  obtain ⟨h, hran⟩ := hstart.obeyed hlive hroom
  have houtcomes : start.outcomes commands = docket.ran.map (·.1.outcome) := hran.symm
  refine ⟨h.queue, houtcomes, ?_, ?_, h.runsDue, h.runsAll⟩
  · rw [houtcomes]
    exact h.retired
  · rw [houtcomes]
    exact h.hung

/-- Two kicks for one unit, with another default for one of the engines set in between. -/
def rivals : List Command :=
  [.single (.ring (.begin 7 none)), .single (.kick 0 [(⟨1⟩, .hang)]),
    .single (.setConduct ⟨0⟩ (.fail 3)), .single (.kick 0 [])]

/-- The older job is run with the override of its kick: an engine hangs, and its record stays as it
was. The default that was set later is for the younger job only, which can be run ahead of it. -/
theorem queue_in_kick_order_rivals :
    let plant := obeyed ⟨.new [⟨0⟩, ⟨1⟩], pair.after []⟩ rivals
    (pair.after []).isDestroyed = false ∧
      (∀ command ∈ rivals, command.isDestroy = false) ∧ (∀ command ∈ rivals, command.HasRoom) ∧
      plant.device.queue = [⟨0, [(⟨0⟩, .complete), (⟨1⟩, .hang)]⟩,
        ⟨0, [(⟨0⟩, .fail 3), (⟨1⟩, .complete)]⟩] ∧
      plant.answer (.run (.unit 0)) = .ok (.ended (some (.hung 0))) ∧
      (∃ store, (plant.next (.run (.unit 0))).ring.store = some store ∧
        store.value ⟨0⟩ 0 .marker = doneMarker ∧ store.value ⟨0⟩ 0 .error = 0 ∧
        store.value ⟨1⟩ 0 .marker = skippedMarker ∧ store.fenceNumber 0 = 0) ∧
      plant.answer (.run (.picked 1)) = .ok (.ended (some (.retired 0))) ∧
      (∃ store, (plant.next (.run (.picked 1))).ring.store = some store ∧
        store.value ⟨0⟩ 0 .marker = doneMarker ∧ store.value ⟨0⟩ 0 .error = 3 ∧
        store.value ⟨1⟩ 0 .marker = doneMarker ∧ store.value ⟨1⟩ 0 (.lane 1) = 2 ∧
        store.fenceNumber 0 = 1) ∧
      (plant.device.runQueue plant.ring).trace.result = .ok [.hung 0, .retired 0] := by
  intro plant
  have hlive : ∀ command ∈ rivals, command.isDestroy = false := by
    simp [rivals, Command.isDestroy, Ring.Op.isDestroy]
  have hroom : ∀ command ∈ rivals, command.HasRoom := by
    simp [rivals, Command.HasRoom, UInt64.size]
  have hstands : (pair.after []).isDestroyed = false := rfl
  have hnew : pair.IsNew := ⟨_, _, _, create_pair⟩
  obtain ⟨-, -, -, -, hrun, hall⟩ :=
    queue_in_kick_order hnew hstands [⟨0⟩, ⟨1⟩] hlive hroom
  have hqueue : plant.RunsAll ((Docket.blank [⟨0⟩, ⟨1⟩]).after rivals) := hall
  have holder : Order.Done ⟨0, [⟨0⟩, ⟨1⟩], Conduct.complete.overridden [(⟨1⟩, .hang)]⟩ plant.ring
      (plant.next (.run (.unit 0))).ring := (hrun (.unit 0)).done (_, 0) rfl
  have hyounger : Order.Done ⟨0, [⟨0⟩, ⟨0⟩, ⟨1⟩], fun engine =>
      (if engine = ⟨0⟩ then .fail 3 else .complete : Conduct).overridden [] engine⟩ plant.ring
      (plant.next (.run (.picked 1))).ring := (hrun (.picked 1)).done (_, 1) rfl
  have hbefore : plant.ring.index 0 = 0 ∧ plant.ring.store.any (fun store =>
      store.knows ⟨0⟩ .marker && store.knows ⟨0⟩ .error && store.knows ⟨1⟩ .marker &&
      store.knows ⟨1⟩ (.lane 1) && store.value ⟨1⟩ 0 .marker = skippedMarker &&
      store.fenceNumber 0 = 0) := by
    decide +kernel
  -- The records are known from the orders, so neither run is evaluated.
  generalize (plant.next (.run (.unit 0))).ring = once at holder ⊢
  generalize (plant.next (.run (.picked 1))).ring = twice at hyounger ⊢
  obtain ⟨store, left, hstore, rfl, hleaves⟩ := holder
  obtain ⟨_, left', hstore', rfl, hleaves'⟩ := hyounger
  rw [hstore, Option.some.injEq] at hstore'
  subst hstore'
  rw [hstore, Option.any_some] at hbefore
  simp only [Bool.and_eq_true, decide_eq_true_eq] at hbefore
  obtain ⟨hindex, ⟨⟨⟨⟨hmarker, herror⟩, hmarker'⟩, hlane⟩, hskipped⟩, hfence⟩ := hbefore
  refine ⟨hstands, hlive, hroom, rfl, (hrun (.unit 0)).answer, ⟨left, rfl, ?_, ?_, ?_, ?_⟩,
    (hrun (.picked 1)).answer, ⟨left', rfl, ?_, ?_, ?_, ?_, ?_⟩, hqueue.answer⟩
  · rw [hleaves.values, if_pos ⟨hindex.symm, by decide, hmarker⟩]
    rfl
  · rw [hleaves.values, if_pos ⟨hindex.symm, by decide, herror⟩]
    rfl
  · rw [hleaves.values, if_pos ⟨hindex.symm, by decide, hmarker'⟩, hindex]
    exact hskipped
  · rw [hleaves.fences, if_neg fun hends => absurd hends.2 (by decide), hfence]
  · rw [hleaves'.values, if_pos ⟨hindex.symm, by decide, hmarker⟩]
    rfl
  · rw [hleaves'.values, if_pos ⟨hindex.symm, by decide, herror⟩]
    rfl
  · rw [hleaves'.values, if_pos ⟨hindex.symm, by decide, hmarker'⟩]
    rfl
  · rw [hleaves'.values, if_pos ⟨hindex.symm, by decide, hlane⟩]
    rfl
  · rw [hleaves'.fences, if_pos ⟨hindex.symm, by decide⟩]

end Plant

end CompletionRing
