import CompletionRing.Proofs.Ring.Accounting
import CompletionRing.Proofs.Ring.Calls
import CompletionRing.Proofs.Ring.Places
import CompletionRing.Session.Session

/-!
# Submissions

A submission begins a unit and kicks it until the queue takes it, refuses it for good, or has
refused it once more than there are retries. Once the unit is begun nothing but the queue decides
how the submission ends: neither the places of the unit nor a retry can be refused.
-/

namespace CompletionRing

namespace Ring

variable {ring : Ring} {store : RecordStore} {sequence : Nat}

lemma exists_after_retries (h : ring.WellFormed) (hstore : ring.store = some store)
    (hlive : ring.holds sequence) (count : Nat) :
    ∃ store', ring.after (.replicate count (.prepareRetry sequence)) =
        { ring with store := some store' } ∧
      ∀ engine field, store'.value engine (ring.index sequence) field =
        if count = 0 then store.value engine (ring.index sequence) field else 0 := by
  induction count generalizing ring store with
  | zero =>
    refine ⟨store, ?_, fun _ _ => rfl⟩
    rw [← hstore]
    rfl
  | succ count ih =>
    have hfits := h.fits store hstore
    have hnext : ring.next (.prepareRetry sequence) =
        { ring with store := some (store.cleared (ring.index sequence)) } :=
      (Step.retried hstore hlive).next h
    have hring := h.next (.prepareRetry sequence)
    rw [hnext] at hring
    obtain ⟨hstored, hbegun, hyoung⟩ := holds_iff.mp hlive
    obtain ⟨store', hafter, hvalues⟩ := ih hring rfl (holds_iff.mpr ⟨rfl, hbegun, hyoung⟩)
    refine ⟨store', ?_, ?_⟩
    · rw [List.replicate_succ, after_cons, hnext, hafter]
    · intro engine field
      have hcleared := RecordStore.value_cleared hfits (h.index_lt sequence) engine
        (ring.index sequence) field
      have hvalue := hvalues engine field
      rw [if_neg (Nat.succ_ne_zero count)]
      by_cases hcount : count = 0
      · rw [if_pos hcount] at hvalue
        exact hvalue.trans (hcleared.trans (if_pos rfl))
      · rw [if_neg hcount] at hvalue
        exact hvalue

lemma slot?_after_retries (h : ring.WellFormed) {slot : Slot}
    (hslot : ring.slot? sequence = some slot) (count : Nat) :
    (ring.after (.replicate count (.prepareRetry sequence))).slot? sequence = some slot := by
  have hlive := (slot?_eq_some_iff.mp hslot).1
  obtain ⟨store, hstore⟩ := exists_store hlive
  obtain ⟨store', hafter, -⟩ := exists_after_retries h hstore hlive count
  rw [hafter, slot?_withStore hstore, hslot]

lemma calls_after_retries (h : ring.WellFormed) {slot : Slot}
    (hslot : ring.slot? sequence = some slot) (hopen : slot.stage.isSettled = false)
    (count : Nat) :
    (∃ ticket, ((ring.after (.replicate count (.prepareRetry sequence))).prepareRetry
        sequence).result =
      .ok (.ok ticket, ring.after (.replicate (count + 1) (.prepareRetry sequence)))) ∧
    ∃ snapshot, ((ring.after (.replicate count (.prepareRetry sequence))).abandon
        sequence).result =
      .ok (snapshot, ring.after (.replicate count (.prepareRetry sequence) ++
        [.force sequence false])) := by
  have hring := h.after (.replicate count (.prepareRetry sequence))
  have hslot' := slot?_after_retries h hslot count
  have hlive := (slot?_eq_some_iff.mp hslot').1
  obtain ⟨store, hstore⟩ := exists_store hlive
  constructor
  · have hretry := prepareRetry_of_answer ((Step.retried hstore hlive).answer hring)
    rw [List.replicate_succ', after_append]
    exact ⟨_, hretry⟩
  · have habandon := abandon_of_answer ((Step.abandoned hslot' hopen).answer hring)
    rw [after_append]
    exact ⟨_, habandon⟩

lemma reported_after_retries (h : ring.WellFormed) (hlive : ring.holds sequence) (count : Nat) :
    (ring.after (.replicate count (.prepareRetry sequence))).reported = ring.reported := by
  obtain ⟨store, hstore⟩ := exists_store hlive
  obtain ⟨store', hafter, -⟩ := exists_after_retries h hstore hlive count
  rw [hafter]

lemma abandoned_after_retries (h : ring.WellFormed) {slot : Slot}
    (hslot : ring.slot? sequence = some slot) (hopen : slot.stage.isSettled = false)
    (count : Nat) :
    (ring.after (.replicate count (.prepareRetry sequence) ++
        [.force sequence false])).hasAbandoned sequence ∧
      (ring.after (.replicate count (.prepareRetry sequence) ++
        [.force sequence false])).reported = ring.reported + 1 := by
  have hring := h.after (.replicate count (.prepareRetry sequence))
  have hslot' := slot?_after_retries h hslot count
  have hnext := (Step.abandoned hslot' hopen).next hring
  have hreported := reported_after_retries h (slot?_eq_some_iff.mp hslot).1 count
  rw [after_append, after_cons, after_nil, hnext, ← hreported]
  constructor
  · rw [hasAbandoned, Run.state_done, slot?_revise_self hring hslot' slot.abandoned rfl]
    rfl
  · rfl

lemma begun_after_retries (h : ring.WellFormed) (hstore : ring.store = some store)
    (hroom : ring.submitted + 1 < UInt64.size) (number : UInt32) (frame : Option Frame)
    (count : Nat) {now : Ring} (hnow : now = (ring.begun store number frame).after
      (.replicate count (.prepareRetry ring.submitted))) :
    now.holds ring.submitted ∧ now.hasAbandoned ring.submitted = false ∧
      now.reported = (ring.begun store number frame).reported ∧
      ∃ store', now.store = some store' ∧ ∀ engine ∈ store.engines, ∀ field,
        store'.value engine (ring.index ring.submitted) field =
          if count = 0 then field.primed else 0 := by
  have hbegun := h.begun hstore hroom number frame
  have hslot := slot?_begun_self h hstore number frame
  have hlive := (slot?_eq_some_iff.mp hslot).1
  have hslot' := slot?_after_retries hbegun hslot count
  obtain ⟨store', hafter, hvalue⟩ := exists_after_retries hbegun rfl hlive count
  subst hnow
  refine ⟨(slot?_eq_some_iff.mp hslot').1, ?_, reported_after_retries hbegun hlive count, store',
    by rw [hafter], ?_⟩
  · rw [hasAbandoned, hslot']
    rfl
  · intro engine hmem field
    have hprimed := RecordStore.value_primed (h.fits store hstore) (h.index_lt ring.submitted) engine
      (ring.index ring.submitted) field
    rw [if_pos ⟨rfl, hmem⟩] at hprimed
    exact (hvalue engine field).trans (by rw [← hprimed]; rfl)

end Ring

/-- The first kick of a unit: its records engine by engine, and its fence word. -/
def RingSetup.kick (setup : RingSetup) (ticket : Ticket) (number : UInt32) : Kick :=
  ⟨ticket, number, setup.recordRanges ticket.index, setup.fenceRange ticket.index, 0⟩

namespace Session

variable {κ : Type} {queue : Kick → κ → Traced (Except KickError Unit × κ)}

/-- Does the queue answer every kick? -/
def Answers (queue : Kick → κ → Traced (Except KickError Unit × κ)) : Prop :=
  ∀ kick state, ∃ answer state', (queue kick state).result = .ok (answer, state')

/-- The queue that also keeps the kicks it saw, with its answers. -/
def recorded (queue : Kick → κ → Traced (Except KickError Unit × κ)) (kick : Kick)
    (state : κ × List (Kick × Except KickError Unit)) :
    Traced (Except KickError Unit × κ × List (Kick × Except KickError Unit)) := do
  let (answer, after) ← queue kick state.1
  return (answer, after, state.2 ++ [(kick, answer)])

/-- How a submission ends by the answer to its last kick. The kicks before were refused for the
moment, for these reasons. -/
inductive Concludes (limit : Nat) (ticket : Ticket) :
    List String → Except KickError Unit → Except SubmitError Ticket → Prop
  | taken {reasons} (hlimit : reasons.length ≤ limit) :
    Concludes limit ticket reasons (.ok ()) (.ok ticket)
  | refused {reasons reason} (hlimit : reasons.length ≤ limit) :
    Concludes limit ticket reasons (.error (.fatal reason))
      (.error (.kickFailed ticket.sequence reason))
  | exhausted {reasons reason} (hlimit : reasons.length = limit) :
    Concludes limit ticket reasons (.error (.recoverable reason))
      (.error (.retriesExhausted ticket.sequence (limit + 1) reason))

/-- The kicks that were refused for the moment, with the refusals. -/
def refusals (kick : Kick) (reasons : List String) : List (Kick × Except KickError Unit) :=
  reasons.mapIdx fun attempt reason => ({ kick with attempt }, .error (.recoverable reason))

/-- All kicks of a submission with their answers. They differ in the number of the attempt
only. -/
def exchange (kick : Kick) (reasons : List String) (last : Except KickError Unit) :
    List (Kick × Except KickError Unit) :=
  refusals kick reasons ++ [({ kick with attempt := reasons.length }, last)]

/-- What a submission does to its ring. -/
def undertaken (number : UInt32) (frame : Option Frame) (sequence retried : Nat)
    (taken : Bool) : List Ring.Op :=
  .begin number frame :: (List.replicate retried (.prepareRetry sequence) ++
    if taken then [] else [.force sequence false])

/-! ### Recording -/

lemma recorded_of_answer {kick : Kick} {state state' : κ} {answer : Except KickError Unit}
    (h : (queue kick state).result = .ok (answer, state'))
    (seen : List (Kick × Except KickError Unit)) :
    (recorded queue kick (state, seen)).result =
      .ok (answer, state', seen ++ [(kick, answer)]) := by
  unfold recorded
  rw [Traced.result_bind _ h]
  rfl

lemma kickUntilTaken_recorded (retries : Nat) (kick : Kick) (ring : Ring) (state : κ)
    (seen : List (Kick × Except KickError Unit)) :
    (fun answer => (answer.1, answer.2.1, answer.2.2.1)) <$>
        kickUntilTaken (recorded queue) retries kick ring (state, seen) =
      kickUntilTaken queue retries kick ring state := by
  induction retries generalizing kick ring state seen with
  | zero =>
    rw [kickUntilTaken, kickUntilTaken, recorded]
    simp only [map_bind, bind_assoc, pure_bind]
    apply bind_congr
    rintro ⟨(reason | reason) | _, after⟩
    · simp only [map_bind, map_pure]
    · simp only [map_bind, map_pure]
    · simp only [map_pure]
  | succ retries ih =>
    rw [kickUntilTaken, kickUntilTaken, recorded]
    simp only [map_bind, bind_assoc, pure_bind]
    apply bind_congr
    rintro ⟨(reason | reason) | _, after⟩
    · simp only [map_bind]
      apply bind_congr
      intro _
      apply bind_congr
      rintro ⟨error | ticket, ring⟩
      · simp only [map_pure]
      · exact ih _ _ _ _
    · simp only [map_bind, map_pure]
    · simp only [map_pure]

/-! ### One kick -/

variable {ring ring' : Ring} {kick : Kick} {state state' : κ} {retries : Nat} {reason : String}

lemma kick_taken (hanswer : (queue kick state).result = .ok (.ok (), state')) :
    (kickUntilTaken queue retries kick ring state).result = .ok (.ok kick.ticket, ring, state') := by
  rw [kickUntilTaken, Traced.result_bind _ hanswer]
  rfl

lemma kick_refused {snapshot : Snapshot}
    (hanswer : (queue kick state).result = .ok (.error (.fatal reason), state'))
    (habandon : (ring.abandon kick.ticket.sequence).result = .ok (snapshot, ring')) :
    (kickUntilTaken queue retries kick ring state).result =
      .ok (.error (.kickFailed kick.ticket.sequence reason), ring', state') := by
  rw [kickUntilTaken, Traced.result_bind _ hanswer]
  simp only
  rw [Traced.result_bind _ habandon]
  rfl

lemma kick_exhausted {snapshot : Snapshot}
    (hanswer : (queue kick state).result = .ok (.error (.recoverable reason), state'))
    (habandon : (ring.abandon kick.ticket.sequence).result = .ok (snapshot, ring')) :
    (kickUntilTaken queue 0 kick ring state).result =
      .ok (.error (.retriesExhausted kick.ticket.sequence (kick.attempt + 1) reason), ring',
        state') := by
  rw [kickUntilTaken, Traced.result_bind _ hanswer]
  simp only
  rw [Traced.result_bind _ habandon]
  rfl

lemma kick_again {ticket : Ticket}
    (hanswer : (queue kick state).result = .ok (.error (.recoverable reason), state'))
    (hretry : (ring.prepareRetry kick.ticket.sequence).result = .ok (.ok ticket, ring')) :
    (kickUntilTaken queue (retries + 1) kick ring state).result =
      (kickUntilTaken queue retries { kick with attempt := kick.attempt + 1 } ring'
        state').result := by
  rw [kickUntilTaken, Traced.result_bind _ hanswer]
  simp only [Traced.emit_bind]
  rw [Traced.result_bind _ hretry]

/-! ### Kicks up to the last one -/

lemma refusals_append (kick : Kick) (reasons : List String) (reason : String) :
    refusals kick (reasons ++ [reason]) = exchange kick reasons (.error (.recoverable reason)) := by
  rw [refusals, List.mapIdx_concat]
  rfl

/-- A live unit that is not settled is kicked to the end, whatever the queue answers. -/
lemma exists_conclusion (hqueue : Answers queue) (h : ring.WellFormed) {slot : Slot}
    (hslot : ring.slot? kick.ticket.sequence = some slot)
    (hopen : slot.stage.isSettled = false) (retries : Nat) (reasons : List String) (state : κ) :
    ∃ reasons' last answer state',
      Concludes (reasons.length + retries) kick.ticket reasons' last answer ∧
      (kickUntilTaken (recorded queue) retries { kick with attempt := reasons.length }
          (ring.after (.replicate reasons.length (.prepareRetry kick.ticket.sequence)))
          (state, refusals kick reasons)).result =
        .ok (answer, ring.after (.replicate reasons'.length (.prepareRetry kick.ticket.sequence) ++
          if last.isOk then [] else [.force kick.ticket.sequence false]), state',
          exchange kick reasons' last) := by
  have hok : (Except.ok () : Except KickError Unit).isOk = true := rfl
  induction retries generalizing reasons state with
  | zero =>
    obtain ⟨answer, after, hanswer⟩ := hqueue { kick with attempt := reasons.length } state
    have hrecorded := recorded_of_answer hanswer (refusals kick reasons)
    obtain ⟨-, snapshot, habandon⟩ := Ring.calls_after_retries h hslot hopen reasons.length
    match answer with
    | .ok () =>
      refine ⟨reasons, .ok (), _, after, .taken (Nat.le_refl _), ?_⟩
      rw [kick_taken hrecorded, if_pos hok, List.append_nil]
      rfl
    | .error (.fatal reason) =>
      refine ⟨reasons, .error (.fatal reason), _, after, .refused (Nat.le_refl _), ?_⟩
      rw [kick_refused hrecorded habandon]
      rfl
    | .error (.recoverable reason) =>
      refine ⟨reasons, .error (.recoverable reason), _, after, .exhausted rfl, ?_⟩
      rw [kick_exhausted hrecorded habandon]
      rfl
  | succ retries ih =>
    obtain ⟨answer, after, hanswer⟩ := hqueue { kick with attempt := reasons.length } state
    have hrecorded := recorded_of_answer hanswer (refusals kick reasons)
    obtain ⟨⟨ticket, hretry⟩, snapshot, habandon⟩ :=
      Ring.calls_after_retries h hslot hopen reasons.length
    match answer with
    | .ok () =>
      refine ⟨reasons, .ok (), _, after, .taken (Nat.le_add_right _ _), ?_⟩
      rw [kick_taken hrecorded, if_pos hok, List.append_nil]
      rfl
    | .error (.fatal reason) =>
      refine ⟨reasons, .error (.fatal reason), _, after, .refused (Nat.le_add_right _ _), ?_⟩
      rw [kick_refused hrecorded habandon]
      rfl
    | .error (.recoverable reason) =>
      obtain ⟨reasons', last, answer, state', hconcludes, hresult⟩ := ih (reasons ++ [reason]) after
      rw [List.length_append, List.length_singleton, refusals_append] at hresult
      rw [List.length_append, List.length_singleton, Nat.add_assoc, Nat.add_comm 1] at hconcludes
      refine ⟨reasons', last, answer, state', hconcludes, ?_⟩
      rw [kick_again hrecorded hretry]
      exact hresult

lemma exists_conclusion_of_first (kick : Kick) (hqueue : Answers queue) (h : ring.WellFormed) {slot : Slot}
    (hslot : ring.slot? kick.ticket.sequence = some slot) (hopen : slot.stage.isSettled = false)
    (hfirst : kick.attempt = 0) (retries : Nat) (state : κ) :
    ∃ reasons last answer state', Concludes retries kick.ticket reasons last answer ∧
      (kickUntilTaken (recorded queue) retries kick ring (state, [])).result =
        .ok (answer, ring.after (.replicate reasons.length (.prepareRetry kick.ticket.sequence) ++
          if last.isOk then [] else [.force kick.ticket.sequence false]), state',
          exchange kick reasons last) := by
  have hkick : { kick with attempt := 0 } = kick := by rw [← hfirst]
  obtain ⟨reasons, last, answer, state', hconcludes, hresult⟩ :=
    exists_conclusion hqueue h hslot hopen retries [] state
  rw [List.length_nil, Nat.zero_add] at hconcludes
  rw [List.length_nil, hkick] at hresult
  exact ⟨reasons, last, answer, state', hconcludes, hresult⟩

/-! ### Submissions -/

lemma Concludes.not_ring {limit : Nat} {ticket : Ticket} {reasons : List String}
    {last : Except KickError Unit} {answer : Except SubmitError Ticket}
    (h : Concludes limit ticket reasons last answer) (error : Ring.Error) :
    answer ≠ .error (.ring error) := by
  cases h <;> rintro ⟨⟩

lemma Concludes.length_le {limit : Nat} {ticket : Ticket} {reasons : List String}
    {last : Except KickError Unit} {answer : Except SubmitError Ticket}
    (h : Concludes limit ticket reasons last answer) : reasons.length ≤ limit := by
  cases h with
  | taken hlimit | refused hlimit => exact hlimit
  | exhausted hlimit => exact Nat.le_of_eq hlimit

lemma attempt_le_of_mem {sent : Kick × Except KickError Unit} {reasons : List String}
    {last : Except KickError Unit} (hmem : sent ∈ exchange kick reasons last) :
    sent.1.attempt ≤ reasons.length := by
  rcases List.mem_append.mp hmem with hbefore | hlast
  · obtain ⟨attempt, hlt, rfl⟩ := List.mem_mapIdx.mp hbefore
    exact Nat.le_of_lt hlt
  · have hattempt : sent.1.attempt = reasons.length := by rw [List.mem_singleton.mp hlast]
    exact Nat.le_of_eq hattempt

lemma firstKick?_of_holds {setup : RingSetup} (h : ring.WellFormed) (hmade : ring.MadeFor setup)
    {sequence : Nat} (hlive : ring.holds sequence) (number : UInt32) :
    firstKick? ring ⟨sequence, ring.index sequence⟩ number =
      some (setup.kick ⟨sequence, ring.index sequence⟩ number) := by
  unfold firstKick?
  rw [Ring.mapM_recordRange? h hmade hlive, Ring.fenceRange?_of_holds hmade hlive]
  rfl

variable {session : Session} {number : UInt32} {frame : Option Frame}

lemma submit_recorded (session : Session) (number : UInt32) (frame : Option Frame) (state : κ)
    (seen : List (Kick × Except KickError Unit)) :
    (fun answer => (answer.1, answer.2.1, answer.2.2.1)) <$>
        session.submit number frame (recorded queue) (state, seen) =
      session.submit number frame queue state := by
  unfold submit
  rw [map_bind]
  apply bind_congr
  rintro ⟨error | ticket, ring⟩
  · simp only [map_pure]
  · simp only
    cases firstKick? ring ticket number with
    | none => simp only [map_pure]
    | some kick =>
      simp only [map_bind, map_pure]
      rw [← kickUntilTaken_recorded _ kick ring state seen, bind_map_left]

lemma submit_of_begun {ticket : Ticket} {answer : Except SubmitError Ticket} {begun : Ring}
    (hbegin : (session.ring.begin number frame).result = .ok (.ok ticket, begun))
    (hkick : firstKick? begun ticket number = some kick)
    (hresult : (kickUntilTaken queue session.retries.resubmits.toNat kick begun state).result =
      .ok (answer, ring', state')) :
    (session.submit number frame queue state).result =
      .ok (answer, { session with ring := ring' }, state') := by
  unfold submit
  rw [Traced.result_bind _ hbegin]
  simp only [hkick]
  rw [Traced.result_bind _ hresult]
  rfl

lemma submit_destroyed (hstore : session.ring.store = none)
    (queue : Kick → κ → Traced (Except KickError Unit × κ)) (state : κ) :
    session.submit number frame queue state =
      return (.error (.ring (.destroyed session.ring.name)), session, state) := by
  unfold submit Ring.begin
  rw [hstore]
  simp only [pure_bind]

/-- What a submission came to that began a unit. The queue refused all kicks but the `last` one for
the moment, for these reasons. -/
structure Outcome (setup : RingSetup) (session : Session) (number : UInt32) (frame : Option Frame)
    (ticket : Ticket) (reasons : List String) (last : Except KickError Unit)
    (answer : Except SubmitError Ticket) (session' : Session) : Prop where
  concludes : Concludes session.retries.resubmits.toNat ticket reasons last answer
  kicks : (exchange (setup.kick ticket number) reasons last).length ≤
    session.retries.resubmits.toNat + 1
  /-- The kicks can be counted in 32 bits. -/
  attempts : ∀ sent ∈ exchange (setup.kick ticket number) reasons last,
    sent.1.attempt + 1 < UInt32.size
  begun : ∀ error, answer ≠ .error (.ring error)
  left : session' = { session with
    ring := session.ring.after
      (undertaken number frame ticket.sequence reasons.length last.isOk) }
  taken : last.isOk → session'.ring.holds ticket.sequence ∧
    session'.ring.hasAbandoned ticket.sequence = false ∧
    session'.ring.reported = (session.ring.next (.begin number frame)).reported ∧
    ∃ store, session'.ring.store = some store ∧ ∀ entry ∈ setup.enabled, ∀ field,
      store.value entry.engine ticket.index field = if reasons = [] then field.primed else 0
  givenUp : last.isOk = false → session'.ring.hasAbandoned ticket.sequence ∧
    session'.ring.reported = (session.ring.next (.begin number frame)).reported + 1

lemma exists_outcome {setup : RingSetup} (h : session.ring.WellFormed)
    (hmade : session.ring.MadeFor setup) {store : RecordStore}
    (hstore : session.ring.store = some store)
    (hroom : session.ring.submitted + 1 < UInt64.size)
    (hlimit : session.retries.resubmits.toNat < UInt32.size - 1) (hqueue : Answers queue)
    (number : UInt32) (frame : Option Frame) (state : κ) :
    ∃ reasons last answer session' state',
      Outcome setup session number frame
        ⟨session.ring.submitted, session.ring.index session.ring.submitted⟩ reasons last answer
        session' ∧
      (session.submit number frame (recorded queue) (state, [])).result =
        .ok (answer, session', state', exchange
          (setup.kick ⟨session.ring.submitted, session.ring.index session.ring.submitted⟩ number)
          reasons last) := by
  generalize hring : session.ring = ring at h hmade hstore hroom ⊢
  have hstep : Ring.Step ring (.begin number frame) _ := .began hstore hroom
  have hnext := hstep.next h
  have hbegin := Ring.begin_of_answer (hstep.answer h)
  rw [hnext, Run.state_done] at hbegin
  have hbegun := h.begun hstore hroom number frame
  have hslot := Ring.slot?_begun_self h hstore number frame
  have hlive := (Ring.slot?_eq_some_iff.mp hslot).1
  have hkick := firstKick?_of_holds hbegun (hstep.madeFor hmade) hlive number
  obtain ⟨reasons, last, answer, state', hconcludes, hresult⟩ :=
    exists_conclusion_of_first
      (setup.kick ⟨ring.submitted, ring.index ring.submitted⟩ number) hqueue hbegun hslot rfl rfl
      session.retries.resubmits.toNat state
  have hafter : ring.after (undertaken number frame ring.submitted reasons.length last.isOk) =
      (ring.begun store number frame).after
        (.replicate reasons.length (.prepareRetry ring.submitted) ++
          if last.isOk then [] else [.force ring.submitted false]) := by
    rw [undertaken, Ring.after_cons, hnext]
    rfl
  have hlength := hconcludes.length_le
  refine ⟨reasons, last, answer, { session with ring := _ }, state',
    ⟨hconcludes, ?_, ?_, hconcludes.not_ring, rfl, ?_, ?_⟩, ?_⟩
  · rw [exchange, refusals, List.length_append, List.length_mapIdx, List.length_singleton]
    exact Nat.succ_le_succ hlength
  · intro sent hmem
    have hattempt := attempt_le_of_mem hmem
    omega
  · intro htaken
    rw [if_pos htaken, List.append_nil] at hafter
    obtain ⟨hheld, hwanted, hreported, store', hstore', hvalue⟩ :=
      Ring.begun_after_retries h hstore hroom number frame reasons.length hafter
    simp only [hring, hnext]
    refine ⟨hheld, hwanted, hreported, store', hstore', ?_⟩
    intro entry hmem field
    have hengine : entry.engine ∈ store.engines := by
      rw [hmade.engines hstore]
      exact List.mem_map_of_mem hmem
    rw [hvalue entry.engine hengine field]
    simp only [List.length_eq_zero_iff]
  · intro hrefused
    rw [hrefused] at hafter
    simp only [hring, hrefused, hafter, hnext]
    exact Ring.abandoned_after_retries hbegun hslot rfl reasons.length
  · subst hring
    rw [hafter]
    exact submit_of_begun hbegin hkick hresult

lemma submit_overflow {store : RecordStore} (h : session.ring.WellFormed)
    (hstore : session.ring.store = some store)
    (hfull : ¬session.ring.submitted + 1 < UInt64.size) :
    (session.submit number frame queue state).result = .error .overflow := by
  have hstep : Ring.Step session.ring (.begin number frame) _ := .beginOverflow hstore hfull
  have hbegin := Ring.begin_of_fault (hstep.answer h)
  unfold submit
  rw [Traced.result_bind_error _ hbegin]

/-- On a destroyed ring nothing is submitted, and no queue is kicked. On any other ring a
submission begins a unit, unless there are too many units to count, and kicks it with attempts
from zero on until the queue takes it, refuses it for good, or has refused it once more than there
are retries. -/
theorem submit_concludes {setup : RingSetup} {pool pool' : Pool} {fresh : Ring}
    (hcreate : (Ring.create setup pool).result = .ok (.ok fresh, pool')) (ops : List Ring.Op)
    (session : Session) (hring : session.ring = fresh.after ops)
    (hlimit : session.retries.resubmits.toNat < UInt32.size - 1) (hqueue : Answers queue)
    (number : UInt32) (frame : Option Frame) (state : κ) :
    (session.ring.isDestroyed → ∀ queue : Kick → κ → Traced (Except KickError Unit × κ),
      session.submit number frame queue state =
        return (.error (.ring (.destroyed setup.name)), session, state)) ∧
    (session.ring.isDestroyed = false →
      if session.ring.submitted + 1 < UInt64.size then
        ∃ reasons last answer session' state',
          Outcome setup session number frame
            ⟨session.ring.submitted, session.ring.index session.ring.submitted⟩ reasons last answer
            session' ∧
          (session.submit number frame queue state).result = .ok (answer, session', state') ∧
          (session.submit number frame (recorded queue) (state, [])).result =
            .ok (answer, session', state', exchange (setup.kick
              ⟨session.ring.submitted, session.ring.index session.ring.submitted⟩ number)
              reasons last)
      else (session.submit number frame queue state).result = .error .overflow) := by
  have hnew : fresh.IsNew := ⟨setup, pool, pool', hcreate⟩
  have h : session.ring.WellFormed := hring ▸ hnew.wellFormed_after ops
  have hmade : session.ring.MadeFor setup := hring ▸ Ring.madeFor_after hcreate ops
  constructor
  · intro hdestroyed queue
    rw [submit_destroyed (Option.isNone_iff_eq_none.mp hdestroyed), hmade.name]
  · intro hlive
    obtain ⟨store, hstore⟩ := Option.isSome_iff_exists.mp (Option.isNone_eq_false_iff.mp hlive)
    by_cases hroom : session.ring.submitted + 1 < UInt64.size
    · rw [if_pos hroom]
      obtain ⟨reasons, last, answer, session', state', houtcome, hresult⟩ :=
        exists_outcome h hmade hstore hroom hlimit hqueue number frame state
      refine ⟨reasons, last, answer, session', state', houtcome, ?_, hresult⟩
      rw [← submit_recorded session number frame state [], Traced.result_map, hresult]
      rfl
    · rw [if_neg hroom]
      exact submit_overflow h hstore hroom

/-- A queue that refuses its first kick for the moment. -/
def busyOnce (_ : Kick) (kicks : Nat) : Traced (Except KickError Unit × Nat) :=
  return (if kicks = 0 then .error (.recoverable "busy") else .ok (), kicks + 1)

def persistentSetup : RingSetup := ⟨"ring", 1, [⟨⟨0⟩, "engine", .compact, true⟩]⟩

/-- A session that tries a kick again once. -/
def persistent : Session := ⟨.single, ⟨1⟩, .new .standard⟩

theorem submit_concludes_persistent :
    ∃ reasons last session', Outcome persistentSetup persistent 7 none ⟨0, 0⟩ reasons last
        (.ok ⟨0, 0⟩) session' ∧
      exchange (persistentSetup.kick ⟨0, 0⟩ 7) reasons last =
        [(persistentSetup.kick ⟨0, 0⟩ 7, .error (.recoverable "busy")),
          ({ persistentSetup.kick ⟨0, 0⟩ 7 with attempt := 1 }, .ok ())] := by
  have hcreate : (Ring.create persistentSetup (.new none)).result = .ok (.ok .single, _) := rfl
  have hqueue : Answers busyOnce := fun kick kicks => ⟨_, _, rfl⟩
  obtain ⟨-, hsubmit⟩ := submit_concludes hcreate [] persistent rfl (by decide) hqueue 7 none 0
  obtain ⟨reasons, last, answer, session', state', houtcome, -, hkicks⟩ := hsubmit rfl
  have hseen : ((persistent.submit 7 none (recorded busyOnce) (0, [])).result.map
      fun result => (result.1, result.2.2.2)) = .ok (.ok ⟨0, 0⟩,
        [(persistentSetup.kick ⟨0, 0⟩ 7, .error (.recoverable "busy")),
          ({ persistentSetup.kick ⟨0, 0⟩ 7 with attempt := 1 }, .ok ())]) := by
    decide +kernel
  rw [hkicks, Except.map, Except.ok.injEq, Prod.mk.injEq] at hseen
  obtain ⟨rfl, hexchange⟩ := hseen
  exact ⟨reasons, last, session', houtcome, hexchange⟩

end Session

end CompletionRing
