import CompletionRing.Proofs.Observer.FanOut
import CompletionRing.Proofs.Ring.Window

/-!
# Steps

What each operation of a well-formed ring comes to, in terms of the slots, the fence numbers and
the values of fields. No access to the shared memory stops an operation, and no count of units
but that of the units begun.
-/

namespace CompletionRing

lemma addCounts_ok {a b : Nat} (h : a + b < UInt64.size) : addCounts a b = .ok (a + b) := if_pos h

lemma addCounts_overflow {a b : Nat} (h : ¬a + b < UInt64.size) :
    addCounts a b = .error .overflow := if_neg h

namespace Run

variable {σ α : Type}

/-- A run that a fault stops before it did anything. -/
def stopped (state : σ) (fault : Fault) : Run σ α := ⟨state, [], .error fault⟩

/-- The run with those of its events that come from the audience. -/
def quiet (x : Run σ α) : Run σ α :=
  ⟨x.state, x.trace.events.filter Event.isNotice, x.trace.result⟩

lemma quiet_ofTraced_ok (before : σ) (events : List Event) (value : α) (state : σ) :
    (ofTraced before ⟨events, .ok (value, state)⟩).quiet =
      ⟨state, events.filter Event.isNotice, .ok value⟩ := rfl

lemma quiet_ofTraced_error (before : σ) (events : List Event) (fault : Fault) :
    (ofTraced before (⟨events, .error fault⟩ : Traced (α × σ))).quiet =
      ⟨before, events.filter Event.isNotice, .error fault⟩ := rfl

end Run

/-- The reports of the records at `index`. -/
def RecordStore.readings (store : RecordStore) (index : Nat) : List Report :=
  store.layouts.map fun (engine, layout) => .ofFields engine layout (store.value engine index)

namespace Slot

/-- The slot of a unit that was asked for in vain. -/
def waiting (slot : Slot) : Slot := { slot with stage := .waiting }

/-- The slot of a unit with these reports. -/
def evaluated (slot : Slot) (reports : List Report) : Slot :=
  { slot with stage := .ofStatus (Status.ofReports reports), reports }

/-- The slot of a unit that was given up. -/
def abandoned (slot : Slot) : Slot := { slot with stage := .abandoned }

end Slot

namespace Ring

/-- The ring with a new unit in the slot at its index. -/
def begun (ring : Ring) (store : RecordStore) (number : UInt32) (frame : Option Frame) : Ring :=
  { ring.setSlot (.begun ring.submitted number frame) with
    store := some (store.primed (ring.index ring.submitted))
    submitted := ring.submitted + 1
    reported := ring.reported +
      if isOpen ring.slots[ring.index ring.submitted]?.join then 1 else 0 }

/-- The ring with a slot in place of one that is not settled. -/
def revise (ring : Ring) (slot : Slot) : Ring :=
  { ring.setSlot slot with
    reported := ring.reported + if slot.stage.isSettled then 1 else 0 }

/-- The ring once its audience was told of a snapshot. -/
def told (ring : Ring) (held : Frame → Bool) (snapshot : Snapshot) : Ring :=
  { ring with
    audience := (ring.audience.told held snapshot).2
    refusals := ring.refusals + (ring.audience.told held snapshot).1.failures.length }

/-- What an operation comes to, without the events that do not come from the audience. -/
inductive Step (ring : Ring) : Op → Run Ring Reply → Prop
  | beginDestroyed {number frame} (hstore : ring.store = none) :
    Step ring (.begin number frame) (.done ring (.ticket (.error (.destroyed ring.name))))
  | beginOverflow {number frame store} (hstore : ring.store = some store)
      (hfull : ¬ring.submitted + 1 < UInt64.size) :
    Step ring (.begin number frame) (.stopped ring .overflow)
  | began {number frame store} (hstore : ring.store = some store)
      (hroom : ring.submitted + 1 < UInt64.size) :
    Step ring (.begin number frame) (.done (ring.begun store number frame)
      (.ticket (.ok ⟨ring.submitted, ring.index ring.submitted⟩)))
  | retryDestroyed {sequence} (hstore : ring.store = none) :
    Step ring (.prepareRetry sequence) (.done ring (.ticket (.error (.destroyed ring.name))))
  | retryStale {sequence store} (hstore : ring.store = some store)
      (hlive : ¬ring.holds sequence) :
    Step ring (.prepareRetry sequence) (.done ring (.ticket (.error (.stale sequence))))
  | retried {sequence store} (hstore : ring.store = some store) (hlive : ring.holds sequence) :
    Step ring (.prepareRetry sequence)
      (.done { ring with store := some (store.cleared (ring.index sequence)) }
        (.ticket (.ok ⟨sequence, ring.index sequence⟩)))
  | queriedOutside {held sequence} (hlive : ¬ring.holds sequence) :
    Step ring (.query held sequence) (.done ring (.snapshot (.unavailable sequence)))
  | queriedSettled {held sequence slot} (hslot : ring.slot? sequence = some slot)
      (hsettled : slot.stage.isSettled) :
    Step ring (.query held sequence) (.done ring (.snapshot slot.snapshot))
  | queriedWaiting {held sequence store slot} (hstore : ring.store = some store)
      (hslot : ring.slot? sequence = some slot) (hopen : slot.stage.isSettled = false)
      (hfence : ¬sequence < store.fenceNumber (ring.index sequence)) :
    Step ring (.query held sequence)
      (.done (ring.revise slot.waiting) (.snapshot slot.waiting.snapshot))
  | queriedEvaluated {held sequence store slot slot'} (hstore : ring.store = some store)
      (hslot : ring.slot? sequence = some slot) (hopen : slot.stage.isSettled = false)
      (hfence : sequence < store.fenceNumber (ring.index sequence))
      (hslot' : slot' = slot.evaluated (store.readings (ring.index sequence)))
      (hstage : slot'.stage ≠ .completed) :
    Step ring (.query held sequence) (.done (ring.revise slot') (.snapshot slot'.snapshot))
  | queriedCompleted {held sequence store slot slot'} (hstore : ring.store = some store)
      (hslot : ring.slot? sequence = some slot) (hopen : slot.stage.isSettled = false)
      (hfence : sequence < store.fenceNumber (ring.index sequence))
      (hslot' : slot' = slot.evaluated (store.readings (ring.index sequence)))
      (hstage : slot'.stage = .completed)
      (hroom : ring.refusals + (ring.audience.told held slot'.snapshot).1.failures.length <
        UInt64.size) :
    Step ring (.query held sequence)
      ⟨(ring.revise slot').told held slot'.snapshot,
        (ring.audience.announce held slot'.snapshot).events, .ok (.snapshot slot'.snapshot)⟩
  /-- The audience is told, and then its refusals are too many to count. -/
  | queriedOverflow {held sequence store slot slot'} (hstore : ring.store = some store)
      (hslot : ring.slot? sequence = some slot) (hopen : slot.stage.isSettled = false)
      (hfence : sequence < store.fenceNumber (ring.index sequence))
      (hslot' : slot' = slot.evaluated (store.readings (ring.index sequence)))
      (hstage : slot'.stage = .completed)
      (hfull : ¬ring.refusals + (ring.audience.told held slot'.snapshot).1.failures.length <
        UInt64.size) :
    Step ring (.query held sequence)
      ⟨ring, (ring.audience.announce held slot'.snapshot).events, .error .overflow⟩
  | forcedOutside {sequence outOfRange} (hlive : ¬ring.holds sequence) :
    Step ring (.force sequence outOfRange) (.done ring (.snapshot (.unavailable sequence)))
  | disowned {sequence slot} (hslot : ring.slot? sequence = some slot) :
    Step ring (.force sequence true)
      (.done ring (.snapshot { slot.snapshot with status := .unavailable }))
  | forcedSettled {sequence slot} (hslot : ring.slot? sequence = some slot)
      (hsettled : slot.stage.isSettled) :
    Step ring (.force sequence false) (.done ring (.snapshot slot.snapshot))
  | abandoned {sequence slot} (hslot : ring.slot? sequence = some slot)
      (hopen : slot.stage.isSettled = false) :
    Step ring (.force sequence false)
      (.done (ring.revise slot.abandoned) (.snapshot slot.abandoned.snapshot))
  | audience {held op reply audience} (hop : ring.audience.perform held op = .ok (reply, audience)) :
    Step ring (.audience held op) (.done { ring with audience } (.audience reply))
  | audienceFault {held op fault} (hop : ring.audience.perform held op = .error fault) :
    Step ring (.audience held op) (.stopped ring fault)
  | cancelled {id} : Step ring (.cancel id)
      (.done { ring with audience := (ring.audience.cancel id).2 }
        (.cancelled (ring.audience.cancel id).1))
  | destroyedAgain {pool} (hstore : ring.store = none) :
    Step ring (.destroy pool) (.done ring .destroyed)
  | destroyed {pool store} (hstore : ring.store = some store) :
    Step ring (.destroy pool) (.done { ring with store := none } .destroyed)
  | writeDestroyed {engine sequence field datum} (hstore : ring.store = none) :
    Step ring (.write engine sequence field datum) (.done ring (.written none))
  | written {engine sequence field datum store} (hstore : ring.store = some store) :
    Step ring (.write engine sequence field datum)
      (.done { ring with store := some (store.withField engine (ring.index sequence) field datum) }
        (.written (some (store.knows engine field))))
  | retireDestroyed {sequence} (hstore : ring.store = none) :
    Step ring (.retire sequence) (.done ring (.retired none))
  | retireOverflow {sequence store} (hstore : ring.store = some store)
      (hfull : ¬sequence + 1 < UInt64.size) :
    Step ring (.retire sequence) (.stopped ring .overflow)
  | retired {sequence store} (hstore : ring.store = some store)
      (hroom : sequence + 1 < UInt64.size) :
    Step ring (.retire sequence)
      (.done { ring with store := some (store.withFence (ring.index sequence) (sequence + 1)) }
        (.retired (some (ring.index sequence))))

variable {ring : Ring} {store : RecordStore} {sequence : Nat} {slot : Slot} {held : Frame → Bool}

/-! ### Begin and prepare a retry -/

lemma exists_evict (h : ring.WellFormed) (index : Nat) :
    ∃ events, ring.evict index = ⟨events,
        .ok (ring.reported + if isOpen ring.slots[index]?.join then 1 else 0)⟩ ∧
      events.filter Event.isNotice = [] := by
  unfold evict
  cases hslot : ring.slots[index]?.join with
  | none => exact ⟨[], rfl, rfl⟩
  | some previous =>
    by_cases hsettled : previous.stage.isSettled
    · have hopen : ¬isOpen (some previous) := by simp [isOpen, hsettled]
      refine ⟨[], ?_, rfl⟩
      simp only [hsettled, if_true, if_neg hopen]
      rfl
    · have hopen : isOpen (some previous) := by simpa [isOpen] using hsettled
      have hmem : some previous ∈ ring.slots :=
        Array.mem_of_getElem? (Option.join_eq_some_iff.mp hslot)
      have hcount : 0 < ring.slots.countP isOpen := Array.countP_pos_iff.mpr ⟨_, hmem, hopen⟩
      have haccounting := h.accounting
      have hlt := h.submitted_lt
      have hroom : ring.reported + 1 < UInt64.size := by omega
      refine ⟨[.evicted ring.name previous.sequence previous.status], ?_, rfl⟩
      simp only [hsettled, Bool.false_eq_true, if_false, Traced.emit_bind, addCounts_ok hroom,
        if_pos hopen]
      rfl

lemma begin_step (h : ring.WellFormed) (number : UInt32) (frame : Option Frame) :
    Step ring (.begin number frame) (ring.perform (.begin number frame)).quiet := by
  rw [perform]
  unfold begin
  cases hstore : ring.store with
  | none => exact .beginDestroyed hstore
  | some store =>
    have hprime := RecordStore.prime_ok (h.fits store hstore) (h.index_lt ring.submitted)
    obtain ⟨events, hevict, hquiet⟩ := exists_evict h (ring.index ring.submitted)
    by_cases hroom : ring.submitted + 1 < UInt64.size
    · have hbegan : Step ring (.begin number frame) _ := .began hstore hroom
      simp only [hevict, hprime, addCounts_ok hroom, Traced.mk_ok_bind, Traced.liftM_ok,
        Traced.emit_bind, pure_bind, Traced.events_pure, Traced.result_pure, List.append_nil,
        Run.quiet_ofTraced_ok, List.filter_append, hquiet]
      exact hbegan
    · have hoverflow : Step ring (.begin number frame) _ := .beginOverflow hstore hroom
      simp only [hevict, hprime, addCounts_overflow hroom, Traced.mk_ok_bind, Traced.liftM_ok,
        Traced.liftM_error_bind, Traced.mk_error_bind, pure_bind, List.append_nil,
        Run.quiet_ofTraced_error, hquiet]
      exact hoverflow

lemma slot?_isNone (h : ring.WellFormed) : ring.slot? sequence = none ↔ ¬ring.holds sequence := by
  constructor
  · intro hnone hlive
    obtain ⟨slot, hslot, -⟩ := h.exists_slot hlive
    rw [hnone] at hslot
    cases hslot
  · exact slot?_eq_none

lemma exists_store (hlive : ring.holds sequence) : ∃ store, ring.store = some store :=
  Option.isSome_iff_exists.mp (holds_iff.mp hlive).1

lemma prepareRetry_step (h : ring.WellFormed) (sequence : Nat) :
    Step ring (.prepareRetry sequence) (ring.perform (.prepareRetry sequence)).quiet := by
  rw [perform]
  unfold prepareRetry
  cases hstore : ring.store with
  | none => exact .retryDestroyed hstore
  | some store =>
    cases hslot : ring.slot? sequence with
    | none => exact .retryStale hstore ((slot?_isNone h).mp hslot)
    | some slot =>
      have hlive : ring.holds sequence := (slot?_eq_some_iff.mp hslot).1
      have hclear := RecordStore.clear_ok (h.fits store hstore) (h.index_lt sequence)
      have hretried := Step.retried hstore hlive
      by_cases hterminal : slot.status.isTerminal
      · simp only [hterminal, if_true, hclear, Traced.liftM_ok, Traced.emit_bind, pure_bind,
          Traced.events_pure, Traced.result_pure]
        exact hretried
      · simp only [hterminal, Bool.false_eq_true, if_false, hclear, Traced.liftM_ok,
          Traced.emit_bind, pure_bind, Traced.events_pure, Traced.result_pure]
        exact hretried

/-! ### Query -/

lemma hasRetired_ok (h : ring.WellFormed) (hstore : ring.store = some store) (sequence : Nat) :
    hasRetired store (ring.index sequence) sequence =
      .ok (decide (sequence < store.fenceNumber (ring.index sequence))) := by
  have hword := RecordStore.fenceWord_ok (h.fits store hstore) (h.index_lt sequence)
  unfold hasRetired
  rw [hword]
  simp only [bind, Except.bind, RecordStore.fenceWord_toNat]
  rfl

lemma reported_room (h : ring.WellFormed) (hslot : ring.slot? sequence = some slot)
    (hopen : slot.stage.isSettled = false) : ring.reported + 1 < UInt64.size := by
  have hreported := h.reported_lt hslot hopen
  have hlt := h.submitted_lt
  omega

lemma resolve_unannounced (hroom : ring.reported + 1 < UInt64.size)
    (hstage : slot.stage ≠ .completed) :
    ring.resolve held slot = ⟨[], .ok (slot.snapshot, ring.revise slot)⟩ := by
  have hreported : (ring.setSlot slot).reported = ring.reported := rfl
  unfold resolve revise
  cases hsettled : slot.stage.isSettled with
  | true =>
    simp only [hreported, addCounts_ok hroom, hstage, if_true, if_false, Traced.liftM_ok,
      pure_bind]
    rfl
  | false => rfl

lemma resolve_announced (hroom : ring.reported + 1 < UInt64.size)
    (hstage : slot.stage = .completed) :
    ring.resolve held slot = ⟨(ring.audience.announce held slot.snapshot).events,
      if ring.refusals + (ring.audience.told held slot.snapshot).1.failures.length < UInt64.size
      then .ok (slot.snapshot, (ring.revise slot).told held slot.snapshot)
      else .error .overflow⟩ := by
  obtain ⟨hresult, -, -, -⟩ := ring.audience.announce_spec held slot.snapshot
  have hannounce : ring.audience.announce held slot.snapshot =
      ⟨(ring.audience.announce held slot.snapshot).events,
        .ok (ring.audience.told held slot.snapshot)⟩ := by
    rw [← hresult]
  have hsettled : Stage.completed.isSettled = true := rfl
  have hreported : (ring.setSlot slot).reported = ring.reported := rfl
  have haudience : (ring.setSlot slot).audience = ring.audience := rfl
  have hrefusals : (ring.setSlot slot).refusals = ring.refusals := rfl
  unfold resolve announce
  simp only [hstage, hsettled, if_true, hreported, haudience, hrefusals, addCounts_ok hroom,
    Traced.liftM_ok, pure_bind]
  rw [hannounce]
  by_cases hfit : ring.refusals + (ring.audience.told held slot.snapshot).1.failures.length <
      UInt64.size
  · simp only [Traced.mk_ok_bind, addCounts_ok hfit, if_pos hfit, Traced.liftM_ok, pure_bind,
      Traced.events_pure, Traced.result_pure, List.append_nil]
    simp only [revise, told, hstage, hsettled, if_true]
    rfl
  · simp only [Traced.mk_ok_bind, addCounts_overflow hfit, if_neg hfit, Traced.liftM_error_bind,
      Traced.mk_error_bind, List.append_nil]

lemma query_of_open (h : ring.WellFormed) (hstore : ring.store = some store)
    (hslot : ring.slot? sequence = some slot) (hopen : slot.stage.isSettled = false) :
    ring.query held sequence =
      if sequence < store.fenceNumber (ring.index sequence) then do
        let slot' := slot.evaluated (store.readings (ring.index sequence))
        .emit (.evaluated ring.name sequence
          (Status.ofReports (store.readings (ring.index sequence))))
        ring.resolve held slot'
      else return (slot.waiting.snapshot, ring.setSlot slot.waiting) := by
  have hretired := hasRetired_ok h hstore sequence
  have hreports : store.reports (ring.index sequence) =
      .ok (store.readings (ring.index sequence)) :=
    RecordStore.reports_ok (h.fits store hstore) (h.index_lt sequence)
  unfold query
  simp only [hstore, hslot, hretired, hopen, Traced.liftM_ok, pure_bind, Bool.false_eq_true,
    if_false]
  by_cases hfence : sequence < store.fenceNumber (ring.index sequence)
  · simp only [hfence, decide_true, Bool.not_true, Bool.false_eq_true, if_false, if_true, hreports,
      Traced.liftM_ok, pure_bind]
    rfl
  · simp only [hfence, decide_false, Bool.not_false, if_true, if_false]
    rfl

lemma announce_events_filter (audience : Audience) (held : Frame → Bool) (snapshot : Snapshot) :
    (audience.announce held snapshot).events.filter Event.isNotice =
      (audience.announce held snapshot).events := by
  obtain ⟨-, -, -, hnotices⟩ := audience.announce_spec held snapshot
  exact List.filter_eq_self.mpr (List.all_eq_true.mp hnotices)

lemma evaluated_step (h : ring.WellFormed) (held : Frame → Bool) (hstore : ring.store = some store)
    (hslot : ring.slot? sequence = some slot) (hopen : slot.stage.isSettled = false)
    (hfence : sequence < store.fenceNumber (ring.index sequence)) :
    Step ring (.query held sequence) (ring.perform (.query held sequence)).quiet := by
  have hroom := reported_room h hslot hopen
  have hquiet : Event.isNotice (.evaluated ring.name sequence
      (Status.ofReports (store.readings (ring.index sequence)))) = false := rfl
  rw [perform, query_of_open h hstore hslot hopen, if_pos hfence]
  obtain ⟨slot', hslot'⟩ : ∃ slot', slot' = slot.evaluated (store.readings (ring.index sequence)) :=
    ⟨_, rfl⟩
  rw [← hslot']
  by_cases hstage : slot'.stage = .completed
  · by_cases hfit : ring.refusals + (ring.audience.told held slot'.snapshot).1.failures.length <
        UInt64.size
    · have hcompleted := Step.queriedCompleted hstore hslot hopen hfence hslot' hstage hfit
      rw [← announce_events_filter] at hcompleted
      simp only [resolve_announced hroom hstage, if_pos hfit, Traced.emit_bind, Traced.mk_ok_bind,
        Traced.events_pure, Traced.result_pure, List.append_nil, Run.quiet_ofTraced_ok,
        List.filter_cons, hquiet, Bool.false_eq_true, if_false]
      exact hcompleted
    · have hoverflow := Step.queriedOverflow hstore hslot hopen hfence hslot' hstage hfit
      rw [← announce_events_filter] at hoverflow
      simp only [resolve_announced hroom hstage, if_neg hfit, Traced.emit_bind,
        Traced.mk_error_bind, Run.quiet_ofTraced_error, List.filter_cons, hquiet,
        Bool.false_eq_true, if_false]
      exact hoverflow
  · have hevaluated : Step ring (.query held sequence) _ :=
      .queriedEvaluated hstore hslot hopen hfence hslot' hstage
    simp only [resolve_unannounced hroom hstage, Traced.emit_bind, Traced.mk_ok_bind,
      Traced.events_pure, Traced.result_pure, List.append_nil, Run.quiet_ofTraced_ok,
      List.filter_cons, hquiet, Bool.false_eq_true, if_false]
    exact hevaluated

lemma query_step (h : ring.WellFormed) (held : Frame → Bool) (sequence : Nat) :
    Step ring (.query held sequence) (ring.perform (.query held sequence)).quiet := by
  cases hslot : ring.slot? sequence with
  | none =>
    have houtside : Step ring (.query held sequence) _ :=
      .queriedOutside ((slot?_isNone h).mp hslot)
    rw [perform]
    unfold query
    rw [hslot]
    cases hstore : ring.store with
    | none => exact houtside
    | some store => exact houtside
  | some slot =>
    obtain ⟨store, hstore⟩ := exists_store (slot?_eq_some_iff.mp hslot).1
    cases hopen : slot.stage.isSettled with
    | true =>
      have hsettled : Step ring (.query held sequence) _ := .queriedSettled hslot hopen
      rw [perform]
      unfold query
      simp only [hstore, hslot, hasRetired_ok h hstore, hopen, Traced.liftM_ok, pure_bind, if_true]
      exact hsettled
    | false =>
      by_cases hfence : sequence < store.fenceNumber (ring.index sequence)
      · exact evaluated_step h held hstore hslot hopen hfence
      · have hwaiting : Step ring (.query held sequence) _ :=
          .queriedWaiting hstore hslot hopen hfence
        rw [perform, query_of_open h hstore hslot hopen, if_neg hfence]
        exact hwaiting

/-! ### Force -/

lemma setSlot_self (h : ring.WellFormed) (hslot : ring.slot? sequence = some slot) :
    ring.setSlot slot = ring := by
  have hsequence := h.sequence_eq hslot
  obtain ⟨-, hat⟩ := slot?_eq_some_iff.mp hslot
  have hsame : ring.slots.setIfInBounds (ring.index slot.sequence) (some slot) = ring.slots := by
    apply Array.ext_getElem?
    intro index
    rw [hsequence, Array.getElem?_setIfInBounds]
    by_cases hindex : ring.index sequence = index
    · subst hindex
      rw [if_pos rfl, hat]
      have hlt := (Array.getElem?_eq_some_iff.mp hat).1
      rw [if_pos hlt]
    · rw [if_neg hindex]
  rw [setSlot, hsame]

lemma abandon_of_open (hslot : ring.slot? sequence = some slot)
    (hopen : slot.stage.isSettled = false) (hroom : ring.reported + 1 < UInt64.size) :
    ring.abandon sequence = ⟨[.abandoned ring.name sequence slot.number],
      .ok (slot.abandoned.snapshot, ring.revise slot.abandoned)⟩ := by
  have hstatus : slot.status.isTerminal = false := by
    unfold Slot.status
    cases hstage : slot.stage <;> simp_all [Stage.isSettled, Stage.status, Status.isTerminal]
  unfold abandon
  simp only [hslot, hstatus, hopen, Bool.false_eq_true, if_false, addCounts_ok hroom,
    Traced.liftM_ok, pure_bind, Traced.emit_bind]
  rfl

lemma abandon_of_settled (h : ring.WellFormed) (hslot : ring.slot? sequence = some slot)
    (hsettled : slot.stage.isSettled) :
    ∃ events, ring.abandon sequence = ⟨events, .ok (slot.snapshot, ring)⟩ ∧
      events.filter Event.isNotice = [] := by
  unfold abandon
  simp only [hslot]
  by_cases hterminal : slot.status.isTerminal
  · exact ⟨[], by rw [if_pos hterminal]; rfl, rfl⟩
  · have hstage : slot.stage = .abandoned := by
      unfold Slot.status at hterminal
      cases hstage : slot.stage <;> simp_all [Stage.isSettled, Stage.status, Status.isTerminal]
    have hsame : { slot with stage := .abandoned } = slot := by rw [← hstage]
    refine ⟨[.abandoned ring.name sequence slot.number], ?_, rfl⟩
    simp only [hterminal, hsettled, Bool.false_eq_true, if_false, if_true, hsame,
      setSlot_self h hslot, pure_bind, Traced.emit_bind]
    rfl

lemma force_step (h : ring.WellFormed) (sequence : Nat) (outOfRange : Bool) :
    Step ring (.force sequence outOfRange) (ring.perform (.force sequence outOfRange)).quiet := by
  rw [perform]
  unfold force
  cases hslot : ring.slot? sequence with
  | none =>
    have houtside : Step ring (.force sequence outOfRange) _ :=
      .forcedOutside ((slot?_isNone h).mp hslot)
    unfold disown abandon
    rw [hslot]
    cases outOfRange with
    | true => exact houtside
    | false => exact houtside
  | some slot =>
    cases outOfRange with
    | true =>
      unfold disown
      rw [hslot]
      exact .disowned hslot
    | false =>
      cases hopen : slot.stage.isSettled with
      | true =>
        obtain ⟨events, habandon, hquiet⟩ := abandon_of_settled h hslot hopen
        have hsettled := Step.forcedSettled hslot hopen
        simp only [habandon, Bool.false_eq_true, if_false, Traced.mk_ok_bind, Traced.events_pure,
          Traced.result_pure, List.append_nil, Run.quiet_ofTraced_ok, hquiet]
        exact hsettled
      | false =>
        have habandoned := Step.abandoned hslot hopen
        simp only [abandon_of_open hslot hopen (reported_room h hslot hopen), Bool.false_eq_true,
          if_false]
        exact habandoned

/-! ### The audience, the pool and the device -/

lemma audience_step (held : Frame → Bool) (op : Audience.Op) :
    Step ring (.audience held op) (ring.perform (.audience held op)).quiet := by
  rw [perform]
  cases hop : ring.audience.perform held op with
  | error fault => exact .audienceFault hop
  | ok answer => exact .audience hop

lemma exists_release (pool : Pool) (mapping : Mapping) :
    ∃ events pool', pool.release mapping = ⟨events, .ok pool'⟩ ∧
      events.filter Event.isNotice = [] := by
  unfold Pool.release
  by_cases hcounted : mapping.counted
  · rw [if_pos hcounted]
    exact ⟨[.released mapping.name], _, rfl, rfl⟩
  · rw [if_neg hcounted]
    exact ⟨[], pool, rfl, rfl⟩

lemma exists_releaseAll (pool : Pool) (mappings : List Mapping) :
    ∃ events pool', pool.releaseAll mappings = ⟨events, .ok pool'⟩ ∧
      events.filter Event.isNotice = [] := by
  induction mappings generalizing pool with
  | nil => exact ⟨[], pool, rfl, rfl⟩
  | cons mapping rest ih =>
    obtain ⟨events, pool', hrelease, hquiet⟩ := exists_release pool mapping
    obtain ⟨later, pool'', hrest, hquiet'⟩ := ih pool'
    refine ⟨events ++ later, pool'', ?_, ?_⟩
    · rw [Pool.releaseAll, hrelease, Traced.mk_ok_bind, hrest]
    · rw [List.filter_append, hquiet, hquiet', List.append_nil]

lemma destroy_step (pool : Pool) :
    Step ring (.destroy pool) (ring.perform (.destroy pool)).quiet := by
  rw [perform]
  unfold destroy
  cases hstore : ring.store with
  | none => exact .destroyedAgain hstore
  | some store =>
    have hdestroyed : Step ring (.destroy pool) _ := .destroyed hstore
    obtain ⟨events, pool', hrelease, hquiet⟩ := exists_releaseAll pool store.mappings
    have hlast : [Event.destroyed ring.name ring.submitted].filter Event.isNotice = [] := rfl
    simp only [hrelease, Traced.mk_ok_bind, Traced.emit_bind, Traced.events_pure,
      Traced.result_pure, List.append_nil, Run.quiet_ofTraced_ok, List.filter_append, hquiet,
      hlast]
    exact hdestroyed

lemma write_step (h : ring.WellFormed) (engine : Engine) (sequence : Nat) (field : Field)
    (datum : UInt32) :
    Step ring (.write engine sequence field datum)
      (ring.perform (.write engine sequence field datum)).quiet := by
  rw [perform]
  unfold write
  cases hstore : ring.store with
  | none => exact .writeDestroyed hstore
  | some store =>
    have hwritten : Step ring (.write engine sequence field datum) _ := .written hstore
    have hwrite : store.write engine (ring.index sequence) field datum = _ :=
      RecordStore.write_ok (h.fits store hstore) (h.index_lt sequence)
    simp only [hwrite]
    exact hwritten

lemma retire_step (h : ring.WellFormed) (sequence : Nat) :
    Step ring (.retire sequence) (ring.perform (.retire sequence)).quiet := by
  rw [perform]
  unfold retire
  cases hstore : ring.store with
  | none => exact .retireDestroyed hstore
  | some store =>
    by_cases hroom : sequence + 1 < UInt64.size
    · have hretired := Step.retired hstore hroom
      have hretire := RecordStore.retire_ok (h.fits store hstore) (h.index_lt sequence) hroom
      simp only [hretire]
      exact hretired
    · have hoverflow := Step.retireOverflow hstore hroom
      have hretire : store.retire (ring.index sequence) sequence = .error .overflow :=
        RecordStore.retire_overflow hroom
      simp only [hretire]
      exact hoverflow

/-- On a well-formed ring every operation comes to one of the steps. -/
theorem step (h : ring.WellFormed) (op : Op) : Step ring op (ring.perform op).quiet := by
  cases op with
  | begin number frame => exact begin_step h number frame
  | prepareRetry sequence => exact prepareRetry_step h sequence
  | query held sequence => exact query_step h held sequence
  | force sequence outOfRange => exact force_step h sequence outOfRange
  | audience held op => exact audience_step held op
  | cancel id => exact .cancelled
  | destroy pool => exact destroy_step pool
  | write engine sequence field datum => exact write_step h engine sequence field datum
  | retire sequence => exact retire_step h sequence

/-- The guards of two steps for one operation exclude each other. -/
theorem Step.unique {op : Op} {run run' : Run Ring Reply} (hstep : Step ring op run)
    (hstep' : Step ring op run') : run' = run := by
  have hdead : ∀ sequence, ¬ring.holds sequence → ring.slot? sequence = none :=
    fun _ hlive => slot?_eq_none hlive
  cases hstep <;> cases hstep' <;> grind

lemma next_eq (ring : Ring) (op : Op) : ring.next op = (ring.perform op).quiet.state := rfl

lemma answer_eq (ring : Ring) (op : Op) :
    ring.answer op = (ring.perform op).quiet.trace.result := rfl

lemma Step.next {op : Op} {run : Run Ring Reply} (h : ring.WellFormed)
    (hstep : Step ring op run) : ring.next op = run.state := by
  rw [next_eq, hstep.unique (step h op)]

lemma Step.answer {op : Op} {run : Run Ring Reply} (h : ring.WellFormed)
    (hstep : Step ring op run) : ring.answer op = run.trace.result := by
  rw [answer_eq, hstep.unique (step h op)]

lemma next_write (h : ring.WellFormed) (hstore : ring.store = some store) (engine : Engine)
    (sequence : Nat) (field : Field) (datum : UInt32) :
    ring.next (.write engine sequence field datum) =
      { ring with store := some (store.withField engine (ring.index sequence) field datum) } := by
  have hstep : Step ring (.write engine sequence field datum) _ := .written hstore
  exact hstep.next h

lemma next_retire (h : ring.WellFormed) (hstore : ring.store = some store)
    (hroom : sequence + 1 < UInt64.size) : ring.next (.retire sequence) =
      { ring with store := some (store.withFence (ring.index sequence) (sequence + 1)) } :=
  (Step.retired hstore hroom).next h

end Ring

end CompletionRing
