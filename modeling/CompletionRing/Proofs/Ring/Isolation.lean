import CompletionRing.Proofs.Record.Changes
import CompletionRing.Proofs.Ring.Occupancy

/-!
# Isolation

What is done about a unit looks at nothing but the slot, the records and the fence word at its
index, and changes nothing else but the count of reported units. So what is done about two units
with different indices can be done in either order, as long as nobody is told of successes.
-/

namespace CompletionRing

namespace Audience

variable {audience : Audience} {alive held : Frame → Bool} {snapshot : Snapshot}

lemma deliverAll_of_inactive {subscriptions : List Subscription}
    (h : ∀ subscription ∈ subscriptions, subscription.active = false) :
    deliverAll alive snapshot subscriptions = pure (.none, subscriptions) := by
  induction subscriptions with
  | nil => rfl
  | cons subscription rest ih =>
    have hrest := ih fun other hmem => h other (List.mem_cons_of_mem _ hmem)
    simp [deliverAll, h subscription List.mem_cons_self, hrest]

lemma told_of_silent (hsilent : audience.active = []) (held : Frame → Bool) (snapshot : Snapshot) :
    audience.told held snapshot = (.none, audience) := by
  have hinactive : ∀ subscription ∈ audience.subscriptions, subscription.active = false := by
    intro subscription hmem
    simpa using List.filter_eq_nil_iff.mp hsilent subscription hmem
  have hnobody : deliverAll (audience.keepsAlive held) snapshot audience.subscriptions =
      pure (.none, audience.subscriptions) := deliverAll_of_inactive hinactive
  simp only [told, announce, hnobody, Traced.emit_bind, pure_bind, Traced.result_pure]

end Audience

namespace Ring

/-- The unit that an operation is about, if there is one that was begun before. -/
def Op.unit? : Op → Option Nat
  | .prepareRetry sequence | .query _ sequence | .force sequence _ | .write _ sequence _ _
  | .retire sequence => some sequence
  | _ => none

/-- A change to what a ring keeps at one index. -/
inductive Change where
  | nothing
  /-- Another slot, in place of one that is not settled. -/
  | slot (slot : Slot)
  | records (f : Bank → Bank)
  | fence (number : Nat)

/-- Are the records at other indices left alone? -/
inductive Change.KeepsTo (index : Nat) : Change → Prop
  | nothing : KeepsTo index .nothing
  | slot {slot} : KeepsTo index (.slot slot)
  | records {f} (h : Bank.PutsAt f index) : KeepsTo index (.records f)
  | fence {number} : KeepsTo index (.fence number)

/-- The ring with a change at an index. -/
def changed (ring : Ring) (index : Nat) : Change → Ring
  | .nothing => ring
  | .slot slot => { ring with
      slots := ring.slots.setIfInBounds index (some slot)
      reported := ring.reported + if slot.stage.isSettled then 1 else 0 }
  | .records f => { ring with store := ring.store.map (·.mapBanks f) }
  | .fence number => { ring with store := ring.store.map (·.withFence index number) }

end Ring

/-- Do two memories read the same at an index? -/
structure RecordStore.SameAt (index : Nat) (store store' : RecordStore) : Prop where
  fenceNumber : store'.fenceNumber index = store.fenceNumber index
  readings : store'.readings index = store.readings index
  knows : ∀ engine field, store'.knows engine field = store.knows engine field

namespace Ring

/-- Do two rings look the same to what is done about the units of an index? -/
structure SameAt (index : Nat) (ring ring' : Ring) : Prop where
  name : ring'.name = ring.name
  capacity : ring'.capacity = ring.capacity
  submitted : ring'.submitted = ring.submitted
  audience : ring'.audience = ring.audience
  refusals : ring'.refusals = ring.refusals
  slot : ring'.slots[index]? = ring.slots[index]?
  store : Option.Rel (RecordStore.SameAt index) ring.store ring'.store

variable {ring ring' : Ring} {op : Op} {run : Run Ring Reply} {sequence index other : Nat}
  {change change' : Change} {slot : Slot} {store : RecordStore}

/-! ### Changes at different indices -/

theorem changed_comm (hchange : change.KeepsTo index) (hchange' : change'.KeepsTo other)
    (hne : index ≠ other) (ring : Ring) :
    (ring.changed index change).changed other change' =
      (ring.changed other change').changed index change := by
  cases hchange with
  | nothing => cases hchange' <;> simp only [changed]
  | slot =>
    cases hchange' with
    | slot => simp only [changed, Array.setIfInBounds_comm _ _ hne, Nat.add_right_comm]
    | _ => simp only [changed]
  | records hf =>
    cases hchange' with
    | records hg =>
      simp only [changed, Option.map_map, Function.comp_def, RecordStore.mapBanks_comm hf hg hne]
    | fence =>
      simp only [changed, Option.map_map, Function.comp_def, RecordStore.withFence_mapBanks]
    | _ => simp only [changed]
  | fence =>
    cases hchange' with
    | records =>
      simp only [changed, Option.map_map, Function.comp_def, RecordStore.withFence_mapBanks]
    | fence =>
      simp only [changed, Option.map_map, Function.comp_def, RecordStore.withFence_comm _ _ _ hne]
    | _ => simp only [changed]

lemma sameAt_mapBanks {f : Bank → Bank} (hf : Bank.PutsAt f index) (hne : other ≠ index)
    (store : RecordStore) : RecordStore.SameAt other store (store.mapBanks f) := by
  refine ⟨rfl, ?_, RecordStore.knows_mapBanks hf store⟩
  have hvalue : ∀ engine,
      (store.mapBanks f).value engine other = store.value engine other := by
    intro engine
    funext field
    exact RecordStore.value_mapBanks_of_ne hf hne store engine field
  simp only [RecordStore.readings, RecordStore.layouts_mapBanks hf.engine hf.layout, hvalue]

lemma sameAt_withFence (store : RecordStore) (number : Nat) (hne : other ≠ index) :
    RecordStore.SameAt other store (store.withFence index number) := by
  refine ⟨store.fenceNumber_withFence_of_ne number hne, ?_, store.knows_withFence number⟩
  have hvalue : ∀ engine,
      (store.withFence index number).value engine other = store.value engine other := by
    intro engine
    funext field
    exact store.value_withFence index number engine other field
  simp only [RecordStore.readings, RecordStore.layouts_withFence, hvalue]

lemma SameAt.refl (index : Nat) (ring : Ring) : SameAt index ring ring := by
  refine ⟨rfl, rfl, rfl, rfl, rfl, rfl, ?_⟩
  cases ring.store with
  | none => exact .none
  | some store => exact .some ⟨rfl, rfl, fun _ _ => rfl⟩

lemma sameAt_changed (hchange : change.KeepsTo index) (hne : other ≠ index) (ring : Ring) :
    SameAt other ring (ring.changed index change) := by
  have hstore := (SameAt.refl other ring).store
  cases hchange with
  | nothing => exact SameAt.refl other ring
  | slot => exact ⟨rfl, rfl, rfl, rfl, rfl, Array.getElem?_setIfInBounds_ne hne.symm, hstore⟩
  | records hf =>
    refine ⟨rfl, rfl, rfl, rfl, rfl, rfl, ?_⟩
    simp only [changed]
    cases ring.store with
    | none => exact .none
    | some store => exact .some (sameAt_mapBanks hf hne store)
  | fence =>
    refine ⟨rfl, rfl, rfl, rfl, rfl, rfl, ?_⟩
    simp only [changed]
    cases ring.store with
    | none => exact .none
    | some store => exact .some (sameAt_withFence store _ hne)

/-! ### What is looked at -/

namespace SameAt

variable (hsame : SameAt index ring ring')

include hsame

lemma store_none (hstore : ring.store = none) : ring'.store = none := by
  have hrel := hsame.store
  rw [hstore] at hrel
  generalize ring'.store = store? at hrel
  cases hrel with
  | none => rfl

lemma exists_store (hstore : ring.store = some store) :
    ∃ store', ring'.store = some store' ∧ RecordStore.SameAt index store store' := by
  have hrel := hsame.store
  rw [hstore] at hrel
  generalize ring'.store = store? at hrel
  cases hrel with
  | some hsame => exact ⟨_, rfl, hsame⟩

lemma holds (sequence : Nat) : ring'.holds sequence = ring.holds sequence := by
  apply holds_congr hsame.capacity hsame.submitted
  have hrel := hsame.store
  generalize ring.store = store? at hrel
  generalize ring'.store = store?' at hrel
  cases hrel <;> simp

lemma index_eq (sequence : Nat) : ring'.index sequence = ring.index sequence :=
  index_congr hsame.capacity sequence

lemma slot? (hindex : ring.index sequence = index) (hslot : ring.slot? sequence = some slot) :
    ring'.slot? sequence = some slot := by
  rw [slot?_eq_some_iff] at hslot ⊢
  rw [hsame.holds, hsame.index_eq, hindex, hsame.slot, ← hindex]
  exact hslot

end SameAt

lemma told_of_silent (hsilent : ring.audience.active = []) (held : Frame → Bool)
    (snapshot : Snapshot) : ring.told held snapshot = ring := by
  simp [told, Audience.told_of_silent hsilent, FanOut.none]

/-- Are the answer to an operation, and the change that it makes at the index, the same for all
rings that look the same there? -/
def Isolated (ring : Ring) (op : Op) (index : Nat) (result : Except Fault Reply) : Prop :=
  ∃ change, Change.KeepsTo index change ∧
    ∀ ring', ring'.WellFormed → SameAt index ring ring' →
      ring'.answer op = result ∧ ring'.next op = ring'.changed index change

namespace Isolated

variable {result : Except Fault Reply}

lemma of_step (hkeeps : change.KeepsTo index)
    (hstep : ∀ ring', ring'.WellFormed → SameAt index ring ring' → ∃ run, Step ring' op run ∧
      run.trace.result = result ∧ run.state = ring'.changed index change) :
    Isolated ring op index result := by
  refine ⟨change, hkeeps, ?_⟩
  intro ring' h' hsame
  obtain ⟨run, hrun, hresult, hstate⟩ := hstep ring' h' hsame
  exact ⟨(hrun.answer h').trans hresult, (hrun.next h').trans hstate⟩

lemma idle (hstep : ∀ ring', SameAt index ring ring' → ∃ run, Step ring' op run ∧
      run.trace.result = result ∧ run.state = ring') : Isolated ring op index result :=
  of_step .nothing fun ring' _ hsame => hstep ring' hsame

lemma revised (new : Slot) (hslot : ring.slot? sequence = some slot)
    (hsequence : new.sequence = slot.sequence)
    (hstep : ∀ ring', SameAt (ring.index sequence) ring ring' →
      ring'.slot? sequence = some slot → ∃ run, Step ring' op run ∧
        run.trace.result = result ∧ run.state = ring'.revise new) :
    Isolated ring op (ring.index sequence) result := by
  have hkeeps : Change.KeepsTo (ring.index sequence) (.slot new) := .slot
  apply of_step hkeeps
  intro ring' h' hsame
  have hslot' := hsame.slot? rfl hslot
  obtain ⟨run, hrun, hresult, hstate⟩ := hstep ring' hsame hslot'
  have hindex : ring'.index new.sequence = ring.index sequence := by
    rw [hsequence, h'.sequence_eq hslot', hsame.index_eq]
  refine ⟨run, hrun, hresult, ?_⟩
  rw [hstate, ← hindex]
  rfl

end Isolated

/-- What an operation about a unit answers, and the change that it makes at the index of the unit,
are the same for all rings that look the same there. -/
theorem Step.isolated (hstep : Step ring op run)
    (hunit : op.unit? = some sequence) (hsilent : ring.audience.active = []) :
    Isolated ring op (ring.index sequence) run.trace.result := by
  cases hstep with
  | beginDestroyed | beginOverflow | began | audience | audienceFault | cancelled
  | destroyedAgain | destroyed => cases hunit
  | retryDestroyed hstore =>
    cases hunit
    apply Isolated.idle
    intro ring' hsame
    exact ⟨_, .retryDestroyed (hsame.store_none hstore), by rw [hsame.name]; rfl, rfl⟩
  | retryStale hstore hlive =>
    cases hunit
    apply Isolated.idle
    intro ring' hsame
    obtain ⟨store', hstore', -⟩ := hsame.exists_store hstore
    exact ⟨_, .retryStale hstore' (by rwa [hsame.holds]), rfl, rfl⟩
  | retried hstore hlive =>
    cases hunit
    apply Isolated.of_step (.records (Bank.putsAt_cleared _))
    intro ring' _ hsame
    obtain ⟨store', hstore', -⟩ := hsame.exists_store hstore
    refine ⟨_, .retried hstore' (by rwa [hsame.holds]), by rw [hsame.index_eq]; rfl, ?_⟩
    rw [hsame.index_eq, changed, hstore']
    rfl
  | queriedOutside hlive =>
    cases hunit
    apply Isolated.idle
    intro ring' hsame
    exact ⟨_, .queriedOutside (by rwa [hsame.holds]), rfl, rfl⟩
  | queriedSettled hslot hsettled =>
    cases hunit
    apply Isolated.idle
    intro ring' hsame
    exact ⟨_, .queriedSettled (hsame.slot? rfl hslot) hsettled, rfl, rfl⟩
  | @queriedWaiting _ _ _ slot hstore hslot hopen hfence =>
    cases hunit
    apply Isolated.revised slot.waiting hslot rfl
    intro ring' hsame hslot'
    obtain ⟨store', hstore', hmemory⟩ := hsame.exists_store hstore
    exact ⟨_, .queriedWaiting hstore' hslot' hopen
      (by rwa [hsame.index_eq, hmemory.fenceNumber]), rfl, rfl⟩
  | @queriedEvaluated _ _ _ _ new hstore hslot hopen hfence hnew hstage =>
    cases hunit
    apply Isolated.revised new hslot (by rw [hnew]; rfl)
    intro ring' hsame hslot'
    obtain ⟨store', hstore', hmemory⟩ := hsame.exists_store hstore
    exact ⟨_, .queriedEvaluated hstore' hslot' hopen
      (by rwa [hsame.index_eq, hmemory.fenceNumber])
      (by rwa [hsame.index_eq, hmemory.readings]) hstage, rfl, rfl⟩
  | @queriedCompleted held _ _ _ new hstore hslot hopen hfence hnew hstage hroom =>
    cases hunit
    apply Isolated.revised new hslot (by rw [hnew]; rfl)
    intro ring' hsame hslot'
    obtain ⟨store', hstore', hmemory⟩ := hsame.exists_store hstore
    have hsilent' : (ring'.revise new).audience.active = [] := by
      rw [← hsilent, ← hsame.audience]
      rfl
    exact ⟨_, .queriedCompleted hstore' hslot' hopen
      (by rwa [hsame.index_eq, hmemory.fenceNumber])
      (by rwa [hsame.index_eq, hmemory.readings]) hstage
      (by rwa [hsame.audience, hsame.refusals]), rfl, told_of_silent hsilent' held _⟩
  | queriedOverflow hstore hslot hopen hfence hnew hstage hfull =>
    cases hunit
    apply Isolated.idle
    intro ring' hsame
    obtain ⟨store', hstore', hmemory⟩ := hsame.exists_store hstore
    exact ⟨_, .queriedOverflow hstore' (hsame.slot? rfl hslot) hopen
      (by rwa [hsame.index_eq, hmemory.fenceNumber])
      (by rwa [hsame.index_eq, hmemory.readings]) hstage
      (by rwa [hsame.audience, hsame.refusals]), rfl, rfl⟩
  | forcedOutside hlive =>
    cases hunit
    apply Isolated.idle
    intro ring' hsame
    exact ⟨_, .forcedOutside (by rwa [hsame.holds]), rfl, rfl⟩
  | disowned hslot =>
    cases hunit
    apply Isolated.idle
    intro ring' hsame
    exact ⟨_, .disowned (hsame.slot? rfl hslot), rfl, rfl⟩
  | forcedSettled hslot hsettled =>
    cases hunit
    apply Isolated.idle
    intro ring' hsame
    exact ⟨_, .forcedSettled (hsame.slot? rfl hslot) hsettled, rfl, rfl⟩
  | @abandoned _ slot hslot hopen =>
    cases hunit
    apply Isolated.revised slot.abandoned hslot rfl
    intro ring' hsame hslot'
    exact ⟨_, .abandoned hslot' hopen, rfl, rfl⟩
  | writeDestroyed hstore =>
    cases hunit
    apply Isolated.idle
    intro ring' hsame
    exact ⟨_, .writeDestroyed (hsame.store_none hstore), rfl, rfl⟩
  | @written engine _ field datum store hstore =>
    cases hunit
    apply Isolated.of_step (.records (Bank.putsAt_withField engine _ field datum))
    intro ring' _ hsame
    obtain ⟨store', hstore', hmemory⟩ := hsame.exists_store hstore
    refine ⟨_, .written hstore', by rw [hmemory.knows]; rfl, ?_⟩
    rw [hsame.index_eq, changed, hstore']
    rfl
  | retireDestroyed hstore =>
    cases hunit
    apply Isolated.idle
    intro ring' hsame
    exact ⟨_, .retireDestroyed (hsame.store_none hstore), rfl, rfl⟩
  | retireOverflow hstore hfull =>
    cases hunit
    apply Isolated.idle
    intro ring' hsame
    obtain ⟨store', hstore', -⟩ := hsame.exists_store hstore
    exact ⟨_, .retireOverflow hstore' hfull, rfl, rfl⟩
  | retired hstore hroom =>
    cases hunit
    apply Isolated.of_step .fence
    intro ring' _ hsame
    obtain ⟨store', hstore', -⟩ := hsame.exists_store hstore
    refine ⟨_, .retired hstore' hroom, by rw [hsame.index_eq]; rfl, ?_⟩
    rw [hsame.index_eq, changed, hstore']
    rfl

theorem Step.isolated_pair {first second : Op} {run run' : Run Ring Reply} (h : ring.WellFormed)
    (hsilent : ring.audience.active = []) (hfirst : first.unit? = some sequence)
    (hsecond : second.unit? = some other) (hapart : ring.index sequence ≠ ring.index other)
    (hstep : Step ring first run) (hstep' : Step ring second run') :
    (ring.next second).answer first = ring.answer first ∧
      (ring.next first).answer second = ring.answer second ∧
      (ring.next first).next second = (ring.next second).next first := by
  obtain ⟨change, hkeeps, hdoes⟩ := hstep.isolated hfirst hsilent
  obtain ⟨change', hkeeps', hdoes'⟩ := hstep'.isolated hsecond hsilent
  obtain ⟨hanswer, hnext⟩ := hdoes ring h (.refl _ ring)
  obtain ⟨hanswer', hnext'⟩ := hdoes' ring h (.refl _ ring)
  have hsame : SameAt (ring.index sequence) ring (ring.next second) := by
    rw [hnext']
    exact sameAt_changed hkeeps' hapart ring
  have hsame' : SameAt (ring.index other) ring (ring.next first) := by
    rw [hnext]
    exact sameAt_changed hkeeps hapart.symm ring
  obtain ⟨hanswerLater, hnextLater⟩ := hdoes _ (h.next second) hsame
  obtain ⟨hanswerLater', hnextLater'⟩ := hdoes' _ (h.next first) hsame'
  refine ⟨hanswerLater.trans hanswer.symm, hanswerLater'.trans hanswer'.symm, ?_⟩
  rw [hnextLater, hnextLater', hnext, hnext']
  exact changed_comm hkeeps hkeeps' hapart ring

/-- Two operations about units with different indices answer the same in either order, and leave
the same ring, if nobody is subscribed to it. -/
theorem operations_commute (hnew : ring.IsNew) (ops : List Op)
    (hsilent : (ring.after ops).audience.active = []) {first second : Op} {a b : Nat}
    (hfirst : first.unit? = some a) (hsecond : second.unit? = some b)
    (hapart : a % ring.capacity ≠ b % ring.capacity) :
    ((ring.after ops).next second).answer first = (ring.after ops).answer first ∧
      ((ring.after ops).next first).answer second = (ring.after ops).answer second ∧
      ((ring.after ops).next first).next second = ((ring.after ops).next second).next first := by
  have h := hnew.wellFormed_after ops
  have hindex : (ring.after ops).index a ≠ (ring.after ops).index b := by
    rw [index, index, capacity_after hnew.wellFormed]
    exact hapart
  exact (step h first).isolated_pair h hsilent hfirst hsecond hindex (step h second)

/-- A ring with two places for one engine. -/
def double : Ring :=
  fresh "ring" 2
    ⟨⟨"ring.fence", .deviceWrites, true, true, .zeroed 16 pageAlignment⟩,
      [⟨⟨0⟩, "engine", .extended,
        ⟨"ring.engine", .deviceWrites, true, true, .zeroed 128 pageAlignment⟩⟩]⟩

lemma isNew_double : double.IsNew :=
  ⟨⟨"ring", 2, [⟨⟨0⟩, "engine", .extended, true⟩]⟩, .new none, _, rfl⟩

/-- A unit is asked for, which comes to be resolved, and the unit after it is given up. -/
theorem operations_commute_double :
    let now := double.after [.begin 7 none, .begin 8 none, .retire 0]
    let query := Op.query (fun _ => true) 0
    let abandon := Op.force 1 false
    now.audience.active = [] ∧ 0 % double.capacity ≠ 1 % double.capacity ∧
      (now.next abandon).answer query = now.answer query ∧
      (now.next query).answer abandon = now.answer abandon ∧
      (now.next query).next abandon = (now.next abandon).next query := by
  intro now query abandon
  have hsilent : now.audience.active = [] := by decide +kernel
  have hapart : 0 % double.capacity ≠ 1 % double.capacity := by decide
  exact ⟨hsilent, hapart, operations_commute isNew_double _ hsilent rfl rfl hapart⟩

end Ring

end CompletionRing
