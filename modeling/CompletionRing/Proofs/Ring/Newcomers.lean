import CompletionRing.Proofs.Ring.Fences
import CompletionRing.Proofs.Ring.Independence
import CompletionRing.Proofs.Ring.Places
import CompletionRing.Proofs.Ring.Shown

/-!
# Nothing shows of the units before

A unit's records are overwritten when it is begun, and no fence word of a unit before it opens its
gate. So what is answered for units from some number on depends on what was done since, whatever
happened to the ring before.
-/

namespace CompletionRing.Ring

/-- Do two rings look the same to units from `first` on? -/
structure AgreesFrom (first : Nat) (ring ring' : Ring) : Prop where
  capacity : ring'.capacity = ring.capacity
  submitted : ring'.submitted = ring.submitted
  slots : ∀ sequence, first ≤ sequence → ring'.slot? sequence = ring.slot? sequence
  destroyed : ring'.store = none ↔ ring.store = none
  layouts : ∀ store store', ring.store = some store → ring'.store = some store' →
    store'.layouts = store.layouts
  stores : ∀ store store', ring.store = some store → ring'.store = some store' →
    ring.Shows first store store'

/-- The unit that an operation asks for or gives up. -/
def Op.asks? : Op → Option Nat
  | .query _ sequence | .force sequence _ => some sequence
  | _ => none

variable {ring ring' ring'' : Ring} {first sequence : Nat} {op : Op} {run : Run Ring Reply}
  {store store' : RecordStore}

namespace AgreesFrom

lemma index (h : AgreesFrom first ring ring') (sequence : Nat) :
    ring'.index sequence = ring.index sequence := index_congr h.capacity sequence

lemma holds (h : AgreesFrom first ring ring') (sequence : Nat) :
    ring'.holds sequence = ring.holds sequence :=
  holds_congr h.capacity h.submitted h.destroyed sequence

lemma exists_store (h : AgreesFrom first ring ring') (hstore : ring.store = some store) :
    ∃ store', ring'.store = some store' ∧ store'.layouts = store.layouts ∧
      ring.Shows first store store' := by
  obtain ⟨store', hstore'⟩ := exists_store_congr h.destroyed hstore
  exact ⟨store', hstore', h.layouts store store' hstore hstore', h.stores store store' hstore hstore'⟩

lemma refl (first : Nat) (ring : Ring) : AgreesFrom first ring ring := by
  have hsame : ∀ store store', ring.store = some store → ring.store = some store' →
      store' = store := by
    intro store store' hstore hstore'
    rw [hstore, Option.some.injEq] at hstore'
    exact hstore'.symm
  refine ⟨rfl, rfl, fun _ _ => rfl, Iff.rfl, ?_, ?_⟩
  · intro store store' hstore hstore'
    rw [hsame store store' hstore hstore']
  · intro store store' hstore hstore'
    rw [hsame store store' hstore hstore']
    exact .refl ring first store

lemma symm (h : AgreesFrom first ring ring') : AgreesFrom first ring' ring := by
  refine ⟨h.capacity.symm, h.submitted.symm, fun sequence hfirst =>
    (h.slots sequence hfirst).symm, h.destroyed.symm, fun store' store hstore' hstore =>
    (h.layouts store store' hstore hstore').symm, ?_⟩
  intro store' store hstore' hstore
  obtain ⟨hlayouts, hvalues, hgates⟩ := h.stores store store' hstore hstore'
  refine ⟨hlayouts.symm, ?_, ?_⟩
  · intro sequence hfirst hlive engine field
    rw [h.holds] at hlive
    rw [h.index]
    exact (hvalues sequence hfirst hlive engine field).symm
  · intro sequence hfirst
    rw [h.index]
    exact (hgates sequence hfirst).symm

lemma trans (h : AgreesFrom first ring ring') (h' : AgreesFrom first ring' ring'') :
    AgreesFrom first ring ring'' := by
  refine ⟨h'.capacity.trans h.capacity, h'.submitted.trans h.submitted,
    fun sequence hfirst => (h'.slots sequence hfirst).trans (h.slots sequence hfirst),
    h'.destroyed.trans h.destroyed, ?_, ?_⟩
  · intro store store'' hstore hstore''
    obtain ⟨store', hstore', hlayouts, -⟩ := h.exists_store hstore
    exact (h'.layouts store' store'' hstore' hstore'').trans hlayouts
  · intro store store'' hstore hstore''
    obtain ⟨store', hstore', -, hlayouts, hvalues, hgates⟩ := h.exists_store hstore
    obtain ⟨hlayouts', hvalues', hgates'⟩ := h'.stores store' store'' hstore' hstore''
    refine ⟨hlayouts'.trans hlayouts, ?_, ?_⟩
    · intro sequence hfirst hlive engine field
      have hvalue' := hvalues' sequence hfirst (by rwa [h.holds]) engine field
      rw [h.index] at hvalue'
      exact hvalue'.trans (hvalues sequence hfirst hlive engine field)
    · intro sequence hfirst
      have hgate' := hgates' sequence hfirst
      rw [h.index] at hgate'
      exact hgate'.trans (hgates sequence hfirst)

lemma of_facing (first : Nat) (ring : Ring) (audience : Audience) (refusals : Nat) :
    AgreesFrom first ring (ring.facing audience refusals) :=
  ⟨rfl, rfl, fun _ _ => rfl, Iff.rfl, (refl first ring).layouts, (refl first ring).stores⟩

end AgreesFrom

/-! ### What is done for older units or for the audience -/

variable {slot before : Slot}

lemma agreesFrom_revise (h : ring.WellFormed) (hslot : ring.slot? sequence = some before)
    (hsame : slot.sequence = before.sequence) (hold : sequence < first) :
    AgreesFrom first ring (ring.revise slot) := by
  refine ⟨rfl, rfl, ?_, Iff.rfl, (AgreesFrom.refl first ring).layouts,
    (AgreesFrom.refl first ring).stores⟩
  intro other hfirst
  have hsequence : slot.sequence = sequence := hsame.trans (h.sequence_eq hslot)
  rw [slot?_revise h (by rwa [hsequence]), hsequence, if_neg (by omega)]

lemma Step.agreesFrom_of_asks (h : ring.WellFormed) (hstep : Step ring op run)
    (hasks : op.asks? = some sequence) (hold : sequence < first) :
    AgreesFrom first ring run.state := by
  cases hstep with
  | queriedOutside | queriedSettled | queriedOverflow | forcedOutside | disowned | forcedSettled =>
    exact .refl first ring
  | queriedWaiting _ hslot =>
    cases hasks
    exact agreesFrom_revise h hslot rfl hold
  | queriedEvaluated _ hslot _ _ hslot' =>
    cases hasks
    exact agreesFrom_revise h hslot (by rw [hslot']; rfl) hold
  | @queriedCompleted held _ _ _ slot' _ hslot _ _ hslot' =>
    cases hasks
    exact (agreesFrom_revise h hslot (by rw [hslot']; rfl) hold).trans
      (.of_facing first (ring.revise slot') _ _)
  | abandoned hslot =>
    cases hasks
    exact agreesFrom_revise h hslot rfl hold
  | _ => cases hasks

lemma Step.agreesFrom_of_audience (hstep : Step ring op run) (hop : op.isAudience) :
    AgreesFrom first ring run.state := by
  rw [hstep.of_isAudience hop]
  exact .of_facing first ring _ _

/-! ### What is done for units from the first one on -/

lemma Shows.followed (h : ring.Shows first store store') (hlayouts : store'.layouts = store.layouts)
    (hfirst : first ≤ slot.sequence) (hlive : ring.holds slot.sequence) :
    Ring.followed store' (ring.index slot.sequence) slot =
      Ring.followed store (ring.index slot.sequence) slot := by
  unfold Ring.followed RecordStore.readings
  simp only [h.gates slot.sequence hfirst, hlayouts, h.value_eq hfirst hlive]

namespace AgreesFrom

lemma revise (h : AgreesFrom first ring ring') (hring : ring.WellFormed) (hring' : ring'.WellFormed)
    (hfirst : first ≤ sequence) (hslot : ring.slot? sequence = some before)
    (hsame : slot.sequence = before.sequence) :
    AgreesFrom first (ring.revise slot) (ring'.revise slot) := by
  refine ⟨h.capacity, h.submitted, ?_, h.destroyed, h.layouts, fun store store' hstore hstore' =>
    (h.stores store store' hstore hstore').of_window rfl fun _ _ => id⟩
  intro other hother
  have hsequence : slot.sequence = sequence := hsame.trans (hring.sequence_eq hslot)
  have hslot' := h.slots sequence hfirst
  rw [hslot] at hslot'
  rw [slot?_revise hring (by rwa [hsequence]), slot?_revise hring' (by rwa [hsequence]),
    h.slots other hother]

lemma asked (h : AgreesFrom first ring ring') (hring : ring.WellFormed) (hring' : ring'.WellFormed)
    (hfirst : first ≤ sequence) :
    AgreesFrom first (ring.asked sequence) (ring'.asked sequence) := by
  by_cases hlive : ring.holds sequence
  · have hlive' : ring'.holds sequence := by rwa [h.holds]
    obtain ⟨slot, hslot, rfl⟩ := hring.exists_slot hlive
    have hslot' : ring'.slot? slot.sequence = some slot := (h.slots _ hfirst).trans hslot
    cases hsettled : slot.stage.isSettled with
    | true =>
      rw [asked_of_settled hslot hsettled, asked_of_settled hslot' hsettled]
      exact h
    | false =>
      obtain ⟨store, hstore⟩ := Ring.exists_store hlive
      obtain ⟨store', hstore', hlayouts, hshows⟩ := h.exists_store hstore
      rw [asked_of_open hstore hslot hsettled, asked_of_open hstore' hslot' hsettled, h.index,
        hshows.followed hlayouts hfirst hlive]
      apply h.revise hring hring' hfirst hslot
      unfold Ring.followed
      split <;> rfl
  · have hlive' : ¬ring'.holds sequence := by rwa [h.holds]
    rw [asked_of_not_holds hlive, asked_of_not_holds hlive']
    exact h

lemma view (h : AgreesFrom first ring ring') (hfirst : first ≤ sequence) :
    ring'.view sequence = ring.view sequence := by
  unfold Ring.view
  rw [h.slots sequence hfirst]

lemma query {held : Frame → Bool} (h : AgreesFrom first ring ring') (hring : ring.WellFormed)
    (hring' : ring'.WellFormed) (hfirst : first ≤ sequence)
    (hreturn : (ring.answer (.query held sequence)).isOk)
    (hreturn' : (ring'.answer (.query held sequence)).isOk) :
    AgreesFrom first (ring.next (.query held sequence)) (ring'.next (.query held sequence)) ∧
      ∃ snapshot, ring.answer (.query held sequence) = .ok (.snapshot snapshot) ∧
        ring'.answer (.query held sequence) = .ok (.snapshot snapshot) := by
  obtain ⟨reply, hreply⟩ := exists_of_isOk hreturn
  obtain ⟨reply', hreply'⟩ := exists_of_isOk hreturn'
  obtain ⟨hstate, hanswer⟩ := (step hring (.query held sequence)).asked hring hreply
  obtain ⟨hstate', hanswer'⟩ := (step hring' (.query held sequence)).asked hring' hreply'
  have hasked := h.asked hring hring' hfirst
  constructor
  · rw [next_eq, next_eq, hstate, hstate']
    exact ((of_facing first _ _ _).symm.trans hasked).trans (of_facing first _ _ _)
  · exact ⟨_, hanswer ▸ hreply, by rw [hreply', hanswer', hasked.view hfirst]⟩

lemma force (h : AgreesFrom first ring ring') (hring : ring.WellFormed) (hring' : ring'.WellFormed)
    (hfirst : first ≤ sequence) (outOfRange : Bool) :
    AgreesFrom first (ring.next (.force sequence outOfRange))
        (ring'.next (.force sequence outOfRange)) ∧
      ∃ snapshot, ring.answer (.force sequence outOfRange) = .ok (.snapshot snapshot) ∧
        ring'.answer (.force sequence outOfRange) = .ok (.snapshot snapshot) := by
  have hslots := h.slots sequence hfirst
  have hstep := step hring (.force sequence outOfRange)
  rw [answer_eq ring, next_eq ring]
  generalize (ring.perform (.force sequence outOfRange)).quiet = run at hstep
  cases hstep with
  | forcedOutside hlive =>
    have hstep' : Step ring' (.force sequence outOfRange) _ :=
      .forcedOutside (by rwa [h.holds])
    rw [hstep'.next hring', hstep'.answer hring']
    exact ⟨h, _, rfl, rfl⟩
  | disowned hslot =>
    have hstep' := Step.disowned (hslots.trans hslot)
    rw [hstep'.next hring', hstep'.answer hring']
    exact ⟨h, _, rfl, rfl⟩
  | forcedSettled hslot hsettled =>
    have hstep' := Step.forcedSettled (hslots.trans hslot) hsettled
    rw [hstep'.next hring', hstep'.answer hring']
    exact ⟨h, _, rfl, rfl⟩
  | abandoned hslot hopen =>
    have hstep' := Step.abandoned (hslots.trans hslot) hopen
    rw [hstep'.next hring', hstep'.answer hring']
    exact ⟨h.revise hring hring' hfirst hslot rfl, _, rfl, rfl⟩

/-! ### What is done to the records and the fence words -/

lemma withStores {new new' : RecordStore} (h : AgreesFrom first ring ring')
    (hstore : ring.store = some store) (hstore' : ring'.store = some store')
    (hlayouts : new'.layouts = new.layouts) (hshows : ring.Shows first new new') :
    AgreesFrom first { ring with store := some new } { ring' with store := some new' } := by
  refine ⟨h.capacity, h.submitted, ?_, ⟨nofun, nofun⟩, ?_, ?_⟩
  · intro sequence hfirst
    rw [slot?_withStore hstore, slot?_withStore hstore', h.slots sequence hfirst]
  · rintro _ _ ⟨⟩ ⟨⟩
    exact hlayouts
  · rintro _ _ ⟨⟩ ⟨⟩
    exact hshows.stored hstore

lemma fits (h : AgreesFrom first ring ring') (hring' : ring'.WellFormed)
    (hstore' : ring'.store = some store') : store'.Fits ring.capacity := by
  rw [← h.capacity]
  exact hring'.fits store' hstore'

lemma prepareRetry (h : AgreesFrom first ring ring') (hring : ring.WellFormed)
    (hring' : ring'.WellFormed) (sequence : Nat) :
    AgreesFrom first (ring.next (.prepareRetry sequence)) (ring'.next (.prepareRetry sequence)) := by
  have hstep := step hring (.prepareRetry sequence)
  rw [next_eq ring]
  generalize (ring.perform (.prepareRetry sequence)).quiet = run at hstep
  cases hstep with
  | retryDestroyed hstore =>
    have hstep' : Step ring' (.prepareRetry sequence) _ :=
      .retryDestroyed (h.destroyed.mpr hstore)
    rw [hstep'.next hring']
    exact h
  | retryStale hstore hlive =>
    obtain ⟨store', hstore', -⟩ := h.exists_store hstore
    have hstep' := Step.retryStale hstore' (by rwa [h.holds])
    rw [hstep'.next hring']
    exact h
  | @retried _ store hstore hlive =>
    obtain ⟨store', hstore', hlayouts, hshows⟩ := h.exists_store hstore
    have hstep' := Step.retried hstore' (by rwa [h.holds])
    rw [hstep'.next hring', Run.state_done, Run.state_done, h.index]
    refine h.withStores hstore hstore' ?_ (hshows.cleared (hring.fits store hstore)
      (h.fits hring' hstore') (hring.index_lt sequence))
    rw [RecordStore.layouts_cleared, RecordStore.layouts_cleared, hlayouts]

lemma write (h : AgreesFrom first ring ring') (hring : ring.WellFormed) (hring' : ring'.WellFormed)
    (engine : Engine) (sequence : Nat) (field : Field) (datum : UInt32) :
    AgreesFrom first (ring.next (.write engine sequence field datum))
      (ring'.next (.write engine sequence field datum)) := by
  have hstep := step hring (.write engine sequence field datum)
  rw [next_eq ring]
  generalize (ring.perform (.write engine sequence field datum)).quiet = run at hstep
  cases hstep with
  | writeDestroyed hstore =>
    have hstep' : Step ring' (.write engine sequence field datum) _ :=
      .writeDestroyed (h.destroyed.mpr hstore)
    rw [hstep'.next hring']
    exact h
  | @written _ _ _ _ store hstore =>
    obtain ⟨store', hstore', hlayouts, hshows⟩ := h.exists_store hstore
    have hstep' : Step ring' (.write engine sequence field datum) _ := .written hstore'
    rw [hstep'.next hring', Run.state_done, Run.state_done, h.index]
    refine h.withStores hstore hstore' ?_ (hshows.withField (hring.fits store hstore)
      (h.fits hring' hstore') (hring.index_lt sequence) engine field datum)
    rw [RecordStore.layouts_withField, RecordStore.layouts_withField, hlayouts]

lemma retire (h : AgreesFrom first ring ring') (hring : ring.WellFormed) (hring' : ring'.WellFormed)
    (sequence : Nat) :
    AgreesFrom first (ring.next (.retire sequence)) (ring'.next (.retire sequence)) := by
  have hstep := step hring (.retire sequence)
  rw [next_eq ring]
  generalize (ring.perform (.retire sequence)).quiet = run at hstep
  cases hstep with
  | retireDestroyed hstore =>
    have hstep' : Step ring' (.retire sequence) _ := .retireDestroyed (h.destroyed.mpr hstore)
    rw [hstep'.next hring']
    exact h
  | retireOverflow hstore hfull =>
    obtain ⟨store', hstore', -⟩ := h.exists_store hstore
    have hstep' := Step.retireOverflow hstore' hfull
    rw [hstep'.next hring']
    exact h
  | @retired _ store hstore hroom =>
    obtain ⟨store', hstore', hlayouts, hshows⟩ := h.exists_store hstore
    have hstep' := Step.retired hstore' hroom
    rw [hstep'.next hring', Run.state_done, Run.state_done, h.index]
    refine h.withStores hstore hstore' ?_ (hshows.withFence (hring.fits store hstore)
      (h.fits hring' hstore') (hring.index_lt sequence) hroom)
    rw [RecordStore.layouts_withFence, RecordStore.layouts_withFence, hlayouts]

lemma destroy (h : AgreesFrom first ring ring') (hring : ring.WellFormed)
    (hring' : ring'.WellFormed) (pool : Pool) :
    AgreesFrom first (ring.next (.destroy pool)) (ring'.next (.destroy pool)) := by
  have hstep := step hring (.destroy pool)
  rw [next_eq ring]
  generalize (ring.perform (.destroy pool)).quiet = run at hstep
  cases hstep with
  | destroyedAgain hstore =>
    have hstep' : Step ring' (.destroy pool) _ := .destroyedAgain (h.destroyed.mpr hstore)
    rw [hstep'.next hring']
    exact h
  | destroyed hstore =>
    obtain ⟨store', hstore', -⟩ := h.exists_store hstore
    have hstep' : Step ring' (.destroy pool) _ := .destroyed hstore'
    rw [hstep'.next hring']
    refine ⟨h.capacity, h.submitted, ?_, ⟨fun _ => rfl, fun _ => rfl⟩, nofun, nofun⟩
    intro sequence _
    rw [slot?_eq_none (not_holds_of_store_none rfl), slot?_eq_none (not_holds_of_store_none rfl)]

/-! ### What is begun -/

lemma begun (h : AgreesFrom first ring ring') (hring : ring.WellFormed) (hring' : ring'.WellFormed)
    (hstore : ring.store = some store) (hstore' : ring'.store = some store')
    (number : UInt32) (frame : Option Frame) :
    AgreesFrom first (ring.begun store number frame) (ring'.begun store' number frame) := by
  have hshows := h.stores store store' hstore hstore'
  have hindex : ring'.index ring'.submitted = ring.index ring.submitted := by
    rw [h.index, h.submitted]
  have hholds : ∀ sequence, (ring'.begun store' number frame).holds sequence =
      (ring.begun store number frame).holds sequence :=
    holds_congr h.capacity (congrArg (· + 1) h.submitted) ⟨nofun, nofun⟩
  refine ⟨h.capacity, congrArg (· + 1) h.submitted, ?_, ⟨nofun, nofun⟩, ?_, ?_⟩
  · intro sequence hfirst
    by_cases hlive : (ring.begun store number frame).holds sequence
    · rw [slot?_begun hring hstore number frame hlive,
        slot?_begun hring' hstore' number frame (by rwa [hholds]), h.submitted, h.slots _ hfirst]
    · rw [slot?_eq_none hlive, slot?_eq_none (by rwa [hholds])]
  · rintro _ _ ⟨⟩ ⟨⟩
    rw [RecordStore.layouts_primed, RecordStore.layouts_primed, h.layouts store store' hstore hstore']
  · rintro _ _ ⟨⟩ ⟨⟩
    rw [hindex]
    exact hshows.begun hring hstore (h.fits hring' hstore') number frame

lemma begin (h : AgreesFrom first ring ring') (hring : ring.WellFormed) (hring' : ring'.WellFormed)
    (number : UInt32) (frame : Option Frame) :
    AgreesFrom first (ring.next (.begin number frame)) (ring'.next (.begin number frame)) := by
  have hstep := step hring (.begin number frame)
  rw [next_eq ring]
  generalize (ring.perform (.begin number frame)).quiet = run at hstep
  cases hstep with
  | beginDestroyed hstore =>
    have hstep' : Step ring' (.begin number frame) _ := .beginDestroyed (h.destroyed.mpr hstore)
    rw [hstep'.next hring']
    exact h
  | beginOverflow hstore hfull =>
    obtain ⟨store', hstore', -⟩ := h.exists_store hstore
    have hstep' : Step ring' (.begin number frame) _ :=
      .beginOverflow hstore' (by rwa [h.submitted])
    rw [hstep'.next hring']
    exact h
  | began hstore hroom =>
    obtain ⟨store', hstore', -⟩ := h.exists_store hstore
    have hstep' : Step ring' (.begin number frame) _ := .began hstore' (by rwa [h.submitted])
    rw [hstep'.next hring']
    exact h.begun hring hring' hstore hstore' number frame

/-! ### Two runs -/

theorem next (h : AgreesFrom first ring ring') (hring : ring.WellFormed) (hring' : ring'.WellFormed)
    (op : Op) (hreturn : ∀ held sequence, op = .query held sequence → (ring.answer op).isOk)
    (hreturn' : ∀ held sequence, op = .query held sequence → (ring'.answer op).isOk) :
    AgreesFrom first (ring.next op) (ring'.next op) ∧
      ∀ sequence, op.asks? = some sequence → first ≤ sequence →
        ∃ snapshot, ring.answer op = .ok (.snapshot snapshot) ∧
          ring'.answer op = .ok (.snapshot snapshot) := by
  by_cases hasks : ∃ sequence, op.asks? = some sequence
  · obtain ⟨sequence, hasks⟩ := hasks
    by_cases hfirst : first ≤ sequence
    · cases op with
      | query held sequence =>
        cases hasks
        obtain ⟨hnext, hanswer⟩ := h.query hring hring' hfirst (hreturn held _ rfl)
          (hreturn' held _ rfl)
        exact ⟨hnext, fun _ _ _ => hanswer⟩
      | force sequence outOfRange =>
        cases hasks
        obtain ⟨hnext, hanswer⟩ := h.force hring hring' hfirst outOfRange
        exact ⟨hnext, fun _ _ _ => hanswer⟩
      | _ => cases hasks
    · have hold := Nat.lt_of_not_le hfirst
      constructor
      · rw [next_eq, next_eq]
        exact (((step hring op).agreesFrom_of_asks hring hasks hold).symm.trans h).trans
          ((step hring' op).agreesFrom_of_asks hring' hasks hold)
      · intro other hother hfirst'
        rw [hasks, Option.some.injEq] at hother
        omega
  · refine ⟨?_, fun sequence hsequence _ => absurd ⟨sequence, hsequence⟩ hasks⟩
    have haudience : op.isAudience → AgreesFrom first (ring.next op) (ring'.next op) := by
      intro hop
      rw [next_eq, next_eq]
      exact (((step hring op).agreesFrom_of_audience hop).symm.trans h).trans
        ((step hring' op).agreesFrom_of_audience hop)
    cases op with
    | query | force => exact absurd ⟨_, rfl⟩ hasks
    | audience | cancel => exact haudience rfl
    | begin number frame => exact h.begin hring hring' number frame
    | prepareRetry sequence => exact h.prepareRetry hring hring' sequence
    | destroy pool => exact h.destroy hring hring' pool
    | write engine sequence field datum => exact h.write hring hring' engine sequence field datum
    | retire sequence => exact h.retire hring hring' sequence

end AgreesFrom

lemma Gated.fenceNumber_le {retired : List Nat} (h : ring.WellFormed) (hgated : ring.Gated retired)
    (hstore : ring.store = some store) (sequence : Nat) :
    store.fenceNumber (ring.index sequence) ≤ ring.submitted := by
  rw [hgated.fences store hstore _ (h.index_lt sequence)]
  cases hlast : ring.lastAt? retired (ring.index sequence) with
  | none => exact Nat.zero_le _
  | some last => exact hgated.begun last (of_lastAt? hlast).1

/-- Rings for one setup that are equally far agree on all units to come. -/
lemma agreesFrom_of_gated {setup : RingSetup} {retired retired' : List Nat}
    (h : ring.WellFormed) (h' : ring'.WellFormed) (hmade : ring.MadeFor setup)
    (hmade' : ring'.MadeFor setup) (hgated : ring.Gated retired) (hgated' : ring'.Gated retired')
    (hlive : ring.isDestroyed = false) (hlive' : ring'.isDestroyed = false)
    (hsubmitted : ring'.submitted = ring.submitted) :
    AgreesFrom ring.submitted ring ring' := by
  have hcapacity : ring'.capacity = ring.capacity := hmade'.capacity.trans hmade.capacity.symm
  have hdead : ∀ sequence, ring.submitted ≤ sequence → ¬ring.holds sequence := by
    intro sequence hnew hholds
    obtain ⟨-, hbegun, -⟩ := holds_iff.mp hholds
    omega
  have hdead' : ∀ sequence, ring.submitted ≤ sequence → ¬ring'.holds sequence := by
    intro sequence hnew hholds
    obtain ⟨-, hbegun, -⟩ := holds_iff.mp hholds
    omega
  have hlayouts : ∀ store store', ring.store = some store → ring'.store = some store' →
      store'.layouts = store.layouts := by
    intro store store' hstore hstore'
    rw [hmade.layouts hstore, hmade'.layouts hstore']
  refine ⟨hcapacity, hsubmitted, ?_, ?_, hlayouts, ?_⟩
  · intro sequence hnew
    rw [slot?_eq_none (hdead sequence hnew), slot?_eq_none (hdead' sequence hnew)]
  · rw [← Option.isNone_iff_eq_none, ← Option.isNone_iff_eq_none]
    exact ⟨fun hnone => absurd hnone (by rw [← isDestroyed, hlive']; decide),
      fun hnone => absurd hnone (by rw [← isDestroyed, hlive]; decide)⟩
  · intro store store' hstore hstore'
    refine ⟨.of_eq (hlayouts store store' hstore hstore'), ?_, ?_⟩
    · intro sequence hnew hholds
      exact absurd hholds (hdead sequence hnew)
    · -- No fence word is beyond the units begun, so both gates are closed to those to come.
      intro sequence hnew
      have hindex := index_congr hcapacity sequence
      have hfence := hgated.fenceNumber_le h hstore sequence
      have hfence' := hgated'.fenceNumber_le h' hstore' sequence
      rw [hindex] at hfence'
      omega

/-- Two entries of two runs with the same operation and, if it asks for a unit from `first` on or
gives one up, the same snapshot for an answer. -/
def Entry.SameFrom (first : Nat) (entry entry' : Entry) : Prop :=
  entry'.op = entry.op ∧ ∀ sequence, entry.op.asks? = some sequence → first ≤ sequence →
    ∃ snapshot, entry.answer = .ok (.snapshot snapshot) ∧ entry'.answer = .ok (.snapshot snapshot)

lemma AgreesFrom.entries (h : AgreesFrom first ring ring') (hring : ring.WellFormed)
    (hring' : ring'.WellFormed) (ops : List Op) (hreturn : QueriesReturn (ring.entries ops))
    (hreturn' : QueriesReturn (ring'.entries ops)) :
    List.Forall₂ (Entry.SameFrom first) (ring.entries ops) (ring'.entries ops) := by
  induction ops generalizing ring ring' with
  | nil => exact .nil
  | cons op rest ih =>
    obtain ⟨hnext, hanswer⟩ := h.next hring hring' op
      (fun held sequence hop => hreturn _ List.mem_cons_self held sequence hop)
      (fun held sequence hop => hreturn' _ List.mem_cons_self held sequence hop)
    refine .cons ⟨rfl, hanswer⟩ (ih hnext (hring.next op) (hring'.next op) ?_ ?_)
    · exact fun entry hmem => hreturn entry (List.mem_cons_of_mem _ hmem)
    · exact fun entry hmem => hreturn' entry (List.mem_cons_of_mem _ hmem)

/-- What was done to a ring shows in no unit that is begun later. Two rings for one setup that have
begun equally many units, and let only begun units retire, answer alike for all units to come,
whatever is done to both from then on. -/
theorem history_forgotten {setup : RingSetup} {pool pool' spare spare' : Pool} {ring ring' : Ring}
    (hcreate : (create setup pool).result = .ok (.ok ring, spare))
    (hcreate' : (create setup pool').result = .ok (.ok ring', spare')) (ops ops' : List Op)
    (hbegun : ring.retiresBegun ops) (hbegun' : ring'.retiresBegun ops')
    (hlive : (ring.after ops).isDestroyed = false)
    (hlive' : (ring'.after ops').isDestroyed = false)
    (hsubmitted : (ring'.after ops').submitted = (ring.after ops).submitted) (later : List Op)
    (hreturn : QueriesReturn ((ring.after ops).entries later))
    (hreturn' : QueriesReturn ((ring'.after ops').entries later)) :
    List.Forall₂ (Entry.SameFrom (ring.after ops).submitted) ((ring.after ops).entries later)
      ((ring'.after ops').entries later) := by
  have hnew : ring.IsNew := ⟨setup, pool, spare, hcreate⟩
  have hnew' : ring'.IsNew := ⟨setup, pool', spare', hcreate'⟩
  have h := hnew.wellFormed_after ops
  have h' := hnew'.wellFormed_after ops'
  have hagrees := agreesFrom_of_gated h h' (madeFor_after hcreate ops) (madeFor_after hcreate' ops')
    (hnew.gated_after hbegun) (hnew'.gated_after hbegun') hlive hlive' hsubmitted
  exact hagrees.entries h h' later hreturn hreturn'

/-- A unit fails and the ring is told so. -/
def failure : List Op :=
  [.begin 7 none, .write ⟨0⟩ 0 .marker doneMarker, .write ⟨0⟩ 0 .error 1, .retire 0,
    .query (fun _ => true) 0]

/-- A unit follows in the same place, and is asked for before and after it retires. -/
def successor : List Op :=
  [.begin 8 none, .query (fun _ => true) 1, .retire 1, .query (fun _ => true) 1]

theorem history_forgotten_single :
    List.Forall₂ (Entry.SameFrom 1) ((single.after failure).entries successor)
      ((single.after [.begin 9 none]).entries successor) := by
  have hcreate : (create ⟨"ring", 1, [⟨⟨0⟩, "engine", .compact, true⟩]⟩ (.new none)).result =
      .ok (.ok single, _) := rfl
  apply history_forgotten hcreate hcreate failure [.begin 9 none] rfl rfl rfl rfl rfl successor
  · intro entry hmem held sequence _
    exact List.all_eq_true.mp
      (rfl : ((single.after failure).entries successor).all (·.answer.isOk) = true) entry hmem
  · intro entry hmem held sequence _
    exact List.all_eq_true.mp
      (rfl : ((single.after [.begin 9 none]).entries successor).all (·.answer.isOk) = true) entry
      hmem

end CompletionRing.Ring
