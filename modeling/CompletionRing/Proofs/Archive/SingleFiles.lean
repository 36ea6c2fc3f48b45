import CompletionRing.Proofs.Archive.Mirrors
import CompletionRing.Proofs.Ring.Announcements
import CompletionRing.Proofs.Ring.LateRetirement

/-!
# The file on one unit

Whatever is done to a ring, what it has at the index of a live unit is a file on this unit. The
file stays as it is, but for what queries find out, as long as the unit is neither prepared for a
retry nor given up and the device writes to other indices only. Units that were evicted need not
be left alone for this, so a ring can keep a file although it mirrors no archive.
-/

namespace CompletionRing

namespace Dossier

lemma asked_asked (dossier : Dossier) (engines : List (Engine × Layout)) :
    (dossier.asked engines).asked engines = dossier.asked engines := by
  by_cases hsettled : dossier.slot.stage.isSettled
  · have hasked : dossier.asked engines = dossier := if_pos hsettled
    rw [hasked, hasked]
  · by_cases hretired : dossier.retired
    · have hasked : dossier.asked engines =
          { dossier with slot := dossier.slot.evaluated (dossier.reports engines) } := by
        rw [asked, if_neg hsettled, if_pos hretired]
      rw [hasked, asked]
      split_ifs <;> rfl
    · have hasked : dossier.asked engines = { dossier with slot := dossier.slot.waiting } := by
        rw [asked, if_neg hsettled, if_neg hretired]
      rw [hasked, asked, if_neg hretired]
      rfl

lemma asked_same (dossier : Dossier) (engines : List (Engine × Layout)) :
    (dossier.asked engines).fields = dossier.fields ∧
      (dossier.asked engines).retired = dossier.retired := by
  unfold asked
  split_ifs <;> exact ⟨rfl, rfl⟩

end Dossier

namespace Ring

/-- Does an operation keep its hands off a unit, and the device off the index of the unit? -/
def Op.spares (capacity sequence : Nat) : Op → Bool
  | .prepareRetry other | .force other _ => other ≠ sequence
  | .write _ other _ _ | .retire other => other % capacity ≠ sequence % capacity
  | _ => true

/-- Is this the file on a live unit? -/
structure OnFile (ring : Ring) (engines : List (Engine × Layout)) (sequence : Nat)
    (dossier : Dossier) : Prop where
  slot : ring.slot? sequence = some dossier.slot
  layouts : ∀ store, ring.store = some store → store.layouts = engines
  records : ∀ store, ring.store = some store →
    dossier.Records store (ring.index sequence) sequence

variable {ring : Ring} {op : Op} {run : Run Ring Reply} {engines : List (Engine × Layout)}
  {sequence : Nat} {dossier : Dossier} {store : RecordStore} {slot : Slot}

lemma OnFile.holds (hfile : ring.OnFile engines sequence dossier) : ring.holds sequence :=
  (slot?_eq_some_iff.mp hfile.slot).1

lemma exists_onFile (hstore : ring.store = some store) (hslot : ring.slot? sequence = some slot) :
    ∃ dossier, ring.OnFile store.layouts sequence dossier ∧ dossier.slot = slot := by
  obtain ⟨retired, hretired⟩ : ∃ retired : Bool,
      sequence < store.fenceNumber (ring.index sequence) ↔ retired := ⟨_, decide_eq_true_iff.symm⟩
  have hstores : ∀ store', ring.store = some store' → store' = store := by
    intro store' hstore'
    exact Option.some.inj (hstore'.symm.trans hstore)
  refine ⟨⟨slot, fun engine => store.value engine (ring.index sequence), retired⟩, ?_, rfl⟩
  constructor
  · exact hslot
  · intro store' hstore'
    rw [hstores store' hstore']
  · intro store' hstore'
    rw [hstores store' hstore']
    exact ⟨hretired, fun _ _ _ => rfl⟩

/-! ### Operations on the unit -/

lemma OnFile.withStore (hfile : ring.OnFile engines sequence dossier)
    (hstore : ring.store = some store) {store' : RecordStore} {dossier' : Dossier}
    (hslot : dossier'.slot = dossier.slot) (hlayouts : store'.layouts = store.layouts)
    (hrecords : dossier'.Records store' (ring.index sequence) sequence) :
    { ring with store := some store' }.OnFile engines sequence dossier' where
  slot := by
    rw [slot?_withStore hstore, hslot]
    exact hfile.slot
  layouts := by
    rintro _ ⟨⟩
    exact hlayouts.trans (hfile.layouts store hstore)
  records := by
    rintro _ ⟨⟩
    exact hrecords

lemma OnFile.cleared (h : ring.WellFormed) (hfile : ring.OnFile engines sequence dossier) :
    (ring.next (.prepareRetry sequence)).OnFile engines sequence dossier.cleared := by
  obtain ⟨store, hstore⟩ := exists_store hfile.holds
  have hstep : Step ring (.prepareRetry sequence) _ := .retried hstore hfile.holds
  rw [hstep.next h]
  exact hfile.withStore hstore rfl (RecordStore.layouts_cleared _ _)
    ((hfile.records store hstore).cleared (h.fits store hstore) (h.index_lt sequence))

lemma OnFile.write (h : ring.WellFormed) (hfile : ring.OnFile engines sequence dossier)
    (hstore : ring.store = some store) (engine : Engine) (field : Field) (datum : UInt32) :
    (ring.next (.write engine sequence field datum)).OnFile engines sequence
      (if store.knows engine field then dossier.withField engine field datum else dossier) := by
  have hslot : (if store.knows engine field then dossier.withField engine field datum
      else dossier).slot = dossier.slot := by
    split <;> rfl
  rw [next_write h hstore]
  exact hfile.withStore hstore hslot (RecordStore.layouts_withField _ _ _ _ _)
    ((hfile.records store hstore).write (h.fits store hstore) (h.index_lt sequence) engine field
      datum)

lemma OnFile.retire (h : ring.WellFormed) (hfile : ring.OnFile engines sequence dossier) :
    (ring.next (.retire sequence)).OnFile engines sequence { dossier with retired := true } := by
  obtain ⟨store, hstore⟩ := exists_store hfile.holds
  have hroom := h.succ_lt hfile.holds
  rw [next_retire h hstore hroom]
  exact hfile.withStore hstore rfl (RecordStore.layouts_withFence _ _ _)
    ((hfile.records store hstore).withFence (h.fits store hstore) (h.index_lt sequence) hroom)

lemma OnFile.query (h : ring.WellFormed) (hfile : ring.OnFile engines sequence dossier)
    (held : Frame → Bool) :
    ring.answer (.query held sequence) =
        .ok (.snapshot (dossier.asked engines).slot.snapshot) ∨
      ring.answer (.query held sequence) = .error .overflow ∧
        (dossier.asked engines).slot.stage = .completed ∧
        UInt64.size ≤ ring.refusals + refusalsIn (ring.events (.query held sequence)) := by
  obtain ⟨store, hstore⟩ := exists_store hfile.holds
  have hrecords := hfile.records store hstore
  have hlayouts := hfile.layouts store hstore
  have hstep := step h (.query held sequence)
  rw [answer_eq]
  cases hopen : dossier.slot.stage.isSettled with
  | true =>
    left
    rw [hstep.query_of_settled hfile.slot hopen, Dossier.asked, if_pos hopen]
  | false =>
    have hanswer := hstep.query_of_open hstore hfile.slot hopen
    by_cases hfence : sequence < store.fenceNumber (ring.index sequence)
    · have hasked := hrecords.asked hopen hfence
      rw [hlayouts] at hasked
      rw [if_pos hfence] at hanswer
      rw [hasked]
      rcases hstep.answer_query h with hview | ⟨hfault, hsame⟩
      · left
        rw [hview] at hanswer ⊢
        unfold verdict at hanswer
        split at hanswer
        · cases hanswer
        · exact hanswer
      · right
        have hoverflow := hstep.query_overflow hfault
        rw [hsame] at hoverflow
        rw [events_refusals]
        rw [hfault] at hanswer
        unfold verdict at hanswer
        split at hanswer
        · next hfull => exact ⟨hfault, hfull.1, hoverflow⟩
        · cases hanswer
    · left
      have hretired : ¬dossier.retired := mt hrecords.retired.mpr hfence
      rw [hanswer, if_neg hfence, Dossier.asked, hopen, if_neg Bool.false_ne_true,
        if_neg hretired]

/-! ### Operations on other units -/

lemma index_ne_of_spared {other : Nat} (hspares : decide (other % ring.capacity ≠
    sequence % ring.capacity)) : ring.index sequence ≠ ring.index other :=
  Ne.symm (of_decide_eq_true hspares)

lemma Step.records_spared (h : ring.WellFormed) (hstep : Step ring op run)
    (hfile : ring.OnFile engines sequence dossier) (hspares : op.spares ring.capacity sequence)
    (hlive : run.state.holds sequence) (hstore : run.state.store = some store) :
    store.layouts = engines ∧ dossier.Records store (ring.index sequence) sequence := by
  cases hstep with
  | @began _ _ store₀ hstore₀ =>
    cases hstore
    have hbegun := (holds_iff.mp hfile.holds).2.1
    have hyoung := (holds_iff.mp hlive).2.2
    have hindex := Mirrors.index_ne_next h hbegun hyoung
    refine ⟨(store₀.layouts_primed _).trans (hfile.layouts store₀ hstore₀), ?_⟩
    apply (hfile.records store₀ hstore₀).frame (store₀.layouts_primed _)
      (store₀.fenceNumber_primed _ _)
    intro engine _ field
    rw [RecordStore.value_primed (h.fits store₀ hstore₀) (h.index_lt _), if_neg]
    rintro ⟨he, -⟩
    exact hindex he.symm
  | @retried other store₀ hstore₀ hother =>
    cases hstore
    have hindex : ring.index sequence ≠ ring.index other := by
      intro he
      exact of_decide_eq_true hspares (index_inj hfile.holds hother he).symm
    refine ⟨(store₀.layouts_cleared _).trans (hfile.layouts store₀ hstore₀), ?_⟩
    apply (hfile.records store₀ hstore₀).frame (store₀.layouts_cleared _)
      (store₀.fenceNumber_cleared _ _)
    intro engine _ field
    rw [RecordStore.value_cleared (h.fits store₀ hstore₀) (h.index_lt _), if_neg hindex]
  | @written _ other _ _ store₀ hstore₀ =>
    cases hstore
    have hindex : ring.index sequence ≠ ring.index other := index_ne_of_spared hspares
    refine ⟨(store₀.layouts_withField _ _ _ _).trans (hfile.layouts store₀ hstore₀), ?_⟩
    apply (hfile.records store₀ hstore₀).frame (store₀.layouts_withField _ _ _ _)
      (store₀.fenceNumber_withField _ _ _ _ _)
    intro engine _ field
    rw [RecordStore.value_withField (h.fits store₀ hstore₀) (h.index_lt _), if_neg]
    rintro ⟨-, he, -⟩
    exact hindex he
  | @retired other store₀ hstore₀ =>
    cases hstore
    have hindex : ring.index sequence ≠ ring.index other := index_ne_of_spared hspares
    refine ⟨(store₀.layouts_withFence _ _).trans (hfile.layouts store₀ hstore₀), ?_⟩
    apply (hfile.records store₀ hstore₀).frame (store₀.layouts_withFence _ _)
      (store₀.fenceNumber_withFence_of_ne _ hindex)
    intro engine _ field
    exact store₀.value_withFence _ _ _ _ _
  | destroyed => cases hstore
  | _ => exact ⟨hfile.layouts store hstore, hfile.records store hstore⟩

lemma Step.slot_spared (h : ring.WellFormed) (hstep : Step ring op run)
    (hfile : ring.OnFile engines sequence dossier) (hspares : op.spares ring.capacity sequence)
    (hlive : run.state.holds sequence) :
    run.state.slot? sequence = some dossier.slot ∨
      run.state.slot? sequence = some (dossier.asked engines).slot := by
  obtain ⟨slot', hslot', -⟩ := (hstep.wellFormed h).exists_slot hlive
  rcases hstep.slot?_origin h hslot' with hsame | ⟨hnew, -⟩ | ⟨slot, hslot, hopen, -, hrevision⟩
  · left
    rw [hslot', ← hsame, hfile.slot]
  · have hbegun := (holds_iff.mp hfile.holds).2.1
    omega
  · right
    obtain rfl : slot = dossier.slot := Option.some.inj (hslot.symm.trans hfile.slot)
    rw [hslot']
    cases hrevision with
    | waiting hstore hfence =>
      have hretired : ¬dossier.retired := mt (hfile.records _ hstore).retired.mpr hfence
      rw [Dossier.asked, hopen, if_neg Bool.false_ne_true, if_neg hretired]
    | evaluated hstore hfence =>
      have hasked := (hfile.records _ hstore).asked hopen hfence
      rw [hfile.layouts _ hstore] at hasked
      rw [hasked]
    | abandoned => exact absurd rfl (of_decide_eq_true hspares)

/-- A step that spares a live unit leaves its file alone, or puts on file what it says. -/
theorem Step.onFile_spared (h : ring.WellFormed) (hstep : Step ring op run)
    (hfile : ring.OnFile engines sequence dossier) (hspares : op.spares ring.capacity sequence)
    (hlive : run.state.holds sequence) :
    run.state.OnFile engines sequence dossier ∨
      run.state.OnFile engines sequence (dossier.asked engines) := by
  have hrecords : ∀ store, run.state.store = some store →
      store.layouts = engines ∧ dossier.Records store (run.state.index sequence) sequence := by
    intro store hstore
    rw [index_congr hstep.forward.1]
    exact hstep.records_spared h hfile hspares hlive hstore
  rcases hstep.slot_spared h hfile hspares hlive with hslot | hslot
  · exact Or.inl ⟨hslot, fun store hstore => (hrecords store hstore).1,
      fun store hstore => (hrecords store hstore).2⟩
  · right
    obtain ⟨hfields, hretired⟩ := dossier.asked_same engines
    refine ⟨hslot, fun store hstore => (hrecords store hstore).1, ?_⟩
    intro store hstore
    have hbefore := (hrecords store hstore).2
    constructor
    · rw [hretired]
      exact hbefore.retired
    · rw [hfields]
      exact hbefore.fields

lemma holds_of_after (h : ring.WellFormed) (hbegun : sequence < ring.submitted) {ops : List Op}
    (hlive : (ring.after ops).holds sequence) : ring.holds sequence := by
  by_contra hdead
  exact (gone_after h (gone_of_not_holds hbegun hdead) ops).2.not_holds hlive

/-- While a unit is spared and stays live, its file is the same, up to what a query puts there. -/
theorem OnFile.after (h : ring.WellFormed) (hfile : ring.OnFile engines sequence dossier)
    {ops : List Op} (hspares : ∀ op ∈ ops, op.spares ring.capacity sequence)
    (hlive : (ring.after ops).holds sequence) :
    (ring.after ops).OnFile engines sequence dossier ∨
      (ring.after ops).OnFile engines sequence (dossier.asked engines) := by
  induction ops generalizing ring dossier with
  | nil => exact Or.inl hfile
  | cons op rest ih =>
    have hstep := step h op
    have hnext := h.next op
    have hrest : ∀ op' ∈ rest, op'.spares (ring.next op).capacity sequence := by
      intro op' hmem
      rw [next_eq, hstep.forward.1]
      exact hspares op' (List.mem_cons_of_mem _ hmem)
    have hbegun : sequence < (ring.next op).submitted :=
      Nat.lt_of_lt_of_le (holds_iff.mp hfile.holds).2.1 hstep.forward.2.1
    have hlive' : (ring.next op).holds sequence := holds_of_after hnext hbegun hlive
    rcases hstep.onFile_spared h hfile (hspares op List.mem_cons_self) hlive' with hsame | hasked
    · exact ih hnext hsame hrest hlive
    · have hafter := ih hnext hasked hrest hlive
      rw [Dossier.asked_asked] at hafter
      exact Or.inr (or_self_iff.mp hafter)

end Ring

end CompletionRing
