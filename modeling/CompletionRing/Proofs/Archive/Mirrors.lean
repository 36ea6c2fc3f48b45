import CompletionRing.Proofs.Archive.Basic
import CompletionRing.Proofs.Ring.Slots

/-!
# Rings mirror archives

A ring mirrors an archive if the slots and the records of the window are those of the files, and
no fence word is ahead of the units begun. What a step does to one unit keeps this up, since no
other live unit has the same index.
-/

namespace CompletionRing

/-- Is the file of a unit what the store has at an index? -/
structure Dossier.Records (dossier : Dossier) (store : RecordStore) (index sequence : Nat) :
    Prop where
  retired : sequence < store.fenceNumber index ↔ dossier.retired
  fields : ∀ engine ∈ store.engines, ∀ field,
    store.value engine index field = dossier.fields engine field

lemma Dossier.Records.frame {dossier : Dossier} {store store' : RecordStore} {index sequence : Nat}
    (h : dossier.Records store index sequence) (hlayouts : store'.layouts = store.layouts)
    (hfence : store'.fenceNumber index = store.fenceNumber index)
    (hvalue : ∀ engine ∈ store.engines, ∀ field,
      store'.value engine index field = store.value engine index field) :
    dossier.Records store' index sequence := by
  constructor
  · rw [hfence]
    exact h.retired
  · intro engine hengine field
    rw [RecordStore.engines_congr hlayouts] at hengine
    rw [hvalue engine hengine field]
    exact h.fields engine hengine field

namespace Dossier.Records

variable {dossier : Dossier} {store : RecordStore} {capacity index sequence : Nat}

lemma cleared (h : dossier.Records store index sequence) (hfits : store.Fits capacity)
    (hi : index < capacity) : dossier.cleared.Records (store.cleared index) index sequence := by
  constructor
  · rw [RecordStore.fenceNumber_cleared]
    exact h.retired
  · intro engine _ field
    rw [RecordStore.value_cleared hfits hi, if_pos rfl]
    rfl

lemma withField (h : dossier.Records store index sequence) (hfits : store.Fits capacity)
    (hi : index < capacity) {engine : Engine} {field : Field} (hknows : store.knows engine field)
    (datum : UInt32) : (dossier.withField engine field datum).Records
      (store.withField engine index field datum) index sequence := by
  have hlayouts := RecordStore.layouts_withField store engine index field datum
  constructor
  · rw [RecordStore.fenceNumber_withField]
    exact h.retired
  · intro engine' hengine field'
    rw [RecordStore.engines_congr hlayouts] at hengine
    have hbefore := h.fields engine' hengine field'
    rw [RecordStore.value_withField hfits hi, hbefore]
    simp only [hknows, true_and, and_true]
    rfl

lemma write (h : dossier.Records store index sequence) (hfits : store.Fits capacity)
    (hi : index < capacity) (engine : Engine) (field : Field) (datum : UInt32) :
    (if store.knows engine field then dossier.withField engine field datum else dossier).Records
      (store.withField engine index field datum) index sequence := by
  by_cases hknows : store.knows engine field
  · rw [if_pos hknows]
    exact h.withField hfits hi hknows datum
  · rw [if_neg hknows, RecordStore.withField_of_not_knows hfits (Bool.eq_false_iff.mpr hknows)]
    exact h

lemma withFence (h : dossier.Records store index sequence) (hfits : store.Fits capacity)
    (hi : index < capacity) (hroom : sequence + 1 < UInt64.size) :
    { dossier with retired := true }.Records (store.withFence index (sequence + 1)) index
      sequence := by
  constructor
  · rw [RecordStore.fenceNumber_withFence hfits hi hroom, if_pos rfl]
    simp
  · intro engine hengine field
    rw [RecordStore.engines_congr (RecordStore.layouts_withFence _ _ _)] at hengine
    rw [RecordStore.value_withFence]
    exact h.fields engine hengine field

lemma readings_eq (h : dossier.Records store index sequence) :
    store.readings index = dossier.reports store.layouts := by
  unfold RecordStore.readings Dossier.reports
  apply List.map_congr_left
  rintro ⟨engine, layout⟩ hmem
  have hengine : engine ∈ store.engines := by
    rw [RecordStore.engines_eq_layouts]
    exact List.mem_map_of_mem hmem
  have hfields : store.value engine index = dossier.fields engine := by
    funext field
    exact h.fields engine hengine field
  simp only [hfields]

lemma asked (h : dossier.Records store index sequence) (hopen : dossier.slot.stage.isSettled = false)
    (hfence : sequence < store.fenceNumber index) : dossier.asked store.layouts =
      { dossier with slot := dossier.slot.evaluated (store.readings index) } := by
  unfold Dossier.asked
  rw [hopen, if_neg Bool.false_ne_true, if_pos (h.retired.mp hfence), h.readings_eq]

end Dossier.Records

structure Ring.Mirrors (ring : Ring) (archive : Archive) : Prop where
  name : archive.name = ring.name
  window : archive.window = ring.capacity
  submitted : archive.dossiers.length = ring.submitted
  destroyed : archive.destroyed = ring.isDestroyed
  audience : archive.audience = ring.audience
  refusals : archive.refusals = ring.refusals
  outstanding : ring.reported + archive.outstanding = ring.submitted
  layouts : ∀ store, ring.store = some store → store.layouts = archive.engines
  fences : ∀ store, ring.store = some store → ∀ index, store.fenceNumber index ≤ ring.submitted
  /-- The slots of the window are those of the files, also after the ring was destroyed. -/
  slots : ∀ sequence dossier, archive.dossiers[sequence]? = some dossier →
    ring.submitted ≤ sequence + ring.capacity →
    ring.slots[ring.index sequence]? = some (some dossier.slot)
  records : ∀ store, ring.store = some store → ∀ sequence dossier,
    archive.dossiers[sequence]? = some dossier → ring.submitted ≤ sequence + ring.capacity →
    dossier.Records store (ring.index sequence) sequence

namespace Archive

variable {archive : Archive} {dossier before : Dossier} {sequence : Nat}

lemma outstanding_setDossier (hget : archive.dossiers[sequence]? = some before)
    (hlive : archive.submitted ≤ sequence + archive.window) (dossier : Dossier) :
    (archive.setDossier sequence dossier).outstanding + (if before.isOpen then 1 else 0) =
      archive.outstanding + if dossier.isOpen then 1 else 0 := by
  obtain ⟨hlt, hbefore⟩ := List.getElem?_eq_some_iff.mp hget
  have hsubmitted : (archive.setDossier sequence dossier).submitted = archive.submitted :=
    List.length_set
  have hin : sequence - (archive.submitted - archive.window) <
      (archive.dossiers.drop (archive.submitted - archive.window)).length := by
    rw [List.length_drop]
    change _ < archive.submitted - _
    change sequence < archive.submitted at hlt
    omega
  have hdrop : ¬sequence < archive.submitted - archive.window := by omega
  have hat : (archive.dossiers.drop (archive.submitted - archive.window))[
      sequence - (archive.submitted - archive.window)] = before := by
    rw [List.getElem_drop, ← hbefore]
    congr 1
    omega
  have hpos : before.isOpen → 0 < archive.outstanding := by
    intro hopen
    apply List.countP_pos_iff.mpr
    exact ⟨before, hat ▸ List.getElem_mem hin, hopen⟩
  have hcount : (archive.setDossier sequence dossier).outstanding =
      archive.outstanding - (if before.isOpen then 1 else 0) +
        if dossier.isOpen then 1 else 0 := by
    unfold outstanding
    rw [hsubmitted]
    change List.countP _ (List.drop (archive.submitted - archive.window)
      (archive.dossiers.set sequence dossier)) = _
    rw [List.drop_set, if_neg hdrop, List.countP_set hin, hat]
  by_cases hopen : before.isOpen
  · have hp := hpos hopen
    rw [if_pos hopen] at hcount ⊢
    omega
  · rw [if_neg hopen] at hcount ⊢
    omega

lemma outstanding_append (hwindow : 0 < archive.window) (dossier : Dossier) :
    { archive with dossiers := archive.dossiers ++ [dossier] }.outstanding +
        (if archive.window ≤ archive.submitted ∧
          (archive.dossiers[archive.submitted - archive.window]?).any Dossier.isOpen
        then 1 else 0) =
      archive.outstanding + if dossier.isOpen then 1 else 0 := by
  have hsubmitted : { archive with dossiers := archive.dossiers ++ [dossier] }.submitted =
      archive.submitted + 1 := by
    unfold submitted
    rw [List.length_append, List.length_singleton]
  have hle : archive.submitted + 1 - archive.window ≤ archive.dossiers.length := by
    change _ ≤ archive.submitted
    omega
  have hcount : { archive with dossiers := archive.dossiers ++ [dossier] }.outstanding =
      (archive.dossiers.drop (archive.submitted + 1 - archive.window)).countP Dossier.isOpen +
        if dossier.isOpen then 1 else 0 := by
    unfold outstanding
    rw [hsubmitted]
    change List.countP _ (List.drop _ (archive.dossiers ++ [dossier])) = _
    rw [List.drop_append_of_le_length hle, List.countP_append, List.countP_singleton]
  rw [hcount]
  by_cases hfull : archive.window ≤ archive.submitted
  · have hlt : archive.submitted - archive.window < archive.dossiers.length := by
      change _ < archive.submitted
      omega
    have hstep : archive.submitted + 1 - archive.window =
        archive.submitted - archive.window + 1 := by omega
    have hold : archive.outstanding =
        (archive.dossiers.drop (archive.submitted - archive.window + 1)).countP Dossier.isOpen +
          if archive.dossiers[archive.submitted - archive.window].isOpen then 1 else 0 := by
      unfold outstanding
      rw [List.drop_eq_getElem_cons hlt, List.countP_cons]
    rw [hold, hstep, List.getElem?_eq_getElem hlt, Option.any_some]
    simp only [hfull, true_and]
    omega
  · have hnone : archive.submitted + 1 - archive.window = 0 := by omega
    have hnone' : archive.submitted - archive.window = 0 := by omega
    have hold : archive.outstanding = archive.dossiers.countP Dossier.isOpen := by
      unfold outstanding
      rw [hnone', List.drop_zero]
    rw [hnone, hold, List.drop_zero]
    simp only [hfull, false_and, if_false]
    omega

lemma dossiers_setDossier (hget : archive.dossiers[sequence]? = some before) {other : Nat}
    {dossier' : Dossier}
    (hget' : (archive.setDossier sequence dossier).dossiers[other]? = some dossier') :
    other = sequence ∧ dossier' = dossier ∨
      other ≠ sequence ∧ archive.dossiers[other]? = some dossier' := by
  change (archive.dossiers.set sequence dossier)[other]? = some dossier' at hget'
  rw [List.getElem?_set] at hget'
  by_cases hsame : sequence = other
  · rw [if_pos hsame, if_pos (List.getElem?_eq_some_iff.mp hget).1] at hget'
    cases hget'
    exact Or.inl ⟨hsame.symm, rfl⟩
  · rw [if_neg hsame] at hget'
    exact Or.inr ⟨fun he => hsame he.symm, hget'⟩

lemma setDossier_self (hget : archive.dossiers[sequence]? = some dossier) :
    archive.setDossier sequence dossier = archive := by
  obtain ⟨hlt, hat⟩ := List.getElem?_eq_some_iff.mp hget
  have hsame : archive.dossiers.set sequence dossier = archive.dossiers := by
    rw [← hat]
    exact List.set_getElem_self hlt
  rw [setDossier, hsame]

/-- The archive once its audience was told of a snapshot. -/
def told (archive : Archive) (held : Frame → Bool) (snapshot : Snapshot) : Archive :=
  { archive with
    audience := (archive.audience.told held snapshot).2
    refusals := archive.refusals + (archive.audience.told held snapshot).1.failures.length }

lemma announce_eq (archive : Archive) (held : Frame → Bool) (snapshot : Snapshot) :
    archive.announce held snapshot = ⟨(archive.audience.announce held snapshot).events,
      if archive.refusals + (archive.audience.told held snapshot).1.failures.length < UInt64.size
      then .ok (archive.told held snapshot) else .error .overflow⟩ := by
  obtain ⟨hresult, -, -, -⟩ := archive.audience.announce_spec held snapshot
  have hannounce : archive.audience.announce held snapshot =
      ⟨(archive.audience.announce held snapshot).events,
        .ok (archive.audience.told held snapshot)⟩ := by
    rw [← hresult]
  unfold announce
  rw [hannounce]
  by_cases hfit : archive.refusals + (archive.audience.told held snapshot).1.failures.length <
      UInt64.size
  · simp only [Traced.mk_ok_bind, addCounts_ok hfit, if_pos hfit, Traced.liftM_ok, pure_bind,
      Traced.events_pure, Traced.result_pure, List.append_nil]
    rfl
  · simp only [Traced.mk_ok_bind, addCounts_overflow hfit, if_neg hfit, Traced.liftM_error_bind,
      List.append_nil]

lemma query_unannounced (hdossier : archive.dossier? sequence = some before)
    (hasked : before.asked archive.engines = dossier)
    (hstage : before.slot.stage = .completed ∨ dossier.slot.stage ≠ .completed)
    (held : Frame → Bool) :
    archive.query held sequence =
      ⟨[], .ok (.snapshot dossier.slot.snapshot, archive.setDossier sequence dossier)⟩ := by
  have hnot : ¬(before.slot.stage ≠ .completed ∧ dossier.slot.stage = .completed) := by
    rintro ⟨hbefore, hafter⟩
    exact hstage.elim hbefore fun h => h hafter
  unfold query
  simp only [hdossier, hasked, if_neg hnot]
  rfl

lemma query_announced (hdossier : archive.dossier? sequence = some before)
    (hasked : before.asked archive.engines = dossier)
    (hbefore : before.slot.stage ≠ .completed) (hafter : dossier.slot.stage = .completed)
    (held : Frame → Bool) :
    archive.query held sequence =
      ⟨(archive.audience.announce held dossier.slot.snapshot).events,
        if archive.refusals + (archive.audience.told held dossier.slot.snapshot).1.failures.length <
          UInt64.size
        then .ok (.snapshot dossier.slot.snapshot,
          (archive.setDossier sequence dossier).told held dossier.slot.snapshot)
        else .error .overflow⟩ := by
  have haudience : (archive.setDossier sequence dossier).audience = archive.audience := rfl
  have hrefusals : (archive.setDossier sequence dossier).refusals = archive.refusals := rfl
  unfold query
  simp only [hdossier, hasked, if_pos (And.intro hbefore hafter), announce_eq, haudience, hrefusals]
  split
  · simp only [Traced.mk_ok_bind, Traced.events_pure, Traced.result_pure, List.append_nil]
  · rfl

end Archive

namespace Ring.Mirrors

variable {ring : Ring} {archive : Archive} {store : RecordStore} {sequence : Nat}
  {slot : Slot} {before dossier : Dossier}

lemma dossier?_of_not_holds (h : ring.Mirrors archive) (hlive : ¬ring.holds sequence) :
    archive.dossier? sequence = none := by
  unfold Archive.dossier? Archive.submitted
  rw [h.destroyed, h.window, h.submitted]
  by_cases hdestroyed : ring.isDestroyed
  · simp [hdestroyed]
  · by_cases hyoung : ring.submitted ≤ sequence + ring.capacity
    · have hnone : archive.dossiers[sequence]? = none := by
        rw [List.getElem?_eq_none_iff, h.submitted]
        by_contra hbegun
        apply hlive
        rw [holds_iff]
        refine ⟨?_, by omega, hyoung⟩
        unfold isDestroyed at hdestroyed
        rw [Bool.not_eq_true, Option.isNone_eq_false_iff] at hdestroyed
        exact hdestroyed
      rw [hnone, ite_self]
    · simp [hyoung]

lemma exists_dossier (h : ring.Mirrors archive) (hslot : ring.slot? sequence = some slot) :
    ∃ dossier, archive.dossier? sequence = some dossier ∧ dossier.slot = slot ∧
      archive.dossiers[sequence]? = some dossier ∧
      ring.submitted ≤ sequence + ring.capacity := by
  obtain ⟨hlive, hat⟩ := slot?_eq_some_iff.mp hslot
  obtain ⟨hstore, hbegun, hyoung⟩ := holds_iff.mp hlive
  have hlt : sequence < archive.dossiers.length := by
    rw [h.submitted]
    exact hbegun
  have hget := List.getElem?_eq_getElem hlt
  have hsame := h.slots sequence _ hget hyoung
  rw [hat, Option.some.injEq, Option.some.injEq] at hsame
  refine ⟨archive.dossiers[sequence], ?_, hsame.symm, hget, hyoung⟩
  have hdestroyed : archive.destroyed = false := by
    rw [h.destroyed]
    unfold isDestroyed
    rw [Option.isNone_eq_false_iff]
    exact hstore
  unfold Archive.dossier? Archive.submitted
  rw [hdestroyed, h.window, h.submitted, hget]
  simp [hyoung]

lemma withAudience (h : ring.Mirrors archive) (audience : Audience) (refusals : Nat) :
    { ring with audience, refusals }.Mirrors { archive with audience, refusals } :=
  ⟨h.name, h.window, h.submitted, h.destroyed, rfl, rfl, h.outstanding, h.layouts, h.fences,
    h.slots, h.records⟩

lemma withoutStore (h : ring.Mirrors archive) :
    { ring with store := none }.Mirrors { archive with destroyed := true } where
  name := h.name
  window := h.window
  submitted := h.submitted
  destroyed := rfl
  audience := h.audience
  refusals := h.refusals
  outstanding := h.outstanding
  layouts := by rintro _ ⟨⟩
  fences := by rintro _ ⟨⟩
  slots := h.slots
  records := by rintro _ ⟨⟩

lemma live (h : ring.Mirrors archive) (hyoung : ring.submitted ≤ sequence + ring.capacity) :
    archive.submitted ≤ sequence + archive.window := by
  change archive.dossiers.length ≤ _
  rw [h.window, h.submitted]
  exact hyoung

lemma index_ne (h : ring.Mirrors archive) (hget : archive.dossiers[sequence]? = some before)
    (hyoung : ring.submitted ≤ sequence + ring.capacity) {other : Nat}
    (hget' : archive.dossiers[other]? = some dossier)
    (hyoung' : ring.submitted ≤ other + ring.capacity) (hne : other ≠ sequence) :
    ring.index other ≠ ring.index sequence := by
  intro he
  have hlt := (List.getElem?_eq_some_iff.mp hget).1
  have hlt' := (List.getElem?_eq_some_iff.mp hget').1
  rw [h.submitted] at hlt hlt'
  exact hne (eq_of_mod_eq he hlt' hyoung' hlt hyoung)

lemma withStore (h : ring.Mirrors archive)
    (hstore : ring.store = some store) (hget : archive.dossiers[sequence]? = some before)
    (hyoung : ring.submitted ≤ sequence + ring.capacity) (store' : RecordStore)
    (dossier : Dossier) (hslot : dossier.slot = before.slot)
    (hlayouts : store'.layouts = store.layouts)
    (hfences : ∀ index, store'.fenceNumber index ≤ ring.submitted)
    (hself : dossier.Records store' (ring.index sequence) sequence)
    (hfence : ∀ index, index ≠ ring.index sequence →
      store'.fenceNumber index = store.fenceNumber index)
    (hvalue : ∀ index, index ≠ ring.index sequence → ∀ engine ∈ store.engines, ∀ field,
      store'.value engine index field = store.value engine index field) :
    { ring with store := some store' }.Mirrors (archive.setDossier sequence dossier) where
  name := h.name
  window := h.window
  submitted := by
    change (archive.dossiers.set sequence dossier).length = ring.submitted
    rw [List.length_set]
    exact h.submitted
  destroyed := by
    change archive.destroyed = false
    rw [h.destroyed, isDestroyed, hstore]
    rfl
  audience := h.audience
  refusals := h.refusals
  outstanding := by
    have hcount := Archive.outstanding_setDossier hget (h.live hyoung) dossier
    have hopen : dossier.isOpen = before.isOpen := by rw [Dossier.isOpen, hslot, Dossier.isOpen]
    have houtstanding := h.outstanding
    change ring.reported + (archive.setDossier sequence dossier).outstanding = ring.submitted
    rw [hopen] at hcount
    omega
  layouts := by
    rintro _ ⟨⟩
    rw [hlayouts]
    exact h.layouts store hstore
  fences := by
    rintro _ ⟨⟩
    exact hfences
  slots := by
    intro other dossier' hget' hyoung'
    rcases Archive.dossiers_setDossier hget hget' with ⟨rfl, rfl⟩ | ⟨-, hkept⟩
    · rw [hslot]
      exact h.slots _ before hget hyoung
    · exact h.slots other dossier' hkept hyoung'
  records := by
    rintro _ ⟨⟩ other dossier' hget' hyoung'
    rcases Archive.dossiers_setDossier hget hget' with ⟨rfl, rfl⟩ | ⟨hne, hkept⟩
    · exact hself
    · -- Live units do not share an index, so the other records are as they were.
      have hindex := h.index_ne hget hyoung hkept hyoung' hne
      exact (h.records store hstore other dossier' hkept hyoung').frame hlayouts
        (hfence _ hindex) (hvalue _ hindex)

lemma cleared (hring : ring.WellFormed) (h : ring.Mirrors archive)
    (hstore : ring.store = some store) (hget : archive.dossiers[sequence]? = some dossier)
    (hyoung : ring.submitted ≤ sequence + ring.capacity) :
    { ring with store := some (store.cleared (ring.index sequence)) }.Mirrors
      (archive.setDossier sequence dossier.cleared) := by
  have hfits := hring.fits store hstore
  have hi := hring.index_lt sequence
  have hrecords := h.records store hstore sequence dossier hget hyoung
  apply h.withStore hstore hget hyoung (store.cleared (ring.index sequence)) dossier.cleared rfl
    (RecordStore.layouts_cleared _ _)
  · intro index
    rw [RecordStore.fenceNumber_cleared]
    exact h.fences store hstore index
  · exact hrecords.cleared hfits hi
  · intro index _
    exact RecordStore.fenceNumber_cleared _ _ _
  · intro index hindex engine _ field
    rw [RecordStore.value_cleared hfits hi, if_neg hindex]

lemma withField (hring : ring.WellFormed) (h : ring.Mirrors archive)
    (hstore : ring.store = some store) (hget : archive.dossiers[sequence]? = some dossier)
    (hyoung : ring.submitted ≤ sequence + ring.capacity) {engine : Engine} {field : Field}
    (hknows : store.knows engine field) (datum : UInt32) :
    { ring with
      store := some (store.withField engine (ring.index sequence) field datum) }.Mirrors
      (archive.setDossier sequence (dossier.withField engine field datum)) := by
  have hfits := hring.fits store hstore
  have hi := hring.index_lt sequence
  have hrecords := h.records store hstore sequence dossier hget hyoung
  apply h.withStore hstore hget hyoung (store.withField engine (ring.index sequence) field datum)
    (dossier.withField engine field datum) rfl (RecordStore.layouts_withField _ _ _ _ _)
  · intro index
    rw [RecordStore.fenceNumber_withField]
    exact h.fences store hstore index
  · exact hrecords.withField hfits hi hknows datum
  · intro index _
    exact RecordStore.fenceNumber_withField _ _ _ _ _ _
  · intro index hindex engine' _ field'
    rw [RecordStore.value_withField hfits hi, if_neg]
    rintro ⟨-, he, -⟩
    exact hindex he

lemma withFence (hring : ring.WellFormed) (h : ring.Mirrors archive)
    (hstore : ring.store = some store) (hget : archive.dossiers[sequence]? = some dossier)
    (hyoung : ring.submitted ≤ sequence + ring.capacity) (hroom : sequence + 1 < UInt64.size) :
    { ring with
      store := some (store.withFence (ring.index sequence) (sequence + 1)) }.Mirrors
      (archive.setDossier sequence { dossier with retired := true }) := by
  have hfits := hring.fits store hstore
  have hi := hring.index_lt sequence
  have hrecords := h.records store hstore sequence dossier hget hyoung
  have hbegun : sequence + 1 ≤ ring.submitted := by
    rw [← h.submitted]
    exact (List.getElem?_eq_some_iff.mp hget).1
  apply h.withStore hstore hget hyoung (store.withFence (ring.index sequence) (sequence + 1))
    { dossier with retired := true } rfl (RecordStore.layouts_withFence _ _ _)
  · intro index
    have hfence := h.fences store hstore index
    rw [RecordStore.fenceNumber_withFence hfits hi hroom]
    split
    · exact hbegun
    · exact hfence
  · exact hrecords.withFence hfits hi hroom
  · intro index hindex
    rw [RecordStore.fenceNumber_withFence hfits hi hroom, if_neg hindex]
  · intro index _ engine _ field
    exact RecordStore.value_withFence _ _ _ _ _ _

lemma revise (hring : ring.WellFormed) (h : ring.Mirrors archive)
    (hslot : ring.slot? sequence = some before.slot) (hopen : before.slot.stage.isSettled = false)
    (hget : archive.dossiers[sequence]? = some before) (slot : Slot)
    (hsame : slot.sequence = sequence) :
    (ring.revise slot).Mirrors (archive.setDossier sequence { before with slot }) where
  name := h.name
  window := h.window
  submitted := by
    change (archive.dossiers.set sequence { before with slot }).length = ring.submitted
    rw [List.length_set]
    exact h.submitted
  destroyed := h.destroyed
  audience := h.audience
  refusals := h.refusals
  outstanding := by
    have hyoung := (holds_iff.mp (slot?_eq_some_iff.mp hslot).1).2.2
    have hcount := Archive.outstanding_setDossier hget (h.live hyoung) { before with slot }
    have hbefore : before.isOpen := by rw [Dossier.isOpen, hopen, Bool.not_false]
    have hafter : { before with slot }.isOpen = !slot.stage.isSettled := rfl
    have houtstanding := h.outstanding
    change ring.reported + (if slot.stage.isSettled then 1 else 0) +
      (archive.setDossier sequence { before with slot }).outstanding = ring.submitted
    rw [if_pos hbefore, hafter] at hcount
    cases hsettled : slot.stage.isSettled <;> simp [hsettled] at hcount ⊢ <;> omega
  layouts := h.layouts
  fences := h.fences
  slots := by
    intro other dossier' hget' hyoung'
    have hyoung := (holds_iff.mp (slot?_eq_some_iff.mp hslot).1).2.2
    change (ring.setSlot slot).slots[ring.index other]? = some (some dossier'.slot)
    rw [slots_setSlot, hsame]
    rcases Archive.dossiers_setDossier hget hget' with ⟨rfl, rfl⟩ | ⟨hne, hkept⟩
    · have hlt : ring.index other < ring.slots.size := by
        rw [hring.size_slots]
        exact hring.index_lt other
      rw [if_pos rfl, if_pos hlt]
    · rw [if_neg (h.index_ne hget hyoung hkept hyoung' hne).symm]
      exact h.slots other dossier' hkept hyoung'
  records := by
    intro store hstore other dossier' hget' hyoung'
    rcases Archive.dossiers_setDossier hget hget' with ⟨rfl, rfl⟩ | ⟨-, hkept⟩
    · have hrecords := h.records store hstore other before hget hyoung'
      exact ⟨hrecords.retired, hrecords.fields⟩
    · exact h.records store hstore other dossier' hkept hyoung'

lemma isOpen_next (hring : ring.WellFormed) (h : ring.Mirrors archive) :
    isOpen ring.slots[ring.index ring.submitted]?.join ↔
      archive.window ≤ archive.submitted ∧
        (archive.dossiers[archive.submitted - archive.window]?).any Dossier.isOpen := by
  have hpos := hring.capacity_pos
  have hsubmitted : archive.submitted = ring.submitted := h.submitted
  rw [hsubmitted, h.window]
  by_cases hfull : ring.capacity ≤ ring.submitted
  · have hlt : ring.submitted - ring.capacity < archive.dossiers.length := by
      rw [h.submitted]
      omega
    have hget := List.getElem?_eq_getElem hlt
    have hslot := h.slots _ _ hget (by omega)
    have hindex : ring.index (ring.submitted - ring.capacity) = ring.index ring.submitted := by
      have hsum : ring.submitted = ring.submitted - ring.capacity + ring.capacity := by omega
      unfold index
      rw [hsum, Nat.add_mod_right, Nat.add_sub_cancel]
    rw [← hindex, hslot, hget, Option.join_some, Option.any_some]
    simp only [hfull, true_and]
    rfl
  · have hnone : ring.slots[ring.index ring.submitted]?.join = none := by
      cases hjoin : ring.slots[ring.index ring.submitted]?.join with
      | none => rfl
      | some slot =>
        obtain ⟨hmod, hlow, -⟩ := hring.held _ _ (Option.join_eq_some_iff.mp hjoin)
        unfold index at hmod
        rw [Nat.mod_eq_of_lt (by omega), Nat.mod_eq_of_lt (by omega)] at hmod
        omega
    rw [hnone]
    simp [hfull, isOpen]

lemma append_cases (h : ring.Mirrors archive) {new : Dossier}
    (hget : (archive.dossiers ++ [new])[sequence]? = some dossier) :
    archive.dossiers[sequence]? = some dossier ∧ sequence < ring.submitted ∨
      sequence = ring.submitted ∧ dossier = new := by
  rw [List.getElem?_append, h.submitted] at hget
  by_cases hbegun : sequence < ring.submitted
  · rw [if_pos hbegun] at hget
    exact Or.inl ⟨hget, hbegun⟩
  · rw [if_neg hbegun, List.getElem?_singleton] at hget
    by_cases hnew : sequence - ring.submitted = 0
    · rw [if_pos hnew, Option.some.injEq] at hget
      exact Or.inr ⟨by omega, hget.symm⟩
    · rw [if_neg hnew] at hget
      cases hget

lemma index_ne_next (hring : ring.WellFormed) (hbegun : sequence < ring.submitted)
    (hyoung : ring.submitted + 1 ≤ sequence + ring.capacity) :
    ring.index ring.submitted ≠ ring.index sequence := by
  have hpos := hring.capacity_pos
  intro he
  have hsame := eq_of_mod_eq he (Nat.lt_succ_self _) (by omega) (Nat.lt_succ_of_lt hbegun) hyoung
  omega

lemma begun (hring : ring.WellFormed) (h : ring.Mirrors archive)
    (hstore : ring.store = some store) (number : UInt32) (frame : Option Frame) :
    (ring.begun store number frame).Mirrors
      { archive with
        dossiers := archive.dossiers ++ [.begun archive.submitted number frame] } where
  name := h.name
  window := h.window
  submitted := by
    change (archive.dossiers ++ [_]).length = ring.submitted + 1
    rw [List.length_append, h.submitted, List.length_singleton]
  destroyed := by
    change archive.destroyed = false
    rw [h.destroyed, isDestroyed, hstore]
    rfl
  audience := h.audience
  refusals := h.refusals
  outstanding := by
    have hwindow : 0 < archive.window := by
      rw [h.window]
      exact hring.capacity_pos
    have hcount := Archive.outstanding_append hwindow (.begun archive.submitted number frame)
    have hopen : (Dossier.begun archive.submitted number frame).isOpen = true := rfl
    have houtstanding := h.outstanding
    change ring.reported + (if isOpen ring.slots[ring.index ring.submitted]?.join then 1 else 0) +
      Archive.outstanding { archive with
        dossiers := archive.dossiers ++ [.begun archive.submitted number frame] } =
      ring.submitted + 1
    rw [if_pos hopen] at hcount
    simp only [h.isOpen_next hring]
    omega
  layouts := by
    rintro _ ⟨⟩
    rw [RecordStore.layouts_primed]
    exact h.layouts store hstore
  fences := by
    rintro _ ⟨⟩ index
    have hfence := h.fences store hstore index
    rw [RecordStore.fenceNumber_primed]
    exact Nat.le_succ_of_le hfence
  slots := by
    intro other dossier hget hyoung
    have hlt : ring.index ring.submitted < ring.slots.size := by
      rw [hring.size_slots]
      exact hring.index_lt _
    change ring.submitted + 1 ≤ other + ring.capacity at hyoung
    change (ring.setSlot (.begun ring.submitted number frame)).slots[ring.index other]? = _
    have hsequence : (Slot.begun ring.submitted number frame).sequence = ring.submitted := rfl
    rw [slots_setSlot, hsequence]
    rcases h.append_cases hget with ⟨hold, hbegun⟩ | ⟨rfl, rfl⟩
    · rw [if_neg (index_ne_next hring hbegun hyoung)]
      exact h.slots other dossier hold (by omega)
    · rw [if_pos rfl, if_pos hlt]
      have hsubmitted : archive.submitted = ring.submitted := h.submitted
      rw [hsubmitted]
      rfl
  records := by
    rintro _ ⟨⟩ other dossier hget hyoung
    have hfits := hring.fits store hstore
    have hi := hring.index_lt ring.submitted
    have hengines : (store.primed (ring.index ring.submitted)).engines = store.engines :=
      RecordStore.engines_congr (RecordStore.layouts_primed _ _)
    change ring.submitted + 1 ≤ other + ring.capacity at hyoung
    change dossier.Records (store.primed (ring.index ring.submitted)) (ring.index other) other
    rcases h.append_cases hget with ⟨hold, hbegun⟩ | ⟨rfl, rfl⟩
    · have hindex := index_ne_next hring hbegun hyoung
      apply (h.records store hstore other dossier hold (by omega)).frame
        (RecordStore.layouts_primed _ _) (RecordStore.fenceNumber_primed _ _ _)
      intro engine _ field
      rw [RecordStore.value_primed hfits hi, if_neg (by rintro ⟨he, -⟩; exact hindex he.symm)]
    · have hfence := h.fences store hstore (ring.index ring.submitted)
      constructor
      · rw [RecordStore.fenceNumber_primed]
        constructor
        · intro hretired
          omega
        · rintro ⟨⟩
      · intro engine hengine field
        rw [hengines] at hengine
        rw [RecordStore.value_primed hfits hi, if_pos ⟨rfl, hengine⟩]
        rfl

lemma destroyed_of_none (h : ring.Mirrors archive) (hstore : ring.store = none) :
    archive.destroyed = true := by
  rw [h.destroyed, isDestroyed, hstore]
  rfl

lemma not_destroyed (h : ring.Mirrors archive) (hstore : ring.store = some store) :
    archive.destroyed = false := by
  rw [h.destroyed, isDestroyed, hstore]
  rfl

lemma ticket_eq (h : ring.Mirrors archive) (sequence : Nat) :
    archive.ticket sequence = ⟨sequence, ring.index sequence⟩ := by
  unfold Archive.ticket
  rw [h.window]
  rfl

lemma asked_of_retired (h : ring.Mirrors archive) (hstore : ring.store = some store)
    (hget : archive.dossiers[sequence]? = some dossier)
    (hyoung : ring.submitted ≤ sequence + ring.capacity)
    (hopen : dossier.slot.stage.isSettled = false)
    (hfence : sequence < store.fenceNumber (ring.index sequence)) :
    dossier.asked archive.engines =
      { dossier with slot := dossier.slot.evaluated (store.readings (ring.index sequence)) } := by
  have hrecords := h.records store hstore sequence dossier hget hyoung
  rw [← h.layouts store hstore]
  exact hrecords.asked hopen hfence

lemma told (h : ring.Mirrors archive) (held : Frame → Bool) (snapshot : Snapshot) :
    (ring.told held snapshot).Mirrors (archive.told held snapshot) := by
  unfold Ring.told Archive.told
  rw [h.audience, h.refusals]
  exact h.withAudience _ _

end Ring.Mirrors

end CompletionRing
