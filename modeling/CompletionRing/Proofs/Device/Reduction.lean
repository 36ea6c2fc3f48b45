import CompletionRing.Proofs.Device.Orderly

/-!
# Any order of retirement reduces correctly

Every query of an orderly run answers what the ledger calls for: neither the order of the jobs nor
the indices that units share have any influence.
-/

namespace CompletionRing

namespace Ring

variable {ring : Ring} {op : Op} {run : Run Ring Reply} {sequence : Nat} {earlier : List Nat}
  {held : Frame → Bool}

lemma holds_of_query (h : ring.WellFormed)
    (hlive : (ring.next (.query held sequence)).holds sequence) : ring.holds sequence := by
  obtain ⟨slot', hslot', -⟩ := (h.next (.query held sequence)).exists_slot hlive
  have hslot : ∃ slot, ring.slot? sequence = some slot := by
    rcases (step h (.query held sequence)).slot?_origin h hslot' with
      hsame | ⟨-, _, _, ⟨⟩, -⟩ | ⟨slot, hslot, -⟩
    · exact ⟨slot', hsame⟩
    · exact ⟨slot, hslot⟩
  obtain ⟨slot, hslot⟩ := hslot
  exact (slot?_eq_some_iff.mp hslot).1

lemma Step.count_firstSuccess (h : ring.WellFormed) (hstep : Step ring op run) (sequence : Nat) :
    (firstSuccess earlier op run.trace.result).countP (·.sequence = sequence) =
      if success? op run.trace.result = some sequence ∧ sequence ∉ earlier then 1 else 0 := by
  cases op with
  | query held asked =>
    rcases hstep.answer_query h with hview | ⟨hfault, -⟩
    · have hsequence := sequence_view (hstep.wellFormed h) asked
      rw [hview, firstSuccess, success?_snapshot]
      by_cases hstatus : (run.state.view asked).status = .successful
      · by_cases hsame : asked = sequence
        · subst hsame
          by_cases hearlier : asked ∈ earlier <;> simp [hstatus, hearlier, hsequence]
        · by_cases hearlier : asked ∈ earlier <;> simp [hstatus, hearlier, hsequence, hsame]
      · simp [hstatus]
    · rw [hfault]
      simp [firstSuccess, success?, succeeded?]
  | _ => simp [firstSuccess, success?, succeeded?]

end Ring

namespace Plant

variable {plant : Plant} {engines : List (Engine × Layout)} {archive : Archive} {ledger : Ledger}
  {earlier : List Nat}

lemma events_ring (plant : Plant) (op : Ring.Op) :
    plant.events (.ring op) = plant.ring.events op :=
  Traced.events_map Reply.ring (plant.ring.perform op).trace

namespace Follows

lemma query (h : plant.Follows engines archive ledger earlier) (hengines : engines ≠ [])
    {held : Frame → Bool} {sequence : Nat}
    (hlive : (plant.next (.ring (.query held sequence))).ring.holds sequence) :
    (∃ snapshot, plant.answer (.ring (.query held sequence)) =
        .ok (.ring (.snapshot snapshot)) ∧
      snapshot.status = (ledger.units sequence).status engines ∧
      (snapshot.status.isTerminal →
        snapshot.reports = (ledger.units sequence).reports engines sequence)) ∨
    plant.answer (.ring (.query held sequence)) = .error .overflow ∧
      (ledger.units sequence).status engines = .successful ∧
      UInt64.size ≤ (plant.next (.ring (.query held sequence))).ring.refusals +
        refusalsIn (plant.events (.ring (.query held sequence))) := by
  have hstep := Ring.step h.wellFormed (.query held sequence)
  obtain ⟨slot, hslot, -⟩ :=
    h.wellFormed.exists_slot (Ring.holds_of_query h.wellFormed hlive)
  obtain ⟨dossier, hdossier, -, hget, -⟩ := h.mirrors.exists_dossier hslot
  obtain ⟨hstatus, hreports⟩ := (h.files sequence dossier hget).snapshot_asked hengines
  have hdevice : (Ring.Op.query held sequence).touched?.all plant.ring.holds := rfl
  have htrace := (h.mirrors.next h.wellFormed hdevice).1
  rw [answer_ring, events_ring, Ring.answer_eq, ← htrace]
  rcases Archive.query_cases hdossier held with
    ⟨archive', events, hperform, -⟩ | ⟨⟨events, hperform⟩, hstage⟩
  · left
    rw [hperform]
    refine ⟨_, rfl, ?_⟩
    rw [h.layouts, hstatus]
    exact ⟨rfl, hreports⟩
  · right
    rw [h.layouts] at hstage
    have hfault := congrArg Traced.result htrace
    rw [hperform] at hfault ⊢
    refine ⟨rfl, ?_, ?_⟩
    · rw [← hstatus]
      exact (Ring.status_successful_iff _).mpr hstage
    · have hoverflow := hstep.query_overflow hfault.symm
      rw [Ring.events_refusals]
      exact hoverflow

lemma count_told (h : plant.Follows engines archive ledger earlier)
    (hnodup : (engines.map (·.1)).Nodup) {op : Op} (hadmits : plant.admits ledger op)
    (sequence : Nat) :
    (told [plant.entry op]).countP (·.sequence = sequence) =
      if success? op (plant.answer op) = some sequence ∧ sequence ∉ earlier then 1 else 0 := by
  have htold : told [plant.entry op] =
      if (plant.answer op).isOk then announcements (plant.events op) else [] := by
    unfold told
    rw [List.filter_singleton]
    change List.flatMap _ (bif (plant.answer op).isOk then [plant.entry op] else []) = _
    cases (plant.answer op).isOk with
    | true => exact List.append_nil _
    | false => rfl
  rw [htold]
  cases op with
  | ring op =>
    have hstep := Ring.step h.wellFormed op
    rw [answer_ring, success?_ring, events_ring, Ring.answer_eq, Ring.events_announcements]
    cases hok : (plant.ring.perform op).quiet.trace.result with
    | error fault =>
      have hnone : Ring.success? op (.error fault) = none := by cases op <;> rfl
      rw [hnone, if_neg (by rintro ⟨⟨⟩, -⟩)]
      rfl
    | ok reply =>
      have hreturned : (plant.ring.perform op).quiet.trace.result.isOk := by
        rw [hok]
        rfl
      have hcount : (Ring.firstSuccess earlier op _).countP _ = _ :=
        hstep.count_firstSuccess h.wellFormed sequence
      rw [hok] at hcount
      rw [hstep.announces h.heard hreturned, hok]
      exact hcount
  | setConduct engine conduct => rfl
  | kick sequence overrides => rfl
  | run choice =>
    rw [(h.step_run hnodup hadmits).2, ite_self]
    rfl

end Follows

lemma count_told (h : plant.Follows engines archive ledger earlier) (hengines : engines ≠ [])
    (hnodup : (engines.map (·.1)).Nodup) {ops : List Op} (horderly : plant.orderly ledger ops)
    (sequence : Nat) :
    (told (plant.entries ops)).countP (·.sequence = sequence) =
      if sequence ∈ successes (plant.entries ops) ∧ sequence ∉ earlier then 1 else 0 := by
  induction ops generalizing plant archive ledger earlier with
  | nil => simp [entries, told, successes]
  | cons op rest ih =>
    rw [orderly, Bool.and_eq_true] at horderly
    obtain ⟨hadmits, hlater⟩ := horderly
    obtain ⟨archive', hnext⟩ := h.next hengines hnodup hadmits
    have hfirst := h.count_told hnodup hadmits sequence
    have hrest := ih hnext hlater
    have htold : told (plant.entries (op :: rest)) =
        told [plant.entry op] ++ told ((plant.next op).entries rest) := by
      unfold told
      rw [entries, ← List.singleton_append, List.filter_append, List.flatMap_append]
    have hsuccesses : successes (plant.entries (op :: rest)) =
        (success? op (plant.answer op)).toList ++ successes ((plant.next op).entries rest) := by
      have hentry : success? (plant.entry op).op (plant.entry op).answer =
        success? op (plant.answer op) := rfl
      unfold successes
      rw [entries, List.filterMap_cons, hentry]
      cases success? op (plant.answer op) <;> rfl
    rw [htold, List.countP_append, hfirst, hrest, hsuccesses]
    simp only [List.mem_append, Option.mem_toList]
    -- A success of the unit now makes all later ones repetitions.
    by_cases hnow : success? op (plant.answer op) = some sequence
    · by_cases hearlier : sequence ∈ earlier <;> simp [hnow, hearlier]
    · simp [hnow]

lemma follows_before (h : plant.Follows engines archive ledger earlier) (hengines : engines ≠ [])
    (hnodup : (engines.map (·.1)).Nodup) {ops : List Op} (horderly : plant.orderly ledger ops)
    {before after : List Entry} {entry : Entry}
    (hsplit : plant.entries ops = before ++ entry :: after) :
    ∃ plant' archive' earlier', Follows plant' engines archive'
        (ledger.after (before.map (·.op))) earlier' ∧
      entry = plant'.entry entry.op := by
  induction ops generalizing plant archive ledger earlier before with
  | nil => simp [entries] at hsplit
  | cons op rest ih =>
    rw [orderly, Bool.and_eq_true] at horderly
    obtain ⟨hadmits, hlater⟩ := horderly
    cases before with
    | nil =>
      rw [entries, List.nil_append, List.cons.injEq] at hsplit
      obtain ⟨rfl, -⟩ := hsplit
      exact ⟨plant, archive, earlier, h, rfl⟩
    | cons first before =>
      rw [entries, List.cons_append, List.cons.injEq] at hsplit
      obtain ⟨rfl, hrest⟩ := hsplit
      obtain ⟨archive', hnext⟩ := h.next hengines hnodup hadmits
      exact ih hnext hlater hrest

lemma follows_new {ring : Ring} {setup : RingSetup} {pool pool' : Pool}
    (hcreate : (Ring.create setup pool).result = .ok (.ok ring, pool')) :
    (ofRing ring).Follows setup.layouts (.new setup.name setup.capacity.toNat setup.layouts)
      .blank [] := by
  have hnew : ring.IsNew := ⟨setup, pool, pool', hcreate⟩
  have hwell := hnew.wellFormed
  have hheard := hnew.heard
  obtain ⟨-, store, rfl, -, hzero, hlayouts⟩ := Ring.fresh_of_create hcreate
  have hengines : store.engines = setup.layouts.map (·.1) := by
    rw [RecordStore.engines_eq_layouts, hlayouts]
  constructor
  · exact hwell
  · rw [← hlayouts]
    exact Ring.mirrors_fresh hzero
  · exact hheard
  · rfl
  · rw [← hengines]
    exact EngineTable.covers_ofEngines store.engines Conduct.complete
  · rfl
  · exact List.nodup_nil
  · rintro _ ⟨⟩
  · rintro _ ⟨⟩
  · rintro _ _ ⟨⟩

/-- In every orderly run of a ring made from any setup and of a device made for it, every query of
a live unit answers the status that the unit's progress calls for, and for a unit that was
resolved the reports of its engines. An answer is only missing if the refusals of a success are
too many to count. The audience is told once of each unit that was answered with a success, and
of no other unit. -/
theorem reduces_in_any_order {ring : Ring} {setup : RingSetup} {pool pool' : Pool}
    (hcreate : (Ring.create setup pool).result = .ok (.ok ring, pool')) (ops : List Op)
    (horderly : (ofRing ring).orderly .blank ops) :
    (∀ before entry after held sequence, (ofRing ring).entries ops = before ++ entry :: after →
      entry.op = .ring (.query held sequence) → entry.plant.ring.holds sequence →
      let progress := (Ledger.blank.after (before.map (·.op))).units sequence
      (∃ snapshot, entry.answer = .ok (.ring (.snapshot snapshot)) ∧
        snapshot.status = progress.status setup.layouts ∧
        (snapshot.status.isTerminal →
          snapshot.reports = progress.reports setup.layouts sequence)) ∨
      entry.answer = .error .overflow ∧ progress.status setup.layouts = .successful ∧
        UInt64.size ≤ entry.plant.ring.refusals + refusalsIn entry.events) ∧
    ∀ sequence, (told ((ofRing ring).entries ops)).countP (·.sequence = sequence) =
      if sequence ∈ successes ((ofRing ring).entries ops) then 1 else 0 := by
  obtain ⟨hflaw, -⟩ := Ring.fresh_of_create hcreate
  obtain ⟨-, hengines, hnodup⟩ := RingSetup.of_flaw?_eq_none hflaw
  have hnew := follows_new hcreate
  constructor
  · intro before entry after held sequence hsplit hop hlive
    obtain ⟨plant, archive, earlier, hfollows, hentry⟩ :=
      follows_before hnew hengines hnodup horderly hsplit
    rw [hop] at hentry
    rw [hentry] at hlive ⊢
    exact hfollows.query hengines hlive
  · intro sequence
    have hcount := count_told hnew hengines hnodup horderly sequence
    simp only [List.not_mem_nil, not_false_eq_true, and_true] at hcount
    exact hcount

/-- Of two units the second one retires first. -/
def outOfOrder : List Op :=
  [.ring (.begin 7 none), .kick 0 [(⟨1⟩, .fail 0x20)], .ring (.begin 8 none), .kick 1 [],
    .run (.unit 1), .ring (.query (fun _ => true) 1)]

theorem reduces_in_any_order_pair :
    (∃ snapshot, ((ofRing pair).entries outOfOrder)[5]?.map (·.answer) =
        some (.ok (.ring (.snapshot snapshot))) ∧
      snapshot.status = .successful ∧
      snapshot.reports = [⟨⟨1⟩, .ran, 0, some (Device.checksum 1 ⟨1⟩), some 1, [0, 2, 0, 0]⟩,
        ⟨⟨0⟩, .ran, 0, some (Device.checksum 1 ⟨0⟩), none, [1]⟩]) ∧
    (told ((ofRing pair).entries outOfOrder)).countP (·.sequence = 1) = 1 := by
  obtain ⟨hquery, hcount⟩ := reduces_in_any_order create_pair outOfOrder (by decide +kernel)
  refine ⟨?_, (hcount 1).trans (if_pos (by decide +kernel))⟩
  rcases hquery ((ofRing pair).entries (outOfOrder.take 5)) _ _ (fun _ => true) 1 rfl rfl
    (by decide +kernel) with ⟨snapshot, hanswer, hstatus, hreports⟩ | ⟨-, -, hfull⟩
  · have hcalled : snapshot.status = .successful := hstatus.trans (by decide +kernel)
    refine ⟨snapshot, congrArg some hanswer, hcalled, ?_⟩
    rw [hreports (by rw [hcalled]; rfl)]
    decide +kernel
  · exact absurd hfull (by decide +kernel)

end Plant

end CompletionRing
