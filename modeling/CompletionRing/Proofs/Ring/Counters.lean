import CompletionRing.Proofs.Observer.Lateness
import CompletionRing.Proofs.Observer.Responses
import CompletionRing.Proofs.Ring.Audiences
import CompletionRing.Proofs.Ring.Reordering

/-!
# Counters

Counters that subscribed before the first unit agree with the answers of the ring: they count each
unit that was answered with a success, and each engine that the success reports as skipped, once,
and remember the number of the unit whose first success came last.
-/

namespace CompletionRing

namespace Telemetry

lemma successes_foldl (snapshots : List Snapshot) :
    (snapshots.foldl deliver .new).successes = snapshots.length := by
  induction snapshots using List.reverseRecOn with
  | nil => rfl
  | append_singleton before snapshot ih =>
    rw [List.foldl_concat, (counted_deliver _ snapshot).successes, ih, List.length_append,
      List.length_singleton]

lemma skipped_deliver {snapshot : Snapshot} (hnodup : snapshot.skipped.Nodup) (counts : Telemetry)
    (engine : Engine) : (counts.deliver snapshot).skipped.get? engine =
      if engine ∈ snapshot.skipped then some ((counts.skipped.get? engine).getD 0 + 1)
      else counts.skipped.get? engine := by
  rw [(counts.counted_deliver snapshot).skipped, ← snapshot.count_skipped]
  by_cases hmem : engine ∈ snapshot.skipped
  · rw [List.count_eq_one_of_mem hnodup hmem, if_neg Nat.one_ne_zero, if_pos hmem]
  · rw [List.count_eq_zero_of_not_mem hmem, if_pos rfl, if_neg hmem]

lemma skipped_foldl {snapshots : List Snapshot}
    (hnodup : ∀ snapshot ∈ snapshots, snapshot.skipped.Nodup) (engine : Engine) :
    (snapshots.foldl deliver .new).skipped.get? engine =
      if snapshots.countP (engine ∈ ·.skipped) = 0 then none
      else some (snapshots.countP (engine ∈ ·.skipped)) := by
  induction snapshots using List.reverseRecOn with
  | nil => rfl
  | append_singleton before snapshot ih =>
    have hbefore := ih fun other hmem => hnodup other (List.mem_append_left _ hmem)
    have hlast := hnodup snapshot (List.mem_append_right _ (List.mem_singleton_self _))
    rw [List.foldl_concat, skipped_deliver hlast, hbefore, List.countP_append,
      List.countP_singleton]
    by_cases hmem : engine ∈ snapshot.skipped
    · by_cases hnone : before.countP (engine ∈ ·.skipped) = 0 <;> simp [hmem, hnone]
    · simp [hmem]

end Telemetry

namespace Ring

/-- A unit that was begun, and the number that it was given. -/
def numbered? : Op → Except Fault Reply → Option (Nat × UInt32)
  | .begin number _, .ok (.ticket (.ok ticket)) => some (ticket.sequence, number)
  | _, _ => none

/-- The number that a unit was given. -/
def number? (entries : List Entry) (sequence : Nat) : Option UInt32 :=
  ((noted numbered? entries).find? (·.1 = sequence)).map (·.2)

/-- Does a success of the unit report the engine as skipped? -/
def reportsSkipped (entries : List Entry) (engine : Engine) (sequence : Nat) : Bool :=
  (noted successSnapshot? entries).any fun snapshot =>
    snapshot.sequence = sequence && snapshot.skipped.contains engine

/-- Do counters agree with what was answered? -/
structure Tallies (entries : List Entry) (counts : Telemetry) : Prop where
  successes : counts.successes = (successes entries).eraseDups.length
  /-- An engine that was never skipped has no counter. -/
  skipped : ∀ engine, counts.skipped.get? engine =
    if (Ring.successes entries).eraseDups.countP (reportsSkipped entries engine) = 0 then none
    else some ((Ring.successes entries).eraseDups.countP (reportsSkipped entries engine))
  lastNumber : counts.lastNumber =
    (Ring.successes entries).eraseDups.getLast?.bind (number? entries)

/-- Are these the units begun so far, with the numbers that they have? -/
structure Numbers (ring : Ring) (numbers : List (Nat × UInt32)) : Prop where
  sequences : numbers.map (·.1) = List.range ring.submitted
  slots : ∀ sequence slot, ring.slot? sequence = some slot → (sequence, slot.number) ∈ numbers

/-- Are these the snapshots of successes so far, with one for each unit and each engine in it
once? -/
structure Succeeded (ring : Ring) (snapshots : List Snapshot) : Prop where
  reports : ∀ sequence slot, ring.slot? sequence = some slot →
    (slot.reports.map (·.engine)).Nodup
  kept : ∀ snapshot ∈ snapshots,
    (∃ slot, ring.slot? snapshot.sequence = some slot ∧ slot.stage.isSettled ∧
      slot.snapshot = snapshot) ∨ ring.Gone snapshot.sequence
  once : ∀ snapshot ∈ snapshots, ∀ other ∈ snapshots,
    other.sequence = snapshot.sequence → other = snapshot
  skipped : ∀ snapshot ∈ snapshots, snapshot.skipped.Nodup

variable {ring : Ring} {op : Op} {run : Run Ring Reply} {earlier : List Nat} {position : Nat}
  {id : UInt32} {name : String} {counts : Telemetry} {numbers : List (Nat × UInt32)}
  {snapshots : List Snapshot} {snapshot : Snapshot} {entries : List Entry} {entry : Entry}

/-! ### Numbers -/

lemma Numbers.next (hnumbers : ring.Numbers numbers) (h : ring.WellFormed)
    (hstep : Step ring op run) :
    run.state.Numbers (numbers ++ (numbered? op run.trace.result).toList) where
  sequences := by
    rw [List.map_append, hnumbers.sequences]
    cases hstep with
    | began => exact List.range_succ.symm
    | _ => exact List.append_nil _
  slots := by
    intro sequence slot' hslot'
    rw [List.mem_append]
    rcases hstep.slot?_origin h hslot' with
      hsame | ⟨hnew, number, frame, rfl, rfl⟩ | ⟨slot, hslot, -, -, hrevision⟩
    · exact Or.inl (hnumbers.slots sequence slot' hsame)
    · have hbegun := (holds_iff.mp (slot?_eq_some_iff.mp hslot').1).2.1
      rw [hnew] at hbegun
      cases hstep with
      | began =>
        rw [hnew]
        exact Or.inr (List.mem_singleton_self _)
      | beginDestroyed | beginOverflow => exact absurd hbegun (Nat.lt_irrefl _)
    · have hnumber : slot'.number = slot.number := by cases hrevision <;> rfl
      rw [hnumber]
      exact Or.inl (hnumbers.slots sequence slot hslot)

lemma IsNew.slot?_eq_none (hnew : ring.IsNew) (sequence : Nat) : ring.slot? sequence = none := by
  obtain ⟨setup, store, -, rfl, -⟩ := hnew.exists_fresh
  apply Ring.slot?_eq_none
  intro hholds
  obtain ⟨-, hbegun, -⟩ := holds_iff.mp hholds
  exact Nat.not_lt_zero sequence hbegun

lemma IsNew.numbers_nil (hnew : ring.IsNew) : ring.Numbers [] where
  sequences := by
    obtain ⟨setup, store, -, rfl, -⟩ := hnew.exists_fresh
    rfl
  slots := by simp [hnew.slot?_eq_none]

/-! ### Successes -/

lemma nodup_skipped {slot : Slot} (hnodup : (slot.reports.map (·.engine)).Nodup) :
    slot.snapshot.skipped.Nodup :=
  hnodup.sublist (List.filter_sublist.map _)

lemma Step.exists_succeeded (h : ring.WellFormed) (hstep : Step ring op run)
    (hsuccess : successSnapshot? op run.trace.result = some snapshot) :
    ∃ slot, run.state.slot? snapshot.sequence = some slot ∧ slot.stage.isSettled ∧
      slot.snapshot = snapshot := by
  obtain ⟨⟨sequence, snapshot⟩, hsucceeded, rfl⟩ := Option.map_eq_some_iff.mp hsuccess
  obtain ⟨held, rfl, hanswer, hstatus⟩ := succeeded?_eq_some_iff.mp hsucceeded
  have hview := hstep.view_of_query h hanswer
  have hsequence : snapshot.sequence = sequence := by
    rw [← hview]
    exact sequence_view (hstep.wellFormed h) sequence
  rw [← hview] at hstatus
  obtain ⟨slot, hslot, hstage⟩ := view_successful hstatus
  rw [view_eq hslot] at hview
  rw [hsequence]
  refine ⟨slot, hslot, ?_, hview⟩
  rw [hstage]
  rfl

lemma Step.nodup_reports (h : ring.WellFormed) (hstep : Step ring op run)
    (hnodup : ∀ sequence slot, ring.slot? sequence = some slot →
      (slot.reports.map (·.engine)).Nodup) :
    ∀ sequence slot, run.state.slot? sequence = some slot →
      (slot.reports.map (·.engine)).Nodup := by
  intro sequence slot' hslot'
  rcases hstep.slot?_origin h hslot' with
    hsame | ⟨-, number, frame, -, rfl⟩ | ⟨slot, hslot, -, -, hrevision⟩
  · exact hnodup sequence slot' hsame
  · exact List.nodup_nil
  · cases hrevision with
    | waiting => exact hnodup sequence slot hslot
    | @evaluated _ store hstore =>
      change ((store.readings (ring.index sequence)).map (·.engine)).Nodup
      rw [RecordStore.engines_readings]
      exact (h.fits store hstore).nodup
    | abandoned => exact hnodup sequence slot hslot

/-- A success stays in its slot until the unit is gone. -/
lemma Succeeded.kept_next (hsucceeded : ring.Succeeded snapshots) (h : ring.WellFormed)
    (hstep : Step ring op run) (hmem : snapshot ∈ snapshots) :
    (∃ slot, run.state.slot? snapshot.sequence = some slot ∧ slot.stage.isSettled ∧
      slot.snapshot = snapshot) ∨ run.state.Gone snapshot.sequence := by
  rcases hsucceeded.kept snapshot hmem with ⟨slot, hslot, hsettled, hsnapshot⟩ | hgone
  · rcases hstep.keeps_settled h hslot hsettled with hsame | hgone
    · exact Or.inl ⟨slot, hsame, hsettled, hsnapshot⟩
    · exact Or.inr hgone
  · exact Or.inr (hgone.step hstep)

lemma Succeeded.next (hsucceeded : ring.Succeeded snapshots) (h : ring.WellFormed)
    (hstep : Step ring op run) :
    run.state.Succeeded (snapshots ++ (successSnapshot? op run.trace.result).toList) := by
  have hreports := hstep.nodup_reports h hsucceeded.reports
  have hkept := fun snapshot (hmem : snapshot ∈ snapshots) => hsucceeded.kept_next h hstep hmem
  cases hsuccess : successSnapshot? op run.trace.result with
  | none =>
    rw [Option.toList_none, List.append_nil]
    exact ⟨hreports, hkept, hsucceeded.once, hsucceeded.skipped⟩
  | some new =>
    obtain ⟨slot, hslot, hsettled, hsnapshot⟩ := hstep.exists_succeeded h hsuccess
    -- A success that is kept of the same unit is in the same slot.
    have hsame : ∀ snapshot ∈ snapshots, snapshot.sequence = new.sequence → snapshot = new := by
      intro snapshot hmem hsequence
      rcases hkept snapshot hmem with ⟨slot', hslot', -, hsnapshot'⟩ | hgone
      · rw [hsequence, hslot] at hslot'
        cases hslot'
        exact hsnapshot'.symm.trans hsnapshot
      · rw [hsequence] at hgone
        exact absurd (slot?_eq_some_iff.mp hslot).1 hgone.not_holds
    rw [Option.toList_some]
    refine ⟨hreports, ?_, ?_, ?_⟩
    · intro snapshot hmem
      rcases List.mem_append.mp hmem with hbefore | hnow
      · exact hkept snapshot hbefore
      · rw [List.mem_singleton.mp hnow]
        exact Or.inl ⟨slot, hslot, hsettled, hsnapshot⟩
    · intro snapshot hmem other hother hsequence
      rcases List.mem_append.mp hmem with hbefore | hnow <;>
        rcases List.mem_append.mp hother with hbefore' | hnow'
      · exact hsucceeded.once snapshot hbefore other hbefore' hsequence
      · rw [List.mem_singleton.mp hnow'] at hsequence ⊢
        exact (hsame snapshot hbefore hsequence.symm).symm
      · rw [List.mem_singleton.mp hnow] at hsequence ⊢
        exact hsame other hbefore' hsequence
      · rw [List.mem_singleton.mp hnow, List.mem_singleton.mp hnow']
    · intro snapshot hmem
      rcases List.mem_append.mp hmem with hbefore | hnow
      · exact hsucceeded.skipped snapshot hbefore
      · rw [List.mem_singleton.mp hnow, ← hsnapshot]
        exact nodup_skipped (hreports _ slot hslot)

lemma IsNew.succeeded_nil (hnew : ring.IsNew) : ring.Succeeded [] where
  reports := by simp [hnew.slot?_eq_none]
  kept := by simp
  once := by simp
  skipped := by simp

lemma successSnapshot?_of_first {answer : Except Fault Reply}
    (hmem : snapshot ∈ firstSuccess earlier op answer) :
    successSnapshot? op answer = some snapshot := by
  unfold firstSuccess at hmem
  split at hmem
  · next held sequence other =>
    split at hmem
    · next hfirst =>
      rw [List.mem_singleton.mp hmem, successSnapshot?, succeeded?, if_pos hfirst.1]
      rfl
    · cases hmem
  · cases hmem

lemma mem_firstSuccesses (hmem : (entry, snapshot) ∈ firstSuccesses earlier entries) :
    entry ∈ entries ∧ successSnapshot? entry.op entry.answer = some snapshot := by
  induction entries generalizing earlier with
  | nil => cases hmem
  | cons first rest ih =>
    rcases List.mem_append.mp hmem with hfirst | hrest
    · obtain ⟨other, hother, hpair⟩ := List.mem_map.mp hfirst
      cases hpair
      exact ⟨List.mem_cons_self, successSnapshot?_of_first hother⟩
    · obtain ⟨hentry, hsuccess⟩ := ih hrest
      exact ⟨List.mem_cons_of_mem _ hentry, hsuccess⟩

/-! ### Counters -/

lemma served_telemetry (audience : Audience) (earlier : List Nat) (op : Op)
    (answer : Except Fault Reply) :
    (call? earlier op answer).elim (.telemetry counts)
        (audience.served position ⟨id, name, .telemetry counts, true⟩) =
      .telemetry ((firstSuccess earlier op answer).foldl Telemetry.deliver counts) := by
  cases op with
  | query held sequence =>
    rw [call?]
    rcases firstSuccess_cases earlier (.query held sequence) answer with hnone | ⟨snapshot, hfirst⟩
    · rw [hnone]
      rfl
    · rw [hfirst]
      rfl
  | audience held use =>
    cases use with
    | receive place limit => exact ite_self _
    | hangUp place => exact ite_self _
    | _ => rfl
  | _ => rfl

lemma counters_after (h : ring.WellFormed) (hheard : ring.Heard earlier)
    (hat : ring.audience.subscriptions[position]? = some ⟨id, name, .telemetry counts, true⟩)
    (ops : List Op) (hkept : ∀ entry ∈ ring.entries ops, entry.cancels id = false) :
    (ring.after ops).audience.subscriptions[position]? = some ⟨id, name,
      .telemetry (((firstSuccesses earlier (ring.entries ops)).map (·.2)).foldl
        Telemetry.deliver counts), true⟩ := by
  induction ops generalizing ring earlier counts with
  | nil => exact hat
  | cons op rest ih =>
    have hnext := subscription_next h hheard hat op
    have hcancels : (ring.entry op).cancels id = false := hkept _ List.mem_cons_self
    rw [served_telemetry, hcancels] at hnext
    have hrest := ih (h.next op) (hheard.next h op) hnext fun entry hmem =>
      hkept entry (List.mem_cons_of_mem _ hmem)
    rw [after_cons, hrest, firstSuccesses_entries_cons, List.map_append, List.map_map,
      List.foldl_append]
    have hown : (firstSuccess earlier op (ring.answer op)).map
        ((·.2) ∘ (ring.entry op, ·)) = firstSuccess earlier op (ring.answer op) := List.map_id _
    rw [hown]

lemma find?_of_mem (hnodup : (numbers.map (·.1)).Nodup) {sequence : Nat} {number : UInt32}
    (hmem : (sequence, number) ∈ numbers) :
    (numbers.find? (·.1 = sequence)).map (·.2) = some number := by
  cases hfound : numbers.find? (·.1 = sequence) with
  | none =>
    rw [List.find?_eq_none] at hfound
    exact absurd (decide_eq_true rfl) (hfound _ hmem)
  | some pair =>
    have hsequence : pair.1 = sequence := by
      have htrue := List.find?_some hfound
      rwa [decide_eq_true_eq] at htrue
    have hpair := List.inj_on_of_nodup_map hnodup (List.mem_of_find?_eq_some hfound) hmem hsequence
    rw [hpair]
    rfl

lemma number_of_success (hnew : ring.IsNew) (ops : List Op) (hmem : entry ∈ ring.entries ops)
    (hsuccess : successSnapshot? entry.op entry.answer = some snapshot) :
    ∃ number, snapshot.number = some number ∧
      number? (ring.entries ops) snapshot.sequence = some number := by
  have hnumbersAfter : ∀ ops, (ring.after ops).Numbers (noted numbered? (ring.entries ops)) := by
    intro ops
    have hall := hnew.wellFormed.noted_after hnew.numbers_nil
      (fun _ _ _ _ hring hstep hbefore => hbefore.next hring hstep) ops
    rwa [List.nil_append] at hall
  obtain ⟨before, after, hsplit⟩ := List.append_of_mem hmem
  obtain ⟨earlier, later, hops, -, hentry⟩ := exists_of_entries_eq hsplit
  have hring := hnew.wellFormed_after earlier
  have hstep := step hring entry.op
  have hanswer : entry.answer = (ring.after earlier).answer entry.op := congrArg Entry.answer hentry
  rw [hanswer, answer_eq] at hsuccess
  obtain ⟨slot, hslot, -, rfl⟩ := hstep.exists_succeeded hring hsuccess
  refine ⟨slot.number, rfl, ?_⟩
  have hnumber := ((hnumbersAfter earlier).next hring hstep).slots _ slot hslot
  apply find?_of_mem
  · rw [(hnumbersAfter ops).sequences]
    exact List.nodup_range
  · rw [hops, entries_append, noted, List.filterMap_append, ← noted, ← noted, noted_entries_cons,
      ← List.append_assoc, answer_eq]
    exact List.mem_append_left _ hnumber

lemma getLast?_filterMap {α β γ : Type} {f : α → Option β} {g : α → γ} {k : γ → Option β}
    {l : List α} (h : ∀ a ∈ l, ∃ b, f a = some b ∧ k (g a) = some b) :
    (l.filterMap f).getLast? = (l.map g).getLast?.bind k := by
  cases l using List.reverseRecOn with
  | nil => rfl
  | append_singleton before a =>
    obtain ⟨b, hf, hk⟩ := h a (List.mem_append_right _ (List.mem_singleton_self a))
    rw [List.filterMap_append, List.filterMap_cons_some hf, List.filterMap_nil,
      List.getLast?_concat, List.map_append, List.map_singleton, List.getLast?_concat,
      Option.bind_some, hk]

lemma reportsSkipped_iff (hsucceeded : ring.Succeeded (noted successSnapshot? entries))
    (hmem : snapshot ∈ noted successSnapshot? entries) (engine : Engine) :
    reportsSkipped entries engine snapshot.sequence ↔ engine ∈ snapshot.skipped := by
  rw [reportsSkipped, List.any_eq_true]
  constructor
  · rintro ⟨other, hother, hboth⟩
    rw [Bool.and_eq_true, decide_eq_true_eq, List.contains_iff_mem] at hboth
    obtain ⟨hsequence, hskipped⟩ := hboth
    rwa [hsucceeded.once snapshot hmem other hother hsequence] at hskipped
  · intro hskipped
    refine ⟨snapshot, hmem, ?_⟩
    rw [Bool.and_eq_true, decide_eq_true_eq, List.contains_iff_mem]
    exact ⟨rfl, hskipped⟩

/-- What counts the first successes counts the units that were answered with a success. -/
lemma tallies_firstSuccesses (hnew : ring.IsNew) (before later : List Op)
    (hnone : successes (ring.entries before) = []) :
    Tallies (ring.entries (before ++ later))
      (((firstSuccesses [] ((ring.after before).entries later)).map (·.2)).foldl
        Telemetry.deliver .new) := by
  have hentries := entries_append ring before later
  have hunits : (firstSuccesses [] ((ring.after before).entries later)).map (·.2.sequence) =
      (successes (ring.entries (before ++ later))).eraseDups := by
    have hsequences := sequences_firstSuccesses (hnew.wellFormed_after before) [] later
    rw [hentries, successes, List.filterMap_append, ← successes, ← successes, hnone]
    exact hsequences
  have hsucceeded : (ring.after (before ++ later)).Succeeded
      (noted successSnapshot? (ring.entries (before ++ later))) :=
    hnew.wellFormed.noted_after hnew.succeeded_nil
      (fun _ _ _ _ hring hstep hbefore => hbefore.next hring hstep) (before ++ later)
  have hfirsts : ∀ pair ∈ firstSuccesses [] ((ring.after before).entries later),
      pair.1 ∈ ring.entries (before ++ later) ∧
        successSnapshot? pair.1.op pair.1.answer = some pair.2 := by
    rintro ⟨entry, snapshot⟩ hmem
    obtain ⟨hentry, hsuccess⟩ := mem_firstSuccesses hmem
    rw [hentries]
    exact ⟨List.mem_append_right _ hentry, hsuccess⟩
  have hnoted : ∀ pair ∈ firstSuccesses [] ((ring.after before).entries later),
      pair.2 ∈ noted successSnapshot? (ring.entries (before ++ later)) := by
    intro pair hmem
    obtain ⟨hentry, hsuccess⟩ := hfirsts pair hmem
    exact List.mem_filterMap.mpr ⟨pair.1, hentry, hsuccess⟩
  constructor
  · rw [Telemetry.successes_foldl, List.length_map, ← hunits, List.length_map]
  · intro engine
    have hskips : ((firstSuccesses [] ((ring.after before).entries later)).map (·.2)).countP
        (engine ∈ ·.skipped) = (successes (ring.entries (before ++ later))).eraseDups.countP
          (reportsSkipped (ring.entries (before ++ later)) engine) := by
      rw [← hunits, List.countP_map, List.countP_map]
      apply List.countP_congr
      intro pair hmem
      rw [Function.comp_apply, Function.comp_apply, decide_eq_true_eq]
      exact (reportsSkipped_iff hsucceeded (hnoted pair hmem) engine).symm
    rw [Telemetry.skipped_foldl, hskips]
    intro snapshot hmem
    obtain ⟨pair, hpair, rfl⟩ := List.mem_map.mp hmem
    exact hsucceeded.skipped _ (hnoted pair hpair)
  · rw [(Telemetry.foldl_deliver _).2, List.filterMap_map, ← hunits]
    apply getLast?_filterMap
    intro pair hmem
    obtain ⟨hentry, hsuccess⟩ := hfirsts pair hmem
    exact number_of_success hnew (before ++ later) hentry hsuccess

theorem Tallies.le_submitted (hnew : ring.IsNew) {ops : List Op}
    (htallies : Tallies (ring.entries ops) counts) :
    counts.successes ≤ (ring.after ops).submitted ∧
      ∀ engine skips, counts.skipped.get? engine = some skips →
        skips ≤ (ring.after ops).submitted := by
  have hunits : (Ring.successes (ring.entries ops)).eraseDups.length ≤
      (ring.after ops).submitted := by
    have hbegun : (Ring.successes (ring.entries ops)).eraseDups ⊆
        List.range (ring.after ops).submitted := by
      intro sequence hmem
      rw [List.mem_eraseDups] at hmem
      exact List.mem_range.mpr ((hnew.heard_after ops).begun sequence hmem)
    have hlength := (List.subperm_of_subset (nodup_eraseDups _) hbegun).length_le
    rwa [List.length_range] at hlength
  constructor
  · rw [htallies.successes]
    exact hunits
  · intro engine skips hskips
    rw [htallies.skipped] at hskips
    split_ifs at hskips
    cases hskips
    exact Nat.le_trans List.countP_le_length hunits

/-- Counters that subscribed before the first unit was begun, and were not cancelled, agree with
the answers: they count the units that were answered with a success, and for each engine those for
which it was reported as skipped, and know the number of the unit whose first success came last. -/
theorem counters_agree (hnew : ring.IsNew) (before later : List Op) (held : Frame → Bool)
    (name : String) (hfirst : (ring.after before).submitted = 0)
    (hkept : ∀ entry ∈ ((ring.after before).next
      (.audience held (.subscribe name .telemetry))).entries later,
        entry.cancels (ring.after before).audience.nextId = false) :
    let subscribe := Op.audience held (.subscribe name .telemetry)
    let ops := before ++ [subscribe] ++ later
    (ring.after before).answer subscribe =
      .ok (.audience (.subscribed (ring.after before).audience.nextId)) ∧
    ∃ counts, (ring.after ops).audience.subscriptions[
        (ring.after before).audience.subscriptions.length]? =
          some ⟨(ring.after before).audience.nextId, name, .telemetry counts, true⟩ ∧
      Tallies (ring.entries ops) counts := by
  intro subscribe ops
  have hstart : ring.after (before ++ [subscribe]) = (ring.after before).next subscribe :=
    after_append ring before [subscribe]
  have hring := hnew.wellFormed_after (before ++ [subscribe])
  have hheard := hnew.heard_after (before ++ [subscribe])
  have hnone : successes (ring.entries (before ++ [subscribe])) = [] := by
    rw [List.eq_nil_iff_forall_not_mem]
    intro sequence hmem
    have hbegun := hheard.begun sequence hmem
    have hsame : ((ring.after before).next subscribe).submitted = 0 := hfirst
    rw [hstart, hsame] at hbegun
    exact Nat.not_lt_zero sequence hbegun
  have hanswer : (ring.after before).answer subscribe =
      .ok (.audience (.subscribed (ring.after before).audience.nextId)) := rfl
  obtain ⟨consumer, hmake, hat⟩ := subscription_of_subscribed hanswer
  cases hmake
  rw [← hstart] at hat hkept
  rw [hnone] at hheard
  refine ⟨hanswer, _, ?_, tallies_firstSuccesses hnew _ later hnone⟩
  rw [after_append ring (before ++ [subscribe]) later]
  exact counters_after hring hheard hat later hkept

/-- Two units succeed, and the first one is asked for twice. -/
def twoSuccesses : List Op :=
  [.begin 7 none, .retire 0, .query (fun _ => true) 0, .query (fun _ => true) 0, .begin 8 none,
    .retire 1, .query (fun _ => true) 1]

theorem counters_agree_twoSuccesses :
    single.submitted = 0 ∧
    ((single.next (.audience (fun _ => true) (.subscribe "counts" .telemetry))).entries
      twoSuccesses).all (fun entry => !entry.cancels 0) ∧
    ∃ counts, (single.after (.audience (fun _ => true) (.subscribe "counts" .telemetry) ::
        twoSuccesses)).audience.subscriptions[0]? = some ⟨0, "counts", .telemetry counts, true⟩ ∧
      counts.successes = 2 ∧ counts.lastNumber = some 8 ∧
      counts.skipped.get? ⟨0⟩ = some 2 ∧ counts.skipped.get? ⟨1⟩ = none := by
  have hnever : ((single.next (.audience (fun _ => true) (.subscribe "counts" .telemetry))).entries
      twoSuccesses).all (fun entry => !entry.cancels 0) := by decide +kernel
  have hkept : ∀ entry ∈ ((single.after []).next
      (.audience (fun _ => true) (.subscribe "counts" .telemetry))).entries twoSuccesses,
        entry.cancels 0 = false := by
    intro entry hmem
    have hnot := List.all_eq_true.mp hnever entry hmem
    rwa [Bool.not_eq_true'] at hnot
  obtain ⟨-, counts, hat, htallies⟩ :=
    counters_agree isNew_single [] twoSuccesses (fun _ => true) "counts" rfl hkept
  refine ⟨rfl, hnever, counts, hat, htallies.successes.trans ?_, htallies.lastNumber.trans ?_,
    (htallies.skipped ⟨0⟩).trans ?_, (htallies.skipped ⟨1⟩).trans ?_⟩
  all_goals decide +kernel

end Ring

end CompletionRing
