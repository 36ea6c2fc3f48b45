import CompletionRing.Proofs.Observer.Rolls
import Mathlib.Data.List.Induction
import Mathlib.Data.Nat.ModEq

/-!
# Identifiers

Identifiers count the registrations and start again after the last 32-bit number. So two observers
share an identifier just if a multiple of `UInt32.size` registrations lies between theirs. Each
identifier names one observer as long as nobody stays registered for that many registrations.
-/

namespace CompletionRing.Audience

/-- The identifiers of the registered observers, in the order of their registrations. -/
def ids (audience : Audience) : List UInt32 := audience.active.map (·.id)

/-- The identifier that a call answers, if it registers an observer. -/
def issued? : Except Fault Answer → Option UInt32
  | .ok (.replied (.subscribed id)) => some id
  | _ => none

/-- The identifiers that calls answer, in order. -/
def issued (audience : Audience) : List Call → List UInt32
  | [] => []
  | call :: rest => (issued? (audience.answer call)).toList ++ (audience.next call).issued rest

variable {audience : Audience} {position : Nat} {subscription : Subscription} {id : UInt32}

/-! ### Registrations -/

lemma ids_newcomers (audience : Audience) (call : Call) :
    (audience.newcomers call).map (·.id) = (issued? (audience.answer call)).toList := by
  cases call with
  | announce held snapshot =>
    rw [answer_announce]
    rfl
  | cancel id => rfl
  | use held op =>
    rcases audience.perform_cases held op with
      ⟨reply, audience', hperform, hcases⟩ | ⟨name, setup, fault, rfl, hmake, hperform⟩
    · rw [answer, use_of_ok hperform]
      cases hcases with
      | subscribed hmake =>
        rw [newcomers, hmake]
        rfl
      | _ => rfl
    · rw [answer, use_of_error hperform, newcomers, hmake]
      rfl

/-- Subscriptions stand in the order of their registrations. -/
lemma ids_after (audience : Audience) (calls : List Call) :
    (audience.after calls).subscriptions.map (·.id) =
      audience.subscriptions.map (·.id) ++ audience.issued calls := by
  induction calls generalizing audience with
  | nil => exact (List.append_nil _).symm
  | cons call rest ih =>
    have hkept : (audience.subscriptions.mapIdx (audience.fate call)).map (·.id) =
        audience.subscriptions.map (·.id) := by
      apply List.ext_getElem?
      intro place
      rw [List.getElem?_map, List.getElem?_mapIdx, List.getElem?_map, Option.map_map]
      rfl
    rw [issued, ← List.append_assoc, ← ids_newcomers, ← hkept, ← List.map_append,
      ← subscriptions_next]
    exact ih (audience.next call)

lemma numbered_after (h : audience.register.Numbered) (calls : List Call) :
    (audience.after calls).register.Numbered := by
  induction calls generalizing audience with
  | nil => exact h
  | cons call rest ih =>
    apply ih
    rw [register_next]
    exact h.next call

lemma ids_of_numbered (h : audience.register.Numbered) :
    audience.subscriptions.map (·.id) =
      (List.range audience.subscriptions.length).map UInt32.ofNat := by
  have hids := h.ids
  rw [length_register] at hids
  rw [← hids, register, List.map_map]
  rfl

lemma id_of_numbered (h : audience.register.Numbered)
    (hat : audience.subscriptions[position]? = some subscription) :
    subscription.id = UInt32.ofNat position := by
  have hids := congrArg (·[position]?) (ids_of_numbered h)
  obtain ⟨hlt, -⟩ := List.getElem?_eq_some_iff.mp hat
  simpa only [List.getElem?_map, hat, Option.map_some, List.getElem?_range hlt,
    Option.some.injEq] using hids

/-! ### Shared identifiers -/

lemma ofNat_eq_ofNat_iff {number other : Nat} :
    UInt32.ofNat number = UInt32.ofNat other ↔ number ≡ other [MOD UInt32.size] := by
  rw [← UInt32.toNat_inj, UInt32.toNat_ofNat', UInt32.toNat_ofNat']
  rfl

lemma lt_of_isRegistered (h : audience.isRegistered position) :
    position < audience.subscriptions.length := by
  obtain ⟨subscription, hat, -⟩ := (Option.any_eq_true _ _).mp h
  exact (List.getElem?_eq_some_iff.mp hat).1

lemma map_filter_eq_range {α β : Type} {keep : α → Bool} {f : α → β} {g : Nat → β} {items : List α}
    (h : ∀ place item, items[place]? = some item → f item = g place) :
    (items.filter keep).map f =
      ((List.range items.length).filter fun place => (items[place]?).any keep).map g := by
  induction items using List.reverseRecOn with
  | nil => rfl
  | append_singleton items item ih =>
    have hlast : (items ++ [item])[items.length]? = some item := List.getElem?_concat_length
    have hbefore : ∀ place, place < items.length → (items ++ [item])[place]? = items[place]? :=
      fun place hlt => List.getElem?_append_left hlt
    have hkept : ∀ place ∈ List.range items.length,
        ((items ++ [item])[place]?).any keep = (items[place]?).any keep := fun place hplace => by
      rw [hbefore place (List.mem_range.mp hplace)]
    have hrest : ∀ place other, items[place]? = some other → f other = g place := by
      intro place other hat
      rw [← hbefore place (List.getElem?_eq_some_iff.mp hat).1] at hat
      exact h place other hat
    rw [List.length_append, List.length_singleton, List.range_succ, List.filter_append,
      List.filter_append, List.filter_congr hkept, List.map_append, List.map_append, ih hrest]
    cases hkeep : keep item <;> simp [hkeep, h items.length item hlast]

lemma ids_eq (h : audience.register.Numbered) :
    audience.ids = ((List.range audience.subscriptions.length).filter audience.isRegistered).map
      UInt32.ofNat :=
  map_filter_eq_range fun _ _ hat => id_of_numbered h hat

lemma mem_registered_iff : position ∈ (List.range audience.subscriptions.length).filter
    audience.isRegistered ↔ audience.isRegistered position := by
  rw [List.mem_filter, List.mem_range, and_iff_right_iff_imp]
  exact lt_of_isRegistered

lemma mem_ids_iff (h : audience.register.Numbered) {number : Nat} :
    UInt32.ofNat number ∈ audience.ids ↔
      ∃ place, audience.isRegistered place ∧ place ≡ number [MOD UInt32.size] := by
  simp only [ids_eq h, List.mem_map, mem_registered_iff, ofNat_eq_ofNat_iff]

lemma nodup_ids_iff (h : audience.register.Numbered) :
    audience.ids.Nodup ↔ ∀ place other, audience.isRegistered place →
      audience.isRegistered other → place ≡ other [MOD UInt32.size] → place = other := by
  rw [ids_eq h, List.nodup_map_iff_inj_on (List.nodup_range.filter _)]
  simp only [mem_registered_iff, ofNat_eq_ofNat_iff]
  exact forall_congr' fun place => ⟨fun hsame other hplace => hsame hplace other,
    fun hsame hplace other => hsame other hplace⟩

/-! ### Cancellations -/

lemma length_active_cancel (audience : Audience) (id : UInt32) :
    audience.active.length = (audience.cancel id).2.active.length + audience.ids.count id := by
  rw [active_cancel, ids, List.count, List.countP_map, ← List.countP_eq_length_filter,
    List.length_eq_countP_add_countP (l := audience.active) (·.id ≠ id)]
  congr 2
  funext subscription
  simp [beq_eq_decide]

lemma cancel_one_iff (audience : Audience) :
    (∀ id, audience.active.length ≤ (audience.cancel id).2.active.length + 1) ↔
      audience.ids.Nodup := by
  rw [List.nodup_iff_count_le_one]
  apply forall_congr'
  intro id
  have hlength := audience.length_active_cancel id
  omega

/-- Identifiers are the numbers of the registrations, counted from zero, modulo `UInt32.size`. So
those of the registered observers are distinct just if no two of them registered a multiple of
`UInt32.size` registrations apart, as when all are among the latest `UInt32.size`. The next one is
in use just if one of them registered such a multiple ago. A cancellation strikes all with its
identifier, which is never more than one just if they are distinct. -/
theorem identifiers_distinct_iff (calls : List Call) :
    let audience := empty.after calls
    let count := audience.subscriptions.length
    empty.issued calls = (List.range count).map UInt32.ofNat ∧
    audience.subscriptions.map (·.id) = empty.issued calls ∧
    (audience.ids.Nodup ↔ ∀ place other, audience.isRegistered place →
      audience.isRegistered other → place ≡ other [MOD UInt32.size] → place = other) ∧
    ((∀ place, audience.isRegistered place → count ≤ place + UInt32.size) →
      audience.ids.Nodup) ∧
    (∀ name consumer, (audience.subscribe name consumer).1 ∈ audience.ids ↔
      ∃ place, audience.isRegistered place ∧ place ≡ count [MOD UInt32.size]) ∧
    (∀ id, (audience.cancel id).1 = decide (id ∈ audience.ids) ∧
      (audience.cancel id).2.active = audience.active.filter (·.id ≠ id)) ∧
    ((∀ id, audience.active.length ≤ (audience.cancel id).2.active.length + 1) ↔
      audience.ids.Nodup) := by
  intro audience count
  have h : audience.register.Numbered := numbered_after Register.numbered_empty calls
  have hissued : audience.subscriptions.map (·.id) = empty.issued calls := ids_after empty calls
  refine ⟨hissued.symm.trans (ids_of_numbered h), hissued, nodup_ids_iff h, ?_, ?_, ?_,
    audience.cancel_one_iff⟩
  · intro hrecent
    rw [nodup_ids_iff h]
    intro place other hplace hother hsame
    have hlt := lt_of_isRegistered hplace
    have hlt' := lt_of_isRegistered hother
    have hlate := hrecent place hplace
    have hlate' := hrecent other hother
    change place % 4294967296 = other % 4294967296 at hsame
    change count ≤ place + 4294967296 at hlate
    change count ≤ other + 4294967296 at hlate'
    omega
  · intro name consumer
    have hnext : audience.nextId = UInt32.ofNat count :=
      h.nextId.trans (congrArg UInt32.ofNat audience.length_register)
    rw [subscribe, hnext]
    exact mem_ids_iff h
  · intro id
    exact ⟨audience.found_cancel id, audience.active_cancel id⟩

/-- Three observers, of which one refuses everything and another one has room for one snapshot;
the last call cancels the first of them. -/
def mixed : List Call :=
  [.use (fun _ => true) (.subscribe "log" (.callback (.cycling [.error (.rejected "no")]))),
    .use (fun _ => true) (.subscribe "queue" (.channel (some 1))),
    .use (fun _ => true) (.subscribe "counts" .telemetry),
    .announce (fun _ => true) (.unavailable 0), .cancel 0]

/-- Three observers registered and the first of them is cancelled. -/
theorem identifiers_distinct_iff_mixed :
    let audience := empty.after mixed
    (∀ place, audience.isRegistered place →
      audience.subscriptions.length ≤ place + UInt32.size) ∧
    audience.ids = [1, 2] ∧ audience.ids.Nodup ∧
    (audience.subscribe "late" (.telemetry .new)).1 ∉ audience.ids ∧
    audience.active.length ≤ (audience.cancel 2).2.active.length + 1 := by
  intro audience
  have hrecent : ∀ place, audience.isRegistered place →
      audience.subscriptions.length ≤ place + UInt32.size := fun place _ =>
    Nat.le_trans (by decide : 3 ≤ UInt32.size) (Nat.le_add_left _ place)
  obtain ⟨-, -, -, hdistinct, hinuse, -, hone⟩ := identifiers_distinct_iff mixed
  have hnodup : audience.ids.Nodup := hdistinct hrecent
  refine ⟨hrecent, rfl, hnodup, ?_, hone.mpr hnodup 2⟩
  rw [hinuse]
  rintro ⟨place, hregistered, hsame⟩
  have hlt : place < 3 := lt_of_isRegistered hregistered
  change place % 4294967296 = 3 at hsame
  omega

/-! ### Identifiers that start again -/

/-- The registration of an observer. -/
def joining (name : String) : Call := .use (fun _ => true) (.subscribe name .telemetry)

/-- One observer stays while others come and go, one at a time. -/
def passing (rounds : Nat) : List Call :=
  joining "first" ::
    (List.range rounds).flatMap fun round => [joining "passing", .cancel (.ofNat (round + 1))]

lemma next_joining (audience : Audience) (name : String) :
    audience.next (joining name) = (audience.subscribe name (.telemetry .new)).2 := rfl

lemma answer_joining (audience : Audience) (name : String) :
    audience.answer (joining name) = .ok (.replied (.subscribed audience.nextId)) := rfl

lemma active_joining (audience : Audience) (name : String) :
    (audience.next (joining name)).active =
      audience.active ++ [⟨audience.nextId, name, .telemetry .new, true⟩] := by
  rw [next_joining, active, subscribe, List.filter_append]
  rfl

lemma after_passing {rounds : Nat} (h : rounds < UInt32.size) :
    (empty.after (passing rounds)).active = [⟨0, "first", .telemetry .new, true⟩] ∧
      (empty.after (passing rounds)).nextId = UInt32.ofNat (rounds + 1) := by
  induction rounds with
  | zero => exact ⟨rfl, rfl⟩
  | succ rounds ih =>
    obtain ⟨hactive, hnext⟩ := ih (Nat.lt_of_succ_lt h)
    have hround : empty.after (passing (rounds + 1)) =
        (((empty.after (passing rounds)).next (joining "passing")).cancel
          (.ofNat (rounds + 1))).2 := by
      rw [passing, List.range_succ, List.flatMap_append, ← List.cons_append, after_append]
      rfl
    have hfirst : (0 : UInt32) ≠ UInt32.ofNat (rounds + 1) := by
      intro hsame
      have hnat := congrArg UInt32.toNat hsame
      rw [UInt32.toNat_ofNat_of_lt' h] at hnat
      exact Nat.succ_ne_zero rounds hnat.symm
    constructor
    · rw [hround, active_cancel, active_joining, hactive, hnext]
      simp only [List.singleton_append, List.filter_cons, hfirst, ne_eq, not_false_eq_true,
        decide_true, if_true, not_true_eq_false, decide_false, Bool.false_eq_true, if_false,
        List.filter_nil]
    · rw [hround, UInt32.ofNat_add (rounds + 1) 1, ← hnext]
      rfl

/-- The identifiers start again while the first observer stays. The rounds are a variable, so that
no step of the proof tries to evaluate the run. -/
lemma after_lap {rounds : Nat} (h : rounds + 1 = UInt32.size) :
    (empty.after (passing rounds)).answer (joining "last") = .ok (.replied (.subscribed 0)) ∧
    (empty.after (passing rounds)).active = [⟨0, "first", .telemetry .new, true⟩] ∧
    (empty.after (passing rounds ++ [joining "last"])).active =
      [⟨0, "first", .telemetry .new, true⟩, ⟨0, "last", .telemetry .new, true⟩] := by
  obtain ⟨hactive, hnext⟩ := after_passing (Nat.lt_of_succ_le h.le)
  have hzero : (empty.after (passing rounds)).nextId = 0 := by
    rw [hnext, h]
    rfl
  refine ⟨?_, hactive, ?_⟩
  · rw [answer_joining, hzero]
  · rw [after_append]
    change ((empty.after (passing rounds)).next (joining "last")).active = _
    rw [active_joining, hactive, hzero]
    rfl

/-- Two registered observers have the same identifier. The second one was given it while it was in
use, and one cancellation strikes both. -/
theorem identifier_shared :
    let before := empty.after (passing (UInt32.size - 1))
    let audience := empty.after (passing (UInt32.size - 1) ++ [joining "last"])
    before.answer (joining "last") = .ok (.replied (.subscribed 0)) ∧ 0 ∈ before.ids ∧
      audience.ids = [0, 0] ∧ ¬audience.ids.Nodup ∧ (audience.cancel 0).2.active = [] := by
  obtain ⟨hanswer, hbefore, hactive⟩ :=
    @after_lap (UInt32.size - 1) (Nat.sub_add_cancel (by decide))
  simp only [active_cancel, ids, hbefore, hactive]
  exact ⟨hanswer, List.mem_singleton_self 0, rfl, by decide, rfl⟩

end CompletionRing.Audience
