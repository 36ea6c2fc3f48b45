import CompletionRing.Proofs.Observer.Fates
import CompletionRing.Proofs.Observer.Responses
import Mathlib.Data.List.Nodup

/-!
# Rolls

Whoever sees the calls on an audience and their answers can keep a roll of the observers. As long
as the identifiers do not start again, an announcement reaches just the observers on the roll, in
the order of their registrations and whatever they answer, and a cancellation strikes one of them.
-/

namespace CompletionRing

/-- Is it a list, which keeps frames alive for others? -/
def Consumer.keepsFrames : Consumer → Bool
  | .promotions _ => true
  | _ => false

namespace Audience

/-- Who was handed which snapshot in the course of calls. -/
def handed (audience : Audience) : List Call → List (UInt32 × Snapshot)
  | [] => []
  | call :: rest =>
    (deliveries (audience.call call).trace.events).map (fun delivery =>
      (delivery.observer, delivery.snapshot)) ++ (audience.next call).handed rest

def Call.registers : Call → Bool
  | .use _ (.subscribe _ _) => true
  | _ => false

/-- The identifiers that were given out, and those whose observers are registered, in order. -/
@[ext]
structure Roll where
  issued : List UInt32
  registered : List UInt32

namespace Roll

def empty : Roll := ⟨[], []⟩

def issue (roll : Roll) (id : UInt32) : Roll := ⟨roll.issued ++ [id], roll.registered ++ [id]⟩

def strike (roll : Roll) (id : UInt32) : Roll :=
  { roll with registered := roll.registered.erase id }

/-- The roll after a call with its answer. -/
def entered (roll : Roll) : Call → Except Fault Answer → Roll
  | .use _ (.subscribe _ _), .ok (.replied (.subscribed id)) => roll.issue id
  | .use _ (.cancel position), _ => (roll.issued[position]?).elim roll roll.strike
  | .cancel id, _ => roll.strike id
  | _, _ => roll

end Roll

/-- The roll after calls. -/
def rollAfter (audience : Audience) (roll : Roll) : List Call → Roll
  | [] => roll
  | call :: rest =>
    (audience.next call).rollAfter (roll.entered call (audience.answer call)) rest

/-- Is the roll right? -/
structure Follows (roll : Roll) (audience : Audience) : Prop where
  issued : audience.subscriptions.map (·.id) = roll.issued
  registered : audience.active.map (·.id) = roll.registered

/-- What there is to an audience besides its consumers: the next identifier, and for each
subscription the identifier and whether it is active. -/
structure Register where
  nextId : UInt32
  badges : List (UInt32 × Bool)

namespace Register

def strike (register : Register) (id : UInt32) : Register :=
  { register with badges := register.badges.map fun (other, active) =>
      (other, active && other ≠ id) }

/-- The register after a call. -/
def next (register : Register) : Call → Register
  | .use _ (.subscribe _ setup) =>
    match setup.make with
    | .ok _ => ⟨register.nextId + 1, register.badges ++ [(register.nextId, true)]⟩
    | .error _ => register
  | .use _ (.cancel position) =>
    match register.badges[position]? with
    | some (id, _) => register.strike id
    | none => register
  | .cancel id => register.strike id
  | _ => register

/-- Whom a call hands which snapshot. -/
def handed (register : Register) : Call → List (UInt32 × Snapshot)
  | .announce _ snapshot => (register.badges.filter (·.2)).map fun badge => (badge.1, snapshot)
  | _ => []

/-- The roll that goes with a register. -/
def roll (register : Register) : Roll :=
  ⟨register.badges.map (·.1), (register.badges.filter (·.2)).map (·.1)⟩

/-- Are the identifiers those of counting up from zero? -/
structure Numbered (register : Register) : Prop where
  ids : register.badges.map (·.1) = (List.range register.badges.length).map UInt32.ofNat
  nextId : register.nextId = UInt32.ofNat register.badges.length

end Register

def register (audience : Audience) : Register :=
  ⟨audience.nextId, audience.subscriptions.map fun subscription =>
    (subscription.id, subscription.active)⟩

/-- Do the audiences differ at most in the consumer at a position, which keeps no frames? -/
structure Replaced (position : Nat) (audience audience' : Audience) : Prop where
  register : audience'.register = audience.register
  others : ∀ other, other ≠ position →
    audience'.subscriptions[other]? = audience.subscriptions[other]?
  own : ∃ subscription consumer, audience.subscriptions[position]? = some subscription ∧
    audience'.subscriptions[position]? = some { subscription with consumer } ∧
    subscription.consumer.keepsFrames = false ∧ consumer.keepsFrames = false

/-- Does an announcement reach the observers on the roll, once each and in order? -/
structure TellsEach (audience : Audience) (roll : Roll) (held : Frame → Bool)
    (snapshot : Snapshot) : Prop where
  /-- It comes to its end. -/
  returns : (audience.announce held snapshot).result = .ok (audience.told held snapshot)
  handed : (deliveries (audience.announce held snapshot).events).map
    (fun delivery => (delivery.observer, delivery.snapshot)) =
      roll.registered.map (·, snapshot)
  /-- Each of them does with the snapshot what its consumer can do, and the answer is noted. -/
  responds : ∀ (position : Nat) (subscription : Subscription),
    audience.subscriptions[position]? = some subscription → subscription.active →
      ∃ answer consumer,
        subscription.consumer.Responds (audience.keepsAlive held) snapshot answer consumer ∧
        (deliveries (audience.announce held snapshot).events)[audience.place position]? =
          some ⟨subscription.id, snapshot, answer⟩ ∧
        (audience.told held snapshot).2.subscriptions[position]? =
          some { subscription with consumer }
  rests : ∀ (position : Nat) (subscription : Subscription),
    audience.subscriptions[position]? = some subscription → subscription.active = false →
      (audience.told held snapshot).2.subscriptions[position]? = some subscription
  total : (audience.told held snapshot).1.delivered +
    (audience.told held snapshot).1.failures.length = roll.registered.length
  failures : (audience.told held snapshot).1.failures =
    (deliveries (audience.announce held snapshot).events).filterMap Delivery.failure?
  /-- Nobody is registered or cancelled by it. -/
  follows : Follows roll (audience.told held snapshot).2

/-- Does a cancellation strike the observer with the identifier, and no other one? -/
structure StrikesOne (audience : Audience) (roll : Roll) (id : UInt32) : Prop where
  found : (audience.cancel id).1 = decide (id ∈ roll.registered)
  follows : Follows (roll.strike id) (audience.cancel id).2
  others : (audience.cancel id).2.active = audience.active.filter (·.id ≠ id)
  own : ∀ position, roll.issued[position]? = some id →
    (audience.cancel id).2.subscriptions = audience.subscriptions.modify position
      fun subscription => { subscription with active := false }

variable {audience audience' : Audience} {roll : Roll} {held : Frame → Bool} {op : Op}
  {id : UInt32} {position : Nat}

/-! ### Registers -/

lemma getElem?_badges (audience : Audience) (position : Nat) :
    audience.register.badges[position]? = (audience.subscriptions[position]?).map
      fun subscription => (subscription.id, subscription.active) := List.getElem?_map

lemma register_setConsumer (audience : Audience) (position : Nat) (consumer : Consumer) :
    (audience.setConsumer position consumer).register = audience.register := by
  unfold register setConsumer
  congr 1
  apply List.ext_getElem?
  intro index
  rw [List.getElem?_map, List.getElem?_map, List.getElem?_modify]
  split_ifs <;> cases audience.subscriptions[index]? <;> rfl

lemma register_cancel (audience : Audience) (id : UInt32) :
    (audience.cancel id).2.register = audience.register.strike id := by
  unfold register cancel Register.strike
  congr 1
  rw [List.map_map, List.map_map]
  apply List.map_congr_left
  intro subscription _
  by_cases hid : subscription.id = id <;> simp [hid]

lemma register_told (audience : Audience) (held : Frame → Bool) (snapshot : Snapshot) :
    (audience.told held snapshot).2.register = audience.register := by
  rw [audience_told]
  unfold register
  congr 1
  rw [List.map_map]
  apply List.map_congr_left
  intro subscription _
  simp

lemma register_next (audience : Audience) (call : Call) :
    (audience.next call).register = audience.register.next call := by
  cases call with
  | announce held snapshot =>
    rw [next_announce]
    exact audience.register_told held snapshot
  | cancel id => exact audience.register_cancel id
  | use held op =>
    unfold next
    rcases audience.perform_cases held op with
      ⟨reply, audience', hperform, hcases⟩ | ⟨name, setup, fault, rfl, hmake, hperform⟩
    · rw [use_of_ok hperform, Run.state_done]
      cases hcases with
      | subscribed hmake =>
        simp only [Register.next, hmake, register, subscribe, List.map_append, List.map_cons,
          List.map_nil]
      | @cancelled position subscription hat =>
        simp only [Register.next, getElem?_badges, hat, Option.map_some]
        exact audience.register_cancel subscription.id
      | notCancelled hat => simp only [Register.next, getElem?_badges, hat, Option.map_none]
      | received hat => exact audience.register_setConsumer _ _
      | hungUp hat => exact audience.register_setConsumer _ _
      | notReceived | notHungUp | inspected | notInspected => rfl
    · rw [use_of_error hperform, Register.next, hmake]

lemma handed_call (audience : Audience) (call : Call) :
    (deliveries (audience.call call).trace.events).map (fun delivery =>
      (delivery.observer, delivery.snapshot)) = audience.register.handed call := by
  cases call with
  | announce held snapshot =>
    have hevents : (audience.call (.announce held snapshot)).trace.events =
        (audience.announce held snapshot).events := by
      obtain ⟨hresult, -⟩ := audience.announce_spec held snapshot
      have hannounce : audience.announce held snapshot =
          ⟨(audience.announce held snapshot).events, .ok (audience.told held snapshot)⟩ := by
        rw [← hresult]
      rw [call, hannounce]
      exact List.append_nil _
    rw [hevents, deliveries_announce, deliveriesOf, active, Register.handed, register,
      List.filter_map, List.map_map, List.map_map]
    rfl
  | cancel id => rfl
  | use held op =>
    rcases audience.perform_cases held op with
      ⟨reply, audience', hperform, -⟩ | ⟨name, setup, fault, rfl, -, hperform⟩
    · rw [use_of_ok hperform]
      rfl
    · rw [use_of_error hperform]
      rfl

lemma handed_congr (h : audience'.register = audience.register) (calls : List Call) :
    audience'.handed calls = audience.handed calls := by
  induction calls generalizing audience audience' with
  | nil => rfl
  | cons call rest ih =>
    have hnext : (audience'.next call).register = (audience.next call).register := by
      rw [register_next, register_next, h]
    rw [handed, handed, handed_call, handed_call, h, ih hnext]

/-! ### Identifiers -/

namespace Register

variable {register : Register}

lemma length_next_le (register : Register) (call : Call) :
    (register.next call).badges.length ≤
      register.badges.length + if call.registers then 1 else 0 := by
  unfold next Call.registers strike
  split <;> (try split) <;> simp

lemma numbered_empty : Audience.empty.register.Numbered := ⟨rfl, rfl⟩

lemma Numbered.strike (h : register.Numbered) (id : UInt32) : (register.strike id).Numbered := by
  have hids : (register.strike id).badges.map (·.1) = register.badges.map (·.1) := by
    rw [Register.strike, List.map_map]
    rfl
  have hlength : (register.strike id).badges.length = register.badges.length := List.length_map _
  exact ⟨by rw [hids, hlength, h.ids], by rw [hlength]; exact h.nextId⟩

lemma Numbered.next (h : register.Numbered) (call : Call) : (register.next call).Numbered := by
  unfold Register.next
  split
  · split
    · refine ⟨?_, ?_⟩
      · rw [List.map_append, h.ids, List.length_append, List.length_singleton, List.range_succ,
          List.map_append, h.nextId]
        rfl
      · rw [h.nextId, List.length_append, List.length_singleton, UInt32.ofNat_add]
        rfl
    · exact h
  · split
    · exact h.strike _
    · exact h
  · exact h.strike _
  · exact h

lemma Numbered.nodup (h : register.Numbered) (hfew : register.badges.length ≤ UInt32.size) :
    (register.badges.map (·.1)).Nodup := by
  rw [h.ids]
  apply List.Nodup.map_on
  · intro number hnumber other hother hsame
    have hlt := Nat.lt_of_lt_of_le (List.mem_range.mp hnumber) hfew
    have hlt' := Nat.lt_of_lt_of_le (List.mem_range.mp hother) hfew
    have hnat := congrArg UInt32.toNat hsame
    rwa [UInt32.toNat_ofNat_of_lt' hlt, UInt32.toNat_ofNat_of_lt' hlt'] at hnat
  · exact List.nodup_range

lemma roll_strike (hnodup : (register.badges.map (·.1)).Nodup) (id : UInt32) :
    (register.strike id).roll = register.roll.strike id := by
  have hregistered : ((register.badges.filter (·.2)).map (·.1)).Nodup :=
    hnodup.sublist (List.filter_sublist.map _)
  unfold roll Roll.strike strike
  rw [hregistered.erase_eq_filter]
  congr 1
  · rw [List.map_map]
    rfl
  · rw [List.filter_map, List.map_map, List.filter_map, List.filter_filter]
    congr 1
    apply List.filter_congr
    rintro ⟨other, active⟩ _
    cases active <;> simp [bne, beq_eq_decide]

end Register

lemma follows_iff : Follows roll audience ↔ audience.register.roll = roll := by
  have hissued : audience.register.roll.issued = audience.subscriptions.map (·.id) :=
    List.map_map
  have hregistered : audience.register.roll.registered = audience.active.map (·.id) := by
    rw [Register.roll, register, List.filter_map, List.map_map, List.map_map]
    rfl
  constructor
  · intro h
    exact Roll.ext (hissued.trans h.issued) (hregistered.trans h.registered)
  · rintro rfl
    exact ⟨hissued.symm, hregistered.symm⟩

lemma Follows.getElem?_issued (h : Follows roll audience) (position : Nat) :
    roll.issued[position]? = (audience.subscriptions[position]?).map (·.id) := by
  rw [← h.issued, List.getElem?_map]

lemma Follows.next (h : Follows roll audience) (hnodup : roll.issued.Nodup) (call : Call) :
    Follows (roll.entered call (audience.answer call)) (audience.next call) := by
  have hroll := follows_iff.mp h
  have hnodup' : (audience.register.badges.map (·.1)).Nodup := by
    rw [← hroll] at hnodup
    exact hnodup
  rw [follows_iff, register_next]
  cases call with
  | announce held snapshot => exact hroll
  | cancel id => rw [Register.next, Register.roll_strike hnodup', hroll, Roll.entered]
  | use held op =>
    rcases audience.perform_cases held op with
      ⟨reply, audience', hperform, hcases⟩ | ⟨name, setup, fault, rfl, hmake, hperform⟩
    · have hanswer : audience.answer (.use held op) = .ok (.replied reply) := by
        rw [answer, use_of_ok hperform]
        rfl
      rw [hanswer]
      cases hcases with
      | subscribed hmake =>
        simp only [Register.next, hmake, Roll.entered, ← hroll, Roll.issue, Register.roll,
          List.map_append, List.filter_append]
        rfl
      | cancelled hat =>
        simp only [Register.next, getElem?_badges, Roll.entered, h.getElem?_issued, hat,
          Option.map_some, Option.elim_some, Register.roll_strike hnodup', hroll]
      | notCancelled hat =>
        simp only [Register.next, getElem?_badges, Roll.entered, h.getElem?_issued, hat,
          Option.map_none, Option.elim_none, hroll]
      | received | notReceived | hungUp | notHungUp | inspected | notInspected => exact hroll
    · rw [answer, use_of_error hperform, Register.next, hmake]
      exact hroll

lemma length_register (audience : Audience) :
    audience.register.badges.length = audience.subscriptions.length := List.length_map _

/-- As long as the identifiers do not start again, the roll is right. -/
lemma Follows.after (h : Follows roll audience) (hnumbered : audience.register.Numbered)
    (calls : List Call)
    (hfew : audience.register.badges.length + calls.countP Call.registers ≤ UInt32.size) :
    Follows (audience.rollAfter roll calls) (audience.after calls) ∧
      (audience.rollAfter roll calls).issued.Nodup := by
  have hnodup : roll.issued.Nodup := by
    rw [← follows_iff.mp h]
    exact hnumbered.nodup (Nat.le_trans (Nat.le_add_right _ _) hfew)
  induction calls generalizing audience roll with
  | nil => exact ⟨h, hnodup⟩
  | cons call rest ih =>
    have hnext := h.next hnodup call
    have hnumbered' : (audience.next call).register.Numbered := by
      rw [register_next]
      exact hnumbered.next call
    have hfew' : (audience.next call).register.badges.length + rest.countP Call.registers ≤
        UInt32.size := by
      have hlength := audience.register.length_next_le call
      rw [register_next]
      rw [List.countP_cons] at hfew
      omega
    apply ih hnext hnumbered' hfew'
    rw [← follows_iff.mp hnext]
    exact hnumbered'.nodup (Nat.le_trans (Nat.le_add_right _ _) hfew')

/-! ### Announcements and cancellations -/

lemma getElem?_told {subscription : Subscription}
    (hat : audience.subscriptions[position]? = some subscription) (held : Frame → Bool)
    (snapshot : Snapshot) : (audience.told held snapshot).2.subscriptions[position]? =
      some (subscription.told (audience.keepsAlive held) snapshot) := by
  rw [audience_told, List.getElem?_map, hat, Option.map_some]

lemma Follows.tellsEach (h : Follows roll audience) (held : Frame → Bool) (snapshot : Snapshot) :
    audience.TellsEach roll held snapshot where
  returns := (audience.announce_spec held snapshot).1
  handed := by
    rw [deliveries_announce, deliveriesOf, List.map_map, ← h.registered, List.map_map]
    rfl
  responds := by
    intro position subscription hat hactive
    refine ⟨_, _, subscription.consumer.responds_taking (audience.keepsAlive held) snapshot, ?_, ?_⟩
    · rw [deliveries_announce]
      exact getElem?_deliveriesOf hat hactive held snapshot
    · rw [getElem?_told hat, Subscription.told, if_pos hactive]
  rests := by
    intro position subscription hat hcancelled
    rw [getElem?_told hat, Subscription.told, hcancelled, if_neg Bool.false_ne_true]
  total := by
    rw [fanOut_told, FanOut.length_ofDeliveries, ← h.registered, deliveriesOf, List.length_map,
      List.length_map]
  failures := by
    rw [fanOut_told, deliveries_announce]
    rfl
  follows := by
    rw [follows_iff, register_told]
    exact follows_iff.mp h

lemma active_cancel (audience : Audience) (id : UInt32) :
    (audience.cancel id).2.active = audience.active.filter (·.id ≠ id) := by
  unfold active cancel
  dsimp only
  induction audience.subscriptions with
  | nil => rfl
  | cons subscription rest ih =>
    rw [List.map_cons]
    by_cases hid : subscription.id = id
    · cases hactive : subscription.active <;> simp_all
    · cases hactive : subscription.active <;> simp_all

lemma found_cancel (audience : Audience) (id : UInt32) :
    (audience.cancel id).1 = decide (id ∈ audience.active.map (·.id)) := by
  unfold cancel
  dsimp only
  rw [Bool.eq_iff_iff, List.any_eq_true, decide_eq_true_eq, List.mem_map]
  simp

lemma Follows.strikesOne (h : Follows roll audience) (hnodup : roll.issued.Nodup) (id : UInt32) :
    audience.StrikesOne roll id where
  found := by
    rw [← h.registered]
    exact audience.found_cancel id
  follows := h.next hnodup (.cancel id)
  others := audience.active_cancel id
  own := by
    intro position hissued
    unfold cancel
    dsimp only
    apply List.ext_getElem?
    intro index
    rw [List.getElem?_map, List.getElem?_modify]
    cases hat : audience.subscriptions[index]? with
    | none => rfl
    | some subscription =>
      have hindex : roll.issued[index]? = some subscription.id := by
        rw [h.getElem?_issued, hat, Option.map_some]
      have hsame : subscription.id = id ↔ position = index := by
        constructor
        · rintro rfl
          exact (List.getElem?_inj (List.getElem?_eq_some_iff.mp hissued).1 hnodup).mp
            (hissued.trans hindex.symm)
        · rintro rfl
          rw [hissued, Option.some.injEq] at hindex
          exact hindex.symm
      by_cases hid : subscription.id = id
      · simp [hid, hsame.mp hid]
      · simp [hid, mt hsame.mpr hid]

/-! ### Another consumer in the place of one -/

lemma keepsFrames_taking {alive : Frame → Bool} {snapshot : Snapshot} {consumer : Consumer}
    (h : consumer.keepsFrames = false) :
    (consumer.taking alive snapshot).2.keepsFrames = false := by
  cases consumer with
  | promotions list => cases h
  | _ => rfl

lemma keepsFrames_received {consumer : Consumer} (h : consumer.keepsFrames = false)
    (limit : Option Nat) : (consumer.received limit).keepsFrames = false := by
  cases consumer with
  | promotions list => cases h
  | _ => rfl

lemma keepsFrames_hungUp {consumer : Consumer} (h : consumer.keepsFrames = false) :
    consumer.hungUp.keepsFrames = false := by
  cases consumer with
  | promotions list => cases h
  | _ => rfl

lemma holds_iff {frame : Frame} : audience.holds frame ↔ ∃ (index : Nat) (subscription : _),
    audience.subscriptions[index]? = some subscription ∧ subscription.consumer.holds frame := by
  rw [holds, List.any_eq_true]
  constructor
  · rintro ⟨subscription, hmem, hholds⟩
    obtain ⟨index, hat⟩ := List.mem_iff_getElem?.mp hmem
    exact ⟨index, subscription, hat, hholds⟩
  · rintro ⟨index, subscription, hat, hholds⟩
    exact ⟨subscription, List.mem_of_getElem? hat, hholds⟩

lemma not_holds_of_keepsFrames {consumer : Consumer} {frame : Frame}
    (h : consumer.keepsFrames = false) : ¬consumer.holds frame := by
  cases consumer with
  | promotions list => cases h
  | _ => exact Bool.false_ne_true

namespace Replaced

lemma holds_le (h : Replaced position audience audience') {frame : Frame}
    (hholds : audience.holds frame) : audience'.holds frame := by
  obtain ⟨own, consumer, hown, -, hkeeps, -⟩ := h.own
  obtain ⟨index, subscription, hat, hframe⟩ := holds_iff.mp hholds
  have hother : index ≠ position := by
    rintro rfl
    rw [hown] at hat
    cases hat
    exact not_holds_of_keepsFrames hkeeps hframe
  exact holds_iff.mpr ⟨index, subscription, (h.others index hother).trans hat, hframe⟩

lemma symm (h : Replaced position audience audience') : Replaced position audience' audience where
  register := h.register.symm
  others := fun other hother => (h.others other hother).symm
  own := by
    obtain ⟨subscription, consumer, hown, hown', hkeeps, hkeeps'⟩ := h.own
    exact ⟨{ subscription with consumer }, subscription.consumer, hown', hown, hkeeps', hkeeps⟩

lemma keepsAlive (h : Replaced position audience audience') (held : Frame → Bool) :
    audience'.keepsAlive held = audience.keepsAlive held := by
  funext frame
  unfold Audience.keepsAlive
  congr 1
  rw [Bool.eq_iff_iff]
  exact ⟨h.symm.holds_le, h.holds_le⟩

lemma length (h : Replaced position audience audience') :
    audience'.subscriptions.length = audience.subscriptions.length := by
  rw [← length_register, ← length_register, h.register]

lemma cancelled? (h : Replaced position audience audience') (call : Call) :
    audience'.cancelled? call = audience.cancelled? call := by
  cases call with
  | use held op =>
    cases op with
    | cancel place =>
      have hbadge := congrArg (fun register => (register.badges[place]?).map (·.1)) h.register
      simp only [Audience.register, List.getElem?_map, Option.map_map] at hbadge
      exact hbadge
    | _ => rfl
  | _ => rfl

lemma newcomers (h : Replaced position audience audience') (call : Call) :
    audience'.newcomers call = audience.newcomers call := by
  have hid : audience'.nextId = audience.nextId := congrArg Register.nextId h.register
  unfold Audience.newcomers
  rw [hid]

lemma fate (h : Replaced position audience audience') (call : Call) :
    audience'.fate call = audience.fate call := by
  funext place subscription
  unfold Audience.fate
  rw [h.cancelled?]
  cases call with
  | announce held snapshot => rw [served, served, h.keepsAlive]
  | cancel id => rfl
  | use held op => cases op <;> rfl

end Replaced

lemma keepsFrames_fate {subscription : Subscription} (h : subscription.consumer.keepsFrames = false)
    (audience : Audience) (call : Call) (place : Nat) :
    (audience.fate call place subscription).consumer.keepsFrames = false := by
  change (audience.served place subscription call).keepsFrames = false
  unfold served
  split
  · unfold Subscription.told
    split
    · exact keepsFrames_taking h
    · exact h
  · split
    · exact keepsFrames_received h _
    · exact h
  · split
    · exact keepsFrames_hungUp h
    · exact h
  · exact h

/-- Whatever is called, the two audiences stay alike but for the consumer at the position. -/
lemma Replaced.next (h : Replaced position audience audience') (call : Call) :
    Replaced position (audience.next call) (audience'.next call) where
  register := by rw [register_next, register_next, h.register]
  others := by
    intro other hother
    rw [subscriptions_next, subscriptions_next, h.fate, h.newcomers, List.getElem?_append,
      List.getElem?_append, List.length_mapIdx, List.length_mapIdx, h.length,
      List.getElem?_mapIdx, List.getElem?_mapIdx, h.others other hother]
  own := by
    obtain ⟨subscription, consumer, hown, hown', hkeeps, hkeeps'⟩ := h.own
    refine ⟨audience.fate call position subscription,
      (audience.fate call position { subscription with consumer }).consumer, ?_, ?_,
      keepsFrames_fate hkeeps audience call position,
      keepsFrames_fate hkeeps' audience call position⟩
    · exact subscription_next hown call
    · rw [subscription_next hown' call, h.fate]
      rfl

lemma Replaced.after (h : Replaced position audience audience') (calls : List Call) :
    Replaced position (audience.after calls) (audience'.after calls) := by
  induction calls generalizing audience audience' with
  | nil => exact h
  | cons call rest ih => exact ih (h.next call)

lemma Replaced.of_setConsumer {own consumer : Consumer}
    (hat : audience.consumer? position = some own) (hkeeps : own.keepsFrames = false)
    (hkeeps' : consumer.keepsFrames = false) :
    Replaced position audience (audience.setConsumer position consumer) where
  register := audience.register_setConsumer position consumer
  others := by
    intro other hother
    simp [setConsumer, hother.symm]
  own := by
    unfold consumer? at hat
    obtain ⟨subscription, hsubscription, rfl⟩ := Option.map_eq_some_iff.mp hat
    refine ⟨subscription, consumer, hsubscription, ?_, hkeeps, hkeeps'⟩
    simp [setConsumer, hsubscription]

/-- As long as the identifiers do not start again, each of them was given out once, an announcement
tells the observers on the roll, a cancellation strikes the one with its identifier, and who is
told of what does not depend on what an observer answers. If the observer keeps no frames, nothing
that becomes of the others does. -/
theorem roll_told_in_order (calls : List Call)
    (hfew : calls.countP Call.registers < UInt32.size) :
    (empty.rollAfter .empty calls).issued.Nodup ∧
    Follows (empty.rollAfter .empty calls) (empty.after calls) ∧
    (∀ held snapshot,
      (empty.after calls).TellsEach (empty.rollAfter .empty calls) held snapshot) ∧
    (∀ id, (empty.after calls).StrikesOne (empty.rollAfter .empty calls) id) ∧
    (∀ position consumer later,
      ((empty.after calls).setConsumer position consumer).handed later =
        (empty.after calls).handed later) ∧
    ∀ position own consumer later, (empty.after calls).consumer? position = some own →
      own.keepsFrames = false → consumer.keepsFrames = false → ∀ other, other ≠ position →
        (((empty.after calls).setConsumer position consumer).after later).subscriptions[other]? =
          ((empty.after calls).after later).subscriptions[other]? := by
  have hempty : Follows .empty empty := ⟨rfl, rfl⟩
  have hroom : empty.register.badges.length + calls.countP Call.registers ≤ UInt32.size :=
    Nat.le_of_lt ((Nat.zero_add _).symm ▸ hfew)
  obtain ⟨hfollows, hnodup⟩ := hempty.after Register.numbered_empty calls hroom
  refine ⟨hnodup, hfollows, hfollows.tellsEach, hfollows.strikesOne hnodup, ?_, ?_⟩
  · intro position consumer later
    exact handed_congr (register_setConsumer _ position consumer) later
  · intro position own consumer later hat hkeeps hkeeps' other hother
    exact ((Replaced.of_setConsumer hat hkeeps hkeeps').after later).others other hother

/-- Four observers, of which the first one is cancelled. The function takes every other snapshot
only, and the channel has room for one of them. -/
def quartet : List Call :=
  [.use (fun _ => true) (.subscribe "early" .telemetry),
    .use (fun _ => true)
      (.subscribe "log" (.callback (.cycling [.ok (), .error (.rejected "no")]))),
    .use (fun _ => true) (.subscribe "queue" (.channel (some 1))),
    .use (fun _ => true) (.subscribe "counts" .telemetry),
    .announce (fun _ => true) (.unavailable 0), .cancel 0]

/-- The next snapshot is refused by the function, which was called for it, and by the channel. -/
theorem roll_told_in_order_quartet :
    let audience := empty.after quartet
    let sent := deliveries (audience.announce (fun _ => true) (.unavailable 1)).events
    let told := (audience.told (fun _ => true) (.unavailable 1)).2
    quartet.countP Call.registers < UInt32.size ∧
    sent.map (fun delivery => (delivery.observer, delivery.snapshot)) =
      [(1, .unavailable 1), (2, .unavailable 1), (3, .unavailable 1)] ∧
    (audience.told (fun _ => true) (.unavailable 1)).1 =
      ⟨1, [(1, .rejected "no"), (2, .full)]⟩ ∧
    audience.consumer? 1 =
      some (.callback { Callback.cycling [.ok (), .error (.rejected "no")] with calls := 1 }) ∧
    sent[0]? = some ⟨1, .unavailable 1, .error (.rejected "no")⟩ ∧
    told.consumer? 1 =
      some (.callback { Callback.cycling [.ok (), .error (.rejected "no")] with calls := 2 }) ∧
    sent[1]? = some ⟨2, .unavailable 1, .error .full⟩ ∧
    told.consumer? 2 = some (.channel ⟨some 1, [.unavailable 0], true⟩) ∧
    told.consumer? 0 = some (.telemetry ⟨1, 0, none, .empty⟩) ∧
    (audience.cancel 0).1 = false ∧ (audience.cancel 3).1 = true ∧
    (audience.setConsumer 2 (.telemetry .new)).handed
      [.announce (fun _ => true) (.unavailable 1)] =
        [(1, .unavailable 1), (2, .unavailable 1), (3, .unavailable 1)] ∧
    ((audience.setConsumer 2 (.telemetry .new)).after
      [.announce (fun _ => true) (.unavailable 1)]).consumer? 3 =
        some (.telemetry ⟨2, 0, none, .empty⟩) := by
  intro audience sent told
  have hfew : quartet.countP Call.registers < UInt32.size := by decide
  obtain ⟨-, -, htells, hstrikes, hhanded, hothers⟩ := roll_told_in_order quartet hfew
  have htells := htells (fun _ => true) (.unavailable 1)
  have htold (position : Nat) {subscription : Subscription}
      (hat : told.subscriptions[position]? = some subscription) :
      told.consumer? position = some subscription.consumer := by
    rw [consumer?, hat, Option.map_some]
  obtain ⟨answer, consumer, hresponds, hsent, hbecomes⟩ := htells.responds 1 _ rfl rfl
  cases hresponds
  obtain ⟨answer', consumer', hresponds', hsent', hbecomes'⟩ := htells.responds 2 _ rfl rfl
  -- The channel is registered and holds what it has room for, so it cannot but refuse.
  have hfull : answer' = .error .full ∧
      consumer' = .channel ⟨some 1, [.unavailable 0], true⟩ := by
    cases hresponds' with
    | full => exact ⟨rfl, rfl⟩
    | disconnected hgone => cases hgone
    | queued _ hroom => exact absurd (hroom 1 rfl) (Nat.lt_irrefl 1)
  obtain ⟨rfl, rfl⟩ := hfull
  have hthird := hothers 2 _ (.telemetry .new) [.announce (fun _ => true) (.unavailable 1)]
    rfl rfl rfl 3 (by decide)
  refine ⟨hfew, htells.handed.trans rfl, rfl, rfl, hsent, htold 1 hbecomes, hsent',
    htold 2 hbecomes', htold 0 (htells.rests 0 _ rfl rfl), (hstrikes 0).found.trans rfl,
    (hstrikes 3).found.trans rfl, (hhanded 2 _ _).trans rfl, ?_⟩
  exact (congrArg (Option.map (·.consumer)) hthird).trans rfl

end Audience

end CompletionRing
