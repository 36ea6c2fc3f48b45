import CompletionRing.Proofs.Observer.FanOut
import Mathlib.Data.List.Basic

/-!
# Deliveries

An announcement hands its snapshot to each active subscription once, in their order, and to no
other one. What it reports of the deliveries, and what it makes of the subscriptions, follows from
what each consumer answers by itself.
-/

namespace CompletionRing

/-- What was handed to a subscription, and the answer. -/
structure Delivery where
  observer : UInt32
  snapshot : Snapshot
  answer : Except Refusal Unit

namespace Delivery

/-- Who refused the delivery, and why. -/
def failure? : Delivery → Option (UInt32 × Refusal)
  | ⟨observer, _, .error refusal⟩ => some (observer, refusal)
  | ⟨_, _, .ok ()⟩ => none

end Delivery

def Event.delivery? : Event → Option Delivery
  | .delivered observer _ _ snapshot answer => some ⟨observer, snapshot, answer⟩
  | _ => none

/-- The deliveries among some events, in order. -/
def deliveries (events : List Event) : List Delivery := events.filterMap Event.delivery?

/-- What is to be reported of deliveries. -/
def FanOut.ofDeliveries (deliveries : List Delivery) : FanOut where
  delivered := deliveries.countP (·.answer.isOk)
  failures := deliveries.filterMap Delivery.failure?

/-- What a consumer answers to a snapshot, and what it is after that. -/
def Consumer.taking (alive : Frame → Bool) (snapshot : Snapshot) (consumer : Consumer) :
    Except Refusal Unit × Consumer :=
  match (consumer.deliver alive snapshot).result with
  | .ok answer => answer
  | .error _ => (.ok (), consumer)

namespace Subscription

/-- The delivery of a snapshot to a subscription. -/
def delivery (alive : Frame → Bool) (snapshot : Snapshot) (subscription : Subscription) :
    Delivery :=
  ⟨subscription.id, snapshot, (subscription.consumer.taking alive snapshot).1⟩

/-- A subscription once a snapshot was announced. -/
def told (alive : Frame → Bool) (snapshot : Snapshot) (subscription : Subscription) :
    Subscription :=
  if subscription.active then
    { subscription with consumer := (subscription.consumer.taking alive snapshot).2 }
  else subscription

variable (alive : Frame → Bool) (snapshot : Snapshot) (subscription : Subscription)

@[simp] lemma id_told : (subscription.told alive snapshot).id = subscription.id := by
  unfold told
  split <;> rfl

@[simp] lemma active_told : (subscription.told alive snapshot).active = subscription.active := by
  unfold told
  split <;> rfl

end Subscription

@[simp] lemma deliveries_append (events later : List Event) :
    deliveries (events ++ later) = deliveries events ++ deliveries later :=
  List.filterMap_append

lemma deliveries_filter (events : List Event) :
    deliveries (events.filter Event.isNotice) = deliveries events := by
  apply filterMap_notices
  intro event hother
  cases event with
  | delivered => cases hother
  | _ => rfl

lemma FanOut.ofDeliveries_cons (delivery : Delivery) (deliveries : List Delivery) :
    ofDeliveries (delivery :: deliveries) =
      (ofDeliveries deliveries).answered delivery.observer delivery.answer := by
  obtain ⟨observer, snapshot, answer⟩ := delivery
  unfold ofDeliveries answered
  cases answer with
  | ok _ =>
    rw [List.filterMap_cons_none rfl, List.countP_cons_of_pos rfl]
  | error refusal =>
    have hfailure : Delivery.failure? ⟨observer, snapshot, .error refusal⟩ =
        some (observer, refusal) := rfl
    rw [List.filterMap_cons_some hfailure, List.countP_cons_of_neg Bool.false_ne_true]

lemma FanOut.length_ofDeliveries (deliveries : List Delivery) :
    (ofDeliveries deliveries).delivered + (ofDeliveries deliveries).failures.length =
      deliveries.length := by
  induction deliveries with
  | nil => rfl
  | cons delivery rest ih =>
    rw [ofDeliveries_cons, List.length_cons, ← ih]
    cases delivery.answer with
    | ok _ => exact Nat.succ_add _ _
    | error refusal => exact Nat.add_succ _ _

/-! ### Consumers -/

lemma Consumer.deliver_eq (alive : Frame → Bool) (snapshot : Snapshot) (consumer : Consumer) :
    ∃ events, consumer.deliver alive snapshot = ⟨events, .ok (consumer.taking alive snapshot)⟩ ∧
      deliveries events = [] := by
  cases consumer with
  | callback function => exact ⟨[], rfl, rfl⟩
  | channel queue => exact ⟨[], rfl, rfl⟩
  | telemetry counts => exact ⟨[], rfl, rfl⟩
  | promotions list =>
    unfold taking deliver Promotions.deliver
    cases Promotions.candidate alive snapshot with
    | error refusal => exact ⟨[], rfl, rfl⟩
    | ok entry => exact ⟨[.promoted entry.1], rfl, rfl⟩

@[simp] lemma Consumer.taking_channel (alive : Frame → Bool) (snapshot : Snapshot)
    (queue : Channel) :
    (Consumer.channel queue).taking alive snapshot =
      ((queue.deliver snapshot).1, .channel (queue.deliver snapshot).2) := rfl

lemma Consumer.taking_promotions (alive : Frame → Bool) (snapshot : Snapshot)
    (list : Promotions) :
    (Consumer.promotions list).taking alive snapshot =
      match Promotions.candidate alive snapshot with
      | .error refusal => (.error refusal, .promotions list)
      | .ok entry => (.ok (), .promotions (list.push entry)) := by
  unfold taking deliver Promotions.deliver
  cases Promotions.candidate alive snapshot <;> rfl

/-! ### Announcements -/

namespace Audience

lemma deliverAll_eq (alive : Frame → Bool) (snapshot : Snapshot)
    (subscriptions : List Subscription) :
    ∃ events, deliverAll alive snapshot subscriptions =
        ⟨events, .ok (.ofDeliveries (deliveries events),
          subscriptions.map (·.told alive snapshot))⟩ ∧
      deliveries events = (subscriptions.filter (·.active)).map (·.delivery alive snapshot) := by
  induction subscriptions with
  | nil => exact ⟨[], rfl, rfl⟩
  | cons subscription rest ih =>
    obtain ⟨later, hlater, hdeliveries⟩ := ih
    rw [deliverAll, List.map_cons, Subscription.told]
    by_cases hactive : subscription.active
    · obtain ⟨own, hown, hnone⟩ := subscription.consumer.deliver_eq alive snapshot
      have hevents (name : String) (kind : ConsumerKind) :
          deliveries (own ++ .delivered subscription.id name kind snapshot
            (subscription.consumer.taking alive snapshot).1 :: later) =
          subscription.delivery alive snapshot :: deliveries later := by
        rw [deliveries_append, hnone, List.nil_append]
        rfl
      rw [if_pos hactive, if_pos hactive, hown]
      simp only [Traced.mk_ok_bind, Traced.emit_bind, hlater, Traced.events_pure,
        Traced.result_pure, List.append_nil]
      refine ⟨own ++ .delivered subscription.id subscription.name
        (subscription.consumer.taking alive snapshot).2.kind snapshot
        (subscription.consumer.taking alive snapshot).1 :: later, ?_, ?_⟩
      · rw [hevents, FanOut.ofDeliveries_cons]
        rfl
      · rw [hevents, List.filter_cons_of_pos hactive, List.map_cons, hdeliveries]
    · rw [if_neg hactive, if_neg hactive, hlater, List.filter_cons_of_neg hactive]
      simp only [Traced.mk_ok_bind, Traced.events_pure, Traced.result_pure, List.append_nil]
      exact ⟨later, rfl, hdeliveries⟩

/-- The deliveries of an announcement. -/
def deliveriesOf (audience : Audience) (held : Frame → Bool) (snapshot : Snapshot) :
    List Delivery :=
  audience.active.map (·.delivery (audience.keepsAlive held) snapshot)

variable (audience : Audience) (held : Frame → Bool) (snapshot : Snapshot)

lemma announce_deliveries :
    deliveries (audience.announce held snapshot).events = audience.deliveriesOf held snapshot ∧
      audience.told held snapshot = (.ofDeliveries (audience.deliveriesOf held snapshot),
        { audience with subscriptions :=
            audience.subscriptions.map (·.told (audience.keepsAlive held) snapshot) }) := by
  obtain ⟨events, hall, hdeliveries⟩ :=
    deliverAll_eq (audience.keepsAlive held) snapshot audience.subscriptions
  have hannounce : audience.announce held snapshot =
      ⟨.announced snapshot :: events, .ok (.ofDeliveries (deliveries events),
        { audience with subscriptions :=
            audience.subscriptions.map (·.told (audience.keepsAlive held) snapshot) })⟩ := by
    unfold announce
    rw [hall]
    simp only [Traced.emit_bind, Traced.mk_ok_bind, Traced.events_pure, Traced.result_pure,
      List.append_nil]
  constructor
  · rw [hannounce]
    exact hdeliveries
  · rw [told, hannounce, hdeliveries]
    rfl

lemma deliveries_announce :
    deliveries (audience.announce held snapshot).events = audience.deliveriesOf held snapshot :=
  (audience.announce_deliveries held snapshot).1

lemma fanOut_told : (audience.told held snapshot).1 =
    .ofDeliveries (audience.deliveriesOf held snapshot) :=
  congrArg Prod.fst (audience.announce_deliveries held snapshot).2

lemma audience_told : (audience.told held snapshot).2 =
    { audience with subscriptions :=
        audience.subscriptions.map (·.told (audience.keepsAlive held) snapshot) } :=
  congrArg Prod.snd (audience.announce_deliveries held snapshot).2

end Audience

end CompletionRing
