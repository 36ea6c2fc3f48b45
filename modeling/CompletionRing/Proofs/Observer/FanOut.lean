import CompletionRing.Observer.Audience
import CompletionRing.Proofs.Traces

/-!
# Fan-outs

An announcement never stops at a fault. It leaves one event for itself and one for each delivery,
and the failures that it reports are the deliveries that were refused.
-/

namespace CompletionRing

namespace Event

/-- The snapshot that the audience is told of, if the event is an announcement. -/
def announcement? : Event → Option Snapshot
  | .announced snapshot => some snapshot
  | _ => none

/-- Was a delivery refused? -/
def isRefusal : Event → Bool
  | .delivered _ _ _ _ (.error _) => true
  | _ => false

/-- Does the event come from the audience? -/
def isNotice : Event → Bool
  | .announced _ | .delivered .. | .promoted _ => true
  | _ => false

end Event

/-- The snapshots that were announced, in order. -/
def announcements (events : List Event) : List Snapshot := events.filterMap Event.announcement?

/-- How many deliveries were refused. -/
def refusalsIn (events : List Event) : Nat := events.countP Event.isRefusal

@[simp] lemma announcements_append (events later : List Event) :
    announcements (events ++ later) = announcements events ++ announcements later :=
  List.filterMap_append

@[simp] lemma refusalsIn_append (events later : List Event) :
    refusalsIn (events ++ later) = refusalsIn events + refusalsIn later :=
  List.countP_append

/-- What shows nothing but notices shows the same of the notices alone. -/
lemma filterMap_notices {α : Type} {view : Event → Option α}
    (hview : ∀ event, event.isNotice = false → view event = none) (events : List Event) :
    (events.filter Event.isNotice).filterMap view = events.filterMap view := by
  rw [List.filterMap_filter]
  congr 1
  funext event
  by_cases hnotice : event.isNotice
  · rw [if_pos hnotice]
  · rw [if_neg hnotice, hview event (Bool.eq_false_iff.mpr hnotice)]

lemma announcements_filter (events : List Event) :
    announcements (events.filter Event.isNotice) = announcements events := by
  apply filterMap_notices
  intro event hother
  cases event with
  | announced => cases hother
  | _ => rfl

lemma refusalsIn_filter (events : List Event) :
    refusalsIn (events.filter Event.isNotice) = refusalsIn events := by
  unfold refusalsIn
  rw [List.countP_filter]
  apply List.countP_congr
  intro event _
  cases event <;> simp [Event.isNotice, Event.isRefusal]

lemma Consumer.exists_deliver (alive : Frame → Bool) (snapshot : Snapshot) (consumer : Consumer) :
    ∃ answer consumer' events, consumer.deliver alive snapshot = ⟨events, .ok (answer, consumer')⟩ ∧
      announcements events = [] ∧ refusalsIn events = 0 ∧ events.all Event.isNotice := by
  cases consumer with
  | callback function => exact ⟨_, _, [], rfl, rfl, rfl, rfl⟩
  | channel queue => exact ⟨_, _, [], rfl, rfl, rfl, rfl⟩
  | telemetry counts => exact ⟨_, _, [], rfl, rfl, rfl, rfl⟩
  | promotions list =>
    unfold deliver Promotions.deliver
    cases Promotions.candidate alive snapshot with
    | error refusal => exact ⟨_, _, [], rfl, rfl, rfl, rfl⟩
    | ok entry => exact ⟨_, _, [.promoted entry.1], rfl, rfl, rfl, rfl⟩

namespace Audience

lemma exists_deliverAll (alive : Frame → Bool) (snapshot : Snapshot)
    (subscriptions : List Subscription) :
    ∃ fanOut subscriptions' events,
      deliverAll alive snapshot subscriptions = ⟨events, .ok (fanOut, subscriptions')⟩ ∧
      announcements events = [] ∧ refusalsIn events = fanOut.failures.length ∧
      events.all Event.isNotice := by
  induction subscriptions with
  | nil => exact ⟨_, _, [], rfl, rfl, rfl, rfl⟩
  | cons subscription rest ih =>
    obtain ⟨later, rest', events, hrest, hnone, hcount, hnotice⟩ := ih
    unfold deliverAll
    by_cases hactive : subscription.active
    · obtain ⟨answer, consumer, own, hown, hownNone, hownCount, hownNotice⟩ :=
        subscription.consumer.exists_deliver alive snapshot
      rw [if_pos hactive, hown]
      simp only [Traced.mk_ok_bind, Traced.emit_bind, hrest]
      refine ⟨later.answered subscription.id answer, { subscription with consumer } :: rest',
        own ++ .delivered subscription.id subscription.name consumer.kind snapshot answer :: events,
        ?_, ?_, ?_, ?_⟩
      · simp
      · simp only [announcements_append, hownNone, List.nil_append]
        exact hnone
      · rw [refusalsIn_append, hownCount, Nat.zero_add]
        cases answer with
        | ok _ => exact hcount
        | error refusal =>
          have hrefused : Event.isRefusal (.delivered subscription.id subscription.name
              consumer.kind snapshot (.error refusal)) = true := rfl
          rw [refusalsIn, List.countP_cons_of_pos hrefused]
          exact congrArg (· + 1) hcount
      · simp only [List.all_append, hownNotice, Bool.true_and]
        exact hnotice
    · rw [if_neg hactive, hrest]
      refine ⟨later, subscription :: rest', events, ?_, hnone, hcount, hnotice⟩
      simp only [Traced.mk_ok_bind, Traced.events_pure, Traced.result_pure, List.append_nil]

/-- The audience after an announcement, and what became of the announcement. -/
def told (audience : Audience) (held : Frame → Bool) (snapshot : Snapshot) : FanOut × Audience :=
  match (audience.announce held snapshot).result with
  | .ok answer => answer
  | .error _ => (.none, audience)

/-- An announcement comes to its end, tells of its snapshot once and reports each refusal. -/
theorem announce_spec (audience : Audience) (held : Frame → Bool) (snapshot : Snapshot) :
    (audience.announce held snapshot).result = .ok (audience.told held snapshot) ∧
      announcements (audience.announce held snapshot).events = [snapshot] ∧
      refusalsIn (audience.announce held snapshot).events =
        (audience.told held snapshot).1.failures.length ∧
      (audience.announce held snapshot).events.all Event.isNotice := by
  obtain ⟨fanOut, subscriptions, events, hall, hnone, hcount, hnotice⟩ :=
    exists_deliverAll (audience.keepsAlive held) snapshot audience.subscriptions
  have hannounce : audience.announce held snapshot =
      ⟨.announced snapshot :: events, .ok (fanOut, { audience with subscriptions })⟩ := by
    unfold announce
    rw [hall]
    simp only [Traced.emit_bind, Traced.mk_ok_bind, Traced.events_pure, Traced.result_pure,
      List.append_nil]
  have htold : audience.told held snapshot = (fanOut, { audience with subscriptions }) := by
    rw [told, hannounce]
  rw [htold, hannounce]
  refine ⟨rfl, ?_, ?_, hnotice⟩
  · simpa [announcements, Event.announcement?] using hnone
  · simpa [refusalsIn, Event.isRefusal] using hcount

end Audience

end CompletionRing
