import CompletionRing.Proofs.Observer.Deliveries
import CompletionRing.Run

/-!
# Fates

What a call on an audience makes of each subscription. A subscription keeps its place: its
consumer is told, or used through the caller's own end, and once it is cancelled it stays so. New
subscriptions come after those that there are.
-/

namespace CompletionRing

namespace Consumer

/-- A consumer after its owner took from it. -/
def received (limit : Option Nat) : Consumer → Consumer
  | .channel queue => .channel (queue.receive limit).2
  | consumer => consumer

/-- A consumer after its owner dropped the receiving end. -/
def hungUp : Consumer → Consumer
  | .channel queue => .channel queue.hangUp
  | consumer => consumer

variable {consumer : Consumer}

lemma received_eq_self (h : ∀ channel, consumer ≠ .channel channel) (limit : Option Nat) :
    consumer.received limit = consumer := by
  cases consumer with
  | channel channel => exact absurd rfl (h channel)
  | _ => rfl

lemma hungUp_eq_self (h : ∀ channel, consumer ≠ .channel channel) :
    consumer.hungUp = consumer := by
  cases consumer with
  | channel channel => exact absurd rfl (h channel)
  | _ => rfl

end Consumer

namespace Audience

/-- What is done to an audience by itself. -/
inductive Call where
  | use (held : Frame → Bool) (op : Op)
  | cancel (id : UInt32)
  | announce (held : Frame → Bool) (snapshot : Snapshot)

inductive Answer where
  | replied (reply : Reply)
  | announced (fanOut : FanOut)

def call (audience : Audience) : Call → Run Audience Answer
  | .use held op => .ofTraced audience do
    let (reply, audience) ← audience.perform held op
    return (.replied reply, audience)
  | .cancel id =>
    let (found, audience) := audience.cancel id
    .done audience (.replied (.cancelled found))
  | .announce held snapshot => .ofTraced audience do
    let (fanOut, audience) ← audience.announce held snapshot
    return (.announced fanOut, audience)

def next (audience : Audience) (call : Call) : Audience := (audience.call call).state

def answer (audience : Audience) (call : Call) : Except Fault Answer :=
  (audience.call call).trace.result

/-- The audience after calls. -/
def after (audience : Audience) (calls : List Call) : Audience := calls.foldl next audience

/-- What an operation of an audience comes to. -/
inductive Performed (audience : Audience) (held : Frame → Bool) : Op → Reply → Audience → Prop
  | subscribed {name setup consumer} (hmake : setup.make = .ok consumer) :
    Performed audience held (.subscribe name setup) (.subscribed audience.nextId)
      (audience.subscribe name consumer).2
  | cancelled {position subscription}
      (hat : audience.subscriptions[position]? = some subscription) :
    Performed audience held (.cancel position) (.cancelled (audience.cancel subscription.id).1)
      (audience.cancel subscription.id).2
  | notCancelled {position} (hat : audience.subscriptions[position]? = none) :
    Performed audience held (.cancel position) .absent audience
  | received {position limit channel}
      (hat : audience.consumer? position = some (.channel channel)) :
    Performed audience held (.receive position limit)
      (.received ((channel.receive limit).1.map (·.map (·.sight (audience.keepsAlive held)))))
      (audience.setConsumer position (.channel (channel.receive limit).2))
  | notReceived {position limit}
      (hat : ∀ channel, audience.consumer? position ≠ some (.channel channel)) :
    Performed audience held (.receive position limit) .absent audience
  | hungUp {position channel} (hat : audience.consumer? position = some (.channel channel)) :
    Performed audience held (.hangUp position) .hungUp
      (audience.setConsumer position (.channel channel.hangUp))
  | notHungUp {position}
      (hat : ∀ channel, audience.consumer? position ≠ some (.channel channel)) :
    Performed audience held (.hangUp position) .absent audience
  | inspected {position consumer} (hat : audience.consumer? position = some consumer) :
    Performed audience held (.inspect position) (.inspected consumer) audience
  | notInspected {position} (hat : audience.consumer? position = none) :
    Performed audience held (.inspect position) .absent audience

/-- The identifier that a call cancels. -/
def cancelled? (audience : Audience) : Call → Option UInt32
  | .cancel id => some id
  | .use _ (.cancel position) => (audience.subscriptions[position]?).map (·.id)
  | _ => none

/-- What a call makes of the consumer of the subscription at a position. -/
def served (audience : Audience) (position : Nat) (subscription : Subscription) : Call → Consumer
  | .announce held snapshot =>
    (subscription.told (audience.keepsAlive held) snapshot).consumer
  | .use _ (.receive place limit) =>
    if place = position then subscription.consumer.received limit else subscription.consumer
  | .use _ (.hangUp place) =>
    if place = position then subscription.consumer.hungUp else subscription.consumer
  | _ => subscription.consumer

/-- What a call makes of the subscription at a position. -/
def fate (audience : Audience) (call : Call) (position : Nat) (subscription : Subscription) :
    Subscription :=
  { subscription with
    consumer := audience.served position subscription call
    active := subscription.active && audience.cancelled? call ≠ some subscription.id }

/-- The subscription that a call adds. -/
def newcomers (audience : Audience) : Call → List Subscription
  | .use _ (.subscribe name setup) =>
    match setup.make with
    | .ok consumer => [⟨audience.nextId, name, consumer, true⟩]
    | .error _ => []
  | _ => []

/-- Is the subscription at a position still told of successes? -/
def isRegistered (audience : Audience) (position : Nat) : Bool :=
  (audience.subscriptions[position]?).any (·.active)

/-- How many are told before the subscription at a position. -/
def place (audience : Audience) (position : Nat) : Nat :=
  (audience.subscriptions.take position).countP (·.active)

variable {audience audience' : Audience} {held : Frame → Bool} {op : Op} {position : Nat}
  {subscription : Subscription}

/-! ### Operations -/

theorem perform_cases (audience : Audience) (held : Frame → Bool) (op : Op) :
    (∃ reply audience', audience.perform held op = .ok (reply, audience') ∧
      Performed audience held op reply audience') ∨
    ∃ name setup fault, op = .subscribe name setup ∧ setup.make = .error fault ∧
      audience.perform held op = .error fault := by
  cases op with
  | subscribe name setup =>
    cases hmake : setup.make with
    | error fault =>
      refine Or.inr ⟨name, setup, fault, rfl, hmake, ?_⟩
      simp only [perform, hmake]
      rfl
    | ok consumer =>
      refine Or.inl ⟨_, _, ?_, .subscribed hmake⟩
      simp only [perform, hmake]
      rfl
  | cancel position =>
    rw [perform]
    cases hat : audience.subscriptions[position]? with
    | none => exact Or.inl ⟨_, _, rfl, .notCancelled hat⟩
    | some subscription => exact Or.inl ⟨_, _, rfl, .cancelled hat⟩
  | receive position limit =>
    rw [perform]
    cases hat : audience.consumer? position with
    | none => exact Or.inl ⟨_, _, rfl, .notReceived (by simp [hat])⟩
    | some consumer =>
      cases consumer with
      | channel channel => exact Or.inl ⟨_, _, rfl, .received hat⟩
      | _ => exact Or.inl ⟨_, _, rfl, .notReceived (by simp [hat])⟩
  | hangUp position =>
    rw [perform]
    cases hat : audience.consumer? position with
    | none => exact Or.inl ⟨_, _, rfl, .notHungUp (by simp [hat])⟩
    | some consumer =>
      cases consumer with
      | channel channel => exact Or.inl ⟨_, _, rfl, .hungUp hat⟩
      | _ => exact Or.inl ⟨_, _, rfl, .notHungUp (by simp [hat])⟩
  | inspect position =>
    rw [perform]
    cases hat : audience.consumer? position with
    | none => exact Or.inl ⟨_, _, rfl, .notInspected hat⟩
    | some consumer => exact Or.inl ⟨_, _, rfl, .inspected hat⟩

lemma after_append (audience : Audience) (calls later : List Call) :
    audience.after (calls ++ later) = (audience.after calls).after later := List.foldl_append

lemma next_cancel (audience : Audience) (id : UInt32) :
    audience.next (.cancel id) = (audience.cancel id).2 := rfl

lemma result_announce (audience : Audience) (held : Frame → Bool) (snapshot : Snapshot) :
    (audience.announce held snapshot >>= fun answer =>
      pure (Answer.announced answer.1, answer.2)).result =
        .ok (.announced (audience.told held snapshot).1, (audience.told held snapshot).2) :=
  Traced.result_bind _ (audience.announce_spec held snapshot).1

lemma next_announce (audience : Audience) (held : Frame → Bool) (snapshot : Snapshot) :
    audience.next (.announce held snapshot) = (audience.told held snapshot).2 :=
  (Run.ofTraced_of_ok (audience.result_announce held snapshot)).1

lemma answer_announce (audience : Audience) (held : Frame → Bool) (snapshot : Snapshot) :
    audience.answer (.announce held snapshot) =
      .ok (.announced (audience.told held snapshot).1) :=
  (Run.ofTraced_of_ok (audience.result_announce held snapshot)).2

lemma use_of_ok {reply : Reply} (h : audience.perform held op = .ok (reply, audience')) :
    audience.call (.use held op) = .done audience' (.replied reply) := by
  rw [call, h]
  rfl

lemma use_of_error {fault : Fault} (h : audience.perform held op = .error fault) :
    audience.call (.use held op) = ⟨audience, [], .error fault⟩ := by
  rw [call, h]
  rfl

/-! ### Fates -/

lemma ne_channel (hat : audience.subscriptions[position]? = some subscription)
    (h : ∀ channel, audience.consumer? position ≠ some (.channel channel)) (channel : Channel) :
    subscription.consumer ≠ .channel channel := by
  intro hconsumer
  apply h channel
  rw [consumer?, hat, Option.map_some, hconsumer]

lemma fate_announce (audience : Audience) (held : Frame → Bool) (snapshot : Snapshot)
    (position : Nat) (subscription : Subscription) :
    audience.fate (.announce held snapshot) position subscription =
      subscription.told (audience.keepsAlive held) snapshot := by
  change Subscription.mk _ _ (subscription.told (audience.keepsAlive held) snapshot).consumer
    (subscription.active && true) = _
  rw [Bool.and_true]
  unfold Subscription.told
  split <;> rfl

lemma fate_of_cancelled {call : Call} {id : UInt32}
    (hcancelled : audience.cancelled? call = some id)
    (hserved : audience.served position subscription call = subscription.consumer) :
    audience.fate call position subscription =
      if subscription.id = id then { subscription with active := false } else subscription := by
  rw [fate, hcancelled, hserved]
  by_cases hid : subscription.id = id
  · simp [hid]
  · simp [hid, Ne.symm hid]

lemma fate_of_not_cancelled {call : Call} (hcancelled : audience.cancelled? call = none) :
    audience.fate call position subscription =
      { subscription with consumer := audience.served position subscription call } := by
  rw [fate, hcancelled]
  simp

lemma mapIdx_fate_of_idle {call : Call} (hcancelled : audience.cancelled? call = none)
    (hserved : ∀ position subscription, audience.subscriptions[position]? = some subscription →
      audience.served position subscription call = subscription.consumer) :
    audience.subscriptions.mapIdx (audience.fate call) = audience.subscriptions := by
  ext1 position
  rw [List.getElem?_mapIdx]
  cases hat : audience.subscriptions[position]? with
  | none => rfl
  | some subscription =>
    rw [Option.map_some, fate_of_not_cancelled hcancelled, hserved position subscription hat]

lemma mapIdx_fate_of_cancelled {call : Call} {id : UInt32}
    (hcancelled : audience.cancelled? call = some id)
    (hserved : ∀ position subscription,
      audience.served position subscription call = subscription.consumer) :
    audience.subscriptions.mapIdx (audience.fate call) = (audience.cancel id).2.subscriptions := by
  unfold cancel
  ext1 position
  rw [List.getElem?_mapIdx, List.getElem?_map]
  cases audience.subscriptions[position]? with
  | none => rfl
  | some subscription =>
    rw [Option.map_some, Option.map_some, fate_of_cancelled hcancelled (hserved _ _)]

lemma mapIdx_fate_of_served {call : Call} {own : Consumer} (use : Consumer → Consumer)
    (hcancelled : audience.cancelled? call = none)
    (hserved : ∀ place subscription, audience.served place subscription call =
      if position = place then use subscription.consumer else subscription.consumer)
    (hat : audience.consumer? position = some own) :
    audience.subscriptions.mapIdx (audience.fate call) =
      (audience.setConsumer position (use own)).subscriptions := by
  unfold setConsumer
  ext1 place
  rw [List.getElem?_mapIdx, List.getElem?_modify]
  cases hsubscription : audience.subscriptions[place]? with
  | none => rfl
  | some subscription =>
    rw [Option.map_some, fate_of_not_cancelled hcancelled, hserved]
    by_cases hplace : position = place
    · subst hplace
      rw [consumer?, hsubscription, Option.map_some, Option.some.injEq] at hat
      simp [hat]
    · simp [hplace]

lemma mapIdx_fate_of_absent {call : Call} (use : Consumer → Consumer)
    (hcancelled : audience.cancelled? call = none)
    (hserved : ∀ place subscription, audience.served place subscription call =
      if position = place then use subscription.consumer else subscription.consumer)
    (hself : ∀ consumer, (∀ channel, consumer ≠ .channel channel) → use consumer = consumer)
    (hat : ∀ channel, audience.consumer? position ≠ some (.channel channel)) :
    audience.subscriptions.mapIdx (audience.fate call) = audience.subscriptions := by
  apply mapIdx_fate_of_idle hcancelled
  intro place subscription hsubscription
  rw [hserved]
  split_ifs with hplace
  · subst hplace
    exact hself _ (ne_channel hsubscription hat)
  · rfl

lemma Performed.subscriptions_eq {reply : Reply} (h : Performed audience held op reply audience') :
    audience'.subscriptions = audience.subscriptions.mapIdx (audience.fate (.use held op)) ++
      audience.newcomers (.use held op) := by
  cases h with
  | subscribed hmake =>
    rw [mapIdx_fate_of_idle rfl fun _ _ _ => rfl, newcomers, hmake]
    rfl
  | @cancelled place own hat =>
    have hcancelled : audience.cancelled? (.use held (.cancel place)) = some own.id := by
      rw [cancelled?, hat]
      rfl
    rw [mapIdx_fate_of_cancelled hcancelled fun _ _ => rfl]
    exact (List.append_nil _).symm
  | @notCancelled place hat =>
    have hcancelled : audience.cancelled? (.use held (.cancel place)) = none := by
      rw [cancelled?, hat]
      rfl
    rw [mapIdx_fate_of_idle hcancelled fun _ _ _ => rfl]
    exact (List.append_nil _).symm
  | @received place limit channel hat =>
    rw [mapIdx_fate_of_served (Consumer.received limit) rfl (fun _ _ => rfl) hat]
    exact (List.append_nil _).symm
  | @notReceived place limit hat =>
    rw [mapIdx_fate_of_absent (Consumer.received limit) rfl (fun _ _ => rfl)
      (fun _ hne => Consumer.received_eq_self hne limit) hat]
    exact (List.append_nil _).symm
  | hungUp hat =>
    rw [mapIdx_fate_of_served Consumer.hungUp rfl (fun _ _ => rfl) hat]
    exact (List.append_nil _).symm
  | notHungUp hat =>
    rw [mapIdx_fate_of_absent Consumer.hungUp rfl (fun _ _ => rfl)
      (fun _ hne => Consumer.hungUp_eq_self hne) hat]
    exact (List.append_nil _).symm
  | inspected | notInspected =>
    rw [mapIdx_fate_of_idle rfl fun _ _ _ => rfl]
    exact (List.append_nil _).symm

theorem subscriptions_next (audience : Audience) (call : Call) :
    (audience.next call).subscriptions =
      audience.subscriptions.mapIdx (audience.fate call) ++ audience.newcomers call := by
  cases call with
  | announce held snapshot =>
    have hnone : audience.newcomers (.announce held snapshot) = [] := rfl
    rw [next_announce, audience_told, hnone, List.append_nil]
    ext1 position
    rw [List.getElem?_map, List.getElem?_mapIdx]
    congr 1
    funext subscription
    exact (audience.fate_announce held snapshot position subscription).symm
  | cancel id =>
    rw [next_cancel, mapIdx_fate_of_cancelled rfl fun _ _ => rfl]
    exact (List.append_nil _).symm
  | use held op =>
    unfold next
    rcases audience.perform_cases held op with
      ⟨reply, audience', hperform, hperformed⟩ | ⟨name, setup, fault, rfl, hmake, hperform⟩
    · rw [use_of_ok hperform, Run.state_done, hperformed.subscriptions_eq]
    · rw [use_of_error hperform, mapIdx_fate_of_idle rfl fun _ _ _ => rfl, newcomers, hmake]
      exact (List.append_nil _).symm

lemma subscription_next (hat : audience.subscriptions[position]? = some subscription)
    (call : Call) :
    (audience.next call).subscriptions[position]? =
      some (audience.fate call position subscription) := by
  have hlt : position < (audience.subscriptions.mapIdx (audience.fate call)).length := by
    rw [List.length_mapIdx]
    exact (List.getElem?_eq_some_iff.mp hat).1
  rw [subscriptions_next, List.getElem?_append_left hlt, List.getElem?_mapIdx, hat]
  rfl

lemma ids_next {call : Call} (hnone : audience.newcomers call = []) (position : Nat) :
    ((audience.next call).subscriptions[position]?).map (·.id) =
      (audience.subscriptions[position]?).map (·.id) := by
  rw [subscriptions_next, hnone, List.append_nil, List.getElem?_mapIdx, Option.map_map]
  rfl

lemma subscription_new {name : String} {setup : ConsumerSetup} {consumer : Consumer}
    (hmake : setup.make = .ok consumer) (held : Frame → Bool) :
    (audience.next (.use held (.subscribe name setup))).subscriptions[
      audience.subscriptions.length]? = some ⟨audience.nextId, name, consumer, true⟩ := by
  have hnew : audience.newcomers (.use held (.subscribe name setup)) =
      [⟨audience.nextId, name, consumer, true⟩] := by rw [newcomers, hmake]
  have hlength : (audience.subscriptions.mapIdx
      (audience.fate (.use held (.subscribe name setup)))).length =
        audience.subscriptions.length := List.length_mapIdx
  rw [subscriptions_next, hnew, ← hlength]
  exact List.getElem?_concat_length

/-! ### Places -/

lemma getElem?_deliveriesOf (hat : audience.subscriptions[position]? = some subscription)
    (hactive : subscription.active) (held : Frame → Bool) (snapshot : Snapshot) :
    (audience.deliveriesOf held snapshot)[audience.place position]? =
      some (subscription.delivery (audience.keepsAlive held) snapshot) := by
  obtain ⟨hlt, hget⟩ := List.getElem?_eq_some_iff.mp hat
  have hsplit : audience.active = (audience.subscriptions.take position).filter (·.active) ++
      subscription :: (audience.subscriptions.drop (position + 1)).filter (·.active) := by
    rw [active, ← List.filter_cons_of_pos hactive, ← List.filter_append, ← hget,
      List.getElem_cons_drop, List.take_append_drop]
  have hlength : ((audience.subscriptions.take position).filter (·.active)).length =
      audience.place position := List.countP_eq_length_filter.symm
  rw [deliveriesOf, hsplit, List.getElem?_map, ← hlength,
    List.getElem?_append_right (Nat.le_refl _), Nat.sub_self]
  rfl

lemma place_told (audience : Audience) (held : Frame → Bool) (snapshot : Snapshot)
    (position : Nat) :
    (audience.told held snapshot).2.place position = audience.place position := by
  rw [audience_told, place, place, ← List.map_take, List.countP_map]
  apply List.countP_congr
  intro subscription _
  simp

end Audience

end CompletionRing
