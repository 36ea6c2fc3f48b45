import CompletionRing.Proofs.Ring.Audiences

/-!
# Channels

A channel that subscribed to a ring gets the first success of each unit while it is registered and
has room, once and in the order of the answers. As long as its receiving end is there, what was
received and what still waits are together what it took.
-/

namespace CompletionRing

namespace Channel

/-- Why a channel takes no snapshot now. -/
def refusal? (queue : Channel) : Option Refusal :=
  if !queue.receiving then some .disconnected
  else if queue.isFull then some .full
  else none

variable {queue : Channel}

lemma deliver_of_refusal {refusal : Refusal} (h : queue.refusal? = some refusal)
    (snapshot : Snapshot) : queue.deliver snapshot = (.error refusal, queue) := by
  unfold refusal? at h
  unfold deliver
  cases hreceiving : queue.receiving <;> cases hfull : queue.isFull <;> simp_all

lemma deliver_of_room (h : queue.refusal? = none) (snapshot : Snapshot) :
    queue.isFull = false ∧
      queue.deliver snapshot = (.ok (), { queue with waiting := queue.waiting ++ [snapshot] }) := by
  unfold refusal? at h
  unfold deliver
  cases hreceiving : queue.receiving <;> cases hfull : queue.isFull <;> simp_all

lemma receive_spec (queue : Channel) (limit : Option Nat) :
    (queue.receive limit).2.bound = queue.bound ∧
      (queue.receive limit).2.receiving = queue.receiving ∧
      (queue.receive limit).1.getD [] ++ (queue.receive limit).2.waiting = queue.waiting := by
  unfold receive
  by_cases hreceiving : queue.receiving
  · rw [if_pos hreceiving]
    exact ⟨rfl, rfl, List.take_append_drop _ _⟩
  · rw [if_neg hreceiving]
    exact ⟨rfl, rfl, rfl⟩

end Channel

namespace Ring

namespace Entry

/-- Does an operation drop the receiving end of the channel at a position? -/
def hangsUp (position : Nat) (entry : Entry) : Bool :=
  match entry.op with
  | .audience _ (.hangUp place) => place = position
  | _ => false

/-- What an operation received from the channel at a position. -/
def received (position : Nat) (entry : Entry) : List Snapshot :=
  match entry.op, entry.answer with
  | .audience _ (.receive place _), .ok (.audience (.received (some sights))) =>
    if place = position then sights.map (·.snapshot) else []
  | _, _ => []

/-- Was the subscription at a position registered then, and not among the failures? -/
def taken (position : Nat) (entry : Entry) : Bool :=
  entry.ring.audience.isRegistered position && (entry.refusal? position).isNone

end Entry

/-- The first successes that the subscription at a position took. -/
def taken (position : Nat) (earlier : List Nat) (entries : List Entry) : List Snapshot :=
  ((firstSuccesses earlier entries).filter (·.1.taken position)).map (·.2)

/-- What is known of a subscribed channel: was its receiving end dropped, and was it cancelled? What
was received from it, and what did it take? -/
structure Passage where
  hungUp : Bool
  cancelled : Bool
  received : List Snapshot
  taken : List Snapshot

namespace Passage

def start : Passage := ⟨false, false, [], []⟩

/-- What is known after some more operations. -/
def on (passage : Passage) (position : Nat) (id : UInt32) (earlier : List Nat)
    (entries : List Entry) : Passage where
  hungUp := passage.hungUp || entries.any (·.hangsUp position)
  cancelled := passage.cancelled || entries.any (·.cancels id)
  received := passage.received ++ entries.flatMap (·.received position)
  taken := passage.taken ++ Ring.taken position earlier entries

end Passage

/-- Is there such a channel at a position? -/
structure Carries (position : Nat) (id : UInt32) (name : String) (bound : Option Nat) (ring : Ring)
    (passage : Passage) (queue : Channel) : Prop where
  subscription : ring.audience.subscriptions[position]? =
    some ⟨id, name, .channel queue, !passage.cancelled⟩
  limit : queue.bound = bound
  receiving : queue.receiving = !passage.hungUp
  /-- Nothing is lost, and nothing comes twice. -/
  exact : passage.hungUp = false → passage.received ++ queue.waiting = passage.taken
  within : ∀ places, bound = some places → queue.waiting.length ≤ places

variable {position : Nat} {id : UInt32} {name : String} {bound : Option Nat} {ring : Ring}
  {passage : Passage} {queue : Channel} {earlier : List Nat} {op : Op} {held : Frame → Bool}

namespace Passage

lemma on_cons (passage : Passage) (entry : Entry) (rest : List Entry) :
    passage.on position id earlier (entry :: rest) =
      (passage.on position id earlier [entry]).on position id
        (earlier ++ (success? entry.op entry.answer).toList) rest := by
  unfold on Ring.taken
  simp [firstSuccesses, List.filter_append, Bool.or_assoc]

lemma on_one (passage : Passage) (entry : Entry) :
    passage.on position id earlier [entry] =
      ⟨passage.hungUp || entry.hangsUp position, passage.cancelled || entry.cancels id,
        passage.received ++ entry.received position,
        passage.taken ++
          if entry.taken position then firstSuccess earlier entry.op entry.answer else []⟩ := by
  unfold on Ring.taken
  cases htaken : entry.taken position <;>
    simp [firstSuccesses, htaken, List.filter_map, Function.comp_def]

end Passage

/-! ### Steps -/

namespace Carries

lemma kept (hcarries : Carries position id name bound ring passage queue) (h : ring.WellFormed)
    (hheard : ring.Heard earlier) (op : Op)
    (hserved : (call? earlier op (ring.answer op)).elim (.channel queue)
      (ring.audience.served position ⟨id, name, .channel queue, !passage.cancelled⟩) =
        .channel queue)
    (hhang : (ring.entry op).hangsUp position = false)
    (hreceived : (ring.entry op).received position = [])
    (htaken : (ring.entry op).taken position = false ∨
      firstSuccess earlier op (ring.answer op) = []) :
    Carries position id name bound (ring.next op)
      (passage.on position id earlier [ring.entry op]) queue := by
  have hnone : (if (ring.entry op).taken position then
      firstSuccess earlier (ring.entry op).op (ring.entry op).answer else []) = [] := by
    rcases htaken with hfalse | hnil
    · rw [hfalse]
      rfl
    · exact (if_congr Iff.rfl hnil rfl).trans (ite_self _)
  rw [Passage.on_one, hhang, hreceived, hnone, Bool.or_false, List.append_nil, List.append_nil]
  refine { hcarries with subscription := ?_ }
  rw [subscription_next h hheard hcarries.subscription, hserved, Bool.not_or]

lemma not_cancelled (hcarries : Carries position id name bound ring passage queue)
    (hregistered : ring.audience.isRegistered position) : passage.cancelled = false := by
  rw [Audience.isRegistered, hcarries.subscription, Option.any_some] at hregistered
  rwa [Bool.not_eq_true'] at hregistered

lemma refusal (hcarries : Carries position id name bound ring passage queue) (h : ring.WellFormed)
    (hheard : ring.Heard earlier) (hregistered : passage.cancelled = false) {sequence : Nat}
    {snapshot : Snapshot} (hfirst : snapshot ∈
      firstSuccess earlier (.query held sequence) (ring.answer (.query held sequence))) :
    (ring.entry (.query held sequence)).refusal? position = queue.refusal? := by
  have hactive : (!passage.cancelled) = true := by
    rw [hregistered]
    rfl
  rw [refusal?_of_first h hheard hcarries.subscription hactive hfirst, Consumer.taking_channel]
  dsimp only
  cases hrefusal : queue.refusal? with
  | some refusal => rw [queue.deliver_of_refusal hrefusal]
  | none => rw [(queue.deliver_of_room hrefusal snapshot).2]

lemma taken_query (hcarries : Carries position id name bound ring passage queue)
    (h : ring.WellFormed) (hheard : ring.Heard earlier) (held : Frame → Bool) (sequence : Nat) :
    (ring.entry (.query held sequence)).taken position = (!passage.cancelled &&
      ((ring.entry (.query held sequence)).refusal? position).isNone) := by
  have hnext := subscription_next h hheard hcarries.subscription (.query held sequence)
  have hcancels : (ring.entry (.query held sequence)).cancels id = false := rfl
  rw [hcancels, Bool.not_false, Bool.and_true] at hnext
  rw [Entry.taken, Audience.isRegistered, entry, hnext, Option.any_some]

lemma accepted (hcarries : Carries position id name bound ring passage queue)
    (h : ring.WellFormed) (hheard : ring.Heard earlier) {sequence : Nat} {snapshot : Snapshot}
    (hfirst : firstSuccess earlier (.query held sequence) (ring.answer (.query held sequence)) =
      [snapshot]) (hregistered : passage.cancelled = false) (hroom : queue.refusal? = none) :
    Carries position id name bound (ring.next (.query held sequence))
      (passage.on position id earlier [ring.entry (.query held sequence)])
      { queue with waiting := queue.waiting ++ [snapshot] } := by
  have hmem := hfirst ▸ List.mem_singleton_self snapshot
  have htaken := hcarries.taken_query h hheard held sequence
  rw [hcarries.refusal h hheard hregistered hmem, hregistered, hroom] at htaken
  have hcancels : (ring.entry (.query held sequence)).cancels id = false := rfl
  have hhang : (ring.entry (.query held sequence)).hangsUp position = false := rfl
  have hreceived : (ring.entry (.query held sequence)).received position = [] := rfl
  obtain ⟨hfull, hdeliver⟩ := queue.deliver_of_room hroom snapshot
  rw [Passage.on_one, hhang, hcancels, hreceived, htaken, Bool.or_false, Bool.or_false,
    List.append_nil]
  refine ⟨?_, hcarries.limit, hcarries.receiving, ?_, ?_⟩
  · rw [subscription_next h hheard hcarries.subscription, call?_of_first hfirst, hcancels,
      hregistered]
    exact congrArg (fun answer => some (Subscription.mk id name (.channel answer.2) true)) hdeliver
  · intro hopen
    rw [← List.append_assoc, hcarries.exact hopen]
    exact congrArg (passage.taken ++ ·) hfirst.symm
  · intro places hplaces
    have hlimit : queue.bound = some places := hcarries.limit.trans hplaces
    rw [Channel.isFull, hlimit, Option.any_some, decide_eq_false_iff_not] at hfull
    rw [List.length_append, List.length_singleton]
    omega

lemma announced (hcarries : Carries position id name bound ring passage queue)
    (h : ring.WellFormed) (hheard : ring.Heard earlier) {sequence : Nat} {snapshot : Snapshot}
    (hfirst : firstSuccess earlier (.query held sequence) (ring.answer (.query held sequence)) =
      [snapshot]) :
    ∃ queue', Carries position id name bound (ring.next (.query held sequence))
      (passage.on position id earlier [ring.entry (.query held sequence)]) queue' := by
  have htaken := hcarries.taken_query h hheard held sequence
  cases hregistered : passage.cancelled with
  | true =>
    rw [hregistered] at htaken
    refine ⟨queue, hcarries.kept h hheard _ ?_ rfl rfl (Or.inl htaken)⟩
    rw [call?_of_first hfirst, hregistered]
    rfl
  | false =>
    cases hroom : queue.refusal? with
    | none => exact ⟨_, hcarries.accepted h hheard hfirst hregistered hroom⟩
    | some refusal =>
      have hmem := hfirst ▸ List.mem_singleton_self snapshot
      rw [hcarries.refusal h hheard hregistered hmem, hregistered, hroom] at htaken
      refine ⟨queue, hcarries.kept h hheard _ ?_ rfl rfl (Or.inl htaken)⟩
      rw [call?_of_first hfirst, hregistered]
      exact congrArg (fun answer => Consumer.channel answer.2)
        (queue.deliver_of_refusal hroom snapshot)

lemma receive (hcarries : Carries position id name bound ring passage queue) (h : ring.WellFormed)
    (hheard : ring.Heard earlier) (held : Frame → Bool) (limit : Option Nat) :
    Carries position id name bound (ring.next (.audience held (.receive position limit)))
      (passage.on position id earlier [ring.entry (.audience held (.receive position limit))])
      (queue.receive limit).2 := by
  have hconsumer : ring.audience.consumer? position = some (.channel queue) := by
    rw [Audience.consumer?, hcarries.subscription]
    rfl
  have hperform : ring.audience.perform held (.receive position limit) = .ok
      (.received ((queue.receive limit).1.map (·.map (·.sight (ring.audience.keepsAlive held)))),
        ring.audience.setConsumer position (.channel (queue.receive limit).2)) := by
    rw [Audience.perform, hconsumer]
    rfl
  have hreceived : (ring.entry (.audience held (.receive position limit))).received position =
      (queue.receive limit).1.getD [] := by
    rw [Entry.received, entry, answer_audience hperform]
    cases (queue.receive limit).1 with
    | none => rfl
    | some snapshots => simp [Snapshot.sight, Function.comp_def]
  have hhang : (ring.entry (.audience held (.receive position limit))).hangsUp position = false :=
    rfl
  have hcancels : (ring.entry (.audience held (.receive position limit))).cancels id = false := rfl
  have hfirst : firstSuccess earlier (ring.entry (.audience held (.receive position limit))).op
      (ring.entry (.audience held (.receive position limit))).answer = [] := rfl
  obtain ⟨hlimit, hreceiving, hwaiting⟩ := queue.receive_spec limit
  rw [Passage.on_one, hhang, hcancels, hreceived, hfirst, ite_self, Bool.or_false, Bool.or_false,
    List.append_nil]
  refine ⟨?_, hlimit.trans hcarries.limit, hreceiving.trans hcarries.receiving, ?_, ?_⟩
  · rw [subscription_next h hheard hcarries.subscription, hcancels]
    simp [call?, Audience.served, Consumer.received]
  · intro hopen
    rw [List.append_assoc, hwaiting]
    exact hcarries.exact hopen
  · intro places hplaces
    have hwithin := hcarries.within places hplaces
    rw [← hwaiting, List.length_append] at hwithin
    omega

lemma hungUp (hcarries : Carries position id name bound ring passage queue) (h : ring.WellFormed)
    (hheard : ring.Heard earlier) (held : Frame → Bool) :
    Carries position id name bound (ring.next (.audience held (.hangUp position)))
      (passage.on position id earlier [ring.entry (.audience held (.hangUp position))])
      queue.hangUp := by
  have hhang : (ring.entry (.audience held (.hangUp position))).hangsUp position = true :=
    decide_eq_true rfl
  have hcancels : (ring.entry (.audience held (.hangUp position))).cancels id = false := rfl
  rw [Passage.on_one, hhang, hcancels, Bool.or_true, Bool.or_false]
  refine ⟨?_, hcarries.limit, rfl, ?_, fun places _ => Nat.zero_le places⟩
  · rw [subscription_next h hheard hcarries.subscription, hcancels]
    simp [call?, Audience.served, Consumer.hungUp]
  · rintro ⟨⟩

lemma next (hcarries : Carries position id name bound ring passage queue)
    (h : ring.WellFormed) (hheard : ring.Heard earlier) (op : Op) :
    ∃ queue', Carries position id name bound (ring.next op)
      (passage.on position id earlier [ring.entry op]) queue' := by
  cases op with
  | query held sequence =>
    rcases firstSuccess_cases earlier (.query held sequence)
      (ring.answer (.query held sequence)) with hnone | ⟨snapshot, hfirst⟩
    · refine ⟨queue, hcarries.kept h hheard _ ?_ rfl rfl (Or.inr hnone)⟩
      rw [call?, hnone]
      rfl
    · exact hcarries.announced h hheard hfirst
  | audience held use =>
    cases use with
    | receive place limit =>
      by_cases hplace : place = position
      · subst hplace
        exact ⟨_, hcarries.receive h hheard held limit⟩
      · refine ⟨queue, hcarries.kept h hheard _ (if_neg hplace) rfl ?_ (Or.inr rfl)⟩
        unfold Entry.received entry
        split
        · simp_all
        · rfl
    | hangUp place =>
      by_cases hplace : place = position
      · subst hplace
        exact ⟨_, hcarries.hungUp h hheard held⟩
      · exact ⟨queue, hcarries.kept h hheard _ (if_neg hplace) (decide_eq_false hplace) rfl
          (Or.inr rfl)⟩
    | _ => exact ⟨queue, hcarries.kept h hheard _ rfl rfl rfl (Or.inr rfl)⟩
  | _ => exact ⟨queue, hcarries.kept h hheard _ rfl rfl rfl (Or.inr rfl)⟩

end Carries

/-! ### Runs -/

lemma Carries.after (hcarries : Carries position id name bound ring passage queue)
    (h : ring.WellFormed) (hheard : ring.Heard earlier) (ops : List Op) :
    ∃ queue', Carries position id name bound (ring.after ops)
      (passage.on position id earlier (ring.entries ops)) queue' := by
  induction ops generalizing ring passage queue earlier with
  | nil =>
    refine ⟨queue, ?_⟩
    have hon : passage.on position id earlier (ring.entries []) = passage := by
      simp [Passage.on, entries, Ring.taken, firstSuccesses]
    rw [hon]
    exact hcarries
  | cons op rest ih =>
    obtain ⟨queue', hnext⟩ := hcarries.next h hheard op
    obtain ⟨queue'', hrest⟩ := ih hnext (h.next op) (hheard.next h op)
    refine ⟨queue'', ?_⟩
    have hsplit : ring.entries (op :: rest) = ring.entry op :: (ring.next op).entries rest := rfl
    rw [hsplit, Passage.on_cons]
    exact hrest

lemma nodup_taken (h : ring.WellFormed) (position : Nat) (earlier : List Nat) (ops : List Op) :
    ((taken position earlier (ring.entries ops)).map (·.sequence)).Nodup := by
  unfold taken
  rw [List.map_map]
  exact (nodup_firstSuccesses h earlier ops).sublist (List.filter_sublist.map _)

lemma carries_subscribed
    (h : ring.answer (.audience held (.subscribe name (.channel bound))) =
      .ok (.audience (.subscribed id))) :
    Carries ring.audience.subscriptions.length id name bound
      (ring.next (.audience held (.subscribe name (.channel bound)))) .start (.new bound) := by
  obtain ⟨consumer, hmake, hat⟩ := subscription_of_subscribed h
  have hconsumer : consumer = .channel (.new bound) := by
    rw [ConsumerSetup.make] at hmake
    cases hreserve : Channel.reserve bound with
    | error fault =>
      rw [hreserve] at hmake
      cases hmake
    | ok _ =>
      rw [hreserve] at hmake
      cases hmake
      rfl
  rw [hconsumer] at hat
  exact ⟨hat, rfl, rfl, fun _ => rfl, fun places _ => Nat.zero_le places⟩

/-- Until its receiving end is dropped, what was received from a channel and what waits in it are
the first successes that were made while it was registered and that it did not refuse, in the order
of the answers and with no unit twice. At most as many wait as there are places. A first success is
refused as disconnected if the receiving end was dropped, and as one too many just if it was not and
the places are taken. -/
theorem channel_conserves (hnew : ring.IsNew) (before later : List Op)
    (hsubscribed : (ring.after before).answer (.audience held (.subscribe name (.channel bound))) =
      .ok (.audience (.subscribed id))) :
    let start := (ring.after before).next (.audience held (.subscribe name (.channel bound)))
    let position := (ring.after before).audience.subscriptions.length
    let earlier := successes (ring.entries before)
    let entries := start.entries later
    let ended := start.after later
    ∃ queue, ended.audience.subscriptions[position]? =
        some ⟨id, name, .channel queue, !entries.any (·.cancels id)⟩ ∧
      queue.bound = bound ∧ queue.receiving = !entries.any (·.hangsUp position) ∧
      (queue.receiving → entries.flatMap (·.received position) ++ queue.waiting =
        taken position earlier entries) ∧
      ((taken position earlier entries).map (·.sequence)).Nodup ∧
      (∀ places, bound = some places → queue.waiting.length ≤ places) ∧
      ∀ held sequence snapshot, ended.audience.isRegistered position →
        snapshot ∈ firstSuccess (earlier ++ successes entries) (.query held sequence)
          (ended.answer (.query held sequence)) →
        (ended.entry (.query held sequence)).refusal? position =
          if !queue.receiving then some .disconnected
          else if bound.any (· ≤ queue.waiting.length) then some .full
          else none := by
  intro start position earlier entries ended
  have hring := hnew.wellFormed_after before
  have hstart : start.WellFormed := hring.next _
  have hheard : start.Heard earlier := (hnew.heard_after before).audience hring held _
  have hheardEnd : ended.Heard (earlier ++ successes entries) := heard_after hstart hheard later
  obtain ⟨queue, hcarries⟩ := (carries_subscribed hsubscribed).after hstart hheard later
  refine ⟨queue, hcarries.subscription, hcarries.limit, hcarries.receiving, ?_, ?_, hcarries.within,
    ?_⟩
  · intro hreceiving
    rw [hcarries.receiving, Bool.not_eq_true'] at hreceiving
    exact hcarries.exact hreceiving
  · exact nodup_taken hstart position earlier later
  · intro held sequence snapshot hregistered hfirst
    rw [hcarries.refusal (hstart.after later) hheardEnd (hcarries.not_cancelled hregistered) hfirst,
      Channel.refusal?, Channel.isFull, hcarries.limit]

/-- Two units succeed, of which the first one is asked for twice and received in between. A third
unit retires. -/
def crowded : List Op :=
  [.begin 7 none, .retire 0, .query (fun _ => true) 0, .query (fun _ => true) 0,
    .audience (fun _ => true) (.receive 0 none), .begin 8 none, .retire 1,
    .query (fun _ => true) 1, .begin 9 none, .retire 2]

/-- The success of a unit whose only engine was skipped. -/
def skippedSuccess (sequence : Nat) (number : UInt32) : Snapshot :=
  ⟨sequence, some number, none, .successful, [⟨⟨0⟩, .skipped, 0, some 0, none, [0]⟩]⟩

theorem channel_conserves_crowded :
    single.answer (.audience (fun _ => true) (.subscribe "queue" (.channel (some 1)))) =
      .ok (.audience (.subscribed 0)) ∧
    let start := single.next (.audience (fun _ => true) (.subscribe "queue" (.channel (some 1))))
    let ended := start.after crowded
    ∃ queue : Channel, queue.bound = some 1 ∧ queue.receiving = true ∧ queue.waiting.length ≤ 1 ∧
      (start.entries crowded).flatMap (·.received 0) ++ queue.waiting =
        [skippedSuccess 0 7, skippedSuccess 1 8] ∧
      (ended.entry (.query (fun _ => true) 2)).refusal? 0 = some .full := by
  have hsubscribed : (single.after []).answer
      (.audience (fun _ => true) (.subscribe "queue" (.channel (some 1)))) =
        .ok (.audience (.subscribed 0)) := rfl
  obtain ⟨queue, -, hlimit, hreceiving, htaken, -, hwithin, hrefusal⟩ :=
    channel_conserves isNew_single [] crowded hsubscribed
  have hopen : queue.receiving = true := hreceiving.trans rfl
  have htook : taken 0 [] ((single.next (.audience (fun _ => true)
      (.subscribe "queue" (.channel (some 1))))).entries crowded) =
        [skippedSuccess 0 7, skippedSuccess 1 8] := by decide +kernel
  have hreceived : ((single.next (.audience (fun _ => true)
      (.subscribe "queue" (.channel (some 1))))).entries crowded).flatMap (·.received 0) =
        [skippedSuccess 0 7] := by decide +kernel
  have hall := (htaken hopen).trans htook
  have hrest : [skippedSuccess 0 7] ++ queue.waiting =
      [skippedSuccess 0 7] ++ [skippedSuccess 1 8] := hreceived ▸ hall
  have hwaiting : queue.waiting = [skippedSuccess 1 8] := List.append_cancel_left hrest
  refine ⟨hsubscribed, queue, hlimit, hopen, hwithin 1 rfl, hall, ?_⟩
  refine (hrefusal (fun _ => true) 2 (skippedSuccess 2 9) (by decide +kernel) ?_).trans ?_
  · decide +kernel
  · rw [hopen, hwaiting]
    rfl

end Ring

end CompletionRing
