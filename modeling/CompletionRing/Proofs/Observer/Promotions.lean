import CompletionRing.Proofs.Observer.Fates
import Mathlib.Data.List.DropRight

/-!
# Promotions

A list of promotions holds the latest of those that it accepted, as many as there is room for, and
keeps their frames alive whoever else let go of them. It accepts what has a number and a live frame.
-/

namespace CompletionRing

/-- The number and the frame of a snapshot that has both. -/
def Snapshot.pair? (snapshot : Snapshot) : Option (UInt32 × Frame) :=
  snapshot.number.bind fun number => snapshot.frame.map (number, ·)

namespace Promotions

variable {list : Promotions} {accepted : List (UInt32 × Frame)} {number : UInt32} {frame : Frame}

lemma candidate_eq_ite (alive : Frame → Bool) (snapshot : Snapshot) :
    candidate alive snapshot =
      if !snapshot.frame.any alive then .error (.rejected "frame resource no longer alive")
      else match snapshot.pair? with
        | none => .error (.rejected "snapshot has no report number")
        | some entry => .ok entry := by
  unfold candidate Snapshot.frame? Snapshot.pair?
  cases snapshot.frame with
  | none => rfl
  | some frame =>
    cases halive : alive frame with
    | false => simp [Option.filter, halive]
    | true => cases snapshot.number <;> simp [Option.filter, halive]

lemma length_of_window (h : list.entries = accepted.rtake list.capacity) :
    list.entries.length = min list.capacity accepted.length := by
  rw [h, List.rtake, List.length_drop]
  omega

lemma pair?_of_candidate {alive : Frame → Bool} {snapshot : Snapshot} {entry : UInt32 × Frame}
    (h : candidate alive snapshot = .ok entry) : snapshot.pair? = some entry := by
  rw [candidate_eq_ite] at h
  split at h
  · cases h
  · cases hpair : snapshot.pair? with
    | none =>
      rw [hpair] at h
      cases h
    | some other =>
      rw [hpair] at h
      cases h
      rfl

lemma entries_push (hroom : 0 < list.capacity) (h : list.entries = accepted.rtake list.capacity)
    (entry : UInt32 × Frame) :
    (list.push entry).entries = (accepted ++ [entry]).rtake list.capacity := by
  have hlength : list.entries.length = min list.capacity accepted.length := length_of_window h
  have hkept : (if list.entries.length = list.capacity then list.entries.drop 1
      else list.entries) = accepted.drop (accepted.length + 1 - list.capacity) := by
    split
    · rw [h, List.rtake, List.drop_drop]
      congr 1
      omega
    · rw [h, List.rtake]
      congr 1
      omega
  rw [push, List.rtake, List.length_append, List.length_singleton,
    List.drop_append_of_le_length (by omega), ← hkept]

/-- A look-up finds the oldest of the entries with a number. -/
lemma get?_eq_some_iff : list.get? number = some frame ↔
    ∃ older newer, list.entries = older ++ (number, frame) :: newer ∧
      ∀ entry ∈ older, entry.1 ≠ number := by
  unfold get?
  rw [Option.map_eq_some_iff]
  constructor
  · rintro ⟨entry, hfound, rfl⟩
    obtain ⟨hnumber, older, newer, hsplit, hothers⟩ := List.find?_eq_some_iff_append.mp hfound
    rw [decide_eq_true_eq] at hnumber
    subst hnumber
    exact ⟨older, newer, hsplit, by simpa using hothers⟩
  · rintro ⟨older, newer, hsplit, hothers⟩
    refine ⟨(number, frame), List.find?_eq_some_iff_append.mpr ⟨by simp, older, newer, hsplit, ?_⟩,
      rfl⟩
    simpa using hothers

lemma contains_eq (list : Promotions) (number : UInt32) :
    list.contains number = (list.get? number).isSome := by
  unfold contains get?
  rw [Option.isSome_map, Bool.eq_iff_iff, List.any_eq_true, List.find?_isSome]

end Promotions

namespace Audience

/-- Does the subscription at a position take a snapshot that is announced? -/
def takes (audience : Audience) (position : Nat) (held : Frame → Bool) (snapshot : Snapshot) :
    Bool :=
  audience.isRegistered position &&
    ((deliveries (audience.announce held snapshot).events)[audience.place position]?).any
      (·.answer.isOk)

/-- What a call gives the list at a position, if it takes it. -/
def promoted? (audience : Audience) (position : Nat) : Call → Option (UInt32 × Frame)
  | .announce held snapshot =>
    if audience.takes position held snapshot then snapshot.pair? else none
  | _ => none

/-- What the list at a position accepted in the course of calls. -/
def accepted (audience : Audience) (position : Nat) : List Call → List (UInt32 × Frame)
  | [] => []
  | call :: rest =>
    (audience.promoted? position call).toList ++ (audience.next call).accepted position rest

/-- Is there such a list at a position, with the latest of those that it accepted? -/
structure Promotes (position : Nat) (id : UInt32) (name : String) (capacity : Nat)
    (audience : Audience) (accepted : List (UInt32 × Frame)) (list : Promotions) : Prop where
  subscription : ∃ active,
    audience.subscriptions[position]? = some ⟨id, name, .promotions list, active⟩
  limit : list.capacity = max capacity 1
  entries : list.entries = accepted.rtake list.capacity

variable {audience : Audience} {position capacity : Nat} {id : UInt32} {name : String}
  {accepted : List (UInt32 × Frame)} {list : Promotions}

lemma takes_of_registered {subscription : Subscription}
    (hat : audience.subscriptions[position]? = some subscription) (hactive : subscription.active)
    (held : Frame → Bool) (snapshot : Snapshot) :
    audience.takes position held snapshot =
      (subscription.consumer.taking (audience.keepsAlive held) snapshot).1.isOk := by
  rw [takes, isRegistered, hat, deliveries_announce, getElem?_deliveriesOf hat hactive]
  simp [hactive, Subscription.delivery]

lemma takes_of_cancelled {subscription : Subscription}
    (hat : audience.subscriptions[position]? = some subscription)
    (hactive : subscription.active = false) (held : Frame → Bool) (snapshot : Snapshot) :
    audience.takes position held snapshot = false := by
  rw [takes, isRegistered, hat, Option.any_some, hactive, Bool.false_and]

lemma promotes_subscribed (audience : Audience) (held : Frame → Bool) (name : String)
    (hreserve : Promotions.reserve capacity = .ok ()) :
    audience.answer (.use held (.subscribe name (.promotions capacity))) =
        .ok (.replied (.subscribed audience.nextId)) ∧
      Promotes audience.subscriptions.length audience.nextId name capacity
        (audience.next (.use held (.subscribe name (.promotions capacity)))) []
        (.new capacity) := by
  have hmake : ConsumerSetup.make (.promotions capacity) = .ok (.promotions (.new capacity)) := by
    rw [ConsumerSetup.make, hreserve]
    rfl
  have hperform : audience.perform held (.subscribe name (.promotions capacity)) =
      .ok (.subscribed audience.nextId,
        (audience.subscribe name (.promotions (.new capacity))).2) := by
    rw [perform, hmake]
    rfl
  constructor
  · rw [answer, use_of_ok hperform]
    rfl
  · refine ⟨⟨true, subscription_new hmake held⟩, rfl, ?_⟩
    rw [List.rtake_nil]
    rfl

namespace Promotes

lemma idle (h : Promotes position id name capacity audience accepted list) {call : Call}
    {active : Bool} (hat : (audience.next call).subscriptions[position]? =
      some ⟨id, name, .promotions list, active⟩)
    (hnone : audience.promoted? position call = none) :
    Promotes position id name capacity (audience.next call)
      (accepted ++ (audience.promoted? position call).toList) list := by
  rw [hnone, Option.toList_none, List.append_nil]
  exact ⟨⟨active, hat⟩, h.limit, h.entries⟩

lemma announce (h : Promotes position id name capacity audience accepted list) (held : Frame → Bool)
    (snapshot : Snapshot) : ∃ list', Promotes position id name capacity
      (audience.next (.announce held snapshot))
      (accepted ++ (audience.promoted? position (.announce held snapshot)).toList) list' := by
  obtain ⟨active, hat⟩ := h.subscription
  have hfate := subscription_next hat (.announce held snapshot)
  rw [fate_announce, Subscription.told] at hfate
  cases active with
  | false =>
    have hnone : audience.promoted? position (.announce held snapshot) = none := by
      rw [promoted?, takes_of_cancelled hat rfl]
      rfl
    exact ⟨list, h.idle hfate hnone⟩
  | true =>
    have htakes := takes_of_registered hat rfl held snapshot
    rw [Consumer.taking_promotions] at htakes
    rw [if_pos rfl, Consumer.taking_promotions] at hfate
    cases hcandidate : Promotions.candidate (audience.keepsAlive held) snapshot with
    | error refusal =>
      rw [hcandidate] at htakes hfate
      have hnone : audience.promoted? position (.announce held snapshot) = none := by
        rw [promoted?, htakes]
        rfl
      exact ⟨list, h.idle hfate hnone⟩
    | ok entry =>
      rw [hcandidate] at htakes hfate
      have hsome : audience.promoted? position (.announce held snapshot) = some entry := by
        rw [promoted?, htakes, Promotions.pair?_of_candidate hcandidate]
        rfl
      have hroom : 0 < list.capacity := by
        rw [h.limit]
        omega
      refine ⟨list.push entry, ⟨true, hfate⟩, h.limit, ?_⟩
      rw [hsome]
      exact Promotions.entries_push hroom h.entries entry

lemma next (h : Promotes position id name capacity audience accepted list) (call : Call) :
    ∃ list', Promotes position id name capacity (audience.next call)
      (accepted ++ (audience.promoted? position call).toList) list' := by
  obtain ⟨active, hat⟩ := h.subscription
  have hfate := subscription_next hat call
  cases call with
  | announce held snapshot => exact h.announce held snapshot
  | cancel other => exact ⟨list, h.idle hfate rfl⟩
  | use held op =>
    have hserved : audience.served position ⟨id, name, .promotions list, active⟩ (.use held op) =
        .promotions list := by
      cases op <;> simp [served, Consumer.received, Consumer.hungUp]
    rw [fate, hserved] at hfate
    exact ⟨list, h.idle hfate rfl⟩

lemma after (h : Promotes position id name capacity audience accepted list) (calls : List Call) :
    ∃ list', Promotes position id name capacity (audience.after calls)
      (accepted ++ audience.accepted position calls) list' := by
  induction calls generalizing audience accepted list with
  | nil =>
    rw [Audience.accepted, List.append_nil]
    exact ⟨list, h⟩
  | cons call rest ih =>
    obtain ⟨list', hnext⟩ := h.next call
    rw [Audience.accepted, ← List.append_assoc]
    exact ih hnext

lemma keepsAlive (h : Promotes position id name capacity audience accepted list)
    {entry : UInt32 × Frame} (hmem : entry ∈ list.entries) (held : Frame → Bool) :
    audience.keepsAlive held entry.2 := by
  obtain ⟨active, hat⟩ := h.subscription
  have hholds : audience.holds entry.2 :=
    List.any_eq_true.mpr ⟨_, List.mem_of_getElem? hat,
      List.any_eq_true.mpr ⟨entry, hmem, decide_eq_true rfl⟩⟩
  rw [Audience.keepsAlive, hholds, Bool.or_true]

lemma delivery (h : Promotes position id name capacity audience accepted list)
    (hregistered : audience.isRegistered position) (held : Frame → Bool) (snapshot : Snapshot) :
    ∃ answer, (deliveries (audience.announce held snapshot).events)[audience.place position]? =
        some ⟨id, snapshot, answer⟩ ∧
      answer = (if !snapshot.frame.any (audience.keepsAlive held) then
          .error (.rejected "frame resource no longer alive")
        else if snapshot.number = none then .error (.rejected "snapshot has no report number")
        else .ok ()) ∧
      (answer.isOk = false →
        (audience.told held snapshot).2.subscriptions[position]? =
          audience.subscriptions[position]?) := by
  obtain ⟨active, hat⟩ := h.subscription
  have hactive : active = true := by
    rw [isRegistered, hat] at hregistered
    exact hregistered
  subst hactive
  have htold : (audience.told held snapshot).2.subscriptions[position]? =
      some (Subscription.told (audience.keepsAlive held) snapshot
        ⟨id, name, .promotions list, true⟩) := by
    rw [audience_told, List.getElem?_map, hat]
    rfl
  refine ⟨((Consumer.promotions list).taking (audience.keepsAlive held) snapshot).1, ?_, ?_, ?_⟩
  · rw [deliveries_announce]
    exact getElem?_deliveriesOf hat rfl held snapshot
  · rw [Consumer.taking_promotions, Promotions.candidate_eq_ite, Snapshot.pair?]
    cases snapshot.frame with
    | none => rfl
    | some frame =>
      cases halive : audience.keepsAlive held frame <;> cases snapshot.number <;> simp [halive]
  · intro hrejected
    rw [htold, hat, Subscription.told, if_pos rfl]
    rw [Consumer.taking_promotions] at hrejected ⊢
    cases hcandidate : Promotions.candidate (audience.keepsAlive held) snapshot with
    | error refusal => rfl
    | ok entry =>
      rw [hcandidate] at hrejected
      cases hrejected

end Promotes

/-- A list of promotions is a window on what it accepted. It rejects what it is told of just if the
frame is missing or dead or the number is missing, and stays as it was then. Of what it accepted it
holds the latest, oldest first, as many as there is room for, and one where there is none. It keeps
the frames of these alive, and looks up the oldest with a number. -/
theorem promotions_window (audience : Audience) (held : Frame → Bool) (name : String)
    (capacity : Nat) (hreserve : Promotions.reserve capacity = .ok ()) (calls : List Call) :
    let subscribe := Call.use held (.subscribe name (.promotions capacity))
    let position := audience.subscriptions.length
    let accepted := (audience.next subscribe).accepted position calls
    let ended := (audience.next subscribe).after calls
    audience.answer subscribe = .ok (.replied (.subscribed audience.nextId)) ∧
    ∃ list active, ended.subscriptions[position]? =
        some ⟨audience.nextId, name, .promotions list, active⟩ ∧
      list.entries = accepted.rtake (max capacity 1) ∧
      list.entries.length = min (max capacity 1) accepted.length ∧
      (∀ held snapshot, ended.isRegistered position →
        ∃ answer, (deliveries (ended.announce held snapshot).events)[ended.place position]? =
            some ⟨audience.nextId, snapshot, answer⟩ ∧
          answer = (if !snapshot.frame.any (ended.keepsAlive held) then
              .error (.rejected "frame resource no longer alive")
            else if snapshot.number = none then .error (.rejected "snapshot has no report number")
            else .ok ()) ∧
          (answer.isOk = false → (ended.told held snapshot).2.subscriptions[position]? =
            ended.subscriptions[position]?)) ∧
      (∀ entry ∈ list.entries, ∀ held, ended.keepsAlive held entry.2) ∧
      ∀ number, list.contains number = (list.get? number).isSome ∧
        ∀ frame, list.get? number = some frame ↔ ∃ older newer,
          list.entries = older ++ (number, frame) :: newer ∧
            ∀ entry ∈ older, entry.1 ≠ number := by
  intro subscribe position accepted ended
  obtain ⟨hanswer, hnew⟩ := audience.promotes_subscribed held name hreserve
  obtain ⟨list, hended⟩ := hnew.after calls
  obtain ⟨active, hat⟩ := hended.subscription
  have hentries := hended.entries
  have hlength := Promotions.length_of_window hentries
  rw [hended.limit, List.nil_append] at hentries hlength
  refine ⟨hanswer, list, active, hat, hentries, hlength, ?_, ?_, ?_⟩
  · intro held snapshot hregistered
    exact hended.delivery hregistered held snapshot
  · intro entry hmem held
    exact hended.keepsAlive hmem held
  · intro number
    exact ⟨list.contains_eq number, fun frame => Promotions.get?_eq_some_iff⟩

/-- Two frames with the same number, and then the first one once more, of which the host let go. -/
def promoting : List Call :=
  [.announce (· = ⟨0, 0⟩) ⟨0, some 7, some ⟨0, 0⟩, .successful, []⟩,
    .announce (· = ⟨1, 1⟩) ⟨1, some 7, some ⟨1, 1⟩, .successful, []⟩,
    .announce (fun _ => false) ⟨2, some 8, some ⟨0, 0⟩, .successful, []⟩]

theorem promotions_window_promoting :
    Promotions.reserve 2 = .ok () ∧
    let ended := (empty.next (.use (fun _ => false) (.subscribe "list" (.promotions 2)))).after
      promoting
    ∃ list : Promotions, list.entries = [(7, ⟨1, 1⟩), (8, ⟨0, 0⟩)] ∧
      list.get? 7 = some ⟨1, 1⟩ ∧ list.contains 9 = false ∧
      ended.keepsAlive (fun _ => false) ⟨1, 1⟩ ∧
      (deliveries (ended.announce (fun _ => false)
        ⟨3, some 9, some ⟨2, 2⟩, .successful, []⟩).events)[ended.place 0]?.map (·.answer) =
          some (.error (.rejected "frame resource no longer alive")) := by
  have hreserve : Promotions.reserve 2 = .ok () := by decide
  obtain ⟨-, list, active, hat, hentries, -, hanswers, halive, hnumbers⟩ :=
    promotions_window empty (fun _ => false) "list" 2 hreserve promoting
  have hwindow : list.entries = [(7, ⟨1, 1⟩), (8, ⟨0, 0⟩)] := hentries.trans rfl
  have hfirst : list.get? 7 = some ⟨1, 1⟩ := by
    refine ((hnumbers 7).2 ⟨1, 1⟩).mpr ⟨[], [(8, ⟨0, 0⟩)], hwindow, ?_⟩
    simp
  have hnone : list.contains 9 = false := by
    rw [(hnumbers 9).1, Promotions.get?, hwindow]
    rfl
  obtain ⟨answer, hdelivery, hanswer, -⟩ := hanswers (fun _ => false)
    ⟨3, some 9, some ⟨2, 2⟩, .successful, []⟩ rfl
  refine ⟨hreserve, list, hwindow, hfirst, hnone, halive (7, ⟨1, 1⟩) ?_ _, ?_⟩
  · rw [hwindow]
    exact List.mem_cons_self
  · refine (congrArg (Option.map (·.answer)) hdelivery).trans ?_
    rw [Option.map_some, hanswer]
    rfl

end Audience

end CompletionRing
