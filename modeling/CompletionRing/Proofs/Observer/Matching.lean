import CompletionRing.Proofs.Device.Tables
import CompletionRing.Proofs.Observer.FanOut
import Mathlib.Data.List.Nodup
import Mathlib.Data.List.Perm.Basic

/-!
# Audiences that see reports in another order

Two snapshots match if they say the same and give the same report for each engine, in whatever
order the engines come. An audience whose functions do not look at the reports treats matching
snapshots alike.
-/

namespace CompletionRing

/-- Are these the same reports in some order, with one report to find for each engine? -/
structure Report.Matching (reports reports' : List Report) : Prop where
  perm : reports'.Perm reports
  find : ∀ engine, reports'.find? (·.engine = engine) = reports.find? (·.engine = engine)

/-- Do the snapshots say the same, but for the order of the engines? -/
structure Snapshot.Matches (snapshot snapshot' : Snapshot) : Prop where
  sequence : snapshot'.sequence = snapshot.sequence
  number : snapshot'.number = snapshot.number
  frame : snapshot'.frame = snapshot.frame
  status : snapshot'.status = snapshot.status
  reports : Report.Matching snapshot.reports snapshot'.reports

structure Sight.Matches (sight sight' : Sight) : Prop where
  snapshot : sight.snapshot.Matches sight'.snapshot
  reference : sight'.reference = sight.reference

/-- Are the notices about matching snapshots, and the same otherwise? -/
inductive Event.Matches : Event → Event → Prop
  | announced {snapshot snapshot'} (h : snapshot.Matches snapshot') :
    Matches (.announced snapshot) (.announced snapshot')
  | delivered {observer name kind answer snapshot snapshot'} (h : snapshot.Matches snapshot') :
    Matches (.delivered observer name kind snapshot answer)
      (.delivered observer name kind snapshot' answer)
  | promoted {number} : Matches (.promoted number) (.promoted number)

/-- Is the answer the same whatever the reports are? -/
def Callback.IgnoresReports (function : Callback) : Prop :=
  ∀ call snapshot reports,
    function.answer call { snapshot with reports } = function.answer call snapshot

structure Channel.Matches (queue queue' : Channel) : Prop where
  bound : queue'.bound = queue.bound
  waiting : List.Forall₂ Snapshot.Matches queue.waiting queue'.waiting
  receiving : queue'.receiving = queue.receiving

/-- Do the counters stand the same, those for each engine too? -/
structure Telemetry.Matches (counts counts' : Telemetry) : Prop where
  successes : counts'.successes = counts.successes
  outOfOrder : counts'.outOfOrder = counts.outOfOrder
  lastNumber : counts'.lastNumber = counts.lastNumber
  skipped : ∀ engine, counts'.skipped.get? engine = counts.skipped.get? engine

/-- Are the consumers in the same state, but for the order of engines? A function has to be one
that does not look at the reports. -/
inductive Consumer.Matches : Consumer → Consumer → Prop
  | callback {function} (h : function.IgnoresReports) :
    Matches (.callback function) (.callback function)
  | channel {queue queue'} (h : queue.Matches queue') : Matches (.channel queue) (.channel queue')
  | promotions {list} : Matches (.promotions list) (.promotions list)
  | telemetry {counts counts'} (h : counts.Matches counts') :
    Matches (.telemetry counts) (.telemetry counts')

structure Subscription.Matches (subscription subscription' : Subscription) : Prop where
  id : subscription'.id = subscription.id
  name : subscription'.name = subscription.name
  consumer : subscription.consumer.Matches subscription'.consumer
  active : subscription'.active = subscription.active

/-- Did both come to matching values, or did the same fault stop both? -/
inductive Outcomes {α : Type} (Matching : α → α → Prop) : Except Fault α → Except Fault α → Prop
  | value {value value'} (h : Matching value value') : Outcomes Matching (.ok value) (.ok value')
  | fault {fault} : Outcomes Matching (.error fault) (.error fault)

namespace Audience

structure Matches (audience audience' : Audience) : Prop where
  nextId : audience'.nextId = audience.nextId
  subscriptions : List.Forall₂ Subscription.Matches audience.subscriptions audience'.subscriptions

inductive Reply.Matches : Reply → Reply → Prop
  | same {reply} : Matches reply reply
  | received {sights sights'} (h : List.Forall₂ Sight.Matches sights sights') :
    Matches (.received (some sights)) (.received (some sights'))
  | inspected {consumer consumer'} (h : consumer.Matches consumer') :
    Matches (.inspected consumer) (.inspected consumer')

/-- Does the operation subscribe no function that looks at the reports? -/
def Op.IgnoresReports : Op → Prop
  | .subscribe _ (.callback function) => function.IgnoresReports
  | _ => True

end Audience

/-! ### Snapshots -/

lemma Report.find?_eq_some_iff {reports : List Report} {report : Report} {engine : Engine}
    (hnodup : (reports.map (·.engine)).Nodup) :
    reports.find? (·.engine = engine) = some report ↔ report ∈ reports ∧ report.engine = engine := by
  constructor
  · intro hfound
    exact ⟨List.mem_of_find?_eq_some hfound, by simpa using List.find?_some hfound⟩
  · rintro ⟨hmem, rfl⟩
    cases hfound : reports.find? (·.engine = report.engine) with
    | none => exact absurd (decide_eq_true rfl) (List.find?_eq_none.mp hfound report hmem)
    | some other =>
      have hsame : other.engine = report.engine := by simpa using List.find?_some hfound
      rw [List.inj_on_of_nodup_map hnodup (List.mem_of_find?_eq_some hfound) hmem hsame]

namespace Report.Matching

lemma refl (reports : List Report) : Matching reports reports := ⟨.refl _, fun _ => rfl⟩

lemma of_perm {reports reports' : List Report} (hperm : reports'.Perm reports)
    (hnodup : (reports.map (·.engine)).Nodup) : Matching reports reports' := by
  have hnodup' : (reports'.map (·.engine)).Nodup := (hperm.map _).nodup_iff.mpr hnodup
  refine ⟨hperm, ?_⟩
  intro engine
  apply Option.ext
  intro report
  rw [find?_eq_some_iff hnodup, find?_eq_some_iff hnodup', hperm.mem_iff]

end Report.Matching

namespace Snapshot.Matches

variable {snapshot snapshot' : Snapshot}

lemma eq_withReports (h : snapshot.Matches snapshot') :
    snapshot' = { snapshot with reports := snapshot'.reports } := by
  obtain ⟨hsequence, hnumber, hframe, hstatus, -⟩ := h
  cases snapshot
  cases snapshot'
  simp_all

lemma frame?_eq (h : snapshot.Matches snapshot') (alive : Frame → Bool) :
    snapshot'.frame? alive = snapshot.frame? alive := by
  unfold Snapshot.frame?
  rw [h.frame]

lemma skipped_perm (h : snapshot.Matches snapshot') : snapshot'.skipped.Perm snapshot.skipped :=
  (h.reports.perm.filter _).map _

lemma sight (h : snapshot.Matches snapshot') (alive : Frame → Bool) :
    (snapshot.sight alive).Matches (snapshot'.sight alive) := by
  refine ⟨h, ?_⟩
  unfold Snapshot.sight reference
  rw [h.frame]

end Snapshot.Matches

/-! ### Consumers -/

variable {snapshot snapshot' : Snapshot}

lemma Callback.IgnoresReports.answer_eq {function : Callback} (h : function.IgnoresReports)
    (hsnapshot : snapshot.Matches snapshot') (call : Nat) :
    function.answer call snapshot' = function.answer call snapshot := by
  rw [hsnapshot.eq_withReports]
  exact h call snapshot _

namespace Channel.Matches

variable {queue queue' : Channel}

lemma deliver (h : queue.Matches queue') (hsnapshot : snapshot.Matches snapshot') :
    (queue'.deliver snapshot').1 = (queue.deliver snapshot).1 ∧
      (queue.deliver snapshot).2.Matches (queue'.deliver snapshot').2 := by
  have hfull : queue'.isFull = queue.isFull := by
    unfold isFull
    rw [h.bound, h.waiting.length_eq]
  unfold Channel.deliver
  rw [hfull, h.receiving]
  split_ifs
  · exact ⟨rfl, h⟩
  · exact ⟨rfl, h⟩
  · exact ⟨rfl, h.bound, List.rel_append h.waiting (.cons hsnapshot .nil), rfl⟩

lemma receive (h : queue.Matches queue') (limit : Option Nat) (alive : Frame → Bool) :
    Audience.Reply.Matches
        (.received ((queue.receive limit).1.map (·.map (·.sight alive))))
        (.received ((queue'.receive limit).1.map (·.map (·.sight alive)))) ∧
      (queue.receive limit).2.Matches (queue'.receive limit).2 := by
  unfold Channel.receive
  rw [h.receiving]
  split_ifs
  · rw [← h.waiting.length_eq]
    refine ⟨.received ?_, h.bound, List.forall₂_drop _ h.waiting, rfl⟩
    rw [List.forall₂_map_left_iff, List.forall₂_map_right_iff]
    exact (List.forall₂_take _ h.waiting).imp fun _ _ hsnapshot => hsnapshot.sight alive
  · exact ⟨.same, h⟩

lemma hangUp (h : queue.Matches queue') : queue.hangUp.Matches queue'.hangUp :=
  ⟨h.bound, .nil, rfl⟩

end Channel.Matches

namespace Telemetry

lemma get?_countSkipped (counts : Telemetry) (engine other : Engine) :
    (counts.countSkipped engine).skipped.get? other =
      if engine = other then some ((counts.skipped.get? other).getD 0 + 1)
      else counts.skipped.get? other := by
  unfold countSkipped
  rw [EngineTable.get?_insert]
  split_ifs with hother
  · rw [hother]
  · rfl

lemma foldl_countSkipped (counts : Telemetry) (engines : List Engine) :
    ∃ skipped, engines.foldl countSkipped counts = { counts with skipped } ∧
      ∀ other, skipped.get? other =
        if other ∈ engines then some ((counts.skipped.get? other).getD 0 + engines.count other)
        else counts.skipped.get? other := by
  induction engines generalizing counts with
  | nil => exact ⟨counts.skipped, rfl, by simp⟩
  | cons engine rest ih =>
    obtain ⟨skipped, hfold, hskipped⟩ := ih (counts.countSkipped engine)
    refine ⟨skipped, hfold, ?_⟩
    intro other
    rw [hskipped, get?_countSkipped]
    by_cases hother : engine = other
    · subst hother
      by_cases hrest : engine ∈ rest
      · simp [hrest, Nat.add_assoc, Nat.add_comm 1]
      · simp [hrest, List.count_eq_zero_of_not_mem hrest]
    · simp [hother, Ne.symm hother]

lemma Matches.countNumber {counts counts' : Telemetry} (h : counts.Matches counts')
    (number : Option UInt32) : (counts.countNumber number).Matches (counts'.countNumber number) := by
  cases number with
  | none => exact h
  | some number =>
    refine ⟨h.successes, ?_, rfl, h.skipped⟩
    unfold Telemetry.countNumber
    rw [h.outOfOrder, h.lastNumber]

lemma Matches.countAll {counts counts' : Telemetry} (h : counts.Matches counts')
    {engines engines' : List Engine} (hperm : engines'.Perm engines) :
    (engines.foldl countSkipped counts).Matches (engines'.foldl countSkipped counts') := by
  obtain ⟨skipped, hfold, hskipped⟩ := foldl_countSkipped counts engines
  obtain ⟨skipped', hfold', hskipped'⟩ := foldl_countSkipped counts' engines'
  rw [hfold, hfold']
  refine ⟨h.successes, h.outOfOrder, h.lastNumber, ?_⟩
  intro engine
  change skipped'.get? engine = skipped.get? engine
  rw [hskipped, hskipped', h.skipped, hperm.count_eq]
  exact if_congr hperm.mem_iff rfl rfl

lemma Matches.deliver {counts counts' : Telemetry} (h : counts.Matches counts')
    (hsnapshot : snapshot.Matches snapshot') :
    (counts.deliver snapshot).Matches (counts'.deliver snapshot') := by
  have hcounted : Matches { counts with successes := counts.successes + 1 }
      { counts' with successes := counts'.successes + 1 } :=
    ⟨congrArg (· + 1) h.successes, h.outOfOrder, h.lastNumber, h.skipped⟩
  unfold Telemetry.deliver
  rw [hsnapshot.number]
  exact (hcounted.countNumber snapshot.number).countAll hsnapshot.skipped_perm

end Telemetry

lemma Promotions.candidate_eq (h : snapshot.Matches snapshot') (alive : Frame → Bool) :
    candidate alive snapshot' = candidate alive snapshot := by
  unfold candidate
  rw [h.frame?_eq, h.number]

namespace Consumer.Matches

variable {consumer consumer' : Consumer}

lemma kind (h : consumer.Matches consumer') : consumer'.kind = consumer.kind := by
  cases h <;> rfl

lemma holds (h : consumer.Matches consumer') : consumer'.holds = consumer.holds := by
  cases h <;> rfl

lemma deliver (h : consumer.Matches consumer') (hsnapshot : snapshot.Matches snapshot')
    (alive : Frame → Bool) :
    ∃ answer next next' events,
      consumer.deliver alive snapshot = ⟨events, .ok (answer, next)⟩ ∧
      consumer'.deliver alive snapshot' = ⟨events, .ok (answer, next')⟩ ∧
      next.Matches next' ∧ List.Forall₂ Event.Matches events events := by
  cases h with
  | @callback function hignores =>
    have hanswer := hignores.answer_eq hsnapshot function.calls
    refine ⟨function.answer function.calls snapshot, _, _, [], rfl, ?_, .callback hignores, .nil⟩
    rw [← hanswer]
    rfl
  | @channel queue queue' hqueue =>
    obtain ⟨hanswer, hnext⟩ := hqueue.deliver hsnapshot
    refine ⟨(queue.deliver snapshot).1, _, _, [], rfl, ?_, .channel hnext, .nil⟩
    rw [← hanswer]
    rfl
  | @promotions list =>
    unfold Consumer.deliver Promotions.deliver
    rw [Promotions.candidate_eq hsnapshot]
    cases Promotions.candidate alive snapshot with
    | error refusal => exact ⟨_, _, _, [], rfl, rfl, .promotions, .nil⟩
    | ok entry => exact ⟨_, _, _, [.promoted entry.1], rfl, rfl, .promotions, .cons .promoted .nil⟩
  | telemetry hcounts => exact ⟨_, _, _, [], rfl, rfl, .telemetry (hcounts.deliver hsnapshot), .nil⟩

end Consumer.Matches

lemma ConsumerSetup.matches_of_make {setup : ConsumerSetup} {consumer : Consumer}
    (hignores : ∀ function, setup = .callback function → function.IgnoresReports)
    (hmake : setup.make = .ok consumer) : consumer.Matches consumer := by
  cases setup with
  | callback function =>
    cases hmake
    exact .callback (hignores function rfl)
  | channel bound =>
    cases hroom : Channel.reserve bound with
    | error fault =>
      simp only [make, hroom] at hmake
      cases hmake
    | ok _ =>
      simp only [make, hroom] at hmake
      cases hmake
      exact .channel ⟨rfl, .nil, rfl⟩
  | promotions capacity =>
    cases hroom : Promotions.reserve capacity with
    | error fault =>
      simp only [make, hroom] at hmake
      cases hmake
    | ok _ =>
      simp only [make, hroom] at hmake
      cases hmake
      exact .promotions
  | telemetry =>
    cases hmake
    exact .telemetry ⟨rfl, rfl, rfl, fun _ => rfl⟩

/-! ### Subscriptions -/

section Subscriptions

variable {subscriptions subscriptions' : List Subscription}
  (h : List.Forall₂ Subscription.Matches subscriptions subscriptions')

include h

lemma Subscription.any_of_matches {p p' : Subscription → Bool}
    (hp : ∀ subscription subscription', subscription.Matches subscription' →
      p' subscription' = p subscription) : subscriptions'.any p' = subscriptions.any p := by
  induction h with
  | nil => rfl
  | cons hfirst _ ih => rw [List.any_cons, List.any_cons, hp _ _ hfirst, ih]

lemma Subscription.getElem?_of_matches (position : Nat) :
    Option.Rel Subscription.Matches subscriptions[position]? subscriptions'[position]? := by
  induction h generalizing position with
  | nil => exact .none
  | cons hfirst _ ih =>
    cases position with
    | zero => exact .some hfirst
    | succ position => exact ih position

lemma Subscription.modify_of_matches {consumer consumer' : Consumer}
    (hconsumer : consumer.Matches consumer') (position : Nat) :
    List.Forall₂ Subscription.Matches
      (subscriptions.modify position fun subscription => { subscription with consumer })
      (subscriptions'.modify position fun subscription =>
        { subscription with consumer := consumer' }) := by
  induction h generalizing position with
  | nil =>
    rw [List.modify_nil, List.modify_nil]
    exact .nil
  | cons hfirst hrest ih =>
    cases position with
    | zero => exact .cons ⟨hfirst.id, hfirst.name, hconsumer, hfirst.active⟩ hrest
    | succ position => exact .cons hfirst (ih position)

lemma Audience.exists_deliverAll_of_matches (hsnapshot : snapshot.Matches snapshot')
    (alive : Frame → Bool) :
    ∃ fanOut next next' events events',
      deliverAll alive snapshot subscriptions = ⟨events, .ok (fanOut, next)⟩ ∧
      deliverAll alive snapshot' subscriptions' = ⟨events', .ok (fanOut, next')⟩ ∧
      List.Forall₂ Subscription.Matches next next' ∧ List.Forall₂ Event.Matches events events' := by
  induction h with
  | nil => exact ⟨.none, [], [], [], [], rfl, rfl, .nil, .nil⟩
  | @cons subscription subscription' rest rest' hfirst hrest ih =>
    obtain ⟨later, next, next', events, events', hall, hall', hnext, hevents⟩ := ih
    unfold deliverAll
    rw [hfirst.active]
    by_cases hactive : subscription.active
    · obtain ⟨answer, consumer, consumer', own, hown, hown', hconsumer, hself⟩ :=
        hfirst.consumer.deliver hsnapshot alive
      rw [if_pos hactive, if_pos hactive, hown, hown']
      simp only [Traced.mk_ok_bind, Traced.emit_bind, hall, hall', Traced.events_pure,
        Traced.result_pure, List.append_nil, hfirst.id, hfirst.name, hconsumer.kind]
      refine ⟨_, _, _, _, _, rfl, rfl, .cons ⟨rfl, rfl, hconsumer, rfl⟩ hnext, ?_⟩
      exact List.rel_append hself (.cons (.delivered hsnapshot) hevents)
    · rw [if_neg hactive, if_neg hactive, hall, hall']
      simp only [Traced.mk_ok_bind, Traced.events_pure, Traced.result_pure, List.append_nil]
      exact ⟨_, _, _, _, _, rfl, rfl, .cons hfirst hnext, hevents⟩

end Subscriptions

/-! ### Audiences -/

namespace Audience.Matches

variable {audience audience' : Audience} {held : Frame → Bool}

lemma keepsAlive (h : audience.Matches audience') (held : Frame → Bool) :
    audience'.keepsAlive held = audience.keepsAlive held := by
  funext frame
  have hholds : audience'.holds frame = audience.holds frame := by
    apply Subscription.any_of_matches h.subscriptions
    intro subscription subscription' hmatches
    rw [hmatches.consumer.holds]
  unfold Audience.keepsAlive
  rw [hholds]

lemma announce (h : audience.Matches audience') (hsnapshot : snapshot.Matches snapshot')
    (held : Frame → Bool) :
    (audience'.told held snapshot').1 = (audience.told held snapshot).1 ∧
      (audience.told held snapshot).2.Matches (audience'.told held snapshot').2 ∧
      List.Forall₂ Event.Matches (audience.announce held snapshot).events
        (audience'.announce held snapshot').events := by
  obtain ⟨fanOut, next, next', events, events', hall, hall', hnext, hevents⟩ :=
    exists_deliverAll_of_matches h.subscriptions hsnapshot (audience.keepsAlive held)
  unfold told Audience.announce
  rw [h.keepsAlive, hall, hall']
  exact ⟨rfl, ⟨h.nextId, hnext⟩, .cons (.announced hsnapshot) (List.rel_append hevents .nil)⟩

lemma subscribe (h : audience.Matches audience') (name : String) {consumer : Consumer}
    (hconsumer : consumer.Matches consumer) :
    (audience'.subscribe name consumer).1 = (audience.subscribe name consumer).1 ∧
      (audience.subscribe name consumer).2.Matches (audience'.subscribe name consumer).2 := by
  refine ⟨h.nextId, congrArg (· + 1) h.nextId, ?_⟩
  exact List.rel_append h.subscriptions (.cons ⟨h.nextId, rfl, hconsumer, rfl⟩ .nil)

lemma cancel (h : audience.Matches audience') (id : UInt32) :
    (audience'.cancel id).1 = (audience.cancel id).1 ∧
      (audience.cancel id).2.Matches (audience'.cancel id).2 := by
  unfold Audience.cancel active
  rw [List.any_filter, List.any_filter]
  refine ⟨?_, h.nextId, ?_⟩
  · apply Subscription.any_of_matches h.subscriptions
    intro subscription subscription' hmatches
    rw [hmatches.id, hmatches.active]
  · rw [List.forall₂_map_left_iff, List.forall₂_map_right_iff]
    apply h.subscriptions.imp
    intro subscription subscription' hmatches
    rw [hmatches.id]
    split_ifs
    · exact ⟨rfl, hmatches.name, hmatches.consumer, rfl⟩
    · exact hmatches

lemma consumer? (h : audience.Matches audience') (position : Nat) :
    Option.Rel Consumer.Matches (audience.consumer? position) (audience'.consumer? position) := by
  have hat := Subscription.getElem?_of_matches h.subscriptions position
  unfold Audience.consumer?
  generalize audience.subscriptions[position]? = found,
    audience'.subscriptions[position]? = found' at hat ⊢
  cases hat with
  | none => exact .none
  | some hmatches => exact .some hmatches.consumer

lemma setConsumer (h : audience.Matches audience') {consumer consumer' : Consumer}
    (hconsumer : consumer.Matches consumer') (position : Nat) :
    (audience.setConsumer position consumer).Matches (audience'.setConsumer position consumer') :=
  ⟨h.nextId, Subscription.modify_of_matches h.subscriptions hconsumer position⟩

lemma answered {reply reply' : Reply} (hreply : reply.Matches reply')
    (h : audience.Matches audience') :
    Outcomes (fun answer answer' => answer.1.Matches answer'.1 ∧ answer.2.Matches answer'.2)
      (.ok (reply, audience)) (.ok (reply', audience')) :=
  .value ⟨hreply, h⟩

/-- Matching audiences are used alike, unless somebody subscribes who looks at the reports. -/
theorem perform (h : audience.Matches audience') (held : Frame → Bool) {op : Op}
    (hop : op.IgnoresReports) :
    Outcomes (fun answer answer' => answer.1.Matches answer'.1 ∧ answer.2.Matches answer'.2)
      (audience.perform held op) (audience'.perform held op) := by
  cases op with
  | subscribe name setup =>
    cases hmake : setup.make with
    | error fault =>
      simp only [Audience.perform, hmake]
      exact .fault
    | ok consumer =>
      have hignores : ∀ function, setup = .callback function → function.IgnoresReports := by
        rintro function rfl
        exact hop
      obtain ⟨hid, hnext⟩ := h.subscribe name (ConsumerSetup.matches_of_make hignores hmake)
      simp only [Audience.perform, hmake]
      refine answered ?_ hnext
      rw [hid]
      exact .same
  | cancel position =>
    have hat := Subscription.getElem?_of_matches h.subscriptions position
    rw [Audience.perform, Audience.perform]
    generalize audience.subscriptions[position]? = found,
      audience'.subscriptions[position]? = found' at hat ⊢
    cases hat with
    | none => exact answered .same h
    | @some subscription subscription' hmatches =>
      obtain ⟨hfound, hnext⟩ := h.cancel subscription.id
      have hreply : Reply.Matches (.cancelled (audience.cancel subscription.id).1)
          (.cancelled (audience'.cancel subscription.id).1) := by
        rw [hfound]
        exact .same
      simp only [hmatches.id]
      exact answered hreply hnext
  | receive position limit =>
    have hat := h.consumer? position
    rw [Audience.perform, Audience.perform]
    generalize audience.consumer? position = found, audience'.consumer? position = found' at hat ⊢
    cases hat with
    | none => exact answered .same h
    | some hconsumer =>
      cases hconsumer with
      | channel hqueue =>
        obtain ⟨hsights, hqueue'⟩ := hqueue.receive limit (audience.keepsAlive held)
        simp only [h.keepsAlive]
        exact answered hsights (h.setConsumer (.channel hqueue') position)
      | _ => exact answered .same h
  | hangUp position =>
    have hat := h.consumer? position
    rw [Audience.perform, Audience.perform]
    generalize audience.consumer? position = found, audience'.consumer? position = found' at hat ⊢
    cases hat with
    | none => exact answered .same h
    | some hconsumer =>
      cases hconsumer with
      | channel hqueue => exact answered .same (h.setConsumer (.channel hqueue.hangUp) position)
      | _ => exact answered .same h
  | inspect position =>
    have hat := h.consumer? position
    rw [Audience.perform, Audience.perform]
    generalize audience.consumer? position = found, audience'.consumer? position = found' at hat ⊢
    cases hat with
    | none => exact answered .same h
    | some hconsumer => exact answered (.inspected hconsumer) h

end Audience.Matches

end CompletionRing
