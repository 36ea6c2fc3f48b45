import CompletionRing.Fault
import CompletionRing.Observer.Refusal
import CompletionRing.Snapshot

/-!
# Journal

Everything worth recording is an event; most events have a line in the log. A traced computation
yields the events up to its end, or up to the fault that stopped it.
-/

namespace CompletionRing

/-- Which side writes a region. -/
inductive Access where
  | deviceWrites
  | hostWrites
  deriving DecidableEq

def Access.label : Access → String
  | .deviceWrites => "HwWriteHostRead"
  | .hostWrites => "HostWriteHwRead"

inductive Event where
  | allocated (region : String) (size : Nat) (access : Access) (skipSync : Bool)
  | released (region : String)
  | created (ring : String) (capacity engines : Nat)
  | destroyed (ring : String) (submitted : Nat)
  | began (ring : String) (sequence index : Nat) (number : UInt32)
  | evicted (ring : String) (sequence : Nat) (status : Status)
  | retriedResolved (ring : String) (sequence : Nat) (status : Status)
  | retried (ring : String) (sequence index : Nat)
  | outOfWindow (ring : String) (sequence : Nat)
  | evaluated (ring : String) (sequence : Nat) (status : Status)
  | forcedUnavailable (ring : String) (sequence : Nat)
  | abandoned (ring : String) (sequence : Nat) (number : UInt32)
  /-- The audience is told of a first success. -/
  | announced (snapshot : Snapshot)
  | delivered (observer : UInt32) (name : String) (kind : ConsumerKind) (snapshot : Snapshot)
      (answer : Except Refusal Unit)
  | promoted (number : UInt32)
  | pollsSpent (ring : String) (sequence limit : Nat)
  | kickRefused (sequence : Nat) (reason : String)
  | closing (ring : String) (submitted outstanding : Nat)
  | jobQueued (sequence : Nat)
  | jobHung (sequence : Nat)
  | jobRetired (sequence : Nat)

/-- How grave a log line is. -/
inductive Level where
  | trace
  | debug
  | warn
  deriving DecidableEq

/-- The log line of an event, if it has one. -/
def Event.line? : Event → Option (Level × String)
  | .allocated region size access skipSync =>
    some (.debug, s!"allocated region `{region}` ({size} bytes, {access.label}, skip_sync={skipSync})")
  | .released region => some (.debug, s!"released region `{region}`")
  | .created ring capacity engines =>
    some (.debug, s!"created status ring `{ring}`: capacity={capacity} engines={engines}")
  | .destroyed ring submitted =>
    some (.debug, s!"destroyed status ring `{ring}` after {submitted} submissions")
  | .began ring sequence index number =>
    some (.trace, s!"ring `{ring}`: begin submission {sequence} at index {index} (report {number})")
  | .evicted ring sequence status =>
    some (.debug, s!"ring `{ring}`: submission {sequence} evicted before a terminal report ({status.label})")
  | .retriedResolved ring sequence status =>
    some (.warn, s!"ring `{ring}`: resubmit of submission {sequence} after it resolved {status.label}")
  | .retried ring sequence index =>
    some (.debug, s!"ring `{ring}`: resubmit {sequence} at index {index}")
  | .outOfWindow ring sequence =>
    some (.trace, s!"ring `{ring}`: submission {sequence} out of range")
  | .evaluated ring sequence status =>
    some (.trace, s!"ring `{ring}`: submission {sequence} evaluated {status.label}")
  | .forcedUnavailable ring sequence =>
    some (.debug, s!"ring `{ring}`: submission {sequence} forced unavailable")
  | .abandoned ring sequence number =>
    some (.warn, s!"ring `{ring}`: abandoning submission {sequence} (report {number})")
  | .announced _ => none
  | .delivered _ _ _ _ (.ok ()) => none
  | .delivered _ name kind snapshot (.error refusal) =>
    some (.warn, s!"observer `{name}` ({kind.label}) failed for submission {snapshot.sequence}: {refusal.message}")
  | .promoted number => some (.trace, s!"promoted report {number} to reference list")
  | .pollsSpent ring sequence limit =>
    some (.warn, s!"ring `{ring}`: submission {sequence} incomplete after {limit} queries")
  | .kickRefused sequence reason =>
    some (.warn, s!"submission {sequence} kick failed ({reason}), resubmitting")
  | .closing ring submitted outstanding =>
    some (.debug, s!"closing session `{ring}`: {submitted} submitted, {outstanding} outstanding")
  | .jobQueued sequence => some (.trace, s!"hw: kick {sequence}")
  | .jobHung sequence => some (.trace, s!"hw: job {sequence} hung")
  | .jobRetired sequence => some (.trace, s!"hw: job {sequence} retired")

/-- The events of a computation, and its result or the fault that stopped it. -/
structure Traced (α : Type) where
  events : List Event
  result : Except Fault α

namespace Traced

variable {α β : Type}

def emit (event : Event) : Traced Unit := ⟨[event], .ok ()⟩

def lift (result : Except Fault α) : Traced α := ⟨[], result⟩

protected def pure (value : α) : Traced α := ⟨[], .ok value⟩

/-- The events of the second computation follow those of the first. -/
protected def bind (x : Traced α) (f : α → Traced β) : Traced β :=
  match x.result with
  | .ok value => ⟨x.events ++ (f value).events, (f value).result⟩
  | .error fault => ⟨x.events, .error fault⟩

instance : Monad Traced where
  pure := Traced.pure
  bind := Traced.bind

instance : MonadLift (Except Fault) Traced := ⟨lift⟩

theorem bind_def (x : Traced α) (f : α → Traced β) : x >>= f = Traced.bind x f := rfl

theorem pure_def (value : α) : (pure value : Traced α) = ⟨[], .ok value⟩ := rfl

@[simp] theorem events_pure (value : α) : (pure value : Traced α).events = [] := rfl

@[simp] theorem result_pure (value : α) : (pure value : Traced α).result = .ok value := rfl

@[simp] theorem liftM_ok (value : α) :
    (liftM (Except.ok value : Except Fault α) : Traced α) = pure value := rfl

@[simp] theorem liftM_error_bind (fault : Fault) (f : α → Traced β) :
    (liftM (Except.error fault : Except Fault α) : Traced α) >>= f = ⟨[], .error fault⟩ := rfl

@[simp] theorem emit_bind (event : Event) (f : Unit → Traced β) :
    emit event >>= f = ⟨event :: (f ()).events, (f ()).result⟩ := rfl

instance : LawfulMonad Traced := LawfulMonad.mk' Traced
  (fun x => by
    obtain ⟨events, result⟩ := x
    cases result <;> simp [Functor.map, Traced.bind, Traced.pure])
  (fun value f => by simp [bind_def, pure_def, Traced.bind])
  (fun x f g => by
    obtain ⟨events, result⟩ := x
    cases result with
    | error fault => rfl
    | ok value =>
      simp only [bind_def, Traced.bind]
      cases (f value).result <;> simp)

@[simp] theorem events_emit (event : Event) : (emit event).events = [event] := rfl

@[simp] theorem result_emit (event : Event) : (emit event).result = .ok () := rfl

@[simp] theorem events_map (f : α → β) (x : Traced α) : (f <$> x).events = x.events := by
  obtain ⟨events, result⟩ := x
  cases result <;> simp [Functor.map, Traced.bind, Traced.pure]

@[simp] theorem result_map (f : α → β) (x : Traced α) :
    (f <$> x).result = x.result.map f := by
  obtain ⟨events, result⟩ := x
  cases result <;> rfl

end Traced

end CompletionRing
