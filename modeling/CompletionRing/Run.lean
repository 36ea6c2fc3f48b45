import CompletionRing.Journal

/-!
# Runs

A run works on a state and leaves a state behind, whether it comes to its end or is stopped by
a fault. What was done before the fault stays done.
-/

namespace CompletionRing

/-- The state that a computation left, and its trace. -/
structure Run (σ α : Type) where
  state : σ
  trace : Traced α

namespace Run

variable {σ τ α β : Type}

def done (state : σ) (value : α) : Run σ α := ⟨state, return value⟩

/-- A computation whose new state is a part of its result. If a fault stops it, the state is the
one `before` it. -/
def ofTraced (before : σ) (x : Traced (α × σ)) : Run σ α :=
  match x.result with
  | .ok (value, state) => ⟨state, x.events, .ok value⟩
  | .error fault => ⟨before, x.events, .error fault⟩

/-- The second run goes on from the state that the first one left, unless a fault stopped the
first one. -/
def bind (x : Run σ α) (f : α → σ → Run σ β) : Run σ β :=
  match x.trace.result with
  | .ok value =>
    let next := f value x.state
    ⟨next.state, x.trace.events ++ next.trace.events, next.trace.result⟩
  | .error fault => ⟨x.state, x.trace.events, .error fault⟩

def map (f : α → β) (x : Run σ α) : Run σ β := ⟨x.state, f <$> x.trace⟩

/-- The same run as work on a larger state. -/
def within (put : σ → τ) (x : Run σ α) : Run τ α := ⟨put x.state, x.trace⟩

@[simp] theorem state_done (state : σ) (value : α) : (done state value).state = state := rfl

@[simp] theorem trace_done (state : σ) (value : α) : (done state value).trace = pure value := rfl

@[simp] theorem ofTraced_pure (before state : σ) (value : α) :
    ofTraced before (pure (value, state)) = done state value := rfl

@[simp] theorem done_bind (state : σ) (value : α) (f : α → σ → Run σ β) :
    (done state value).bind f = f value state := rfl

@[simp] theorem bind_done (x : Run σ α) : (x.bind fun value state => done state value) = x := by
  obtain ⟨state, events, result⟩ := x
  cases result <;> simp [bind]

theorem bind_assoc {γ : Type} (x : Run σ α) (f : α → σ → Run σ β) (g : β → σ → Run σ γ) :
    (x.bind f).bind g = x.bind fun value state => (f value state).bind g := by
  obtain ⟨state, events, result⟩ := x
  cases result with
  | error fault => rfl
  | ok value =>
    simp only [bind]
    cases (f value state).trace.result <;> simp

@[simp] theorem state_map (f : α → β) (x : Run σ α) : (x.map f).state = x.state := rfl

@[simp] theorem trace_map (f : α → β) (x : Run σ α) : (x.map f).trace = f <$> x.trace := rfl

@[simp] theorem state_within (put : σ → τ) (x : Run σ α) :
    (x.within put).state = put x.state := rfl

@[simp] theorem trace_within (put : σ → τ) (x : Run σ α) : (x.within put).trace = x.trace := rfl

theorem bind_of_error {x : Run σ α} {fault : Fault} (f : α → σ → Run σ β)
    (h : x.trace.result = .error fault) :
    x.bind f = ⟨x.state, x.trace.events, .error fault⟩ := by
  rw [bind, h]

end Run

end CompletionRing
