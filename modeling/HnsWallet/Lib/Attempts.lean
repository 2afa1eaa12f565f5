import HnsWallet.Lib.Results

/-! # Computations that fail and keep what they have done -/

namespace Lib

universe u

variable {ε σ α β : Type u} {s t : σ} {a : α}

/-- The state in which a run ends, whether it failed or not. -/
def finalState : EStateM.Result ε σ α → σ
  | .ok _ s => s
  | .error _ s => s

def lift (r : Except ε α) : EStateM ε σ α := fun s =>
  match r with
  | .ok a => .ok a s
  | .error e => .error e s

def reading (f : σ → Except ε α) : EStateM ε σ α := fun s => lift (f s) s

/-- One transaction: it goes through, or fails and leaves the state alone. -/
def transact (f : σ → Except ε (σ × α)) : EStateM ε σ α := fun s =>
  match f s with
  | .ok (t, a) => .ok a t
  | .error e => .error e s

/-! ## Peeling a run that succeeds -/

theorem attempt_bind_eq_ok {m : EStateM ε σ α} {k : α → EStateM ε σ β} {b : β} :
    (m >>= k) s = .ok b t ↔ ∃ a u, m s = .ok a u ∧ k a u = .ok b t := by
  show EStateM.bind m k s = _ ↔ _
  unfold EStateM.bind
  cases m s <;> simp

theorem attempt_pure_eq_ok {b : α} :
    (pure a : EStateM ε σ α) s = .ok b t ↔ a = b ∧ s = t := by
  show EStateM.Result.ok a s = .ok b t ↔ _
  simp

theorem lift_eq_ok {r : Except ε α} :
    lift r s = .ok a t ↔ r = .ok a ∧ s = t := by
  unfold lift
  cases r <;> simp

theorem reading_eq_ok {f : σ → Except ε α} :
    reading f s = .ok a t ↔ f s = .ok a ∧ s = t :=
  lift_eq_ok

theorem transact_eq_ok {f : σ → Except ε (σ × α)} :
    transact f s = .ok a t ↔ f s = .ok (t, a) := by
  unfold transact
  cases f s with
  | error e => simp
  | ok r =>
    obtain ⟨u, b⟩ := r
    simp [and_comm]

/-- Whatever the outcome, the state has moved along `Q`. -/
def Keeps (Q : σ → σ → Prop) (m : EStateM ε σ α) : Prop :=
  ∀ s, Q s (finalState (m s))

section Rules

variable {Q : σ → σ → Prop} {m : EStateM ε σ α} {k : α → EStateM ε σ β} {f : σ → Except ε (σ × α)}

section

variable (trans : ∀ {s t u}, Q s t → Q t u → Q s u)
include trans

theorem finalState_bind {s : σ} (hm : Q s (finalState (m s)))
    (hk : ∀ a t, m s = .ok a t → Q t (finalState (k a t))) :
    Q s (finalState ((m >>= k) s)) := by
  show Q s (finalState (EStateM.bind m k s))
  unfold EStateM.bind
  cases h : m s with
  | ok a t =>
    rw [h] at hm
    exact trans hm (hk a t h)
  | error e t =>
    rw [h] at hm
    exact hm

theorem Keeps.bind_of {P : α → Prop} (hm : Keeps Q m) (hpost : ∀ {s t a}, m s = .ok a t → P a)
    (hk : ∀ a, P a → Keeps Q (k a)) :
    Keeps Q (m >>= k) :=
  fun s => finalState_bind (Q := Q) trans (hm s) fun a t h => hk a (hpost h) t

theorem Keeps.bind (hm : Keeps Q m) (hk : ∀ a, Keeps Q (k a)) : Keeps Q (m >>= k) :=
  Keeps.bind_of (Q := Q) (P := fun _ => True) trans hm (fun _ => trivial) fun a _ => hk a

end

theorem Keeps.discard {ε σ α : Type} {Q : σ → σ → Prop} (refl : ∀ s, Q s s)
    (trans : ∀ {s t u}, Q s t → Q t u → Q s u) {m : EStateM ε σ α} (h : Keeps Q m) :
    Keeps Q (m >>= fun _ => Pure.pure ()) :=
  Keeps.bind (Q := Q) trans h fun _ s => refl s

theorem Keeps.lift_bind (refl : ∀ s, Q s s) {r : Except ε α} (hk : ∀ a, r = .ok a → Keeps Q (k a)) :
    Keeps Q (Lib.lift r >>= k) := by
  intro s
  show Q s (finalState (EStateM.bind (Lib.lift r) k s))
  unfold EStateM.bind Lib.lift
  cases r with
  | error e => exact refl s
  | ok a => exact hk a rfl s

theorem Keeps.pure (refl : ∀ s, Q s s) (a : α) : Keeps Q (pure a : EStateM ε σ α) :=
  fun s => refl s

theorem Keeps.lift (refl : ∀ s, Q s s) (r : Except ε α) : Keeps Q (lift r) := by
  intro s
  unfold Lib.lift
  cases r <;> exact refl s

theorem Keeps.reading (refl : ∀ s, Q s s) (f : σ → Except ε α) : Keeps Q (reading f) :=
  fun s => Keeps.lift refl (f s) s

theorem Keeps.reading_bind (refl : ∀ s, Q s s) {f : σ → Except ε α} {s : σ}
    (hk : ∀ a, f s = .ok a → Q s (finalState (k a s))) :
    Q s (finalState ((Lib.reading f >>= k) s)) := by
  show Q s (finalState (EStateM.bind (Lib.reading f) k s))
  unfold EStateM.bind Lib.reading Lib.lift
  cases h : f s with
  | error e => exact refl s
  | ok a => exact hk a h

theorem finalState_transact (refl : ∀ s, Q s s) {s : σ} (h : ∀ t a, f s = .ok (t, a) → Q s t) :
    Q s (finalState (transact f s)) := by
  unfold transact
  cases hf : f s with
  | error e => exact refl s
  | ok r =>
    obtain ⟨t, a⟩ := r
    exact h t a hf

theorem Keeps.transact (refl : ∀ s, Q s s) (h : ∀ s t a, f s = .ok (t, a) → Q s t) :
    Keeps Q (transact f) :=
  fun s => finalState_transact refl (h s)

end Rules

/-! ## Errors that do not arise -/

section NoError

variable {e : ε} {s : σ}

/-- From this state the computation does not fail in this way. -/
def Avoids (e : ε) (m : EStateM ε σ α) (s : σ) : Prop :=
  ∀ t, m s ≠ .error e t

theorem Avoids.pure {a : α} : Avoids e (Pure.pure a) s :=
  nofun

theorem Avoids.bind {m : EStateM ε σ α} {k : α → EStateM ε σ β} (hm : Avoids e m s)
    (hk : ∀ a u, m s = .ok a u → Avoids e (k a) u) : Avoids e (m >>= k) s := by
  intro t
  show EStateM.bind m k s ≠ _
  unfold EStateM.bind
  cases hrun : m s with
  | ok a u => exact hk a u hrun t
  | error e' u =>
    rintro ⟨⟩
    exact hm _ hrun

theorem Avoids.lift {r : Except ε α} (h : r ≠ .error e) : Avoids e (Lib.lift r) s := by
  intro t
  cases r with
  | ok a => nofun
  | error e' =>
    rintro ⟨⟩
    exact h rfl

theorem Avoids.transact {f : σ → Except ε (σ × α)} (h : f s ≠ .error e) :
    Avoids e (Lib.transact f) s := by
  intro t
  unfold Lib.transact
  cases hrun : f s with
  | ok a => nofun
  | error e' =>
    rintro ⟨⟩
    exact h hrun

end NoError

end Lib
