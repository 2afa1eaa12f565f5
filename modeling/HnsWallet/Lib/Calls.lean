import Mathlib.Order.Basic
import HnsWallet.Lib.Results

/-! # Calls made of transactions -/

namespace Lib

/-- A call on shared state.  A transaction reads the state, writes it, and may
report an event; what it read decides how the call goes on. -/
inductive Call (S E R : Type) where
  | done (result : R)
  | transact (effect : S → S × Option E) (next : S → Call S E R)

namespace Call

variable {S E R A ε : Type}

def read (operation : S → A) (next : A → Call S E R) : Call S E R :=
  .transact (fun s => (s, none)) fun s => next (operation s)

/-- What an operation writes: nothing if it fails. -/
def written (operation : S → Except ε (S × A)) (event : Option E) (s : S) : S × Option E :=
  match operation s with
  | .error _ => (s, none)
  | .ok (s', _) => (s', event)

/-- A transaction that writes, and reports an event, unless it fails. -/
def attempt (operation : S → Except ε (S × A)) (event : Option E)
    (next : Except ε A → Call S E R) : Call S E R :=
  .transact (written operation event) fun s => next ((operation s).map Prod.snd)

end Call

/-- What callers of shared state may rely on and have to keep. -/
structure Protocol (S E G : Type) [Preorder G] where
  /-- The state under a history. -/
  Inv : G → S → Prop
  /-- An event that may happen after a history. -/
  Allowed : G → Option E → Prop
  /-- The histories after an event. -/
  Extends : G → Option E → G → Prop
  le_of_extends : ∀ {g e g'}, Extends g e g' → g ≤ g'
  extends_refl : ∀ g, Extends g none g

namespace Protocol

variable {S E G R A ε : Type} [Preorder G] (P : Protocol S E G) (Post : G → R → Prop)

/-- The call keeps to the protocol, whatever the others do, and returns what `Post` says. -/
def Follows (g : G) : Call S E R → Prop
  | .done result => Post g result
  | .transact effect next => ∀ g', g ≤ g' → ∀ s, P.Inv g' s → P.Allowed g' (effect s).2 →
      ∃ g'', P.Extends g' (effect s).2 g'' ∧ P.Inv g'' (effect s).1 ∧ Follows g'' (next s)

variable {P Post} {g g' : G} {call : Call S E R}

theorem Follows.mono (hpost : ∀ {g g' result}, g ≤ g' → Post g result → Post g' result)
    (hle : g ≤ g') (h : P.Follows Post g call) : P.Follows Post g' call := by
  cases call with
  | done result => exact hpost hle h
  | transact effect next => exact fun g'' hle' => h g'' (hle.trans hle')

theorem follows_read {operation : S → A} {next : A → Call S E R}
    (h : ∀ g', g ≤ g' → ∀ s, P.Inv g' s → P.Follows Post g' (next (operation s))) :
    P.Follows Post g (.read operation next) := by
  intro g' hle s hinv _
  exact ⟨g', P.extends_refl g', hinv, h g' hle s hinv⟩

theorem follows_attempt {operation : S → Except ε (S × A)} {event : Option E}
    {next : Except ε A → Call S E R}
    (herror : ∀ g', g ≤ g' → ∀ s, P.Inv g' s → ∀ e, operation s = .error e →
      P.Follows Post g' (next (.error e)))
    (hok : ∀ g', g ≤ g' → ∀ s, P.Inv g' s → P.Allowed g' event → ∀ s' a,
      operation s = .ok (s', a) → ∃ g'', P.Extends g' event g'' ∧ P.Inv g'' s' ∧
        P.Follows Post g'' (next (.ok a))) :
    P.Follows Post g (.attempt operation event next) := by
  intro g' hle s hinv hallowed
  unfold Call.written at hallowed ⊢
  cases hs : operation s with
  | error e =>
    refine ⟨g', P.extends_refl g', hinv, ?_⟩
    simp only [hs]
    exact herror g' hle s hinv e hs
  | ok written =>
    obtain ⟨s', a⟩ := written
    simp only [hs] at hallowed ⊢
    exact hok g' hle s hinv hallowed s' a hs

end Protocol

end Lib
