import Mathlib.Data.List.Basic

/-! # Single-use authority over a versioned document -/

namespace Lib

universe u

variable {A : Type u}

structure Token (A : Type u) where
  revision : Nat
  /-- The revision at which the token was issued. -/
  issued : Nat
  /-- The version of the document that issued it. -/
  version : Nat
  authority : A

structure Ticket (A : Type u) where
  version : Nat
  revision : Nat
  authority : A

structure Lease (A : Type u) where
  version : Nat
  held : Option A
  closed : Bool
  token : Option (Token A)
  /-- Every ticket captured so far. -/
  tickets : List (Ticket A)
  /-- The tickets presented with success. -/
  used : List (Ticket A)

namespace Lease

inductive Step : Lease A → Lease A → Prop where
  /-- The document takes up an authority and issues its token, over no token or
  over one that was not consumed. -/
  | issue {l : Lease A} {r : Nat} {a : A} :
      (l.token = none ∧ r = 0 ∨
        ∃ k, l.token = some k ∧ k.revision = k.issued ∧ k.revision = r) →
      l.closed = false →
      Step l { l with
        version := l.version + 1, held := some a, token := some ⟨r + 1, r + 1, l.version + 1, a⟩ }
  /-- The document changes and leaves no token; a consumed one goes only on closing. -/
  | drop {l : Lease A} {closed : Bool} :
      (∀ k, l.token = some k → k.revision = k.issued ∨ closed) →
      (l.closed → closed) →
      Step l { l with version := l.version + 1, held := none, closed, token := none }
  /-- The document changes under a consumed token. -/
  | keep {l : Lease A} {k : Token A} :
      l.token = some k → k.revision ≠ k.issued →
      Step l { l with version := l.version + 1, held := none }
  | capture {l : Lease A} {k : Token A} :
      l.token = some k → k.revision = k.issued → k.version = l.version →
      Step l { l with tickets := ⟨l.version, k.revision, k.authority⟩ :: l.tickets }
  | consume {l : Lease A} {k : Token A} {t : Ticket A} :
      t ∈ l.tickets → t.version = l.version → l.token = some k → k.revision = t.revision →
      Step l { l with
        token := some { k with revision := k.revision + 1 }, used := t :: l.used }

/-- A token is either as issued, by the present version and for the authority the
document holds, or consumed. -/
inductive TokenFits (l : Lease A) (k : Token A) : Prop where
  | issued : k.revision = k.issued → k.version = l.version → l.held = some k.authority →
      TokenFits l k
  | consumed : k.revision = k.issued + 1 → TokenFits l k

/-- What holds of every document that started without a token. -/
structure Sound (l : Lease A) : Prop where
  token : ∀ k, l.token = some k → l.TokenFits k
  closed : l.closed → l.token = none
  /-- A ticket for the present version names the token as it was issued. -/
  tickets : ∀ t ∈ l.tickets, t.version ≤ l.version ∧
    (t.version = l.version → ∀ k, l.token = some k →
      k.issued = t.revision ∧ (k.revision = k.issued → k.authority = t.authority))
  used : l.used = [] ∨ (l.used.length = 1 ∧
    (l.closed ∨ ∃ k, l.token = some k ∧ k.revision ≠ k.issued))

variable {l m : Lease A}

theorem Sound.fresh {version : Nat} {held : Option A} {closed : Bool} :
    Sound ⟨version, held, closed, none, [], []⟩ where
  token _ h := by cases h
  closed _ := rfl
  tickets _ h := by cases h
  used := Or.inl rfl

theorem Sound.ticket_stale (h : l.Sound) {t : Ticket A} (ht : t ∈ l.tickets) {P : Prop} :
    t.version ≤ l.version + 1 ∧ (t.version = l.version + 1 → P) := by
  have hle := (h.tickets t ht).1
  exact ⟨by omega, fun hv => absurd hv (by omega)⟩

theorem Sound.of_accepted (h : l.Sound) {k : Token A} {t : Ticket A} (ht : t ∈ l.tickets)
    (hv : t.version = l.version) (hk : l.token = some k) (hrev : k.revision = t.revision) :
    k.revision = k.issued ∧ l.held = some t.authority ∧ l.closed = false ∧ l.used = [] := by
  obtain ⟨hissued, hauth⟩ := (h.tickets t ht).2 hv k hk
  have hopen : k.revision = k.issued := hrev.trans hissued.symm
  have hclosed : l.closed = false := by
    by_contra hc
    rw [Bool.not_eq_false] at hc
    rw [h.closed hc] at hk
    cases hk
  refine ⟨hopen, ?_, hclosed, ?_⟩
  · cases h.token k hk with
    | issued _ _ hheld => rw [hheld, hauth hopen]
    | consumed hc => omega
  · rcases h.used with hu | ⟨-, hu | ⟨k', hk', hc⟩⟩
    · exact hu
    · rw [hclosed] at hu
      cases hu
    · rw [hk] at hk'
      cases hk'
      exact absurd hopen hc

theorem Sound.step (h : l.Sound) (step : Step l m) : m.Sound := by
  cases step with
  | @issue r a hprev hopen =>
    refine ⟨?_, ?_, ?_, ?_⟩
    · intro k hk
      cases hk
      exact .issued rfl rfl rfl
    · intro hc
      exact absurd (hopen.symm.trans hc) Bool.false_ne_true
    · exact fun t ht => h.ticket_stale ht
    · -- A token that was used is consumed, and no token is issued over it.
      left
      rcases h.used with hu | ⟨-, hc | ⟨k, hk, hc⟩⟩
      · exact hu
      · exact absurd (hopen.symm.trans hc) Bool.false_ne_true
      · rcases hprev with ⟨hnone, -⟩ | ⟨k', hk', hopen', -⟩
        · rw [hnone] at hk
          cases hk
        · rw [hk] at hk'
          cases hk'
          exact absurd hopen' hc
  | @drop closed htoken hclosed =>
    refine ⟨fun _ hk => (by cases hk), fun _ => rfl, ?_, ?_⟩
    · exact fun t ht => h.ticket_stale ht
    · rcases h.used with hu | ⟨hlen, hc | ⟨k, hk, hc⟩⟩
      · exact .inl hu
      · exact .inr ⟨hlen, .inl (hclosed hc)⟩
      · rcases htoken k hk with hopen | hc'
        · exact absurd hopen hc
        · exact .inr ⟨hlen, .inl hc'⟩
  | @keep k hk hc =>
    refine ⟨?_, h.closed, ?_, h.used⟩
    · intro k' hk'
      rw [hk] at hk'
      cases hk'
      cases h.token k hk with
      | issued hi => exact absurd hi hc
      | consumed hc' => exact .consumed hc'
    · exact fun t ht => h.ticket_stale ht
  | @capture k hk hopen hv =>
    refine ⟨?_, h.closed, ?_, h.used⟩
    · intro k' hk'
      cases h.token k' hk' with
      | issued hi hv' hheld => exact .issued hi hv' hheld
      | consumed hc => exact .consumed hc
    · intro t ht
      rcases List.mem_cons.1 ht with rfl | ht
      · refine ⟨Nat.le_refl _, fun _ k' hk' => ?_⟩
        have heq : k = k' := Option.some.inj (hk.symm.trans hk')
        subst heq
        exact ⟨hopen.symm, fun _ => rfl⟩
      · exact h.tickets t ht
  | @consume k t ht hv hk hrev =>
    obtain ⟨hopen, -, hclosed, hused⟩ := h.of_accepted ht hv hk hrev
    refine ⟨?_, ?_, ?_, ?_⟩
    · intro k' hk'
      cases hk'
      exact .consumed (congrArg (· + 1) hopen)
    · intro hc
      exact absurd (hclosed.symm.trans hc) Bool.false_ne_true
    · intro t' ht'
      refine ⟨(h.tickets t' ht').1, fun hv' k' hk' => ?_⟩
      cases hk'
      refine ⟨((h.tickets t' ht').2 hv' k hk).1, fun hc => ?_⟩
      exact absurd hc (by show k.revision + 1 ≠ k.issued; omega)
    · refine .inr ⟨by simp [hused], .inr ⟨_, rfl, ?_⟩⟩
      show k.revision + 1 ≠ k.issued
      omega

theorem Sound.used_length (h : l.Sound) : l.used.length ≤ 1 := by
  rcases h.used with hu | ⟨hlen, -⟩
  · simp [hu]
  · omega

end Lease

end Lib
