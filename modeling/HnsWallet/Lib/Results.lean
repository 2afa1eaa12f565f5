import Mathlib.Data.List.Forall2
import Mathlib.Data.Nat.Basic

/-! # Fallible computations and checked arithmetic -/

namespace Lib

universe u v

variable {ε : Type u} {α β : Type v}

/-! ## Peeling a computation -/

variable {r : Except ε α} {b a t : UInt64} {ε' : Type u} {l : List UInt64}

theorem ok_bind_iff {k : α → Except ε β} {b : β} :
    r >>= k = .ok b ↔ ∃ a, r = .ok a ∧ k a = .ok b := by
  rcases r with e | a <;> simp [bind, Except.bind]

def refuseIf (p : Prop) [Decidable p] (e : ε) : Except ε Unit :=
  if p then .error e else .ok ()

theorem refuseIf_eq_ok {p : Prop} [Decidable p] {e : ε} {u : Unit} :
    refuseIf p e = .ok u ↔ ¬ p := by
  by_cases hp : p <;> simp [refuseIf, hp]

def okOr (o : Option α) (e : ε) : Except ε α :=
  match o with
  | none => .error e
  | some a => .ok a

theorem okOr_eq_ok {o : Option α} {e : ε} {a : α} : okOr o e = .ok a ↔ o = some a := by
  cases o <;> simp [okOr]

theorem toOption_eq_some {a : α} : r.toOption = some a ↔ r = .ok a := by
  cases r <;> simp [Except.toOption]

theorem mapError_eq_ok {f : ε → ε'} {a : α} :
    r.mapError f = .ok a ↔ r = .ok a := by
  cases r <;> simp [Except.mapError]

theorem ok_iff :
    (∀ {ε α β : Type} {r : Except ε α} {k : α → Except ε β} {b : β},
      r >>= k = .ok b ↔ ∃ a, r = .ok a ∧ k a = .ok b) ∧
    (∀ {ε : Type} {p : Prop} [Decidable p] {e : ε} {u : Unit}, refuseIf p e = .ok u ↔ ¬ p) ∧
    (∀ {ε α : Type} {o : Option α} {e : ε} {a : α}, okOr o e = .ok a ↔ o = some a) ∧
    ∀ {ε ε' α : Type} {r : Except ε α} {f : ε → ε'} {a : α}, r.mapError f = .ok a ↔ r = .ok a :=
  ⟨ok_bind_iff, refuseIf_eq_ok, okOr_eq_ok, mapError_eq_ok⟩

theorem map_eq_ok {f : α → β} {b : β} :
    r.map f = .ok b ↔ ∃ a, r = .ok a ∧ f a = b := by
  cases r <;> simp [Except.map]

variable {f : α → Except ε β} {as : List α} {bs : List β}

theorem mapM_eq_ok :
    as.mapM f = .ok bs ↔ List.Forall₂ (fun a b => f a = .ok b) as bs := by
  induction as generalizing bs with
  | nil =>
    rw [List.mapM_nil, List.forall₂_nil_left_iff]
    exact ⟨fun h => (Except.ok.inj h).symm, fun h => by rw [h]; rfl⟩
  | cons a as ih =>
    rw [List.mapM_cons, ok_bind_iff, List.forall₂_cons_left_iff]
    constructor
    · rintro ⟨b, hb, hrest⟩
      obtain ⟨bs', hbs', hret⟩ := ok_bind_iff.1 hrest
      exact ⟨b, bs', hb, ih.1 hbs', (Except.ok.inj hret).symm⟩
    · rintro ⟨b, bs', hb, hbs', rfl⟩
      exact ⟨b, hb, ok_bind_iff.2 ⟨bs', ih.2 hbs', rfl⟩⟩

theorem forM_eq_ok {ε : Type} {f : α → Except ε Unit} :
    as.forM f = .ok () ↔ ∀ a ∈ as, f a = .ok () := by
  induction as with
  | nil => exact ⟨fun _ _ ha => absurd ha List.not_mem_nil, fun _ => rfl⟩
  | cons a as ih =>
    show (f a >>= fun _ => as.forM f) = .ok () ↔ _
    rw [ok_bind_iff, List.forall_mem_cons, ← ih]
    exact ⟨fun ⟨_, ha, has⟩ => ⟨ha, has⟩, fun ⟨ha, has⟩ => ⟨(), ha, has⟩⟩

theorem mapM_inverse {g : β → Except ε' α} (h : ∀ {a b}, f a = .ok b → g b = .ok a)
    (hm : as.mapM f = .ok bs) : bs.mapM g = .ok as :=
  mapM_eq_ok.2 (List.Forall₂.flip ((mapM_eq_ok.1 hm).imp fun _ _ => h))

theorem optionMapM_eq_ok {a : Option α} {b : Option β} :
    a.mapM f = .ok b ↔ Option.Rel (fun a b => f a = .ok b) a b := by
  cases a with
  | none =>
    constructor
    · intro h
      cases h
      exact .none
    · rintro ⟨⟩
      rfl
  | some a =>
    show some <$> f a = .ok b ↔ _
    cases hf : f a with
    | error e =>
      constructor
      · nofun
      · rintro (h | _)
        cases hf.symm.trans h
    | ok c =>
      constructor
      · intro h
        cases h
        exact .some hf
      · rintro (h | _)
        cases hf.symm.trans h
        rfl

theorem optionMapM_inverse {g : β → Except ε' α} (h : ∀ {a b}, f a = .ok b → g b = .ok a)
    {a : Option α} {b : Option β} (hm : a.mapM f = .ok b) : b.mapM g = .ok a := by
  rcases optionMapM_eq_ok.1 hm with hab | _
  · exact optionMapM_eq_ok.2 (.some (h hab))
  · rfl

theorem isSome_of_optionMapM {a : Option α} {b : Option β}
    (h : a.mapM f = .ok b) : b.isSome = a.isSome := by
  rcases optionMapM_eq_ok.1 h with _ | _ <;> rfl

theorem mem_of_mapM_eq_ok (h : as.mapM f = .ok bs) {b : β} : b ∈ bs ↔ ∃ a ∈ as, f a = .ok b := by
  have hall := mapM_eq_ok.1 h
  clear h
  induction hall with
  | nil => simp
  | cons hab _ ih => simp [ih, hab, eq_comm]

theorem exists_of_mapM_eq_ok
    (h : as.mapM f = .ok bs) {a : α} (ha : a ∈ as) : ∃ b ∈ bs, f a = .ok b := by
  have hall := mapM_eq_ok.1 h
  clear h
  induction hall with
  | nil => cases ha
  | @cons first b rest bs hb _ ih =>
    rcases List.mem_cons.1 ha with rfl | ha
    · exact ⟨b, List.mem_cons_self, hb⟩
    · obtain ⟨c, hc, hf⟩ := ih ha
      exact ⟨c, List.mem_cons_of_mem _ hc, hf⟩

theorem exists_mapM_eq_ok (h : ∀ a ∈ as, ∃ b, f a = .ok b) : ∃ bs, as.mapM f = .ok bs := by
  induction as with
  | nil => exact ⟨[], rfl⟩
  | cons a as ih =>
    obtain ⟨b, hb⟩ := h a (by simp)
    obtain ⟨bs, hbs⟩ := ih fun a' ha' => h a' (by simp [ha'])
    exact ⟨b :: bs, mapM_eq_ok.2 (.cons hb (mapM_eq_ok.1 hbs))⟩

theorem map_of_mapM_eq_ok {C : Type*} {g : α → C} {g' : β → C}
    (hkeeps : ∀ {a b}, f a = .ok b → g' b = g a)
    (h : as.mapM f = .ok bs) : bs.map g' = as.map g := by
  have hall := mapM_eq_ok.1 h
  clear h
  induction hall with
  | nil => rfl
  | cons hab _ ih => rw [List.map_cons, List.map_cons, hkeeps hab, ih]

section NoError

variable {e e' : ε}

theorem ok_ne_error {a : α} : (.ok a : Except ε α) ≠ .error e := by
  intro h
  cases h

theorem bind_ne_error {r : Except ε α} {k : α → Except ε β} (hr : r ≠ .error e)
    (hk : ∀ a, r = .ok a → k a ≠ .error e) : r >>= k ≠ .error e := by
  cases r with
  | error e'' => exact fun h => hr (congrArg Except.error (Except.error.inj h))
  | ok a => exact hk a rfl

theorem refuseIf_ne_error {p : Prop} [Decidable p] (h : e' ≠ e) : refuseIf p e' ≠ .error e := by
  unfold refuseIf
  split
  · exact fun heq => h (Except.error.inj heq)
  · exact ok_ne_error

theorem refuseIf_ne_error_of_not {p : Prop} [Decidable p] (h : ¬ p) : refuseIf p e' ≠ .error e := by
  rw [refuseIf, if_neg h]
  exact ok_ne_error

theorem okOr_ne_error {o : Option α} (h : e' ≠ e) : okOr o e' ≠ .error e := by
  cases o with
  | none => exact fun heq => h (Except.error.inj heq)
  | some a => exact ok_ne_error

theorem mapError_ne_error {ε' : Type u} {r : Except ε' α} {f : ε' → ε} (h : ∀ x, f x ≠ e) :
    r.mapError f ≠ .error e := by
  cases r with
  | error x => exact fun heq => h x (Except.error.inj heq)
  | ok a => exact ok_ne_error

theorem forM_ne_error {A : Type} {f : A → Except ε PUnit} {as : List A}
    (h : ∀ a ∈ as, f a ≠ .error e) : as.forM f ≠ .error e := by
  induction as with
  | nil => exact ok_ne_error
  | cons a as ih =>
    obtain ⟨ha, has⟩ := List.forall_mem_cons.1 h
    exact bind_ne_error ha fun _ _ => ih has

theorem mapM_ne_error {A : Type} {f : A → Except ε β} {as : List A}
    (h : ∀ a ∈ as, f a ≠ .error e) : as.mapM f ≠ .error e := by
  induction as with
  | nil => exact ok_ne_error
  | cons a as ih =>
    obtain ⟨ha, has⟩ := List.forall_mem_cons.1 h
    rw [List.mapM_cons]
    exact bind_ne_error ha fun _ _ => bind_ne_error (ih has) fun _ _ => ok_ne_error

end NoError

def checkedAdd (a b : UInt64) : Option UInt64 :=
  if a.toNat + b.toNat < UInt64.size then some (a + b) else none

theorem checkedAdd_eq_some {c : UInt64} :
    checkedAdd a b = some c ↔ c.toNat = a.toNat + b.toNat := by
  unfold checkedAdd
  split
  next hlt =>
    rw [Option.some.injEq, ← UInt64.toNat_inj, UInt64.toNat_add, Nat.mod_eq_of_lt hlt]
    exact eq_comm
  next hge =>
    have := c.toNat_lt_size
    simp only [reduceCtorEq, false_iff]
    omega

theorem checkedAdd_eq_none :
    checkedAdd a b = none ↔ UInt64.size ≤ a.toNat + b.toNat := by
  unfold checkedAdd
  split <;> simp <;> omega

def checkedSub (a b : UInt64) : Option UInt64 :=
  if b ≤ a then some (a - b) else none

theorem checkedSub_eq_some {c : UInt64} :
    checkedSub a b = some c ↔ a.toNat = b.toNat + c.toNat := by
  unfold checkedSub
  split
  next hle =>
    have := UInt64.le_iff_toNat_le.1 hle
    rw [Option.some.injEq, ← UInt64.toNat_inj, UInt64.toNat_sub_of_le _ _ hle]
    omega
  next hlt =>
    have := mt UInt64.le_iff_toNat_le.2 hlt
    simp only [reduceCtorEq, false_iff]
    omega

def toU64 (n : Nat) : Option UInt64 :=
  if n < UInt64.size then some (.ofNat n) else none

def toU32 (n : Nat) : Option UInt32 :=
  if n < UInt32.size then some (.ofNat n) else none

theorem toU32_eq_some {n : Nat} {m : UInt32} : toU32 n = some m ↔ m.toNat = n := by
  unfold toU32
  split
  next hlt =>
    constructor
    · rintro ⟨⟩
      exact UInt32.toNat_ofNat_of_lt hlt
    · rintro rfl
      rw [UInt32.ofNat_toNat]
  next hge =>
    constructor
    · intro h
      cases h
    · rintro rfl
      exact absurd m.toNat_lt hge

def saturatingAdd (a b : UInt64) : UInt64 :=
  (checkedAdd a b).getD (.ofNat (UInt64.size - 1))

/-! ## The latest of some times -/

theorem max_le_iff : max a b ≤ t ↔ a ≤ t ∧ b ≤ t := by
  simp only [UInt64.le_iff_toNat_le, UInt64.toNat_max]
  omega

theorem foldl_max_le_iff :
    l.foldl max a ≤ t ↔ ∀ u ∈ a :: l, u ≤ t := by
  induction l generalizing a with
  | nil => simp
  | cons b l ih => simp [ih, max_le_iff, and_assoc]

theorem le_foldl_max (h : t ∈ a :: l) : t ≤ l.foldl max a :=
  foldl_max_le_iff.1 (UInt64.le_refl _) t h

theorem foldl_max_eq (hmem : t ∈ a :: l) (hle : ∀ u ∈ a :: l, u ≤ t) : l.foldl max a = t :=
  UInt64.le_antisymm (foldl_max_le_iff.2 hle) (le_foldl_max hmem)

end Lib
