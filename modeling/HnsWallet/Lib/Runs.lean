import Mathlib.Data.List.Induction

/-! # Runs of a labelled transition relation -/

namespace Lib

universe u v

variable {S : Type u} {L : Type v}

/-- `Run R s ls t`: the labels `ls` lead from `s` to `t`. -/
inductive Run (R : S → L → S → Prop) (s : S) : List L → S → Prop where
  | refl : Run R s [] s
  | snoc {ls l t u} : Run R s ls t → R t l u → Run R s (ls ++ [l]) u

variable {R : S → L → S → Prop} {s t u : S} {ls ms : List L} {l : L}

theorem Run.single (h : R s l t) : Run R s [l] t := by
  show Run R s ([] ++ [l]) t
  exact .snoc .refl h

theorem Run.trans (h₁ : Run R s ls t) (h₂ : Run R t ms u) : Run R s (ls ++ ms) u := by
  induction h₂ with
  | refl => simpa using h₁
  | snoc _ step ih =>
    rw [← List.append_assoc]
    exact .snoc ih step

theorem Run.cons (h : R s l t) (hr : Run R t ls u) : Run R s (l :: ls) u :=
  (Run.single h).trans hr

theorem Run.nil_iff : Run R s [] t ↔ t = s := by
  constructor
  · generalize hnil : ([] : List L) = ls
    intro h
    cases h with
    | refl => rfl
    | snoc => simp at hnil
  · rintro rfl
    exact .refl

theorem Run.snoc_iff : Run R s (ls ++ [l]) u ↔ ∃ t, Run R s ls t ∧ R t l u := by
  constructor
  · generalize hls : ls ++ [l] = ms
    intro h
    cases h with
    | refl => simp at hls
    | snoc hr step =>
      obtain ⟨rfl, hl⟩ := List.append_inj' hls rfl
      cases hl
      exact ⟨_, hr, step⟩
  · rintro ⟨t, hr, step⟩
    exact .snoc hr step

theorem Run.append_iff : Run R s (ls ++ ms) u ↔ ∃ t, Run R s ls t ∧ Run R t ms u := by
  constructor
  · induction ms using List.reverseRecOn generalizing u with
    | nil => exact fun h => ⟨u, by simpa using h, .refl⟩
    | append_singleton ms m ih =>
      intro h
      rw [← List.append_assoc, Run.snoc_iff] at h
      obtain ⟨v, hv, step⟩ := h
      obtain ⟨t, ht, hm⟩ := ih hv
      exact ⟨t, ht, .snoc hm step⟩
  · rintro ⟨t, h₁, h₂⟩
    exact h₁.trans h₂

theorem Run.cons_iff : Run R s (l :: ls) u ↔ ∃ t, R s l t ∧ Run R t ls u := by
  rw [← List.singleton_append, Run.append_iff]
  constructor
  · rintro ⟨t, h, hr⟩
    rw [← List.nil_append [l], Run.snoc_iff] at h
    obtain ⟨v, hv, step⟩ := h
    rw [Run.nil_iff] at hv
    subst hv
    exact ⟨t, step, hr⟩
  · rintro ⟨t, step, hr⟩
    exact ⟨t, .single step, hr⟩

theorem Run.invariant {I : S → Prop} (keep : ∀ {t l u}, I t → R t l u → I u)
    (hs : I s) (h : Run R s ls t) : I t := by
  induction h with
  | refl => exact hs
  | snoc _ step ih => exact keep ih step

theorem Run.invariant_of_steps {I : S → Prop} {C : S → L → Prop}
    (keep : ∀ {t l u}, I t → C t l → R t l u → I u) (hs : I s) (h : Run R s ls t)
    (steps : ∀ ms l ms' v, ls = ms ++ l :: ms' → Run R s ms v → C v l) : I t := by
  induction h with
  | refl => exact hs
  | @snoc ls l t u hr step ih =>
    refine keep (ih fun ms m ms' v hls hv => ?_) (steps ls l [] t rfl hr) step
    exact steps ms m (ms' ++ [l]) v (by simp [hls]) hv

theorem Run.related {Q : S → S → Prop} (refl : ∀ t, Q t t)
    (trans : ∀ {t u v}, Q t u → Q u v → Q t v) (step : ∀ {t l u}, R t l u → Q t u)
    (h : Run R s ls t) : Q s t := by
  induction h with
  | refl => exact refl s
  | snoc _ hs ih => exact trans ih (step hs)

theorem Run.functional (det : ∀ {t l u v}, R t l u → R t l v → u = v)
    (h₁ : Run R s ls t) (h₂ : Run R s ls u) : t = u := by
  induction h₁ generalizing u with
  | refl => exact (Run.nil_iff.1 h₂).symm
  | snoc _ step ih =>
    obtain ⟨v, hv, step'⟩ := Run.snoc_iff.1 h₂
    obtain rfl := ih hv
    exact det step step'

theorem Run.mono {Q : S → L → S → Prop} (sub : ∀ {t l u}, R t l u → Q t l u)
    (h : Run R s ls t) : Run Q s ls t := by
  induction h with
  | refl => exact .refl
  | snoc _ step ih => exact .snoc ih (sub step)

theorem Run.foldlM_iff {step : S → L → Option S} :
    Run (fun s l t => step s l = some t) s ls t ↔ ls.foldlM step s = some t := by
  induction ls generalizing s with
  | nil =>
    rw [Run.nil_iff]
    simp [eq_comm]
  | cons l ls ih =>
    rw [Run.cons_iff, List.foldlM_cons, Option.bind_eq_bind, Option.bind_eq_some_iff]
    simp only [ih]

theorem Run.since {P : S → Prop} {M : S → L → Prop} {U : L → Prop}
    (hs : ¬ P s) (back : ∀ {t l u}, R t l u → P u → M t l ∨ (P t ∧ ¬ U l))
    (h : Run R s ls t) (ht : P t) :
    ∃ ms l ms' v w, ls = ms ++ l :: ms' ∧ Run R s ms v ∧ R v l w ∧ M v l ∧
      Run R w ms' t ∧ ∀ m ∈ ms', ¬ U m := by
  induction h with
  | refl => exact absurd ht hs
  | @snoc ls l t u hr step ih =>
    rcases back step ht with make | ⟨hp, hl⟩
    · exact ⟨ls, l, [], t, u, rfl, hr, step, make, .refl, by simp⟩
    · obtain ⟨ms, m, ms', v, w, rfl, hv, hstep, make, hw, keep⟩ := ih hp
      refine ⟨ms, m, ms' ++ [l], v, w, by simp, hv, hstep, make, .snoc hw step, ?_⟩
      intro k hk
      rcases List.mem_append.1 hk with hk | hk
      · exact keep k hk
      · rw [List.mem_singleton.1 hk]
        exact hl

end Lib
