import HnsWallet.Lib.Attempts

/-! # Passes over a listing -/

namespace Lib

variable {ε σ β κ ρ : Type}

def passEach (f : β → EStateM ε σ Bool) (key : β → κ) : List β → EStateM ε σ (List κ)
  | [] => pure []
  | x :: xs => do
    let asks ← f x
    let others ← passEach f key xs
    return if asks then key x :: others else others

/-- A call that succeeds changes only the row of its own key. -/
def Local (row : σ → κ → ρ) (f : β → EStateM ε σ Bool) (key : β → κ) : Prop :=
  ∀ x s t asks k, f x s = .ok asks t → k ≠ key x → row t k = row s k

section Rules

variable {f : β → EStateM ε σ Bool} {key : β → κ} {row : σ → κ → ρ} {xs : List β} {s t : σ}

theorem passEach_rows (hlocal : Local row f key) (hnodup : (xs.map key).Nodup) {pending : List κ}
    (h : passEach f key xs s = .ok pending t) :
    (∀ k ∉ xs.map key, row t k = row s k) ∧
      ∀ x ∈ xs, ∃ s' t' asks, f x s' = .ok asks t' ∧ row s' (key x) = row s (key x) ∧
        row t (key x) = row t' (key x) ∧ (asks → key x ∈ pending) := by
  induction xs generalizing s pending with
  | nil =>
    obtain ⟨-, rfl⟩ := attempt_pure_eq_ok.1 h
    exact ⟨fun _ _ => rfl, fun _ hmem => absurd hmem List.not_mem_nil⟩
  | cons first rest ih =>
    simp only [passEach, attempt_bind_eq_ok] at h
    obtain ⟨asks, mid, hfirst, others, u, hrest, hret⟩ := h
    obtain ⟨hpending, rfl⟩ := attempt_pure_eq_ok.1 hret
    obtain ⟨hfresh, hnodup⟩ := List.nodup_cons.1 hnodup
    obtain ⟨hframe, hpassed⟩ := ih hnodup hrest
    refine ⟨fun k hk => ?_, fun x hx => ?_⟩
    · rw [List.map_cons, List.mem_cons, not_or] at hk
      rw [hframe k hk.2, hlocal _ _ _ _ _ hfirst hk.1]
    · rcases List.mem_cons.1 hx with rfl | hx
      · refine ⟨s, mid, asks, hfirst, rfl, hframe _ hfresh, fun hasks => ?_⟩
        rw [← hpending, if_pos hasks]
        exact List.mem_cons_self
      · obtain ⟨s', t', asks', hcall, hbefore, hafter, hasks⟩ := hpassed x hx
        have hne : key x ≠ key first := fun heq => hfresh (heq ▸ List.mem_map_of_mem hx)
        refine ⟨s', t', asks', hcall, hbefore.trans (hlocal _ _ _ _ _ hfirst hne), hafter,
          fun hp => ?_⟩
        rw [← hpending]
        split
        · exact List.mem_cons_of_mem _ (hasks hp)
        · exact hasks hp

theorem passEach_final {Q : σ → σ → Prop} (refl : ∀ s, Q s s)
    (trans : ∀ {s t u}, Q s t → Q t u → Q s u) (hlocal : Local row f key)
    (hnodup : (xs.map key).Nodup)
    (hcall : ∀ x ∈ xs, ∀ s', row s' (key x) = row s (key x) → Q s' (finalState (f x s'))) :
    Q s (finalState (passEach f key xs s)) := by
  induction xs generalizing s with
  | nil => exact refl s
  | cons first rest ih =>
    obtain ⟨hfresh, hnodup⟩ := List.nodup_cons.1 hnodup
    refine finalState_bind (Q := Q) trans (hcall first List.mem_cons_self s rfl) fun asks mid
      hfirst => ?_
    refine finalState_bind (Q := Q) trans (ih hnodup fun x hx s' hs' => ?_) fun _ u _ => refl u
    have hne : key x ≠ key first := fun heq => hfresh (heq ▸ List.mem_map_of_mem hx)
    exact hcall x (List.mem_cons_of_mem _ hx) s' (hs'.trans (hlocal _ _ _ _ _ hfirst hne))

/-- Each call of the pass may rely on an invariant and on the row that the pass has listed. -/
theorem passEach_avoids {e : ε} {I : σ → Prop} (hlocal : Local row f key)
    (hnodup : (xs.map key).Nodup) (hs : I s)
    (hcall : ∀ x ∈ xs, ∀ s', I s' → row s' (key x) = row s (key x) →
      Avoids e (f x) s' ∧ I (finalState (f x s'))) :
    Avoids e (passEach f key xs) s := by
  induction xs generalizing s with
  | nil => exact .pure
  | cons first rest ih =>
    obtain ⟨hfresh, hnodup⟩ := List.nodup_cons.1 hnodup
    obtain ⟨hfirst, hkeeps⟩ := hcall first List.mem_cons_self s hs rfl
    refine hfirst.bind fun asks mid hmid => ?_
    rw [hmid] at hkeeps
    refine .bind (ih hnodup hkeeps fun x hx s' hs' hrow => ?_) fun _ _ _ => .pure
    have hne : key x ≠ key first := fun heq => hfresh (heq ▸ List.mem_map_of_mem hx)
    exact hcall x (List.mem_cons_of_mem _ hx) s' hs'
      (hrow.trans (hlocal _ _ _ _ _ hmid hne))

end Rules

end Lib
