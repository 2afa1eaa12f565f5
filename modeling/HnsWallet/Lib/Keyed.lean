import Mathlib.Data.List.Sort
import Mathlib.Order.Defs.LinearOrder

/-! # Lists in strict order of a key -/

namespace Lib

section Sorted

variable {α κ : Type} [LinearOrder κ] {key : α → κ} {l l' : List α} {a b : α}

/-- In strict order of the keys. -/
def SortedBy (key : α → κ) (l : List α) : Prop :=
  l.Pairwise fun a b => key a < key b

def insertBy (key : α → κ) (a : α) (l : List α) : List α :=
  l.orderedInsert (fun a b => key a ≤ key b) a

theorem isChain_iff_sortedBy : (l.IsChain fun a b => key a < key b) ↔ SortedBy key l := by
  have : Trans (fun a b : α => key a < key b) (fun a b => key a < key b)
      (fun a b => key a < key b) := ⟨lt_trans⟩
  exact List.isChain_iff_pairwise

theorem SortedBy.nodup (h : SortedBy key l) : l.Nodup :=
  h.imp fun hlt heq => (heq ▸ hlt).false

theorem SortedBy.eq_of_key (h : SortedBy key l) (ha : a ∈ l) (hb : b ∈ l) (hkey : key a = key b) :
    a = b := by
  have hinj : (l.map key).Nodup := List.pairwise_map.2 (h.imp ne_of_lt)
  exact List.inj_on_of_nodup_map hinj ha hb hkey

theorem SortedBy.ext (h : SortedBy key l) (h' : SortedBy key l') (hmem : ∀ a, a ∈ l ↔ a ∈ l') :
    l = l' :=
  ((List.perm_ext_iff_of_nodup h.nodup h'.nodup).2 hmem).eq_of_pairwise
    (fun _ _ _ _ hab hba => (lt_asymm hab hba).elim) h h'

theorem mem_insertBy : b ∈ insertBy key a l ↔ b = a ∨ b ∈ l :=
  List.mem_orderedInsert _

theorem length_insertBy : (insertBy key a l).length = l.length + 1 :=
  List.orderedInsert_length _ _ _

theorem SortedBy.insertBy (h : SortedBy key l) (hnew : ∀ b ∈ l, key b ≠ key a) :
    SortedBy key (insertBy key a l) := by
  induction l with
  | nil => exact List.pairwise_singleton _ _
  | cons b l ih =>
    obtain ⟨hb, hl⟩ := List.pairwise_cons.1 h
    unfold Lib.insertBy
    rw [List.orderedInsert_cons]
    split
    next hle =>
      have hlt : key a < key b := lt_of_le_of_ne hle (hnew b List.mem_cons_self).symm
      refine List.pairwise_cons.2 ⟨fun c hc => ?_, h⟩
      rcases List.mem_cons.1 hc with rfl | hc
      · exact hlt
      · exact hlt.trans (hb c hc)
    next hle =>
      refine List.pairwise_cons.2 ⟨fun c hc => ?_, ih hl fun c hc => hnew c (.tail _ hc)⟩
      rcases (List.mem_orderedInsert _).1 hc with rfl | hc
      · exact lt_of_not_ge hle
      · exact hb c hc

/-- Put one entry in the place of those that are meant. -/
def replaceIf (p : α → Prop) [DecidablePred p] (a : α) (l : List α) : List α :=
  l.map fun b => if p b then a else b

variable {p : α → Prop} [DecidablePred p]

theorem mem_replaceIf (hfound : ∃ b ∈ l, p b) : b ∈ replaceIf p a l ↔ b = a ∨ b ∈ l ∧ ¬ p b := by
  rw [replaceIf, List.mem_map]
  constructor
  · rintro ⟨c, hc, rfl⟩
    split
    next => exact .inl rfl
    next hp => exact .inr ⟨hc, hp⟩
  · rintro (rfl | ⟨hb, hp⟩)
    · obtain ⟨c, hc, hp⟩ := hfound
      exact ⟨c, hc, if_pos hp⟩
    · exact ⟨b, hb, if_neg hp⟩

theorem SortedBy.replaceIf (h : SortedBy key l) (hkey : ∀ b ∈ l, p b → key b = key a) :
    SortedBy key (replaceIf p a l) := by
  have hsame : ∀ b ∈ l, key (if p b then a else b) = key b := by
    intro b hb
    split
    next hp => exact (hkey b hb hp).symm
    next => rfl
  refine List.pairwise_map.2 (h.imp_of_mem fun hb hc hlt => ?_)
  rwa [hsame _ hb, hsame _ hc]

end Sorted

section Taking

variable {α : Type} [DecidableEq α]

/-- Take the entries of one list out of another, each once. -/
def takeEach : List α → List α → Option (List α)
  | [], left => some left
  | a :: as, left => if a ∈ left then takeEach as (left.erase a) else none

theorem takeEach_eq_nil {as left : List α} : takeEach as left = some [] ↔ as.Perm left := by
  induction as generalizing left with
  | nil => simp [takeEach, List.nil_perm]
  | cons a as ih =>
    rw [List.cons_perm_iff_perm_erase, takeEach]
    split
    next hmem => simp [ih, hmem]
    next hmem => simp [hmem]

end Taking

theorem mem_eraseP_iff {α : Type} {p : α → Bool} {l : List α} (hnodup : l.Nodup)
    (hone : ∀ a ∈ l, ∀ b ∈ l, p a → p b → a = b) {a : α} :
    a ∈ l.eraseP p ↔ a ∈ l ∧ ¬ p a := by
  constructor
  · intro ha
    refine ⟨List.mem_of_mem_eraseP ha, fun hp => ?_⟩
    obtain ⟨c, l₁, l₂, -, hc, heq, herase⟩ := List.exists_of_eraseP (List.mem_of_mem_eraseP ha) hp
    obtain rfl := hone a (List.mem_of_mem_eraseP ha) c (by simp [heq]) hp hc
    rw [herase] at ha
    rw [heq, List.nodup_middle, List.nodup_cons] at hnodup
    exact hnodup.1 ha
  · rintro ⟨ha, hp⟩
    exact (List.mem_eraseP_of_neg (by simpa using hp)).2 ha

end Lib
