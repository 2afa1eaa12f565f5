import Mathlib.Data.List.Basic

/-! # Byte strings of a fixed length -/

namespace Lib

/-- The bytes of an ASCII text. -/
def ascii (text : String) : List UInt8 :=
  text.toList.map fun c => c.toNat.toUInt8

/-- A byte string of length `n`. -/
structure Bytes (n : Nat) where
  toList : List UInt8
  length_eq : toList.length = n
deriving DecidableEq

namespace Bytes

variable {m n : Nat} {a b : Bytes n} {xs : List UInt8}

theorem ext (h : a.toList = b.toList) : a = b := by
  cases a
  cases b
  simp_all

def replicate (n : Nat) (b : UInt8) : Bytes n :=
  ⟨List.replicate n b, List.length_replicate⟩

def isZero (a : Bytes n) : Bool :=
  a.toList.all (· == 0)

def take (m : Nat) (h : m ≤ n) (a : Bytes n) : Bytes m :=
  ⟨a.toList.take m, by rw [List.length_take, a.length_eq, Nat.min_eq_left h]⟩

@[simp] theorem length_toList (a : Bytes n) : a.toList.length = n :=
  a.length_eq

theorem append_toList_inj :
    xs ++ a.toList = xs ++ b.toList ↔ a = b :=
  ⟨fun h => ext (List.append_cancel_left h), fun h => by rw [h]⟩

theorem append_inj {ys : List UInt8} (h : a.toList ++ xs = b.toList ++ ys) :
    a = b ∧ xs = ys := by
  obtain ⟨hhead, hrest⟩ := List.append_inj h (by simp)
  exact ⟨ext hhead, hrest⟩

end Bytes

theorem append_cons_inj {a : UInt8} {xs ys zs ws : List UInt8} (hx : a ∉ xs) (hy : a ∉ ys)
    (h : xs ++ a :: zs = ys ++ a :: ws) : xs = ys ∧ zs = ws := by
  induction xs generalizing ys with
  | nil =>
    cases ys with
    | nil => simpa using h
    | cons y ys => exact absurd (by simp_all) hy
  | cons x xs ih =>
    cases ys with
    | nil => exact absurd (by simp_all) hx
    | cons y ys =>
      simp only [List.cons_append, List.cons.injEq, List.mem_cons, not_or] at h hx hy
      obtain ⟨rfl, rfl⟩ := ih hx.2 hy.2 h.2
      exact ⟨by rw [h.1], rfl⟩

def leBytes (n value : Nat) : List UInt8 :=
  (List.range n).map fun i => .ofNat (value >>> (8 * i))

def beBytes (n value : Nat) : List UInt8 :=
  (leBytes n value).reverse

/-- A number in big-endian order. -/
def Bytes.ofNat (n value : Nat) : Bytes n :=
  ⟨beBytes n value, by simp [beBytes, leBytes]⟩

end Lib
