import Mathlib.Algebra.Group.Nat.Defs
import HnsWallet.Lib.Bytes

/-! # Chunks and numbers in byte strings -/

namespace Lib

variable {α : Type} {n : Nat}

/-- How many pieces of `n` elements cover `length` elements. -/
def chunkCount (n length : Nat) : Nat :=
  (length + n - 1) / n

/-- The pieces of `n` elements of a list, the last one possibly shorter. -/
def chunks (n : Nat) (xs : List α) : List (List α) :=
  (List.range (chunkCount n xs.length)).map fun i => (xs.drop (i * n)).take n

theorem flatten_map_take_drop (n k : Nat) (xs : List α) :
    ((List.range k).map fun i => (xs.drop (i * n)).take n).flatten = xs.take (k * n) := by
  induction k with
  | zero => simp
  | succ k ih =>
    rw [List.range_succ, List.map_append, List.flatten_append, ih, Nat.succ_mul, List.take_add]
    simp

theorem le_chunkCount_mul (hn : 0 < n) (length : Nat) :
    length ≤ chunkCount n length * n := by
  have hdiv := Nat.div_add_mod (length + n - 1) n
  have hmod := Nat.mod_lt (length + n - 1) hn
  rw [chunkCount, Nat.mul_comm]
  omega

theorem flatten_chunks (hn : 0 < n) (xs : List α) : (chunks n xs).flatten = xs := by
  rw [chunks, flatten_map_take_drop, List.take_of_length_le (le_chunkCount_mul hn _)]

theorem mul_lt_of_lt_chunkCount {i length : Nat} (hn : 0 < n) (hi : i < chunkCount n length) :
    i * n < length := by
  have h : (i + 1) * n ≤ length + n - 1 := (Nat.le_div_iff_mul_le hn).1 hi
  rw [Nat.succ_mul] at h
  omega

theorem length_chunk {i : Nat} (hn : 0 < n) {xs : List α} (hi : i < chunkCount n xs.length) :
    0 < ((xs.drop (i * n)).take n).length ∧ ((xs.drop (i * n)).take n).length ≤ n ∧
      (i + 1 < chunkCount n xs.length → ((xs.drop (i * n)).take n).length = n) := by
  have hlt := mul_lt_of_lt_chunkCount hn hi
  rw [List.length_take, List.length_drop]
  refine ⟨by omega, by omega, fun hnext => ?_⟩
  have := mul_lt_of_lt_chunkCount hn hnext
  rw [Nat.succ_mul] at this
  omega

variable {β : Type}

theorem map_zip_self (f : α → β) (xs : List α) : (xs.map f).zip xs = xs.map fun a => (f a, a) := by
  induction xs with
  | nil => rfl
  | cons x xs ih => simp [ih]

theorem zipIdx_map_range (f : Nat → β) (n : Nat) :
    ((List.range n).map f).zipIdx = (List.range n).map fun i => (f i, i) := by
  rw [List.zipIdx_eq_zip_range', List.length_map, List.length_range, ← List.range_eq_range',
    map_zip_self]

theorem eq_of_map_range_perm {f g : Nat → β} (key : β → Nat) (hf : ∀ i < n, key (f i) = i)
    (hg : ∀ i < n, key (g i) = i) (hperm : ((List.range n).map f).Perm ((List.range n).map g)) :
    (List.range n).map f = (List.range n).map g := by
  refine List.map_congr_left fun i hi => ?_
  obtain ⟨j, hj, hji⟩ := List.mem_map.1 (hperm.subset (List.mem_map_of_mem hi))
  have hij : j = i := by
    rw [← hg j (List.mem_range.1 hj), hji, hf i (List.mem_range.1 hi)]
  rw [← hji, hij]

/-- The number that bytes stand for, least significant first. -/
def ofLeBytes (bytes : List UInt8) : Nat :=
  bytes.foldr (fun b value => b.toNat + 256 * value) 0

def ofBeBytes (bytes : List UInt8) : Nat :=
  ofLeBytes bytes.reverse

theorem leBytes_succ (n value : Nat) :
    leBytes (n + 1) value = .ofNat value :: leBytes n (value / 256) := by
  have hshift : ∀ i, value >>> (8 * (i + 1)) = (value / 256) >>> (8 * i) := by
    intro i
    rw [Nat.mul_succ, Nat.add_comm, Nat.shiftRight_add, Nat.shiftRight_eq_div_pow value]
  simp [leBytes, List.range_succ_eq_map, Function.comp_def, hshift]

theorem ofLeBytes_leBytes (n value : Nat) : ofLeBytes (leBytes n value) = value % 256 ^ n := by
  induction n generalizing value with
  | zero => simp [leBytes, ofLeBytes, Nat.mod_one]
  | succ n ih =>
    have hrec : ofLeBytes (leBytes n (value / 256)) = value / 256 % 256 ^ n := ih _
    rw [leBytes_succ]
    show (UInt8.ofNat value).toNat + 256 * ofLeBytes (leBytes n (value / 256)) = _
    have hbyte : (UInt8.ofNat value).toNat = value % 256 := by simp
    rw [hrec, hbyte, Nat.pow_succ', Nat.mod_mul]

@[simp] theorem length_beBytes (n value : Nat) : (beBytes n value).length = n := by
  simp [beBytes, leBytes]

theorem ofBeBytes_beBytes {value : Nat} (h : value < 256 ^ n) :
    ofBeBytes (beBytes n value) = value := by
  rw [ofBeBytes, beBytes, List.reverse_reverse, ofLeBytes_leBytes, Nat.mod_eq_of_lt h]

end Lib
