import Mathlib.Algebra.Group.Nat.Defs
import Mathlib.Data.Option.Basic
import HnsWallet.Lib.Bytes
import HnsWallet.Lib.Results

/-! # Identifiers on the wire -/

namespace HnsWallet.WireId

open Lib Option

def base64urlAlphabet : List UInt8 :=
  "ABCDEFGHIJKLMNOPQRSTUVWXYZabcdefghijklmnopqrstuvwxyz0123456789-_".toList.map
    fun letter => .ofNat letter.toNat

def letter (index : Nat) : UInt8 := base64urlAlphabet.getD index 0

/-- Unpadded base64url, as the bytes of the text. -/
def encodeWireId : List UInt8 → List UInt8
  | first :: second :: third :: rest =>
    letter (first.toNat >>> 2) ::
    letter ((first.toNat &&& 0x03) <<< 4 ||| second.toNat >>> 4) ::
    letter ((second.toNat &&& 0x0f) <<< 2 ||| third.toNat >>> 6) ::
    letter (third.toNat &&& 0x3f) :: encodeWireId rest
  | [first, second] =>
    [letter (first.toNat >>> 2), letter ((first.toNat &&& 0x03) <<< 4 ||| second.toNat >>> 4),
      letter ((second.toNat &&& 0x0f) <<< 2)]
  | [first] => [letter (first.toNat >>> 2), letter ((first.toNat &&& 0x03) <<< 4)]
  | [] => []

def value (byte : UInt8) : Option Nat :=
  if 65 ≤ byte ∧ byte ≤ 90 then some (byte.toNat - 65)
  else if 97 ≤ byte ∧ byte ≤ 122 then some (byte.toNat - 97 + 26)
  else if 48 ≤ byte ∧ byte ≤ 57 then some (byte.toNat - 48 + 52)
  else if byte = 45 then some 62
  else if byte = 95 then some 63
  else none

/-- The only error is that the text is not canonical. -/
def decodeWireId : Nat → List UInt8 → Option (List UInt8)
  | size, a :: b :: c :: d :: rest => do
    let first ← value a
    let second ← value b
    let third ← value c
    let fourth ← value d
    guard (3 ≤ size)
    let bytes ← decodeWireId (size - 3) rest
    return .ofNat (first <<< 2 ||| second >>> 4) :: .ofNat (second <<< 4 ||| third >>> 2) ::
      .ofNat (third <<< 6 ||| fourth) :: bytes
  | size, [a, b] => do
    let first ← value a
    let second ← value b
    guard (second &&& 0x0f = 0 ∧ size = 1)
    return [.ofNat (first <<< 2 ||| second >>> 4)]
  | size, [a, b, c] => do
    let first ← value a
    let second ← value b
    let third ← value c
    guard (third &&& 0x03 = 0 ∧ size = 2)
    return [.ofNat (first <<< 2 ||| second >>> 4), .ofNat (second <<< 4 ||| third >>> 2)]
  | size, [] => do
    guard (size = 0)
    return []
  | _, [_] => none

theorem value_eq_some {byte : UInt8} {index : Nat} :
    value byte = some index ↔ index < 64 ∧ letter index = byte := by
  constructor
  · have h : ∀ n < 256, ∀ i ∈ value (.ofNat n), i < 64 ∧ letter i = .ofNat n := by
      decide +kernel
    simpa using h byte.toNat byte.toNat_lt index
  · have h : ∀ i < 64, value (letter i) = some i := by decide +kernel
    rintro ⟨hindex, rfl⟩
    exact h index hindex

theorem or_eq_add {a b : Nat} (k : Nat) (hb : b < 2 ^ k) : a <<< k ||| b = a * 2 ^ k + b := by
  rw [← Nat.shiftLeft_add_eq_or_of_lt hb, Nat.shiftLeft_eq]

theorem mask_eq_mod (n : Nat) :
    n &&& 0x03 = n % 4 ∧ n &&& 0x0f = n % 16 ∧ n &&& 0x3f = n % 64 :=
  ⟨Nat.and_two_pow_sub_one_eq_mod n 2, Nat.and_two_pow_sub_one_eq_mod n 4,
    Nat.and_two_pow_sub_one_eq_mod n 6⟩

/-- Three bytes and four groups of six bits determine each other. -/
theorem groups_iff {x y z : UInt8} {a b c d : Nat} :
    ((a < 64 ∧ b < 64 ∧ c < 64 ∧ d < 64) ∧ .ofNat (a <<< 2 ||| b >>> 4) = x ∧
      .ofNat (b <<< 4 ||| c >>> 2) = y ∧ .ofNat (c <<< 6 ||| d) = z) ↔
      a = x.toNat >>> 2 ∧ b = (x.toNat &&& 0x03) <<< 4 ||| y.toNat >>> 4 ∧
        c = (y.toNat &&& 0x0f) <<< 2 ||| z.toNat >>> 6 ∧ d = z.toNat &&& 0x3f := by
  have hx := x.toNat_lt
  have hy := y.toNat_lt
  have hz := z.toNat_lt
  have hb := or_eq_add (a := x.toNat % 4) 4 (b := y.toNat >>> 4) (by omega)
  have hc := or_eq_add (a := y.toNat % 16) 2 (b := z.toNat >>> 6) (by omega)
  simp only [← UInt8.toNat_inj, UInt8.toNat_ofNat', mask_eq_mod, hb, hc]
  constructor
  · rintro ⟨⟨ha, hb, hc, hd⟩, h⟩
    rw [or_eq_add 2 (by omega), or_eq_add 4 (by omega), or_eq_add 6 hd] at h
    omega
  · intro h
    rw [or_eq_add 2 (by omega), or_eq_add 4 (by omega), or_eq_add 6 (by omega)]
    omega

/-- What is left at the end is a group whose other bytes are zero. -/
theorem last_two_iff {x y : UInt8} {a b c : Nat} :
    ((a < 64 ∧ b < 64 ∧ c < 64) ∧ .ofNat (a <<< 2 ||| b >>> 4) = x ∧
      .ofNat (b <<< 4 ||| c >>> 2) = y ∧ c &&& 0x03 = 0) ↔
      a = x.toNat >>> 2 ∧ b = (x.toNat &&& 0x03) <<< 4 ||| y.toNat >>> 4 ∧
        c = (y.toNat &&& 0x0f) <<< 2 := by
  have h := groups_iff (x := x) (y := y) (z := 0) (a := a) (b := b) (c := c) (d := 0)
  have hzero : UInt8.ofNat (c <<< 6) = 0 ↔ c &&& 0x03 = 0 := by
    rw [← UInt8.toNat_inj, UInt8.toNat_ofNat', (mask_eq_mod c).1, UInt8.toNat_zero]
    omega
  simpa only [Nat.or_zero, UInt8.toNat_zero, Nat.zero_shiftRight, Nat.zero_and, and_true, hzero,
    Nat.zero_lt_succ] using h

theorem last_one_iff {x : UInt8} {a b : Nat} :
    ((a < 64 ∧ b < 64) ∧ .ofNat (a <<< 2 ||| b >>> 4) = x ∧ b &&& 0x0f = 0) ↔
      a = x.toNat >>> 2 ∧ b = (x.toNat &&& 0x03) <<< 4 := by
  have h := last_two_iff (x := x) (y := 0) (a := a) (b := b) (c := 0)
  have hzero : UInt8.ofNat (b <<< 4) = 0 ↔ b &&& 0x0f = 0 := by
    rw [← UInt8.toNat_inj, UInt8.toNat_ofNat', (mask_eq_mod b).2.1, UInt8.toNat_zero]
    omega
  simpa only [Nat.or_zero, UInt8.toNat_zero, Nat.zero_shiftRight, Nat.zero_and, and_true, hzero,
    Nat.zero_shiftLeft, Nat.zero_lt_succ] using h

/-- Text decodes exactly when it is the encoding of the bytes. -/
theorem decodeWireId_eq_some {size : Nat} {encoded bytes : List UInt8} :
    decodeWireId size encoded = some bytes ↔
      bytes.length = size ∧ encoded = encodeWireId bytes := by
  constructor
  · intro h
    induction size, encoded using decodeWireId.induct generalizing bytes with
    | case1 size _ _ _ _ rest ih =>
      simp only [decodeWireId, bind_eq_bind, bind_eq_some_iff, value_eq_some, guard_eq_some'] at h
      obtain ⟨a, ⟨ha, rfl⟩, b, ⟨hb, rfl⟩, c, ⟨hc, rfl⟩, d, ⟨hd, rfl⟩, _, hsize, _, hrest, h⟩ := h
      cases h
      obtain ⟨hafter, rfl⟩ := ih hrest
      obtain ⟨h1, h2, h3, h4⟩ := groups_iff.1 ⟨⟨ha, hb, hc, hd⟩, rfl, rfl, rfl⟩
      exact ⟨by rw [List.length_cons, List.length_cons, List.length_cons]; omega,
        by rw [encodeWireId, ← h1, ← h2, ← h3, ← h4]⟩
    | case2 size =>
      simp only [decodeWireId, bind_eq_bind, bind_eq_some_iff, value_eq_some, guard_eq_some'] at h
      obtain ⟨a, ⟨ha, rfl⟩, b, ⟨hb, rfl⟩, _, ⟨hzero, rfl⟩, h⟩ := h
      cases h
      obtain ⟨h1, h2⟩ := last_one_iff.1 ⟨⟨ha, hb⟩, rfl, hzero⟩
      exact ⟨rfl, by rw [encodeWireId, ← h1, ← h2]⟩
    | case3 size =>
      simp only [decodeWireId, bind_eq_bind, bind_eq_some_iff, value_eq_some, guard_eq_some'] at h
      obtain ⟨a, ⟨ha, rfl⟩, b, ⟨hb, rfl⟩, c, ⟨hc, rfl⟩, _, ⟨hzero, rfl⟩, h⟩ := h
      cases h
      obtain ⟨h1, h2, h3⟩ := last_two_iff.1 ⟨⟨ha, hb, hc⟩, rfl, rfl, hzero⟩
      exact ⟨rfl, by rw [encodeWireId, ← h1, ← h2, ← h3]⟩
    | case4 size =>
      simp only [decodeWireId, bind_eq_bind, bind_eq_some_iff, guard_eq_some'] at h
      obtain ⟨_, rfl, h⟩ := h
      cases h
      exact ⟨rfl, rfl⟩
    | case5 => cases h
  · rintro ⟨rfl, rfl⟩
    induction bytes using encodeWireId.induct with
    | case1 x y z rest ih =>
      obtain ⟨⟨ha, hb, hc, hd⟩, h1, h2, h3⟩ :=
        (groups_iff (x := x) (y := y) (z := z)).2 ⟨rfl, rfl, rfl, rfl⟩
      simp only [encodeWireId, decodeWireId, bind_eq_bind, bind_eq_some_iff, value_eq_some,
        guard_eq_some']
      exact ⟨_, ⟨ha, rfl⟩, _, ⟨hb, rfl⟩, _, ⟨hc, rfl⟩, _, ⟨hd, rfl⟩, ⟨⟩, by simp, rest, ih,
        by rw [h1, h2, h3]; rfl⟩
    | case2 x y =>
      obtain ⟨⟨ha, hb, hc⟩, h1, h2, hzero⟩ := (last_two_iff (x := x) (y := y)).2 ⟨rfl, rfl, rfl⟩
      simp only [encodeWireId, decodeWireId, bind_eq_bind, bind_eq_some_iff, value_eq_some,
        guard_eq_some']
      exact ⟨_, ⟨ha, rfl⟩, _, ⟨hb, rfl⟩, _, ⟨hc, rfl⟩, ⟨⟩, ⟨hzero, rfl⟩, by rw [h1, h2]; rfl⟩
    | case3 x =>
      obtain ⟨⟨ha, hb⟩, h1, hzero⟩ := (last_one_iff (x := x)).2 ⟨rfl, rfl⟩
      simp only [encodeWireId, decodeWireId, bind_eq_bind, bind_eq_some_iff, value_eq_some,
        guard_eq_some']
      exact ⟨_, ⟨ha, rfl⟩, _, ⟨hb, rfl⟩, ⟨⟩, ⟨hzero, rfl⟩, by rw [h1]; rfl⟩
    | case4 => rfl

theorem length_encodeWireId (bytes : List UInt8) :
    (encodeWireId bytes).length = (bytes.length * 4 + 2) / 3 := by
  induction bytes using encodeWireId.induct with
  | case1 x y z rest ih =>
    simp only [encodeWireId, List.length_cons, ih]
    omega
  | case2 | case3 | case4 => simp [encodeWireId]

inductive WireIdError where
  | nonCanonical
  | zero
deriving DecidableEq, Repr

variable {size : Nat} {encoded bytes : List UInt8}

def fromBytes (size : Nat) (bytes : List UInt8) : Except WireIdError (List UInt8) := do
  refuseIf (bytes = List.replicate size 0) .zero
  return bytes

def parse (size : Nat) (encoded : List UInt8) : Except WireIdError (List UInt8) := do
  refuseIf (encoded.length ≠ (size * 4 + 2) / 3) .nonCanonical
  let bytes ← okOr (decodeWireId size encoded) .nonCanonical
  fromBytes size bytes

theorem parse_eq_ok : parse size encoded = .ok bytes ↔
    bytes.length = size ∧ bytes ≠ List.replicate size 0 ∧ encoded = encodeWireId bytes := by
  simp only [parse, fromBytes, ok_iff, decodeWireId_eq_some]
  constructor
  · rintro ⟨_, -, bytes, ⟨hsize, hencoded⟩, _, hnonzero, hret⟩
    cases hret
    exact ⟨hsize, hnonzero, hencoded⟩
  · rintro ⟨hsize, hnonzero, rfl⟩
    exact ⟨⟨⟩, by simp [length_encodeWireId, hsize], bytes, ⟨hsize, rfl⟩, ⟨⟩, hnonzero, rfl⟩

/-- Text decodes to bytes exactly when it is their encoding, and stands for an identifier exactly
when it is the encoding of that identifier. -/
theorem wire_id_has_one_text (size : Nat) :
    (∀ encoded bytes, decodeWireId size encoded = some bytes ↔
      bytes.length = size ∧ encoded = encodeWireId bytes) ∧
    (∀ encoded id, parse size encoded = .ok id ↔
      (id.length = size ∧ id ≠ List.replicate size 0) ∧ encoded = encodeWireId id) ∧
    (∀ id, id.length = size → id ≠ List.replicate size 0 →
      parse size (encodeWireId id) = .ok id) ∧
    ∀ encoded encoded' id, parse size encoded = .ok id → parse size encoded' = .ok id →
      encoded = encoded' := by
  refine ⟨fun _ _ => decodeWireId_eq_some, fun _ _ => parse_eq_ok.trans and_assoc.symm,
    fun id hsize hnonzero => parse_eq_ok.2 ⟨hsize, hnonzero, rfl⟩, ?_⟩
  intro encoded encoded' id h h'
  rw [(parse_eq_ok.1 h).2.2, (parse_eq_ok.1 h').2.2]

end HnsWallet.WireId
