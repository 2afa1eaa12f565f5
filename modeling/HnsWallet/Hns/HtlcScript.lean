import HnsWallet.Bitcoin.SpendLaws
import HnsWallet.Hns.Settlement

/-! # The script of a Handshake lock -/

namespace HnsWallet

open Lib Script

def scriptNumberBytes (value : Nat) : List UInt8 :=
  if value = 0 then [] else .ofNat value :: scriptNumberBytes (value >>> 8)
decreasing_by
  rw [Nat.shiftRight_eq_div_pow]
  omega

def encodeScriptNumber (value : UInt64) : List UInt8 :=
  let encoded := scriptNumberBytes value.toNat
  if encoded.getLast?.any (· &&& 0x80 ≠ 0) then encoded ++ [0] else encoded

theorem scriptNumberBytes_eq (value : Nat) :
    scriptNumberBytes value = (Nat.digits 256 value).map UInt8.ofNat := by
  induction value using Nat.strong_induction_on with
  | _ value ih =>
    rw [scriptNumberBytes]
    split
    next hzero => rw [hzero, Nat.digits_zero, List.map_nil]
    next hne =>
      have hbyte : UInt8.ofNat (value % 256) = .ofNat value := UInt8.toNat_inj.1 (by simp)
      rw [Nat.digits_def' (by decide) (by omega), Nat.shiftRight_eq_div_pow, ih _ (by omega),
        List.map_cons, hbyte]

theorem encodeScriptNumber_eq (value : UInt64) :
    encodeScriptNumber value = numBytes value.toNat := by
  have htop : ∀ n < 256, UInt8.ofNat n &&& 0x80 ≠ 0 ↔ ¬ UInt8.ofNat n < 0x80 := by decide +kernel
  rw [encodeScriptNumber, scriptNumberBytes_eq, numBytes]
  generalize (Nat.digits 256 value.toNat).map UInt8.ofNat = digits
  cases digits.getLast? with
  | none => simp
  | some last =>
    have := htop last.toNat last.toNat_lt
    rw [UInt8.ofNat_toNat] at this
    simp only [Option.any_some, Option.getD_some, decide_eq_true_eq, this, ite_not]

def hnsHtlcScript (hashlock : Bytes 32) (receiver refund : Bytes 33) (absoluteTimelock : UInt64) :
    Except HnsWalletError (List UInt8) := do
  refuseIf (2 ^ 32 ≤ absoluteTimelock.toNat) (.invalidRequest "Handshake timelock exceeds u32")
  let encodedTimelock := encodeScriptNumber absoluteTimelock
  return [0x63, 0xa8, 32] ++ hashlock.toList ++ [0x88, 33] ++ receiver.toList ++
    [0x67, .ofNat encodedTimelock.length] ++ encodedTimelock ++ [0xb1, 0x75, 33] ++
    refund.toList ++ [0x68, 0xac]

/-- Redeem with the secret and the receiver's key, or refund after the lock time. -/
def hnsHtlcOps (hashlock : Bytes 32) (receiver refund : Bytes 33) (timelock : List UInt8) :
    List Op :=
  [.opIf, .sha256, .push hashlock.toList, .equalVerify, .push receiver.toList,
    .opElse, .push timelock, .checkLockTimeVerify, .drop, .push refund.toList,
    .opEndIf, .checkSig]

theorem parse_hnsHtlcScript {hashlock : Bytes 32} {receiver refund : Bytes 33} {timelock : UInt64}
    {script : List UInt8} (h : hnsHtlcScript hashlock receiver refund timelock = .ok script) :
    parse script = some (hnsHtlcOps hashlock receiver refund (encodeScriptNumber timelock)) := by
  simp only [hnsHtlcScript, ok_iff] at h
  obtain ⟨_, -, hret⟩ := h
  cases hret
  have hlength : (encodeScriptNumber timelock).length ≤ 9 := by
    have hdigits := (Nat.digits_length_le_iff (b := 256) (k := 8) (by decide) _).2 timelock.toNat_lt
    have := length_numBytes_le_succ timelock.toNat
    rw [encodeScriptNumber_eq]
    omega
  rw [← @parse_bytes (hnsHtlcOps hashlock receiver refund (encodeScriptNumber timelock))]
  · simp [hnsHtlcOps, Op.bytes]
  · simp [hnsHtlcOps]
    omega

/-- A number is written in the fewest bytes, and a script is read back as its two branches, so it
determines the hash, the keys and the time. -/
theorem hns_htlc_script_commits :
    (∀ value, signedValue (encodeScriptNumber value) = value.toNat ∧ ∀ item,
      signedValue item = value.toNat → (encodeScriptNumber value).length ≤ item.length) ∧
    (∀ hashlock receiver refund (timelock : UInt64), timelock.toNat < 2 ^ 32 → ∃ script,
      hnsHtlcScript hashlock receiver refund timelock = .ok script ∧ parse script =
        some (hnsHtlcOps hashlock receiver refund (encodeScriptNumber timelock))) ∧
    ∀ hashlock hashlock' receiver receiver' refund refund' timelock timelock' script,
      hnsHtlcScript hashlock receiver refund timelock = .ok script →
      hnsHtlcScript hashlock' receiver' refund' timelock' = .ok script →
      hashlock = hashlock' ∧ receiver = receiver' ∧ refund = refund' ∧ timelock = timelock' := by
  refine ⟨fun value => ?_, fun hashlock receiver refund timelock hlt => ?_, ?_⟩
  · rw [encodeScriptNumber_eq]
    exact ⟨signedValue_numBytes _, fun _ => length_numBytes_le⟩
  · have hok : ∃ script, hnsHtlcScript hashlock receiver refund timelock = .ok script :=
      ⟨_, ok_bind_iff.2 ⟨⟨⟩, refuseIf_eq_ok.2 (Nat.not_le.2 hlt), rfl⟩⟩
    obtain ⟨script, hscript⟩ := hok
    exact ⟨script, hscript, parse_hnsHtlcScript hscript⟩
  · intro hashlock hashlock' receiver receiver' refund refund' timelock timelock' script h h'
    have heq := Option.some.inj ((parse_hnsHtlcScript h).symm.trans (parse_hnsHtlcScript h'))
    simp only [hnsHtlcOps, List.cons.injEq, Op.push.injEq, true_and, and_true] at heq
    obtain ⟨hhash, hreceiver, htimelock, hrefund⟩ := heq
    have hvalue := signedValue_numBytes timelock.toNat
    rw [← encodeScriptNumber_eq, htimelock, encodeScriptNumber_eq, signedValue_numBytes] at hvalue
    exact ⟨Bytes.ext hhash, Bytes.ext hreceiver, Bytes.ext hrefund,
      UInt64.toNat_inj.1 (Int.ofNat_inj.1 hvalue).symm⟩

def locktimeFlag : UInt32 := 0x80000000

/-- The high bit tells a time from a height, where Bitcoin has a threshold. -/
def hnsLocktimeIsTime (encoded : UInt32) : Bool := encoded &&& locktimeFlag ≠ 0

/-- Under the rule of its chain a Handshake lock is spent with the secret and the receiver's
signature, or after its time with the refund owner's, and in no other way. -/
theorem handshake_lock_opens_iff (hashlock : Bytes 32) (receiver refund : Bytes 33)
    (timelock : UInt32) : ∃ script ops,
      hnsHtlcScript hashlock receiver refund timelock.toUInt64 = .ok script ∧
      parse script = some ops ∧ ∀ sha256 checkSig lockTime sequence items,
        accepts ⟨sha256, checkSig, lockTime, sequence, hnsLocktimeIsTime⟩ ops items ↔
        (∃ signature secret selector, items = [signature, secret, selector] ∧
          castToBool selector ∧ sha256 secret = hashlock.toList ∧
          checkSig signature receiver.toList = some true) ∨
        ∃ signature selector, items = [signature, selector] ∧ castToBool selector = false ∧
          (timelock ≤ lockTime ∧ hnsLocktimeIsTime timelock = hnsLocktimeIsTime lockTime ∧
            sequence ≠ 0xffffffff) ∧
          checkSig signature refund.toList = some true := by
  have hlt : timelock.toUInt64.toNat < 2 ^ 32 := by
    rw [UInt32.toNat_toUInt64]
    exact timelock.toNat_lt
  obtain ⟨script, hscript⟩ : ∃ script,
      hnsHtlcScript hashlock receiver refund timelock.toUInt64 = .ok script :=
    ⟨_, ok_bind_iff.2 ⟨⟨⟩, refuseIf_eq_ok.2 (Nat.not_le.2 hlt), rfl⟩⟩
  have hsame : ∀ env items, accepts env
      (hnsHtlcOps hashlock receiver refund (encodeScriptNumber timelock.toUInt64)) items =
        accepts env (htlcOps ⟨hashlock, receiver.toList, refund.toList, timelock, [], []⟩)
          items := by
    intro env items
    rw [encodeScriptNumber_eq, UInt32.toNat_toUInt64, accepts, accepts]
    cases items.reverse with
    | nil => rfl
    | cons selector stack =>
      -- the signature is checked after the conditional here, at the end of each branch there
      cases hselector : castToBool selector <;>
        simp [run, hnsHtlcOps, htlcOps, redeemOps, refundOps, step, State.executing,
          Option.map_eq_bind, Option.bind_assoc, hselector]
  refine ⟨script, _, hscript, parse_hnsHtlcScript hscript, fun _ _ _ _ _ => ?_⟩
  rw [hsame]
  exact accepts_htlcOps_iff

end HnsWallet
