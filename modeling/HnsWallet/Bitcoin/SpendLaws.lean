import HnsWallet.Bitcoin.Spend
import HnsWallet.Bitcoin.WatchSplits
import HnsWallet.Lib.Script
import Mathlib.Logic.Equiv.List
import Mathlib.Tactic.DeriveCountable

/-! # Spends that the chain accepts -/

namespace HnsWallet

open Lib
open Lib.Script (Op Env accepts castToBool lockTimeReached numBytes parse)

section Laws

/-! ## The meaning of the script -/

def redeemOps (htlc : BitcoinHtlc) : List Op :=
  [.sha256, .push htlc.hashlock.toList, .equalVerify, .push htlc.receiverPublicKey, .checkSig]

def refundOps (htlc : BitcoinHtlc) : List Op :=
  [.push (numBytes htlc.refundLocktime.toNat), .checkLockTimeVerify, .drop,
    .push htlc.refundPublicKey, .checkSig]

def htlcOps (htlc : BitcoinHtlc) : List Op :=
  [.opIf] ++ redeemOps htlc ++ [.opElse] ++ refundOps htlc ++ [.opEndIf]

variable {env : Env} {htlc : BitcoinHtlc} {items : List (List UInt8)}

theorem redeemOps_plain : ∀ op ∈ redeemOps htlc, op.plain := by
  simp [redeemOps, Script.Op.plain]

theorem refundOps_plain : ∀ op ∈ refundOps htlc, op.plain := by
  simp [refundOps, Script.Op.plain]

theorem applyAll_redeemOps (secret : List UInt8) (stack : List (List UInt8)) :
    Script.applyAll env (redeemOps htlc) (secret :: stack) =
      if htlc.hashlock.toList = env.sha256 secret then
        Script.apply env .checkSig (htlc.receiverPublicKey :: stack)
      else none := by
  simp only [Script.applyAll, redeemOps, List.foldlM_cons, List.foldlM_nil, Script.apply]
  split
  next heq => simp [heq]
  next hne => simp [hne]

theorem applyAll_refundOps (stack : List (List UInt8)) :
    Script.applyAll env (refundOps htlc) stack =
      if lockTimeReached env (numBytes htlc.refundLocktime.toNat) then
        Script.apply env .checkSig (htlc.refundPublicKey :: stack)
      else none := by
  simp only [Script.applyAll, refundOps, List.foldlM_cons, List.foldlM_nil, Script.apply]
  split
  next heq => simp [heq]
  next hne => simp [hne]

/-- A lock is spent with the secret and the receiver's signature, or after its time with the
refund owner's, and in no other way. -/
theorem accepts_htlcOps_iff : accepts env (htlcOps htlc) items ↔
    (∃ signature secret selector, items = [signature, secret, selector] ∧ castToBool selector ∧
      env.sha256 secret = htlc.hashlock.toList ∧
      env.checkSig signature htlc.receiverPublicKey = some true) ∨
    ∃ signature selector, items = [signature, selector] ∧ castToBool selector = false ∧
      (htlc.refundLocktime ≤ env.lockTime ∧
        env.isTime htlc.refundLocktime = env.isTime env.lockTime ∧ env.sequence ≠ 0xffffffff) ∧
      env.checkSig signature htlc.refundPublicKey = some true := by
  simp only [← Script.lockTimeReached_numBytes]
  constructor
  · intro h
    obtain ⟨item, hrun, hitem⟩ := Script.accepts_iff.1 h
    rcases hitems : items.reverse with _ | ⟨selector, stack⟩
    · rw [hitems] at hrun
      cases hrun
    rw [hitems, htlcOps, Script.run_ifElse redeemOps_plain refundOps_plain,
      Option.map_eq_some_iff] at hrun
    obtain ⟨after, hrun, hafter⟩ := hrun
    cases hafter
    have hback : items = (selector :: stack).reverse := by
      rw [← hitems, List.reverse_reverse]
    cases hselector : castToBool selector with
    | true =>
      left
      rw [hselector, if_pos rfl] at hrun
      rcases stack with _ | ⟨secret, stack⟩
      · cases hrun
      rw [applyAll_redeemOps] at hrun
      split at hrun
      next heq =>
        obtain ⟨signature, rfl, hsignature⟩ := Script.of_checkSig hrun hitem
        exact ⟨signature, secret, selector, hback, hselector, heq.symm, hsignature⟩
      next => cases hrun
    | false =>
      right
      rw [hselector, if_neg (by simp), applyAll_refundOps] at hrun
      split at hrun
      next hlock =>
        obtain ⟨signature, rfl, hsignature⟩ := Script.of_checkSig hrun hitem
        exact ⟨signature, selector, hback, hselector, hlock, hsignature⟩
      next => cases hrun
  · rintro (⟨signature, secret, selector, rfl, hselector, hsecret, hsignature⟩ |
      ⟨signature, selector, rfl, hselector, hlock, hsignature⟩)
    · refine Script.accepts_iff.2 ⟨[1], ?_, rfl⟩
      change Script.run env (htlcOps htlc) ⟨selector :: [secret, signature], []⟩ = _
      rw [htlcOps, Script.run_ifElse redeemOps_plain refundOps_plain, if_pos hselector,
        applyAll_redeemOps, if_pos hsecret.symm]
      simp [Script.apply, hsignature]
    · refine Script.accepts_iff.2 ⟨[1], ?_, rfl⟩
      change Script.run env (htlcOps htlc) ⟨selector :: [signature], []⟩ = _
      rw [htlcOps, Script.run_ifElse redeemOps_plain refundOps_plain,
        if_neg (by simp [hselector]), applyAll_refundOps, if_pos hlock]
      simp [Script.apply, hsignature]

/-! ## The script as `BitcoinHtlc::new` writes it -/

theorem parse_pushInt (value : UInt32) (rest : List UInt8) :
    parse (pushInt value ++ rest) = (parse rest).map (.push (numBytes value.toNat) :: ·) := by
  unfold pushInt
  split
  next hsmall =>
    have hone : ∀ n < 17, 0 < n → ¬ (0x50 + (UInt32.ofNat n).toUInt8).toNat ≤ 75 ∧
        Script.opcode (0x50 + (UInt32.ofNat n).toUInt8) = some (.push (numBytes n)) := by
      decide +kernel
    obtain ⟨hopcode, hpush⟩ := hone value.toNat (Nat.lt_succ_of_le (UInt32.le_iff_toNat_le.1
      hsmall.2))
      (UInt32.lt_iff_toNat_lt.1 hsmall.1)
    rw [UInt32.ofNat_toNat] at hopcode hpush
    rw [List.singleton_append, parse, if_neg hopcode, hpush, Option.bind_some]
  next =>
    have hshort : (numBytes value.toNat).length ≤ 5 := by
      have hdigits := (Nat.digits_length_le_iff (b := 256) (k := 4) (by decide) _).2 value.toNat_lt
      have := Script.length_numBytes_le_succ value.toNat
      omega
    have happend := @Script.parse_append [.push (numBytes value.toNat)] (by simp; omega) rest
    simpa [Op.bytes, pushSlice] using happend

theorem parse_htlcScript (hreceiver : htlc.receiverPublicKey.length ≤ 75)
    (hrefund : htlc.refundPublicKey.length ≤ 75) :
    parse (htlcScript htlc.hashlock htlc.receiverPublicKey htlc.refundPublicKey
      htlc.refundLocktime) = some (htlcOps htlc) := by
  have hhead := @Script.parse_append ([.opIf] ++ redeemOps htlc ++ [.opElse])
    (by simp [redeemOps, hreceiver])
    (pushInt htlc.refundLocktime ++ ([Op.checkLockTimeVerify, .drop, .push htlc.refundPublicKey,
      .checkSig, .opEndIf].flatMap Op.bytes))
  have htail := @Script.parse_bytes [.checkLockTimeVerify, .drop, .push htlc.refundPublicKey,
    .checkSig, .opEndIf] (by simp [hrefund])
  rw [parse_pushInt, htail] at hhead
  simpa [htlcScript, pushSlice, htlcOps, redeemOps, refundOps, Op.bytes] using hhead

/-! ## The parts of a spend -/

variable {lock : VerifiedBitcoinLock} {transaction : Transaction} {input : TxIn} {index : Nat}
  {signature key : List UInt8} {branch : HtlcSpendBranch} {preimage : Option (Bytes 32)}
  {verified : VerifiedBitcoinHtlcSpend} {sighash : Bytes 32} {signer : SettlementSigner}
  {destination : List UInt8} {feeSats : UInt64} {context : Option BitcoinChainLockContext}
  {raw : List UInt8}

theorem input_ne_nil (hsingle : (transaction.input.zipIdx.filter fun entry =>
    entry.1.previousOutput = lock.outpoint) = [(input, index)]) : transaction.input ≠ [] := by
  intro hnone
  rw [hnone] at hsingle
  cases hsingle

variable [Sha256]

theorem spendWitness_redeem : spendWitness transaction input htlc .redeem =
      .ok (signature, key, preimage) ↔ ∃ secret : Bytes 32,
    input.witness = [signature, secret.toList, [1], htlc.witnessScript] ∧
    Sha256.digest secret.toList = htlc.hashlock ∧ key = htlc.receiverPublicKey ∧
    preimage = some secret := by
  simp only [spendWitness, ok_bind_iff]
  constructor
  · rintro ⟨⟨found, secret⟩, hredeem, hret⟩
    cases hret
    unfold redeemWitness at hredeem
    split at hredeem
    next bytes selector script hwitness =>
      simp only [ok_iff, ne_eq, not_not] at hredeem
      obtain ⟨_, rfl, _, rfl, revealed, hbytes, _, hdigest, hret⟩ := hredeem
      cases hret
      unfold exactBytes at hbytes
      split at hbytes
      next =>
        cases hbytes
        exact ⟨_, hwitness, hdigest, rfl, rfl⟩
      next => cases hbytes
    next => cases hredeem
  · rintro ⟨secret, hwitness, hdigest, rfl, rfl⟩
    refine ⟨(signature, secret), ?_, rfl⟩
    simp only [redeemWitness, hwitness, ok_iff]
    refine ⟨(), by simp, (), by simp, secret, ?_, (), not_not.2 hdigest, rfl⟩
    rw [exactBytes, dif_pos secret.length_eq]

theorem spendWitness_refund : spendWitness transaction input htlc .refund =
      .ok (signature, key, preimage) ↔
    input.witness = [signature, [], htlc.witnessScript] ∧
    htlc.refundLocktime ≤ transaction.lockTime ∧ lockTimeThreshold ≤ transaction.lockTime ∧
    input.sequence ≠ sequenceMax ∧ key = htlc.refundPublicKey ∧ preimage = none := by
  have hthreshold : ¬ transaction.lockTime.toNat < bitcoinTimestampLocktimeThreshold.toNat ↔
      lockTimeThreshold ≤ transaction.lockTime := by
    rw [UInt32.le_iff_toNat_le, Nat.not_lt]
    rfl
  simp only [spendWitness, ok_iff, not_or, hthreshold, UInt32.not_lt]
  constructor
  · rintro ⟨_, ⟨hlock, htime, hfinal⟩, found, hrefund, hret⟩
    cases hret
    unfold refundWitness at hrefund
    split at hrefund
    next selector script hwitness =>
      simp only [ok_iff, ne_eq, not_not] at hrefund
      obtain ⟨_, rfl, _, rfl, hret⟩ := hrefund
      cases hret
      exact ⟨hwitness, hlock, htime, hfinal, rfl, rfl⟩
    next => cases hrefund
  · rintro ⟨hwitness, hlock, htime, hfinal, rfl, rfl⟩
    refine ⟨(), ⟨hlock, htime, hfinal⟩, signature, ?_, rfl⟩
    simp only [refundWitness, hwitness, ok_iff]
    exact ⟨(), by simp, (), by simp, rfl⟩

theorem signedWitness_redeem {witness : List (List UInt8)}
    (h : signedWitness htlc witness .redeem = .ok preimage) : ∃ secret,
      redeemWitness htlc witness = .ok (witness.headD [], secret) := by
  simp only [signedWitness] at h
  split at h
  next signature bytes selector script =>
    simp only [ok_iff, not_or, ne_eq, not_not] at h
    obtain ⟨_, ⟨rfl, rfl⟩, secret, hsecret, _, hdigest, -⟩ := h
    refine ⟨secret, ?_⟩
    simp only [redeemWitness, ok_iff]
    exact ⟨(), by simp, (), by simp, secret, hsecret, (), not_not.2 hdigest, rfl⟩
  next => cases h

variable [BitcoinLibrary]

theorem prepareHtlcSpendTemplate_eq_ok
    (h : prepareHtlcSpendTemplate lock destination feeSats branch preimage context =
      .ok transaction) :
    ∃ sequence items, transaction.input =
        [⟨lock.outpoint, [], sequence, [] :: items ++ [lock.htlc.witnessScript]⟩] ∧
      transaction.output ≠ [] ∧
      ((branch = .redeem ∧ ∃ secret : Bytes 32, items = [secret.toList, [1]] ∧
          Sha256.digest secret.toList = lock.htlc.hashlock) ∨
        (branch = .refund ∧ items = [[]] ∧ transaction.lockTime = lock.htlc.refundLocktime ∧
          sequence = sequenceEnableLocktimeNoRbf)) := by
  cases branch with
  | redeem =>
    simp only [prepareHtlcSpendTemplate, ok_iff, ne_eq, not_not] at h
    obtain ⟨_, -, _, -, outputValue, -, _, -, secret, -, _, hdigest, _, hparts, hret⟩ := h
    cases hparts
    cases hret
    exact ⟨_, [secret.toList, [1]], rfl, by simp, .inl ⟨rfl, secret, rfl, hdigest⟩⟩
  | refund =>
    simp only [prepareHtlcSpendTemplate, ok_bind_iff] at h
    obtain ⟨_, -, _, -, outputValue, -, _, -, _, -, _, hparts, hret⟩ := h
    cases hparts
    cases hret
    exact ⟨_, [[]], rfl, by simp, .inr ⟨rfl, rfl, rfl, rfl⟩⟩

omit [Sha256] in
theorem BitcoinHtlc.validate_eq_ok (h : htlc.validate = .ok ()) :
    (∀ branch, BitcoinLibrary.publicKey (htlc.expectedKey branch) =
      some (htlc.expectedKey branch)) ∧ htlc.witnessScript = htlcScript htlc.hashlock
        htlc.receiverPublicKey htlc.refundPublicKey htlc.refundLocktime := by
  simp only [BitcoinHtlc.validate, BitcoinHtlc.new, ok_iff, ne_eq, not_not] at h
  obtain ⟨receiver, hreceiver, refund, hrefund, expected, ⟨_, -, _, -, hret⟩, hsame⟩ := h
  cases hret
  rw [← hsame] at hreceiver hrefund ⊢
  refine ⟨fun branch => ?_, rfl⟩
  cases branch with
  | redeem => exact hreceiver
  | refund => exact hrefund

variable [BlockLibrary]

theorem classifySpend_redeem {verified : VerifiedBitcoinHtlcChainSpend}
    (h : verifyObservedBitcoinHtlcSpend raw lock .redeem = .ok verified) :
    classifySpend raw lock transaction = .ok verified := by
  unfold classifySpend
  rw [h]

variable [SpendSigning] [LawfulSpendSigning]

open BlockLibrary SpendSigning LawfulSpendSigning

def consensusCheckSig (transaction : Transaction) (index : Nat) (lock : VerifiedBitcoinLock)
    (signatureBytes publicKey : List UInt8) : Option Bool :=
  match signatureBytes.getLast? with
  | none => some false
  | some hashType => do
    let signature ← signatureFromDer signatureBytes.dropLast
    return (do
      let key ← BitcoinLibrary.publicKey publicKey
      let sighash ← p2wshSignatureHash transaction index lock.htlc.witnessScript lock.valueSats
        hashType.toUInt32
      return verifyEcdsa sighash signature.normalizeS key).getD false

def spendEnv (transaction : Transaction) (input : TxIn) (index : Nat)
    (lock : VerifiedBitcoinLock) : Env where
  sha256 := fun bytes => (Sha256.digest bytes).toList
  checkSig := consensusCheckSig transaction index lock
  lockTime := transaction.lockTime
  sequence := input.sequence
  isTime lockTime := lockTimeThreshold ≤ lockTime

/-- A transaction that spends the lock once, has an output, and satisfies the script. -/
structure ConsensusSpend (lock : VerifiedBitcoinLock) (transaction : Transaction) (input : TxIn)
    (index : Nat) (items : List (List UInt8)) : Prop where
  outputs : transaction.output ≠ []
  single : (transaction.input.zipIdx.filter fun entry => entry.1.previousOutput = lock.outpoint) =
    [(input, index)]
  witness : input.witness = items ++ [lock.htlc.witnessScript]
  satisfies : ∃ ops, parse lock.htlc.witnessScript = some ops ∧
    accepts (spendEnv transaction input index lock) ops items

/-! ## Standard spends -/

/-- The form in which wallets spend the lock: a minimal selector, a preimage of 32 bytes, a
signature with the smaller `s` and a hash type that is relayed, and a refund at a time. -/
structure StandardSpend (lock : VerifiedBitcoinLock) (transaction : Transaction)
    (items : List (List UInt8)) : Prop where
  size : (serialize transaction).length ≤ maxBitcoinTransactionBytes
  selector : ∀ selector ∈ items.getLast?, selector = [1] ∨ selector = []
  secret : ∀ signature secret selector, items = [signature, secret, selector] → secret.length = 32
  hashType : ∀ signature ∈ items.head?, signature.getLastD 0 ∈ standardSighashTypes
  lowS : ∀ signature ∈ items.head?, ∀ parsed, signatureFromDer signature.dropLast = some parsed →
    parsed.normalizeS = parsed
  time : ∀ signature selector, items = [signature, selector] →
    lockTimeThreshold ≤ lock.htlc.refundLocktime

omit [Sha256] in
theorem parse_witnessScript (h : htlc.validate = .ok ()) :
    parse htlc.witnessScript = some (htlcOps htlc) := by
  obtain ⟨hkeys, hscript⟩ := BitcoinHtlc.validate_eq_ok h
  have hlength : ∀ branch, (htlc.expectedKey branch).length ≤ 75 := by
    intro branch
    rcases publicKey_length (hkeys branch) with h | h <;> omega
  rw [hscript]
  exact parse_htlcScript (hlength .redeem) (hlength .refund)

/-- The script of a lock that passes its check is read as two branches: the lock is spent with
the secret and the receiver's signature, or after its time with the refund owner's, and in no
other way. -/
theorem bitcoin_lock_opens_iff (h : lock.htlc.validate = .ok ()) :
    ∃ ops, parse lock.htlc.witnessScript = some ops ∧ ∀ transaction input index items,
      accepts (spendEnv transaction input index lock) ops items ↔
      (∃ signature secret selector, items = [signature, secret, selector] ∧
        castToBool selector ∧ (Sha256.digest secret).toList = lock.htlc.hashlock.toList ∧
        consensusCheckSig transaction index lock signature lock.htlc.receiverPublicKey =
          some true) ∨
      ∃ signature selector, items = [signature, selector] ∧ castToBool selector = false ∧
        (lock.htlc.refundLocktime ≤ transaction.lockTime ∧
          decide (lockTimeThreshold ≤ lock.htlc.refundLocktime) =
            decide (lockTimeThreshold ≤ transaction.lockTime) ∧
          input.sequence ≠ 0xffffffff) ∧
        consensusCheckSig transaction index lock signature lock.htlc.refundPublicKey =
          some true :=
  ⟨_, parse_witnessScript h, fun _ _ _ _ => accepts_htlcOps_iff⟩

theorem ConsensusSpend.accepts (hhtlc : lock.htlc.validate = .ok ())
    (h : ConsensusSpend lock transaction input index items) :
    accepts (spendEnv transaction input index lock) (htlcOps lock.htlc) items := by
  obtain ⟨ops, hops, haccepts⟩ := h.satisfies
  rw [parse_witnessScript hhtlc] at hops
  cases hops
  exact haccepts

omit [Sha256] in
theorem length_of_parsed {signature : List UInt8} {parsed : EcdsaSignature}
    (h : signatureFromDer signature.dropLast = some parsed) : ¬ signature.length ≤ 1 := by
  intro hshort
  have hempty : signature.dropLast = [] := by
    rw [← List.length_eq_zero_iff, List.length_dropLast]
    omega
  rw [hempty, signatureFromDer_nil] at h
  cases h

omit [Sha256] in
theorem checkSpendSignature_ok
    (h : consensusCheckSig transaction index lock signature key = some true)
    (hashType : signature.getLastD 0 ∈ standardSighashTypes)
    (hlow : ∀ parsed, signatureFromDer signature.dropLast = some parsed →
      parsed.normalizeS = parsed) :
    checkSpendSignature transaction index lock signature key = .ok () := by
  unfold consensusCheckSig at h
  cases hlast : signature.getLast? with
  | none =>
    rw [hlast] at h
    cases h
  | some last =>
    rw [hlast] at h
    simp only [Option.bind_eq_bind, Option.bind_eq_some_iff, Option.pure_def,
      Option.some.injEq] at h
    obtain ⟨parsed, hparsed, h⟩ := h
    have hvalid : ∃ key', BitcoinLibrary.publicKey key = some key' ∧ ∃ sighash,
        p2wshSignatureHash transaction index lock.htlc.witnessScript lock.valueSats
          last.toUInt32 = some sighash ∧ verifyEcdsa sighash parsed.normalizeS key' = true := by
      cases hkey : BitcoinLibrary.publicKey key with
      | none => simp [hkey] at h
      | some key' =>
        cases hhash : p2wshSignatureHash transaction index lock.htlc.witnessScript
            lock.valueSats last.toUInt32 with
        | none => simp [hkey, hhash] at h
        | some sighash => exact ⟨key', rfl, sighash, rfl, by simpa [hkey, hhash] using h⟩
    obtain ⟨key', hkey, sighash, hhash, hverified⟩ := hvalid
    have hlow' := hlow parsed hparsed
    rw [hlow'] at hverified
    have hlastD : signature.getLastD 0 = last := by
      rw [List.getLastD_eq_getLast?, hlast]
      rfl
    have hlength := length_of_parsed hparsed
    simp only [checkSpendSignature, ok_iff, hlastD, not_not]
    rw [hlastD] at hashType
    exact ⟨(), hlength, (), hashType, parsed, hparsed, (), hlow', key', hkey, sighash,
      hhash, by simp [hverified]⟩

theorem verifyObserved_iff (hhtlc : lock.htlc.validate = .ok ())
    (houtputs : transaction.output ≠ [])
    (hsingle : (transaction.input.zipIdx.filter fun entry =>
      entry.1.previousOutput = lock.outpoint) = [(input, index)])
    {found : VerifiedBitcoinHtlcChainSpend} :
    verifyObservedBitcoinHtlcSpend (serialize transaction) lock branch = .ok found ↔
      (serialize transaction).length ≤ maxBitcoinTransactionBytes ∧ ∃ signature key preimage,
        spendWitness transaction input lock.htlc branch = .ok (signature, key, preimage) ∧
        checkSpendSignature transaction index lock signature key = .ok () ∧
        found = ⟨computeTxid transaction, computeWtxid transaction, branch, preimage⟩ := by
  have hinput := input_ne_nil hsingle
  have hread := deserialize_serialize transaction hinput
  simp only [verifyObservedBitcoinHtlcSpend, ok_iff, not_or, not_lt]
  constructor
  · rintro ⟨_, ⟨-, hsize⟩, _, -, decoded, hdecoded, _, -, h⟩
    obtain rfl := Option.some.inj (hread.symm.trans hdecoded)
    rw [hsingle] at h
    simp only [ok_iff] at h
    obtain ⟨⟨signature, key, preimage⟩, hwitness, _, hsignature, hret⟩ := h
    cases hret
    exact ⟨hsize, signature, key, preimage, hwitness, hsignature, rfl⟩
  · rintro ⟨hsize, signature, key, preimage, hwitness, hsignature, rfl⟩
    refine ⟨(), ⟨serialize_ne_nil _, hsize⟩, (), hhtlc, transaction, hread, (),
      ⟨not_not.2 rfl, hinput, houtputs⟩, ?_⟩
    rw [hsingle]
    simp only [ok_bind_iff]
    exact ⟨_, hwitness, (), hsignature, rfl⟩

theorem classifySpend_refund {found : VerifiedBitcoinHtlcChainSpend}
    (hhtlc : lock.htlc.validate = .ok ()) (houtputs : transaction.output ≠ [])
    (hsingle : (transaction.input.zipIdx.filter fun entry =>
      entry.1.previousOutput = lock.outpoint) = [(input, index)])
    (hwitness : input.witness.length = 3)
    (h : verifyObservedBitcoinHtlcSpend (serialize transaction) lock .refund = .ok found) :
    classifySpend (serialize transaction) lock transaction = .ok found := by
  unfold classifySpend
  split
  next other hredeem =>
    obtain ⟨-, _, _, _, hitems, -⟩ := (verifyObserved_iff hhtlc houtputs hsingle).1 hredeem
    obtain ⟨secret, hitems, -⟩ := spendWitness_redeem.1 hitems
    rw [hitems] at hwitness
    cases hwitness
  next => rw [h]

def ShowsBranch (htlc : BitcoinHtlc) (branch : Option HtlcSpendBranch)
    (preimage : Option (Bytes 32)) : Prop :=
  (branch = some .redeem ∧ ∃ secret, preimage = some secret ∧
    Sha256.digest secret.toList = htlc.hashlock) ∨ (branch = some .refund ∧ preimage = none)

theorem ConsensusSpend.classified (hhtlc : lock.htlc.validate = .ok ())
    (h : ConsensusSpend lock transaction input index items)
    (hstandard : StandardSpend lock transaction items) :
    ∃ verified, classifySpend (serialize transaction) lock transaction = .ok verified ∧
      ShowsBranch lock.htlc (some verified.branch) verified.revealedPreimage := by
  rcases accepts_htlcOps_iff.1 (h.accepts hhtlc) with
    ⟨signature, secret, selector, rfl, hselector, hsecret, hsignature⟩ |
    ⟨signature, selector, rfl, hselector, ⟨hlock, hkind, hsequence⟩, hsignature⟩
  · have hone : selector = [1] := by
      refine (hstandard.selector selector rfl).resolve_right fun hempty => ?_
      rw [hempty] at hselector
      cases hselector
    subst hone
    have hlength := hstandard.secret _ _ _ rfl
    have hdigest : Sha256.digest (⟨secret, hlength⟩ : Bytes 32).toList = lock.htlc.hashlock :=
      Bytes.ext hsecret
    have hchecked := checkSpendSignature_ok hsignature (hstandard.hashType signature rfl)
      (hstandard.lowS signature rfl)
    exact ⟨_, classifySpend_redeem ((verifyObserved_iff hhtlc h.outputs h.single).2
      ⟨hstandard.size, _, _, _, spendWitness_redeem.2 ⟨⟨secret, hlength⟩, h.witness, hdigest, rfl,
        rfl⟩, hchecked, rfl⟩), .inl ⟨rfl, _, rfl, hdigest⟩⟩
  · have hnone : selector = [] := by
      refine (hstandard.selector selector rfl).resolve_left fun hempty => ?_
      rw [hempty] at hselector
      cases hselector
    subst hnone
    have htime : lockTimeThreshold ≤ transaction.lockTime :=
      UInt32.le_trans (hstandard.time _ _ rfl) hlock
    have hchecked := checkSpendSignature_ok hsignature (hstandard.hashType signature rfl)
      (hstandard.lowS signature rfl)
    exact ⟨_, classifySpend_refund hhtlc h.outputs h.single (by rw [h.witness]; rfl)
      ((verifyObserved_iff hhtlc h.outputs h.single).2 ⟨hstandard.size, _, _, _,
        spendWitness_refund.2 ⟨h.witness, hlock, htime, hsequence, rfl, rfl⟩, hchecked, rfl⟩),
      .inr ⟨rfl, rfl⟩⟩

/-- A recognised spend has the standard form. -/
theorem ConsensusSpend.standard (hhtlc : lock.htlc.validate = .ok ())
    (h : ConsensusSpend lock transaction input index items) {found : VerifiedBitcoinHtlcChainSpend}
    (hfound : classifySpend (serialize transaction) lock transaction = .ok found) :
    StandardSpend lock transaction items := by
  obtain ⟨hsize, signature, key, preimage, hwitness, hchecked, -⟩ :=
    (verifyObserved_iff hhtlc h.outputs h.single).1 (classifySpend_eq_ok hfound)
  simp only [checkSpendSignature, ok_iff, not_not] at hchecked
  obtain ⟨_, -, _, htype, parsed, hparsed, _, hlow, -⟩ := hchecked
  have hsigned : ∀ rest, items = signature :: rest →
      (∀ first ∈ items.head?, first.getLastD 0 ∈ standardSighashTypes) ∧
      ∀ first ∈ items.head?, ∀ parsed, signatureFromDer first.dropLast = some parsed →
        parsed.normalizeS = parsed := by
    rintro rest rfl
    refine ⟨by rintro _ ⟨⟩; exact htype, ?_⟩
    rintro _ ⟨⟩ other hother
    obtain rfl := Option.some.inj (hparsed.symm.trans hother)
    exact hlow
  cases hbranch : found.branch with
  | redeem =>
    rw [hbranch, spendWitness_redeem, h.witness] at hwitness
    obtain ⟨secret, hitems, -, -, -⟩ := hwitness
    obtain rfl := List.append_cancel_right (show items ++ [lock.htlc.witnessScript] =
      [signature, secret.toList, [1]] ++ [lock.htlc.witnessScript] from hitems)
    refine ⟨hsize, by rintro _ ⟨⟩; exact .inl rfl, ?_, (hsigned _ rfl).1, (hsigned _ rfl).2,
      by rintro _ _ ⟨⟩⟩
    rintro _ _ _ ⟨⟩
    exact secret.length_eq
  | refund =>
    rw [hbranch, spendWitness_refund, h.witness] at hwitness
    obtain ⟨hitems, -, htime, -⟩ := hwitness
    obtain rfl := List.append_cancel_right (show items ++ [lock.htlc.witnessScript] =
      [signature, []] ++ [lock.htlc.witnessScript] from hitems)
    refine ⟨hsize, by rintro _ ⟨⟩; exact .inr rfl, by rintro _ _ _ ⟨⟩, (hsigned _ rfl).1,
      (hsigned _ rfl).2, ?_⟩
    -- The lock time of the transaction is a time, so the script compared it with a time.
    rcases accepts_htlcOps_iff.1 (h.accepts hhtlc) with ⟨_, _, _, hthree, -⟩ |
      ⟨_, _, -, -, ⟨-, hkind, -⟩, -⟩
    · cases hthree
    · intro _ _ _
      simpa [spendEnv, htime] using hkind

/-! ## The wallet's own spends -/

omit [Sha256] in
theorem checkSpendSignature_signed {signature : EcdsaSignature} {key publicKey : List UInt8}
    (hlow : signature.normalizeS = signature) (hkey : BitcoinLibrary.publicKey publicKey = some key)
    (hsighash : spendSighash transaction index lock = .ok sighash)
    (hverified : verifyEcdsa sighash signature key = true) :
    checkSpendSignature transaction index lock (serializeDer signature ++ [sighashAll]) publicKey =
      .ok () := by
  have hne : serializeDer signature ≠ [] := by
    intro hnil
    have hback := signatureFromDer_serializeDer signature
    rw [hnil, signatureFromDer_nil] at hback
    cases hback
  simp only [checkSpendSignature, ok_iff, spendSighash] at hsighash ⊢
  refine ⟨(), ?_, (), ?_, signature, ?_, (), not_not.2 hlow, key, hkey, sighash, ?_, ?_⟩
  · have hpos := List.length_pos_iff.2 hne
    simp
    omega
  · simp [sighashAll, standardSighashTypes]
  · rw [List.dropLast_concat]
    exact signatureFromDer_serializeDer signature
  · simpa [sighashAll] using hsighash
  · simp [hverified]

/-- A signed transaction is read back, and is recognised under its branch unless it is a
refund of a lock until a height. -/
def ReadBack (lock : VerifiedBitcoinLock) (branch : HtlcSpendBranch) (raw : List UInt8) : Prop :=
  ∃ signed, deserialize raw = some signed ∧
    ((∃ verified, classifySpend raw lock signed = .ok verified ∧ verified.branch = branch) ↔
      (branch = .refund → lockTimeThreshold ≤ lock.htlc.refundLocktime))

theorem finalizeSignedHtlcSpend_readBack {compact : Bytes 64} {key raw : List UInt8}
    (hhtlc : lock.htlc.validate = .ok ())
    (hkey : BitcoinLibrary.publicKey (lock.htlc.expectedKey branch) = some key)
    (htemplate : prepareHtlcSpendTemplate lock destination feeSats branch preimage context =
      .ok transaction) (hsighash : spendSighash transaction 0 lock = .ok sighash)
    (h : finalizeSignedHtlcSpend transaction branch sighash compact key = .ok raw) :
    ReadBack lock branch raw := by
  obtain ⟨sequence, items, hinput, houtput, hbranch⟩ := prepareHtlcSpendTemplate_eq_ok htemplate
  simp only [finalizeSignedHtlcSpend, ok_iff, ne_eq, not_not, Bool.not_eq_false, hinput,
    not_lt] at h
  obtain ⟨signature, -, _, hlow, _, hverified, _, -, _, hsize, hret⟩ := h
  cases hret
  generalize hsigned : transaction.withWitness 0 ((serializeDer signature ++ [sighashAll]) ::
    ([] :: items ++ [lock.htlc.witnessScript]).tail) = signed at hsize ⊢
  have hinputs : signed.input = [⟨lock.outpoint, [], sequence,
      (serializeDer signature ++ [sighashAll]) :: (items ++ [lock.htlc.witnessScript])⟩] := by
    rw [← hsigned, Transaction.withWitness, hinput]
    rfl
  have hsingle : (signed.input.zipIdx.filter fun entry =>
      entry.1.previousOutput = lock.outpoint) = [(⟨lock.outpoint, [], sequence,
        (serializeDer signature ++ [sighashAll]) :: (items ++ [lock.htlc.witnessScript])⟩, 0)] := by
    rw [hinputs]
    simp
  have hsighash' : spendSighash signed 0 lock = .ok sighash := by
    rw [← hsigned, spendSighash, sighash_withWitness]
    exact hsighash
  have hchecked := checkSpendSignature_signed hlow hkey hsighash' hverified
  have houtput' : signed.output ≠ [] := by
    rw [← hsigned]
    exact houtput
  have hread : deserialize (serialize signed) = some signed :=
    deserialize_serialize _ (by rw [hinputs]; exact List.cons_ne_nil _ _)
  have hverify : ∀ {branch found}, verifyObservedBitcoinHtlcSpend (serialize signed) lock branch =
      .ok found ↔ _ := verifyObserved_iff hhtlc houtput' hsingle
  refine ⟨signed, hread, ?_⟩
  rcases hbranch with ⟨rfl, secret, rfl, hdigest⟩ | ⟨rfl, rfl, hlockTime, rfl⟩
  · refine iff_of_true ⟨_, classifySpend_redeem (hverify.2 ⟨hsize, _, _, _,
      spendWitness_redeem.2 ⟨secret, rfl, hdigest, rfl, rfl⟩, hchecked, rfl⟩), rfl⟩ (by rintro ⟨⟩)
  · have hlock : signed.lockTime = lock.htlc.refundLocktime := by
      rw [← hsigned]
      exact hlockTime
    constructor
    · rintro ⟨found, hfound, hrefund⟩ -
      have hfound := classifySpend_eq_ok hfound
      rw [hrefund] at hfound
      obtain ⟨-, _, _, _, hwitness, -⟩ := hverify.1 hfound
      rw [← hlock]
      exact (spendWitness_refund.1 hwitness).2.2.1
    · intro htime
      refine ⟨_, classifySpend_refund hhtlc houtput' hsingle rfl (hverify.2 ⟨hsize, _, _, _,
        spendWitness_refund.2 ⟨rfl, ?_, ?_, ?_, rfl, rfl⟩, hchecked, rfl⟩), rfl⟩
      · rw [hlock]
        exact UInt32.le_refl _
      · rw [hlock]
        exact htime rfl
      · show sequenceEnableLocktimeNoRbf ≠ sequenceMax
        decide

omit [Sha256] in
theorem checkSpendSignature_of_signed
    (h : checkSignedSignature transaction index lock signature key = .ok ()) :
    checkSpendSignature transaction index lock signature key = .ok () := by
  simp only [checkSignedSignature, ok_iff, ne_eq, not_not, Bool.not_eq_false, spendSighash] at h
  obtain ⟨_, hlast, parsed, hparsed, _, hlow, publicKey, hkey, sighash, hsighash, hverified⟩ := h
  have hlastD : signature.getLastD 0 = sighashAll := by
    rw [List.getLastD_eq_getLast?, hlast]
    rfl
  have hlength := length_of_parsed hparsed
  simp only [checkSpendSignature, ok_iff, hlastD, ne_eq, not_not, Bool.not_eq_false]
  exact ⟨(), hlength, (), by simp [sighashAll, standardSighashTypes], parsed, hparsed, (), hlow,
    publicKey, hkey, sighash, hsighash, hverified⟩

theorem verifySponsoredRedeem_observed {W : Type} [SponsorWallet W] {wallet : W}
    (h : verifySponsoredRedeem wallet raw lock .redeem = .ok verified) :
    ∃ found, verifyObservedBitcoinHtlcSpend raw lock .redeem = .ok found ∧
      found.branch = .redeem := by
  simp only [verifySponsoredRedeem, ok_iff, not_or, ne_eq, not_not, not_lt] at h
  obtain ⟨_, ⟨-, hraw, hsize⟩, _, hhtlc, transaction, hread, _, ⟨rfl, -, -, -, houtput⟩, h⟩ := h
  split at h
  next input index hsingle =>
    simp only [ok_bind_iff] at h
    obtain ⟨_, -, _, -, _, -, _, -, preimage, hwitness, _, hsigned, -⟩ := h
    obtain ⟨secret, hredeem⟩ := signedWitness_redeem hwitness
    have hspend : spendWitness transaction input lock.htlc .redeem =
        .ok (input.witness.headD [], lock.htlc.receiverPublicKey, some secret) := by
      simp only [spendWitness, ok_bind_iff]
      exact ⟨_, hredeem, rfl⟩
    exact ⟨_, (verifyObserved_iff hhtlc houtput hsingle).2 ⟨hsize, _, _, _, hspend,
      checkSpendSignature_of_signed hsigned, rfl⟩, rfl⟩
  next => cases h

theorem verifySignedRedeem_observed
    (h : verifySignedBitcoinHtlcSpend raw lock .redeem = .ok verified) :
    ∃ found, verifyObservedBitcoinHtlcSpend raw lock .redeem = .ok found ∧
      found.branch = .redeem := by
  simp only [verifySignedBitcoinHtlcSpend, ok_iff, not_or, ne_eq, not_not, not_lt] at h
  obtain ⟨_, ⟨hraw, hsize⟩, _, hhtlc, transaction, hread, _, rfl, h⟩ := h
  split at h
  next input output hinput houtput =>
    simp only [ok_iff, not_not] at h
    obtain ⟨_, houtpoint, feeSats, -, _, -, preimage, hwitness, expected, -, _, -, _,
      hsigned, -⟩ := h
    obtain ⟨secret, hredeem⟩ := signedWitness_redeem hwitness
    have hsingle : (transaction.input.zipIdx.filter fun entry =>
        entry.1.previousOutput = lock.outpoint) = [(input, 0)] := by
      rw [hinput]
      simp [houtpoint]
    have hspend : spendWitness transaction input lock.htlc .redeem =
        .ok (input.witness.headD [], lock.htlc.receiverPublicKey, some secret) := by
      simp only [spendWitness, ok_bind_iff]
      exact ⟨_, hredeem, rfl⟩
    exact ⟨_, (verifyObserved_iff hhtlc (by rw [houtput]; exact List.cons_ne_nil _ _) hsingle).2
      ⟨hsize, _, _, _, hspend, checkSpendSignature_of_signed hsigned, rfl⟩, rfl⟩
  next => cases h

theorem verifySignedWithWallet_observed {W : Type} [SponsorWallet W] {wallet : W}
    (h : verifySignedBitcoinHtlcSpendWithWallet wallet raw lock .redeem = .ok verified) :
    ∃ found, verifyObservedBitcoinHtlcSpend raw lock .redeem = .ok found ∧
      found.branch = .redeem := by
  unfold verifySignedBitcoinHtlcSpendWithWallet at h
  split at h
  next hsigned => exact verifySignedRedeem_observed hsigned
  next => exact verifySponsoredRedeem_observed h

inductive Produced (lock : VerifiedBitcoinLock) : HtlcSpendBranch → List UInt8 → Prop where
  | swapKey {request localKey raw} (h : signBitcoinHtlcSpend lock request localKey = .ok raw) :
      Produced lock request.branch raw
  | settlementSigner {request signer raw}
      (h : signBitcoinHtlcSpendWithSettlementSigner lock request signer = .ok raw) :
      Produced lock request.branch raw
  | atFeeRate {destination branch preimage context feeRate maximumFee signer raw}
      (h : signBitcoinHtlcSpendAtFeeRateWithSettlementSigner lock destination branch preimage
        context feeRate maximumFee signer = .ok raw) : Produced lock branch raw
  | redeemAtFeeRate {destination preimage feeRate maximumFee signer raw}
      (h : signBitcoinHtlcRedeemAtFeeRateWithSettlementSigner lock destination preimage feeRate
        maximumFee signer = .ok raw) : Produced lock .redeem raw
  | sponsored {W : Type} [SponsorWallet W] {wallet : W}
      {destination preimage feeRate maximumFee unspendable signer raw}
      (h : signBitcoinHtlcRedeemWithWalletFeeSponsor wallet lock destination preimage feeRate
        maximumFee unspendable signer = .ok raw) : Produced lock .redeem raw

theorem settlementTemplate_readBack
    (h : signBitcoinHtlcSpendTemplateWithSettlementSigner lock destination feeSats branch preimage
      context signer = .ok raw) : ReadBack lock branch raw := by
  simp only [signBitcoinHtlcSpendTemplateWithSettlementSigner, ok_iff, ne_eq, not_not] at h
  obtain ⟨_, hhtlc, _, -, _, -, key, -, _, rfl, transaction, htemplate, sighash, hsighash, compact,
    -, hfinal⟩ := h
  exact finalizeSignedHtlcSpend_readBack hhtlc ((BitcoinHtlc.validate_eq_ok hhtlc).1 branch)
    htemplate hsighash hfinal

theorem refineFee_readBack {feeRate maximumFee : UInt64} {rounds : Nat}
    (h : refineFee lock destination branch preimage context feeRate maximumFee signer rounds
      feeSats = .ok raw) : ReadBack lock branch raw := by
  induction rounds generalizing feeSats with
  | zero => cases h
  | succ rounds ih =>
    simp only [refineFee, ok_bind_iff] at h
    obtain ⟨found, hsigned, transaction, -, required, -, _, -, h⟩ := h
    split at h
    next =>
      cases h
      exact settlementTemplate_readBack hsigned
    next => exact ih h

theorem Produced.readBack (h : Produced lock branch raw) : ReadBack lock branch raw := by
  cases h with
  | swapKey h =>
    simp only [signBitcoinHtlcSpend, ok_iff, ne_eq, not_not, prepareHtlcSpend] at h
    obtain ⟨_, hhtlc, _, -, key, -, _, rfl, transaction, ⟨_, -, htemplate⟩, sighash, hsighash,
      compact, -, hfinal⟩ := h
    exact finalizeSignedHtlcSpend_readBack hhtlc ((BitcoinHtlc.validate_eq_ok hhtlc).1 _)
      htemplate hsighash hfinal
  | settlementSigner h => exact settlementTemplate_readBack h
  | atFeeRate h =>
    simp only [signBitcoinHtlcSpendAtFeeRateWithSettlementSigner,
      signAtFeeRateTemplateWithSettlementSigner, ok_bind_iff] at h
    obtain ⟨_, -, h⟩ := h
    exact refineFee_readBack h
  | redeemAtFeeRate h =>
    simp only [signBitcoinHtlcRedeemAtFeeRateWithSettlementSigner,
      signAtFeeRateTemplateWithSettlementSigner, ok_bind_iff] at h
    obtain ⟨_, -, h⟩ := h
    exact refineFee_readBack h
  | @sponsored W _ wallet _ _ _ _ _ _ _ h =>
    simp only [signBitcoinHtlcRedeemWithWalletFeeSponsor, ok_bind_iff] at h
    obtain ⟨_, -, _, -, _, -, _, -, _, -, _, -, _, -, _, -, _, -, _, -, _, -, _, -, _, -, _, -,
      verified, hverified, hret⟩ := h
    cases hret
    obtain ⟨found, hfound, hbranch⟩ := verifySignedWithWallet_observed hverified
    obtain ⟨-, ⟨signed, hread, -⟩, -⟩ := verifyObserved_eq_ok hfound
    exact ⟨signed, hread, iff_of_true ⟨found, classifySpend_redeem hfound, hbranch⟩
      (by rintro ⟨⟩)⟩

structure RecordsSpend (htlc : BitcoinHtlc) (event : SeenTransaction)
    (candidate : PersistedBitcoinSwapObservation) : Prop where
  raw : candidate.rawTransaction = serialize event.transaction
  height : candidate.blockHeight = event.height
  hash : candidate.blockHash = event.blockHash
  branch : ShowsBranch htlc candidate.branch candidate.preimage

/-- If the spends of a watched lock satisfy its script, the reconciliation finishes, with one
record per spend and the preimage of each redemption, exactly when every spend has the standard
form; and a spend that the wallet signs is recognised under its own branch unless it is a refund
of a lock until a height. -/
theorem standard_spends_are_recorded {watch : PersistedBitcoinHtlcWatch}
    {funding : PersistedBitcoinSwapObservation} {tip : BitcoinCheckpoint}
    {blocks : List MatchedSwapBlock} (hhtlc : watch.htlc.validate = .ok ())
    (hblocks : ∀ matched ∈ blocks, validateMatchedBlock matched = .ok ())
    (htip : ∀ matched ∈ blocks, matched.height ≤ tip.height)
    (hmax : tip.height.toNat + 1 < UInt32.size)
    (hspends : ∀ event ∈ spends (watch.lock funding) funding.blockHeight (eventsOf blocks),
      ∃ input index items,
        ConsensusSpend (watch.lock funding) event.transaction input index items) :
    ((∀ event ∈ spends (watch.lock funding) funding.blockHeight (eventsOf blocks),
        ∃ input index items,
          ConsensusSpend (watch.lock funding) event.transaction input index items ∧
          StandardSpend (watch.lock funding) event.transaction items) →
      ∃ candidates, spendCandidates watch funding blocks tip = .ok candidates ∧
        List.Forall₂ (RecordsSpend watch.htlc)
          (spends (watch.lock funding) funding.blockHeight (eventsOf blocks)) candidates) ∧
    (∀ candidates, spendCandidates watch funding blocks tip = .ok candidates →
      ∀ event ∈ spends (watch.lock funding) funding.blockHeight (eventsOf blocks),
      ∃ input index items,
        ConsensusSpend (watch.lock funding) event.transaction input index items ∧
        StandardSpend (watch.lock funding) event.transaction items) ∧
    ∀ branch raw, Produced (watch.lock funding) branch raw →
      ReadBack (watch.lock funding) branch raw := by
  rw [spendCandidates_eq hblocks]
  refine ⟨fun hstandard => ?_, fun candidates hcandidates event hevent => ?_,
    fun _ _ hproduced => hproduced.readBack⟩
  · have hone : ∀ event ∈ spends (watch.lock funding) funding.blockHeight (eventsOf blocks),
        ∃ candidate, spendObservation (watch.lock funding) tip event = .ok candidate ∧
          RecordsSpend watch.htlc event candidate := by
      intro event hevent
      obtain ⟨input, index, items, hconsensus, hform⟩ := hstandard event hevent
      obtain ⟨verified, hclassify, hbranch⟩ := hconsensus.classified hhtlc hform
      obtain ⟨matched, hmatched, transaction, -, rfl⟩ := mem_eventsOf.1 (mem_eventsFrom.1 hevent).1
      exact ⟨_, spendObservation_eq hclassify ⟨htip matched hmatched, hmax⟩, rfl, rfl, rfl, hbranch⟩
    generalize spends (watch.lock funding) funding.blockHeight (eventsOf blocks) = events at hone
    induction events with
    | nil => exact ⟨[], rfl, .nil⟩
    | cons event rest ih =>
      obtain ⟨⟨candidate, hcandidate, hrecords⟩, hrest⟩ := List.forall_mem_cons.1 hone
      obtain ⟨candidates, hcandidates, hall⟩ := ih hrest
      refine ⟨candidate :: candidates, ?_, .cons hrecords hall⟩
      simp only [List.mapM_cons, ok_bind_iff]
      exact ⟨candidate, hcandidate, candidates, hcandidates, rfl⟩
  · obtain ⟨input, index, items, hconsensus⟩ := hspends event hevent
    obtain ⟨candidate, -, hseen⟩ := exists_of_mapM_eq_ok hcandidates hevent
    simp only [spendObservation, ok_bind_iff] at hseen
    obtain ⟨verified, hclassify, -⟩ := hseen
    exact ⟨input, index, items, hconsensus, hconsensus.standard hhtlc hclassify⟩

end Laws

namespace Sample

/-! ## A lock until a height -/

def lockUntil (locktime : UInt32) : BitcoinHtlc where
  hashlock := watchedHash
  receiverPublicKey := watchedReceiver
  refundPublicKey := watchedRefund
  refundLocktime := locktime
  witnessScript := htlcScript watchedHash watchedReceiver watchedRefund locktime
  scriptPubkey := watchBitcoin.p2wsh (htlcScript watchedHash watchedReceiver watchedRefund locktime)

def spendSignatureBytes : List UInt8 := [0x30, 5, 6, 1]

def heightRefund : Transaction :=
  ⟨2, 800000, [⟨⟨.replicate 32 51, 0⟩, [], sequenceEnableLocktimeNoRbf,
    [spendSignatureBytes, [], (lockUntil 800000).witnessScript]⟩], [⟨49000, [0x51]⟩]⟩

def timeRedeem : Transaction :=
  ⟨2, 0, [⟨⟨.replicate 32 51, 0⟩, [], sequenceMax,
    [spendSignatureBytes, List.replicate 32 5, [1], (lockUntil 1700000000).witnessScript]⟩],
    [⟨49000, [0x51]⟩]⟩

instance countableUInt8 : Countable UInt8 := ⟨⟨UInt8.toNat, fun _ _ => UInt8.toNat_inj.1⟩⟩
instance countableUInt32 : Countable UInt32 := ⟨⟨UInt32.toNat, fun _ _ => UInt32.toNat_inj.1⟩⟩
instance countableUInt64 : Countable UInt64 := ⟨⟨UInt64.toNat, fun _ _ => UInt64.toNat_inj.1⟩⟩

instance {n : Nat} : Countable (Bytes n) :=
  Function.Injective.countable (f := Bytes.toList) fun _ _ => Bytes.ext

deriving instance Countable for OutPoint, TxIn, TxOut, Transaction

theorem exists_numbering : ∃ f : Transaction → Nat, Function.Injective f :=
  Countable.exists_injective_nat Transaction

noncomputable def numbering : Transaction → Nat := exists_numbering.choose

theorem numbering_injective : Function.Injective numbering := exists_numbering.choose_spec

noncomputable def spendEncode (transaction : Transaction) : List UInt8 :=
  if transaction = heightRefund then [2, 0xf5]
  else if transaction = timeRedeem then [2, 0xf6]
  else 0 :: List.replicate (numbering transaction) 1

open Classical in
noncomputable def spendDecode (raw : List UInt8) : Option Transaction :=
  if raw = [2, 0xf5] then some heightRefund
  else if raw = [2, 0xf6] then some timeRedeem
  else if h : ∃ transaction, raw = 0 :: List.replicate (numbering transaction) 1 then some h.choose
  else none

theorem spendDecode_spendEncode (transaction : Transaction) :
    spendDecode (spendEncode transaction) = some transaction := by
  unfold spendEncode
  split
  next heq => rw [heq, spendDecode, if_pos rfl]
  next =>
    split
    next heq => rw [heq, spendDecode, if_neg (by decide), if_pos rfl]
    next =>
      have hsome : ∃ other, (0 : UInt8) :: List.replicate (numbering transaction) 1 =
          0 :: List.replicate (numbering other) 1 := ⟨transaction, rfl⟩
      rw [spendDecode, if_neg (by simp), if_neg (by simp), dif_pos hsome]
      have hlength := congrArg List.length hsome.choose_spec
      simp only [List.length_cons, List.length_replicate, Nat.add_right_cancel_iff] at hlength
      rw [← numbering_injective hlength]

@[reducible] noncomputable def spendBlocks : BlockLibrary where
  __ := watchBlocks
  deserialize := spendDecode
  serialize := spendEncode
  computeTxid _ := .replicate 32 61
  computeWtxid _ := .replicate 32 62
  signatureFromDer
    | 0x30 :: rest => some ⟨(rest.takeWhile (· = 5)).length, (rest.dropWhile (· = 5)).length⟩
    | _ => none
  verifyEcdsa _ _ key := key = watchedReceiver ∨ key = watchedRefund

@[reducible] def spendSigning : SpendSigning where
  signatureFromCompact _ := some ⟨1, 1⟩
  serializeDer signature := 0x30 :: (List.replicate signature.r 5 ++ List.replicate signature.s 6)
  vsize _ := 120

attribute [local instance] watchSha256 watchBitcoin spendBlocks spendSigning

theorem spendLawful : LawfulSpendSigning where
  serialize_ne_nil transaction := by
    change spendEncode transaction ≠ []
    unfold spendEncode
    split
    · simp
    · split <;> simp
  deserialize_serialize transaction _ := spendDecode_spendEncode transaction
  publicKey_length h := by
    change (if _ then _ else _) = _ at h
    split at h
    next hlength => exact .inl (Option.some.inj h ▸ hlength)
    next => cases h
  signatureFromDer_nil := rfl
  signatureFromDer_serializeDer signature := by
    change some (EcdsaSignature.mk _ _) = _
    have htaken : (List.replicate signature.r (5 : UInt8) ++ List.replicate signature.s 6).takeWhile
        (· = 5) = List.replicate signature.r 5 := by
      rw [List.takeWhile_append_of_pos (by simp)]
      cases signature.s <;> simp [List.replicate_succ]
    have hdropped : (List.replicate signature.r (5 : UInt8) ++
        List.replicate signature.s 6).dropWhile (· = 5) = List.replicate signature.s 6 := by
      rw [List.dropWhile_append_of_pos (by simp)]
      cases signature.s <;> simp [List.replicate_succ]
    rw [htaken, hdropped, List.length_replicate, List.length_replicate]
  sighash_withWitness _ _ _ _ _ _ _ := rfl

attribute [local instance] spendLawful

def spendWatch (locktime : UInt32) : PersistedBitcoinHtlcWatch :=
  newWatch .bitcoin watchedBinding ⟨watchedSession, lockUntil locktime, 50000, 2⟩ ⟨watchedTerms⟩
    (watchCheckpoint 99 199)

def spendFunding : PersistedBitcoinSwapObservation :=
  ⟨.replicate 32 51, .replicate 32 151, 100, .replicate 32 200, 2, 0, none, none, [2, 0xf1]⟩

def spendLock (locktime : UInt32) : VerifiedBitcoinLock := (spendWatch locktime).lock spendFunding

def refundSigner : SettlementSigner := ⟨⟨watchedRefund, rfl⟩, fun _ => some (.replicate 64 1)⟩

def refundRequest : BitcoinHtlcSpendRequest := ⟨[0x51], 1000, .refund, none, ⟨800001, 1700000000⟩⟩

theorem heightRefund_consensus : ConsensusSpend (spendLock 800000) heightRefund
    ⟨⟨.replicate 32 51, 0⟩, [], sequenceEnableLocktimeNoRbf,
      [spendSignatureBytes, [], (lockUntil 800000).witnessScript]⟩ 0 [spendSignatureBytes, []] := by
  exact ⟨by decide, rfl, rfl, _, parse_witnessScript rfl,
    accepts_htlcOps_iff.2 (.inr ⟨_, _, rfl, rfl, by decide, rfl⟩)⟩

set_option maxRecDepth 8000 in
/-- The refund that the wallet signs for a lock until a height satisfies the script, and
stops the reconciliation of the account. -/
theorem height_refund_is_not_recorded :
    (lockUntil 800000).validate = .ok () ∧
    signBitcoinHtlcSpendWithSettlementSigner (spendLock 800000) refundRequest refundSigner =
      .ok (spendEncode heightRefund) ∧
    ConsensusSpend (spendLock 800000) heightRefund
      ⟨⟨.replicate 32 51, 0⟩, [], sequenceEnableLocktimeNoRbf,
        [spendSignatureBytes, [], (lockUntil 800000).witnessScript]⟩ 0 [spendSignatureBytes, []] ∧
    spendCandidates (spendWatch 800000) spendFunding [⟨800001, ⟨[201], [heightRefund]⟩⟩]
      (watchCheckpoint 800001 201) = .error (.invalidSwapSpendEvidence (List.replicate 32 61)
        .invalidObservedSpendWitnessShape .invalidObservedSpendRefundLocktime) :=
  ⟨rfl, rfl, heightRefund_consensus, rfl⟩

theorem timeRedeem_consensus : ConsensusSpend (spendLock 1700000000) timeRedeem
    ⟨⟨.replicate 32 51, 0⟩, [], sequenceMax, [spendSignatureBytes, List.replicate 32 5, [1],
      (lockUntil 1700000000).witnessScript]⟩ 0
    [spendSignatureBytes, List.replicate 32 5, [1]] := by
  set_option maxRecDepth 8000 in
  exact ⟨by decide, rfl, rfl, _, parse_witnessScript rfl,
    accepts_htlcOps_iff.2 (.inl ⟨_, _, _, rfl, rfl, rfl, rfl⟩)⟩

theorem timeRedeem_standard : StandardSpend (spendLock 1700000000) timeRedeem
    [spendSignatureBytes, List.replicate 32 5, [1]] where
  size := by
    change (spendEncode timeRedeem).length ≤ _
    rw [spendEncode, if_neg (by decide), if_pos rfl]
    decide
  selector selector hselector := .inl (Option.some.inj hselector).symm
  secret signature secret selector hitems := by
    obtain ⟨-, hrest⟩ := List.cons.inj hitems
    rw [← (List.cons.inj hrest).1]
    rfl
  hashType signature hsignature := by
    obtain rfl := Option.some.inj hsignature
    decide
  lowS signature hsignature parsed hparsed := by
    obtain rfl := Option.some.inj hsignature
    obtain rfl := Option.some.inj hparsed
    decide
  time := by rintro _ _ ⟨⟩

theorem lock_until_height_opens_iff : (spendLock 800000).htlc.validate = .ok () ∧
    ∃ ops, parse (spendLock 800000).htlc.witnessScript = some ops ∧
      accepts (spendEnv heightRefund ⟨⟨.replicate 32 51, 0⟩, [], sequenceEnableLocktimeNoRbf,
        [spendSignatureBytes, [], (lockUntil 800000).witnessScript]⟩ 0 (spendLock 800000)) ops
        [spendSignatureBytes, []] := by
  have hvalid : (spendLock 800000).htlc.validate = .ok () := rfl
  obtain ⟨ops, hops, hopens⟩ := bitcoin_lock_opens_iff hvalid
  exact ⟨hvalid, ops, hops, (hopens _ _ _ _).2 (.inr ⟨_, _, rfl, rfl, by decide, rfl⟩)⟩

set_option maxRecDepth 8000 in
theorem time_redeem_is_recorded : ∃ candidates,
    spendCandidates (spendWatch 1700000000) spendFunding [⟨101, ⟨[201], [timeRedeem]⟩⟩]
      (watchCheckpoint 101 201) = .ok candidates ∧
    List.Forall₂ (RecordsSpend (lockUntil 1700000000))
      [⟨101, .replicate 32 201, timeRedeem⟩] candidates :=
  have hone : ∀ event ∈ spends (spendLock 1700000000) 100
      (eventsOf [⟨101, ⟨[201], [timeRedeem]⟩⟩]), ∃ input index items,
        ConsensusSpend (spendLock 1700000000) event.transaction input index items ∧
        StandardSpend (spendLock 1700000000) event.transaction items := by
    intro event hevent
    obtain rfl := List.mem_singleton.1 (show event ∈ [_] from hevent)
    exact ⟨_, _, _, timeRedeem_consensus, timeRedeem_standard⟩
  (@standard_spends_are_recorded _ _ _ _ _ (spendWatch 1700000000) spendFunding
    (watchCheckpoint 101 201) [⟨101, ⟨[201], [timeRedeem]⟩⟩] rfl
    (List.forall_mem_singleton.2 rfl) (List.forall_mem_singleton.2 (by decide)) (by decide)
    fun event hevent => by
      obtain ⟨input, index, items, hspend, -⟩ := hone event hevent
      exact ⟨input, index, items, hspend⟩).1 hone

end Sample

end HnsWallet
