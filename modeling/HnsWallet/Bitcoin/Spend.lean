import HnsWallet.Bitcoin.Transaction

/-! # Spending a hash-time lock -/

namespace HnsWallet

open Lib

structure BitcoinChainLockContext where
  nextBlockHeight : UInt32
  medianTimePast : UInt32
deriving DecidableEq

def lockTimeThreshold : UInt32 := bitcoinTimestampLocktimeThreshold.toUInt32

def BitcoinChainLockContext.validate (context : BitcoinChainLockContext) :
    Except BitcoinWalletError Unit :=
  refuseIf (lockTimeThreshold ≤ context.nextBlockHeight) .invalidChainLockContext

def BitcoinChainLockContext.permits (context : BitcoinChainLockContext) (lockTime : UInt32) :
    Bool :=
  if lockTime < lockTimeThreshold then lockTime < context.nextBlockHeight
  else lockTime < context.medianTimePast

class SpendSigning where
  signatureFromCompact : Bytes 64 → Option EcdsaSignature
  serializeDer : EcdsaSignature → List UInt8
  vsize : Transaction → Nat

def sighashAll : UInt8 := 1

section Spend

variable [Sha256] [BitcoinLibrary] [BlockLibrary] [SpendSigning]

open BlockLibrary SpendSigning

variable (lock : VerifiedBitcoinLock) (destination : List UInt8) (transaction : Transaction)
  (branch : HtlcSpendBranch)

def prepareHtlcSpendTemplate
    (feeSats : UInt64) (branch : HtlcSpendBranch) (preimage : Option (Bytes 32))
    (chainContext : Option BitcoinChainLockContext) : Except BitcoinWalletError Transaction := do
  lock.htlc.validate
  refuseIf (feeSats = 0 ∨ lock.valueSats ≤ feeSats) .invalidFee
  let outputValue ← okOr (checkedSub lock.valueSats feeSats) .invalidFee
  refuseIf (outputValue < minHtlcDustSats) .dust
  let (lockTime, sequence, witness) ← match branch with
    | .redeem => do
      let secret ← okOr preimage .missingPreimage
      refuseIf (Sha256.digest secret.toList ≠ lock.htlc.hashlock) .invalidPreimage
      pure ((0 : UInt32), sequenceMax, [[], secret.toList, [1], lock.htlc.witnessScript])
    | .refund => do
      refuseIf (preimage.isSome ∨
        ∃ context ∈ chainContext, context.permits lock.htlc.refundLocktime = false)
        .timelockNotReached
      pure (lock.htlc.refundLocktime, sequenceEnableLocktimeNoRbf,
        [[], [], lock.htlc.witnessScript])
  return {
    version := 2
    lockTime
    input := [⟨lock.outpoint, [], sequence, witness⟩]
    output := [⟨outputValue, destination⟩] }

def prepareHtlcSpend (feeSats : UInt64) (branch : HtlcSpendBranch) (preimage : Option (Bytes 32))
    (chainContext : BitcoinChainLockContext) : Except BitcoinWalletError Transaction := do
  chainContext.validate
  prepareHtlcSpendTemplate lock destination feeSats branch preimage (some chainContext)

def Transaction.withWitness (index : Nat) (witness : List (List UInt8)) : Transaction :=
  { transaction with
    input := transaction.input.modify index fun input => { input with witness } }

def witnessItems : HtlcSpendBranch → Nat
  | .redeem => 4
  | .refund => 3

def finalizeSignedHtlcSpend (sighash : Bytes 32) (compact : Bytes 64) (publicKey : List UInt8) :
    Except BitcoinWalletError (List UInt8) := do
  let signature ← okOr (signatureFromCompact compact) .signingIncomplete
  refuseIf (signature.normalizeS ≠ signature) .signingIncomplete
  refuseIf (verifyEcdsa sighash signature publicKey = false) .invalidEvidence
  let signatureBytes := serializeDer signature ++ [sighashAll]
  match transaction.input with
  | input :: _ =>
    refuseIf (input.witness.length ≠ witnessItems branch ∨ input.witness.headD [1] ≠ [])
      .invalidEvidence
    let signed := transaction.withWitness 0 (signatureBytes :: input.witness.tail)
    let raw := serialize signed
    refuseIf (maxBitcoinTransactionBytes < raw.length) .transactionTooLarge
    return raw
  | [] => .error .invalidEvidence

def spendSighash (index : Nat) (lock : VerifiedBitcoinLock) :
    Except BitcoinWalletError (Bytes 32) :=
  okOr (p2wshSignatureHash transaction index lock.htlc.witnessScript lock.valueSats
    sighashAll.toUInt32) .invalidEvidence

inductive BitcoinSwapKeyRole where
  | receiver
  | refundOwner
deriving DecidableEq, Repr

def HtlcSpendBranch.role : HtlcSpendBranch → BitcoinSwapKeyRole
  | .redeem => .receiver
  | .refund => .refundOwner

structure DerivedBitcoinSwapKey where
  role : BitcoinSwapKeyRole
  publicKey : List UInt8
  sign : Bytes 32 → Option (Bytes 64)

structure BitcoinHtlcSpendRequest where
  destination : List UInt8
  feeSats : UInt64
  branch : HtlcSpendBranch
  preimage : Option (Bytes 32)
  chainContext : BitcoinChainLockContext

def signBitcoinHtlcSpend (request : BitcoinHtlcSpendRequest)
    (localKey : DerivedBitcoinSwapKey) : Except BitcoinWalletError (List UInt8) := do
  lock.htlc.validate
  refuseIf (localKey.role ≠ request.branch.role) .invalidSwapKeyReference
  let publicKey ← okOr (BitcoinLibrary.publicKey localKey.publicKey) .invalidSwapKeyReference
  refuseIf (publicKey ≠ lock.htlc.expectedKey request.branch) .invalidSwapKeyReference
  let transaction ← prepareHtlcSpend lock request.destination request.feeSats request.branch
    request.preimage request.chainContext
  let sighash ← spendSighash transaction 0 lock
  let compact ← okOr (localKey.sign sighash) .invalidSwapKeyReference
  finalizeSignedHtlcSpend transaction request.branch sighash compact publicKey

structure SettlementSigner where
  compressedPublicKey : Bytes 33
  signDigest : Bytes 32 → Option (Bytes 64)

def signBitcoinHtlcSpendTemplateWithSettlementSigner (feeSats : UInt64) (branch : HtlcSpendBranch)
    (preimage : Option (Bytes 32)) (chainContext : Option BitcoinChainLockContext)
    (signer : SettlementSigner) : Except BitcoinWalletError (List UInt8) := do
  lock.htlc.validate
  refuseIf (branch = .refund ∧ chainContext.isNone) .invalidChainLockContext
  chainContext.forM BitcoinChainLockContext.validate
  let publicKey ← okOr (BitcoinLibrary.publicKey signer.compressedPublicKey.toList)
    .invalidSwapKeyReference
  refuseIf (publicKey ≠ lock.htlc.expectedKey branch) .invalidSwapKeyReference
  let transaction ← prepareHtlcSpendTemplate lock destination feeSats branch preimage chainContext
  let sighash ← spendSighash transaction 0 lock
  let compact ← okOr (signer.signDigest sighash) .signingIncomplete
  finalizeSignedHtlcSpend transaction branch sighash compact publicKey

def signBitcoinHtlcSpendWithSettlementSigner
    (request : BitcoinHtlcSpendRequest) (signer : SettlementSigner) :
    Except BitcoinWalletError (List UInt8) :=
  signBitcoinHtlcSpendTemplateWithSettlementSigner lock request.destination request.feeSats
    request.branch request.preimage (some request.chainContext) signer

def requiredFee (feeRateSatVb : UInt64) (transaction : Transaction) :
    Except BitcoinWalletError UInt64 :=
  okOr (toU64 (feeRateSatVb.toNat * vsize transaction)) .invalidFee

def refineFee (lock : VerifiedBitcoinLock) (destination : List UInt8) (branch : HtlcSpendBranch)
    (preimage : Option (Bytes 32)) (chainContext : Option BitcoinChainLockContext)
    (feeRateSatVb maximumFeeSats : UInt64) (signer : SettlementSigner) :
    Nat → UInt64 → Except BitcoinWalletError (List UInt8)
  | 0, _ => .error .invalidFee
  | rounds + 1, feeSats => do
    let raw ← signBitcoinHtlcSpendTemplateWithSettlementSigner lock destination feeSats branch
      preimage chainContext signer
    let transaction ← okOr (deserialize raw) .invalidEvidence
    let required ← requiredFee feeRateSatVb transaction
    refuseIf (maximumFeeSats < required) .feeLimit
    if required ≤ feeSats then return raw
    else
      refineFee lock destination branch preimage chainContext feeRateSatVb maximumFeeSats signer
        rounds required

def signAtFeeRateTemplateWithSettlementSigner (preimage : Option (Bytes 32))
    (chainContext : Option BitcoinChainLockContext) (feeRateSatVb maximumFeeSats : UInt64)
    (signer : SettlementSigner) : Except BitcoinWalletError (List UInt8) := do
  refuseIf (feeRateSatVb = 0 ∨ maximumFeeSats = 0) .invalidFee
  refineFee lock destination branch preimage chainContext feeRateSatVb maximumFeeSats signer 8 1

def signBitcoinHtlcSpendAtFeeRateWithSettlementSigner (preimage : Option (Bytes 32))
    (chainContext : BitcoinChainLockContext) (feeRateSatVb maximumFeeSats : UInt64)
    (signer : SettlementSigner) : Except BitcoinWalletError (List UInt8) :=
  signAtFeeRateTemplateWithSettlementSigner lock destination branch preimage (some chainContext)
    feeRateSatVb maximumFeeSats signer

def signBitcoinHtlcRedeemAtFeeRateWithSettlementSigner
    (preimage : Bytes 32) (feeRateSatVb maximumFeeSats : UInt64)
    (signer : SettlementSigner) : Except BitcoinWalletError (List UInt8) :=
  signAtFeeRateTemplateWithSettlementSigner lock destination .redeem (some preimage) none
    feeRateSatVb maximumFeeSats signer

def signedWitness (htlc : BitcoinHtlc) (witness : List (List UInt8)) :
    HtlcSpendBranch → Except BitcoinWalletError (Option (Bytes 32))
  | .redeem =>
    match witness with
    | [_, secret, selector, script] => do
      refuseIf (selector ≠ [1] ∨ script ≠ htlc.witnessScript) .invalidEvidence
      let preimage ← okOr (exactBytes 32 secret) .invalidPreimage
      refuseIf (Sha256.digest preimage.toList ≠ htlc.hashlock) .invalidPreimage
      return some preimage
    | _ => .error .invalidEvidence
  | .refund =>
    match witness with
    | [_, selector, script] => do
      refuseIf (selector ≠ [] ∨ script ≠ htlc.witnessScript) .invalidEvidence
      return none
    | _ => .error .invalidEvidence

def checkSignedSignature (index : Nat) (lock : VerifiedBitcoinLock)
    (signatureBytes publicKey : List UInt8) : Except BitcoinWalletError Unit := do
  refuseIf (signatureBytes.getLast? ≠ some sighashAll) .invalidEvidence
  let signature ← okOr (signatureFromDer signatureBytes.dropLast) .invalidEvidence
  refuseIf (signature.normalizeS ≠ signature) .invalidEvidence
  let key ← okOr (BitcoinLibrary.publicKey publicKey) .invalidEvidence
  let sighash ← spendSighash transaction index lock
  refuseIf (verifyEcdsa sighash signature key = false) .invalidEvidence

def verifySignedBitcoinHtlcSpend (rawTransaction : List UInt8) (lock : VerifiedBitcoinLock)
    (branch : HtlcSpendBranch) : Except BitcoinWalletError VerifiedBitcoinHtlcSpend := do
  refuseIf (rawTransaction = [] ∨ maxBitcoinTransactionBytes < rawTransaction.length)
    .transactionTooLarge
  lock.htlc.validate
  let transaction ← okOr (deserialize rawTransaction) .invalidEvidence
  refuseIf (serialize transaction ≠ rawTransaction) .invalidEvidence
  match transaction.input, transaction.output with
  | [input], [output] =>
    refuseIf (input.previousOutput ≠ lock.outpoint) .invalidEvidence
    let feeSats ← okOr (checkedSub lock.valueSats output.value) .invalidFee
    refuseIf (feeSats = 0) .invalidFee
    let preimage ← signedWitness lock.htlc input.witness branch
    let expected ← prepareHtlcSpendTemplate lock output.scriptPubkey feeSats branch preimage none
    refuseIf ((input.witness.headD []).length ≤ 1) .invalidEvidence
    checkSignedSignature transaction 0 lock (input.witness.headD [])
      (lock.htlc.expectedKey branch)
    refuseIf (expected.withWitness 0 input.witness ≠ transaction) .invalidEvidence
    return ⟨computeTxid transaction, computeWtxid transaction, feeSats⟩
  | _, _ => .error .invalidEvidence

/-- What holds of the codecs: transactions with inputs and signatures are read back as they
were written, a key is compressed or not, and a signature does not sign witnesses. -/
class LawfulSpendSigning : Prop where
  serialize_ne_nil (transaction : Transaction) : serialize transaction ≠ []
  deserialize_serialize (transaction : Transaction) : transaction.input ≠ [] →
    deserialize (serialize transaction) = some transaction
  publicKey_length {bytes key : List UInt8} :
    BitcoinLibrary.publicKey bytes = some key → key.length = 33 ∨ key.length = 65
  signatureFromDer_nil : signatureFromDer [] = none
  signatureFromDer_serializeDer (signature : EcdsaSignature) :
    signatureFromDer (serializeDer signature) = some signature
  sighash_withWitness (transaction : Transaction) (index place : Nat)
    (witness : List (List UInt8)) (script : List UInt8) (value : UInt64) (hashType : UInt32) :
    p2wshSignatureHash (transaction.withWitness place witness) index script value hashType =
      p2wshSignatureHash transaction index script value hashType

class SponsorWallet (W : Type) where
  insertTxout : W → OutPoint → TxOut → W
  /-- Version 2, no lock time, the recipient first, the lock as a foreign input. -/
  buildTx : W → (destination : List UInt8) → (valueSats feeRate : UInt64) → OutPoint →
    (unspendable : List OutPoint) → Except String Transaction
  sign : W → Transaction → Except String Transaction
  calculateFee : W → Transaction → Except String UInt64
  hasUtxo : W → OutPoint → Bool
  isMine : W → List UInt8 → Bool

variable {W : Type} [SponsorWallet W]

open SponsorWallet

def verifySponsoredRedeem (wallet : W) (rawTransaction : List UInt8) (lock : VerifiedBitcoinLock)
    (branch : HtlcSpendBranch) : Except BitcoinWalletError VerifiedBitcoinHtlcSpend := do
  refuseIf (branch ≠ .redeem ∨ rawTransaction = [] ∨
    maxBitcoinTransactionBytes < rawTransaction.length) .invalidEvidence
  lock.htlc.validate
  let transaction ← okOr (deserialize rawTransaction) .invalidEvidence
  refuseIf (serialize transaction ≠ rawTransaction ∨ transaction.version ≠ 2 ∨
    transaction.lockTime ≠ 0 ∨ transaction.input.length < 2 ∨ transaction.output = [])
    .invalidEvidence
  match transaction.input.zipIdx.filter fun input => input.1.previousOutput = lock.outpoint with
  | [(input, index)] =>
    refuseIf (input.sequence ≠ sequenceMax) .invalidEvidence
    refuseIf (∃ other ∈ transaction.input.zipIdx, other.2 ≠ index ∧
      (hasUtxo wallet other.1.previousOutput = false ∨ other.1.witness = [])) .invalidEvidence
    refuseIf (∃ output ∈ transaction.output, isMine wallet output.scriptPubkey = false)
      .invalidEvidence
    refuseIf ((transaction.output.filter fun output => output.value = lock.valueSats).length ≠ 1)
      .invalidEvidence
    let _ ← signedWitness lock.htlc input.witness .redeem
    checkSignedSignature transaction index lock (input.witness.headD [])
      lock.htlc.receiverPublicKey
    let feeSats ← (calculateFee wallet transaction).mapError .wallet
    refuseIf (feeSats = 0) .invalidFee
    return ⟨computeTxid transaction, computeWtxid transaction, feeSats⟩
  | _ => .error .invalidEvidence

def verifySignedBitcoinHtlcSpendWithWallet (wallet : W) (rawTransaction : List UInt8)
    (lock : VerifiedBitcoinLock) (branch : HtlcSpendBranch) :
    Except BitcoinWalletError VerifiedBitcoinHtlcSpend :=
  match verifySignedBitcoinHtlcSpend rawTransaction lock branch with
  | .ok verified => .ok verified
  | .error _ => verifySponsoredRedeem wallet rawTransaction lock branch

def signBitcoinHtlcRedeemWithWalletFeeSponsor (wallet : W) (lock : VerifiedBitcoinLock)
    (destination : List UInt8) (preimage : Bytes 32) (feeRateSatVb maximumFeeSats : UInt64)
    (unspendable : List OutPoint) (signer : SettlementSigner) :
    Except BitcoinWalletError (List UInt8) := do
  lock.htlc.validate
  refuseIf (feeRateSatVb = 0 ∨ maximumFeeSats = 0) .invalidFee
  refuseIf (Sha256.digest preimage.toList ≠ lock.htlc.hashlock) .invalidPreimage
  let publicKey ← okOr (BitcoinLibrary.publicKey signer.compressedPublicKey.toList)
    .invalidSwapKeyReference
  refuseIf (publicKey ≠ lock.htlc.receiverPublicKey) .invalidSwapKeyReference
  let wallet := insertTxout wallet lock.outpoint ⟨lock.valueSats, lock.htlc.scriptPubkey⟩
  let unsigned ← (buildTx wallet destination lock.valueSats feeRateSatVb lock.outpoint
    unspendable).mapError .wallet
  let htlcIndex ← okOr (unsigned.input.findIdx? fun input => input.previousOutput = lock.outpoint)
    .invalidEvidence
  let signed ← (sign wallet unsigned).mapError .wallet
  let sighash ← spendSighash unsigned htlcIndex lock
  let compact ← okOr (signer.signDigest sighash) .signingIncomplete
  let signature ← okOr (signatureFromCompact compact) .signingIncomplete
  let transaction := signed.withWitness htlcIndex
    [serializeDer signature ++ [sighashAll], preimage.toList, [1], lock.htlc.witnessScript]
  let feeSats ← (calculateFee wallet transaction).mapError .wallet
  let required ← requiredFee feeRateSatVb transaction
  refuseIf (feeSats < required ∨ maximumFeeSats < feeSats) .feeLimit
  let raw := serialize transaction
  let _ ← verifySignedBitcoinHtlcSpendWithWallet wallet raw lock .redeem
  return raw

end Spend

end HnsWallet
