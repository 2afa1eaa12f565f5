import HnsWallet.Bitcoin.Broadcast

/-! # Transactions that fund and spend a lock -/

namespace HnsWallet

open Lib

structure TxIn where
  previousOutput : OutPoint
  scriptSig : List UInt8
  sequence : UInt32
  witness : List (List UInt8)
deriving DecidableEq

structure TxOut where
  value : UInt64
  scriptPubkey : List UInt8
deriving DecidableEq

structure Transaction where
  version : UInt32
  lockTime : UInt32
  input : List TxIn
  output : List TxOut
deriving DecidableEq

structure Block where
  header : List UInt8
  txdata : List Transaction
deriving DecidableEq

inductive BitcoinNetwork where
  | bitcoin
  | testnet
  | testnet4
  | signet
  | regtest
deriving DecidableEq, Repr

def magicBytes (a b c d : UInt8) : Bytes 4 := ⟨[a, b, c, d], rfl⟩

def BitcoinNetwork.magic : BitcoinNetwork → Bytes 4
  | .bitcoin => magicBytes 0xf9 0xbe 0xb4 0xd9
  | .testnet => magicBytes 0x0b 0x11 0x09 0x07
  | .testnet4 => magicBytes 0x1c 0x16 0x3f 0x28
  | .signet => magicBytes 0x0a 0x03 0xcf 0x40
  | .regtest => magicBytes 0xfa 0xbf 0xb5 0xda

structure EcdsaSignature where
  r : Nat
  s : Nat
deriving DecidableEq

def secp256k1Order : Nat := 0xfffffffffffffffffffffffffffffffebaaedce6af48a03bbfd25e8cd0364141

def EcdsaSignature.normalizeS (signature : EcdsaSignature) : EcdsaSignature :=
  if secp256k1Order / 2 < signature.s then { signature with s := secp256k1Order - signature.s }
  else signature

class BlockLibrary where
  deserialize : List UInt8 → Option Transaction
  serialize : Transaction → List UInt8
  computeTxid : Transaction → Bytes 32
  computeWtxid : Transaction → Bytes 32
  blockHash : Block → Bytes 32
  checkMerkleRoot : Block → Bool
  checkWitnessCommitment : Block → Bool
  genesisHash : BitcoinNetwork → Bytes 32
  p2wshSignatureHash : Transaction → Nat → List UInt8 → UInt64 → UInt32 → Option (Bytes 32)
  signatureFromDer : List UInt8 → Option EcdsaSignature
  verifyEcdsa : Bytes 32 → EcdsaSignature → List UInt8 → Bool

def maxBitcoinTransactionBytes : Nat := 400000

def sequenceMax : UInt32 := 0xffffffff

def sequenceEnableLocktimeNoRbf : UInt32 := 0xfffffffe

def standardSighashTypes : List UInt8 := [0x01, 0x02, 0x03, 0x81, 0x82, 0x83]

section Verification

variable [BitcoinLibrary] [BlockLibrary]

open BlockLibrary

def paysHtlc (htlc : BitcoinHtlc) (expectedValueSats : UInt64) (output : TxOut) : Bool :=
  output.value = expectedValueSats ∧ output.scriptPubkey = htlc.scriptPubkey

def verifyHtlcFunding (rawTransaction : List UInt8) (htlc : BitcoinHtlc)
    (expectedValueSats : UInt64) (confirmationCount minimumConfirmations : UInt32) :
    Except BitcoinWalletError VerifiedBitcoinLock := do
  refuseIf (rawTransaction = [] ∨ maxBitcoinTransactionBytes < rawTransaction.length)
    .transactionTooLarge
  refuseIf (expectedValueSats < minHtlcDustSats ∨ confirmationCount < minimumConfirmations)
    .invalidEvidence
  htlc.validate
  let transaction ← okOr (deserialize rawTransaction) .invalidEvidence
  match transaction.output.zipIdx.filter fun output => paysHtlc htlc expectedValueSats output.1 with
  | [] => .error .invalidEvidence
  | [(_, index)] =>
    let outputIndex ← okOr (toU32 index) .invalidEvidence
    return ⟨computeTxid transaction, outputIndex, expectedValueSats, confirmationCount, htlc⟩
  | _ => .error .ambiguousEvidence

variable [Sha256]

def VerifiedBitcoinLock.outpoint (lock : VerifiedBitcoinLock) : OutPoint :=
  ⟨lock.fundingTxid, lock.outputIndex⟩

def exactBytes (n : Nat) (bytes : List UInt8) : Option (Bytes n) :=
  if h : bytes.length = n then some ⟨bytes, h⟩ else none

def redeemWitness (htlc : BitcoinHtlc) (witness : List (List UInt8)) :
    Except BitcoinWalletError (List UInt8 × Bytes 32) :=
  match witness with
  | [signature, secret, selector, script] => do
    refuseIf (selector ≠ [1]) .invalidObservedSpendBranchSelector
    refuseIf (script ≠ htlc.witnessScript) .invalidObservedSpendWitnessScript
    let preimage ← okOr (exactBytes 32 secret) .invalidPreimage
    refuseIf (Sha256.digest preimage.toList ≠ htlc.hashlock) .invalidPreimage
    return (signature, preimage)
  | _ => .error .invalidObservedSpendWitnessShape

def refundWitness (htlc : BitcoinHtlc) (witness : List (List UInt8)) :
    Except BitcoinWalletError (List UInt8) :=
  match witness with
  | [signature, selector, script] => do
    refuseIf (selector ≠ []) .invalidObservedSpendBranchSelector
    refuseIf (script ≠ htlc.witnessScript) .invalidObservedSpendWitnessScript
    return signature
  | _ => .error .invalidObservedSpendWitnessShape

def spendWitness (transaction : Transaction) (input : TxIn) (htlc : BitcoinHtlc) :
    HtlcSpendBranch →
      Except BitcoinWalletError (List UInt8 × List UInt8 × Option (Bytes 32))
  | .redeem => do
    let (signature, preimage) ← redeemWitness htlc input.witness
    return (signature, htlc.receiverPublicKey, some preimage)
  | .refund => do
    refuseIf (transaction.lockTime < htlc.refundLocktime ∨
      transaction.lockTime.toNat < bitcoinTimestampLocktimeThreshold.toNat ∨
      input.sequence = sequenceMax) .invalidObservedSpendRefundLocktime
    let signature ← refundWitness htlc input.witness
    return (signature, htlc.refundPublicKey, none)

def checkSpendSignature (transaction : Transaction) (index : Nat) (lock : VerifiedBitcoinLock)
    (signatureBytes publicKey : List UInt8) : Except BitcoinWalletError Unit := do
  refuseIf (signatureBytes.length ≤ 1) .invalidObservedSpendSignatureEncoding
  let hashType := signatureBytes.getLastD 0
  refuseIf (hashType ∉ standardSighashTypes) .invalidObservedSpendSignatureEncoding
  let signature ← okOr (signatureFromDer signatureBytes.dropLast)
    .invalidObservedSpendSignatureEncoding
  refuseIf (signature.normalizeS ≠ signature) .invalidObservedSpendSignatureEncoding
  let key ← okOr (BitcoinLibrary.publicKey publicKey) .invalidObservedSpendSignatureEncoding
  let sighash ← okOr (p2wshSignatureHash transaction index lock.htlc.witnessScript lock.valueSats
    hashType.toUInt32) .invalidObservedSpendSignatureEncoding
  refuseIf (verifyEcdsa sighash signature key = false) .invalidObservedSpendSignature

def verifyObservedBitcoinHtlcSpend (rawTransaction : List UInt8) (lock : VerifiedBitcoinLock)
    (branch : HtlcSpendBranch) : Except BitcoinWalletError VerifiedBitcoinHtlcChainSpend := do
  refuseIf (rawTransaction = [] ∨ maxBitcoinTransactionBytes < rawTransaction.length)
    .transactionTooLarge
  lock.htlc.validate
  let transaction ← okOr (deserialize rawTransaction) .invalidObservedSpendShape
  refuseIf (serialize transaction ≠ rawTransaction ∨ transaction.input = [] ∨
    transaction.output = []) .invalidObservedSpendShape
  match transaction.input.zipIdx.filter fun input => input.1.previousOutput = lock.outpoint with
  | [(input, index)] =>
    let (signature, publicKey, preimage) ← spendWitness transaction input lock.htlc branch
    checkSpendSignature transaction index lock signature publicKey
    return ⟨computeTxid transaction, computeWtxid transaction, branch, preimage⟩
  | _ => .error .invalidObservedSpendOutpoint

end Verification

end HnsWallet
