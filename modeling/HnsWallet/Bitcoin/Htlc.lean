import HnsWallet.Lib.Script
import HnsWallet.Market.Protocol
import HnsWallet.Store.Store

/-! # The Bitcoin side of a swap -/

namespace HnsWallet

open Lib

class BitcoinLibrary where
  publicKey : List UInt8 → Option (List UInt8)
  publicKey_compressed {key : Bytes 33} {parsed : List UInt8} :
    publicKey key.toList = some parsed → parsed = key.toList
  p2wsh : List UInt8 → List UInt8

theorem compressed_of_length {key : Bytes 33} {parsed : List UInt8}
    (h : (if key.toList.length = 33 then some key.toList else none) = some parsed) :
    parsed = key.toList := by
  rw [if_pos key.length_eq] at h
  exact (Option.some.inj h).symm

inductive BitcoinWalletError where
  | invalidHtlc
  | invalidAmount
  | invalidEvidence
  | feeLimit
  | transactionTooLarge
  | invalidBroadcastApproval
  | broadcastConflict
  | broadcastIntentNotFound
  | broadcastNotPrepared
  | broadcastApprovalExpired
  | broadcastRetryNotReady
  | broadcastAttemptLimit
  | clockRollbackDetected
  | sequenceOverflow
  | bitcoinTransactionCapacity
  | networkMismatch
  | corruptRuntimeState
  | ambiguousEvidence
  | invalidFee
  | dust
  | missingPreimage
  | invalidPreimage
  | timelockNotReached
  | invalidChainLockContext
  | invalidSwapKeyReference
  | signingIncomplete
  | wallet (error : String)
  | invalidObservedSpendShape
  | invalidObservedSpendOutpoint
  | invalidObservedSpendWitnessShape
  | invalidObservedSpendBranchSelector
  | invalidObservedSpendWitnessScript
  | invalidObservedSpendRefundLocktime
  | invalidObservedSpendSignatureEncoding
  | invalidObservedSpendSignature
  | invalidCheckpoint
  | invalidSwapWatch
  | corruptSwapWatch
  | swapWatchConflict
  | swapWatchCapacity
  | invalidSwapBlockEvidence
  | invalidSwapSpendEvidence (txid : List UInt8) (redeemError refundError : BitcoinWalletError)
  | invalidRecoveryScriptIndex
  | unsupportedBitcoinWalletState
  | corruptBitcoinWalletState
  | bitcoinWalletStateConflict
  | walletAlreadyExists
  | bitcoinWalletPersisterUninitialized
  | kyotoNodeStopped
  | kyoto (error : String)
  | store (error : StoreError)
deriving DecidableEq, Repr

def minHtlcDustSats : UInt64 := 330

def maxHtlcScriptBytes : Nat := 256

def bitcoinTimestampLocktimeThreshold : UInt64 := 500000000

def shakescapeBitcoinHtlcCommitmentDomain : List UInt8 :=
  ascii "hns-wallet-rs/shakescape-bitcoin-htlc/v1"

structure BitcoinHtlc where
  hashlock : Bytes 32
  receiverPublicKey : List UInt8
  refundPublicKey : List UInt8
  refundLocktime : UInt32
  witnessScript : List UInt8
  scriptPubkey : List UInt8
deriving DecidableEq

structure ShakescapeBitcoinHtlcBinding where
  htlc : BitcoinHtlc
  commitment : ObjectHash
  valueSats : UInt64
deriving DecidableEq

/-- `push_slice` and `push_key`; hashes and keys are shorter than 76 bytes. -/
def pushSlice (data : List UInt8) : List UInt8 := .ofNat data.length :: data

/-- `push_int`: the numbers up to 16 have operations of their own. -/
def pushInt (value : UInt32) : List UInt8 :=
  if 0 < value ∧ value ≤ 16 then [0x50 + value.toUInt8]
  else pushSlice (Script.numBytes value.toNat)

/-- The witness script: the receiver with the preimage, or the refunder after the lock
time. -/
def htlcScript (hashlock : Bytes 32) (receiverPublicKey refundPublicKey : List UInt8)
    (refundLocktime : UInt32) : List UInt8 :=
  [0x63, 0xa8] ++ pushSlice hashlock.toList ++ [0x88] ++ pushSlice receiverPublicKey ++
    [0xac, 0x67] ++ pushInt refundLocktime ++ [0xb1, 0x75] ++ pushSlice refundPublicKey ++
    [0xac, 0x68]

section Htlc

variable [BitcoinLibrary]

def BitcoinHtlc.new (hashlock : Bytes 32) (receiverPublicKey refundPublicKey : List UInt8)
    (refundLocktime : UInt32) : Except BitcoinWalletError BitcoinHtlc := do
  refuseIf (hashlock.isZero ∨ refundLocktime = 0) .invalidHtlc
  let witnessScript := htlcScript hashlock receiverPublicKey refundPublicKey refundLocktime
  refuseIf (maxHtlcScriptBytes < witnessScript.length) .invalidHtlc
  return {
    hashlock
    receiverPublicKey
    refundPublicKey
    refundLocktime
    witnessScript
    scriptPubkey := BitcoinLibrary.p2wsh witnessScript }

/-- The lock is the one its own keys, hash and lock time give. -/
def BitcoinHtlc.validate (htlc : BitcoinHtlc) : Except BitcoinWalletError Unit := do
  let receiver ← okOr (BitcoinLibrary.publicKey htlc.receiverPublicKey) .invalidHtlc
  let refund ← okOr (BitcoinLibrary.publicKey htlc.refundPublicKey) .invalidHtlc
  let expected ← BitcoinHtlc.new htlc.hashlock receiver refund htlc.refundLocktime
  refuseIf (expected ≠ htlc) .invalidHtlc

variable [Sha256] [MarketplaceProtocol]

def shakescapeBitcoinHtlcCommitment (network : NetworkBinding) (htlc : BitcoinHtlc)
    (valueSats : UInt64) : Except BitcoinWalletError ObjectHash := do
  (MarketplaceProtocol.validateForPair network).mapError fun _ => .invalidHtlc
  htlc.validate
  refuseIf (valueSats < minHtlcDustSats) .invalidAmount
  let network ← (MarketplaceProtocol.encodeNetwork network).mapError fun _ => .invalidHtlc
  refuseIf (UInt16.size ≤ htlc.witnessScript.length) .invalidHtlc
  return ⟨Sha256.digest (shakescapeBitcoinHtlcCommitmentDomain ++ network ++
    leBytes 8 valueSats.toNat ++ leBytes 2 htlc.witnessScript.length ++ htlc.witnessScript)⟩

def buildShakescapeBitcoinHtlc (hello : SwapSessionHello) (side : SwapAssetSide) :
    Except BitcoinWalletError ShakescapeBitcoinHtlcBinding := do
  let (asset, amount, deadline, receiverBytes, refundBytes) := match side with
    | .offered => (hello.offeredAsset, hello.offeredAmount, hello.offeredRefundDeadline.value,
        hello.takerSettlementPublicKey, hello.makerSettlementPublicKey)
    | .received => (hello.receivedAsset, hello.receivedAmount, hello.receivedRefundDeadline.value,
        hello.makerSettlementPublicKey, hello.takerSettlementPublicKey)
  refuseIf (asset ≠ .btc) .invalidHtlc
  let valueSats ← okOr (toU64 amount.val) .invalidAmount
  let refundLocktime ← okOr (toU32 deadline.toNat) .invalidHtlc
  refuseIf (deadline < bitcoinTimestampLocktimeThreshold) .invalidHtlc
  let receiver ← okOr (BitcoinLibrary.publicKey receiverBytes.toList) .invalidHtlc
  let refund ← okOr (BitcoinLibrary.publicKey refundBytes.toList) .invalidHtlc
  let htlc ← BitcoinHtlc.new hello.hashlock receiver refund refundLocktime
  let commitment ← shakescapeBitcoinHtlcCommitment hello.header.network htlc valueSats
  return ⟨htlc, commitment, valueSats⟩

omit [Sha256] [MarketplaceProtocol] in
theorem BitcoinHtlc.new_keys {hashlock : Bytes 32}
    {receiver refund : List UInt8} {refundLocktime : UInt32} {htlc : BitcoinHtlc}
    (h : BitcoinHtlc.new hashlock receiver refund refundLocktime = .ok htlc) :
    htlc.receiverPublicKey = receiver ∧ htlc.hashlock = hashlock := by
  obtain ⟨_, -, h⟩ := ok_bind_iff.1 h
  obtain ⟨_, -, h⟩ := ok_bind_iff.1 h
  cases h
  exact ⟨rfl, rfl⟩

theorem buildShakescapeBitcoinHtlc_redeem {hello : SwapSessionHello} {side : SwapAssetSide}
    {binding : ShakescapeBitcoinHtlcBinding}
    (h : buildShakescapeBitcoinHtlc hello side = .ok binding) :
    binding.htlc.receiverPublicKey = (hello.lockKeys side).1.toList ∧
      binding.htlc.hashlock = hello.hashlock := by
  unfold buildShakescapeBitcoinHtlc at h
  cases side <;>
  · simp only [ok_iff] at h
    obtain ⟨_, -, _, -, _, -, _, -, receiver, hreceiver, refund, -, htlc, hnew, _, -, hret⟩ := h
    cases hret
    obtain ⟨hkey, hhash⟩ := BitcoinHtlc.new_keys hnew
    exact ⟨hkey.trans (BitcoinLibrary.publicKey_compressed hreceiver), hhash⟩

end Htlc

end HnsWallet
