import HnsWallet.Market.Funding
import HnsWallet.Store.Listing

/-! # Bitcoin broadcasts

A signed Bitcoin transaction is written to the store, under the approval it was signed for, before
any peer sees it (`hns-wallet-bitcoin-kyoto/src/runtime.rs`). -/

namespace HnsWallet

open Lib

structure OutPoint where
  txid : Bytes 32
  vout : UInt32
deriving DecidableEq

/-- What the broadcast path reads of a decoded transaction. -/
structure BitcoinTransaction where
  txid : Bytes 32
  wtxid : Bytes 32
  inputs : List OutPoint
  outputCount : Nat
deriving DecidableEq

inductive HtlcSpendBranch where
  | redeem
  | refund
deriving DecidableEq, Repr

def BitcoinHtlc.expectedKey (htlc : BitcoinHtlc) : HtlcSpendBranch → List UInt8
  | .redeem => htlc.receiverPublicKey
  | .refund => htlc.refundPublicKey

structure VerifiedBitcoinHtlcSpend where
  txid : Bytes 32
  wtxid : Bytes 32
  feeSats : UInt64
deriving DecidableEq

structure VerifiedBitcoinHtlcChainSpend where
  txid : Bytes 32
  wtxid : Bytes 32
  branch : HtlcSpendBranch
  revealedPreimage : Option (Bytes 32)
deriving DecidableEq

/-- The Bitcoin wallet of the runtime: its codec, its network and its check of a signed
spend of a lock. -/
class BitcoinWallet where
  deserialize : List UInt8 → Option BitcoinTransaction
  serialize : BitcoinTransaction → List UInt8
  networkMagic : Bytes 4
  verifySignedBitcoinHtlcSpend : List UInt8 → VerifiedBitcoinLock → HtlcSpendBranch →
    Except BitcoinWalletError VerifiedBitcoinHtlcSpend

inductive BitcoinBroadcastPhase where
  | prepared
  | submissionStarted
  | submitted
deriving DecidableEq, Repr

structure BitcoinBroadcastIntent where
  network : Bytes 4
  approvalCommitment : Bytes 32
  feeSats : UInt64
  maximumFeeSats : UInt64
  preparedAtUnix : UInt64
  expiresAtUnix : UInt64
  phase : BitcoinBroadcastPhase
  attemptCount : UInt16
  lastSubmissionStartedAtUnix : Option UInt64
  lastSubmittedAtUnix : Option UInt64
deriving DecidableEq

inductive BitcoinChainObservation where
  | absentFromCanonicalWalletView
  | unconfirmed (firstSeenAtUnix lastSeenAtUnix : Option UInt64)
  | confirmed (height : UInt32) (blockHash : Bytes 32) (confirmationTimeUnix : UInt64)
      (transitivelyConfirmedBy : Option (Bytes 32))
deriving DecidableEq

structure BitcoinTransactionRecord where
  schemaVersion : UInt16
  txid : Bytes 32
  wtxid : Bytes 32
  inputCount : UInt32
  outputCount : UInt32
  inputOutpointCommitment : Bytes 32
  sentSats : UInt64
  receivedSats : UInt64
  feeSats : Option UInt64
  observation : BitcoinChainObservation
  rawTransaction : Option (List UInt8)
  broadcast : Option BitcoinBroadcastIntent
  firstObservedAtUnix : Option UInt64
  lastChangedAtUnix : UInt64
deriving DecidableEq

structure BitcoinBroadcastApprovalBinding where
  network : Bytes 4
  txid : Bytes 32
  wtxid : Bytes 32
  feeSats : UInt64
  maximumFeeSats : UInt64
  expiresAtUnix : UInt64
  commitment : Bytes 32
deriving DecidableEq

def bitcoinTransactionRecordVersion : UInt16 := 1

def maxTrackedBitcoinTransactions : Nat := 4096

def maxBroadcastAttempts : UInt16 := 16

def maxBroadcastApprovalLifetimeSeconds : UInt64 := 3600

def maxPersistedBroadcastTransactionBytes : Nat := 200000

def inputOutpointsDomain : List UInt8 :=
  ascii "hns-wallet-bitcoin-input-outpoints/v1"

def broadcastApprovalDomain : List UInt8 :=
  ascii "hns-wallet-bitcoin-broadcast-approval/v1"

section Broadcast

variable [Sha256] [BitcoinWallet]

open BitcoinWallet (deserialize serialize)

def inputOutpointCommitment (transaction : BitcoinTransaction) : Bytes 32 :=
  Sha256.digest (inputOutpointsDomain ++ beBytes 8 transaction.inputs.length ++
    transaction.inputs.flatMap fun input => input.txid.toList ++ beBytes 4 input.vout.toNat)

def bitcoinBroadcastApprovalCommitment (network : Bytes 4) (txid wtxid : Bytes 32)
    (feeSats maximumFeeSats expiresAtUnix : UInt64) : Bytes 32 :=
  Sha256.digest (broadcastApprovalDomain ++ network.toList ++ txid.toList ++ wtxid.toList ++
    beBytes 8 feeSats.toNat ++ beBytes 8 maximumFeeSats.toNat ++ beBytes 8 expiresAtUnix.toNat)

namespace BitcoinBroadcastIntent

variable (intent : BitcoinBroadcastIntent)

def timestampsValid : Bool :=
  match intent.phase with
  | .prepared => intent.attemptCount == 0 && intent.lastSubmissionStartedAtUnix.isNone &&
      intent.lastSubmittedAtUnix.isNone
  | .submissionStarted => intent.attemptCount != 0 && intent.lastSubmissionStartedAtUnix.isSome &&
      intent.lastSubmittedAtUnix.all fun submitted =>
        intent.lastSubmissionStartedAtUnix.any (submitted ≤ ·)
  | .submitted => intent.attemptCount != 0 && intent.lastSubmissionStartedAtUnix.isSome &&
      intent.lastSubmissionStartedAtUnix == intent.lastSubmittedAtUnix

def durableTimesValid : Bool :=
  [intent.lastSubmissionStartedAtUnix, intent.lastSubmittedAtUnix].reduceOption.all
    (intent.preparedAtUnix ≤ ·)

end BitcoinBroadcastIntent

def lifetimeInvalid (nowUnix expiresAtUnix : UInt64) : Bool :=
  (checkedSub expiresAtUnix nowUnix).all (maxBroadcastApprovalLifetimeSeconds < ·)

namespace BitcoinTransactionRecord

variable (record : BitcoinTransactionRecord)

def validateTransaction (raw : List UInt8) : Except BitcoinWalletError Unit := do
  refuseIf (raw = [] ∨ maxPersistedBroadcastTransactionBytes < raw.length) .transactionTooLarge
  let transaction ← okOr (deserialize raw) .corruptRuntimeState
  refuseIf (transaction.txid ≠ record.txid ∨ transaction.wtxid ≠ record.wtxid ∨
    transaction.inputs.length ≠ record.inputCount.toNat ∨
    transaction.outputCount ≠ record.outputCount.toNat ∨
    HnsWallet.inputOutpointCommitment transaction ≠ record.inputOutpointCommitment ∨
    serialize transaction ≠ raw) .corruptRuntimeState

def validateIntent (intent : BitcoinBroadcastIntent) : Except BitcoinWalletError Unit := do
  refuseIf (intent.approvalCommitment.isZero ∨ intent.feeSats = 0 ∨
    intent.maximumFeeSats < intent.feeSats ∨
    intent.expiresAtUnix ≤ intent.preparedAtUnix ∨
    lifetimeInvalid intent.preparedAtUnix intent.expiresAtUnix ∨
    maxBroadcastAttempts < intent.attemptCount ∨
    intent.timestampsValid = false ∨ intent.durableTimesValid = false) .corruptRuntimeState
  refuseIf (bitcoinBroadcastApprovalCommitment intent.network record.txid record.wtxid
      intent.feeSats intent.maximumFeeSats intent.expiresAtUnix ≠ intent.approvalCommitment ∨
    record.feeSats ≠ some intent.feeSats) .corruptRuntimeState

def validate : Except BitcoinWalletError Unit := do
  refuseIf (record.schemaVersion ≠ bitcoinTransactionRecordVersion ∨ record.txid.isZero ∨
    record.wtxid.isZero ∨ record.broadcast.isSome ≠ record.rawTransaction.isSome)
    .corruptRuntimeState
  record.rawTransaction.forM record.validateTransaction
  record.broadcast.forM record.validateIntent

end BitcoinTransactionRecord

def deriveBitcoinHtlcSpendBroadcastApproval (rawTransaction : List UInt8)
    (lock : VerifiedBitcoinLock) (branch : HtlcSpendBranch)
    (maximumFeeSats expiresAtUnix : UInt64) :
    Except BitcoinWalletError BitcoinBroadcastApprovalBinding := do
  refuseIf (maxPersistedBroadcastTransactionBytes < rawTransaction.length) .transactionTooLarge
  refuseIf (maximumFeeSats = 0 ∨ expiresAtUnix = 0) .invalidBroadcastApproval
  let verified ← BitcoinWallet.verifySignedBitcoinHtlcSpend rawTransaction lock branch
  refuseIf (maximumFeeSats < verified.feeSats) .feeLimit
  return {
    network := BitcoinWallet.networkMagic
    txid := verified.txid
    wtxid := verified.wtxid
    feeSats := verified.feeSats
    maximumFeeSats
    expiresAtUnix
    commitment := bitcoinBroadcastApprovalCommitment BitcoinWallet.networkMagic verified.txid
      verified.wtxid verified.feeSats maximumFeeSats expiresAtUnix }

def collectUnobservedApprovedBroadcastInputs (network : Bytes 4) (spent : List OutPoint) :
    List (StoredEntity BitcoinTransactionRecord) → Except BitcoinWalletError (List OutPoint)
  | [] => .ok spent
  | stored :: records => do
    let record := stored.value
    record.validate
    match record.broadcast with
    | none => collectUnobservedApprovedBroadcastInputs network spent records
    | some intent =>
      refuseIf (intent.network ≠ network) .networkMismatch
      if record.observation ≠ .absentFromCanonicalWalletView then
        collectUnobservedApprovedBroadcastInputs network spent records
      else
        let raw ← okOr record.rawTransaction .corruptRuntimeState
        let transaction ← okOr (deserialize raw) .corruptRuntimeState
        refuseIf ((∃ input ∈ transaction.inputs, input ∈ spent) ∨ ¬ transaction.inputs.Nodup)
          .broadcastConflict
        collectUnobservedApprovedBroadcastInputs network (transaction.inputs ++ spent) records

def newTransactionRecord (transaction : BitcoinTransaction)
    (approval : BitcoinBroadcastApprovalBinding) (nowUnix : UInt64) : BitcoinTransactionRecord where
  schemaVersion := bitcoinTransactionRecordVersion
  txid := approval.txid
  wtxid := approval.wtxid
  inputCount := (toU32 transaction.inputs.length).getD (.ofNat (UInt32.size - 1))
  outputCount := (toU32 transaction.outputCount).getD (.ofNat (UInt32.size - 1))
  inputOutpointCommitment := inputOutpointCommitment transaction
  sentSats := 0
  receivedSats := 0
  feeSats := some approval.feeSats
  observation := .absentFromCanonicalWalletView
  rawTransaction := none
  broadcast := none
  firstObservedAtUnix := none
  lastChangedAtUnix := nowUnix

def newBroadcastIntent (approval : BitcoinBroadcastApprovalBinding) (nowUnix : UInt64) :
    BitcoinBroadcastIntent where
  network := approval.network
  approvalCommitment := approval.commitment
  feeSats := approval.feeSats
  maximumFeeSats := approval.maximumFeeSats
  preparedAtUnix := nowUnix
  expiresAtUnix := approval.expiresAtUnix
  phase := .prepared
  attemptCount := 0
  lastSubmissionStartedAtUnix := none
  lastSubmittedAtUnix := none

variable {V : Type} [Encoded V] [Serde V BitcoinTransactionRecord]

def sameTerms (record : BitcoinTransactionRecord) (intent : BitcoinBroadcastIntent)
    (rawTransaction : List UInt8) (approval : BitcoinBroadcastApprovalBinding) : Prop :=
  record.rawTransaction = some rawTransaction ∧ intent.network = approval.network ∧
    intent.approvalCommitment = approval.commitment ∧ intent.feeSats = approval.feeSats ∧
    intent.maximumFeeSats = approval.maximumFeeSats ∧
    intent.expiresAtUnix = approval.expiresAtUnix

instance (record : BitcoinTransactionRecord) (intent : BitcoinBroadcastIntent)
    (rawTransaction : List UInt8) (approval : BitcoinBroadcastApprovalBinding) :
    Decidable (sameTerms record intent rawTransaction approval) :=
  inferInstanceAs (Decidable (_ ∧ _))

def transactionRecord (store : WalletStore V) (transaction : BitcoinTransaction)
    (approval : BitcoinBroadcastApprovalBinding) (nowUnix : UInt64) :
    Option (StoredEntity BitcoinTransactionRecord) →
      Except BitcoinWalletError BitcoinTransactionRecord
  | some stored => .ok stored.value
  | none => do
    let records ← (store.listEntities BitcoinTransactionRecord .bitcoinTransaction
      (maxTrackedBitcoinTransactions + 1)).mapError .store
    refuseIf (maxTrackedBitcoinTransactions ≤ records.length) .bitcoinTransactionCapacity
    let committedInputs ← collectUnobservedApprovedBroadcastInputs approval.network [] records
    refuseIf (∃ input ∈ transaction.inputs, input ∈ committedInputs) .broadcastConflict
    return newTransactionRecord transaction approval nowUnix

/-- The record that an approval adds, if the transaction has none with these terms. -/
def approvedRecord (store : WalletStore V) (rawTransaction : List UInt8)
    (approval : BitcoinBroadcastApprovalBinding) (approvalCommitment : Bytes 32)
    (expectedRevision nowUnix : UInt64) :
    Except BitcoinWalletError (Option BitcoinTransactionRecord) := do
  refuseIf (approvalCommitment.isZero ∨ approval.commitment ≠ approvalCommitment ∨
    approval.expiresAtUnix ≤ nowUnix ∨ lifetimeInvalid nowUnix approval.expiresAtUnix)
    .invalidBroadcastApproval
  let transaction ← okOr (deserialize rawTransaction) .invalidEvidence
  let existing ← (store.loadEntity BitcoinTransactionRecord .bitcoinTransaction
    approval.txid.toList).mapError .store
  refuseIf ((existing.map StoredEntity.revision).getD 0 ≠ expectedRevision) .broadcastConflict
  let record ← transactionRecord store transaction approval nowUnix existing
  record.validate
  refuseIf (record.txid ≠ approval.txid ∨ record.wtxid ≠ approval.wtxid ∨
    ∃ fee ∈ record.feeSats, fee ≠ approval.feeSats) .broadcastConflict
  match record.broadcast with
  | some intent =>
    refuseIf (¬ sameTerms record intent rawTransaction approval) .broadcastConflict
    return none
  | none =>
    refuseIf (record.rawTransaction.isSome) .broadcastConflict
    let prepared : BitcoinTransactionRecord := { record with
      rawTransaction := some rawTransaction
      feeSats := some approval.feeSats
      broadcast := some (newBroadcastIntent approval nowUnix)
      lastChangedAtUnix := nowUnix }
    prepared.validate
    return some prepared

def persistApprovedBitcoinBroadcast (store : WalletStore V) (rawTransaction : List UInt8)
    (approval : BitcoinBroadcastApprovalBinding) (approvalCommitment : Bytes 32)
    (expectedRevision nowUnix : UInt64) : Except BitcoinWalletError (WalletStore V) := do
  match ← approvedRecord store rawTransaction approval approvalCommitment expectedRevision
    nowUnix with
  | none => return store
  | some prepared =>
    let (store, _) ← (store.saveEntity .bitcoinTransaction approval.txid.toList
      expectedRevision prepared nowUnix).mapError .store
    return store

def persistPreparedBitcoinHtlcSpendBroadcast (store : WalletStore V)
    (rawTransaction : List UInt8) (lock : VerifiedBitcoinLock) (branch : HtlcSpendBranch)
    (approvalCommitment : Bytes 32)
    (maximumFeeSats expectedRevision nowUnix expiresAtUnix : UInt64) :
    Except BitcoinWalletError (WalletStore V) := do
  let approval ← deriveBitcoinHtlcSpendBroadcastApproval rawTransaction lock branch maximumFeeSats
    expiresAtUnix
  persistApprovedBitcoinBroadcast store rawTransaction approval approvalCommitment
    expectedRevision nowUnix

variable {store store' : WalletStore V} {rawTransaction : List UInt8} {lock : VerifiedBitcoinLock}
  {branch : HtlcSpendBranch} {approval : BitcoinBroadcastApprovalBinding}
  {approvalCommitment : Bytes 32} {maximumFeeSats expectedRevision nowUnix expiresAtUnix : UInt64}

theorem persistApprovedBitcoinBroadcast_cases
    (h : persistApprovedBitcoinBroadcast store rawTransaction approval approvalCommitment
      expectedRevision nowUnix = .ok store') :
    nowUnix < approval.expiresAtUnix ∧ (store' = store ∨ ∃ record next,
      approvedRecord store rawTransaction approval approvalCommitment expectedRevision nowUnix =
        .ok (some record) ∧
      store.saveEntity .bitcoinTransaction approval.txid.toList expectedRevision record nowUnix =
        .ok (store', next)) := by
  obtain ⟨found, hfound, h⟩ := ok_bind_iff.1 h
  have hlive : nowUnix < approval.expiresAtUnix := by
    simp only [approvedRecord, ok_iff, not_or, UInt64.not_le] at hfound
    obtain ⟨-, ⟨-, -, hlive, -⟩, -⟩ := hfound
    exact hlive
  refine ⟨hlive, ?_⟩
  cases found with
  | none =>
    cases h
    exact .inl rfl
  | some record =>
    simp only [ok_iff] at h
    obtain ⟨⟨written, next⟩, hsave, hret⟩ := h
    cases hret
    exact .inr ⟨record, next, hfound, hsave⟩

theorem deriveBitcoinHtlcSpendBroadcastApproval_expires
    (h : deriveBitcoinHtlcSpendBroadcastApproval rawTransaction lock branch maximumFeeSats
      expiresAtUnix = .ok approval) : approval.expiresAtUnix = expiresAtUnix := by
  unfold deriveBitcoinHtlcSpendBroadcastApproval at h
  simp only [ok_iff] at h
  obtain ⟨-, -, -, -, verified, -, -, -, hret⟩ := h
  cases hret
  rfl

theorem persistPreparedBitcoinHtlcSpendBroadcast_eq_ok
    (h : persistPreparedBitcoinHtlcSpendBroadcast store rawTransaction lock branch
      approvalCommitment maximumFeeSats expectedRevision nowUnix expiresAtUnix = .ok store') :
    nowUnix < expiresAtUnix ∧ store'.workflows = store.workflows := by
  obtain ⟨approval, hderive, hpersist⟩ := ok_bind_iff.1 h
  rw [← deriveBitcoinHtlcSpendBroadcastApproval_expires hderive]
  obtain ⟨hlive, rfl | ⟨_, _, -, hsave⟩⟩ := persistApprovedBitcoinBroadcast_cases hpersist
  · exact ⟨hlive, rfl⟩
  · obtain ⟨-, -, -, -, -, rfl⟩ := WalletStore.saveEntity_eq_ok.1 hsave
    exact ⟨hlive, rfl⟩

end Broadcast

end HnsWallet
