import HnsWallet.ChainApi.RecoveryPublication
import HnsWallet.Store.Batches

/-! # From approval to submission -/

namespace HnsWallet

open Lib

/-! ## The descriptor wallet -/

structure LocalOutput where
  isSpent : Bool
deriving DecidableEq

structure WalletTransaction where
  transaction : BitcoinTransaction
  observation : BitcoinChainObservation
deriving DecidableEq

class DescriptorWallet (W : Type) where
  getUtxo : W → OutPoint → Option LocalOutput
  calculateFee : W → BitcoinTransaction → Option UInt64
  transactions : W → List WalletTransaction
  sentAndReceived : W → BitcoinTransaction → UInt64 × UInt64
  planningWallet : W → Except BitcoinWalletError W
  applyUnconfirmedTxs : W → List (BitcoinTransaction × UInt64) → W

class TransactionData where
  transactionData : List UInt8 → Option (List UInt8)

def recoverableFundingMagic : List UInt8 := [0x53, 0x52, 0x46, 0x31]

def recoveryFrameMagic : List UInt8 := [0x53, 0x52]

section Markers

variable [TransactionData]

open TransactionData (transactionData)

def isRecoverableFundingTransaction (raw : List UInt8) : Bool :=
  (transactionData raw).any fun data =>
    data.length = swapRecoveryMarkerBytes ∧ recoverableFundingMagic <+: data

def isRecoveryPublicationTransaction (raw : List UInt8) : Bool :=
  (transactionData raw).any fun data =>
    (data.length = swapRecoveryMarkerBytes ∧ recoverableFundingMagic <+: data) ∨
    (4 < data.length ∧ data.length ≤ 80 ∧ recoveryFrameMagic <+: data ∧
      data.getD 2 0 < data.getD 3 0 ∧ data.getD 3 0 ≠ 0 ∧
      (data.getD 3 0).toNat ≤ maxSwapRecoveryFrames)

end Markers

structure BitcoinBroadcastAuthorizationGuard where
  workflow : WorkflowRevisionAssertion
  authorization : EntityRevisionAssertion
  expiresAtUnix : UInt64
deriving DecidableEq

section Approval

variable [Sha256] [BitcoinWallet] {W : Type} [DescriptorWallet W]

open BitcoinWallet (deserialize serialize)

def checkInputs (wallet : W) (inputs : List OutPoint) : List OutPoint →
    Except BitcoinWalletError Unit
  | [] => .ok ()
  | input :: rest => do
    refuseIf (input ∈ inputs) .invalidEvidence
    let owned ← okOr (DescriptorWallet.getUtxo wallet input) .invalidEvidence
    refuseIf owned.isSpent .invalidEvidence
    checkInputs wallet (input :: inputs) rest

def deriveBitcoinBroadcastApproval (wallet : W) (rawTransaction : List UInt8)
    (maximumFeeSats expiresAtUnix : UInt64) :
    Except BitcoinWalletError BitcoinBroadcastApprovalBinding := do
  refuseIf (rawTransaction = [] ∨ maxPersistedBroadcastTransactionBytes < rawTransaction.length)
    .transactionTooLarge
  refuseIf (maximumFeeSats = 0 ∨ expiresAtUnix = 0) .invalidBroadcastApproval
  let transaction ← okOr (deserialize rawTransaction) .invalidEvidence
  refuseIf (serialize transaction ≠ rawTransaction ∨ transaction.inputs = [] ∨
    transaction.outputCount = 0) .invalidEvidence
  checkInputs wallet [] transaction.inputs
  let feeSats ← okOr (DescriptorWallet.calculateFee wallet transaction) .invalidEvidence
  refuseIf (feeSats = 0 ∨ maximumFeeSats < feeSats) .feeLimit
  return {
    network := BitcoinWallet.networkMagic
    txid := transaction.txid
    wtxid := transaction.wtxid
    feeSats
    maximumFeeSats
    expiresAtUnix
    commitment := bitcoinBroadcastApprovalCommitment BitcoinWallet.networkMagic transaction.txid
      transaction.wtxid feeSats maximumFeeSats expiresAtUnix }

variable {V : Type} [Encoded V] [Serde V BitcoinTransactionRecord]

def persistGuardedApprovedBitcoinBroadcast (store : WalletStore V) (rawTransaction : List UInt8)
    (approval : BitcoinBroadcastApprovalBinding) (approvalCommitment : Bytes 32)
    (expectedRevision nowUnix : UInt64) (guard : BitcoinBroadcastAuthorizationGuard) :
    Except BitcoinWalletError (WalletStore V) := do
  refuseIf (guard.expiresAtUnix ≤ nowUnix) .invalidBroadcastApproval
  match ← approvedRecord store rawTransaction approval approvalCommitment expectedRevision
    nowUnix with
  | none => .error .broadcastConflict
  | some record =>
    let _ ← okOr (checkedAdd expectedRevision 1) .broadcastConflict
    (store.applyEntityBatchWithWorkflowGuardAndConsumedEntity .bitcoinTransaction
      [⟨approval.txid.toList, expectedRevision, record, nowUnix⟩] [] guard.workflow
      .swapFundingAuthorization guard.authorization nowUnix).mapError .store

def persistPreparedBitcoinBroadcast (wallet : W) (store : WalletStore V)
    (rawTransaction : List UInt8) (approvalCommitment : Bytes 32)
    (maximumFeeSats expectedRevision nowUnix expiresAtUnix : UInt64) :
    Except BitcoinWalletError (WalletStore V) := do
  let approval ← deriveBitcoinBroadcastApproval wallet rawTransaction maximumFeeSats expiresAtUnix
  persistApprovedBitcoinBroadcast store rawTransaction approval approvalCommitment
    expectedRevision nowUnix

def persistGuardedPreparedBitcoinBroadcast (wallet : W) (store : WalletStore V)
    (rawTransaction : List UInt8) (approvalCommitment : Bytes 32)
    (maximumFeeSats expectedRevision nowUnix expiresAtUnix : UInt64)
    (guard : BitcoinBroadcastAuthorizationGuard) :
    Except BitcoinWalletError (WalletStore V) := do
  refuseIf (guard.expiresAtUnix ≤ nowUnix) .invalidBroadcastApproval
  let approval ← deriveBitcoinBroadcastApproval wallet rawTransaction maximumFeeSats expiresAtUnix
  persistGuardedApprovedBitcoinBroadcast store rawTransaction approval approvalCommitment
    expectedRevision nowUnix guard

end Approval

structure PreparedBitcoinRecoverableFunding where
  funding : List UInt8
  aggregateFeeSats : UInt64
  publicationTransactions : List (List UInt8)
deriving DecidableEq

section Packages

variable [Sha256] [BitcoinWallet] {W : Type} [DescriptorWallet W]

open BitcoinWallet (deserialize)
open DescriptorWallet (planningWallet applyUnconfirmedTxs)

def PreparedBitcoinRecoverableFunding.members (package : PreparedBitcoinRecoverableFunding) :
    List (List UInt8) :=
  package.publicationTransactions ++ [package.funding]

def packageBindings (maximumFeeSats nowUnix expiry : UInt64) (plan : W) (total : UInt64) :
    List (List UInt8) →
      Except BitcoinWalletError (List BitcoinBroadcastApprovalBinding × UInt64)
  | [] => .ok ([], total)
  | raw :: rest => do
    let approval ← deriveBitcoinBroadcastApproval plan raw maximumFeeSats expiry
    let total ← okOr (checkedAdd total approval.feeSats) .feeLimit
    let transaction ← okOr (deserialize raw) .invalidEvidence
    let (bindings, total) ← packageBindings maximumFeeSats nowUnix expiry
      (applyUnconfirmedTxs plan [(transaction, nowUnix)]) total rest
    return (approval :: bindings, total)

def packageExpiry (expiresAtUnix fundingExpiresAtUnix : UInt64)
    (guard : Option BitcoinBroadcastAuthorizationGuard) : UInt64 :=
  match guard with
  | none => min expiresAtUnix fundingExpiresAtUnix
  | some guard => min (min expiresAtUnix fundingExpiresAtUnix) guard.expiresAtUnix

variable {V : Type} [Encoded V] [Serde V BitcoinTransactionRecord]

def persistPackageMember (plan : W) (store : WalletStore V) (raw : List UInt8)
    (approval : BitcoinBroadcastApprovalBinding) (maximumFeeSats nowUnix : UInt64)
    (guard : Option BitcoinBroadcastAuthorizationGuard) :
    Except BitcoinWalletError (WalletStore V) := do
  let existing ← (store.loadEntity BitcoinTransactionRecord .bitcoinTransaction
    approval.txid.toList).mapError .store
  let revision := (existing.map StoredEntity.revision).getD 0
  match guard with
  | some guard =>
    persistGuardedPreparedBitcoinBroadcast plan store raw approval.commitment maximumFeeSats
      revision nowUnix approval.expiresAtUnix guard
  | none =>
    persistPreparedBitcoinBroadcast plan store raw approval.commitment maximumFeeSats
      revision nowUnix approval.expiresAtUnix

def persistPackageMembers (maximumFeeSats nowUnix : UInt64)
    (guard : Option BitcoinBroadcastAuthorizationGuard) (plan : W) (store : WalletStore V) :
    List (List UInt8 × BitcoinBroadcastApprovalBinding) →
      WalletStore V × Except BitcoinWalletError Unit
  | [] => (store, .ok ())
  | (raw, approval) :: rest =>
    -- The last member is the funding.
    match persistPackageMember plan store raw approval maximumFeeSats nowUnix
        (if rest = [] then guard else none) with
    | .error error => (store, .error error)
    | .ok written =>
      match deserialize raw with
      | none => (written, .error .invalidEvidence)
      | some transaction => persistPackageMembers maximumFeeSats nowUnix guard
          (applyUnconfirmedTxs plan [(transaction, nowUnix)]) written rest

def checkedPackage (wallet : W) (package : PreparedBitcoinRecoverableFunding)
    (maximumFeeSats nowUnix expiresAtUnix fundingExpiresAtUnix : UInt64)
    (guard : Option BitcoinBroadcastAuthorizationGuard) :
    Except BitcoinWalletError (W × List BitcoinBroadcastApprovalBinding) := do
  refuseIf (maximumFeeSats < package.aggregateFeeSats ∨ expiresAtUnix ≤ nowUnix ∨
    fundingExpiresAtUnix ≤ nowUnix) .invalidBroadcastApproval
  let fundingExpiry := packageExpiry expiresAtUnix fundingExpiresAtUnix guard
  refuseIf (fundingExpiry ≤ nowUnix) .invalidBroadcastApproval
  let plan ← planningWallet wallet
  let (bindings, total) ← packageBindings maximumFeeSats nowUnix fundingExpiry plan 0
    package.members
  refuseIf (total ≠ package.aggregateFeeSats ∨ maximumFeeSats < total) .feeLimit
  let plan ← planningWallet wallet
  return (plan, bindings)

def persistBitcoinRecoverableFundingBefore (wallet : W) (store : WalletStore V)
    (package : PreparedBitcoinRecoverableFunding)
    (maximumFeeSats nowUnix expiresAtUnix fundingExpiresAtUnix : UInt64)
    (guard : Option BitcoinBroadcastAuthorizationGuard) :
    WalletStore V × Except BitcoinWalletError Unit :=
  match checkedPackage wallet package maximumFeeSats nowUnix expiresAtUnix fundingExpiresAtUnix
      guard with
  | .error error => (store, .error error)
  | .ok (plan, bindings) => persistPackageMembers maximumFeeSats nowUnix guard plan store
      (package.members.zip bindings)

end Packages

def minRebroadcastIntervalSeconds : UInt64 := 60

structure BitcoinBroadcastReceipt where
  txid : Bytes 32
  wtxid : Bytes 32
  attemptCount : UInt16
  submittedAtUnix : Option UInt64
deriving DecidableEq

inductive BroadcastStart where
  | alreadyObserved (receipt : BitcoinBroadcastReceipt)
  | submit (transaction : BitcoinTransaction) (record : BitcoinTransactionRecord)
      (startedRevision : UInt64)
deriving DecidableEq

inductive SubmissionDecision where
  | alreadyObserved (receipt : BitcoinBroadcastReceipt)
  | abandon (revision : UInt64) (record : BitcoinTransactionRecord)
  | expired
  | submit (revision : UInt64) (transaction : BitcoinTransaction)
      (record : BitcoinTransactionRecord)

def BitcoinTransactionRecord.abandoned (record : BitcoinTransactionRecord) (nowUnix : UInt64) :
    BitcoinTransactionRecord :=
  { record with broadcast := none, rawTransaction := none, lastChangedAtUnix := nowUnix }

def BitcoinBroadcastIntent.lastAttemptAtUnix (intent : BitcoinBroadcastIntent) : Option UInt64 :=
  match intent.phase with
  | .prepared => none
  | .submissionStarted => intent.lastSubmissionStartedAtUnix
  | .submitted => intent.lastSubmittedAtUnix

def checkRetry (nowUnix lastAttemptAtUnix : UInt64) : Except BitcoinWalletError Unit := do
  refuseIf (nowUnix < lastAttemptAtUnix) .clockRollbackDetected
  let nextAllowed ← okOr (checkedAdd lastAttemptAtUnix minRebroadcastIntervalSeconds)
    .sequenceOverflow
  refuseIf (nowUnix < nextAllowed) .broadcastRetryNotReady

section Submission

variable [Sha256] [BitcoinWallet] [TransactionData]
  {V : Type} [Encoded V] [Serde V BitcoinTransactionRecord]

open BitcoinWallet (deserialize)

def decideSubmission (store : WalletStore V) (network : Bytes 4) (txid : Bytes 32)
    (nowUnix : UInt64) : Except BitcoinWalletError SubmissionDecision := do
  let loaded ← (store.loadEntity BitcoinTransactionRecord .bitcoinTransaction
    txid.toList).mapError .store
  let stored ← okOr loaded .broadcastIntentNotFound
  let record := stored.value
  record.validate
  let raw ← okOr record.rawTransaction .broadcastNotPrepared
  let transaction ← okOr (deserialize raw) .invalidEvidence
  refuseIf (transaction.txid ≠ txid) .broadcastConflict
  let intent ← okOr record.broadcast .broadcastNotPrepared
  refuseIf (intent.network ≠ network) .networkMismatch
  refuseIf (nowUnix < intent.preparedAtUnix) .clockRollbackDetected
  if record.observation ≠ .absentFromCanonicalWalletView then
    return .alreadyObserved ⟨txid, transaction.wtxid, intent.attemptCount,
      intent.lastSubmittedAtUnix⟩
  else if isRecoveryPublicationTransaction raw ∧ intent.expiresAtUnix ≤ nowUnix then
    if intent.attemptCount = 0 then
      return .abandon stored.revision (record.abandoned nowUnix)
    else
      return .expired
  else
    intent.lastAttemptAtUnix.forM (checkRetry nowUnix)
    refuseIf (maxBroadcastAttempts ≤ intent.attemptCount) .broadcastAttemptLimit
    let started : BitcoinBroadcastIntent := { intent with
      attemptCount := intent.attemptCount + 1
      phase := .submissionStarted
      lastSubmissionStartedAtUnix := some nowUnix }
    return .submit stored.revision transaction { record with broadcast := some started }

def beginBroadcastSubmission (store : WalletStore V) (network : Bytes 4) (txid : Bytes 32)
    (nowUnix : UInt64) : WalletStore V × Except BitcoinWalletError BroadcastStart :=
  match decideSubmission store network txid nowUnix with
  | .error error => (store, .error error)
  | .ok (.alreadyObserved receipt) => (store, .ok (.alreadyObserved receipt))
  | .ok .expired => (store, .error .broadcastApprovalExpired)
  | .ok (.abandon revision record) =>
    match store.saveEntity .bitcoinTransaction txid.toList revision record nowUnix with
    | .error error => (store, .error (.store error))
    | .ok (written, _) => (written, .error .broadcastApprovalExpired)
  | .ok (.submit revision transaction record) =>
    match store.saveEntity .bitcoinTransaction txid.toList revision record nowUnix with
    | .error error => (store, .error (.store error))
    | .ok (written, started) => (written, .ok (.submit transaction record started))

def finishBroadcastSubmission (store : WalletStore V) (txid : Bytes 32)
    (startedRevision nowUnix : UInt64) (record : BitcoinTransactionRecord) :
    Except BitcoinWalletError (WalletStore V) := do
  let intent ← okOr record.broadcast .broadcastNotPrepared
  let submitted : BitcoinTransactionRecord := { record with
    broadcast := some { intent with phase := .submitted, lastSubmittedAtUnix := some nowUnix } }
  let (store, _) ← (store.saveEntity .bitcoinTransaction txid.toList startedRevision submitted
    nowUnix).mapError .store
  return store

end Submission

section Records

variable [Sha256] [BitcoinWallet]

def checkRecords (seen : List (Bytes 32)) : List (StoredEntity BitcoinTransactionRecord) →
    Except BitcoinWalletError Unit
  | [] => .ok ()
  | stored :: rest => do
    stored.value.validate
    refuseIf (stored.id ≠ stored.value.txid.toList ∨ stored.value.txid ∈ seen)
      .corruptRuntimeState
    checkRecords (stored.value.txid :: seen) rest

def byTxid (records : List (StoredEntity BitcoinTransactionRecord)) (txid : Bytes 32) :
    Option (StoredEntity BitcoinTransactionRecord) :=
  records.find? fun stored => stored.value.txid = txid

variable {V : Type} [Serde V BitcoinTransactionRecord]

def bitcoinTransactions (store : WalletStore V) :
    Except BitcoinWalletError (List (StoredEntity BitcoinTransactionRecord)) := do
  let records ← (store.listEntities BitcoinTransactionRecord .bitcoinTransaction
    (maxTrackedBitcoinTransactions + 1)).mapError .store
  refuseIf (maxTrackedBitcoinTransactions < records.length) .bitcoinTransactionCapacity
  return records

def unobservedApprovedBroadcastInputs (store : WalletStore V) (network : Bytes 4) :
    Except BitcoinWalletError (List OutPoint) := do
  collectUnobservedApprovedBroadcastInputs network [] (← bitcoinTransactions store)

end Records

section Abandonment

variable [Sha256] [BitcoinWallet] [TransactionData]

open BitcoinWallet (deserialize)

def approvedTransaction (record : BitcoinTransactionRecord) :
    Except BitcoinWalletError (List UInt8 × BitcoinTransaction) := do
  let raw ← okOr record.rawTransaction .corruptRuntimeState
  let transaction ← okOr (deserialize raw) .corruptRuntimeState
  refuseIf (transaction.txid ≠ record.txid) .corruptRuntimeState
  return (raw, transaction)

def expiredFinals (network : Bytes 4) (nowUnix : UInt64) :
    List (StoredEntity BitcoinTransactionRecord) → Except BitcoinWalletError (List (Bytes 32))
  | [] => .ok []
  | stored :: rest =>
    match stored.value.broadcast with
    | none => expiredFinals network nowUnix rest
    | some intent => do
      refuseIf (intent.network ≠ network) .networkMismatch
      if intent.attemptCount ≠ 0 ∨ nowUnix < intent.expiresAtUnix ∨
          stored.value.observation ≠ .absentFromCanonicalWalletView then
        expiredFinals network nowUnix rest
      else
        let (raw, _) ← approvedTransaction stored.value
        let finals ← expiredFinals network nowUnix rest
        return if isRecoverableFundingTransaction raw then stored.value.txid :: finals
          else finals

def neverSubmitted (record : BitcoinTransactionRecord) : Bool :=
  record.observation = .absentFromCanonicalWalletView ∧
    record.broadcast.any fun intent => intent.attemptCount = 0

omit [Sha256] [BitcoinWallet] [TransactionData] in
theorem length_unabandoned_lt {records : List (StoredEntity BitcoinTransactionRecord)}
    {abandon : List (Bytes 32)} {txid : Bytes 32}
    {stored : StoredEntity BitcoinTransactionRecord} (hfound : byTxid records txid = some stored)
    (hnew : txid ∉ abandon) :
    (records.filter fun stored => stored.value.txid ∉ txid :: abandon).length <
      (records.filter fun stored => stored.value.txid ∉ abandon).length := by
  have hmem := List.mem_of_find?_eq_some hfound
  have htxid : stored.value.txid = txid := by simpa using List.find?_some hfound
  have hsplit : (records.filter fun stored => stored.value.txid ∉ txid :: abandon) =
      (records.filter fun stored => stored.value.txid ∉ abandon).filter
        fun stored => stored.value.txid ≠ txid := by
    rw [List.filter_filter]
    refine List.filter_congr fun other _ => ?_
    simp [List.mem_cons, not_or]
  rw [hsplit]
  refine List.length_filter_lt_length_iff_exists.2 ⟨stored, ?_, ?_⟩
  · simpa [htxid] using ⟨hmem, hnew⟩
  · simp [htxid]

def unattemptedAncestors (records : List (StoredEntity BitcoinTransactionRecord))
    (abandon : List (Bytes 32)) : List (Bytes 32) →
      Except BitcoinWalletError (List (Bytes 32))
  | [] => .ok abandon
  | txid :: pending =>
    if txid ∈ abandon then
      unattemptedAncestors records abandon pending
    else match _hfound : byTxid records txid with
      | none => unattemptedAncestors records abandon pending
      | some stored =>
        if neverSubmitted stored.value then
          match approvedTransaction stored.value with
          | .error error => .error error
          | .ok (raw, transaction) =>
            if isRecoveryPublicationTransaction raw then
              unattemptedAncestors records (txid :: abandon) (pending ++
                (transaction.inputs.map OutPoint.txid).filter
                  fun parent => (byTxid records parent).isSome)
            else .error .corruptRuntimeState
        else unattemptedAncestors records abandon pending
termination_by pending => ((records.filter fun stored => stored.value.txid ∉ abandon).length,
  pending.length)
decreasing_by
  · exact Prod.Lex.right _ (Nat.lt_succ_self _)
  · exact Prod.Lex.right _ (Nat.lt_succ_self _)
  · exact Prod.Lex.left _ _ (length_unabandoned_lt ‹_› ‹_›)
  · exact Prod.Lex.right _ (Nat.lt_succ_self _)

variable {V : Type} [Encoded V] [Serde V BitcoinTransactionRecord]

def abandonSave (records : List (StoredEntity BitcoinTransactionRecord)) (nowUnix : UInt64)
    (txid : Bytes 32) : Except BitcoinWalletError (EntityBatchSave BitcoinTransactionRecord) := do
  let stored ← okOr (byTxid records txid) .corruptRuntimeState
  let record := stored.value.abandoned nowUnix
  record.validate
  return ⟨txid.toList, stored.revision, record, nowUnix⟩

def abandonExpiredUnattemptedRecoveryPackages (store : WalletStore V) (network : Bytes 4)
    (nowUnix : UInt64) : Except BitcoinWalletError (WalletStore V × Nat) := do
  let records ← bitcoinTransactions store
  checkRecords [] records
  let finals ← expiredFinals network nowUnix records
  let abandon ← unattemptedAncestors records [] finals
  let saves ← (abandon.insertionSort fun a b => a.toList ≤ b.toList).mapM
    (abandonSave records nowUnix)
  if saves.isEmpty then
    return (store, 0)
  else
    let store ← (store.applyEntityBatch .bitcoinTransaction saves []).mapError .store
    return (store, saves.length)

end Abandonment

def maxReconciliationBatchSaves : Nat := 512

section Reconciliation

variable [Sha256] [BitcoinWallet] {W : Type} [DescriptorWallet W]

open BitcoinWallet (deserialize)

def currentTransactions (seen : List (Bytes 32)) : List WalletTransaction →
    Except BitcoinWalletError Unit
  | [] => .ok ()
  | current :: rest => do
    refuseIf (seen.length = maxTrackedBitcoinTransactions) .bitcoinTransactionCapacity
    refuseIf (current.transaction.txid ∈ seen) .corruptRuntimeState
    currentTransactions (current.transaction.txid :: seen) rest

def approvedRaw (prior : Option (StoredEntity BitcoinTransactionRecord)) :
    Except BitcoinWalletError (Option BitcoinTransaction) :=
  match prior.bind fun stored => stored.value.rawTransaction with
  | none => .ok none
  | some raw => (okOr (deserialize raw) .corruptRuntimeState).map some

def observedRecord (wallet : W) (nowUnix : UInt64) (current : WalletTransaction)
    (prior : Option (StoredEntity BitcoinTransactionRecord)) :
    Except BitcoinWalletError BitcoinTransactionRecord := do
  let (sent, received) := DescriptorWallet.sentAndReceived wallet current.transaction
  let approved ← approvedRaw prior
  let structural := approved.getD current.transaction
  let feeSats := ((prior.bind fun stored => stored.value.broadcast).map
    BitcoinBroadcastIntent.feeSats).or (DescriptorWallet.calculateFee wallet current.transaction)
  let unchanged : Bool := prior.any fun stored =>
    stored.value.observation = current.observation ∧ stored.value.sentSats = sent ∧
      stored.value.receivedSats = received ∧ stored.value.feeSats = feeSats
  let inputCount ← okOr (toU32 structural.inputs.length) .transactionTooLarge
  let outputCount ← okOr (toU32 structural.outputCount) .transactionTooLarge
  let record : BitcoinTransactionRecord := {
    schemaVersion := bitcoinTransactionRecordVersion
    txid := current.transaction.txid
    wtxid := structural.wtxid
    inputCount
    outputCount
    inputOutpointCommitment := inputOutpointCommitment structural
    sentSats := sent
    receivedSats := received
    feeSats
    observation := current.observation
    rawTransaction := prior.bind fun stored => stored.value.rawTransaction
    broadcast := prior.bind fun stored => stored.value.broadcast
    firstObservedAtUnix := (prior.bind fun stored => stored.value.firstObservedAtUnix).or
      (some nowUnix)
    lastChangedAtUnix := if unchanged then
        (prior.map fun stored => stored.value.lastChangedAtUnix).getD nowUnix
      else nowUnix }
  record.validate
  return record

def observedSave (wallet : W) (nowUnix : UInt64)
    (previous : List (StoredEntity BitcoinTransactionRecord)) (current : WalletTransaction) :
    Except BitcoinWalletError (Option (EntityBatchSave BitcoinTransactionRecord)) := do
  let prior := byTxid previous current.transaction.txid
  let record ← observedRecord wallet nowUnix current prior
  return if prior.map StoredEntity.value = some record then none
    else some ⟨current.transaction.txid.toList,
      (prior.map StoredEntity.revision).getD 0, record, nowUnix⟩

def absentSave (nowUnix : UInt64) (stored : StoredEntity BitcoinTransactionRecord) :
    Except BitcoinWalletError (Option (EntityBatchSave BitcoinTransactionRecord)) :=
  if stored.value.observation = .absentFromCanonicalWalletView then .ok none
  else do
    let record : BitcoinTransactionRecord := { stored.value with
      observation := .absentFromCanonicalWalletView
      lastChangedAtUnix := nowUnix }
    record.validate
    return some ⟨stored.id, stored.revision, record, nowUnix⟩

variable {V : Type} [Encoded V] [Serde V BitcoinTransactionRecord]

def transactionSaves (wallet : W) (store : WalletStore V) (nowUnix : UInt64) :
    Except BitcoinWalletError (UInt32 × List (EntityBatchSave BitcoinTransactionRecord)) := do
  let previous ← bitcoinTransactions store
  checkRecords [] previous
  let listed := DescriptorWallet.transactions wallet
  currentTransactions [] listed
  let unknown := listed.filter fun current =>
    (byTxid previous current.transaction.txid).isNone
  refuseIf (maxTrackedBitcoinTransactions < previous.length + unknown.length)
    .bitcoinTransactionCapacity
  let count ← okOr (toU32 listed.length) .bitcoinTransactionCapacity
  let current := listed.insertionSort fun a b =>
    a.transaction.txid.toList ≤ b.transaction.txid.toList
  let observed ← current.mapM (observedSave wallet nowUnix previous)
  let gone := previous.filter fun stored =>
    stored.value.txid ∉ listed.map fun current => current.transaction.txid
  let absent ← gone.mapM (absentSave nowUnix)
  return (count, observed.reduceOption ++ absent.reduceOption)

def applyBatches {T : Type} [Serde V T] (kind : EntityKind) (store : WalletStore V) :
    List (List (EntityBatchSave T)) → WalletStore V × Except BitcoinWalletError Unit
  | [] => (store, .ok ())
  | batch :: rest =>
    match store.applyEntityBatch kind batch [] with
    | .error error => (store, .error (.store error))
    | .ok written => applyBatches kind written rest

def reconcileTransactionRecords (wallet : W) (store : WalletStore V) (nowUnix : UInt64) :
    WalletStore V × Except BitcoinWalletError UInt32 :=
  match transactionSaves wallet store nowUnix with
  | .error error => (store, .error error)
  | .ok (count, saves) =>
    let (written, outcome) := applyBatches .bitcoinTransaction store
      (chunks maxReconciliationBatchSaves saves)
    (written, outcome.map fun _ => count)

end Reconciliation

end HnsWallet
