import HnsWallet.Hns.Settlement
import HnsWallet.Lib.Chunks

/-! # What the node says -/

namespace HnsWallet

open Lib

structure AccountId where
  bytes : Bytes 16
deriving DecidableEq

structure HnsRuntimeConfig where
  walletId : WalletId
  accountId : AccountId
deriving DecidableEq

structure HnsOutpoint where
  transaction : Bytes 32
  outputIndex : UInt32
deriving DecidableEq

inductive KeyRole where
  | hnsCoin
  | hnsName
  | hnsShakedex
  | hnsAtomicSwap
  | hnsIdentity
  | hnsDappSession
  | bitcoinWallet
  | bitcoinAtomicSwap
  | ethereumWallet
  | ethereumAtomicSwap
  | metadataEncryption
deriving DecidableEq, Repr

structure DerivationReference where
  role : KeyRole
  account : UInt32
  change : UInt32
  index : UInt32
deriving DecidableEq

structure WalletCoin where
  outpoint : HnsOutpoint
  value : BaseUnits
  confirmationCount : UInt32
  confirmedHeight : Option UInt32
  coinbase : Bool
  covenant : List UInt8
  nameLocked : Bool
deriving DecidableEq

structure TrackedHnsCoin where
  coin : WalletCoin
  derivation : DerivationReference
  addressProgram : List UInt8
deriving DecidableEq

def isOrdinaryHnsDerivation (derivation : DerivationReference) : Bool :=
  derivation.role = .hnsCoin

def isOrdinaryHnsSpendCandidate (coin : TrackedHnsCoin) : Bool :=
  isOrdinaryHnsDerivation coin.derivation && !coin.coin.nameLocked && !coin.coin.coinbase

def isWalletNameControlDerivation (derivation : DerivationReference) : Bool :=
  derivation.role = .hnsCoin && derivation.change = 0

structure WalletAddressKey where
  version : UInt8
  hash : List UInt8
deriving DecidableEq

inductive CovenantKind where
  | none
  | claim
  | open
  | bid
  | reveal
  | redeem
  | register
  | update
  | renew
  | transfer
  | finalize
  | revoke
deriving DecidableEq, Repr

structure HnsCovenant where
  kind : CovenantKind
  items : List (List UInt8)
deriving DecidableEq

structure HnsTransactionInput where
  previousOutput : HnsOutpoint
  sequence : UInt32
  witness : List (List UInt8)
deriving DecidableEq

structure HnsTransactionOutput where
  value : UInt64
  address : WalletAddressKey
  covenant : HnsCovenant
deriving DecidableEq

structure HnsTransaction where
  version : UInt32
  inputs : List HnsTransactionInput
  outputs : List HnsTransactionOutput
  locktime : UInt32
deriving DecidableEq

structure HnsConsensusCoin where
  outpoint : HnsOutpoint
  value : UInt64
  height : UInt32
  coinbase : Bool
  address : WalletAddressKey
  covenant : HnsCovenant
deriving DecidableEq

class HnsTransactions where
  decode : List UInt8 → Option HnsTransaction
  transactionHash : HnsTransaction → Option (Bytes 32)
  isNull : HnsOutpoint → Bool
  verifyCovenantLinks : HnsTransaction → List HnsConsensusCoin → Bool

structure ChainTip where
  height : UInt64
  blockHash : Bytes 32
  treeRoot : Bytes 32
  medianTimePast : UInt64
deriving DecidableEq

structure SnapshotBinding where
  tip : ChainTip
  chainEpoch : UInt64
deriving DecidableEq

structure MempoolSnapshotBinding where
  instanceNonce : Bytes 32
  generation : UInt64
deriving DecidableEq

structure TransactionStatus where
  inMempool : Bool
  confirmationCount : UInt32
  conflicted : Bool
deriving DecidableEq

structure TransactionInclusion where
  blockHash : Bytes 32
  height : UInt64
  transactionIndex : Option UInt32
deriving DecidableEq

structure TransactionEvidence where
  binding : SnapshotBinding
  mempool : MempoolSnapshotBinding
  raw : Option (List UInt8)
  status : TransactionStatus
  inclusion : Option TransactionInclusion
deriving DecidableEq

structure SpendingTransactionEvidence where
  transaction : Bytes 32
  inputPosition : UInt32
  blockHash : Bytes 32
  height : UInt64
deriving DecidableEq

structure OutpointSpendEntry where
  outpoint : HnsOutpoint
  spending : Option SpendingTransactionEvidence
deriving DecidableEq

structure OutpointSpendEvidence where
  binding : SnapshotBinding
  entries : List OutpointSpendEntry
deriving DecidableEq

inductive HnsNameAction where
  | transfer
  | finalize
  | update
deriving DecidableEq, Repr

def HnsNameAction.workflowKind : HnsNameAction → WorkflowKind
  | .transfer => .nameTransfer
  | .finalize => .nameFinalize
  | .update => .nameUpdate

inductive NameActionIneligibility where
  | nameNotRegistered
  | nameExpiredAtCandidate
  | lifecycleNotClosed
  | transferAlreadyPending
  | transferNotPending
  | transferNotMature
  | ownerCovenantInvalidForAction
  | renewalCommitmentInvalid
  | ownerSpentInMempool
deriving DecidableEq, Repr

structure NameActionContextEvidence where
  action : HnsNameAction
  nameHash : Bytes 32
  ownerCoin : Option HnsConsensusCoin
  ownerInclusion : TransactionInclusion
  actionEligible : Bool
  ineligibilityReasons : List NameActionIneligibility
  transferHeight : Option UInt64
  finalizeEligibleHeight : Option UInt64
  finalizeMature : Option Bool
  renewalMaturity : Option UInt32
  renewalPeriod : Option UInt32
  renewalBlockHeight : Option UInt64
  renewalBlockHash : Option (Bytes 32)
  mempoolSpender : Option (Bytes 32)
deriving DecidableEq

/-- The answers of the backend at one snapshot.  `finalizeContext` is the validated
context of a finalization of a name (`require_action_context_v2`) with the coin of the
name; `coins` are the coins that the scan found. -/
structure HnsSnapshot where
  binding : SnapshotBinding
  mempool : MempoolSnapshotBinding
  getTransactionEvidence : Bytes 32 → Except HnsWalletError TransactionEvidence
  getOutpointSpendEvidence : List HnsOutpoint → Except HnsWalletError OutpointSpendEvidence
  finalizeContext : Bytes 32 → Except HnsWalletError (NameActionContextEvidence × HnsConsensusCoin)
  coins : List TrackedHnsCoin

def maxOutpointSpendBatch : Nat := 256
def maxHistoryResults : Nat := 10000
def maxWalletCoins : Nat := 10000
def maxTransactionInputs : Nat := 10000

section Reading

variable [HnsTransactions]

def decodeTransactionForId (raw : List UInt8) (expected : Bytes 32) :
    Except HnsWalletError HnsTransaction := do
  let transaction ← okOr (HnsTransactions.decode raw) .invalidEvidence
  let actual ← okOr (HnsTransactions.transactionHash transaction) .invalidEvidence
  refuseIf (actual ≠ expected) .invalidEvidence
  return transaction

def validateSpendEvidence (evidence : OutpointSpendEvidence) (binding : SnapshotBinding)
    (expectedOutpoints : List HnsOutpoint) : Except HnsWalletError Unit := do
  refuseIf (evidence.binding ≠ binding ∨ evidence.entries.length ≠ expectedOutpoints.length)
    .staleNodeSnapshot
  (evidence.entries.zip expectedOutpoints).forM fun (entry, expected) =>
    refuseIf (entry.outpoint ≠ expected ∨ ∃ spending ∈ entry.spending,
      binding.tip.height < spending.height ∨ spending.blockHash.isZero) .invalidEvidence

def OutpointSpendEvidence.spentByOther (evidence : OutpointSpendEvidence)
    (expectedSpender : Bytes 32) : Bool :=
  evidence.entries.any fun entry => entry.spending.any fun spending =>
    spending.transaction ≠ expectedSpender

/-- What a transaction spends, the null outpoint of a coinbase aside. -/
def HnsTransaction.spentOutpoints (transaction : HnsTransaction) : List HnsOutpoint :=
  (transaction.inputs.filter fun input =>
    !HnsTransactions.isNull input.previousOutput).map HnsTransactionInput.previousOutput

namespace HnsSnapshot

variable (snapshot : HnsSnapshot)

def competingInBatches (expectedSpender : Bytes 32) :
    List (List HnsOutpoint) → Except HnsWalletError Bool
  | [] => .ok false
  | batch :: batches => do
    let evidence ← snapshot.getOutpointSpendEvidence batch
    validateSpendEvidence evidence snapshot.binding batch
    let competing ← competingInBatches expectedSpender batches
    return evidence.spentByOther expectedSpender || competing

def hasCompetingSpenderInBatches (outpoints : List HnsOutpoint) (expectedSpender : Bytes 32) :
    Except HnsWalletError Bool :=
  snapshot.competingInBatches expectedSpender (chunks maxOutpointSpendBatch outpoints)

def hasCompetingSpender (transactionId : Bytes 32) (transaction : HnsTransaction) :
    Except HnsWalletError Bool :=
  snapshot.hasCompetingSpenderInBatches transaction.spentOutpoints transactionId

def countsConfirmations (status : TransactionStatus) (inclusion : TransactionInclusion) : Prop :=
  inclusion.height ≤ snapshot.binding.tip.height ∧
    status.confirmationCount.toNat =
      snapshot.binding.tip.height.toNat - inclusion.height.toNat + 1

instance (status : TransactionStatus) (inclusion : TransactionInclusion) :
    Decidable (snapshot.countsConfirmations status inclusion) :=
  inferInstanceAs (Decidable (_ ∧ _))

def consensusHeight (height : UInt64) : Except HnsWalletError UInt32 :=
  if height.toNat < UInt32.size then .ok height.toUInt32 else .error .invalidEvidence

def confirmedTransferSpendKind (transferTransaction : HnsTransaction) (transferId : Bytes 32)
    (transferInclusion : TransactionInclusion) :
    Except HnsWalletError (Option CovenantKind) := do
  let transferOutput ← okOr transferTransaction.outputs.head? .invalidEvidence
  refuseIf (transferOutput.covenant.kind ≠ .transfer) .invalidEvidence
  let transferOutpoint : HnsOutpoint := ⟨transferId, 0⟩
  let spend ← snapshot.getOutpointSpendEvidence [transferOutpoint]
  refuseIf (spend.binding ≠ snapshot.binding) .invalidEvidence
  match spend.entries with
  | [entry] =>
    refuseIf (entry.outpoint ≠ transferOutpoint) .invalidEvidence
    match entry.spending with
    | none => return none
    | some spending =>
      let evidence ← snapshot.getTransactionEvidence spending.transaction
      let inclusion ← okOr evidence.inclusion .invalidEvidence
      refuseIf (evidence.binding ≠ snapshot.binding ∨ evidence.mempool ≠ snapshot.mempool ∨
        evidence.status.conflicted ∨ evidence.status.inMempool ∨
        evidence.status.confirmationCount = 0 ∨
        inclusion.blockHash ≠ spending.blockHash ∨ inclusion.height ≠ spending.height ∨
        ¬ snapshot.countsConfirmations evidence.status inclusion) .invalidEvidence
      let raw ← okOr evidence.raw .invalidEvidence
      let transaction ← decodeTransactionForId raw spending.transaction
      let position := spending.inputPosition.toNat
      let input ← okOr transaction.inputs[position]? .invalidEvidence
      let output ← okOr transaction.outputs[position]? .invalidEvidence
      refuseIf (input.previousOutput ≠ transferOutpoint) .invalidEvidence
      let height ← consensusHeight transferInclusion.height
      let transferCoin : HnsConsensusCoin := ⟨transferOutpoint, transferOutput.value, height,
        false, transferOutput.address, transferOutput.covenant⟩
      refuseIf (HnsTransactions.verifyCovenantLinks
        { transaction with inputs := [input], outputs := [output] } [transferCoin] = false)
        .invalidEvidence
      return some output.covenant.kind
  | _ => .error .invalidEvidence

end HnsSnapshot

end Reading

end HnsWallet
