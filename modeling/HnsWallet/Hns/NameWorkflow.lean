import HnsWallet.Hns.Reservations

/-! # Name operations

The authority verified for a name, the transactions that are built, signed or quoted, and the
answers of the node are given. -/

namespace HnsWallet

open Lib

inductive NameOperationState where
  | prepared
  | authorized
  | requiresRebroadcast
  | broadcast
  | mempool
  | transferLocked
  | finalizeEligible
  | finalized
  | updated
  | transferCancelled
  | reapprovalRequired
  | conflicted
  | expired
  | cancelled
deriving DecidableEq, Repr

namespace NameOperationState

def isObserved : NameOperationState → Bool
  | .authorized | .requiresRebroadcast | .broadcast | .mempool | .transferLocked
  | .finalizeEligible | .finalized | .transferCancelled | .reapprovalRequired => true
  | _ => false

def needsReapproval : NameOperationState → Bool
  | .transferLocked | .finalizeEligible | .finalized | .transferCancelled => true
  | _ => false

def isConfirmed : NameOperationState → Bool
  | .transferLocked | .finalizeEligible | .finalized | .updated | .transferCancelled => true
  | _ => false

def isTerminal : NameOperationState → Bool
  | .conflicted | .expired | .cancelled => true
  | _ => false

end NameOperationState

structure HnsNameSourceEvidence where
  preparationBinding : SnapshotBinding
  preparationMempool : MempoolSnapshotBinding
  currentNameState : List UInt8
  ownerOutpoint : HnsOutpoint
  ownerTransaction : List UInt8
  ownerInclusion : TransactionInclusion
  ownerDerivation : DerivationReference
  actionContext : NameActionContextEvidence
deriving DecidableEq

structure HnsFinalizeTerms where
  transferHeight : UInt64
  finalizeEligibleHeight : UInt64
  renewalMaturity : UInt32
  renewalPeriod : UInt32
  renewalBlockHeight : UInt64
  renewalBlockHash : Bytes 32
deriving DecidableEq

structure HnsNamePlan where
  walletId : WalletId
  accountId : AccountId
  workflowId : WorkflowId
  requestNonce : UInt64
  action : HnsNameAction
  name : List UInt8
  nameHash : Bytes 32
  source : HnsNameSourceEvidence
  recipient : WalletAddressKey
  recipientDisplay : String
  finalize : Option HnsFinalizeTerms
  resourceData : Option (List UInt8)
  fundingInputs : List TrackedHnsCoin
  unsignedTransaction : List UInt8
  feeRate : BaseUnits
  fee : BaseUnits
  maximumFee : BaseUnits
  expiresAtUnix : UInt64
deriving DecidableEq

structure HnsTransactionFeeQuote where
  binding : SnapshotBinding
  mempool : MempoolSnapshotBinding
deriving DecidableEq

structure HnsNameWorkflow where
  plan : HnsNamePlan
  stage : NameOperationState
  transaction : Option (Bytes 32)
  signedTransaction : Option (List UInt8)
  feeQuote : Option HnsTransactionFeeQuote
  lastVerifiedBinding : Option SnapshotBinding
  lastVerifiedInclusion : Option TransactionInclusion
  lastFinalizeEligibleHeight : Option UInt64
deriving DecidableEq

def HnsNamePlan.ofAccount (plan : HnsNamePlan) (config : HnsRuntimeConfig) : Prop :=
  plan.walletId = config.walletId ∧ plan.accountId = config.accountId

instance (plan : HnsNamePlan) (config : HnsRuntimeConfig) : Decidable (plan.ofAccount config) :=
  inferInstanceAs (Decidable (_ ∧ _))

def HnsNamePlan.reservations (plan : HnsNamePlan) : List (HnsOutpoint × HnsInputReservationKind) :=
  (plan.source.ownerOutpoint, .name plan.nameHash) ::
    plan.fundingInputs.map fun input => (input.coin.outpoint, .ordinary)

section Reservations

variable {V : Type} [Encoded V] [Serde V HnsInputReservation] (store : WalletStore V)
  (config : HnsRuntimeConfig)

def nameReservationSaves (workflowId : WorkflowId) (nameHash : Bytes 32) (source : TrackedHnsCoin)
    (fundingInputs : List TrackedHnsCoin) (expiresAtUnix nowUnix : UInt64) :
    Except HnsWalletError (List (EntityBatchSave HnsInputReservation)) := do
  refuseIf (isWalletNameControlDerivation source.derivation = false ∨ fundingInputs = [] ∨
    maxTransactionInputs ≤ fundingInputs.length ∨
    ∃ coin ∈ fundingInputs, isOrdinaryHnsSpendCandidate coin = false) .invalidWorkflow
  let inputs : List (HnsOutpoint × HnsInputReservationKind) :=
    (source.coin.outpoint, .name nameHash) ::
      fundingInputs.map fun coin => (coin.coin.outpoint, .ordinary)
  refuseIf (¬ (inputs.map Prod.fst).Nodup) .invalidWorkflow
  return inputs.map fun (outpoint, kind) =>
    reservationSave config workflowId expiresAtUnix nowUnix outpoint kind

def validateNameReservations (workflowId : WorkflowId) (nameHash : Bytes 32)
    (source : HnsOutpoint) (fundingInputs : List TrackedHnsCoin) (expiresAtUnix : Option UInt64) :
    Except HnsWalletError Unit := do
  let expected : List (HnsOutpoint × HnsInputReservationKind) :=
    (source, .name nameHash) ::
      fundingInputs.map fun input => (input.coin.outpoint, .ordinary)
  refuseIf ((∃ input ∈ fundingInputs, isOrdinaryHnsSpendCandidate input = false) ∨
    ¬ (expected.map Prod.fst).Nodup) .invalidWorkflow
  refuseIf (fundingInputs = []) .invalidWorkflow
  let matching ← workflowReservations store config workflowId
  refuseIf (¬ reservationsMatch expected expiresAtUnix matching) .invalidWorkflow

end Reservations

structure NameObservation where
  workflow : HnsNameWorkflow
  deleteReservations : Bool
  actionAlreadyInMempool : Bool
deriving DecidableEq

namespace NameObservation

def isPending (observation : NameObservation) : Bool :=
  observation.workflow.stage = .requiresRebroadcast ||
    observation.workflow.stage = .reapprovalRequired ||
    (observation.workflow.stage = .finalizeEligible && !observation.actionAlreadyInMempool)

def changed (observation : NameObservation) (previous : HnsNameWorkflow) : Bool :=
  observation.workflow.stage ≠ previous.stage ||
    observation.workflow.lastVerifiedBinding ≠ previous.lastVerifiedBinding ||
    observation.workflow.lastVerifiedInclusion ≠ previous.lastVerifiedInclusion ||
    observation.workflow.lastFinalizeEligibleHeight ≠ previous.lastFinalizeEligibleHeight

end NameObservation

section Observing

variable [HnsTransactions] (snapshot : HnsSnapshot) (workflow : HnsNameWorkflow)

def observeTransferOwner (transaction : HnsTransaction)
    (transactionId : Bytes 32) (inclusion : TransactionInclusion) :
    Except HnsWalletError NameObservation := do
  let (context, ownerCoin) ← snapshot.finalizeContext workflow.plan.nameHash
  let ownerOutput ← okOr transaction.outputs.head? .invalidEvidence
  let ownerHeight ← HnsSnapshot.consensusHeight inclusion.height
  refuseIf (ownerCoin.outpoint ≠ ⟨transactionId, 0⟩ ∨ ownerCoin.value ≠ ownerOutput.value ∨
    ownerCoin.height ≠ ownerHeight ∨ ownerCoin.coinbase ∨
    ownerCoin.address ≠ ownerOutput.address ∨ ownerCoin.covenant ≠ ownerOutput.covenant ∨
    context.ownerInclusion.height ≠ inclusion.height ∨
    context.ownerInclusion.blockHash ≠ inclusion.blockHash) .invalidEvidence
  let matureWithBoundSpender := context.finalizeMature = some true ∧
    context.ineligibilityReasons = [.ownerSpentInMempool]
  let stage := if context.actionEligible ∨ matureWithBoundSpender then
    NameOperationState.finalizeEligible else .transferLocked
  return {
    workflow := { workflow with
      stage
      lastFinalizeEligibleHeight := context.finalizeEligibleHeight }
    deleteReservations := false
    actionAlreadyInMempool := context.mempoolSpender.isSome }

def observeConfirmed (transaction : HnsTransaction)
    (transactionId : Bytes 32) (inclusion : TransactionInclusion) :
    Except HnsWalletError NameObservation := do
  let verified := { workflow with
    lastVerifiedBinding := some snapshot.binding
    lastVerifiedInclusion := some inclusion }
  match workflow.plan.action with
  | .finalize => return ⟨{ verified with stage := .finalized }, false, false⟩
  | .update => return ⟨{ verified with stage := .updated }, false, false⟩
  | .transfer =>
    match ← snapshot.confirmedTransferSpendKind transaction transactionId inclusion with
    | some .finalize => return ⟨{ verified with stage := .finalized }, false, false⟩
    | some .update | some .renew | some .revoke =>
      return ⟨{ verified with stage := .transferCancelled }, false, false⟩
    | some _ => .error .invalidEvidence
    | none => observeTransferOwner snapshot verified transaction transactionId inclusion

def observeSubmitted : Except HnsWalletError NameObservation := do
  let transactionId ← okOr workflow.transaction .invalidWorkflow
  let signed ← okOr workflow.signedTransaction .invalidWorkflow
  let transaction ← decodeTransactionForId signed transactionId
  let evidence ← snapshot.getTransactionEvidence transactionId
  refuseIf (evidence.binding ≠ snapshot.binding ∨ evidence.mempool ≠ snapshot.mempool ∨
    (∃ raw ∈ evidence.raw, raw ≠ signed) ∨
    (evidence.status.conflicted ∧
      (evidence.status.inMempool ∨ 0 < evidence.status.confirmationCount))) .invalidEvidence
  let competing ← snapshot.hasCompetingSpender transactionId transaction
  let unplaced := { workflow with
    lastVerifiedBinding := some snapshot.binding
    lastVerifiedInclusion := none }
  if evidence.status.conflicted ∨ competing then
    return ⟨{ unplaced with stage := .conflicted }, true, false⟩
  else if 0 < evidence.status.confirmationCount then
    let inclusion ← okOr evidence.inclusion .invalidEvidence
    refuseIf (¬ snapshot.countsConfirmations evidence.status inclusion ∨
      evidence.status.inMempool) .invalidEvidence
    observeConfirmed snapshot workflow transaction transactionId inclusion
  else if evidence.inclusion.isSome then
    .error .invalidEvidence
  else if evidence.status.inMempool then
    return ⟨{ unplaced with stage := .mempool }, false, false⟩
  else if workflow.stage.needsReapproval then
    return ⟨{ unplaced with stage := .reapprovalRequired }, false, false⟩
  else
    return ⟨{ unplaced with stage := .requiresRebroadcast }, false, false⟩

def reconcileNameWorkflow (nowUnix : UInt64) (workflow : HnsNameWorkflow) :
    Except HnsWalletError NameObservation :=
  if workflow.stage = .prepared then
    if workflow.plan.expiresAtUnix ≤ nowUnix then
      .ok ⟨{ workflow with stage := .expired }, true, false⟩
    else .ok ⟨workflow, false, false⟩
  else if workflow.stage.isObserved then observeSubmitted snapshot workflow
  else .ok ⟨workflow, false, false⟩

end Observing

section Operations

variable {V : Type} [Encoded V] [Serde V HnsInputReservation] [Serde V HnsNameWorkflow]
  [HnsTransactions] (config : HnsRuntimeConfig)
  (stored : StoredWorkflow HnsNameWorkflow) (plan : HnsNamePlan) (workflowId : WorkflowId)
  (snapshot : HnsSnapshot) (nowUnix : UInt64) (store : WalletStore V) (kind : WorkflowKind)

def saveObservedName (observation : NameObservation) (nowUnix : UInt64) (store : WalletStore V) :
    Except HnsWalletError (WalletStore V × Unit) := do
  let deletes ← (if observation.deleteReservations then
    reservationDeletes store config stored.id else .ok [])
  let (store, _) ← (store.saveWorkflowWithEntityBatch stored.id kind stored.revision
    observation.workflow observation.workflow.signedTransaction.isSome nowUnix .inputReservation
    ([] : List (EntityBatchSave HnsInputReservation)) deletes).mapError .store
  return (store, ())

def reconcileListedName (nowUnix : UInt64)
    (stored : StoredWorkflow HnsNameWorkflow) : EStateM HnsWalletError (WalletStore V) Bool := do
  if ¬ stored.state.plan.ofAccount config then
    return false
  else
    lift (refuseIf (stored.state.plan.action.workflowKind ≠ kind ∨
      stored.state.plan.workflowId ≠ stored.id) .invalidWorkflow)
    let observation ← lift (reconcileNameWorkflow snapshot nowUnix stored.state)
    let _ ← (if observation.changed stored.state then
      transact (saveObservedName config stored kind observation nowUnix) else pure ())
    return observation.isPending

def reconcileListedNames (snapshot : HnsSnapshot) (kind : WorkflowKind) (nowUnix : UInt64) :
    List (StoredWorkflow HnsNameWorkflow) →
      EStateM HnsWalletError (WalletStore V) (List WorkflowId)
  | [] => pure []
  | stored :: rest => do
    let pending ← reconcileListedName config snapshot kind nowUnix stored
    let others ← reconcileListedNames snapshot kind nowUnix rest
    return if pending then stored.id :: others else others

def reconcileNameKind :
    EStateM HnsWalletError (WalletStore V) (List WorkflowId) := do
  let workflows ← reading fun store : WalletStore V =>
    (store.listWorkflowsComplete HnsNameWorkflow kind maxHistoryResults).mapError .store
  reconcileListedNames config snapshot kind nowUnix workflows

def reconcileNameWorkflows :
    EStateM HnsWalletError (WalletStore V) (List WorkflowId) := do
  let transfers ← reconcileNameKind config snapshot nowUnix .nameTransfer
  let finalizations ← reconcileNameKind config snapshot nowUnix .nameFinalize
  let updates ← reconcileNameKind config snapshot nowUnix .nameUpdate
  return transfers ++ finalizations ++ updates

/-! ## The authority behind a plan -/

structure HnsRuntimeCache where
  binding : Option SnapshotBinding
  mempoolBinding : Option MempoolSnapshotBinding
deriving DecidableEq

structure VerifiedWalletNameActionV2 where
  binding : SnapshotBinding
  mempool : MempoolSnapshotBinding
  currentState : List UInt8
  ownerOutpoint : HnsOutpoint
  ownerInclusion : TransactionInclusion
  ownerDerivation : DerivationReference
  recipient : Option WalletAddressKey
  context : NameActionContextEvidence
deriving DecidableEq

structure NameAuthorityView where
  cache : HnsRuntimeCache
  verifyWalletNameActionV2 : Except HnsWalletError VerifiedWalletNameActionV2
  encodeHnsAddress : WalletAddressKey → Except HnsWalletError String
  nowUnix : UInt64

inductive AuthorityVerdict where
  | current (binding : SnapshotBinding) (mempool : MempoolSnapshotBinding)
  | changed
deriving DecidableEq

def HnsFinalizeTerms.matches (terms : HnsFinalizeTerms) (context : NameActionContextEvidence) :
    Prop :=
  context.transferHeight = some terms.transferHeight ∧
    context.finalizeEligibleHeight = some terms.finalizeEligibleHeight ∧
    context.renewalMaturity = some terms.renewalMaturity ∧
    context.renewalPeriod = some terms.renewalPeriod ∧
    context.renewalBlockHeight = some terms.renewalBlockHeight ∧
    context.renewalBlockHash = some terms.renewalBlockHash

instance (terms : HnsFinalizeTerms) (context : NameActionContextEvidence) :
    Decidable (terms.matches context) :=
  inferInstanceAs (Decidable (_ ∧ _))

namespace HnsNamePlan

variable (plan : HnsNamePlan) (authority : VerifiedWalletNameActionV2)

def stableSourceMatches : Prop :=
  authority.currentState = plan.source.currentNameState ∧
    authority.ownerOutpoint = plan.source.ownerOutpoint ∧
    plan.source.ownerTransaction = [] ∧
    authority.ownerInclusion = plan.source.ownerInclusion ∧
    authority.ownerDerivation = plan.source.ownerDerivation ∧
    authority.context.ownerCoin = plan.source.actionContext.ownerCoin

instance (plan : HnsNamePlan) (authority : VerifiedWalletNameActionV2) :
    Decidable (plan.stableSourceMatches authority) :=
  inferInstanceAs (Decidable (_ ∧ _))

def actionTermsMatch : Bool :=
  match plan.action with
  | .transfer => plan.finalize.isNone && plan.resourceData.isNone
  | .update => plan.finalize.isNone && plan.resourceData.isSome
  | .finalize => plan.finalize.any fun terms => terms.matches authority.context

def sourceVerdict
    (view : NameAuthorityView) (required : Option (SnapshotBinding × MempoolSnapshotBinding)) :
    Except HnsWalletError AuthorityVerdict := do
  refuseIf (∃ snapshot ∈ required, authority.binding ≠ snapshot.1 ∨
    authority.mempool ≠ snapshot.2) .staleNodeSnapshot
  refuseIf (view.cache.binding ≠ some authority.binding ∨
    view.cache.mempoolBinding ≠ some authority.mempool) .staleNodeSnapshot
  if ¬ plan.stableSourceMatches authority ∨ plan.actionTermsMatch authority = false then
    return .changed
  else
    refuseIf (authority.context.action ≠ plan.action ∨
      authority.context.nameHash ≠ plan.nameHash) .invalidEvidence
    refuseIf (authority.binding.tip.height < plan.source.ownerInclusion.height)
      .staleNodeSnapshot
    return .current authority.binding authority.mempool

def authorityVerdict (view : NameAuthorityView)
    (required : Option (SnapshotBinding × MempoolSnapshotBinding)) :
    Except HnsWalletError AuthorityVerdict := do
  refuseIf ((plan.action ≠ .finalize ∧ plan.finalize.isSome) ∨
    (plan.action = .finalize ∧ plan.finalize = none) ∨
    (plan.action = .update ∧ plan.resourceData = none) ∨
    (plan.action ≠ .update ∧ plan.resourceData.isSome)) .invalidPreparedArtifact
  refuseIf (∃ snapshot ∈ required, view.cache.binding ≠ some snapshot.1 ∨
    view.cache.mempoolBinding ≠ some snapshot.2) .staleNodeSnapshot
  let authority ← view.verifyWalletNameActionV2
  if plan.action = .finalize then
    if authority.recipient ≠ some plan.recipient then
      return .changed
    else
      plan.sourceVerdict authority view required
  else
    refuseIf authority.recipient.isSome .invalidPreparedArtifact
    let display ← view.encodeHnsAddress plan.recipient
    refuseIf (plan.recipientDisplay ≠ display) .invalidPreparedArtifact
    plan.sourceVerdict authority view required

end HnsNamePlan

def markNameOperationReapprovalRequired : Except HnsWalletError (WalletStore V × Unit) := do
  let loaded ← (store.loadWorkflow HnsNameWorkflow plan.workflowId).mapError .store
  let stored ← okOr loaded .invalidWorkflow
  refuseIf (stored.kind ≠ plan.action.workflowKind ∨ stored.state.plan ≠ plan ∨
    (stored.state.stage ≠ .prepared ∧ stored.state.stage ≠ .authorized ∧
      stored.state.stage ≠ .requiresRebroadcast)) .invalidWorkflow
  let workflow := { stored.state with stage := .reapprovalRequired }
  let (store, _) ← (store.saveWorkflow plan.workflowId plan.action.workflowKind stored.revision
    workflow workflow.signedTransaction.isSome nowUnix).mapError .store
  return (store, ())

def reacquireNamePlanAuthority (view : NameAuthorityView)
    (required : Option (SnapshotBinding × MempoolSnapshotBinding)) :
    EStateM HnsWalletError (WalletStore V) (SnapshotBinding × MempoolSnapshotBinding) := do
  match ← lift (plan.authorityVerdict view required) with
  | .current binding mempool => return (binding, mempool)
  | .changed =>
    transact (markNameOperationReapprovalRequired plan view.nowUnix)
    lift (.error .approvalRequired)

def hnsNameWorkflowDomain : List UInt8 :=
  ascii "hns-wallet-rs/hns-name-workflow/v1"

def nameWorkflowId [Sha256] (action : HnsNameAction) (requestNonce : UInt64) : WorkflowId :=
  let code : UInt8 := match action with
    | .transfer => 0
    | .finalize => 1
    | .update => 2
  .ofDigest (Sha256.digest (hnsNameWorkflowDomain ++ accountEntityPrefix config ++ [code] ++
    beBytes 8 requestNonce.toNat))

structure NameAssembly where
  fundingInputs : List TrackedHnsCoin
  unsignedTransaction : List UInt8
  feeRate : BaseUnits
  fee : BaseUnits
deriving DecidableEq

structure TrackedNameSource where
  evidence : HnsNameSourceEvidence
  coin : TrackedHnsCoin
  outpoint_eq : coin.coin.outpoint = evidence.ownerOutpoint

def newNameWorkflow : HnsNameWorkflow where
  plan := plan
  stage := .prepared
  transaction := none
  signedTransaction := none
  feeQuote := none
  lastVerifiedBinding := none
  lastVerifiedInclusion := none
  lastFinalizeEligibleHeight := none

def HnsNameWorkflow.answers (workflow : HnsNameWorkflow) (request : HnsNamePlan) : Prop :=
  workflow.stage = .prepared ∧ workflow.transaction = none ∧ workflow.signedTransaction = none ∧
    workflow.feeQuote = none ∧
    { workflow.plan with
      fundingInputs := request.fundingInputs
      unsignedTransaction := request.unsignedTransaction
      feeRate := request.feeRate
      fee := request.fee
      expiresAtUnix := request.expiresAtUnix } = request

instance (workflow : HnsNameWorkflow) (request : HnsNamePlan) :
    Decidable (workflow.answers request) :=
  inferInstanceAs (Decidable (_ ∧ _))

def savePreparedName (source : TrackedHnsCoin) (nowUnix : UInt64)
    (store : WalletStore V) : Except HnsWalletError (WalletStore V × Unit) := do
  let reservations ← nameReservationSaves config plan.workflowId plan.nameHash source
    plan.fundingInputs plan.expiresAtUnix nowUnix
  let loaded ← (store.loadWorkflow HnsNameWorkflow plan.workflowId).mapError .store
  refuseIf loaded.isSome .invalidWorkflow
  let (store, _) ← (store.saveWorkflowWithEntityBatch plan.workflowId plan.action.workflowKind 0
    (newNameWorkflow plan) false nowUnix .inputReservation reservations []).mapError .store
  return (store, ())

def persistPreparedNameOperation [Sha256] (request : HnsNamePlan) (source : TrackedNameSource)
    (cachedCoins : List TrackedHnsCoin)
    (buildUnsignedNameOperation : List TrackedHnsCoin → Except HnsWalletError NameAssembly)
    (cache : HnsRuntimeCache) (nowUnix : UInt64) :
    EStateM HnsWalletError (WalletStore V) HnsNamePlan := do
  let workflowId := nameWorkflowId config request.action request.requestNonce
  let request := { request with
    walletId := config.walletId
    accountId := config.accountId
    workflowId
    source := source.evidence }
  let loaded ← reading fun store : WalletStore V =>
    (store.loadWorkflow HnsNameWorkflow workflowId).mapError .store
  match loaded with
  | some stored =>
    lift (refuseIf (stored.kind ≠ request.action.workflowKind ∨ ¬ stored.state.answers request ∨
      stored.state.plan.expiresAtUnix ≤ nowUnix) .invalidWorkflow)
    reading fun store : WalletStore V => validateNameReservations store config workflowId
      request.nameHash stored.state.plan.source.ownerOutpoint stored.state.plan.fundingInputs
      (some stored.state.plan.expiresAtUnix)
    return stored.state.plan
  | none =>
    let coins ← transact fun store : WalletStore V =>
      availableUnreservedCoins store config cachedCoins nowUnix
    let assembly ← lift (buildUnsignedNameOperation coins)
    let expiresAtUnix ← lift (okOr (checkedAdd nowUnix preparedArtifactLifetimeSeconds)
      .arithmetic)
    let plan := { request with
      fundingInputs := assembly.fundingInputs
      unsignedTransaction := assembly.unsignedTransaction
      feeRate := assembly.feeRate
      fee := assembly.fee
      expiresAtUnix }
    lift (refuseIf (cache.binding ≠ some plan.source.preparationBinding ∨
      cache.mempoolBinding ≠ some plan.source.preparationMempool) .staleNodeSnapshot)
    transact (savePreparedName config plan source.coin nowUnix)
    return plan

def isUnsignedPreparation : Prop :=
  stored.kind = plan.action.workflowKind ∧ stored.state.plan = plan ∧
    stored.state.stage = .prepared ∧ stored.state.transaction = none ∧
    stored.state.signedTransaction = none ∧ stored.state.feeQuote = none

instance (stored : StoredWorkflow HnsNameWorkflow) (plan : HnsNamePlan) :
    Decidable (isUnsignedPreparation stored plan) :=
  inferInstanceAs (Decidable (_ ∧ _))

def loadUnsignedPreparation :
    Except HnsWalletError (StoredWorkflow HnsNameWorkflow) := do
  let loaded ← (store.loadWorkflow HnsNameWorkflow plan.workflowId).mapError .store
  let stored ← okOr loaded .invalidWorkflow
  refuseIf (¬ isUnsignedPreparation stored plan) .invalidWorkflow
  validateNameReservations store config plan.workflowId plan.nameHash plan.source.ownerOutpoint
    plan.fundingInputs (some plan.expiresAtUnix)
  return stored

structure NameAuthorization where
  approvedAtUnix : UInt64
  nowUnix : UInt64
  ready : Except HnsWalletError Unit
  first : NameAuthorityView
  approval : Except HnsWalletError Unit
  /-- The signed bytes and their transaction, or why the plan cannot be signed. -/
  sign : Except HnsWalletError (List UInt8 × Bytes 32)
  quote : Except HnsWalletError HnsTransactionFeeQuote
  commitNow : UInt64
  second : NameAuthorityView
  approvalStands : Bool

def saveAuthorizedName (signed : List UInt8) (transactionId : Bytes 32)
    (quote : HnsTransactionFeeQuote) (approvalStands : Bool) (commitNow : UInt64)
    (store : WalletStore V) : Except HnsWalletError (WalletStore V × Unit) := do
  let stored ← loadUnsignedPreparation config plan store
  let activation ← reservationActivationSaves store config plan.workflowId commitNow
  refuseIf (approvalStands = false) .approvalRequired
  let workflow : HnsNameWorkflow := { newNameWorkflow plan with
    stage := .authorized
    transaction := some transactionId
    signedTransaction := some signed
    feeQuote := some quote }
  let (store, _) ← (store.saveWorkflowWithEntityBatch plan.workflowId plan.action.workflowKind
    stored.revision workflow true commitNow .inputReservation activation []).mapError .store
  return (store, ())

def authorizeNameOperation (given : NameAuthorization) :
    EStateM HnsWalletError (WalletStore V) (List UInt8 × Bytes 32) := do
  lift (refuseIf (plan.expiresAtUnix < given.nowUnix ∨ given.nowUnix < given.approvedAtUnix)
    .approvalRequired)
  lift given.ready
  lift (refuseIf (¬ plan.ofAccount config) .invalidPreparedArtifact)
  let _ ← reacquireNamePlanAuthority plan given.first none
  lift given.approval
  let _ ← reading (loadUnsignedPreparation (V := V) config plan)
  let (signed, transactionId) ← lift given.sign
  let quote ← lift given.quote
  lift (refuseIf (plan.expiresAtUnix ≤ given.commitNow) .approvalRequired)
  let _ ← reacquireNamePlanAuthority plan given.second (some (quote.binding, quote.mempool))
  transact (saveAuthorizedName config plan signed transactionId quote given.approvalStands
    given.commitNow)
  return (signed, transactionId)

/-- The store, and what was handed to the network for which workflow, oldest first. -/
structure HnsSystem (V : Type) where
  store : WalletStore V
  sent : List (WorkflowId × List UInt8)

def onStore {α : Type} (m : EStateM HnsWalletError (WalletStore V) α) :
    EStateM HnsWalletError (HnsSystem V) α := fun system =>
  match m system.store with
  | .ok a store => .ok a { system with store }
  | .error e store => .error e { system with store }

structure NameSubmission where
  first : NameAuthorityView
  validate : Except HnsWalletError Unit
  quote : Except HnsWalletError HnsTransactionFeeQuote
  second : NameAuthorityView
  startedAtUnix : UInt64
  /-- What the node says to the bytes. -/
  broadcastTransaction : Except HnsWalletError (Bytes 32)
  acceptedAtUnix : UInt64

def beginNameSubmission
    (quote : HnsTransactionFeeQuote) (startedAtUnix : UInt64) (store : WalletStore V) :
    Except HnsWalletError (WalletStore V × UInt64 × HnsNameWorkflow) := do
  let loaded ← (store.loadWorkflow HnsNameWorkflow stored.id).mapError .store
  let current ← okOr loaded .invalidWorkflow
  refuseIf (current.revision ≠ stored.revision ∨ current.state ≠ stored.state) .invalidWorkflow
  let workflow := { current.state with
    stage := .requiresRebroadcast
    feeQuote := some quote }
  let (store, revision) ← (store.saveWorkflow stored.id stored.kind current.revision workflow true
    startedAtUnix).mapError .store
  return (store, revision, workflow)

def finishNameSubmission (id : WorkflowId) (kind : WorkflowKind) (revision : UInt64)
    (submitted : HnsNameWorkflow) (acceptedAtUnix : UInt64) (store : WalletStore V) :
    Except HnsWalletError (WalletStore V × Unit) := do
  let loaded ← (store.loadWorkflow HnsNameWorkflow id).mapError .store
  let current ← okOr loaded .invalidWorkflow
  refuseIf (current.revision ≠ revision ∨ current.state ≠ submitted) .invalidWorkflow
  let (store, _) ← (store.saveWorkflow id kind current.revision
    { current.state with stage := .broadcast } true acceptedAtUnix).mapError .store
  return (store, ())

def submitNameWorkflow (quote : HnsTransactionFeeQuote)
    (given : NameSubmission) : EStateM HnsWalletError (HnsSystem V) (Bytes 32) := do
  let raw ← lift (okOr stored.state.signedTransaction .invalidWorkflow)
  let expected ← lift (okOr stored.state.transaction .invalidWorkflow)
  let (revision, submitted) ← transact fun system : HnsSystem V => do
    let (store, begun) ← beginNameSubmission stored quote given.startedAtUnix system.store
    return ({ store, sent := system.sent ++ [(stored.id, raw)] }, begun)
  let actual ← lift given.broadcastTransaction
  lift (refuseIf (actual ≠ expected) .invalidEvidence)
  onStore (transact (finishNameSubmission stored.id stored.kind revision submitted
    given.acceptedAtUnix))
  return actual

def resubmitName (given : NameSubmission) :
    EStateM HnsWalletError (HnsSystem V) (Bytes 32) := do
  let _ ← onStore (reacquireNamePlanAuthority stored.state.plan given.first none)
  lift given.validate
  lift (refuseIf (stored.state.feeQuote = none) .invalidWorkflow)
  let quote ← lift given.quote
  let _ ← onStore (reacquireNamePlanAuthority stored.state.plan given.second
    (some (quote.binding, quote.mempool)))
  submitNameWorkflow stored quote given

def loadNameFor (id : WorkflowId) (system : HnsSystem V) :
    Except HnsWalletError (StoredWorkflow HnsNameWorkflow) := do
  let loaded ← (system.store.loadWorkflow HnsNameWorkflow id).mapError .store
  okOr loaded .invalidWorkflow

def broadcastNameOperation (action : HnsNameAction)
    (transactionId : Bytes 32) (transactionBytes : List UInt8) (given : NameSubmission) :
    EStateM HnsWalletError (HnsSystem V) (Bytes 32) := do
  let stored ← reading (loadNameFor (V := V) workflowId)
  lift (refuseIf (stored.kind ≠ action.workflowKind ∨ stored.state.stage ≠ .authorized ∨
    stored.state.transaction ≠ some transactionId ∨
    stored.state.signedTransaction ≠ some transactionBytes) .invalidWorkflow)
  resubmitName stored given

def rebroadcastPendingNameOperation (given : NameSubmission) :
    EStateM HnsWalletError (HnsSystem V) (Bytes 32) := do
  let stored ← reading (loadNameFor (V := V) workflowId)
  lift (refuseIf (stored.kind ≠ stored.state.plan.action.workflowKind ∨
    (stored.state.stage ≠ .authorized ∧ stored.state.stage ≠ .requiresRebroadcast))
    .invalidWorkflow)
  lift (refuseIf (stored.state.signedTransaction = none) .invalidWorkflow)
  resubmitName stored given

def cancelPreparedNameOperation : Except HnsWalletError (WalletStore V × Unit) := do
  let loaded ← (store.loadWorkflow HnsNameWorkflow workflowId).mapError .store
  let stored ← okOr loaded .invalidWorkflow
  refuseIf (¬ stored.state.plan.ofAccount config ∨
    stored.kind ≠ stored.state.plan.action.workflowKind ∨
    (stored.state.stage ≠ .prepared ∧ stored.state.stage ≠ .reapprovalRequired)) .invalidWorkflow
  let workflow := { stored.state with stage := .cancelled }
  let deletes ← reservationDeletes store config workflowId
  let (store, _) ← (store.saveWorkflowWithEntityBatch workflowId
    workflow.plan.action.workflowKind stored.revision workflow workflow.signedTransaction.isSome
    nowUnix .inputReservation ([] : List (EntityBatchSave HnsInputReservation)) deletes).mapError
    .store
  return (store, ())

end Operations

end HnsWallet
