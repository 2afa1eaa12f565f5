import HnsWallet.Hns.NameWorkflow

/-! # Ordinary sends -/

namespace HnsWallet

open Lib

inductive HnsSendStage where
  | prepared
  | authorized
  | broadcast
  | mempool
  | confirmed
  | conflicted
  | requiresRebroadcast
  | abandoned
  | expired
  | cancelled
deriving DecidableEq, Repr

def HnsSendStage.isActive : HnsSendStage → Bool
  | .authorized | .broadcast | .mempool | .requiresRebroadcast => true
  | _ => false

structure HnsSpendPlan where
  walletId : WalletId
  accountId : AccountId
  workflowId : WorkflowId
  requestNonce : UInt64
  unsignedTransaction : List UInt8
  inputs : List TrackedHnsCoin
  amount : BaseUnits
  fee : BaseUnits
  maximumFee : BaseUnits
  destination : String
  expiresAtUnix : UInt64
deriving DecidableEq

structure HnsSendWorkflow where
  plan : HnsSpendPlan
  stage : HnsSendStage
  transaction : Option (Bytes 32)
  signedTransaction : Option (List UInt8)
  feeQuote : Option HnsTransactionFeeQuote
deriving DecidableEq

namespace HnsSpendPlan

def ofAccount (plan : HnsSpendPlan) (config : HnsRuntimeConfig) : Prop :=
  plan.walletId = config.walletId ∧ plan.accountId = config.accountId

instance (plan : HnsSpendPlan) (config : HnsRuntimeConfig) : Decidable (plan.ofAccount config) :=
  inferInstanceAs (Decidable (_ ∧ _))

def outpoints (plan : HnsSpendPlan) : List HnsOutpoint :=
  plan.inputs.map fun input => input.coin.outpoint

end HnsSpendPlan

def sendPropagationGraceSeconds : UInt64 := 120

def sendIsWithinPropagationGrace (stage : HnsSendStage) (updatedAtUnix nowUnix : UInt64) : Bool :=
  stage = .broadcast && (nowUnix.toNat - updatedAtUnix.toNat < sendPropagationGraceSeconds.toNat)

section Observing

variable (snapshot : HnsSnapshot)

def observeSend (stored : StoredWorkflow HnsSendWorkflow) (transactionId : Bytes 32)
    (nowUnix : UInt64) : Except HnsWalletError (HnsSendStage × Bool) := do
  let evidence ← snapshot.getTransactionEvidence transactionId
  refuseIf (evidence.binding ≠ snapshot.binding ∨ evidence.mempool ≠ snapshot.mempool)
    .staleNodeSnapshot
  let competingSpender ← snapshot.hasCompetingSpenderInBatches stored.state.plan.outpoints
    transactionId
  if evidence.status.conflicted ∨ competingSpender then
    return (.conflicted, false)
  else if 0 < evidence.status.confirmationCount then
    return (.confirmed, false)
  else if evidence.status.inMempool then
    return (.mempool, false)
  else if sendIsWithinPropagationGrace stored.state.stage stored.updatedAtUnix nowUnix then
    return (.broadcast, false)
  else if stored.state.stage.isActive then
    return (.requiresRebroadcast, true)
  else
    return (stored.state.stage, false)

end Observing

section Operations

variable {V : Type} [Encoded V] [Serde V HnsInputReservation] [Serde V HnsSendWorkflow]
  (config : HnsRuntimeConfig) (stored : StoredWorkflow HnsSendWorkflow) (plan : HnsSpendPlan)

def saveSendStage (stage : HnsSendStage)
    (releases irreversible : Bool) (nowUnix : UInt64) (store : WalletStore V) :
    Except HnsWalletError (WalletStore V × Unit) := do
  let deletes ← (if releases then reservationDeletes store config stored.id else .ok [])
  let (store, _) ← (store.saveWorkflowWithEntityBatch stored.id .hnsSend stored.revision
    { stored.state with stage } irreversible nowUnix .inputReservation
    ([] : List (EntityBatchSave HnsInputReservation)) deletes).mapError .store
  return (store, ())

def reconcileListedSend (snapshot : HnsSnapshot) (nowUnix : UInt64)
    (stored : StoredWorkflow HnsSendWorkflow) : EStateM HnsWalletError (WalletStore V) Bool := do
  if ¬ stored.state.plan.ofAccount config then
    return false
  else if stored.state.stage = .prepared ∧ stored.state.plan.expiresAtUnix ≤ nowUnix then
    transact (saveSendStage config stored .expired true false nowUnix)
    return false
  else
    match stored.state.transaction with
    | none => return false
    | some transactionId =>
      let (stage, pending) ← lift (observeSend snapshot stored transactionId nowUnix)
      let _ ← (if stage ≠ stored.state.stage then
        transact (saveSendStage config stored stage
          (stage = .confirmed || stage = .conflicted) stored.state.signedTransaction.isSome
          nowUnix) else pure ())
      return pending

def reconcileListedSends (snapshot : HnsSnapshot) (nowUnix : UInt64) :
    List (StoredWorkflow HnsSendWorkflow) →
      EStateM HnsWalletError (WalletStore V) (List WorkflowId)
  | [] => pure []
  | stored :: rest => do
    let pending ← reconcileListedSend config snapshot nowUnix stored
    let others ← reconcileListedSends snapshot nowUnix rest
    return if pending then stored.id :: others else others

def reconcileSendWorkflows (snapshot : HnsSnapshot) (nowUnix : UInt64) :
    EStateM HnsWalletError (WalletStore V) (List WorkflowId) := do
  let workflows ← reading fun store : WalletStore V =>
    (store.listWorkflowsComplete HnsSendWorkflow .hnsSend maxHistoryResults).mapError .store
  reconcileListedSends config snapshot nowUnix workflows

def hnsSendWorkflowDomain : List UInt8 :=
  ascii "hns-wallet-rs/hns-send-workflow/v1"

def sendWorkflowId [Sha256] (requestNonce : UInt64) : WorkflowId :=
  .ofDigest (Sha256.digest (hnsSendWorkflowDomain ++ accountEntityPrefix config ++
    beBytes 8 requestNonce.toNat))

structure SendRequest where
  requestNonce : UInt64
  amount : BaseUnits
  maximumFee : BaseUnits
  destination : String
deriving DecidableEq

structure SendAssembly where
  unsignedTransaction : List UInt8
  inputs : List TrackedHnsCoin
  fee : BaseUnits
deriving DecidableEq

def newSendWorkflow : HnsSendWorkflow where
  plan := plan
  stage := .prepared
  transaction := none
  signedTransaction := none
  feeQuote := none

def recoversPreparedSend (request : SendRequest)
    (workflowId : WorkflowId) (nowUnix : UInt64) : Prop :=
  stored.kind = .hnsSend ∧ stored.state = newSendWorkflow stored.state.plan ∧
    stored.state.plan.ofAccount config ∧ stored.state.plan.workflowId = workflowId ∧
    stored.state.plan.requestNonce = request.requestNonce ∧
    stored.state.plan.amount = request.amount ∧
    stored.state.plan.maximumFee = request.maximumFee ∧
    stored.state.plan.fee ≤ stored.state.plan.maximumFee ∧
    stored.state.plan.destination = request.destination ∧ stored.state.plan.inputs ≠ [] ∧
    (∀ input ∈ stored.state.plan.inputs, isOrdinaryHnsDerivation input.derivation) ∧
    nowUnix < stored.state.plan.expiresAtUnix

instance (stored : StoredWorkflow HnsSendWorkflow) (request : SendRequest)
    (workflowId : WorkflowId) (nowUnix : UInt64) :
    Decidable (recoversPreparedSend config stored request workflowId nowUnix) :=
  inferInstanceAs (Decidable (_ ∧ _))

def savePreparedSend (nowUnix : UInt64) (store : WalletStore V) :
    Except HnsWalletError (WalletStore V × Unit) := do
  let saves ← reservationSaves config plan.workflowId plan.inputs plan.expiresAtUnix nowUnix
  let (store, _) ← (store.saveWorkflowWithEntityBatch plan.workflowId .hnsSend 0
    (newSendWorkflow plan) false nowUnix .inputReservation saves []).mapError .store
  return (store, ())

def prepareSend [Sha256] (request : SendRequest) (cachedCoins : List TrackedHnsCoin)
    (buildUnsignedPayment : List TrackedHnsCoin → Except HnsWalletError SendAssembly)
    (nowUnix : UInt64) : EStateM HnsWalletError (WalletStore V) HnsSpendPlan := do
  let workflowId := sendWorkflowId config request.requestNonce
  let loaded ← reading fun store : WalletStore V =>
    (store.loadWorkflow HnsSendWorkflow workflowId).mapError .store
  match loaded with
  | some stored =>
    lift (refuseIf (¬ recoversPreparedSend config stored request workflowId nowUnix)
      (.invalidRequest "persisted Handshake send does not match retry"))
    reading fun store : WalletStore V => validatePreparedReservations store config workflowId
      stored.state.plan.outpoints stored.state.plan.expiresAtUnix
    return stored.state.plan
  | none =>
    let coins ← transact fun store : WalletStore V =>
      availableUnreservedCoins store config cachedCoins nowUnix
    let assembly ← lift (buildUnsignedPayment coins)
    let expiresAtUnix ← lift (okOr (checkedAdd nowUnix preparedArtifactLifetimeSeconds)
      .arithmetic)
    let plan : HnsSpendPlan := ⟨config.walletId, config.accountId, workflowId,
      request.requestNonce, assembly.unsignedTransaction, assembly.inputs, request.amount,
      assembly.fee, request.maximumFee, request.destination, expiresAtUnix⟩
    transact (savePreparedSend config plan nowUnix)
    return plan

def loadPreparedSend (store : WalletStore V) :
    Except HnsWalletError (StoredWorkflow HnsSendWorkflow) := do
  let loaded ← (store.loadWorkflow HnsSendWorkflow plan.workflowId).mapError .store
  let stored ← okOr loaded .invalidEvidence
  refuseIf (stored.state ≠ newSendWorkflow plan) .invalidEvidence
  return stored

structure SendAuthorization where
  approvedAtUnix : UInt64
  nowUnix : UInt64
  approval : Except HnsWalletError Unit
  sign : Except HnsWalletError (List UInt8 × Bytes 32)
  quote : Except HnsWalletError HnsTransactionFeeQuote
  commitNow : UInt64
  approvalStands : Bool

def saveAuthorizedSend (signed : List UInt8) (transactionId : Bytes 32)
    (quote : HnsTransactionFeeQuote) (approvalStands : Bool) (commitNow : UInt64)
    (store : WalletStore V) : Except HnsWalletError (WalletStore V × Unit) := do
  let stored ← loadPreparedSend plan store
  let activation ← reservationActivationSaves store config plan.workflowId commitNow
  refuseIf (approvalStands = false) .approvalRequired
  let workflow : HnsSendWorkflow := ⟨plan, .authorized, some transactionId, some signed, some quote⟩
  let (store, _) ← (store.saveWorkflowWithEntityBatch plan.workflowId .hnsSend stored.revision
    workflow true commitNow .inputReservation activation []).mapError .store
  return (store, ())

def authorizeSend (given : SendAuthorization) :
    EStateM HnsWalletError (WalletStore V) (List UInt8 × Bytes 32) := do
  lift (refuseIf (plan.expiresAtUnix < given.nowUnix ∨ given.nowUnix < given.approvedAtUnix)
    .approvalRequired)
  lift (refuseIf (¬ plan.ofAccount config) .invalidEvidence)
  lift given.approval
  let _ ← reading (loadPreparedSend (V := V) plan)
  let (signed, transactionId) ← lift given.sign
  let quote ← lift given.quote
  lift (refuseIf (plan.expiresAtUnix ≤ given.commitNow) .approvalRequired)
  transact (saveAuthorizedSend config plan signed transactionId quote given.approvalStands
    given.commitNow)
  return (signed, transactionId)

structure SendSubmission where
  validate : Except HnsWalletError Unit
  quote : Except HnsWalletError HnsTransactionFeeQuote
  startedAtUnix : UInt64
  broadcastTransaction : Except HnsWalletError (Bytes 32)
  acceptedAtUnix : UInt64

def beginSendSubmission
    (quote : HnsTransactionFeeQuote) (startedAtUnix : UInt64) (store : WalletStore V) :
    Except HnsWalletError (WalletStore V × UInt64 × HnsSendWorkflow) := do
  let loaded ← (store.loadWorkflow HnsSendWorkflow stored.id).mapError .store
  let current ← okOr loaded .invalidWorkflow
  refuseIf (current.revision ≠ stored.revision ∨ current.state ≠ stored.state) .invalidWorkflow
  let workflow := { current.state with
    stage := .requiresRebroadcast
    feeQuote := some quote }
  let (store, revision) ← (store.saveWorkflow stored.id .hnsSend current.revision workflow true
    startedAtUnix).mapError .store
  return (store, revision, workflow)

def finishSendSubmission (id : WorkflowId) (revision : UInt64) (submitted : HnsSendWorkflow)
    (acceptedAtUnix : UInt64) (store : WalletStore V) :
    Except HnsWalletError (WalletStore V × Unit) := do
  let loaded ← (store.loadWorkflow HnsSendWorkflow id).mapError .store
  let current ← okOr loaded .invalidWorkflow
  refuseIf (current.revision ≠ revision ∨ current.state ≠ submitted) .invalidWorkflow
  let (store, _) ← (store.saveWorkflow id .hnsSend current.revision
    { current.state with stage := .broadcast } true acceptedAtUnix).mapError .store
  return (store, ())

def submitSend (given : SendSubmission) :
    EStateM HnsWalletError (HnsSystem V) (Bytes 32) := do
  let raw ← lift (okOr stored.state.signedTransaction .invalidWorkflow)
  let expected ← lift (okOr stored.state.transaction .invalidWorkflow)
  lift (refuseIf (stored.state.feeQuote = none) .invalidWorkflow)
  lift given.validate
  let quote ← lift given.quote
  let (revision, submitted) ← transact fun system : HnsSystem V => do
    let (store, begun) ← beginSendSubmission stored quote given.startedAtUnix system.store
    return ({ store, sent := system.sent ++ [(stored.id, raw)] }, begun)
  let actual ← lift given.broadcastTransaction
  lift (refuseIf (actual ≠ expected) .invalidEvidence)
  onStore (transact (finishSendSubmission stored.id revision submitted given.acceptedAtUnix))
  return actual

def findSend (transactionId : Bytes 32) (raw : List UInt8) (system : HnsSystem V) :
    Except HnsWalletError (StoredWorkflow HnsSendWorkflow) := do
  let workflows ← (system.store.listWorkflowsComplete HnsSendWorkflow .hnsSend
    maxHistoryResults).mapError .store
  let stored ← okOr (workflows.find? fun workflow =>
    workflow.state.plan.ofAccount config ∧ workflow.state.transaction = some transactionId ∧
      workflow.state.signedTransaction = some raw) .invalidEvidence
  refuseIf (stored.state.stage ≠ .authorized) .invalidEvidence
  return stored

def broadcastSend [HnsTransactions] (raw : List UInt8) (given : SendSubmission) :
    EStateM HnsWalletError (HnsSystem V) (Bytes 32) := do
  let transaction ← lift (okOr (HnsTransactions.decode raw) .invalidEvidence)
  let transactionId ← lift (okOr (HnsTransactions.transactionHash transaction) .invalidEvidence)
  let stored ← reading (findSend (V := V) config transactionId raw)
  submitSend stored given

def loadActiveSend (id : WorkflowId) (system : HnsSystem V) :
    Except HnsWalletError (StoredWorkflow HnsSendWorkflow) := do
  let loaded ← (system.store.loadWorkflow HnsSendWorkflow id).mapError .store
  let stored ← okOr loaded .invalidWorkflow
  refuseIf (¬ stored.state.plan.ofAccount config) .invalidWorkflow
  refuseIf (stored.state.stage.isActive = false) .invalidWorkflow
  return stored

def rebroadcastPendingSend (workflowId : WorkflowId) (given : SendSubmission) :
    EStateM HnsWalletError (HnsSystem V) (Bytes 32) := do
  let stored ← reading (loadActiveSend (V := V) config workflowId)
  submitSend stored given

def cancelPreparedSend (workflowId : WorkflowId) (nowUnix : UInt64) (store : WalletStore V) :
    Except HnsWalletError (WalletStore V × Unit) := do
  let loaded ← (store.loadWorkflow HnsSendWorkflow workflowId).mapError .store
  let stored ← okOr loaded .invalidWorkflow
  refuseIf (¬ stored.state.plan.ofAccount config ∨ stored.state.stage ≠ .prepared) .invalidWorkflow
  saveSendStage config stored .cancelled true false nowUnix store

end Operations

end HnsWallet
