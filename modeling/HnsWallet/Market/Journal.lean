import HnsWallet.Market.Protocol
import HnsWallet.Market.Session
import HnsWallet.Store.Laws

/-! # The durable execution journal -/

namespace HnsWallet

open Lib

def shakescapeExecutionWorkflowDomain : List UInt8 :=
  ascii "hns-wallet-rs/shakescape-execution-workflow/v1"

def shakescapeSecondFundingAuthorizationDomain : List UInt8 :=
  ascii "hns-wallet-rs/shakescape-second-funding-authorization/v1\x00"

def shakescapeSecondFundingAuthorizationSchemaVersion : UInt16 := 1

/-- The workflow that executes an accepted session. -/
def shakescapeExecutionWorkflowId [Sha256] (sessionId : SessionId) : WorkflowId :=
  .ofDigest (Sha256.digest (shakescapeExecutionWorkflowDomain ++ sessionId.bytes.toList))

def secondFundingAuthorizationEntityId (sessionId : SessionId) : RecordId :=
  shakescapeSecondFundingAuthorizationDomain ++ sessionId.bytes.toList

/-- The row behind an authorization.  It is issued at `issuedEntityRevision`;
once a checkpoint has consumed it, it stands one revision above. -/
structure PersistedSecondFundingAuthorization where
  schemaVersion : UInt16
  sessionId : SessionId
  executionWorkflowId : WorkflowId
  executionRevision : UInt64
  issuedEntityRevision : UInt64
  authorization : SecondFundingAuthorization
deriving DecidableEq

/-- What a chain runtime must find unchanged, and consume, in the transaction that
makes a second-chain funding broadcastable. -/
structure SecondFundingBroadcastGuard where
  sessionId : SessionId
  executionWorkflowId : WorkflowId
  executionRevision : UInt64
  authorizationEntityId : RecordId
  authorizationEntityRevision : UInt64
  authorization : SecondFundingAuthorization
deriving DecidableEq

namespace SecondFundingBroadcastGuard

def workflowAssertion (guard : SecondFundingBroadcastGuard) : WorkflowRevisionAssertion :=
  ⟨guard.executionWorkflowId, .atomicSwap, guard.executionRevision⟩

def authorizationAssertion (guard : SecondFundingBroadcastGuard) : EntityRevisionAssertion :=
  ⟨guard.authorizationEntityId, guard.authorizationEntityRevision⟩

end SecondFundingBroadcastGuard

section Records

variable [Sha256]

def persistedSecondFundingAuthorization (session : SwapSession)
    (authorization : SecondFundingAuthorization) (issuedEntityRevision : UInt64) :
    PersistedSecondFundingAuthorization where
  schemaVersion := shakescapeSecondFundingAuthorizationSchemaVersion
  sessionId := session.id
  executionWorkflowId := shakescapeExecutionWorkflowId session.id
  executionRevision := session.revision
  issuedEntityRevision := issuedEntityRevision
  authorization := authorization

def validatePersistedSecondFundingAuthorization (record : PersistedSecondFundingAuthorization)
    (session : SwapSession) : Except MarketError Unit := do
  refuseIf (record.schemaVersion ≠ shakescapeSecondFundingAuthorizationSchemaVersion ∨
    record.sessionId ≠ session.id ∨
    record.executionWorkflowId ≠ shakescapeExecutionWorkflowId session.id ∨
    record.executionRevision ≠ session.revision ∨
    record.issuedEntityRevision = 0 ∨
    session.secondFundingAuthorization ≠ some record.authorization ∨
    record.authorization.module ≠ session.secondModule) .shakescapeDirectSwapConflict
  let firstFunding ← okOr session.firstFunding .invalidTransition
  refuseIf (record.authorization.firstFunding ≠ firstFunding ∨
    record.authorization.firstFundingObservationGeneration ≠
      session.firstFundingObservationGeneration) .shakescapeDirectSwapConflict

def validatePreviousSecondFundingAuthorization (record : PersistedSecondFundingAuthorization)
    (storedEntityRevision : UInt64) (sessionId : SessionId) (workflowId : WorkflowId)
    (expectedExecutionRevision : UInt64) : Except MarketError Unit :=
  refuseIf (record.schemaVersion ≠ shakescapeSecondFundingAuthorizationSchemaVersion ∨
    record.sessionId ≠ sessionId ∨
    record.executionWorkflowId ≠ workflowId ∨
    record.issuedEntityRevision = 0 ∨
    (storedEntityRevision = record.issuedEntityRevision ∧
      record.executionRevision ≠ expectedExecutionRevision) ∨
    (storedEntityRevision = saturatingAdd record.issuedEntityRevision 1 ∧
      record.executionRevision > expectedExecutionRevision) ∨
    (storedEntityRevision ≠ record.issuedEntityRevision ∧
      storedEntityRevision ≠ saturatingAdd record.issuedEntityRevision 1) ∨
    record.authorization.id.nonZero = false ∨
    record.authorization.expiresAtUnix = 0) .shakescapeDirectSwapConflict

end Records

def SwapState.irreversible : SwapState → Bool
  | .firstFundingPending | .firstFunded | .secondFundingPending | .bothFunded
  | .firstRedeemed | .secretObserved | .secondRedeemed | .refundEligible
  | .refundBroadcast => true
  | _ => false

def liftStore {α : Type} : Except StoreError α → Except MarketError α :=
  Except.mapError .ofStoreError

@[simp] theorem liftStore_eq_ok {α : Type} {r : Except StoreError α} {a : α} :
    liftStore r = .ok a ↔ r = .ok a :=
  mapError_eq_ok

structure WalletStoreJournal (V : Type) where
  store : WalletStore V
  workflowId : WorkflowId
  updatedAtUnix : UInt64

def authorizationWrites [Sha256] (session : SwapSession) (entityId : RecordId)
    (updatedAtUnix : UInt64)
    (storedAuthorization : Option (StoredEntity PersistedSecondFundingAuthorization)) :
    Except MarketError
      (List (EntityBatchSave PersistedSecondFundingAuthorization) × List EntityBatchDelete) :=
  match session.secondFundingAuthorization, storedAuthorization with
  | some authorization, stored => do
    refuseIf (∃ row ∈ stored, row.revision ≠ row.value.issuedEntityRevision) .invalidTransition
    let expectedEntityRevision := (stored.map StoredEntity.revision).getD 0
    let issuedEntityRevision ← okOr (checkedAdd expectedEntityRevision 1) .invariant
    return ([⟨entityId, expectedEntityRevision,
      persistedSecondFundingAuthorization session authorization issuedEntityRevision,
      updatedAtUnix⟩], [])
  | none, none => .ok ([], [])
  | none, some stored =>
    if stored.revision = stored.value.issuedEntityRevision ∨ session.secondFunding.isSome then
      .ok ([], [⟨entityId, stored.revision⟩])
    else .ok ([], [])

section Journal

variable {V : Type} [Encoded V] [Serde V SwapSession]
  [Serde V PersistedSecondFundingAuthorization] [Sha256]

/-- Save a session, and with it the row of the authority it holds.  A session
without accepted terms has no such row.

The last check comes after the transaction: a failure there would report an error
over a store that has changed.  The model drops the change with the error, which
is the same because `SwapSession.apply` passes the very revision that the store
returns. -/
def WalletStoreJournal.save (journal : WalletStoreJournal V) (session : SwapSession)
    (expectedRevision : UInt64) : Except MarketError (WalletStoreJournal V) :=
  match session.acceptedShakescapeTerms with
  | none => do
    let (store, next) ← liftStore (journal.store.saveWorkflow journal.workflowId .atomicSwap
      expectedRevision session session.state.irreversible journal.updatedAtUnix)
    refuseIf (next ≠ session.revision) .invariant
    return { journal with store }
  | some _ => do
    refuseIf (journal.workflowId ≠ shakescapeExecutionWorkflowId session.id) .invariant
    let entityId := secondFundingAuthorizationEntityId session.id
    let storedAuthorization ← liftStore (journal.store.loadEntity
      PersistedSecondFundingAuthorization .swapFundingAuthorization entityId)
    storedAuthorization.forM fun stored =>
      validatePreviousSecondFundingAuthorization stored.value stored.revision session.id
        journal.workflowId expectedRevision
    let (authorizationSaves, authorizationDeletes) ←
      authorizationWrites session entityId journal.updatedAtUnix storedAuthorization
    let (store, next) ← liftStore (
      if authorizationSaves = [] ∧ authorizationDeletes = [] then
        journal.store.saveWorkflow journal.workflowId .atomicSwap expectedRevision session
          session.state.irreversible journal.updatedAtUnix
      else
        journal.store.saveWorkflowWithEntityBatch journal.workflowId .atomicSwap
          expectedRevision session session.state.irreversible journal.updatedAtUnix
          .swapFundingAuthorization authorizationSaves authorizationDeletes)
    refuseIf (next ≠ session.revision) .invariant
    return { journal with store }

instance : SwapJournal (WalletStoreJournal V) where
  save := WalletStoreJournal.save

variable [MarketplaceProtocol]

def acceptedHello (policy : ShakescapeDirectSwapPolicy) (sessionId : SessionId)
    (session : SwapSession) : Except MarketError SwapSessionHello := do
  let terms ← okOr session.acceptedShakescapeTerms .invalidShakescapeDirectSwap
  let hello ← (MarketplaceProtocol.decodeHello terms).mapError
    fun _ => .corruptShakescapeDirectSwap
  refuseIf ((MarketplaceProtocol.encodeHello hello).toOption ≠ some terms ∨
    SessionId.mk hello.swapSessionId ≠ sessionId ∨
    (MarketplaceProtocol.verifyAgreement hello policy.network).toOption = none)
    .corruptShakescapeDirectSwap
  return hello

def validateShakescapeExecutionRecord (policy : ShakescapeDirectSwapPolicy)
    (sessionId : SessionId) (workflowId : WorkflowId) (stored : StoredWorkflow SwapSession) :
    Except MarketError Unit := do
  refuseIf (stored.kind ≠ .atomicSwap ∨
    stored.id ≠ workflowId ∨
    stored.state.id ≠ sessionId ∨
    stored.revision ≠ stored.state.revision ∨
    stored.updatedAtUnix ≠ stored.state.lastVerifiedAtUnix ∨
    (stored.state.firstFundingRevoked ∧ stored.state.firstFunding = none) ∨
    ∃ generation ∈ stored.state.firstFundingConfirmedGeneration, generation = 0 ∨
      generation ≠ stored.state.firstFundingObservationGeneration) .shakescapeDirectSwapConflict
  let hello ← acceptedHello policy sessionId stored.state
  refuseIf (∃ authorization ∈ stored.state.secondFundingAuthorization,
    stored.state.state ≠ .secondFundingPending ∨
    stored.state.secondModule ≠ authorization.module ∨
    stored.state.firstFunding ≠ some authorization.firstFunding ∨
    stored.state.firstFundingRevoked ∨
    stored.state.firstFundingObservationGeneration ≠
      authorization.firstFundingObservationGeneration ∨
    stored.state.firstFundingConfirmedGeneration ≠
      some authorization.firstFundingObservationGeneration ∨
    stored.state.secondFunding ≠ none ∨
    authorization.id.nonZero = false ∨
    authorization.expiresAtUnix > hello.header.expiresAt) .shakescapeDirectSwapConflict

def loadShakescapeExecution (store : WalletStore V) (policy : ShakescapeDirectSwapPolicy)
    (sessionId : SessionId) : Except MarketError (Option SwapSession) := do
  let workflowId := shakescapeExecutionWorkflowId sessionId
  match ← liftStore (store.loadWorkflow SwapSession workflowId) with
  | none => return none
  | some stored =>
    validateShakescapeExecutionRecord policy sessionId workflowId stored
    return some stored.state

def shakescapeSecondFundingBroadcastGuard (store : WalletStore V)
    (policy : ShakescapeDirectSwapPolicy) (sessionId : SessionId) (module : ModuleId)
    (authorizationId : ObjectHash) (nowUnix : UInt64) :
    Except MarketError SecondFundingBroadcastGuard := do
  let execution ← loadShakescapeExecution store policy sessionId
  let session ← okOr execution .unknownShakescapeDirectSwap
  let entityId := secondFundingAuthorizationEntityId sessionId
  let row ← liftStore (store.loadEntity PersistedSecondFundingAuthorization
    .swapFundingAuthorization entityId)
  let stored ← okOr row .invalidTransition
  validatePersistedSecondFundingAuthorization stored.value session
  refuseIf (stored.revision ≠ stored.value.issuedEntityRevision) .invalidTransition
  let authorization := stored.value.authorization
  refuseIf (session.state ≠ .secondFundingPending ∨
    session.firstFundingIsCurrent = false ∨
    session.secondFunding ≠ none ∨
    authorization.id ≠ authorizationId ∨
    authorization.module ≠ module ∨
    nowUnix ≥ authorization.expiresAtUnix) .invalidTransition
  return {
    sessionId
    executionWorkflowId := stored.value.executionWorkflowId
    executionRevision := stored.value.executionRevision
    authorizationEntityId := stored.id
    authorizationEntityRevision := stored.revision
    authorization }

end Journal

end HnsWallet
