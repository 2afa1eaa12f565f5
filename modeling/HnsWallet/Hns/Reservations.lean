import HnsWallet.Hns.Backend
import HnsWallet.Lib.Attempts
import HnsWallet.Store.Workflows

/-! # Input reservations

Each coin that a workflow means to spend is reserved by one row, named after the account and the
outpoint (`hns-wallet-hns`). -/

namespace HnsWallet

open Lib

inductive HnsShakedexFundingPurpose where
  | buyerFulfillment
  | sellerRecovery
  | sellerScriptFinalize
deriving DecidableEq, Repr

inductive HnsInputReservationKind where
  | ordinary
  | name (nameHash : Bytes 32)
  | shakedexSource (nameHash : Bytes 32) (purpose : HnsShakedexFundingPurpose)
  | shakedexFunding (nameHash : Bytes 32) (purpose : HnsShakedexFundingPurpose)
deriving DecidableEq

namespace HnsInputReservationKind

def isProtectedShakedex : HnsInputReservationKind → Bool
  | .shakedexSource .. | .shakedexFunding .. => true
  | _ => false

def isName : HnsInputReservationKind → Bool
  | .name _ => true
  | _ => false

end HnsInputReservationKind

structure HnsInputReservation where
  walletId : WalletId
  accountId : AccountId
  outpoint : HnsOutpoint
  workflowId : WorkflowId
  expiresAtUnix : Option UInt64
  kind : HnsInputReservationKind
deriving DecidableEq

def HnsInputReservation.expired (reservation : HnsInputReservation) (nowUnix : UInt64) : Bool :=
  reservation.expiresAtUnix.any (· ≤ nowUnix)

def accountEntityPrefix (config : HnsRuntimeConfig) : RecordId :=
  config.walletId.bytes.toList ++ config.accountId.bytes.toList

def namespacedOutpointId (config : HnsRuntimeConfig) (outpoint : HnsOutpoint) : RecordId :=
  accountEntityPrefix config ++ (outpoint.transaction.toList ++
    leBytes 4 outpoint.outputIndex.toNat)

section Store

variable {V : Type} [Encoded V] [Serde V HnsInputReservation] (store : WalletStore V)
  (config : HnsRuntimeConfig)

def accountInputReservations :
    Except HnsWalletError (List (StoredEntity HnsInputReservation)) := do
  let reservations ← (store.listEntitiesByIdPrefix HnsInputReservation .inputReservation
    (accountEntityPrefix config) maxWalletCoins).mapError .store
  refuseIf (∃ stored ∈ reservations, stored.value.walletId ≠ config.walletId ∨
    stored.value.accountId ≠ config.accountId ∨
    stored.id ≠ namespacedOutpointId config stored.value.outpoint) .invalidEvidence
  return reservations

def deleteOf (stored : StoredEntity HnsInputReservation) : EntityBatchDelete :=
  ⟨stored.id, stored.revision⟩

def availableUnreservedCoins (coins : List TrackedHnsCoin) (nowUnix : UInt64) :
    Except HnsWalletError (WalletStore V × List TrackedHnsCoin) := do
  let reservations ← accountInputReservations store config
  let ended := fun stored : StoredEntity HnsInputReservation =>
    stored.value.expired nowUnix && !stored.value.kind.isProtectedShakedex
  let expired := (reservations.filter ended).map deleteOf
  let reserved := (reservations.filter fun stored => !ended stored).map fun stored =>
    stored.value.outpoint
  let free := coins.filter fun coin =>
    isOrdinaryHnsDerivation coin.derivation && coin.coin.outpoint ∉ reserved
  if expired = [] then
    return (store, free)
  else
    let store ← (store.applyEntityBatch .inputReservation
      ([] : List (EntityBatchSave HnsInputReservation)) expired).mapError .store
    return (store, free)

variable (workflowId : WorkflowId)

def reservationSave (expiresAtUnix nowUnix : UInt64)
    (outpoint : HnsOutpoint) (kind : HnsInputReservationKind) :
    EntityBatchSave HnsInputReservation :=
  ⟨namespacedOutpointId config outpoint, 0,
    ⟨config.walletId, config.accountId, outpoint, workflowId, some expiresAtUnix, kind⟩, nowUnix⟩

def reservationSaves (inputs : List TrackedHnsCoin) (expiresAtUnix nowUnix : UInt64) :
    Except HnsWalletError (List (EntityBatchSave HnsInputReservation)) := do
  refuseIf (∃ input ∈ inputs, isOrdinaryHnsDerivation input.derivation = false) .invalidWorkflow
  return inputs.map fun input =>
    reservationSave config workflowId expiresAtUnix nowUnix input.coin.outpoint .ordinary

def workflowReservations :
    Except HnsWalletError (List (StoredEntity HnsInputReservation)) := do
  let reservations ← accountInputReservations store config
  return reservations.filter fun stored => stored.value.workflowId = workflowId

def reservationsMatch (expected : List (HnsOutpoint × HnsInputReservationKind))
    (expiresAtUnix : Option UInt64) (matching : List (StoredEntity HnsInputReservation)) : Prop :=
  matching.length = expected.length ∧ ∀ stored ∈ matching,
    (stored.value.outpoint, stored.value.kind) ∈ expected ∧
      stored.value.expiresAtUnix = expiresAtUnix

instance (expected : List (HnsOutpoint × HnsInputReservationKind)) (expiresAtUnix : Option UInt64)
    (matching : List (StoredEntity HnsInputReservation)) :
    Decidable (reservationsMatch expected expiresAtUnix matching) :=
  inferInstanceAs (Decidable (_ ∧ _))

def validatePreparedReservations (outpoints : List HnsOutpoint)
    (expiresAtUnix : UInt64) : Except HnsWalletError Unit := do
  refuseIf (outpoints = [] ∨ maxWalletCoins < outpoints.length) .invalidWorkflow
  refuseIf (¬ outpoints.Nodup) .invalidWorkflow
  let matching ← workflowReservations store config workflowId
  refuseIf (¬ reservationsMatch (outpoints.map (·, .ordinary)) (some expiresAtUnix) matching)
    .invalidWorkflow

def reservationActivationSaves (nowUnix : UInt64) :
    Except HnsWalletError (List (EntityBatchSave HnsInputReservation)) := do
  let owned ← workflowReservations store config workflowId
  refuseIf (∃ stored ∈ owned, stored.value.kind.isProtectedShakedex) .invalidWorkflow
  return owned.map fun stored =>
    ⟨stored.id, stored.revision, { stored.value with expiresAtUnix := none }, nowUnix⟩

def reservationDeletes :
    Except HnsWalletError (List EntityBatchDelete) := do
  let owned ← workflowReservations store config workflowId
  refuseIf (∃ stored ∈ owned, stored.value.kind.isProtectedShakedex) .invalidWorkflow
  return owned.map deleteOf

end Store

end HnsWallet
