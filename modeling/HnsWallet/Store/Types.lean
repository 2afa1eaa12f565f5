import HnsWallet.Types

/-! # Store vocabulary -/

namespace HnsWallet

inductive EntityKind where
  | walletAccount
  | nativeHnsReadProfile
  | derivedAddress
  | hnsUtxo
  | hnsTransaction
  | hnsLightChain
  | hnsLightWallet
  | knownName
  | nameOwnerOutpoint
  | nameTransfer
  | shakedex
  | hnsShakedexKeyAllocation
  | hnsaHnsrPublisherSequence
  | shakescapeBoardObject
  | bitcoinHeader
  | bitcoinFilterHeader
  | bitcoinPeer
  | bitcoinWalletState
  | bitcoinWalletChangeSet
  | bitcoinScanState
  | bitcoinSwapKeyAllocation
  | bitcoinSwapWatch
  | crossChainSwapKeyAllocation
  | bitcoinUtxo
  | bitcoinTransaction
  | ethereumAccount
  | ethereumTransaction
  | swapSession
  | swapFundingAuthorization
  | refundTransaction
  | hnsRecoveryState
  | hnsShakescapeWatch
  | hnsVerifiedSettlement
  | pendingApproval
  | inputReservation
deriving DecidableEq, Repr

def EntityKind.deletionProtected : EntityKind → Bool
  | .nativeHnsReadProfile | .hnsShakedexKeyAllocation | .hnsaHnsrPublisherSequence
  | .bitcoinWalletState | .bitcoinSwapKeyAllocation | .crossChainSwapKeyAllocation => true
  | _ => false

inductive SecretKind where
  | recoverySeed
  | privateKey
  | metadataKey
  | htlcPreimage
  | providerCapability
  | sessionAuthorization
deriving DecidableEq, Repr

/-- The closed part of the store's errors: the failures that the embedded
operations report.  `json` is a stored value of another shape. -/
inductive StoreError where
  | json
  | locked
  | kindMismatch
  | protectedSecret
  | workflowKindMismatch
  | invalidRecordId
  | recordTooLarge
  | staleRevision (expected actual : UInt64)
  | revisionOverflow
  | invalidListLimit
  | listCapacity
  | invalidRevision
  | protectedEntity
  | duplicateBatchEntity
  | batchCapacity
  | encryption
  | randomness
  | invalidOrigin
  | invalidApprovalWindow
  | approvalCapacity
  | staleEntitySet
  | invalidEntityPrefixLease
  | sqlite
  | corruptMetadata
deriving DecidableEq, Repr

def maxRecordIdBytes : Nat := 128
def maxSecretBytes : Nat := 1048576
def maxStateBytes : Nat := 1048576
def maxEntityListResults : Nat := 10000
def maxEntityBatchOperations : Nat := 16384

abbrev RecordId := List UInt8

structure EntityBatchSave (T : Type) where
  id : RecordId
  expectedRevision : UInt64
  value : T
  updatedAtUnix : UInt64

structure EntityBatchDelete where
  id : RecordId
  expectedRevision : UInt64
deriving DecidableEq

structure EntityRevisionAssertion where
  id : RecordId
  expectedRevision : UInt64
deriving DecidableEq

structure WorkflowRevisionAssertion where
  id : WorkflowId
  kind : WorkflowKind
  expectedRevision : UInt64
deriving DecidableEq

end HnsWallet
