import HnsWallet.Market.SessionBoard

/-! # Settlement keys -/

namespace HnsWallet

open Lib

class KeyDerivation where
  hkdfExpand : List UInt8 → List UInt8 → List UInt8 → Option (Bytes 32)
  signingPublicKey : Bytes 32 → Option (Bytes 33)
  isPublicKey : Bytes 33 → Bool

inductive SwapParticipant where
  | maker
  | taker
deriving DecidableEq, Repr

def SwapParticipant.code : SwapParticipant → UInt8
  | .maker => 0
  | .taker => 1

structure CrossChainSwapKeyRequest where
  walletId : WalletId
  sessionId : SessionId
  participant : SwapParticipant
  network : NetworkBinding
deriving DecidableEq

inductive CrossChainSwapKeyError where
  | invalidRequest
  | bindingConflict
  | allocationNotFound
  | corruptAllocation
  | derivationFailed
  | clockRollback
  | concurrentModification
  | wrongParticipant
  | sessionMismatch
  | store (error : StoreError)
  | protocol (error : MarketplaceError)
deriving DecidableEq, Repr

structure CrossChainSwapKeyAllocation where
  storageVersion : UInt16
  walletId : WalletId
  sessionId : SessionId
  participant : SwapParticipant
  networkEncoding : List UInt8
  contextCommitment : ObjectHash
  compressedPublicKey : Bytes 33
  recoverySeedCommitment : Bytes 32
  allocatedAtUnix : UInt64
deriving DecidableEq

structure CrossChainSwapKey where
  request : CrossChainSwapKeyRequest
  compressedPublicKey : Bytes 33
  secret : Bytes 32
deriving DecidableEq

def CrossChainSwapKey.publicKey (key : CrossChainSwapKey) : Bytes 33 :=
  key.compressedPublicKey

def swapKeyStorageVersion : UInt16 := 2

def recoverySeedBytes : Nat := 64

def maxDerivationAttempts : Nat := 256

def swapKeyRecordIdDomain : List UInt8 :=
  ascii "hns-wallet/cross-chain-swap-key/record/v2\x00"

def swapKeyContextDomain : List UInt8 :=
  ascii "hns-wallet/cross-chain-swap-key/context/v2\x00"

def recoverySeedCommitmentDomain : List UInt8 :=
  ascii "hns-wallet/cross-chain-swap-key/recovery-seed/v2\x00"

def derivationSalt : List UInt8 :=
  ascii "hns-wallet/cross-chain-swap-key/hkdf-sha256/v2\x00"

def derivationInfoDomain : List UInt8 :=
  ascii "hns-wallet/cross-chain-swap-key/scalar/v2\x00"

section Keys

variable [Sha256] [DirectSwapProtocol] [KeyDerivation]

def contextCommitment (request : CrossChainSwapKeyRequest) (networkEncoding : List UInt8) :
    ObjectHash :=
  ⟨Sha256.digest (swapKeyContextDomain ++ beBytes 2 swapKeyStorageVersion.toNat ++
    request.sessionId.bytes.toList ++ [request.participant.code] ++ networkEncoding)⟩

def allocationRecordId (walletId : WalletId) (sessionId : SessionId)
    (participant : SwapParticipant) : RecordId :=
  (Sha256.digest (swapKeyRecordIdDomain ++ beBytes 2 swapKeyStorageVersion.toNat ++
    walletId.bytes.toList ++ sessionId.bytes.toList ++ [participant.code])).toList

def recoverySeedCommitmentFromCleartext (seed : List UInt8) : Bytes 32 :=
  Sha256.digest (recoverySeedCommitmentDomain ++ seed)

def CrossChainSwapKeyRequest.validate (request : CrossChainSwapKeyRequest) :
    Except CrossChainSwapKeyError (List UInt8) := do
  refuseIf (request.walletId.bytes.isZero ∨ request.sessionId.bytes.isZero) .invalidRequest
  (MarketplaceProtocol.validateForPair request.network).mapError fun _ => .invalidRequest
  (MarketplaceProtocol.encodeNetwork request.network).mapError fun _ => .invalidRequest

namespace CrossChainSwapKeyAllocation

variable (allocation : CrossChainSwapKeyAllocation)

def request : Except CrossChainSwapKeyError CrossChainSwapKeyRequest := do
  let network ← (DirectSwapProtocol.decodeNetwork allocation.networkEncoding).mapError
    fun _ => .corruptAllocation
  return ⟨allocation.walletId, allocation.sessionId, allocation.participant, network⟩

def validate : Except CrossChainSwapKeyError Unit := do
  refuseIf (allocation.storageVersion ≠ swapKeyStorageVersion ∨
    allocation.allocatedAtUnix = 0 ∨
    allocation.recoverySeedCommitment.isZero ∨
    KeyDerivation.isPublicKey allocation.compressedPublicKey = false) .corruptAllocation
  let request ← allocation.request
  let expectedNetwork ← request.validate.mapError fun _ => .corruptAllocation
  refuseIf (allocation.networkEncoding ≠ expectedNetwork ∨
    allocation.contextCommitment ≠ HnsWallet.contextCommitment request allocation.networkEncoding)
    .corruptAllocation

def matchesRequest (request : CrossChainSwapKeyRequest) (networkEncoding : List UInt8) : Prop :=
  allocation.walletId = request.walletId ∧
    allocation.sessionId = request.sessionId ∧
    allocation.participant = request.participant ∧
    allocation.networkEncoding = networkEncoding ∧
    allocation.contextCommitment = HnsWallet.contextCommitment request networkEncoding

instance (request : CrossChainSwapKeyRequest) (networkEncoding : List UInt8) :
    Decidable (allocation.matchesRequest request networkEncoding) :=
  inferInstanceAs (Decidable (_ ∧ _))

end CrossChainSwapKeyAllocation

variable {V : Type} [Encoded V] [Serde V CrossChainSwapKeyAllocation] (store : WalletStore V)

def recoverySeed (walletId : WalletId) : Except CrossChainSwapKeyError (List UInt8) := do
  let secret ← (store.getSecret walletId.bytes.toList .recoverySeed).mapError .store
  let seed ← okOr secret .derivationFailed
  refuseIf (seed.length ≠ recoverySeedBytes) .derivationFailed
  return seed

def firstScalar (seed : List UInt8) (context : ObjectHash) :
    List Nat → Except CrossChainSwapKeyError (Bytes 32 × Bytes 33)
  | [] => .error .derivationFailed
  | attempt :: attempts => do
    let secret ← okOr (KeyDerivation.hkdfExpand derivationSalt seed
      (derivationInfoDomain ++ context.bytes.toList ++ beBytes 4 attempt)) .derivationFailed
    match KeyDerivation.signingPublicKey secret with
    | some publicKey => return (secret, publicKey)
    | none => firstScalar seed context attempts

def deriveKeyFromStore (request : CrossChainSwapKeyRequest) (networkEncoding : List UInt8) :
    Except CrossChainSwapKeyError (CrossChainSwapKey × Bytes 32) := do
  let seed ← recoverySeed store request.walletId
  let (secret, publicKey) ← firstScalar seed (contextCommitment request networkEncoding)
    (List.range maxDerivationAttempts)
  return (⟨request, publicKey, secret⟩, recoverySeedCommitmentFromCleartext seed)

def loadCrossChainSwapKeyAllocation (walletId : WalletId) (sessionId : SessionId)
    (participant : SwapParticipant) :
    Except CrossChainSwapKeyError (Option CrossChainSwapKeyAllocation) := do
  refuseIf (walletId.bytes.isZero ∨ sessionId.bytes.isZero) .invalidRequest
  let row ← (store.loadEntity CrossChainSwapKeyAllocation .crossChainSwapKeyAllocation
    (allocationRecordId walletId sessionId participant)).mapError .store
  match row with
  | none => return none
  | some stored =>
    refuseIf (stored.revision ≠ 1 ∨
      stored.updatedAtUnix ≠ stored.value.allocatedAtUnix ∨
      stored.value.walletId ≠ walletId ∨
      stored.value.sessionId ≠ sessionId ∨
      stored.value.participant ≠ participant) .corruptAllocation
    stored.value.validate
    let seed ← recoverySeed store walletId
    refuseIf (recoverySeedCommitmentFromCleartext seed ≠ stored.value.recoverySeedCommitment)
      .corruptAllocation
    return some stored.value

def deriveCrossChainSwapKeyFromStore (request : CrossChainSwapKeyRequest) :
    Except CrossChainSwapKeyError CrossChainSwapKey := do
  let networkEncoding ← request.validate
  let binding ← loadCrossChainSwapKeyAllocation store request.walletId request.sessionId
    request.participant
  let allocation ← okOr binding .allocationNotFound
  refuseIf (¬ allocation.matchesRequest request networkEncoding) .bindingConflict
  let (key, seedCommitment) ← deriveKeyFromStore store request networkEncoding
  refuseIf (key.publicKey ≠ allocation.compressedPublicKey ∨
    seedCommitment ≠ allocation.recoverySeedCommitment) .corruptAllocation
  return key

end Keys

end HnsWallet
