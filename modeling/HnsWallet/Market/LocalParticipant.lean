import HnsWallet.Market.SettlementKey

/-! # The local side of a session -/

namespace HnsWallet

open Lib

structure PersistedLocalDirectOffer where
  storageVersion : UInt16
  walletId : WalletId
  offerId : ObjectHash
  sessionId : SessionId
  offeredFeeReserve : UInt64
  createdAtUnix : UInt64
deriving DecidableEq

structure PersistedLocalDirectAcceptance where
  storageVersion : UInt16
  walletId : WalletId
  offerId : ObjectHash
  sessionId : SessionId
  receivedFeeReserve : UInt64
  createdAtUnix : UInt64
deriving DecidableEq

structure PersistedLocalDirectAcceptanceAbandonment where
  storageVersion : UInt16
  walletId : WalletId
  offerId : ObjectHash
  sessionId : SessionId
  abandonedAtUnix : UInt64
deriving DecidableEq

def localDirectOfferStorageVersion : UInt16 := 2

def localDirectAcceptanceStorageVersion : UInt16 := 1

def abandonmentStorageVersion : UInt16 := 1

def localDirectOfferRecordPrefix : List UInt8 :=
  ascii "local-direct-offer/v1/"

def localDirectAcceptanceRecordPrefix : List UInt8 :=
  ascii "local-direct-acceptance/v1/"

def abandonmentRecordPrefix : List UInt8 :=
  ascii "local-direct-acceptance-abandonment/v1/"

def localRecordId (walletId : WalletId) (offerId : Bytes 32) : RecordId :=
  localDirectOfferRecordPrefix ++ walletId.bytes.toList ++ offerId.toList

def localAcceptanceRecordId (walletId : WalletId) (sessionId : SessionId) : RecordId :=
  localDirectAcceptanceRecordPrefix ++ walletId.bytes.toList ++ sessionId.bytes.toList

def abandonmentRecordId (walletId : WalletId) (sessionId : SessionId) : RecordId :=
  abandonmentRecordPrefix ++ walletId.bytes.toList ++ sessionId.bytes.toList

section Records

variable {V : Type} [Encoded V] (store : WalletStore V)

def loadLocalOffer [Serde V PersistedLocalDirectOffer] (walletId : WalletId)
    (offerId : Bytes 32) : Except MarketError PersistedLocalDirectOffer := do
  let row ← liftStore (store.loadEntity PersistedLocalDirectOffer .shakescapeBoardObject
    (localRecordId walletId offerId))
  let stored ← okOr row .unknownShakescapeDirectOffer
  let record := stored.value
  refuseIf (stored.revision ≠ 1 ∨
    record.storageVersion ≠ localDirectOfferStorageVersion ∨
    record.walletId ≠ walletId ∨
    record.offerId ≠ ⟨offerId⟩ ∨
    record.sessionId.bytes.isZero ∨
    record.createdAtUnix ≠ stored.updatedAtUnix) .corruptShakescapeDirectOfferBoard
  return record

def validateStoredAcceptance (walletId : WalletId)
    (stored : StoredEntity PersistedLocalDirectAcceptance) :
    Except MarketError PersistedLocalDirectAcceptance := do
  let row := stored.value
  refuseIf (stored.revision ≠ 1 ∨
    row.storageVersion ≠ localDirectAcceptanceStorageVersion ∨
    row.walletId ≠ walletId ∨
    row.offerId.bytes.isZero ∨
    row.sessionId.bytes.isZero ∨
    row.receivedFeeReserve = 0 ∨
    row.createdAtUnix ≠ stored.updatedAtUnix ∨
    stored.id ≠ localAcceptanceRecordId walletId row.sessionId) .corruptShakescapeDirectSwap
  return row

def loadLocalAcceptance [Serde V PersistedLocalDirectAcceptance] (walletId : WalletId)
    (sessionId : SessionId) : Except MarketError (Option PersistedLocalDirectAcceptance) := do
  let row ← liftStore (store.loadEntity PersistedLocalDirectAcceptance .shakescapeBoardObject
    (localAcceptanceRecordId walletId sessionId))
  row.mapM (validateStoredAcceptance walletId)

def loadAbandonment [Serde V PersistedLocalDirectAcceptanceAbandonment] (walletId : WalletId)
    (sessionId : SessionId) (expectedId : RecordId) :
    Except MarketError (Option PersistedLocalDirectAcceptanceAbandonment) := do
  let row ← liftStore (store.loadEntity PersistedLocalDirectAcceptanceAbandonment
    .shakescapeBoardObject expectedId)
  row.mapM fun stored => do
    let row := stored.value
    refuseIf (stored.revision ≠ 1 ∨
      row.storageVersion ≠ abandonmentStorageVersion ∨
      row.walletId ≠ walletId ∨
      row.sessionId ≠ sessionId ∨
      row.offerId.bytes.isZero ∨
      row.abandonedAtUnix = 0 ∨
      row.abandonedAtUnix ≠ stored.updatedAtUnix ∨
      stored.id ≠ expectedId) .corruptShakescapeDirectSwap
    return row

def isLocalAcceptanceAbandoned [Serde V PersistedLocalDirectAcceptanceAbandonment]
    (walletId : WalletId) (sessionId : SessionId) : Except MarketError Bool := do
  return (← loadAbandonment store walletId sessionId
    (abandonmentRecordId walletId sessionId)).isSome

end Records

def isHnsBtcDirection : AssetId → AssetId → Bool
  | .btc, .hns | .hns, .btc => true
  | _, _ => false

section Participants

variable [Sha256] [DirectSwapProtocol] [KeyDerivation]
  {V : Type} [Encoded V] [Serde V SwapSession] [Serde V PersistedShakescapeDirectSwap]
  [Serde V CrossChainSwapKeyAllocation] (store : WalletStore V)
  (policy : ShakescapeDirectSwapPolicy) (walletId : WalletId) (sessionId : SessionId)

def deriveLocalDirectTakerKey [Serde V PersistedLocalDirectOffer] :
    Except MarketError (CrossChainSwapKey × UInt64) := do
  let swap ← loadShakescapeDirectSwap store policy sessionId
  let record ← okOr swap .unknownShakescapeDirectSwap
  let local_ ← loadLocalOffer store walletId record.offer.offerId
  refuseIf (local_.sessionId ≠ sessionId) .shakescapeDirectSwapConflict
  refuseIf (∀ hello ∈ record.hello, hello.swapSessionId ≠ sessionId.bytes ∨
    isHnsBtcDirection hello.offeredAsset hello.receivedAsset = false)
    .shakescapeDirectSwapConflict
  let key ← (deriveCrossChainSwapKeyFromStore store
    ⟨walletId, sessionId, .taker, policy.network⟩).mapError fun _ => .persistence
  refuseIf (key.publicKey ≠ record.offer.offerSetterSettlementPublicKey)
    .shakescapeDirectSwapConflict
  return (key, local_.offeredFeeReserve)

def deriveLocalDirectMakerKey [Serde V PersistedLocalDirectAcceptance]
    [Serde V PersistedLocalDirectAcceptanceAbandonment] :
    Except MarketError (CrossChainSwapKey × UInt64) := do
  let swap ← loadShakescapeDirectSwap store policy sessionId
  let record ← okOr swap .unknownShakescapeDirectSwap
  let acceptance ← loadLocalAcceptance store walletId sessionId
  let local_ ← okOr acceptance .unknownShakescapeDirectSwap
  -- The abandonment row is read only for an acceptance of this very offer.
  refuseIf (local_.offerId ≠ ⟨record.offer.offerId⟩) .shakescapeDirectSwapConflict
  let abandoned ← isLocalAcceptanceAbandoned store walletId sessionId
  refuseIf (abandoned = true) .shakescapeDirectSwapConflict
  refuseIf (record.offer.swapSessionId ≠ sessionId.bytes ∨
    isHnsBtcDirection record.offer.offeredAsset record.offer.receivedAsset = false)
    .shakescapeDirectSwapConflict
  let key ← (deriveCrossChainSwapKeyFromStore store
    ⟨walletId, sessionId, .maker, policy.network⟩).mapError fun _ => .persistence
  refuseIf (key.publicKey ≠ record.acceptance.respondingMakerSettlementPublicKey)
    .shakescapeDirectSwapConflict
  return (key, local_.receivedFeeReserve)

end Participants

def makerPreimageRecordDomain : List UInt8 :=
  ascii "hns-wallet/direct-maker-preimage/record/v2\x00"

def shakescapeObservedPreimageDomain : List UInt8 :=
  ascii "hns-wallet-rs/shakescape-observed-preimage/v1"

def makerPreimageRecordId (sessionId : SessionId) : RecordId :=
  makerPreimageRecordDomain ++ sessionId.bytes.toList

def shakescapeObservedPreimageId (sessionId : SessionId) : RecordId :=
  shakescapeObservedPreimageDomain ++ sessionId.bytes.toList

section Preimages

variable {V : Type} (store : WalletStore V) (sessionId : SessionId)

def loadPreimage (id : RecordId) : Except MarketError (Option (Bytes 32)) := do
  let secret ← liftStore (store.getSecret id .htlcPreimage)
  secret.mapM fun value =>
    if h : value.length = 32 then .ok ⟨value, h⟩ else .error .invalidEvidence

def loadShakescapeDirectMakerPreimage : Except MarketError (Option (Bytes 32)) :=
  loadPreimage store (makerPreimageRecordId sessionId)

def loadLocallyVerifiedShakescapePreimage : Except MarketError (Option (Bytes 32)) :=
  loadPreimage store (shakescapeObservedPreimageId sessionId)

end Preimages

end HnsWallet
