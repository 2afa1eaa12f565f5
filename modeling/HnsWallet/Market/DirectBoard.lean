import HnsWallet.Market.SessionBoard

/-! # The board of direct offers -/

namespace HnsWallet

open Lib

structure PersistedDirectOffer where
  schemaVersion : UInt16
  policyFingerprint : ObjectHash
  offerId : ObjectHash
  acceptedAtUnix : UInt64
  offerHex : List UInt8
  cancellationHex : Option (List UInt8)
  cancelledAtUnix : Option UInt64
deriving DecidableEq

structure ShakescapeDirectOfferRecord where
  storeRevision : UInt64
  acceptedAtUnix : UInt64
  cancelledAtUnix : Option UInt64
  offer : DirectOffer
  cancellation : Option DirectOfferCancellation
deriving DecidableEq

def ShakescapeDirectOfferRecord.isActiveAt (record : ShakescapeDirectOfferRecord)
    (nowUnix : UInt64) : Bool :=
  record.cancellation.isNone ∧ record.offer.header.createdAt ≤ nowUnix ∧
    nowUnix < record.offer.header.expiresAt

inductive ShakescapeDirectOfferAdmission where
  | inserted (record : ShakescapeDirectOfferRecord)
  | existing (record : ShakescapeDirectOfferRecord)

inductive ShakescapeDirectOfferCancellationAdmission where
  | applied (record : ShakescapeDirectOfferRecord)
  | existing (record : ShakescapeDirectOfferRecord)

def directOfferBoardSchemaVersion : UInt16 := 1

def directOfferBoardRecordPrefix : List UInt8 :=
  ascii "shakescape-v1-direct-offer\x00"

namespace ShakescapeDirectOfferBoardPolicy

def recordPrefix (policy : ShakescapeDirectOfferBoardPolicy) : RecordId :=
  directOfferBoardRecordPrefix ++ policy.fingerprint.bytes.toList

def recordId (policy : ShakescapeDirectOfferBoardPolicy) (offerId : Bytes 32) : RecordId :=
  policy.recordPrefix ++ offerId.toList

end ShakescapeDirectOfferBoardPolicy

class InventoryLimit where
  maxInventoryEntries : Nat

def maxShakescapeDirectOffers [InventoryLimit] : Nat := InventoryLimit.maxInventoryEntries

def maxDirectPublicationLifetimeSeconds : UInt64 := 604800

def boundedPublicationWindow (createdAt expiresAt : UInt64) : Bool :=
  (checkedSub expiresAt createdAt).any (· ≤ maxDirectPublicationLifetimeSeconds)

section Board

variable [DirectSwapProtocol]

open DirectSwapProtocol

def decodeCanonicalEnvelope (envelopeBytes : List UInt8) :
    Except MarketError (UInt64 × CrossChainMessage) := do
  refuseIf (envelopeBytes = []) .invalidShakescapePeerMessage
  let (requestId, message) ← (decodeEnvelope envelopeBytes).mapError
    fun _ => .invalidShakescapePeerMessage
  let encoded ← (encodeEnvelope message requestId).mapError
    fun _ => .invalidShakescapePeerMessage
  refuseIf (encoded ≠ envelopeBytes) .invalidShakescapePeerMessage
  return (requestId, message)

def decodeBoardObject {α : Type} (codec : Codec α) (bytes : List UInt8) (authentic : α → Bool) :
    Except MarketError α := do
  let object ← (codec.decode bytes).mapError fun _ => .corruptShakescapeDirectOfferBoard
  refuseIf (authentic object = false ∨ (codec.encode object).toOption ≠ some bytes)
    .corruptShakescapeDirectOfferBoard
  return object

section Rows

variable (policy : ShakescapeDirectOfferBoardPolicy)

def offerAuthentic (value : PersistedDirectOffer) (offer : DirectOffer) : Bool :=
  offer.offerId = value.offerId.bytes ∧
    (peerObjectValidationTime offer.header.createdAt value.acceptedAtUnix).any fun at_ =>
      (verifyOffer offer policy.network at_).toOption.isSome

def cancellationAuthentic (offer : DirectOffer) (acceptedAt cancelledAt : UInt64)
    (cancellation : DirectOfferCancellation) : Bool :=
  acceptedAt ≤ cancelledAt ∧
    (peerObjectValidationTime cancellation.header.createdAt cancelledAt).any fun at_ =>
      (verifyCancellation cancellation offer policy.network at_).toOption.isSome

def decodeStoredOffer (stored : StoredEntity PersistedDirectOffer) :
    Except MarketError ShakescapeDirectOfferRecord := do
  let value := stored.value
  refuseIf (value.schemaVersion ≠ directOfferBoardSchemaVersion ∨
    value.policyFingerprint ≠ policy.fingerprint ∨
    value.offerId.bytes = .replicate 32 0 ∨
    stored.id ≠ policy.recordId value.offerId.bytes ∨
    value.cancellationHex.isSome ≠ value.cancelledAtUnix.isSome)
    .corruptShakescapeDirectOfferBoard
  let offer ← decodeBoardObject offerCodec value.offerHex (offerAuthentic policy value)
  let cancellation ← value.cancellationHex.mapM fun bytes => do
    let cancelledAt ← okOr value.cancelledAtUnix .corruptShakescapeDirectOfferBoard
    decodeBoardObject cancellationCodec bytes
      (cancellationAuthentic policy offer value.acceptedAtUnix cancelledAt)
  refuseIf (stored.updatedAtUnix ≠ value.cancelledAtUnix.getD value.acceptedAtUnix)
    .corruptShakescapeDirectOfferBoard
  return ⟨stored.revision, value.acceptedAtUnix, value.cancelledAtUnix, offer, cancellation⟩

def encodeOffer (record : ShakescapeDirectOfferRecord) :
    Except MarketError PersistedDirectOffer := do
  let offerHex ← (offerCodec.encode record.offer).mapError fun _ => .invalidShakescapeDirectOffer
  let cancellationHex ← record.cancellation.mapM fun cancellation =>
    (cancellationCodec.encode cancellation).mapError fun _ => .invalidShakescapeDirectOffer
  return {
    schemaVersion := directOfferBoardSchemaVersion
    policyFingerprint := policy.fingerprint
    offerId := ⟨record.offer.offerId⟩
    acceptedAtUnix := record.acceptedAtUnix
    offerHex
    cancellationHex
    cancelledAtUnix := record.cancelledAtUnix }

end Rows

variable {V : Type} [Serde V PersistedDirectOffer] [Encoded V] (store : WalletStore V)
  (policy : ShakescapeDirectOfferBoardPolicy)

def loadShakescapeDirectOffer (offerId : Bytes 32) :
    Except MarketError (Option ShakescapeDirectOfferRecord) := do
  refuseIf (offerId = .replicate 32 0) .invalidShakescapeDirectOffer
  let row ← liftStore (store.loadEntity PersistedDirectOffer .shakescapeBoardObject
    (policy.recordId offerId))
  row.mapM (decodeStoredOffer policy)

def physicalOffers (limit : Nat) :
    Except MarketError (List (StoredEntity PersistedDirectOffer)) :=
  liftStore (store.listEntitiesByIdPrefix PersistedDirectOffer .shakescapeBoardObject
    policy.recordPrefix limit)

def ShakescapeDirectOfferRecord.isPublished (record : ShakescapeDirectOfferRecord)
    (nowUnix : UInt64) : Bool :=
  nowUnix < record.offer.header.expiresAt ∧
    boundedPublicationWindow record.offer.header.createdAt record.offer.header.expiresAt ∧
    record.cancellation.all fun cancellation => nowUnix < cancellation.header.expiresAt ∧
      boundedPublicationWindow cancellation.header.createdAt cancellation.header.expiresAt

/-- The offers that are still published.  One row that does not decode fails them all. -/
def loadShakescapeDirectOffers [InventoryLimit] (store : WalletStore V)
    (policy : ShakescapeDirectOfferBoardPolicy) (nowUnix : UInt64) :
    Except MarketError (List ShakescapeDirectOfferRecord) := do
  let stored ← physicalOffers store policy (maxShakescapeDirectOffers + 1)
  refuseIf (maxShakescapeDirectOffers < stored.length) .shakescapeDirectOfferCapacity
  let records ← stored.mapM (decodeStoredOffer policy)
  return (records.filter fun record => record.isPublished nowUnix).insertionSort
    fun a b => a.offer.offerId.toList ≤ b.offer.offerId.toList

def ShakescapeDirectOfferRecord.retainUntil (record : ShakescapeDirectOfferRecord) : UInt64 :=
  match record.cancellation with
  | none => record.offer.header.expiresAt
  | some cancellation => max cancellation.header.expiresAt record.offer.header.expiresAt

def ShakescapeDirectOfferRecord.isBounded (record : ShakescapeDirectOfferRecord) : Bool :=
  boundedPublicationWindow record.offer.header.createdAt record.offer.header.expiresAt ∧
    record.cancellation.all fun cancellation =>
      boundedPublicationWindow cancellation.header.createdAt cancellation.header.expiresAt

def pruneOffers (policy : ShakescapeDirectOfferBoardPolicy) (protectedOfferIds : List (Bytes 32))
    (nowUnix : UInt64) (store : WalletStore V) (removed : Nat) :
    List (StoredEntity PersistedDirectOffer) → Except MarketError Nat × WalletStore V
  | [] => (.ok removed, store)
  | row :: rows =>
    match decodeStoredOffer policy row with
    | .error e => (.error e, store)
    | .ok record =>
      if (nowUnix < record.retainUntil ∧ record.isBounded) ∨
          record.offer.offerId ∈ protectedOfferIds then
        pruneOffers policy protectedOfferIds nowUnix store removed rows
      else
        match liftStore (store.deleteEntity .shakescapeBoardObject row.id row.revision) with
        | .error e => (.error e, store)
        | .ok (store, deleted) => pruneOffers policy protectedOfferIds nowUnix store
            (if deleted then removed + 1 else removed) rows

def pruneExpiredUnreferencedShakescapeDirectOffers (protectedOfferIds : List (Bytes 32))
    (nowUnix : UInt64) : Except MarketError Nat × WalletStore V :=
  if nowUnix = 0 then
    (.error .invalidShakescapeDirectOffer, store)
  else
    match physicalOffers store policy maxEntityListResults with
    | .error e => (.error e, store)
    | .ok stored => pruneOffers policy protectedOfferIds nowUnix store 0 stored

def admitShakescapeDirectOffer [InventoryLimit] (store : WalletStore V)
    (policy : ShakescapeDirectOfferBoardPolicy) (envelopeBytes : List UInt8)
    (acceptedAtUnix : UInt64) :
    Except MarketError (ShakescapeDirectOfferAdmission × WalletStore V) := do
  let (_, message) ← decodeCanonicalEnvelope envelopeBytes
  let offer ← match message with
    | .directOffer offer => .ok offer
    | _ => .error .invalidShakescapeDirectOffer
  let validationTime ← okOr (peerObjectValidationTime offer.header.createdAt acceptedAtUnix)
    .invalidShakescapeDirectOffer
  (verifyOffer offer policy.network validationTime).mapError fun _ => .invalidShakescapeDirectOffer
  refuseIf (boundedPublicationWindow offer.header.createdAt offer.header.expiresAt = false)
    .invalidShakescapeDirectOffer
  match ← loadShakescapeDirectOffer store policy offer.offerId with
  | some existing =>
    refuseIf (existing.offer ≠ offer) .shakescapeDirectOfferConflict
    return (.existing existing, store)
  | none =>
    let physical ← physicalOffers store policy (maxShakescapeDirectOffers + 1)
    refuseIf (maxShakescapeDirectOffers ≤ physical.length) .shakescapeDirectOfferCapacity
    let record : ShakescapeDirectOfferRecord := ⟨0, acceptedAtUnix, none, offer, none⟩
    let persisted ← encodeOffer policy record
    let (store, revision) ← liftStore (store.saveEntity .shakescapeBoardObject
      (policy.recordId offer.offerId) 0 persisted acceptedAtUnix)
    return (.inserted { record with storeRevision := revision }, store)

def admitShakescapeDirectOfferCancellation (envelopeBytes : List UInt8) (acceptedAtUnix : UInt64) :
    Except MarketError (ShakescapeDirectOfferCancellationAdmission × WalletStore V) := do
  let (_, message) ← decodeCanonicalEnvelope envelopeBytes
  let cancellation ← match message with
    | .cancelDirectOffer cancellation => .ok cancellation
    | _ => .error .invalidShakescapeDirectOffer
  let validationTime ← okOr
    (peerObjectValidationTime cancellation.header.createdAt acceptedAtUnix)
    .invalidShakescapeDirectOffer
  let loaded ← loadShakescapeDirectOffer store policy cancellation.offerId
  let record ← okOr loaded .unknownShakescapeDirectOffer
  (verifyCancellation cancellation record.offer policy.network validationTime).mapError
    fun _ => .invalidShakescapeDirectOffer
  refuseIf (boundedPublicationWindow cancellation.header.createdAt
    cancellation.header.expiresAt = false) .invalidShakescapeDirectOffer
  match record.cancellation with
  | some existing =>
    refuseIf (existing ≠ cancellation) .shakescapeDirectOfferConflict
    return (.existing record, store)
  | none =>
    let cancelled : ShakescapeDirectOfferRecord :=
      { record with cancelledAtUnix := some acceptedAtUnix, cancellation := some cancellation }
    let persisted ← encodeOffer policy cancelled
    let (store, revision) ← liftStore (store.saveEntity .shakescapeBoardObject
      (policy.recordId record.offer.offerId) record.storeRevision persisted acceptedAtUnix)
    return (.applied { cancelled with storeRevision := revision }, store)

end Board

end HnsWallet
