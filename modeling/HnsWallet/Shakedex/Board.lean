import HnsWallet.Types
import HnsWallet.Lib.Results
import HnsWallet.Lib.Keyed
import Mathlib.Data.List.Lex

/-! # The board of the name market -/

namespace HnsWallet

open Lib

def maxNameMarketBoardOffers : Nat := 4096

def nameMarketBoardSchemaVersion : UInt16 := 1

inductive ShakedexError where
  | invalidListing
  | invalidCancellation
  | nameMarketReplay
  | nameMarketBoardCapacity
  | corruptNameMarketBoard
deriving DecidableEq

structure SwapNetwork where
  magic : UInt32
  genesis : ObjectHash
deriving DecidableEq

structure FixedPriceListing where
  network : SwapNetwork
  sellerPublicKey : Bytes 33
  sequence : UInt64
  createdAt : UInt64
  expiresAt : UInt64
  proof : List UInt8
deriving DecidableEq

structure ListingCancellation where
  listingHash : ObjectHash
  sequence : UInt64
  createdAt : UInt64
  rest : List UInt8
deriving DecidableEq

def hashTail (bytes : List UInt8) : Option ObjectHash :=
  let tail := bytes.drop (bytes.length - 32)
  if h : tail.length = 32 then some ⟨tail, h⟩ else none

/-- The library of the name market.  An encoding ends in the hash of what it encodes, which
decoding checks; two listings of one hash are the same; a cancellation that was verified
for a listing names its hash, and holds for the listing's own network at the time when it
was made. -/
class NameMarketLibrary where
  decodeListing : List UInt8 → Option FixedPriceListing
  encodeListing : FixedPriceListing → Option (List UInt8)
  hashListing : FixedPriceListing → Option ObjectHash
  hashName : FixedPriceListing → Option ObjectHash
  decodeCancellation : List UInt8 → Option ListingCancellation
  encodeCancellation : ListingCancellation → Option (List UInt8)
  verifyForListing : ListingCancellation → FixedPriceListing → SwapNetwork → UInt64 → Bool
  decode_encodeListing {listing bytes} : encodeListing listing = some bytes →
    decodeListing bytes = some listing
  hashTail_listing {listing bytes} : decodeListing bytes = some listing →
    ∃ hash, hashListing listing = some hash ∧ hashTail bytes = some hash
  hashListing_injective {listing other hash} : hashListing listing = some hash →
    hashListing other = some hash → listing = other
  decode_encodeCancellation {cancellation bytes} : encodeCancellation cancellation = some bytes →
    decodeCancellation bytes = some cancellation
  verifyForListing_hash {cancellation listing network now} :
    verifyForListing cancellation listing network now →
    hashListing listing = some cancellation.listingHash
  verifyForListing_own {cancellation listing network now} :
    verifyForListing cancellation listing network now →
    verifyForListing cancellation listing listing.network cancellation.createdAt

open NameMarketLibrary

section Messages

variable [NameMarketLibrary]

@[ext]
structure VerifiedFixedPriceListing where
  listing : FixedPriceListing
  encoded : List UInt8
  listingHash : ObjectHash
  encoded_eq : encodeListing listing = some encoded
  hash_eq : hashListing listing = some listingHash

structure VerifiedListingCancellation where
  cancellation : ListingCancellation
  encoded : List UInt8
  cancellationHash : ObjectHash
  encoded_eq : encodeCancellation cancellation = some encoded
  hash_eq : hashTail encoded = some cancellationHash
  verified : ∃ listing network now, verifyForListing cancellation listing network now

end Messages

inductive BoardOfferStatus where
  | active
  | cancelled
deriving DecidableEq

inductive BoardOfferMutation where
  | existing
  | inserted
  | updated
deriving DecidableEq

structure BoardIdentity where
  networkMagic : UInt32
  networkGenesis : ObjectHash
  nameHash : ObjectHash
  sellerPublicKey : List UInt8
deriving DecidableEq

structure PersistedBoardOffer extends BoardIdentity where
  listingHash : ObjectHash
  listingBytes : List UInt8
  sequence : UInt64
  createdAtUnix : UInt64
  expiresAtUnix : UInt64
  status : BoardOfferStatus
  cancellationHash : Option ObjectHash
  cancellationBytes : Option (List UInt8)
  cancellationSequence : Option UInt64
deriving DecidableEq

structure SequenceWatermark extends BoardIdentity where
  sequence : UInt64
deriving DecidableEq

abbrev offerIdentity : PersistedBoardOffer → BoardIdentity := PersistedBoardOffer.toBoardIdentity

abbrev watermarkIdentity : SequenceWatermark → BoardIdentity := SequenceWatermark.toBoardIdentity

def hashKey (hash : ObjectHash) : List Nat :=
  hash.bytes.toList.map UInt8.toNat

def offerKey (offer : PersistedBoardOffer) : List Nat := hashKey offer.listingHash

def watermarkKey (watermark : SequenceWatermark) : List Nat :=
  watermark.networkMagic.toNat :: (hashKey watermark.networkGenesis ++
    (hashKey watermark.nameHash ++ watermark.sellerPublicKey.map UInt8.toNat))

def PersistedBoardOffer.lastSequence (offer : PersistedBoardOffer) : UInt64 :=
  offer.cancellationSequence.getD offer.sequence

def PersistedBoardOffer.watermark (offer : PersistedBoardOffer) : SequenceWatermark :=
  ⟨offerIdentity offer, offer.lastSequence⟩

structure NameMarketBoard where
  schemaVersion : UInt16
  offers : List PersistedBoardOffer
  watermarks : List SequenceWatermark
deriving DecidableEq

namespace NameMarketBoard

def default : NameMarketBoard := ⟨nameMarketBoardSchemaVersion, [], []⟩

variable (board : NameMarketBoard)

def offer (hash : ObjectHash) : Option PersistedBoardOffer :=
  board.offers.find? (·.listingHash = hash)

def watermarkOf (identity : BoardIdentity) : Option SequenceWatermark :=
  board.watermarks.find? (watermarkIdentity · = identity)

def raise (watermark : SequenceWatermark) : List SequenceWatermark :=
  replaceIf (watermarkIdentity · = watermarkIdentity watermark) watermark board.watermarks

def validateStructure : Except ShakedexError Unit := do
  refuseIf (board.schemaVersion ≠ nameMarketBoardSchemaVersion ∨
    maxNameMarketBoardOffers < board.offers.length ∨
    maxNameMarketBoardOffers < board.watermarks.length ∨
    board.offers.length ≠ board.watermarks.length ∨
    ¬ (board.offers.IsChain fun a b => offerKey a < offerKey b) ∨
    ¬ (board.watermarks.IsChain fun a b => watermarkKey a < watermarkKey b))
    .corruptNameMarketBoard
  refuseIf (¬ (board.watermarks.map watermarkIdentity).Nodup) .corruptNameMarketBoard
  refuseIf (takeEach (board.offers.map PersistedBoardOffer.watermark) board.watermarks ≠ some [])
    .corruptNameMarketBoard

end NameMarketBoard

section Methods

variable [NameMarketLibrary]

def validateOffer (offer : PersistedBoardOffer) : Except ShakedexError Unit := do
  let listing ← okOr (decodeListing offer.listingBytes) .corruptNameMarketBoard
  let listingHash ← okOr (hashTail offer.listingBytes) .corruptNameMarketBoard
  let nameHash ← okOr (hashName listing) .corruptNameMarketBoard
  refuseIf (listingHash ≠ offer.listingHash ∨ listing.network.magic ≠ offer.networkMagic ∨
    listing.network.genesis ≠ offer.networkGenesis ∨ nameHash ≠ offer.nameHash ∨
    listing.sellerPublicKey.toList ≠ offer.sellerPublicKey ∨ listing.sequence ≠ offer.sequence ∨
    listing.createdAt ≠ offer.createdAtUnix ∨ listing.expiresAt ≠ offer.expiresAtUnix)
    .corruptNameMarketBoard
  match offer.status, offer.cancellationHash, offer.cancellationBytes,
    offer.cancellationSequence with
  | .cancelled, some hash, some bytes, some sequence =>
    let cancellation ← okOr (decodeCancellation bytes) .corruptNameMarketBoard
    refuseIf (verifyForListing cancellation listing listing.network cancellation.createdAt = false)
      .corruptNameMarketBoard
    let cancellationHash ← okOr (hashTail bytes) .corruptNameMarketBoard
    refuseIf (cancellationHash ≠ hash ∨ cancellation.sequence ≠ sequence) .corruptNameMarketBoard
  | .active, none, none, none => return ()
  | _, _, _, _ => .error .corruptNameMarketBoard

def activeOffer (listing : VerifiedFixedPriceListing) (nameHash : ObjectHash) :
    PersistedBoardOffer where
  networkMagic := listing.listing.network.magic
  networkGenesis := listing.listing.network.genesis
  nameHash := nameHash
  sellerPublicKey := listing.listing.sellerPublicKey.toList
  listingHash := listing.listingHash
  listingBytes := listing.encoded
  sequence := listing.listing.sequence
  createdAtUnix := listing.listing.createdAt
  expiresAtUnix := listing.listing.expiresAt
  status := .active
  cancellationHash := none
  cancellationBytes := none
  cancellationSequence := none

def PersistedBoardOffer.cancel (offer : PersistedBoardOffer)
    (cancellation : VerifiedListingCancellation) : PersistedBoardOffer :=
  { offer with
    status := .cancelled
    cancellationHash := some cancellation.cancellationHash
    cancellationBytes := some cancellation.encoded
    cancellationSequence := some cancellation.cancellation.sequence }

namespace NameMarketBoard

variable (board : NameMarketBoard) (cancellation : VerifiedListingCancellation)

def validate : Except ShakedexError Unit := do
  board.validateStructure
  board.offers.forM validateOffer

/-- A method that may have changed the board before it failed. -/
abbrev Outcome := EStateM.Result ShakedexError NameMarketBoard

def replaceOffer (replacement : PersistedBoardOffer) :
    Outcome BoardOfferMutation :=
  let replaced := board.offers.find? (offerIdentity · = offerIdentity replacement)
  let offers := board.offers.eraseP (offerIdentity · = offerIdentity replacement)
  if (offers.find? (·.listingHash = replacement.listingHash)).isSome then
    .error .corruptNameMarketBoard { board with offers }
  else
    .ok (if replaced.isSome then .updated else .inserted)
      { board with offers := insertBy offerKey replacement offers }

def applyOfferToValidatedBoard (listing : VerifiedFixedPriceListing) :
    Outcome BoardOfferMutation :=
  match hashName listing.listing, board.offer listing.listingHash with
  | none, _ => .error .invalidListing board
  | some _, some existing =>
    if existing.listingBytes = listing.encoded ∧ existing.sequence = listing.listing.sequence then
      .ok .existing board
    else .error .nameMarketReplay board
  | some nameHash, none =>
    let replacement := activeOffer listing nameHash
    if board.offers.find? (offerIdentity · = offerIdentity replacement) = none ∧
        maxNameMarketBoardOffers ≤ board.offers.length then
      .error .nameMarketBoardCapacity board
    else
      match board.watermarkOf (offerIdentity replacement) with
      | some watermark =>
        if replacement.sequence ≤ watermark.sequence then .error .nameMarketReplay board
        else replaceOffer { board with watermarks := board.raise replacement.watermark } replacement
      | none =>
        if maxNameMarketBoardOffers ≤ board.watermarks.length then
          .error .nameMarketBoardCapacity board
        else
          replaceOffer { board with
            watermarks := insertBy watermarkKey replacement.watermark board.watermarks } replacement

def applyOffer (listing : VerifiedFixedPriceListing) : Outcome Bool :=
  match board.validate with
  | .error e => .error e board
  | .ok () =>
    match board.applyOfferToValidatedBoard listing with
    | .error e board => .error e board
    | .ok mutation board => .ok (mutation ≠ .existing) board

def applyCancellationToValidatedBoard : Outcome Bool :=
  match board.offer cancellation.cancellation.listingHash with
  | none => .error .invalidCancellation board
  | some offer =>
    match board.watermarkOf (offerIdentity offer) with
    | none => .error .corruptNameMarketBoard board
    | some watermark =>
      if offer.cancellationHash = some cancellation.cancellationHash ∧
          offer.cancellationBytes = some cancellation.encoded then .ok false board
      else if cancellation.cancellation.sequence ≤ watermark.sequence then
        .error .nameMarketReplay board
      else
        let cancelled := offer.cancel cancellation
        .ok true { board with
          watermarks := board.raise cancelled.watermark
          offers := replaceIf (·.listingHash = offer.listingHash) cancelled board.offers }

def applyCancellation :
    Outcome Bool :=
  match board.validate with
  | .error e => .error e board
  | .ok () => board.applyCancellationToValidatedBoard cancellation

/-- Drop the active listings of a network that are not in the snapshot of its node. -/
def retainTransportActiveListings (network : SwapNetwork)
    (activeListingHashes : List ObjectHash) : Outcome Bool :=
  let retained := { board with
    offers := board.offers.filter fun offer => offer.status = BoardOfferStatus.cancelled ∨
      offer.networkMagic ≠ network.magic ∨ offer.networkGenesis ≠ network.genesis ∨
      offer.listingHash ∈ activeListingHashes }
  match board.validate, retained.validate with
  | .error e, _ => .error e board
  | .ok (), .error e => .error e retained
  | .ok (), .ok () => .ok (retained.offers.length ≠ board.offers.length) retained

end NameMarketBoard

end Methods

def sameListing (left right : PersistedBoardOffer) : Bool :=
  left.listingHash = right.listingHash ∧ left.listingBytes = right.listingBytes ∧
    offerIdentity left = offerIdentity right ∧ left.sequence = right.sequence ∧
    left.createdAtUnix = right.createdAtUnix ∧ left.expiresAtUnix = right.expiresAtUnix

/-- Every offer is still there, unchanged or under a higher sequence number: listed again, or
the same listing cancelled.  Of two offers of one identity the map keeps the last. -/
def validateMonotonicBoardTransition (current target : NameMarketBoard) :
    Except ShakedexError Unit :=
  current.offers.forM fun currentOffer => do
    let targetOffer ← okOr (target.offers.reverse.find?
      (offerIdentity · = offerIdentity currentOffer)) .nameMarketReplay
    let currentSequence := currentOffer.lastSequence
    let targetSequence := targetOffer.lastSequence
    refuseIf (targetSequence < currentSequence) .nameMarketReplay
    if targetSequence = currentSequence then
      refuseIf (targetOffer ≠ currentOffer) .nameMarketReplay
    else
      refuseIf (¬ currentSequence < targetOffer.sequence ∧
        ¬ (sameListing currentOffer targetOffer ∧ targetOffer.status = .cancelled ∧
          targetOffer.cancellationSequence = some targetSequence)) .nameMarketReplay

end HnsWallet
