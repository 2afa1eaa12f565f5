import HnsWallet.Market.DirectProtocol
import HnsWallet.Market.Journal
import HnsWallet.Store.Listing

/-! # The session board -/

namespace HnsWallet

open Lib

structure ShakescapePeerFundingStatusRecord where
  acceptedAtUnix : UInt64
  status : SwapFundingStatus
deriving DecidableEq

structure ShakescapeDirectSwapRecord where
  storeRevision : UInt64
  acceptanceRequestId : UInt64
  proposalRequestId : Option UInt64
  acceptanceReceivedAtUnix : UInt64
  proposalAcceptedAtUnix : Option UInt64
  helloAcceptedAtUnix : Option UInt64
  offer : DirectOffer
  acceptance : DirectOfferAcceptance
  proposal : Option SwapSessionProposal
  hello : Option SwapSessionHello
  watchReadyAcceptedAtUnix : Option UInt64
  firstChainWatchReady : Option SwapWatchReady
  peerFundingStatuses : List ShakescapePeerFundingStatusRecord
deriving DecidableEq

def ShakescapeDirectSwapRecord.lastAcceptedAtUnix (record : ShakescapeDirectSwapRecord) :
    UInt64 :=
  ([record.proposalAcceptedAtUnix, record.helloAcceptedAtUnix,
      record.watchReadyAcceptedAtUnix].reduceOption ++
    record.peerFundingStatuses.map ShakescapePeerFundingStatusRecord.acceptedAtUnix).foldl max
    record.acceptanceReceivedAtUnix

def timestampsMonotonic (record : ShakescapeDirectSwapRecord) : Prop :=
  [some record.acceptanceReceivedAtUnix, record.proposalAcceptedAtUnix,
    record.helloAcceptedAtUnix, record.watchReadyAcceptedAtUnix].reduceOption.IsChain (· ≤ ·)

instance (record : ShakescapeDirectSwapRecord) : Decidable (timestampsMonotonic record) :=
  inferInstanceAs (Decidable (List.IsChain _ _))

structure PersistedPeerFundingStatus where
  acceptedAtUnix : UInt64
  statusHex : List UInt8
deriving DecidableEq

/-- The row of a swap.  A `Hex` field is the canonical encoding that the source keeps
as lower-case hexadecimal text. -/
structure PersistedShakescapeDirectSwap where
  schemaVersion : UInt16
  policyFingerprint : ObjectHash
  sessionId : SessionId
  acceptanceRequestId : UInt64
  proposalRequestId : Option UInt64
  acceptanceReceivedAtUnix : UInt64
  proposalAcceptedAtUnix : Option UInt64
  helloAcceptedAtUnix : Option UInt64
  offerHex : List UInt8
  acceptanceHex : List UInt8
  proposalHex : Option (List UInt8)
  helloHex : Option (List UInt8)
  watchReadyAcceptedAtUnix : Option UInt64
  firstChainWatchReadyHex : Option (List UInt8)
  peerFundingStatuses : List PersistedPeerFundingStatus
deriving DecidableEq

def shakescapeDirectSwapSchemaVersion : UInt16 := 1

def shakescapeDirectSwapRecordPrefix : List UInt8 :=
  ascii "shakescape-v1-direct-swap\x00"

def maxConcurrentSwapSessions : Nat := 16

def maxShakescapeDirectSwaps : Nat := maxConcurrentSwapSessions

def maxShakescapeDirectSwapHistory : Nat := 240

def maxShakescapeDirectSwapRecords : Nat :=
  maxShakescapeDirectSwaps + maxShakescapeDirectSwapHistory

namespace ShakescapeDirectSwapPolicy

def recordPrefix (policy : ShakescapeDirectSwapPolicy) : RecordId :=
  shakescapeDirectSwapRecordPrefix ++ policy.fingerprint.bytes.toList

def recordId (policy : ShakescapeDirectSwapPolicy) (sessionId : SessionId) : RecordId :=
  policy.recordPrefix ++ sessionId.bytes.toList

end ShakescapeDirectSwapPolicy

def maxShakescapePeerClockSkewSeconds : UInt64 := 600

def peerObjectValidationTime (createdAtUnix receivedAtUnix : UInt64) : Option UInt64 :=
  if createdAtUnix ≤ saturatingAdd receivedAtUnix maxShakescapePeerClockSkewSeconds then
    some (max receivedAtUnix createdAtUnix)
  else
    none

def encodeHex {α : Type} (codec : Codec α) (value : α) : Except MarketError (List UInt8) :=
  (codec.encode value).mapError fun _ => .invalidShakescapeDirectSwap

def decodeHex {α : Type} (codec : Codec α) (bytes : List UInt8) : Except MarketError α := do
  let value ← (codec.decode bytes).mapError fun _ => .corruptShakescapeDirectSwap
  refuseIf ((codec.encode value).toOption ≠ some bytes) .corruptShakescapeDirectSwap
  return value

def decodeField {α : Type} (codec : Codec α) (field : String) (bytes : List UInt8) :
    Except MarketError α :=
  (decodeHex codec bytes).mapError fun _ => .corruptShakescapeDirectSwapDetail field

def verifyLate (verify : UInt64 → Except MarketplaceError Unit) (at_ createdAt : UInt64) : Bool :=
  match verify at_ with
  | .ok () => true
  | .error .expired => (verify createdAt).toOption.isSome
  | .error .rejected => false

section Board

variable [DirectSwapProtocol]

open DirectSwapProtocol

def acceptanceAuthentic (policy : ShakescapeDirectSwapPolicy) (offer : DirectOffer)
    (acceptance : DirectOfferAcceptance) (receivedAt : UInt64) : Bool :=
  match peerObjectValidationTime acceptance.header.createdAt receivedAt with
  | none => false
  | some at_ => (verifyAcceptance acceptance offer policy.network at_).toOption.isSome

namespace ShakescapeDirectSwapRecord

variable (policy : ShakescapeDirectSwapPolicy) (record : ShakescapeDirectSwapRecord)

def proposalAuthentic : Bool :=
  match record.proposal, record.proposalAcceptedAtUnix with
  | some proposal, some acceptedAt =>
    match peerObjectValidationTime proposal.terms.header.createdAt acceptedAt with
    | none => false
    | some at_ => verifyLate (verifyProposal proposal record.offer record.acceptance
        policy.network) at_ proposal.terms.header.createdAt
  | _, _ => true

def helloAuthentic : Bool :=
  match record.hello, record.helloAcceptedAtUnix with
  | some hello, some acceptedAt =>
    match peerObjectValidationTime hello.header.createdAt acceptedAt with
    | none => false
    | some at_ => verifyLate (verifyHello hello record.offer record.acceptance
        policy.network) at_ hello.header.createdAt
  | _, _ => true

def helloMatchesProposal : Bool :=
  match record.hello, record.proposal with
  | some hello, some proposal => proposal.terms = { hello with takerSignature := .replicate 64 0 }
  | _, _ => true

def watchReadyAuthentic : Bool :=
  match record.firstChainWatchReady, record.watchReadyAcceptedAtUnix, record.hello with
  | some ready, some acceptedAt, some hello =>
    match peerObjectValidationTime ready.header.createdAt acceptedAt with
    | none => false
    | some at_ => ready.chain = hello.firstFundingChain ∧
        verifyLate (verifyWatchReady ready hello policy.network) at_ ready.header.createdAt
  | _, _, _ => true

def fundingStatusAuthentic (funding : ShakescapePeerFundingStatusRecord) : Bool :=
  match record.hello with
  | none => false
  | some hello =>
    match peerObjectValidationTime funding.status.header.createdAt funding.acceptedAtUnix with
    | none => false
    | some at_ => (verifyFundingStatus funding.status hello policy.network at_).toOption.isSome

def FundingBefore (a b : ShakescapePeerFundingStatusRecord) : Prop :=
  chainCode a.status.chain < chainCode b.status.chain

instance : DecidableRel FundingBefore := fun _ _ =>
  inferInstanceAs (Decidable (_ < _))

def peerFundingAuthentic : Bool :=
  record.peerFundingStatuses.length ≤ 2 ∧
    record.peerFundingStatuses.IsChain FundingBefore ∧
    record.peerFundingStatuses.all (record.fundingStatusAuthentic policy)

end ShakescapeDirectSwapRecord

def malformedEnvelope (policy : ShakescapeDirectSwapPolicy)
    (stored : StoredEntity PersistedShakescapeDirectSwap) : Prop :=
  let value := stored.value
  value.schemaVersion ≠ shakescapeDirectSwapSchemaVersion ∨
    value.policyFingerprint ≠ policy.fingerprint ∨
    value.acceptanceRequestId = 0 ∨
    value.proposalRequestId = some 0 ∨
    stored.id ≠ policy.recordId value.sessionId ∨
    value.proposalAcceptedAtUnix.isSome ≠ value.proposalHex.isSome ∨
    value.proposalRequestId.isSome ≠ value.proposalHex.isSome ∨
    value.helloAcceptedAtUnix.isSome ≠ value.helloHex.isSome ∨
    (value.helloHex.isSome ∧ value.proposalHex.isNone) ∨
    value.watchReadyAcceptedAtUnix.isSome ≠ value.firstChainWatchReadyHex.isSome ∨
    (value.firstChainWatchReadyHex.isSome ∧ value.helloHex.isNone)

instance (policy : ShakescapeDirectSwapPolicy)
    (stored : StoredEntity PersistedShakescapeDirectSwap) :
    Decidable (malformedEnvelope policy stored) := by
  unfold malformedEnvelope
  infer_instance

def decodeMessages (stored : StoredEntity PersistedShakescapeDirectSwap) (offer : DirectOffer)
    (acceptance : DirectOfferAcceptance) : Except MarketError ShakescapeDirectSwapRecord := do
  let value := stored.value
  let proposal ← value.proposalHex.mapM (decodeField proposalCodec "canonical proposal encoding")
  let hello ← value.helloHex.mapM (decodeField helloCodec "canonical hello encoding")
  let firstChainWatchReady ← value.firstChainWatchReadyHex.mapM
    (decodeField watchReadyCodec "canonical watch-ready encoding")
  let peerFundingStatuses ← value.peerFundingStatuses.mapM fun status => do
    return ⟨status.acceptedAtUnix, ← decodeField fundingStatusCodec
      "canonical peer-funding encoding" status.statusHex⟩
  return {
    storeRevision := stored.revision
    acceptanceRequestId := value.acceptanceRequestId
    proposalRequestId := value.proposalRequestId
    acceptanceReceivedAtUnix := value.acceptanceReceivedAtUnix
    proposalAcceptedAtUnix := value.proposalAcceptedAtUnix
    helloAcceptedAtUnix := value.helloAcceptedAtUnix
    offer
    acceptance
    proposal
    hello
    watchReadyAcceptedAtUnix := value.watchReadyAcceptedAtUnix
    firstChainWatchReady
    peerFundingStatuses }

def decodeStoredSwap (policy : ShakescapeDirectSwapPolicy)
    (stored : StoredEntity PersistedShakescapeDirectSwap) :
    Except MarketError ShakescapeDirectSwapRecord := do
  let value := stored.value
  refuseIf (malformedEnvelope policy stored) (.corruptShakescapeDirectSwapDetail "record envelope")
  let offer ← decodeField offerCodec "canonical offer encoding" value.offerHex
  let acceptance ← decodeField acceptanceCodec "canonical acceptance encoding" value.acceptanceHex
  refuseIf (SessionId.mk acceptance.swapSessionId ≠ value.sessionId ∨
    acceptanceAuthentic policy offer acceptance value.acceptanceReceivedAtUnix = false)
    (.corruptShakescapeDirectSwapDetail "acceptance authentication")
  let record ← decodeMessages stored offer acceptance
  refuseIf (record.proposalAuthentic policy = false)
    (.corruptShakescapeDirectSwapDetail "proposal authentication")
  refuseIf (record.helloAuthentic policy = false)
    (.corruptShakescapeDirectSwapDetail "hello authentication")
  refuseIf (record.hello.isSome ∧ record.proposal.isNone)
    (.corruptShakescapeDirectSwapDetail "hello without proposal")
  refuseIf (record.helloMatchesProposal = false)
    (.corruptShakescapeDirectSwapDetail "proposal/hello term mismatch")
  refuseIf (record.watchReadyAuthentic policy = false)
    (.corruptShakescapeDirectSwapDetail "watch-ready authentication")
  refuseIf (record.peerFundingAuthentic policy = false)
    (.corruptShakescapeDirectSwapDetail "peer-funding authentication")
  refuseIf (stored.updatedAtUnix ≠ record.lastAcceptedAtUnix ∨ ¬ timestampsMonotonic record)
    (.corruptShakescapeDirectSwapDetail "record timestamps")
  return record

def encodePersisted (policy : ShakescapeDirectSwapPolicy) (record : ShakescapeDirectSwapRecord) :
    Except MarketError PersistedShakescapeDirectSwap := do
  let offerHex ← encodeHex offerCodec record.offer
  let acceptanceHex ← encodeHex acceptanceCodec record.acceptance
  let proposalHex ← record.proposal.mapM (encodeHex proposalCodec)
  let helloHex ← record.hello.mapM (encodeHex helloCodec)
  let firstChainWatchReadyHex ← record.firstChainWatchReady.mapM (encodeHex watchReadyCodec)
  let peerFundingStatuses ← record.peerFundingStatuses.mapM fun status => do
    return ⟨status.acceptedAtUnix, ← encodeHex fundingStatusCodec status.status⟩
  return {
    schemaVersion := shakescapeDirectSwapSchemaVersion
    policyFingerprint := policy.fingerprint
    sessionId := ⟨record.acceptance.swapSessionId⟩
    acceptanceRequestId := record.acceptanceRequestId
    proposalRequestId := record.proposalRequestId
    acceptanceReceivedAtUnix := record.acceptanceReceivedAtUnix
    proposalAcceptedAtUnix := record.proposalAcceptedAtUnix
    helloAcceptedAtUnix := record.helloAcceptedAtUnix
    offerHex
    acceptanceHex
    proposalHex
    helloHex
    watchReadyAcceptedAtUnix := record.watchReadyAcceptedAtUnix
    firstChainWatchReadyHex
    peerFundingStatuses }

variable {V : Type} [Encoded V] [Serde V SwapSession] [Serde V PersistedShakescapeDirectSwap]

def loadShakescapeDirectSwap (store : WalletStore V) (policy : ShakescapeDirectSwapPolicy)
    (sessionId : SessionId) : Except MarketError (Option ShakescapeDirectSwapRecord) := do
  let row ← liftStore (store.loadEntity PersistedShakescapeDirectSwap .swapSession
    (policy.recordId sessionId))
  row.mapM (decodeStoredSwap policy)

def loadShakescapeDirectSwaps (store : WalletStore V) (policy : ShakescapeDirectSwapPolicy) :
    Except MarketError (List ShakescapeDirectSwapRecord) := do
  let stored ← liftStore (store.listEntitiesByIdPrefix PersistedShakescapeDirectSwap .swapSession
    policy.recordPrefix (maxShakescapeDirectSwapRecords + 1))
  refuseIf (maxShakescapeDirectSwapRecords < stored.length) .shakescapeDirectSwapCapacity
  stored.mapM (decodeStoredSwap policy)

def swapHasActiveObligation [Sha256] (store : WalletStore V)
    (policy : ShakescapeDirectSwapPolicy) (record : ShakescapeDirectSwapRecord) :
    Except MarketError Bool :=
  if record.hello.isNone then
    .ok false
  else do
    match ← loadShakescapeExecution store policy ⟨record.acceptance.swapSessionId⟩ with
    | none => return true
    | some execution =>
      return !(execution.state == .completed ||
        (execution.state == .refunded && execution.allFundedLegsSettled) ||
        (execution.state == .failed && execution.firstFunding.isNone &&
          execution.secondFunding.isNone))

def activeObligations [Sha256] (store : WalletStore V) (policy : ShakescapeDirectSwapPolicy)
    (retained : List ShakescapeDirectSwapRecord) : Except MarketError Nat := do
  let active ← retained.mapM (swapHasActiveObligation store policy)
  return active.count true

end Board

end HnsWallet
