import HnsWallet.Market.DirectBoard

/-! # Messages that reach the session board -/

namespace HnsWallet

open Lib

inductive ShakescapeDirectSwapAdmission where
  | created (record : ShakescapeDirectSwapRecord)
  | advanced (record : ShakescapeDirectSwapRecord)
  | existing (record : ShakescapeDirectSwapRecord)
deriving DecidableEq

def ShakescapeDirectSwapAdmission.record :
    ShakescapeDirectSwapAdmission → ShakescapeDirectSwapRecord
  | created record => record
  | advanced record => record
  | existing record => record

inductive ShakescapeDirectSwapPeerStatus where
  | funding (status : SwapFundingStatus)
  | redeem (status : SwapSettlementStatus)
  | refund (status : SwapSettlementStatus)
  | watchReady (status : SwapWatchReady)
deriving DecidableEq

namespace ShakescapeDirectSwapPeerStatus

def sessionId : ShakescapeDirectSwapPeerStatus → SessionId
  | funding status => ⟨status.swapSessionId⟩
  | redeem status => ⟨status.swapSessionId⟩
  | refund status => ⟨status.swapSessionId⟩
  | watchReady status => ⟨status.swapSessionId⟩

def createdAtUnix : ShakescapeDirectSwapPeerStatus → UInt64
  | funding status => status.header.createdAt
  | redeem status => status.header.createdAt
  | refund status => status.header.createdAt
  | watchReady status => status.header.createdAt

def verifyForSession [DirectSwapProtocol] (hello : SwapSessionHello) (network : NetworkBinding)
    (at_ : UInt64) : ShakescapeDirectSwapPeerStatus → Except MarketplaceError Unit
  | funding status => DirectSwapProtocol.verifyFundingStatus status hello network at_
  | redeem status => DirectSwapProtocol.verifyRedeemStatus status hello network at_
  | refund status => DirectSwapProtocol.verifyRefundStatus status hello network at_
  | watchReady status => DirectSwapProtocol.verifyWatchReady status hello network at_

end ShakescapeDirectSwapPeerStatus

section Admission

variable [DirectSwapProtocol] [Sha256] {V : Type} [Encoded V] [Serde V SwapSession]
  [Serde V PersistedShakescapeDirectSwap]

open DirectSwapProtocol

def admitShakescapeDirectOfferAcceptance [Serde V PersistedDirectOffer] (store : WalletStore V)
    (policy : ShakescapeDirectSwapPolicy) (envelopeBytes : List UInt8) (acceptedAtUnix : UInt64) :
    Except MarketError (ShakescapeDirectSwapAdmission × WalletStore V) := do
  let (requestId, message) ← decodeCanonicalEnvelope envelopeBytes
  let acceptance ← match message with
    | .acceptDirectOffer acceptance => .ok acceptance
    | _ => .error .invalidShakescapeDirectSwap
  let validationTime ← okOr (peerObjectValidationTime acceptance.header.createdAt acceptedAtUnix)
    .invalidShakescapeDirectSwap
  let loaded ← loadShakescapeDirectOffer store policy.boardPolicy acceptance.offerId
  let offer ← okOr loaded .unknownShakescapeDirectOffer
  let sessionId : SessionId := ⟨acceptance.swapSessionId⟩
  match ← loadShakescapeDirectSwap store policy sessionId with
  | some existing =>
    -- A replay is accepted even after the offer has ended.
    refuseIf (¬ (existing.offer = offer.offer ∧ existing.acceptance = acceptance))
      .shakescapeDirectSwapConflict
    return (.existing existing, store)
  | none =>
    refuseIf (offer.isActiveAt acceptedAtUnix = false) .invalidShakescapeDirectSwap
    (verifyAcceptance acceptance offer.offer policy.network validationTime).mapError
      fun _ => .invalidShakescapeDirectSwap
    let retained ← loadShakescapeDirectSwaps store policy
    refuseIf (maxShakescapeDirectSwapRecords ≤ retained.length) .shakescapeDirectSwapCapacity
    let active ← activeObligations store policy retained
    refuseIf (maxShakescapeDirectSwaps ≤ active) .shakescapeDirectSwapCapacity
    let offerHex ← encodeHex offerCodec offer.offer
    let acceptanceHex ← encodeHex acceptanceCodec acceptance
    let persisted : PersistedShakescapeDirectSwap := {
      schemaVersion := shakescapeDirectSwapSchemaVersion
      policyFingerprint := policy.fingerprint
      sessionId
      acceptanceRequestId := requestId
      proposalRequestId := none
      acceptanceReceivedAtUnix := acceptedAtUnix
      proposalAcceptedAtUnix := none
      helloAcceptedAtUnix := none
      offerHex
      acceptanceHex
      proposalHex := none
      helloHex := none
      watchReadyAcceptedAtUnix := none
      firstChainWatchReadyHex := none
      peerFundingStatuses := [] }
    let (store, revision) ← liftStore (store.saveEntity .swapSession (policy.recordId sessionId) 0
      persisted acceptedAtUnix)
    return (.created {
      storeRevision := revision
      acceptanceRequestId := requestId
      proposalRequestId := none
      acceptanceReceivedAtUnix := acceptedAtUnix
      proposalAcceptedAtUnix := none
      helloAcceptedAtUnix := none
      offer := offer.offer
      acceptance
      proposal := none
      hello := none
      watchReadyAcceptedAtUnix := none
      firstChainWatchReady := none
      peerFundingStatuses := [] }, store)

variable (store : WalletStore V) (policy : ShakescapeDirectSwapPolicy)
  (envelopeBytes : List UInt8) (acceptedAtUnix : UInt64)

def admitShakescapeDirectSwapProposal :
    Except MarketError (ShakescapeDirectSwapAdmission × WalletStore V) := do
  let (requestId, message) ← decodeCanonicalEnvelope envelopeBytes
  let proposal ← match message with
    | .swapSessionProposal proposal => .ok proposal
    | _ => .error .invalidShakescapeDirectSwap
  let validationTime ← okOr
    (peerObjectValidationTime proposal.terms.header.createdAt acceptedAtUnix)
    .invalidShakescapeDirectSwap
  let sessionId : SessionId := ⟨proposal.terms.swapSessionId⟩
  let loaded ← loadShakescapeDirectSwap store policy sessionId
  let record ← okOr loaded .unknownShakescapeDirectSwap
  if record.proposalRequestId = some requestId ∧ record.proposal = some proposal then
    return (.existing record, store)
  refuseIf (record.proposal.any fun existing => ¬ (record.hello.isNone ∧
    verifyProposalAt existing policy.network acceptedAtUnix = .error .expired))
    .shakescapeDirectSwapConflict
  (verifyProposal proposal record.offer record.acceptance policy.network validationTime).mapError
    fun _ => .invalidShakescapeDirectSwap
  let persisted ← encodePersisted policy record
  let proposalHex ← encodeHex proposalCodec proposal
  let (store, revision) ← liftStore (store.saveEntity .swapSession (policy.recordId sessionId)
    record.storeRevision
    { persisted with
      proposalRequestId := some requestId
      proposalAcceptedAtUnix := some acceptedAtUnix
      proposalHex := some proposalHex } acceptedAtUnix)
  return (.advanced { record with
    storeRevision := revision
    proposalRequestId := some requestId
    proposalAcceptedAtUnix := some acceptedAtUnix
    proposal := some proposal }, store)

def admitShakescapeDirectSwapHello :
    Except MarketError (ShakescapeDirectSwapAdmission × WalletStore V) := do
  let (requestId, message) ← decodeCanonicalEnvelope envelopeBytes
  let hello ← match message with
    | .swapSessionHello hello => .ok hello
    | _ => .error .invalidShakescapeDirectSwap
  let validationTime ← okOr (peerObjectValidationTime hello.header.createdAt acceptedAtUnix)
    .invalidShakescapeDirectSwap
  let sessionId : SessionId := ⟨hello.swapSessionId⟩
  let loaded ← loadShakescapeDirectSwap store policy sessionId
  let record ← okOr loaded .unknownShakescapeDirectSwap
  refuseIf (record.proposalRequestId ≠ some requestId) .invalidShakescapeDirectSwap
  match record.hello with
  | some existing =>
    refuseIf (existing ≠ hello) .shakescapeDirectSwapConflict
    return (.existing record, store)
  | none =>
    let proposal ← okOr record.proposal .invalidShakescapeDirectSwap
    refuseIf (proposal.terms ≠ { hello with takerSignature := .replicate 64 0 })
      .shakescapeDirectSwapConflict
    refuseIf (verifyLate (verifyHello hello record.offer record.acceptance policy.network)
      validationTime hello.header.createdAt = false) .invalidShakescapeDirectSwap
    let retained ← loadShakescapeDirectSwaps store policy
    let active ← activeObligations store policy retained
    refuseIf (maxShakescapeDirectSwaps ≤ active) .shakescapeDirectSwapCapacity
    let persisted ← encodePersisted policy record
    let helloHex ← encodeHex helloCodec hello
    let (store, revision) ← liftStore (store.saveEntity .swapSession (policy.recordId sessionId)
      record.storeRevision
      { persisted with
        helloAcceptedAtUnix := some acceptedAtUnix
        helloHex := some helloHex } acceptedAtUnix)
    return (.advanced { record with
      storeRevision := revision
      helloAcceptedAtUnix := some acceptedAtUnix
      hello := some hello }, store)

/-! ## After the hello -/

omit [Sha256] [Serde V SwapSession]

def admitShakescapeDirectSwapWatchReady :
    Except MarketError (ShakescapeDirectSwapAdmission × WalletStore V) := do
  let (_, message) ← decodeCanonicalEnvelope envelopeBytes
  let ready ← match message with
    | .swapWatchReady ready => .ok ready
    | _ => .error .invalidShakescapePeerMessage
  let validationTime ← okOr (peerObjectValidationTime ready.header.createdAt acceptedAtUnix)
    .invalidShakescapePeerMessage
  let sessionId : SessionId := ⟨ready.swapSessionId⟩
  let loaded ← loadShakescapeDirectSwap store policy sessionId
  let record ← okOr loaded .unknownShakescapeDirectSwap
  let hello ← okOr record.hello .invalidShakescapeDirectSwap
  refuseIf (ready.chain ≠ hello.firstFundingChain) .invalidShakescapePeerMessage
  match record.firstChainWatchReady with
  | some existing =>
    refuseIf (existing ≠ ready) .shakescapeDirectSwapConflict
    return (.existing record, store)
  | none =>
    refuseIf (verifyLate (verifyWatchReady ready hello policy.network) validationTime
      ready.header.createdAt = false) .invalidShakescapePeerMessage
    let persisted ← encodePersisted policy record
    let readyHex ← encodeHex watchReadyCodec ready
    let (store, revision) ← liftStore (store.saveEntity .swapSession (policy.recordId sessionId)
      record.storeRevision
      { persisted with
        watchReadyAcceptedAtUnix := some acceptedAtUnix
        firstChainWatchReadyHex := some readyHex } acceptedAtUnix)
    return (.advanced { record with
      storeRevision := revision
      watchReadyAcceptedAtUnix := some acceptedAtUnix
      firstChainWatchReady := some ready }, store)

def validateShakescapeDirectSwapPeerStatus (nowUnix : UInt64) :
    Except MarketError ShakescapeDirectSwapPeerStatus := do
  let (_, message) ← decodeCanonicalEnvelope envelopeBytes
  let status ← match message with
    | .swapFundingStatus status => .ok (.funding status)
    | .swapRedeemStatus status => .ok (.redeem status)
    | .swapRefundStatus status => .ok (.refund status)
    | .swapWatchReady status => .ok (.watchReady status)
    | _ => .error .invalidShakescapePeerMessage
  let validationTime ← okOr (peerObjectValidationTime status.createdAtUnix nowUnix)
    .invalidShakescapePeerMessage
  let loaded ← loadShakescapeDirectSwap store policy status.sessionId
  let record ← okOr loaded .unknownShakescapeDirectSwap
  let hello ← okOr record.hello .invalidShakescapeDirectSwap
  (status.verifyForSession hello policy.network validationTime).mapError
    fun _ => .invalidShakescapePeerMessage
  return status

def withFundingStatus (statuses : List ShakescapePeerFundingStatusRecord)
    (funding : SwapFundingStatus) (nowUnix : UInt64) : List ShakescapePeerFundingStatusRecord :=
  let added : ShakescapePeerFundingStatusRecord := ⟨nowUnix, funding⟩
  (statuses.filter (·.status.chain ≠ funding.chain) ++ [added]).insertionSort
    fun a b => chainCode a.status.chain ≤ chainCode b.status.chain

def admitShakescapeDirectSwapPeerStatus (nowUnix : UInt64) :
    Except MarketError (ShakescapeDirectSwapPeerStatus × WalletStore V) := do
  let status ← validateShakescapeDirectSwapPeerStatus store policy envelopeBytes nowUnix
  match status with
  | .funding funding => do
    let sessionId : SessionId := ⟨funding.swapSessionId⟩
    let loaded ← loadShakescapeDirectSwap store policy sessionId
    let record ← okOr loaded .unknownShakescapeDirectSwap
    let existing := record.peerFundingStatuses.find? (·.status.chain = funding.chain)
    if existing.any (·.status = funding) then
      return (status, store)
    refuseIf (existing.any fun existing =>
      funding.header.sequence ≤ existing.status.header.sequence) .shakescapeDirectSwapConflict
    let record := { record with
      peerFundingStatuses := withFundingStatus record.peerFundingStatuses funding nowUnix }
    refuseIf (2 < record.peerFundingStatuses.length) .corruptShakescapeDirectSwap
    let persisted ← encodePersisted policy record
    let (store, _) ← liftStore (store.saveEntity .swapSession (policy.recordId sessionId)
      record.storeRevision persisted nowUnix)
    return (status, store)
  | _ => return (status, store)

end Admission

end HnsWallet
