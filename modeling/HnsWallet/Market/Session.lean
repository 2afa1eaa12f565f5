import HnsWallet.Lib.Results
import HnsWallet.Store.Types

/-! # Swap sessions

A session journals one atomic swap between two chains (`hns-wallet-market`). -/

namespace HnsWallet

open Lib

inductive MarketError where
  | invalidQuote
  | invalidShakescapeDirectOfferPolicy
  | invalidShakescapeDirectOffer
  | shakescapeDirectOfferConflict
  | corruptShakescapeDirectOfferBoard
  | shakescapeDirectOfferCapacity
  | unknownShakescapeDirectOffer
  | invalidShakescapeDirectSwapPolicy
  | invalidShakescapeDirectSwap
  | unknownShakescapeDirectSwap
  | shakescapeDirectSwapConflict
  | shakescapeDirectSwapCapacity
  | corruptShakescapeDirectSwap
  | corruptShakescapeDirectSwapDetail (detail : String)
  | invalidShakescapePeerMessage
  | invalidPair
  | unsafeTimeouts
  | invalidTransition
  | invalidEvidence
  | peerHintNotEvidence
  | invariant
  | staleRevision
  | persistence
  /-- The source keeps the text of the store's error; the model keeps the error. -/
  | storeFailure (error : StoreError)
deriving DecidableEq, Repr

def MarketError.ofStoreError : StoreError → MarketError
  | .staleRevision _ _ => .staleRevision
  | error => .storeFailure error

structure VerifiedQuote where
  termsId : ObjectHash
  offered : Amount
  received : Amount
  validUntilUnix : UInt64
deriving DecidableEq

def VerifiedQuote.validate (q : VerifiedQuote) (nowUnix : UInt64) : Except MarketError Unit :=
  if q.offered.asset = q.received.asset ∨ q.offered.baseUnits = 0 ∨ q.received.baseUnits = 0 ∨
      q.validUntilUnix ≤ nowUnix then
    .error .invalidQuote
  else
    .ok ()

structure TimeoutPlan where
  firstChainRefundAt : UInt64
  secondChainRefundAt : UInt64
  minimumSafetyMargin : UInt64
deriving DecidableEq

def TimeoutPlan.marginMissing (p : TimeoutPlan) : Bool :=
  match checkedAdd p.secondChainRefundAt p.minimumSafetyMargin with
  | none => true
  | some minimum => p.firstChainRefundAt < minimum

def TimeoutPlan.validate (p : TimeoutPlan) (now : UInt64) : Except MarketError Unit :=
  if p.secondChainRefundAt ≤ now ∨ p.firstChainRefundAt ≤ p.secondChainRefundAt ∨
      p.marginMissing then
    .error .unsafeTimeouts
  else
    .ok ()

structure SecondFundingAuthorization where
  id : ObjectHash
  module : ModuleId
  firstFunding : ObjectHash
  firstFundingObservationGeneration : UInt64
  expiresAtUnix : UInt64
deriving DecidableEq

inductive SwapState where
  | offerPublished
  | offerAcceptanceReceived
  | offerReserved
  | termsFrozen
  | refundsPrepared
  | firstFundingPending
  | firstFunded
  | secondFundingPending
  | bothFunded
  | firstRedeemed
  | secretObserved
  | secondRedeemed
  | completed
  | refundEligible
  | refundBroadcast
  | refunded
  | failed
deriving DecidableEq, Repr

structure SwapSession where
  id : SessionId
  revision : UInt64
  state : SwapState
  firstModule : ModuleId
  secondModule : ModuleId
  offered : Amount
  received : Amount
  termsId : ObjectHash
  hashlock : ObjectHash
  acceptedShakescapeTerms : Option (List UInt8)
  timeouts : TimeoutPlan
  firstFunding : Option ObjectHash
  /-- The first-chain evidence was verified but a later chain view no longer
  contains it.  It stays journaled without any authority. -/
  firstFundingRevoked : Bool
  firstFundingObservationGeneration : UInt64
  firstFundingConfirmedGeneration : Option UInt64
  secondFundingAuthorization : Option SecondFundingAuthorization
  secondFunding : Option ObjectHash
  firstRedemption : Option ObjectHash
  secondRedemption : Option ObjectHash
  refund : Option ObjectHash
  firstRefund : Option ObjectHash
  secondRefund : Option ObjectHash
  lastVerifiedAtUnix : UInt64
  failureReason : Option String
deriving DecidableEq

def prefundingDeadlineFailure : String :=
  "funding deadline expired before first-chain authorization"

def prefundingBitcoinAbsenceFailure : String :=
  "funding deadline expired with verified absence of a Bitcoin lock"

namespace SwapSession

def new (id : SessionId) (firstModule secondModule : ModuleId) (quote : VerifiedQuote)
    (hashlock : ObjectHash) (timeouts : TimeoutPlan) (nowUnix : UInt64) :
    Except MarketError SwapSession := do
  quote.validate nowUnix
  timeouts.validate nowUnix
  if firstModule = secondModule ∨
      ¬ (firstModule.asset = quote.offered.asset ∨ firstModule.asset = quote.received.asset) ∨
      ¬ (secondModule.asset = quote.offered.asset ∨
        secondModule.asset = quote.received.asset) then
    .error .invalidPair
  else
    .ok {
      id
      revision := 0
      state := .offerPublished
      firstModule
      secondModule
      offered := quote.offered
      received := quote.received
      termsId := quote.termsId
      hashlock
      acceptedShakescapeTerms := none
      timeouts
      firstFunding := none
      firstFundingRevoked := false
      firstFundingObservationGeneration := 0
      firstFundingConfirmedGeneration := none
      secondFundingAuthorization := none
      secondFunding := none
      firstRedemption := none
      secondRedemption := none
      refund := none
      firstRefund := none
      secondRefund := none
      lastVerifiedAtUnix := nowUnix
      failureReason := none }

variable (s : SwapSession)

/-- Whether the latest completed local observation still proves the first lock
current.  Rows that never entered the generation protocol keep generation 0. -/
def firstFundingIsCurrent : Bool :=
  s.firstFunding.isSome && !s.firstFundingRevoked &&
    (s.firstFundingObservationGeneration == 0 ||
      s.firstFundingConfirmedGeneration == some s.firstFundingObservationGeneration)

variable (module : ModuleId)

def refundForModule : Option ObjectHash :=
  if module = s.firstModule then s.firstRefund
  else if module = s.secondModule then s.secondRefund
  else none

def canRefundModule : Bool :=
  if module = s.firstModule then
    s.firstFundingIsCurrent && s.firstRefund.isNone && s.secondRedemption.isNone
  else if module = s.secondModule then
    s.secondFunding.isSome && s.secondRefund.isNone && s.firstRedemption.isNone
  else
    false

def canRecordRefundForModule : Bool :=
  if module = s.firstModule then
    s.firstFunding.isSome && s.firstRefund.isNone && s.secondRedemption.isNone
  else if module = s.secondModule then
    s.secondFunding.isSome && s.secondRefund.isNone && s.firstRedemption.isNone
  else
    false

def moduleIsFunded : Bool :=
  if module = s.firstModule then s.firstFunding.isSome
  else if module = s.secondModule then s.secondFunding.isSome
  else false

def fundedModuleIsSettled : Bool :=
  if module = s.firstModule then
    s.firstFunding.isSome && (s.firstRefund.isSome || s.secondRedemption.isSome)
  else if module = s.secondModule then
    s.secondFunding.isSome && (s.secondRefund.isSome || s.firstRedemption.isSome)
  else
    false

def allFundedLegsSettled : Bool :=
  let anyFunded := s.firstFunding.isSome || s.secondFunding.isSome
  let firstSettled := s.firstFunding.isNone || s.firstRefund.isSome || s.secondRedemption.isSome
  let secondSettled :=
    s.secondFunding.isNone || s.secondRefund.isSome || s.firstRedemption.isSome
  anyFunded && firstSettled && secondSettled

def failedBeforeFunding : Bool :=
  s.failureReason == some prefundingDeadlineFailure ||
    s.failureReason == some prefundingBitcoinAbsenceFailure

end SwapSession

inductive VerifiedEvidence where
  | offerAcceptanceValidated
  | offerReserved
  | termsApproved (termsId : ObjectHash)
  | refundsValidated
  | fundingReady
  | firstFundingObservationStarted (module : ModuleId) (generation : UInt64)
  | firstFundingConfirmed (evidence : ObjectHash)
  | firstFundingConfirmedAtGeneration (evidence : ObjectHash) (module : ModuleId)
      (generation : UInt64)
  | firstFundingInvalidated (evidence : ObjectHash)
  | secondFundingReady
  | secondFundingAuthorizationIssued (authorization : SecondFundingAuthorization)
  | secondFundingConfirmed (evidence : ObjectHash)
  | firstRedemptionConfirmed (evidence : ObjectHash)
  | secretExtracted (hashlock : ObjectHash)
  | secondRedemptionConfirmed (evidence : ObjectHash)
  | completionValidated
  | refundEligibilityValidated
  | refundBroadcast (evidence : ObjectHash)
  | refundConfirmed (evidence : ObjectHash)
  | chainRefundConfirmed (module : ModuleId) (evidence : ObjectHash)
  | terminalFailure (reason : String)
deriving DecidableEq

def SwapState.fundingRefreshable : SwapState → Bool
  | .firstFunded | .secondFundingPending | .bothFunded | .firstRedeemed | .secretObserved
  | .refundEligible | .refundBroadcast | .refunded | .failed => true
  | _ => false

def SwapState.reopened : SwapState → SwapState
  | .refunded | .failed => .refundEligible
  | state => state

def SwapState.revoked : SwapState → SwapState
  | .refunded => .refundEligible
  | state => state

namespace SwapSession

variable (s : SwapSession)

def withFirstFunding (evidence : ObjectHash) (confirmed : Option UInt64) :
    SwapSession :=
  { s with
    firstFunding := some evidence
    firstFundingRevoked := false
    firstFundingConfirmedGeneration := confirmed
    secondFundingAuthorization := none }

def withRefund (module : ModuleId) (evidence : ObjectHash) : SwapSession :=
  if module = s.firstModule then
    { s with firstRefund := some evidence, refund := some evidence }
  else
    { s with secondRefund := some evidence, refund := some evidence }

def refundOutcome : SwapState :=
  if s.allFundedLegsSettled then .refunded else .refundEligible

def secretOutcome : SwapState :=
  if s.allFundedLegsSettled then .refunded else .secretObserved

def judge (evidence : VerifiedEvidence) (nowUnix : UInt64) :
    Except MarketError (SwapSession × SwapState) :=
  match evidence with
  | .offerAcceptanceValidated =>
    if s.state = .offerPublished then .ok (s, .offerAcceptanceReceived)
    else .error .invalidTransition
  | .offerReserved =>
    if s.state = .offerAcceptanceReceived then .ok (s, .offerReserved)
    else .error .invalidTransition
  | .termsApproved termsId =>
    if s.state = .offerReserved ∧ termsId = s.termsId then .ok (s, .termsFrozen)
    else .error .invalidTransition
  | .refundsValidated =>
    if s.state = .termsFrozen then .ok (s, .refundsPrepared)
    else .error .invalidTransition
  | .fundingReady =>
    if s.state = .refundsPrepared then .ok (s, .firstFundingPending)
    else .error .invalidTransition
  | .firstFundingObservationStarted module generation =>
    if (s.state = .firstFundingPending ∨ s.state.fundingRefreshable) ∧
        s.firstModule = module ∧
        (s.state = .firstFundingPending ∨ s.firstFunding.isSome ∨
          (s.state = .failed ∧ s.secondFunding.isNone ∧ s.failedBeforeFunding)) ∧
        s.secondRedemption.isNone ∧ s.firstRefund.isNone ∧
        checkedAdd s.firstFundingObservationGeneration 1 = some generation then
      .ok ({ s with
        firstFundingObservationGeneration := generation
        firstFundingConfirmedGeneration := none
        secondFundingAuthorization := none }, s.state)
    else
      .error .invalidTransition
  | .firstFundingConfirmed evidence =>
    if s.state = .firstFundingPending then
      .ok (s.withFirstFunding evidence none, .firstFunded)
    else if s.state = .failed ∧ s.firstFunding.isNone ∧ s.secondFunding.isNone ∧
        s.failedBeforeFunding then
      .ok ({ s.withFirstFunding evidence none with failureReason := none }, .firstFunded)
    else if s.state.fundingRefreshable ∧ s.firstFunding.isSome ∧
        s.firstFundingRevoked = false ∧ s.secondFunding.isNone then
      .ok (s.withFirstFunding evidence none, s.state.reopened)
    else
      .error .invalidTransition
  | .firstFundingConfirmedAtGeneration evidence module generation =>
    if s.state = .firstFundingPending ∧ s.firstModule = module ∧
        s.firstFundingObservationGeneration = generation ∧
        s.firstRefund.isNone ∧ s.secondRedemption.isNone then
      .ok (s.withFirstFunding evidence (some generation), .firstFunded)
    else if s.state = .failed ∧ s.firstModule = module ∧
        s.firstFundingObservationGeneration = generation ∧
        s.firstFunding.isNone ∧ s.secondFunding.isNone ∧ s.failedBeforeFunding then
      .ok ({ s.withFirstFunding evidence (some generation) with failureReason := none },
        .firstFunded)
    -- Unlike the unscoped refresh above, this arm does not ask for an earlier lock.
    else if s.state.fundingRefreshable ∧ s.firstModule = module ∧
        s.firstFundingObservationGeneration = generation ∧
        s.firstRefund.isNone ∧ s.secondRedemption.isNone then
      .ok (s.withFirstFunding evidence (some generation), s.state.reopened)
    else
      .error .invalidTransition
  | .firstFundingInvalidated evidence =>
    if s.state = .firstFunded ∧ s.firstFunding = some evidence ∧ s.secondFunding.isNone then
      .ok ({ s with
        firstFunding := none
        firstFundingRevoked := false
        firstFundingConfirmedGeneration := none
        secondFundingAuthorization := none }, .firstFundingPending)
    else if s.state.fundingRefreshable ∧ s.state ≠ .firstFunded ∧
        s.firstFunding = some evidence ∧ s.secondRedemption.isNone ∧ s.firstRefund.isNone then
      .ok ({ s with
        firstFundingRevoked := true
        firstFundingConfirmedGeneration := none
        secondFundingAuthorization := none }, s.state.revoked)
    else
      .error .invalidTransition
  | .secondFundingReady =>
    if s.state = .firstFunded then .ok (s, .secondFundingPending)
    else .error .invalidTransition
  | .secondFundingAuthorizationIssued authorization =>
    if s.state = .secondFundingPending ∧
        s.firstFunding = some authorization.firstFunding ∧
        s.firstFundingRevoked = false ∧ s.secondFunding.isNone ∧
        s.secondModule = authorization.module ∧
        s.firstFundingObservationGeneration =
          authorization.firstFundingObservationGeneration ∧
        s.firstFundingConfirmedGeneration =
          some authorization.firstFundingObservationGeneration ∧
        authorization.id.nonZero ∧ nowUnix < authorization.expiresAtUnix then
      .ok ({ s with secondFundingAuthorization := some authorization },
        .secondFundingPending)
    else
      .error .invalidTransition
  | .secondFundingConfirmed evidence =>
    if s.state = .secondFundingPending then
      .ok ({ s with secondFunding := some evidence }, .bothFunded)
    else
      .error .invalidTransition
  | .firstRedemptionConfirmed evidence =>
    if (s.state = .bothFunded ∨ s.state = .refundEligible) ∧ s.secondFunding.isSome ∧
        s.secondRefund.isNone ∧ s.firstRedemption.isNone then
      .ok ({ s with firstRedemption := some evidence }, .firstRedeemed)
    else
      .error .invalidTransition
  | .secretExtracted hashlock =>
    if s.state = .firstRedeemed ∧ hashlock = s.hashlock then
      .ok (s, s.secretOutcome)
    else
      .error .invalidTransition
  | .secondRedemptionConfirmed evidence =>
    if s.state = .secretObserved then
      .ok ({ s with secondRedemption := some evidence }, .secondRedeemed)
    else
      .error .invalidTransition
  | .completionValidated =>
    if s.state = .secondRedeemed then .ok (s, .completed)
    else .error .invalidTransition
  | .refundEligibilityValidated =>
    if (s.state = .firstFunded ∨ s.state = .secondFundingPending) ∧ s.firstFunding.isSome ∧
        s.secondFunding.isNone then
      .ok (s, .refundEligible)
    else
      .error .invalidTransition
  | .refundBroadcast evidence =>
    if s.state = .refundEligible then
      .ok ({ s with refund := some evidence }, .refundBroadcast)
    else
      .error .invalidTransition
  | .refundConfirmed evidence =>
    if s.state = .refundBroadcast ∧ s.refund = some evidence ∧ s.firstFunding.isSome ∧
        s.secondFunding.isNone then
      .ok ({ s with firstRefund := some evidence }, .refunded)
    else
      .error .invalidTransition
  | .chainRefundConfirmed module evidence =>
    if s.state.fundingRefreshable ∧ s.canRecordRefundForModule module then
      .ok (s.withRefund module evidence, (s.withRefund module evidence).refundOutcome)
    else
      .error .invalidTransition
  | .terminalFailure reason =>
    if s.state ≠ .completed ∧ s.state ≠ .refunded then
      if reason.utf8ByteSize = 0 ∨ 256 < reason.utf8ByteSize then .error .invalidEvidence
      else .ok ({ s with failureReason := some reason }, .failed)
    else
      .error .invalidTransition

def moveTo (next : SwapState) (nowUnix : UInt64) : SwapSession :=
  { s with
    secondFundingAuthorization :=
      if next = .secondFundingPending then s.secondFundingAuthorization else none
    state := next
    lastVerifiedAtUnix := nowUnix }

def transition (evidence : VerifiedEvidence) (nowUnix : UInt64) :
    Except MarketError SwapSession := do
  let (mutated, next) ← s.judge evidence nowUnix
  return mutated.moveTo next nowUnix

end SwapSession

class SwapJournal (J : Type) where
  save : J → SwapSession → UInt64 → Except MarketError J

namespace SwapSession

variable {J : Type} [SwapJournal J]

/-- Judge the evidence on a copy, save the copy under the next revision, and
only then adopt it. -/
def apply (s : SwapSession) (evidence : VerifiedEvidence) (nowUnix : UInt64) (journal : J) :
    Except MarketError (SwapSession × J) := do
  let next ← s.transition evidence nowUnix
  match checkedAdd s.revision 1 with
  | none => .error .invariant
  | some nextRevision =>
    let next := { next with revision := nextRevision }
    let journal ← SwapJournal.save journal next s.revision
    return (next, journal)

end SwapSession

end HnsWallet
