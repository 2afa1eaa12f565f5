import HnsWallet.Bitcoin.Htlc
import HnsWallet.Market.JournalLaws

/-! # Funding observed on a chain -/

namespace HnsWallet

open Lib

structure VerifiedLock where
  module : ModuleId
  sessionId : SessionId
  fundingId : Bytes 32
  amount : Amount
  hashlock : ObjectHash
  absoluteTimelock : UInt64
  confirmationCount : UInt32
  evidenceHash : ObjectHash

structure VerifiedBitcoinLock where
  fundingTxid : Bytes 32
  outputIndex : UInt32
  valueSats : UInt64
  confirmationCount : UInt32
  htlc : BitcoinHtlc

inductive LocallyVerifiedSwapFunding where
  | hns (lock : VerifiedLock)
  | bitcoin (lock : VerifiedBitcoinLock)

def LocallyVerifiedSwapFunding.module : LocallyVerifiedSwapFunding → ModuleId
  | .hns _ => .handshake
  | .bitcoin _ => .bitcoin

variable (hello : SwapSessionHello)

def hnsSide : Except MarketError SwapAssetSide :=
  if hello.offeredAsset = .hns then .ok .offered
  else if hello.receivedAsset = .hns then .ok .received
  else .error .invalidPair

def bitcoinSide : Except MarketError SwapAssetSide :=
  if hello.offeredAsset = .btc then .ok .offered
  else if hello.receivedAsset = .btc then .ok .received
  else .error .invalidPair

def confirmationMinimum : SwapAssetSide → UInt32
  | .offered => hello.offeredMinimumConfirmations
  | .received => hello.receivedMinimumConfirmations

def verifiedShakescapeFundingDomain : List UInt8 :=
  ascii "hns-wallet-rs/verified-shakescape-funding/v1"

section Funding

variable [Sha256] [MarketplaceProtocol] [BitcoinLibrary]

def canonicalHnsDescriptor (hello : SwapSessionHello) (side : SwapAssetSide) :
    Except MarketError HnsHtlc := do
  let (receiver, refund) := hello.lockKeys side
  let binding ← (MarketplaceProtocol.buildHnsHtlc hello side receiver refund).mapError
    fun _ => .invalidShakescapeDirectSwap
  return binding.descriptor

def verifyLocalFundingAgainstShakescapeTerms (hello : SwapSessionHello) :
    LocallyVerifiedSwapFunding → Except MarketError Unit
  | .hns lock => do
    let side ← hnsSide hello
    let descriptor ← canonicalHnsDescriptor hello side
    refuseIf (lock.module ≠ .handshake ∨
      lock.sessionId ≠ ⟨hello.swapSessionId⟩ ∨
      lock.amount.asset ≠ .hns ∨
      lock.amount.baseUnits.val ≠ descriptor.value.toNat ∨
      lock.hashlock.bytes ≠ descriptor.hashlock ∨
      lock.absoluteTimelock.toNat ≠ descriptor.refundLocktime.toNat ∨
      lock.confirmationCount < confirmationMinimum hello side) .invalidEvidence
  | .bitcoin lock => do
    let side ← bitcoinSide hello
    let descriptor ← (buildShakescapeBitcoinHtlc hello side).mapError
      fun _ => .invalidShakescapeDirectSwap
    refuseIf (lock.valueSats ≠ descriptor.valueSats ∨
      lock.confirmationCount < confirmationMinimum hello side ∨
      lock.htlc ≠ descriptor.htlc) .invalidEvidence

def fundingEvidenceId : LocallyVerifiedSwapFunding → ObjectHash
  | .hns lock => ⟨Sha256.digest (verifiedShakescapeFundingDomain ++ [0] ++
      lock.fundingId.toList ++ lock.evidenceHash.bytes.toList)⟩
  | .bitcoin lock => ⟨Sha256.digest (verifiedShakescapeFundingDomain ++ [1] ++
      lock.fundingTxid.toList ++ beBytes 4 lock.outputIndex.toNat)⟩

def readIsLatest (session : SwapSession) (module : ModuleId) (generation : UInt64) : Bool :=
  module = session.firstModule ∧
    session.firstFundingObservationGeneration = generation ∧
    session.firstRefund = none ∧ session.secondRedemption = none ∧
    (session.state = .firstFundingPending ∨ session.state.fundingRefreshable)

def firstFundingEvidence (module : ModuleId) (evidence : ObjectHash) :
    Option UInt64 → VerifiedEvidence
  | some generation => .firstFundingConfirmedAtGeneration evidence module generation
  | none => .firstFundingConfirmed evidence

def fundingEvidenceFor (session : SwapSession) (module : ModuleId) (evidence : ObjectHash)
    (observationGeneration : Option UInt64) : Except MarketError (List VerifiedEvidence) :=
  let firstFundingEvidence := firstFundingEvidence module evidence observationGeneration
  let refreshes : Prop := observationGeneration.isSome ∨ session.secondFunding = none ∨
    session.firstFundingRevoked
  let refreshesUnsettledFirstFunding : Prop := module = session.firstModule ∧
    session.firstFunding = some evidence ∧ refreshes ∧ session.state.fundingRefreshable
  if ¬ refreshesUnsettledFirstFunding ∧
      ((module = session.firstModule ∧ session.firstFunding = some evidence) ∨
        (module = session.secondModule ∧ session.secondFunding = some evidence)) then
    .ok []
  else if session.state = .firstFundingPending ∧ module = session.firstModule then
    .ok [firstFundingEvidence]
  else if session.state = .failed ∧ module = session.firstModule ∧
      session.firstFunding = none ∧ session.secondFunding = none ∧
      session.failedBeforeFunding then
    .ok [firstFundingEvidence]
  else if session.state.fundingRefreshable ∧ module = session.firstModule ∧ refreshes then
    .ok [firstFundingEvidence]
  else if session.state = .secondFundingPending ∧ module = session.secondModule then
    .ok [.secondFundingConfirmed evidence]
  -- The counterparty's lock is readiness and funding at once.
  else if session.state = .firstFunded ∧ module = session.secondModule then
    .ok [.secondFundingReady, .secondFundingConfirmed evidence]
  else
    .error .invalidTransition

variable {V : Type} [Encoded V] [Serde V SwapSession] [Serde V PersistedSecondFundingAuthorization]

def applyAll (session : SwapSession) (nowUnix : UInt64) (journal : WalletStoreJournal V) :
    List VerifiedEvidence → Except MarketError SwapSession × WalletStoreJournal V
  | [] => (.ok session, journal)
  | evidence :: rest =>
    match session.apply evidence nowUnix journal with
    | .error e => (.error e, journal)
    | .ok (session, journal) => applyAll session nowUnix journal rest

variable (store : WalletStore V) (policy : ShakescapeDirectSwapPolicy) (sessionId : SessionId)
  (funding : LocallyVerifiedSwapFunding) (observationGeneration : Option UInt64)

def judgeFunding :
    Except MarketError (SwapSession × List VerifiedEvidence) := do
  let loaded ← liftStore (store.loadWorkflow SwapSession (shakescapeExecutionWorkflowId sessionId))
  let stored ← okOr loaded .unknownShakescapeDirectSwap
  refuseIf (stored.kind ≠ .atomicSwap ∨ stored.state.id ≠ sessionId)
    .shakescapeDirectSwapConflict
  let hello ← acceptedHello policy sessionId stored.state
  verifyLocalFundingAgainstShakescapeTerms hello funding
  -- Once reads take generations, a lock without one may be older than an absence.
  refuseIf (observationGeneration = none ∧ funding.module = stored.state.firstModule ∧
    stored.state.firstFundingObservationGeneration ≠ 0) .invalidTransition
  refuseIf (∃ generation ∈ observationGeneration,
    readIsLatest stored.state funding.module generation = false) .invalidTransition
  let evidence ← fundingEvidenceFor stored.state funding.module (fundingEvidenceId funding)
    observationGeneration
  return (stored.state, evidence)

def applyLocallyVerifiedShakescapeFundingInner
    (nowUnix : UInt64) : Except MarketError SwapSession × WalletStore V :=
  match judgeFunding store policy sessionId funding observationGeneration with
  | .error e => (.error e, store)
  | .ok (session, evidence) =>
    let (result, journal) := applyAll session nowUnix
      ⟨store, shakescapeExecutionWorkflowId sessionId, nowUnix⟩ evidence
    (result, journal.store)

def applyLocallyVerifiedShakescapeFunding (nowUnix : UInt64) :
    Except MarketError SwapSession × WalletStore V :=
  applyLocallyVerifiedShakescapeFundingInner store policy sessionId funding none nowUnix

def applyLocallyVerifiedShakescapeFundingAtGeneration (observationGeneration nowUnix : UInt64) :
    Except MarketError SwapSession × WalletStore V :=
  applyLocallyVerifiedShakescapeFundingInner store policy sessionId funding
    (some observationGeneration) nowUnix

def beginShakescapeFirstFundingObservation (module : ModuleId)
    (nowUnix : UInt64) : Except MarketError (UInt64 × WalletStore V) := do
  let loaded ← loadShakescapeExecution store policy sessionId
  let session ← okOr loaded .unknownShakescapeDirectSwap
  refuseIf (¬ (session.state = .firstFundingPending ∨ session.state.fundingRefreshable) ∨
    session.firstModule ≠ module ∨
    (session.state ≠ .firstFundingPending ∧ session.firstFunding = none ∧
      ¬ (session.state = .failed ∧ session.secondFunding = none ∧ session.failedBeforeFunding)) ∨
    session.secondRedemption ≠ none ∨ session.firstRefund ≠ none) .invalidTransition
  let generation ← okOr (checkedAdd session.firstFundingObservationGeneration 1) .invariant
  let (_, journal) ← session.apply (.firstFundingObservationStarted module generation) nowUnix
    (⟨store, shakescapeExecutionWorkflowId sessionId, nowUnix⟩ : WalletStoreJournal V)
  return (generation, journal.store)

def invalidateLocallyVerifiedShakescapeFirstFundingInner (nowUnix : UInt64) :
    Except MarketError (SwapSession × WalletStore V) := do
  let loaded ← loadShakescapeExecution store policy sessionId
  let session ← okOr loaded .unknownShakescapeDirectSwap
  refuseIf (∃ generation ∈ observationGeneration,
    session.firstFundingObservationGeneration ≠ generation ∨
    ¬ (session.state = .firstFundingPending ∨ session.state.fundingRefreshable))
    .invalidTransition
  if (session.state = .firstFundingPending ∧ session.firstFunding = none ∧
        session.secondFunding = none) ∨
      (session.state = .failed ∧ session.firstFunding = none ∧ session.secondFunding = none ∧
        session.failedBeforeFunding) ∨
      (session.firstFundingRevoked ∧ session.firstFunding.isSome ∧
        session.firstRefund = none ∧ session.secondRedemption = none) then
    return (session, store)
  else do
    refuseIf (session.state.fundingRefreshable = false ∨ session.firstRefund ≠ none ∨
      session.secondRedemption ≠ none) .invalidTransition
    let evidence ← okOr session.firstFunding .invalidTransition
    let (session, journal) ← session.apply (.firstFundingInvalidated evidence) nowUnix
      (⟨store, shakescapeExecutionWorkflowId sessionId, nowUnix⟩ : WalletStoreJournal V)
    return (session, journal.store)

end Funding

end HnsWallet
