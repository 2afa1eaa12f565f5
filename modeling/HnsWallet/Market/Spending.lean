import HnsWallet.Bitcoin.Broadcast
import HnsWallet.Market.Execution
import HnsWallet.Market.LocalParticipant

/-! # Spends observed on a chain -/

namespace HnsWallet

open Lib

inductive VerifiedNativeHtlcSpend where
  | redeem (transaction : Bytes 32) (confirmationCount : UInt32) (preimage : Bytes 32)
  | refund (transaction : Bytes 32) (confirmationCount : UInt32)

inductive LocallyVerifiedSwapSpend where
  | hns (spend : VerifiedNativeHtlcSpend)
  | bitcoin (spend : VerifiedBitcoinHtlcChainSpend) (confirmationCount : UInt32)

namespace LocallyVerifiedSwapSpend

def module : LocallyVerifiedSwapSpend → ModuleId
  | .hns _ => .handshake
  | .bitcoin _ _ => .bitcoin

def redeemPreimage : LocallyVerifiedSwapSpend → Except MarketError (Bytes 32)
  | .hns (.redeem _ _ preimage) => .ok preimage
  | .bitcoin ⟨_, _, .redeem, some preimage⟩ _ => .ok preimage
  | _ => .error .invalidEvidence

def isRefund : LocallyVerifiedSwapSpend → Bool
  | .hns (.refund _ _) => true
  | .bitcoin ⟨_, _, .refund, _⟩ _ => true
  | _ => false

def confirmationCount : LocallyVerifiedSwapSpend → UInt32
  | .hns (.redeem _ count _) => count
  | .hns (.refund _ count) => count
  | .bitcoin _ count => count

end LocallyVerifiedSwapSpend

def verifiedShakescapeSpendDomain : List UInt8 :=
  ascii "hns-wallet-rs/verified-shakescape-spend/v1"

def spendEvidenceId [Sha256] : LocallyVerifiedSwapSpend → ObjectHash
  | .hns (.redeem transaction _ _) =>
    ⟨Sha256.digest (verifiedShakescapeSpendDomain ++ [0, 0] ++ transaction.toList)⟩
  | .hns (.refund transaction _) =>
    ⟨Sha256.digest (verifiedShakescapeSpendDomain ++ [0, 1] ++ transaction.toList)⟩
  | .bitcoin spend _ =>
    ⟨Sha256.digest (verifiedShakescapeSpendDomain ++ [1] ++ spend.txid.toList ++
      spend.wtxid.toList ++ [match spend.branch with | .redeem => 0 | .refund => 1])⟩

/-- What a call returns, and the store after each of its durable writes. -/
structure Call (V : Type) where
  result : Except MarketError SwapSession
  writes : List (WalletStore V)

def Call.final {V : Type} (call : Call V) (store : WalletStore V) : WalletStore V :=
  call.writes.getLastD store

section Calls

variable [Sha256] {V : Type} [Encoded V] [Serde V SwapSession]
  [Serde V PersistedSecondFundingAuthorization]

def journalEach (workflowId : WorkflowId) (nowUnix : UInt64) (store : WalletStore V)
    (session : SwapSession) : List (SwapSession → Option VerifiedEvidence) → Call V
  | [] => ⟨.ok session, []⟩
  | choose :: rest =>
    match choose session with
    | none => journalEach workflowId nowUnix store session rest
    | some evidence =>
      match session.apply evidence nowUnix
        (⟨store, workflowId, nowUnix⟩ : WalletStoreJournal V) with
      | .error e => ⟨.error e, []⟩
      | .ok (session, journal) =>
        let call := journalEach workflowId nowUnix journal.store session rest
        ⟨call.result, journal.store :: call.writes⟩

variable [DirectSwapProtocol]

def loadShakescapeExecutionForLocalEvidence (store : WalletStore V)
    (policy : ShakescapeDirectSwapPolicy) (sessionId : SessionId) (workflowId : WorkflowId) :
    Except MarketError (StoredWorkflow SwapSession) := do
  let loaded ← liftStore (store.loadWorkflow SwapSession workflowId)
  let stored ← okOr loaded .unknownShakescapeDirectSwap
  validateShakescapeExecutionRecord policy sessionId workflowId stored
  return stored

variable (store : WalletStore V) (policy : ShakescapeDirectSwapPolicy) (sessionId : SessionId)
  (spend : LocallyVerifiedSwapSpend)

def judgeFirstRedemption :
    Except MarketError (SwapSession × Bytes 32 × Bool) := do
  let stored ← loadShakescapeExecutionForLocalEvidence store policy sessionId
    (shakescapeExecutionWorkflowId sessionId)
  let session := stored.state
  refuseIf (spend.module ≠ session.secondModule ∨ spend.confirmationCount = 0 ∨
    session.secondRefund ≠ none) .invalidTransition
  let preimage ← spend.redeemPreimage
  refuseIf (ObjectHash.mk (Sha256.digest preimage.toList) ≠ session.hashlock) .invalidEvidence
  refuseIf (∃ existing ∈ session.firstRedemption, existing ≠ spendEvidenceId spend)
    .invalidEvidence
  refuseIf (session.firstRedemption = none ∧ session.state ≠ .bothFunded ∧
    session.state ≠ .refundEligible) .invalidTransition
  let persisted ← liftStore (store.getSecret (shakescapeObservedPreimageId sessionId)
    .htlcPreimage)
  refuseIf (∃ value ∈ persisted, value ≠ preimage.toList) .invalidEvidence
  refuseIf (persisted = none ∧ session.firstRedemption ≠ none) .invalidEvidence
  return (session, preimage, persisted.isSome)

def firstRedemptionEvidence (evidence : ObjectHash) :
    List (SwapSession → Option VerifiedEvidence) :=
  [fun session => if session.firstRedemption = none then
      some (.firstRedemptionConfirmed evidence) else none,
    fun session => if session.state = .firstRedeemed then
      some (.secretExtracted session.hashlock) else none]

def applyLocallyVerifiedShakescapeFirstRedemption (nowUnix : UInt64) : Call V :=
  match judgeFirstRedemption store policy sessionId spend with
  | .error e => ⟨.error e, []⟩
  | .ok (session, _, true) =>
    journalEach (shakescapeExecutionWorkflowId sessionId) nowUnix store session
      (firstRedemptionEvidence (spendEvidenceId spend))
  | .ok (session, preimage, false) =>
    -- The preimage is durable before any evidence of it is.
    match liftStore (store.putSecret (shakescapeObservedPreimageId sessionId) .htlcPreimage
      preimage.toList nowUnix) with
    | .error e => ⟨.error e, []⟩
    | .ok store =>
      let call := journalEach (shakescapeExecutionWorkflowId sessionId) nowUnix store session
        (firstRedemptionEvidence (spendEvidenceId spend))
      ⟨call.result, store :: call.writes⟩

def judgeSecondRedemption :
    Except MarketError SwapSession := do
  let stored ← loadShakescapeExecutionForLocalEvidence store policy sessionId
    (shakescapeExecutionWorkflowId sessionId)
  let session := stored.state
  refuseIf (spend.module ≠ session.firstModule ∨ spend.confirmationCount = 0) .invalidTransition
  let preimage ← spend.redeemPreimage
  refuseIf (ObjectHash.mk (Sha256.digest preimage.toList) ≠ session.hashlock) .invalidEvidence
  let persisted ← liftStore (store.getSecret (shakescapeObservedPreimageId sessionId)
    .htlcPreimage)
  refuseIf (persisted ≠ some preimage.toList) .invalidEvidence
  refuseIf (∃ existing ∈ session.secondRedemption, existing ≠ spendEvidenceId spend)
    .invalidEvidence
  refuseIf (session.secondRedemption = none ∧ session.state ≠ .secretObserved) .invalidTransition
  return session

def secondRedemptionEvidence (evidence : ObjectHash) :
    List (SwapSession → Option VerifiedEvidence) :=
  [fun session => if session.secondRedemption = none then
      some (.secondRedemptionConfirmed evidence) else none,
    fun session => if session.state = .secondRedeemed then some .completionValidated else none]

def applyLocallyVerifiedShakescapeSecondRedemption (nowUnix : UInt64) : Call V :=
  match judgeSecondRedemption store policy sessionId spend with
  | .error e => ⟨.error e, []⟩
  | .ok session =>
    journalEach (shakescapeExecutionWorkflowId sessionId) nowUnix store session
      (secondRedemptionEvidence (spendEvidenceId spend))

def judgeRefund :
    Except MarketError SwapSession := do
  let stored ← loadShakescapeExecutionForLocalEvidence store policy sessionId
    (shakescapeExecutionWorkflowId sessionId)
  let session := stored.state
  refuseIf (spend.isRefund = false ∨
    (spend.module ≠ session.firstModule ∧ spend.module ≠ session.secondModule) ∨
    spend.confirmationCount = 0) .invalidEvidence
  refuseIf (∃ existing ∈ session.refundForModule spend.module, existing ≠ spendEvidenceId spend)
    .invalidEvidence
  refuseIf (session.refundForModule spend.module = none ∧
    session.canRecordRefundForModule spend.module = false) .invalidTransition
  return session

def applyLocallyVerifiedShakescapeRefund (nowUnix : UInt64) : Call V :=
  match judgeRefund store policy sessionId spend with
  | .error e => ⟨.error e, []⟩
  | .ok session =>
    journalEach (shakescapeExecutionWorkflowId sessionId) nowUnix store session
      [fun session => if session.refundForModule spend.module = none then
        some (.chainRefundConfirmed spend.module (spendEvidenceId spend)) else none]

def issueShakescapeSecondFundingAuthorization (module : ModuleId)
    (authorizationId : ObjectHash) (expiresAtUnix nowUnix : UInt64) :
    Except MarketError (SwapSession × WalletStore V) := do
  let loaded ← loadShakescapeExecution store policy sessionId
  let session ← okOr loaded .unknownShakescapeDirectSwap
  refuseIf (session.state ≠ .secondFundingPending ∨ session.secondModule ≠ module ∨
    session.firstFunding = none ∨ session.firstFundingRevoked ∨
    session.firstFundingConfirmedGeneration ≠ some session.firstFundingObservationGeneration ∨
    session.secondFunding ≠ none ∨ authorizationId.nonZero = false ∨
    expiresAtUnix ≤ nowUnix) .invalidTransition
  let terms ← okOr session.acceptedShakescapeTerms .invalidShakescapeDirectSwap
  let hello ← (MarketplaceProtocol.decodeHello terms).mapError
    fun _ => .corruptShakescapeDirectSwap
  (MarketplaceProtocol.verifyNewFundingAt hello policy.network nowUnix).mapError
    fun _ => .invalidShakescapeDirectSwap
  validateShakescapeEffectiveRefundSafety hello
  refuseIf (hello.header.expiresAt < expiresAtUnix) .invalidTransition
  let firstFunding ← okOr session.firstFunding .invalidTransition
  let (session, journal) ← session.apply
    (.secondFundingAuthorizationIssued ⟨authorizationId, module, firstFunding,
      session.firstFundingObservationGeneration, expiresAtUnix⟩) nowUnix
    (⟨store, shakescapeExecutionWorkflowId sessionId, nowUnix⟩ : WalletStoreJournal V)
  return (session, journal.store)

end Calls

section Judgements

variable [DirectSwapProtocol] {V : Type} [Serde V SwapSession] {store : WalletStore V}
  {policy : ShakescapeDirectSwapPolicy} {sessionId : SessionId} {spend : LocallyVerifiedSwapSpend}
  {s : SwapSession} {preimage : Bytes 32}

theorem loadShakescapeExecutionForLocalEvidence_eq_ok {workflowId : WorkflowId}
    {stored : StoredWorkflow SwapSession} :
    loadShakescapeExecutionForLocalEvidence store policy sessionId workflowId = .ok stored ↔
      store.loadWorkflow SwapSession workflowId = .ok (some stored) ∧
      validateShakescapeExecutionRecord policy sessionId workflowId stored = .ok () := by
  simp only [loadShakescapeExecutionForLocalEvidence, ok_iff, liftStore_eq_ok]
  constructor
  · rintro ⟨_, hload, found, rfl, ⟨⟩, hvalid, hret⟩
    cases hret
    exact ⟨hload, hvalid⟩
  · rintro ⟨hload, hvalid⟩
    exact ⟨_, hload, _, rfl, (), hvalid, rfl⟩

variable [Sha256]

def JudgedOn (store : WalletStore V) (policy : ShakescapeDirectSwapPolicy)
    (sessionId : SessionId) (s : SwapSession) : Prop :=
  ∃ stored, loadShakescapeExecutionForLocalEvidence store policy sessionId
    (shakescapeExecutionWorkflowId sessionId) = .ok stored ∧ stored.state = s

structure FirstRedemptionFits (s : SwapSession) (spend : LocallyVerifiedSwapSpend)
    (preimage : Bytes 32) : Prop where
  module : spend.module = s.secondModule
  confirmed : spend.confirmationCount ≠ 0
  unrefunded : s.secondRefund = none
  reveals : spend.redeemPreimage = .ok preimage
  opens : ObjectHash.mk (Sha256.digest preimage.toList) = s.hashlock
  same : ∀ existing, s.firstRedemption = some existing → existing = spendEvidenceId spend
  state : s.firstRedemption = none → s.state = .bothFunded ∨ s.state = .refundEligible

theorem judgeFirstRedemption_eq_ok {known : Bool} :
    judgeFirstRedemption store policy sessionId spend = .ok (s, preimage, known) ↔
      JudgedOn store policy sessionId s ∧ FirstRedemptionFits s spend preimage ∧
      ∃ persisted, store.getSecret (shakescapeObservedPreimageId sessionId) .htlcPreimage =
          .ok persisted ∧ (∀ value, persisted = some value → value = preimage.toList) ∧
        (persisted = none → s.firstRedemption = none) ∧ known = persisted.isSome := by
  simp only [judgeFirstRedemption, ok_iff, liftStore_eq_ok, not_or, not_and, not_exists, not_not,
    Option.mem_def]
  constructor
  · rintro ⟨stored, hload, -, ⟨hmodule, hcount, hrefund⟩, p, hreveals, -, hopens, -, hsame, -,
      hstate, persisted, hsecret, -, hvalue, -, hnone, hret⟩
    cases hret
    refine ⟨⟨stored, hload, rfl⟩, ⟨hmodule, hcount, hrefund, hreveals, hopens, hsame, ?_⟩,
      persisted,
      hsecret, hvalue, hnone, rfl⟩
    intro hfirst
    by_cases hboth : stored.state.state = .bothFunded
    · exact .inl hboth
    · exact .inr (hstate hfirst hboth)
  · rintro ⟨⟨stored, hload, rfl⟩, hfits, persisted, hsecret, hvalue, hnone, rfl⟩
    refine ⟨stored, hload, (), ⟨hfits.module, hfits.confirmed, hfits.unrefunded⟩, preimage,
      hfits.reveals, (), hfits.opens, (), hfits.same, (), ?_, persisted, hsecret, (), hvalue, (),
      hnone, rfl⟩
    intro hfirst hboth
    exact (hfits.state hfirst).resolve_left hboth

structure SecondRedemptionFits (s : SwapSession) (spend : LocallyVerifiedSwapSpend)
    (preimage : Bytes 32) : Prop where
  module : spend.module = s.firstModule
  confirmed : spend.confirmationCount ≠ 0
  reveals : spend.redeemPreimage = .ok preimage
  opens : ObjectHash.mk (Sha256.digest preimage.toList) = s.hashlock
  same : ∀ existing, s.secondRedemption = some existing → existing = spendEvidenceId spend
  state : s.secondRedemption = none → s.state = .secretObserved

theorem judgeSecondRedemption_eq_ok :
    judgeSecondRedemption store policy sessionId spend = .ok s ↔
      JudgedOn store policy sessionId s ∧ ∃ preimage, SecondRedemptionFits s spend preimage ∧
        store.getSecret (shakescapeObservedPreimageId sessionId) .htlcPreimage =
          .ok (some preimage.toList) := by
  simp only [judgeSecondRedemption, ok_iff, liftStore_eq_ok, not_or, not_and, not_exists, not_not,
    Option.mem_def]
  constructor
  · rintro ⟨stored, hload, -, ⟨hmodule, hcount⟩, p, hreveals, -, hopens, _, hsecret, -, rfl, -,
      hsame, -, hstate, hret⟩
    cases hret
    exact ⟨⟨stored, hload, rfl⟩, p, ⟨hmodule, hcount, hreveals, hopens, hsame, hstate⟩, hsecret⟩
  · rintro ⟨⟨stored, hload, rfl⟩, p, hfits, hsecret⟩
    exact ⟨stored, hload, (), ⟨hfits.module, hfits.confirmed⟩, p, hfits.reveals, (), hfits.opens, _,
      hsecret, (), rfl, (), hfits.same, (), hfits.state, rfl⟩

theorem judgeRefund_judgedOn (h : judgeRefund store policy sessionId spend = .ok s) :
    JudgedOn store policy sessionId s := by
  simp only [judgeRefund, ok_iff] at h
  obtain ⟨stored, hload, _, -, _, -, _, -, hret⟩ := h
  cases hret
  exact ⟨stored, hload, rfl⟩

end Judgements

end HnsWallet
