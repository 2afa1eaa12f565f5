import HnsWallet.Lib.Runs
import HnsWallet.Market.Session

/-! # Steps of a session

`Step` lists what one accepted piece of evidence can do to a session, one rule for each arm of
`transition`. -/

namespace HnsWallet

open Lib

namespace SwapSession

section Fields

variable (s : SwapSession) (next : SwapState) (now : UInt64)

@[simp] theorem moveTo_state : (s.moveTo next now).state = next := rfl
@[simp] theorem moveTo_firstModule : (s.moveTo next now).firstModule = s.firstModule := rfl
@[simp] theorem moveTo_secondModule : (s.moveTo next now).secondModule = s.secondModule := rfl
@[simp] theorem moveTo_firstFunding : (s.moveTo next now).firstFunding = s.firstFunding := rfl
@[simp] theorem moveTo_firstFundingRevoked :
    (s.moveTo next now).firstFundingRevoked = s.firstFundingRevoked := rfl
@[simp] theorem moveTo_firstFundingObservationGeneration :
    (s.moveTo next now).firstFundingObservationGeneration =
      s.firstFundingObservationGeneration := rfl
@[simp] theorem moveTo_firstFundingConfirmedGeneration :
    (s.moveTo next now).firstFundingConfirmedGeneration =
      s.firstFundingConfirmedGeneration := rfl
@[simp] theorem moveTo_secondFundingAuthorization :
    (s.moveTo next now).secondFundingAuthorization =
      if next = .secondFundingPending then s.secondFundingAuthorization else none := rfl
@[simp] theorem moveTo_secondFunding :
    (s.moveTo next now).secondFunding = s.secondFunding := rfl
@[simp] theorem moveTo_firstRedemption :
    (s.moveTo next now).firstRedemption = s.firstRedemption := rfl
@[simp] theorem moveTo_secondRedemption :
    (s.moveTo next now).secondRedemption = s.secondRedemption := rfl
@[simp] theorem moveTo_refund : (s.moveTo next now).refund = s.refund := rfl
@[simp] theorem moveTo_firstRefund : (s.moveTo next now).firstRefund = s.firstRefund := rfl
@[simp] theorem moveTo_secondRefund : (s.moveTo next now).secondRefund = s.secondRefund := rfl

end Fields

structure SameTerms (s t : SwapSession) : Prop where
  id : t.id = s.id
  firstModule : t.firstModule = s.firstModule
  secondModule : t.secondModule = s.secondModule
  offered : t.offered = s.offered
  received : t.received = s.received
  termsId : t.termsId = s.termsId
  hashlock : t.hashlock = s.hashlock
  acceptedShakescapeTerms : t.acceptedShakescapeTerms = s.acceptedShakescapeTerms
  timeouts : t.timeouts = s.timeouts

theorem SameTerms.refl (s : SwapSession) : s.SameTerms s := by
  constructor <;> rfl

theorem SameTerms.trans {s t u : SwapSession} (h₁ : s.SameTerms t) (h₂ : t.SameTerms u) :
    s.SameTerms u := by
  constructor
  · rw [h₂.id, h₁.id]
  · rw [h₂.firstModule, h₁.firstModule]
  · rw [h₂.secondModule, h₁.secondModule]
  · rw [h₂.offered, h₁.offered]
  · rw [h₂.received, h₁.received]
  · rw [h₂.termsId, h₁.termsId]
  · rw [h₂.hashlock, h₁.hashlock]
  · rw [h₂.acceptedShakescapeTerms, h₁.acceptedShakescapeTerms]
  · rw [h₂.timeouts, h₁.timeouts]

inductive Step (s : SwapSession) : VerifiedEvidence → UInt64 → SwapSession → Prop where
  | offerAcceptanceValidated {now} : s.state = .offerPublished →
      Step s .offerAcceptanceValidated now (s.moveTo .offerAcceptanceReceived now)
  | offerReserved {now} : s.state = .offerAcceptanceReceived →
      Step s .offerReserved now (s.moveTo .offerReserved now)
  | termsApproved {now} : s.state = .offerReserved →
      Step s (.termsApproved s.termsId) now (s.moveTo .termsFrozen now)
  | refundsValidated {now} : s.state = .termsFrozen →
      Step s .refundsValidated now (s.moveTo .refundsPrepared now)
  | fundingReady {now} : s.state = .refundsPrepared →
      Step s .fundingReady now (s.moveTo .firstFundingPending now)
  | observationStarted {g now} : s.state = .firstFundingPending ∨ s.state.fundingRefreshable →
      s.state = .firstFundingPending ∨ s.firstFunding.isSome ∨
        (s.state = .failed ∧ s.secondFunding.isNone ∧ s.failedBeforeFunding) →
      s.secondRedemption.isNone → s.firstRefund.isNone →
      checkedAdd s.firstFundingObservationGeneration 1 = some g →
      Step s (.firstFundingObservationStarted s.firstModule g) now
        ({ s with
          firstFundingObservationGeneration := g
          firstFundingConfirmedGeneration := none
          secondFundingAuthorization := none }.moveTo s.state now)
  | firstFundingConfirmed {e now} : s.state = .firstFundingPending →
      Step s (.firstFundingConfirmed e) now
        ((s.withFirstFunding e none).moveTo .firstFunded now)
  | firstFundingRecovered {e now} : s.state = .failed → s.firstFunding.isNone →
      s.secondFunding.isNone → s.failedBeforeFunding →
      Step s (.firstFundingConfirmed e) now
        ({ s.withFirstFunding e none with failureReason := none }.moveTo .firstFunded now)
  | firstFundingRefreshed {e now} : s.state.fundingRefreshable → s.firstFunding.isSome →
      s.firstFundingRevoked = false → s.secondFunding.isNone →
      Step s (.firstFundingConfirmed e) now
        ((s.withFirstFunding e none).moveTo s.state.reopened now)
  | confirmedAtGeneration {e g now} : s.state = .firstFundingPending →
      s.firstFundingObservationGeneration = g → s.firstRefund.isNone →
      s.secondRedemption.isNone →
      Step s (.firstFundingConfirmedAtGeneration e s.firstModule g) now
        ((s.withFirstFunding e (some g)).moveTo .firstFunded now)
  | recoveredAtGeneration {e g now} : s.state = .failed →
      s.firstFundingObservationGeneration = g → s.firstFunding.isNone →
      s.secondFunding.isNone → s.failedBeforeFunding →
      Step s (.firstFundingConfirmedAtGeneration e s.firstModule g) now
        ({ s.withFirstFunding e (some g) with failureReason := none }.moveTo .firstFunded now)
  | refreshedAtGeneration {e g now} : s.state.fundingRefreshable →
      ¬ (s.state = .failed ∧ s.firstFunding.isNone ∧ s.secondFunding.isNone ∧
        s.failedBeforeFunding) →
      s.firstFundingObservationGeneration = g → s.firstRefund.isNone →
      s.secondRedemption.isNone →
      Step s (.firstFundingConfirmedAtGeneration e s.firstModule g) now
        ((s.withFirstFunding e (some g)).moveTo s.state.reopened now)
  | firstFundingDropped {e now} : s.state = .firstFunded → s.firstFunding = some e →
      s.secondFunding.isNone →
      Step s (.firstFundingInvalidated e) now
        ({ s with
          firstFunding := none
          firstFundingRevoked := false
          firstFundingConfirmedGeneration := none
          secondFundingAuthorization := none }.moveTo .firstFundingPending now)
  | firstFundingRevoked {e now} : s.state.fundingRefreshable → s.state ≠ .firstFunded →
      s.firstFunding = some e → s.secondRedemption.isNone → s.firstRefund.isNone →
      Step s (.firstFundingInvalidated e) now
        ({ s with
          firstFundingRevoked := true
          firstFundingConfirmedGeneration := none
          secondFundingAuthorization := none }.moveTo s.state.revoked now)
  | secondFundingReady {now} : s.state = .firstFunded →
      Step s .secondFundingReady now (s.moveTo .secondFundingPending now)
  | authorizationIssued {a now} : s.state = .secondFundingPending →
      s.firstFunding = some a.firstFunding → s.firstFundingRevoked = false →
      s.secondFunding.isNone → s.secondModule = a.module →
      s.firstFundingObservationGeneration = a.firstFundingObservationGeneration →
      s.firstFundingConfirmedGeneration = some a.firstFundingObservationGeneration →
      a.id.nonZero → now < a.expiresAtUnix →
      Step s (.secondFundingAuthorizationIssued a) now
        ({ s with secondFundingAuthorization := some a }.moveTo .secondFundingPending now)
  | secondFundingConfirmed {e now} : s.state = .secondFundingPending →
      Step s (.secondFundingConfirmed e) now
        ({ s with secondFunding := some e }.moveTo .bothFunded now)
  | firstRedemptionConfirmed {e now} : s.state = .bothFunded ∨ s.state = .refundEligible →
      s.secondFunding.isSome → s.secondRefund.isNone → s.firstRedemption.isNone →
      Step s (.firstRedemptionConfirmed e) now
        ({ s with firstRedemption := some e }.moveTo .firstRedeemed now)
  | secretExtracted {now} : s.state = .firstRedeemed →
      Step s (.secretExtracted s.hashlock) now
        (s.moveTo s.secretOutcome now)
  | secondRedemptionConfirmed {e now} : s.state = .secretObserved →
      Step s (.secondRedemptionConfirmed e) now
        ({ s with secondRedemption := some e }.moveTo .secondRedeemed now)
  | completionValidated {now} : s.state = .secondRedeemed →
      Step s .completionValidated now (s.moveTo .completed now)
  | refundEligibilityValidated {now} :
      s.state = .firstFunded ∨ s.state = .secondFundingPending →
      s.firstFunding.isSome → s.secondFunding.isNone →
      Step s .refundEligibilityValidated now (s.moveTo .refundEligible now)
  | refundBroadcast {e now} : s.state = .refundEligible →
      Step s (.refundBroadcast e) now ({ s with refund := some e }.moveTo .refundBroadcast now)
  | refundConfirmed {e now} : s.state = .refundBroadcast → s.refund = some e →
      s.firstFunding.isSome → s.secondFunding.isNone →
      Step s (.refundConfirmed e) now ({ s with firstRefund := some e }.moveTo .refunded now)
  | chainRefundConfirmed {m e now} : s.state.fundingRefreshable →
      s.canRecordRefundForModule m →
      Step s (.chainRefundConfirmed m e) now
        ((s.withRefund m e).moveTo (s.withRefund m e).refundOutcome now)
  | terminalFailure {reason now} : s.state ≠ .completed → s.state ≠ .refunded →
      reason.utf8ByteSize ≠ 0 → reason.utf8ByteSize ≤ 256 →
      Step s (.terminalFailure reason) now
        ({ s with failureReason := some reason }.moveTo .failed now)

variable {s t : SwapSession} {e : VerifiedEvidence} {now : UInt64}

theorem transition_eq_ok : s.transition e now = .ok t ↔
    ∃ m next, s.judge e now = .ok (m, next) ∧ t = m.moveTo next now := by
  unfold transition
  rw [ok_bind_iff]
  constructor
  · rintro ⟨⟨m, next⟩, hj, ht⟩
    exact ⟨m, next, hj, (Except.ok.inj ht).symm⟩
  · rintro ⟨m, next, hj, rfl⟩
    exact ⟨(m, next), hj, rfl⟩

theorem step_of_transition (h : s.transition e now = .ok t) : s.Step e now t := by
  obtain ⟨m, next, hj, rfl⟩ := transition_eq_ok.1 h
  cases e <;> simp only [judge] at hj
  case offerAcceptanceValidated =>
    split_ifs at hj with hs
    cases hj
    exact .offerAcceptanceValidated hs
  case offerReserved =>
    split_ifs at hj with hs
    cases hj
    exact .offerReserved hs
  case termsApproved termsId =>
    split_ifs at hj with hs
    cases hj
    obtain ⟨hs, rfl⟩ := hs
    exact .termsApproved hs
  case refundsValidated =>
    split_ifs at hj with hs
    cases hj
    exact .refundsValidated hs
  case fundingReady =>
    split_ifs at hj with hs
    cases hj
    exact .fundingReady hs
  case firstFundingObservationStarted module g =>
    split_ifs at hj with hs
    cases hj
    obtain ⟨hs, rfl, held, hsr, hfr, hg⟩ := hs
    exact .observationStarted hs held hsr hfr hg
  case firstFundingConfirmed e =>
    split_ifs at hj with hs hf hr
    · cases hj
      exact .firstFundingConfirmed hs
    · cases hj
      obtain ⟨hs, hff, hsf, hb⟩ := hf
      exact .firstFundingRecovered hs hff hsf hb
    · cases hj
      obtain ⟨hs, hff, hrev, hsf⟩ := hr
      exact .firstFundingRefreshed hs hff hrev hsf
  case firstFundingConfirmedAtGeneration e module g =>
    split_ifs at hj with hp hf hr
    · cases hj
      obtain ⟨hs, rfl, hg, hfr, hsr⟩ := hp
      exact .confirmedAtGeneration hs hg hfr hsr
    · cases hj
      obtain ⟨hs, rfl, hg, hff, hsf, hb⟩ := hf
      exact .recoveredAtGeneration hs hg hff hsf hb
    · cases hj
      obtain ⟨hs, rfl, hg, hfr, hsr⟩ := hr
      refine .refreshedAtGeneration hs ?_ hg hfr hsr
      rintro ⟨hfailed, hff, hsf, hb⟩
      exact hf ⟨hfailed, rfl, hg, hff, hsf, hb⟩
  case firstFundingInvalidated e =>
    split_ifs at hj with hs hr
    · cases hj
      exact .firstFundingDropped hs.1 hs.2.1 hs.2.2
    · cases hj
      obtain ⟨hs, hne, hff, hsr, hfr⟩ := hr
      exact .firstFundingRevoked hs hne hff hsr hfr
  case secondFundingReady =>
    split_ifs at hj with hs
    cases hj
    exact .secondFundingReady hs
  case secondFundingAuthorizationIssued a =>
    split_ifs at hj with hs
    cases hj
    obtain ⟨hs, hff, hrev, hsf, hm, hg, hc, hid, hexp⟩ := hs
    exact .authorizationIssued hs hff hrev hsf hm hg hc hid hexp
  case secondFundingConfirmed e =>
    split_ifs at hj with hs
    cases hj
    exact .secondFundingConfirmed hs
  case firstRedemptionConfirmed e =>
    split_ifs at hj with hs
    cases hj
    exact .firstRedemptionConfirmed hs.1 hs.2.1 hs.2.2.1 hs.2.2.2
  case secretExtracted hashlock =>
    split_ifs at hj with hs
    cases hj
    obtain ⟨hs, rfl⟩ := hs
    exact .secretExtracted hs
  case secondRedemptionConfirmed e =>
    split_ifs at hj with hs
    cases hj
    exact .secondRedemptionConfirmed hs
  case completionValidated =>
    split_ifs at hj with hs
    cases hj
    exact .completionValidated hs
  case refundEligibilityValidated =>
    split_ifs at hj with hs
    cases hj
    exact .refundEligibilityValidated hs.1 hs.2.1 hs.2.2
  case refundBroadcast e =>
    split_ifs at hj with hs
    cases hj
    exact .refundBroadcast hs
  case refundConfirmed e =>
    split_ifs at hj with hs
    cases hj
    exact .refundConfirmed hs.1 hs.2.1 hs.2.2.1 hs.2.2.2
  case chainRefundConfirmed module e =>
    split_ifs at hj with hs
    cases hj
    exact .chainRefundConfirmed hs.1 hs.2
  case terminalFailure reason =>
    split_ifs at hj with hs hlen
    cases hj
    rw [not_or, not_lt] at hlen
    exact .terminalFailure hs.1 hs.2 hlen.1 hlen.2

theorem fundingRefreshable_ne_pending (h : s.state.fundingRefreshable) :
    s.state ≠ .firstFundingPending := by
  intro hp
  simp [hp, SwapState.fundingRefreshable] at h

theorem Step.transition (h : s.Step e now t) : s.transition e now = .ok t := by
  refine transition_eq_ok.2 ?_
  cases h with
  | firstFundingConfirmed hs => exact ⟨_, _, if_pos hs, rfl⟩
  | firstFundingRecovered hs hff hsf hb =>
    refine ⟨_, _, ?_, rfl⟩
    simp [judge, hs, hff, hsf, hb]
  | firstFundingRefreshed hs hff hrev hsf =>
    have hp := fundingRefreshable_ne_pending hs
    refine ⟨_, _, ?_, rfl⟩
    simp [judge, hp, hs, hff, Option.ne_none_iff_isSome.2 hff, hrev, hsf]
  | confirmedAtGeneration hs hg hfr hsr =>
    exact ⟨_, _, if_pos ⟨hs, rfl, hg, hfr, hsr⟩, rfl⟩
  | recoveredAtGeneration hs hg hff hsf hb =>
    refine ⟨_, _, ?_, rfl⟩
    simp [judge, hs, hg, hff, hsf, hb]
  | refreshedAtGeneration hs hnot hg hfr hsr =>
    have hp := fundingRefreshable_ne_pending hs
    refine ⟨_, _, ?_, rfl⟩
    simp only [judge, true_and]
    rw [if_neg (fun h => hp h.1), if_neg (fun h => hnot ⟨h.1, h.2.2⟩),
      if_pos ⟨hs, hg, hfr, hsr⟩]
  | firstFundingDropped hs hff hsf => exact ⟨_, _, if_pos ⟨hs, hff, hsf⟩, rfl⟩
  | firstFundingRevoked hs hne hff hsr hfr =>
    refine ⟨_, _, ?_, rfl⟩
    simp [judge, hs, hne, hff, hsr, hfr]
  | observationStarted hs held hsr hfr hg =>
    exact ⟨_, _, if_pos ⟨hs, rfl, held, hsr, hfr, hg⟩, rfl⟩
  | authorizationIssued hs hff hrev hsf hm hg hc hid hexp =>
    exact ⟨_, _, if_pos ⟨hs, hff, hrev, hsf, hm, hg, hc, hid, hexp⟩, rfl⟩
  | termsApproved hs | secretExtracted hs => exact ⟨_, _, if_pos ⟨hs, rfl⟩, rfl⟩
  | firstRedemptionConfirmed hs hsf hr hfr =>
    exact ⟨_, _, if_pos ⟨hs, hsf, hr, hfr⟩, rfl⟩
  | refundEligibilityValidated hs hff hsf => exact ⟨_, _, if_pos ⟨hs, hff, hsf⟩, rfl⟩
  | refundConfirmed hs hr hff hsf => exact ⟨_, _, if_pos ⟨hs, hr, hff, hsf⟩, rfl⟩
  | chainRefundConfirmed hs hr => exact ⟨_, _, if_pos ⟨hs, hr⟩, rfl⟩
  | terminalFailure hc hr h0 h256 =>
    refine ⟨_, _, ?_, rfl⟩
    simp only [judge]
    rw [if_pos ⟨hc, hr⟩, if_neg (by omega)]
  | _ hs => exact ⟨_, _, if_pos hs, rfl⟩

theorem step_iff : s.Step e now t ↔ s.transition e now = .ok t :=
  ⟨Step.transition, step_of_transition⟩

end SwapSession

end HnsWallet
