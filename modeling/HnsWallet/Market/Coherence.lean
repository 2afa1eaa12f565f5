import HnsWallet.Market.Steps

/-! # Coherence of a session -/

namespace HnsWallet

def SwapState.unfunded : SwapState → Bool
  | .offerPublished | .offerAcceptanceReceived | .offerReserved | .termsFrozen
  | .refundsPrepared | .firstFundingPending => true
  | _ => false

namespace SwapSession

/-- The recorded locks and settlements agree: a settlement has its lock, the
second leg is locked after the first, the secret is revealed before it is used,
and each leg settles in at most one way. -/
structure Ledger (s : SwapSession) : Prop where
  firstFunding_of_secondFunding : s.secondFunding.isSome → s.firstFunding.isSome
  secondFunding_of_firstRedemption : s.firstRedemption.isSome → s.secondFunding.isSome
  firstRedemption_of_secondRedemption : s.secondRedemption.isSome → s.firstRedemption.isSome
  firstFunding_of_firstRefund : s.firstRefund.isSome → s.firstFunding.isSome
  secondFunding_of_secondRefund : s.secondRefund.isSome → s.secondFunding.isSome
  firstLeg_once : s.firstRefund = none ∨ s.secondRedemption = none
  secondLeg_once : s.secondRefund = none ∨ s.firstRedemption = none
  firstFunding_of_revoked : s.firstFundingRevoked → s.firstFunding.isSome

def FitsState (s : SwapSession) : Prop :=
  match s.state with
  | .offerPublished | .offerAcceptanceReceived | .offerReserved | .termsFrozen
  | .refundsPrepared | .firstFundingPending => s.firstFunding = none
  | .firstFunded =>
    s.firstFunding.isSome ∧ s.firstFundingRevoked = false ∧ s.secondFunding = none ∧
      s.firstRefund = none
  | .secondFundingPending =>
    s.firstFunding.isSome ∧ s.secondFunding = none ∧ s.firstRefund = none
  | .bothFunded =>
    s.secondFunding.isSome ∧ s.firstRedemption = none ∧ s.firstRefund = none ∧
      s.secondRefund = none
  | .firstRedeemed => s.firstRedemption.isSome ∧ s.secondRedemption = none
  | .secretObserved =>
    s.firstRedemption.isSome ∧ s.secondRedemption = none ∧ s.firstRefund = none
  | .secondRedeemed | .completed => s.secondRedemption.isSome
  | .refundEligible | .refundBroadcast => s.firstFunding.isSome ∧ s.secondRedemption = none
  | .refunded => s.allFundedLegsSettled ∧ s.secondRedemption = none
  | .failed => True

structure Coherent (s : SwapSession) : Prop where
  modules : s.firstModule ≠ s.secondModule
  ledger : s.Ledger
  fits : s.FitsState

variable {s t : SwapSession} {e : ObjectHash} {now : UInt64} {next : SwapState} {g : Option UInt64}
  {r : Option ObjectHash}

section

variable (h : s.Ledger)
include h

theorem Ledger.secondFunding_none (hff : s.firstFunding = none) :
    s.secondFunding = none := by
  have := h.firstFunding_of_secondFunding
  simpa [hff] using this

theorem Ledger.firstRedemption_none (hsf : s.secondFunding = none) :
    s.firstRedemption = none := by
  have := h.secondFunding_of_firstRedemption
  simpa [hsf] using this

theorem Ledger.secondRedemption_none (hfr : s.firstRedemption = none) :
    s.secondRedemption = none := by
  have := h.firstRedemption_of_secondRedemption
  simpa [hfr] using this

theorem Ledger.firstRefund_none (hff : s.firstFunding = none) :
    s.firstRefund = none := by
  have := h.firstFunding_of_firstRefund
  simpa [hff] using this

theorem Ledger.secondRefund_none (hsf : s.secondFunding = none) :
    s.secondRefund = none := by
  have := h.secondFunding_of_secondRefund
  simpa [hsf] using this

/-! ## The ledger under the rules -/

theorem Ledger.moveTo : (s.moveTo next now).Ledger :=
  { h with }

theorem Ledger.withFirstFunding :
    (s.withFirstFunding e g).Ledger :=
  { h with
    firstFunding_of_secondFunding := fun _ => rfl
    firstFunding_of_firstRefund := fun _ => rfl
    firstFunding_of_revoked := fun _ => rfl }

theorem Ledger.withFirstRefund (hff : s.firstFunding.isSome) (hsr : s.secondRedemption = none) :
    { s with firstRefund := some e, refund := r }.Ledger :=
  { h with
    firstFunding_of_firstRefund := fun _ => hff
    firstLeg_once := Or.inr hsr }

theorem Ledger.withSecondRefund (hsf : s.secondFunding.isSome) (hfr : s.firstRedemption = none) :
    { s with secondRefund := some e, refund := r }.Ledger :=
  { h with
    secondFunding_of_secondRefund := fun _ => hsf
    secondLeg_once := Or.inr hfr }

end

section Tags

section

variable (h : s.Coherent)
include h

theorem Coherent.of_unfunded (hs : s.state.unfunded) :
    s.firstFunding = none := by
  have hfits := h.fits
  unfold FitsState at hfits
  cases hst : s.state <;> rw [hst] at hs hfits <;>
    first | exact hfits | exact absurd hs Bool.false_ne_true

theorem Coherent.of_firstFunded (hs : s.state = .firstFunded) :
    s.firstFunding.isSome ∧ s.firstFundingRevoked = false ∧ s.secondFunding = none ∧
      s.firstRefund = none := by
  have := h.fits
  simpa only [FitsState, hs] using this

theorem Coherent.of_secondFundingPending (hs : s.state = .secondFundingPending) :
    s.firstFunding.isSome ∧ s.secondFunding = none ∧ s.firstRefund = none := by
  have := h.fits
  simpa only [FitsState, hs] using this

theorem Coherent.of_bothFunded (hs : s.state = .bothFunded) :
    s.secondFunding.isSome ∧ s.firstRedemption = none ∧ s.firstRefund = none ∧
      s.secondRefund = none := by
  have := h.fits
  simpa only [FitsState, hs] using this

theorem Coherent.of_firstRedeemed (hs : s.state = .firstRedeemed) :
    s.firstRedemption.isSome ∧ s.secondRedemption = none := by
  have := h.fits
  simpa only [FitsState, hs] using this

theorem Coherent.of_secretObserved (hs : s.state = .secretObserved) :
    s.firstRedemption.isSome ∧ s.secondRedemption = none ∧ s.firstRefund = none := by
  have := h.fits
  simpa only [FitsState, hs] using this

theorem Coherent.of_refundEligible (hs : s.state = .refundEligible) :
    s.firstFunding.isSome ∧ s.secondRedemption = none := by
  have := h.fits
  simpa only [FitsState, hs] using this

theorem Coherent.of_refundBroadcast (hs : s.state = .refundBroadcast) :
    s.firstFunding.isSome ∧ s.secondRedemption = none := by
  have := h.fits
  simpa only [FitsState, hs] using this

theorem Coherent.of_refunded (hs : s.state = .refunded) :
    s.allFundedLegsSettled ∧ s.secondRedemption = none := by
  have := h.fits
  simpa only [FitsState, hs] using this

theorem Coherent.of_redeemed (hs : s.state = .secondRedeemed ∨ s.state = .completed) :
    s.secondRedemption.isSome := by
  have := h.fits
  rcases hs with hs | hs <;> simpa only [FitsState, hs] using this

end

end Tags

theorem Coherent.fits_refreshed (h : s.Coherent) (hs : s.state.fundingRefreshable)
    (hsr : s.secondRedemption = none) :
    ((s.withFirstFunding e g).moveTo s.state.reopened now).FitsState := by
  cases hst : s.state <;> rw [hst] at hs <;> try exact absurd hs Bool.false_ne_true
  case firstFunded => exact ⟨rfl, rfl, (h.of_firstFunded hst).2.2⟩
  case secondFundingPending => exact ⟨rfl, (h.of_secondFundingPending hst).2⟩
  case bothFunded => exact h.of_bothFunded hst
  case firstRedeemed => exact h.of_firstRedeemed hst
  case secretObserved => exact h.of_secretObserved hst
  case refundEligible => exact ⟨rfl, hsr⟩
  case refundBroadcast => exact ⟨rfl, hsr⟩
  case refunded => exact ⟨rfl, hsr⟩
  case failed => exact ⟨rfl, hsr⟩

theorem Coherent.fits_revoked (h : s.Coherent) (hs : s.state.fundingRefreshable)
    (hne : s.state ≠ .firstFunded) (hff : s.firstFunding = some e)
    (hsr : s.secondRedemption = none) :
    ({ s with
      firstFundingRevoked := true
      firstFundingConfirmedGeneration := none
      secondFundingAuthorization := none }.moveTo s.state.revoked now).FitsState := by
  have hsome : s.firstFunding.isSome := by rw [hff]; rfl
  cases hst : s.state <;> rw [hst] at hs <;> try exact absurd hs Bool.false_ne_true
  case firstFunded => exact absurd hst hne
  case secondFundingPending => exact h.of_secondFundingPending hst
  case bothFunded => exact h.of_bothFunded hst
  case firstRedeemed => exact h.of_firstRedeemed hst
  case secretObserved => exact h.of_secretObserved hst
  case refundEligible => exact ⟨hsome, hsr⟩
  case refundBroadcast => exact ⟨hsome, hsr⟩
  case refunded => exact ⟨hsome, hsr⟩
  case failed => trivial

theorem fits_refundOutcome (hff : s.firstFunding.isSome) (hsr : s.secondRedemption = none) :
    (s.moveTo s.refundOutcome now).FitsState := by
  by_cases hall : s.allFundedLegsSettled
  · rw [refundOutcome, if_pos hall]
    exact ⟨hall, hsr⟩
  · rw [refundOutcome, if_neg hall]
    exact ⟨hff, hsr⟩

theorem Coherent.step {ev : VerifiedEvidence} (h : s.Coherent) (step : s.Step ev now t) :
    t.Coherent := by
  have hl := h.ledger
  cases step with
  | offerAcceptanceValidated hs | offerReserved hs | termsApproved hs | refundsValidated hs
  | fundingReady hs => exact ⟨h.modules, hl.moveTo, h.of_unfunded (by rw [hs]; rfl)⟩
  | observationStarted hs held hsr hfr hg => exact ⟨h.modules, { hl with }, h.fits⟩
  | firstFundingConfirmed hs =>
    have hff := h.of_unfunded (by rw [hs]; rfl)
    exact ⟨h.modules, hl.withFirstFunding.moveTo,
      ⟨rfl, rfl, hl.secondFunding_none hff, hl.firstRefund_none hff⟩⟩
  | @firstFundingRecovered e now hs hff hsf hb =>
    have hff := Option.isNone_iff_eq_none.1 hff
    have hl' : (s.withFirstFunding e none).Ledger := hl.withFirstFunding
    exact ⟨h.modules, { hl' with },
      ⟨rfl, rfl, hl.secondFunding_none hff, hl.firstRefund_none hff⟩⟩
  | firstFundingRefreshed hs hff hrev hsf =>
    have hsr := hl.secondRedemption_none (hl.firstRedemption_none
      (Option.isNone_iff_eq_none.1 hsf))
    exact ⟨h.modules, hl.withFirstFunding.moveTo, h.fits_refreshed hs hsr⟩
  | confirmedAtGeneration hs hg hfr hsr =>
    have hff := h.of_unfunded (by rw [hs]; rfl)
    exact ⟨h.modules, hl.withFirstFunding.moveTo,
      ⟨rfl, rfl, hl.secondFunding_none hff, hl.firstRefund_none hff⟩⟩
  | @recoveredAtGeneration e g now hs hg hff hsf hb =>
    have hff := Option.isNone_iff_eq_none.1 hff
    have hl' : (s.withFirstFunding e (some g)).Ledger := hl.withFirstFunding
    exact ⟨h.modules, { hl' with },
      ⟨rfl, rfl, hl.secondFunding_none hff, hl.firstRefund_none hff⟩⟩
  | refreshedAtGeneration hs hnot hg hfr hsr =>
    exact ⟨h.modules, hl.withFirstFunding.moveTo,
      h.fits_refreshed hs (Option.isNone_iff_eq_none.1 hsr)⟩
  | firstFundingDropped hs hff hsf =>
    obtain ⟨-, -, hsf, hfr⟩ := h.of_firstFunded hs
    refine ⟨h.modules, { hl with
      firstFunding_of_secondFunding := fun h2 => ?_
      firstFunding_of_firstRefund := fun h1 => ?_
      firstFunding_of_revoked := fun hrev => absurd hrev Bool.false_ne_true }, rfl⟩
    · rw [moveTo_secondFunding, hsf] at h2
      exact absurd h2 Bool.false_ne_true
    · rw [moveTo_firstRefund, hfr] at h1
      exact absurd h1 Bool.false_ne_true
  | firstFundingRevoked hs hne hff hsr hfr =>
    refine ⟨h.modules, { hl with firstFunding_of_revoked := fun _ => ?_ },
      h.fits_revoked hs hne hff (Option.isNone_iff_eq_none.1 hsr)⟩
    rw [moveTo_firstFunding, hff]
    rfl
  | secondFundingReady hs =>
    obtain ⟨hff, -, hsf, hfr⟩ := h.of_firstFunded hs
    exact ⟨h.modules, hl.moveTo, hff, hsf, hfr⟩
  | authorizationIssued hs => exact ⟨h.modules, { hl with }, h.of_secondFundingPending hs⟩
  | secondFundingConfirmed hs =>
    obtain ⟨hff, hsf, hfr⟩ := h.of_secondFundingPending hs
    refine ⟨h.modules, { hl with
      firstFunding_of_secondFunding := fun _ => hff
      secondFunding_of_firstRedemption := fun _ => rfl
      secondFunding_of_secondRefund := fun _ => rfl }, ?_⟩
    exact ⟨rfl, hl.firstRedemption_none hsf, hfr, hl.secondRefund_none hsf⟩
  | firstRedemptionConfirmed hs hsf hr hfr =>
    have hr := Option.isNone_iff_eq_none.1 hr
    have hsr := hl.secondRedemption_none (Option.isNone_iff_eq_none.1 hfr)
    refine ⟨h.modules, { hl with
      secondFunding_of_firstRedemption := fun _ => hsf
      firstRedemption_of_secondRedemption := fun _ => rfl
      secondLeg_once := Or.inl hr }, ?_⟩
    exact ⟨rfl, hsr⟩
  | secretExtracted hs =>
    obtain ⟨hfr, hsr⟩ := h.of_firstRedeemed hs
    refine ⟨h.modules, hl.moveTo, ?_⟩
    by_cases hall : s.allFundedLegsSettled
    · rw [secretOutcome, if_pos hall]
      exact ⟨hall, hsr⟩
    · rw [secretOutcome, if_neg hall]
      refine ⟨hfr, hsr, ?_⟩
      have hsf := hl.secondFunding_of_firstRedemption hfr
      have hff := hl.firstFunding_of_secondFunding hsf
      have := hall
      simp only [allFundedLegsSettled, hfr, hff, hsf, hsr] at this
      simpa [Option.ne_none_iff_isSome.2 hff] using this
  | secondRedemptionConfirmed hs =>
    obtain ⟨hfr, -, hrf⟩ := h.of_secretObserved hs
    refine ⟨h.modules, { hl with
      firstRedemption_of_secondRedemption := fun _ => hfr
      firstLeg_once := Or.inl hrf }, rfl⟩
  | completionValidated hs =>
    exact ⟨h.modules, hl.moveTo, h.of_redeemed (.inl hs)⟩
  | refundEligibilityValidated hs hff hsf =>
    have hsr := hl.secondRedemption_none (hl.firstRedemption_none
      (Option.isNone_iff_eq_none.1 hsf))
    exact ⟨h.modules, hl.moveTo, hff, hsr⟩
  | refundBroadcast hs => exact ⟨h.modules, { hl with }, h.of_refundEligible hs⟩
  | refundConfirmed hs hr hff hsf =>
    have hsr := (h.of_refundBroadcast hs).2
    refine ⟨h.modules, (hl.withFirstRefund hff hsr).moveTo, ?_, hsr⟩
    simp [allFundedLegsSettled, hff, hsf]
  | @chainRefundConfirmed m e now hs hr =>
    unfold withRefund
    unfold canRecordRefundForModule at hr
    split at hr
    next hm =>
      rw [if_pos hm]
      simp only [Bool.and_eq_true, Option.isNone_iff_eq_none] at hr
      obtain ⟨⟨hff, -⟩, hsr⟩ := hr
      exact ⟨h.modules, (hl.withFirstRefund hff hsr).moveTo, fits_refundOutcome hff hsr⟩
    next hm =>
      rw [if_neg hm]
      split at hr
      next hm₂ =>
        simp only [Bool.and_eq_true, Option.isNone_iff_eq_none] at hr
        obtain ⟨⟨hsf, -⟩, hfr⟩ := hr
        exact ⟨h.modules, (hl.withSecondRefund hsf hfr).moveTo,
          fits_refundOutcome (hl.firstFunding_of_secondFunding hsf)
            (hl.secondRedemption_none hfr)⟩
      next => exact absurd hr Bool.false_ne_true
  | terminalFailure hc hr h0 h256 => exact ⟨h.modules, { hl with }, trivial⟩

end SwapSession

end HnsWallet
