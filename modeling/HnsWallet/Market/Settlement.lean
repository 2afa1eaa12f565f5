import HnsWallet.Market.SessionRuns

/-! # Settlement of the two legs -/

namespace HnsWallet

open Lib

namespace SwapSession

variable {s s₀ t u : SwapSession} {ev : SwapEvent} {evs : List SwapEvent}
  {e : VerifiedEvidence} {now : UInt64} {m : ModuleId}

/-- No session records two settlements of one leg, a settlement without its
lock, or a second lock without the first; a completed session is redeemed on
both legs, and a refunded one has nothing left to settle. -/
theorem each_leg_settles_at_most_once (h : s.Reachable) :
    ¬ (s.firstRefund.isSome ∧ s.secondRedemption.isSome) ∧
    ¬ (s.secondRefund.isSome ∧ s.firstRedemption.isSome) ∧
    (s.firstRefund.isSome ∨ s.secondRedemption.isSome → s.firstFunding.isSome) ∧
    (s.secondRefund.isSome ∨ s.firstRedemption.isSome → s.secondFunding.isSome) ∧
    (s.secondFunding.isSome → s.firstFunding.isSome) ∧
    (s.state = .completed → s.firstFunding.isSome ∧ s.secondFunding.isSome ∧
      s.firstRedemption.isSome ∧ s.secondRedemption.isSome ∧
      s.firstRefund = none ∧ s.secondRefund = none) ∧
    (s.state = .refunded → s.allFundedLegsSettled) := by
  have hc := h.coherent
  have hl := hc.ledger
  refine ⟨?_, ?_, ?_, ?_, hl.firstFunding_of_secondFunding, ?_, ?_⟩
  · rintro ⟨hrefund, hredeem⟩
    rcases hl.firstLeg_once with h | h <;> simp [h] at hrefund hredeem
  · rintro ⟨hrefund, hredeem⟩
    rcases hl.secondLeg_once with h | h <;> simp [h] at hrefund hredeem
  · rintro (hrefund | hredeem)
    · exact hl.firstFunding_of_firstRefund hrefund
    · exact hl.firstFunding_of_secondFunding (hl.secondFunding_of_firstRedemption
        (hl.firstRedemption_of_secondRedemption hredeem))
  · rintro (hrefund | hredeem)
    · exact hl.secondFunding_of_secondRefund hrefund
    · exact hl.secondFunding_of_firstRedemption hredeem
  · intro hs
    have hsr := hc.of_redeemed (.inr hs)
    have hfr := hl.firstRedemption_of_secondRedemption hsr
    have hsf := hl.secondFunding_of_firstRedemption hfr
    have hrf₁ : s.firstRefund = none := by
      rcases hl.firstLeg_once with h | h
      · exact h
      · rw [h] at hsr
        exact absurd hsr Bool.false_ne_true
    have hrf₂ : s.secondRefund = none := by
      rcases hl.secondLeg_once with h | h
      · exact h
      · rw [h] at hfr
        exact absurd hfr Bool.false_ne_true
    exact ⟨hl.firstFunding_of_secondFunding hsf, hsf, hfr, hsr, hrf₁, hrf₂⟩
  · exact fun hs => (hc.of_refunded hs).1

def sampleLockEvents : List SwapEvent :=
  sampleFundingEvents ++ [⟨.firstFundingConfirmed ⟨.replicate 32 9⟩, 3⟩]

def sampleRefund : SwapEvent :=
  ⟨.chainRefundConfirmed .handshake ⟨.replicate 32 7⟩, 4⟩

def sampleBothLocks : List SwapEvent :=
  sampleLockEvents ++ [⟨.secondFundingReady, 4⟩, ⟨.secondFundingConfirmed ⟨.replicate 32 8⟩, 4⟩]

/-- With both locks confirmed the swap completes, or both sides take their refund. -/
theorem each_leg_settles_at_most_once_sample :
    ∃ s t : SwapSession, s.Reachable ∧ t.Reachable ∧
      (s.state = .completed ∧ s.firstFunding.isSome ∧ s.secondFunding.isSome ∧
        s.firstRedemption.isSome ∧ s.secondRedemption.isSome ∧
        s.firstRefund = none ∧ s.secondRefund = none) ∧
      t.state = .refunded ∧ t.secondFunding.isSome ∧ t.firstFunding.isSome ∧
        t.allFundedLegsSettled ∧ ¬ (t.firstRefund.isSome ∧ t.secondRedemption.isSome) := by
  have hs := run_iff_replay.2 (rfl : sample.replay (sampleBothLocks ++
    [⟨.firstRedemptionConfirmed ⟨.replicate 32 6⟩, 5⟩, ⟨.secretExtracted sample.hashlock, 6⟩,
      ⟨.secondRedemptionConfirmed ⟨.replicate 32 5⟩, 7⟩, ⟨.completionValidated, 8⟩]) = some _)
  have ht := run_iff_replay.2 (rfl : sample.replay (sampleBothLocks ++
    [sampleRefund, ⟨.chainRefundConfirmed .bitcoin ⟨.replicate 32 6⟩, 5⟩]) = some _)
  have hs' : Reachable _ := ⟨sample, _, sample_created, hs⟩
  have ht' : Reachable _ := ⟨sample, _, sample_created, ht⟩
  obtain ⟨-, -, -, -, -, hcompleted, -⟩ := each_leg_settles_at_most_once hs'
  obtain ⟨hfirst, -, -, -, hlocks, -, hrefunded⟩ := each_leg_settles_at_most_once ht'
  exact ⟨_, _, hs', ht', ⟨rfl, hcompleted rfl⟩, rfl, rfl, hlocks rfl, hrefunded rfl, hfirst⟩

/-! ## A funded leg can be recorded as refunded -/

theorem Coherent.fundingRefreshable (h : s.Coherent) (hff : s.firstFunding.isSome) :
    s.state.fundingRefreshable ∨ s.state = .secondRedeemed ∨ s.state = .completed := by
  by_cases hu : s.state.unfunded
  · rw [h.of_unfunded hu] at hff
    exact absurd hff Bool.false_ne_true
  · cases hs : s.state <;> rw [hs] at hu <;> simp_all [SwapState.unfunded,
      SwapState.fundingRefreshable]

theorem canRecordRefund_of_unsettled (hf : s.moduleIsFunded m)
    (hu : s.fundedModuleIsSettled m = false) : s.canRecordRefundForModule m := by
  unfold moduleIsFunded at hf
  unfold fundedModuleIsSettled at hu
  unfold canRecordRefundForModule
  split at hf
  next hm =>
    simp only [if_pos hm, hf, Bool.true_and, Bool.or_eq_false_iff] at hu ⊢
    simp [Option.isSome_eq_false_iff.1 hu.1, Option.isSome_eq_false_iff.1 hu.2]
  next hm =>
    simp only [if_neg hm] at hu ⊢
    split at hf
    next hm₂ =>
      simp only [if_pos hm₂, hf, Bool.true_and, Bool.or_eq_false_iff] at hu ⊢
      simp [Option.isSome_eq_false_iff.1 hu.1, Option.isSome_eq_false_iff.1 hu.2]
    next => exact absurd hf Bool.false_ne_true

theorem Coherent.refreshable_of_unsettled (h : s.Coherent) (hf : s.moduleIsFunded m)
    (hu : s.fundedModuleIsSettled m = false) : s.state.fundingRefreshable := by
  have hl := h.ledger
  have hff : s.firstFunding.isSome := by
    unfold moduleIsFunded at hf
    split at hf
    next => exact hf
    next =>
      split at hf
      next => exact hl.firstFunding_of_secondFunding hf
      next => exact absurd hf Bool.false_ne_true
  rcases h.fundingRefreshable hff with hs | hs
  · exact hs
  · -- Both legs are redeemed in these two states, so no leg is unsettled.
    have hsr := h.of_redeemed hs
    have hfr := hl.firstRedemption_of_secondRedemption hsr
    have hsf := hl.secondFunding_of_firstRedemption hfr
    unfold fundedModuleIsSettled at hu
    unfold moduleIsFunded at hf
    simp only [hff, hsf, hfr, hsr, Bool.or_true, Bool.and_true] at hu hf
    split_ifs at hu hf

theorem allFundedLegsSettled_iff (hm : s.firstModule ≠ s.secondModule)
    (hff : s.firstFunding.isSome) :
    s.allFundedLegsSettled ↔ ∀ m, s.moduleIsFunded m → s.fundedModuleIsSettled m := by
  unfold allFundedLegsSettled moduleIsFunded fundedModuleIsSettled
  simp only [hff, Bool.true_or, Bool.true_and, Bool.and_eq_true, Bool.or_eq_true,
    Option.isNone_iff_eq_none]
  constructor
  · rintro ⟨h₁, h₂⟩ m hf
    split at hf
    next hm₁ =>
      rw [if_pos hm₁]
      rcases h₁ with (h | h) | h
      · rw [h] at hff
        exact absurd hff Bool.false_ne_true
      · simp [h]
      · simp [h]
    next hm₁ =>
      rw [if_neg hm₁]
      split at hf
      next hm₂ =>
        rw [if_pos hm₂, hf, Bool.true_and, Bool.or_eq_true]
        rcases h₂ with (h | h) | h
        · rw [h] at hf
          exact absurd hf Bool.false_ne_true
        · exact .inl h
        · exact .inr h
      next => exact absurd hf Bool.false_ne_true
  · intro h
    constructor
    · have h₁ := h s.firstModule
      simp only [if_pos, forall_true_left, Bool.or_eq_true] at h₁
      rcases h₁ with h | h
      · exact .inl (.inr h)
      · exact .inr h
    · have h₂ := h s.secondModule
      simp only [if_neg hm.symm, if_pos, Bool.and_eq_true, Bool.or_eq_true] at h₂
      cases hsf : s.secondFunding with
      | none => exact .inl (.inl rfl)
      | some l =>
        rcases (h₂ (by rw [hsf]; rfl)).2 with h | h
        · exact .inl (.inr h)
        · exact .inr h

/-- The confirmed refund of a funded, unsettled leg is always recorded: `apply`
hands the journal a session that records it on exactly that leg and is closed
when every funded leg is then settled. -/
theorem funded_leg_can_be_recorded_as_refunded (h : s.Reachable)
    (hm : m = s.firstModule ∨ m = s.secondModule) (hf : s.moduleIsFunded m)
    (hu : s.fundedModuleIsSettled m = false) (l : ObjectHash) (now : UInt64) :
    ∃ t, s.transition (.chainRefundConfirmed m l) now = .ok t ∧
      (∀ (J : Type) [SwapJournal J] (journal : J),
        s.apply (.chainRefundConfirmed m l) now journal =
          match checkedAdd s.revision 1 with
          | none => .error .invariant
          | some revision =>
            (SwapJournal.save journal { t with revision := revision } s.revision).map
              ({ t with revision := revision }, ·)) ∧
      t.refundForModule m = some l ∧
      (m = s.firstModule → t.secondFunding = s.secondFunding ∧
        t.firstRedemption = s.firstRedemption ∧ t.secondRefund = s.secondRefund) ∧
      (m = s.secondModule → t.firstFunding = s.firstFunding ∧
        t.secondRedemption = s.secondRedemption ∧ t.firstRefund = s.firstRefund) ∧
      (t.state = .refunded ↔ ∀ m', t.moduleIsFunded m' → t.fundedModuleIsSettled m') ∧
      (t.state = .refundEligible ↔ ¬ ∀ m', t.moduleIsFunded m' → t.fundedModuleIsSettled m') := by
  have hc := h.coherent
  have hstep : s.Step (.chainRefundConfirmed m l) now
      ((s.withRefund m l).moveTo (s.withRefund m l).refundOutcome now) :=
    .chainRefundConfirmed (hc.refreshable_of_unsettled hf hu) (canRecordRefund_of_unsettled hf hu)
  have ht := hc.step hstep
  generalize hT : (s.withRefund m l).moveTo (s.withRefund m l).refundOutcome now = t at hstep ht
  have hff : t.firstFunding.isSome := by
    have hff : s.firstFunding.isSome := by
      rcases hm with rfl | rfl
      · simpa [moduleIsFunded] using hf
      · simp only [moduleIsFunded, if_neg hc.modules.symm, if_pos] at hf
        exact hc.ledger.firstFunding_of_secondFunding hf
    rw [← hT, moveTo_firstFunding]
    unfold withRefund
    split <;> exact hff
  have hsettled := allFundedLegsSettled_iff ht.modules hff
  have hstate : t.state = if t.allFundedLegsSettled then .refunded else .refundEligible := by
    rw [← hT]
    rfl
  refine ⟨t, hstep.transition, fun J _ journal => apply_of_step hstep journal, ?_, ?_, ?_, ?_, ?_⟩
  · rw [← hT]
    rcases hm with rfl | rfl
    · simp [refundForModule, withRefund]
    · simp [refundForModule, withRefund, hc.modules.symm]
  · intro hfirst
    rw [← hT]
    simp [withRefund, hfirst]
  · intro hsecond
    rw [← hT]
    simp [withRefund, hsecond, hc.modules.symm]
  · rw [← hsettled, hstate]
    split <;> simp_all
  · rw [← hsettled, hstate]
    split <;> simp_all

theorem funded_leg_can_be_recorded_as_refunded_sample :
    ∃ s : SwapSession, s.Reachable ∧ s.state = .firstFunded ∧
      ∃ t, s.transition (.chainRefundConfirmed .handshake ⟨.replicate 32 7⟩) 4 = .ok t ∧
        t.refundForModule .handshake = some ⟨.replicate 32 7⟩ := by
  have hr := run_iff_replay.2 (rfl : sample.replay sampleLockEvents = some _)
  have hreach : Reachable _ := ⟨sample, _, sample_created, hr⟩
  obtain ⟨t, ht, -, hrefund, -⟩ := funded_leg_can_be_recorded_as_refunded hreach
    (.inl rfl) (by decide) (by decide) ⟨.replicate 32 7⟩ 4
  exact ⟨_, hreach, by decide, t, ht, hrefund⟩

structure KeepsSettlements (s t : SwapSession) : Prop where
  firstRedemption : ∀ l, s.firstRedemption = some l → t.firstRedemption = some l
  secondRedemption : ∀ l, s.secondRedemption = some l → t.secondRedemption = some l
  firstRefund : ∀ l, s.firstRefund = some l → t.firstRefund = some l
  secondRefund : ∀ l, s.secondRefund = some l → t.secondRefund = some l
  completed : s.state = .completed → t.state = .completed
  refunded : s.state = .refunded → s.allFundedLegsSettled → t.state = .refunded

def Reopens (s : SwapSession) (e : VerifiedEvidence) : Prop :=
  s.state = .refunded ∧ ∃ l, e = .firstFundingConfirmed l

def ClosedOnce (s : SwapSession) : Prop :=
  s.secondFunding = none → s.firstRefund.isSome → s.state = .refunded

section

variable (h : s.Coherent) (hs : s.state = .refunded)
include h hs

theorem Coherent.firstRefund_of_refunded :
    s.firstRefund.isSome := by
  obtain ⟨hall, hsr⟩ := h.of_refunded hs
  have hff : s.firstFunding.isSome := by
    by_contra hnone
    have hff : s.firstFunding = none := by simpa using hnone
    simp [allFundedLegsSettled, hff, h.ledger.secondFunding_none hff] at hall
  simp only [allFundedLegsSettled, Bool.and_eq_true, Bool.or_eq_true, hsr,
    Option.isNone_iff_eq_none] at hall
  rcases hall.1.2 with (h | h) | h
  · rw [h] at hff
    exact absurd hff Bool.false_ne_true
  · exact h
  · exact absurd h Bool.false_ne_true

theorem Coherent.not_canRecord_of_refunded (m : ModuleId) :
    s.canRecordRefundForModule m = false := by
  have hrf := h.firstRefund_of_refunded hs
  obtain ⟨hall, hsr⟩ := h.of_refunded hs
  unfold canRecordRefundForModule
  split
  next => simp [Option.isNone_eq_false_iff.2 hrf]
  next =>
    split
    next =>
      simp only [allFundedLegsSettled, Bool.and_eq_true, Bool.or_eq_true,
        Option.isNone_iff_eq_none] at hall
      rcases hall.2 with (h | h) | h
      · simp [h]
      · simp [Option.isNone_eq_false_iff.2 h]
      · simp [Option.isNone_eq_false_iff.2 h]
    next => rfl

theorem Coherent.reopens_of_refunded (step : s.Step e now t) : s.Reopens e := by
  have hrf := h.firstRefund_of_refunded hs
  have hnot : ∀ {p : Prop}, s.firstRefund.isNone → p := fun hnone => by
    rw [Option.isNone_iff_eq_none.1 hnone] at hrf
    exact absurd hrf Bool.false_ne_true
  cases step with
  | firstFundingRefreshed => exact ⟨hs, _, rfl⟩
  | observationStarted _ _ _ hfr => exact hnot hfr
  | refreshedAtGeneration _ _ _ hfr => exact hnot hfr
  | firstFundingRevoked _ _ _ _ hfr => exact hnot hfr
  | @chainRefundConfirmed m e now _ hr =>
    rw [h.not_canRecord_of_refunded hs m] at hr
    exact absurd hr Bool.false_ne_true
  | terminalFailure _ hne => exact absurd hs hne
  | firstRedemptionConfirmed hst | refundEligibilityValidated hst =>
    rw [hs] at hst
    rcases hst with hst | hst <;> exact absurd hst (by decide)
  | _ hst =>
    rw [hs] at hst
    exact absurd hst (by decide)

end

theorem not_step_of_completed (hs : s.state = .completed) : ¬ s.Step e now t := by
  intro step
  cases step with
  | observationStarted hst =>
    rw [hs] at hst
    rcases hst with hst | hst <;> exact absurd hst (by decide)
  | terminalFailure hne => exact absurd hs hne
  | firstRedemptionConfirmed hst | refundEligibilityValidated hst =>
    rw [hs] at hst
    rcases hst with hst | hst <;> exact absurd hst (by decide)
  | _ hst =>
    rw [hs] at hst
    exact absurd hst (by decide)

theorem ClosedOnce.step (h : s.ClosedOnce) (hc : s.Coherent) (hre : ¬ s.Reopens e)
    (step : s.Step e now t) : t.ClosedOnce := by
  have ht := hc.step step
  by_cases hs : s.state = .refunded
  · exact absurd (hc.reopens_of_refunded hs step) hre
  -- The session was open, so without a second lock its first leg is not refunded.
  have hopen : s.secondFunding = none → s.firstRefund = none := fun hsf => by
    by_contra hne
    exact hs (h hsf (Option.isSome_iff_ne_none.2 hne))
  intro hsf hrf
  cases step with
  | secondFundingConfirmed => exact absurd hsf (by simp)
  | refundConfirmed => rfl
  | @chainRefundConfirmed m e now hst hr =>
    unfold withRefund at hsf hrf ⊢
    split at hsf
    next hm =>
      rw [if_pos hm] at hrf ⊢
      have hff : s.firstFunding.isSome := by
        simp only [canRecordRefundForModule, if_pos hm, Bool.and_eq_true] at hr
        exact hr.1.1
      show refundOutcome _ = _
      simp only [moveTo_secondFunding] at hsf
      simp [refundOutcome, allFundedLegsSettled, hff, hsf]
    next hm =>
      rw [if_neg hm] at hrf
      simp only [moveTo_secondFunding] at hsf
      simp only [moveTo_firstRefund, hopen hsf] at hrf
      exact absurd hrf Bool.false_ne_true
  | _ =>
    simp only [moveTo_secondFunding, moveTo_firstRefund, withFirstFunding] at hsf hrf
    rw [hopen hsf] at hrf
    exact absurd hrf Bool.false_ne_true

theorem KeepsSettlements.of_step (h : s.ClosedOnce) (hc : s.Coherent) (hre : ¬ s.Reopens e)
    (step : s.Step e now t) : s.KeepsSettlements t := by
  have hcompleted : s.state = .completed → t.state = .completed := fun hs =>
    absurd step (not_step_of_completed hs)
  have hrefunded : s.state = .refunded → s.allFundedLegsSettled → t.state = .refunded :=
    fun hs _ => absurd (hc.reopens_of_refunded hs step) hre
  cases step with
  | firstRedemptionConfirmed _ _ _ hfr =>
    refine ⟨fun l hl => ?_, fun _ h => h, fun _ h => h, fun _ h => h, hcompleted, hrefunded⟩
    rw [Option.isNone_iff_eq_none.1 hfr] at hl
    exact absurd hl (by simp)
  | secondRedemptionConfirmed hs =>
    refine ⟨fun _ h => h, fun l hl => ?_, fun _ h => h, fun _ h => h, hcompleted, hrefunded⟩
    rw [(hc.of_secretObserved hs).2.1] at hl
    exact absurd hl (by simp)
  | refundConfirmed hs _ _ hsf =>
    refine ⟨fun _ h => h, fun _ h => h, fun l hl => ?_, fun _ h => h, hcompleted, hrefunded⟩
    have := h (Option.isNone_iff_eq_none.1 hsf) (by rw [hl]; rfl)
    rw [hs] at this
    exact absurd this (by decide)
  | @chainRefundConfirmed m e now hs hr =>
    unfold canRecordRefundForModule at hr
    unfold withRefund at hcompleted hrefunded ⊢
    split at hr
    next hm =>
      rw [if_pos hm] at hcompleted hrefunded ⊢
      refine ⟨fun _ h => h, fun _ h => h, fun l hl => ?_, fun _ h => h, hcompleted, hrefunded⟩
      simp [hl] at hr
    next hm =>
      rw [if_neg hm] at hcompleted hrefunded ⊢
      refine ⟨fun _ h => h, fun _ h => h, fun _ h => h, fun l hl => ?_, hcompleted, hrefunded⟩
      simp [hl] at hr
  | _ => exact ⟨fun _ h => h, fun _ h => h, fun _ h => h, fun _ h => h, hcompleted, hrefunded⟩

theorem KeepsSettlements.refl (s : SwapSession) : s.KeepsSettlements s :=
  ⟨fun _ h => h, fun _ h => h, fun _ h => h, fun _ h => h, fun h => h, fun h _ => h⟩

theorem KeepsSettlements.trans (hct : t.Coherent) (h₁ : s.KeepsSettlements t)
    (h₂ : t.KeepsSettlements u) : s.KeepsSettlements u where
  firstRedemption l hl := h₂.firstRedemption l (h₁.firstRedemption l hl)
  secondRedemption l hl := h₂.secondRedemption l (h₁.secondRedemption l hl)
  firstRefund l hl := h₂.firstRefund l (h₁.firstRefund l hl)
  secondRefund l hl := h₂.secondRefund l (h₁.secondRefund l hl)
  completed hs := h₂.completed (h₁.completed hs)
  refunded hs hall :=
    have ht := h₁.refunded hs hall
    h₂.refunded ht (hct.of_refunded ht).1

theorem keepsSettlements_of_run (hc : s.Coherent) (h : s.ClosedOnce) (hr : Run Applies s evs t)
    (steps : ∀ before ev after v, evs = before ++ ev :: after → Run Applies s before v →
      ¬ v.Reopens ev.evidence) :
    t.Coherent ∧ t.ClosedOnce ∧ s.KeepsSettlements t := by
  refine hr.invariant_of_steps (I := fun t => t.Coherent ∧ t.ClosedOnce ∧ s.KeepsSettlements t)
    (C := fun v ev => ¬ v.Reopens ev.evidence) ?_ ⟨hc, h, .refl s⟩ steps
  rintro t ev u ⟨htc, hto, hkeep⟩ hre happ
  obtain ⟨next, revision, hstep, -, rfl⟩ := applies_iff.1 happ
  have hnext := hto.step htc hre hstep
  have hclosed : { next with revision }.ClosedOnce := fun hsf hrf => hnext hsf hrf
  have hu : t.KeepsSettlements { next with revision } :=
    { KeepsSettlements.of_step hto htc hre hstep with }
  exact ⟨htc.applies happ, hclosed, hkeep.trans htc hu⟩

/-- Settlements are final in a run exactly when no step of it applies an
unscoped confirmation of the first lock to a refunded session. -/
theorem settlements_are_final_iff (hnew : s₀.Created) (hr : Run Applies s₀ evs s) :
    (∀ before between after v w, evs = before ++ between ++ after →
      Run Applies s₀ before v → Run Applies v between w → v.KeepsSettlements w) ↔
    ∀ before ev after v, evs = before ++ ev :: after → Run Applies s₀ before v →
      v.state = .refunded → ∀ l, ev.evidence ≠ .firstFundingConfirmed l := by
  have hblank := hnew.blank.1
  constructor
  · intro hfinal before ev after v hevs hv hs l hev
    rw [hevs, Run.append_iff] at hr
    obtain ⟨v', hv', hrest⟩ := hr
    obtain rfl := hv'.functional (fun h₁ h₂ => h₁.functional h₂) hv
    obtain ⟨w, hw, -⟩ := Run.cons_iff.1 hrest
    have hkeep := hfinal before [ev] after v' w (by simp [hevs]) hv (.single hw)
    have hclosed := hkeep.refunded hs ((hblank.coherent.run hv).of_refunded hs).1
    -- The one rule that takes this evidence in a refunded session reopens it.
    obtain ⟨next, revision, hstep, -, rfl⟩ := applies_iff.1 hw
    rw [hev] at hstep
    cases hstep with
    | firstFundingConfirmed hst => exact absurd (hs.symm.trans hst) (by decide)
    | firstFundingRecovered hst => exact absurd (hs.symm.trans hst) (by decide)
    | firstFundingRefreshed =>
      simp only [moveTo_state, hs, SwapState.reopened] at hclosed
      exact absurd hclosed (by decide)
  · intro hcond before between after v w hevs hv hw
    have hsteps : ∀ as ev bs y, before ++ between = as ++ ev :: bs → Run Applies s₀ as y →
        ¬ y.Reopens ev.evidence := by
      rintro as ev bs y heq hy ⟨hs, l, hl⟩
      exact hcond as ev (bs ++ after) y (by simp [hevs, heq]) hy hs l hl
    have hclosed : s₀.ClosedOnce := fun _ h => by
      rw [hblank.firstRefund] at h
      exact absurd h Bool.false_ne_true
    obtain ⟨hvc, hvo, -⟩ := keepsSettlements_of_run hblank.coherent hclosed hv
      fun as ev bs y heq hy => hsteps as ev (bs ++ between) y (by simp [heq]) hy
    refine (keepsSettlements_of_run hvc hvo hw fun as ev bs y heq hy => ?_).2.2
    exact hsteps (before ++ as) ev bs y (by simp [heq]) (hv.trans hy)

def sampleReopening : List SwapEvent :=
  [⟨.firstFundingConfirmed ⟨.replicate 32 9⟩, 5⟩, ⟨.refundBroadcast ⟨.replicate 32 6⟩, 6⟩,
    ⟨.refundConfirmed ⟨.replicate 32 6⟩, 7⟩]

/-- The first refund of a closed session is overwritten by a later one. -/
theorem refund_of_closed_session_is_overwritten :
    ∃ s t, s.Reachable ∧ s.state = .refunded ∧ s.allFundedLegsSettled ∧
      s.firstRefund = some ⟨.replicate 32 7⟩ ∧ Run Applies s sampleReopening t ∧
      t.firstRefund = some ⟨.replicate 32 6⟩ ∧ ¬ s.KeepsSettlements t := by
  have hr := run_iff_replay.2 (rfl : sample.replay (sampleLockEvents ++ [sampleRefund]) = some _)
  refine ⟨_, _, ⟨sample, _, sample_created, hr⟩, rfl, rfl, rfl, run_iff_replay.2 rfl, rfl, ?_⟩
  intro hkeep
  exact absurd (hkeep.firstRefund _ rfl) (by decide)

def sampleClosing : List SwapEvent :=
  sampleFundingEvents ++ [⟨.firstFundingObservationStarted .handshake 1, 3⟩,
    ⟨.firstFundingConfirmedAtGeneration ⟨.replicate 32 9⟩ .handshake 1, 3⟩, sampleRefund]

theorem settlements_are_final_iff_sample :
    ∃ s, Run Applies sample sampleClosing s ∧ s.state = .refunded ∧
      ∀ before between after v w, sampleClosing = before ++ between ++ after →
        Run Applies sample before v → Run Applies v between w → v.KeepsSettlements w := by
  have hr := run_iff_replay.2 (rfl : sample.replay sampleClosing = some _)
  refine ⟨_, hr, rfl, (settlements_are_final_iff sample_created hr).2 ?_⟩
  intro before ev after v hevs _ _ l hl
  have hmem : ev ∈ sampleClosing := by simp [hevs]
  have hcases : ev.evidence ∈ sampleClosing.map SwapEvent.evidence := List.mem_map_of_mem hmem
  rw [hl] at hcases
  simp [sampleClosing, sampleFundingEvents, sampleRefund] at hcases

end SwapSession

end HnsWallet
