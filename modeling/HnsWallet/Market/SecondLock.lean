import HnsWallet.Market.SessionRuns

/-! # Journaling the second lock

In `secondFundingPending` the second-chain transaction may already be signed or broadcast, but the
session records its lock only in that very state. -/

namespace HnsWallet

open Lib

def SwapState.pastSecondFunding : SwapState → Bool
  | .bothFunded | .firstRedeemed | .secretObserved | .secondRedeemed | .completed
  | .refundEligible | .refundBroadcast | .refunded | .failed => true
  | _ => false

def VerifiedEvidence.abandonsSecondFunding : VerifiedEvidence → Bool
  | .refundEligibilityValidated | .chainRefundConfirmed _ _ | .terminalFailure _ => true
  | _ => false

namespace SwapSession

variable {s s₀ s₁ t : SwapSession} {ev : SwapEvent} {evs evs₁ evs₂ : List SwapEvent}
  {e : VerifiedEvidence} {now : UInt64}

structure PastSecondFunding (s : SwapSession) : Prop where
  firstFunding : s.firstFunding.isSome
  state : s.state.pastSecondFunding

theorem refundOutcome_past : s.refundOutcome.pastSecondFunding := by
  unfold refundOutcome
  split <;> rfl

theorem secretOutcome_past : s.secretOutcome.pastSecondFunding := by
  unfold secretOutcome
  split <;> rfl

theorem withRefund_firstFunding (s : SwapSession) (m : ModuleId) (l : ObjectHash) :
    (s.withRefund m l).firstFunding = s.firstFunding := by
  unfold withRefund
  split <;> rfl

theorem PastSecondFunding.step (h : s.PastSecondFunding) (step : s.Step e now t) :
    t.PastSecondFunding := by
  obtain ⟨hff, hpast⟩ := h
  have hnone : ∀ {p : Prop}, s.firstFunding.isNone → p := fun hn => by
    rw [Option.isNone_iff_eq_none.1 hn] at hff
    exact absurd hff Bool.false_ne_true
  cases step with
  | observationStarted => exact ⟨hff, hpast⟩
  | firstFundingRecovered _ hn => exact hnone hn
  | recoveredAtGeneration _ _ hn => exact hnone hn
  | firstFundingRefreshed | refreshedAtGeneration =>
    refine ⟨rfl, ?_⟩
    cases hs : s.state <;> simp_all [SwapState.pastSecondFunding, SwapState.reopened]
  | firstFundingRevoked =>
    refine ⟨hff, ?_⟩
    cases hs : s.state <;> simp_all [SwapState.pastSecondFunding, SwapState.revoked]
  | secretExtracted => exact ⟨hff, secretOutcome_past⟩
  | chainRefundConfirmed =>
    exact ⟨by rw [moveTo_firstFunding, withRefund_firstFunding]; exact hff,
      refundOutcome_past⟩
  | refundEligibilityValidated => exact ⟨hff, rfl⟩
  | firstRedemptionConfirmed => exact ⟨hff, rfl⟩
  | secondRedemptionConfirmed => exact ⟨hff, rfl⟩
  | completionValidated => exact ⟨hff, rfl⟩
  | refundBroadcast => exact ⟨hff, rfl⟩
  | refundConfirmed => exact ⟨hff, rfl⟩
  | terminalFailure => exact ⟨hff, rfl⟩
  | _ hst =>
    rw [hst] at hpast
    exact absurd hpast Bool.false_ne_true

theorem Coherent.step_of_pending (h : s.Coherent) (hs : s.state = .secondFundingPending)
    (step : s.Step e now t) :
    (e.abandonsSecondFunding = false ∧
      (t.state = .secondFundingPending ∨ t.secondFunding.isSome)) ∨
    (e.abandonsSecondFunding ∧ t.PastSecondFunding) := by
  obtain ⟨hff, hsf, hrf⟩ := h.of_secondFundingPending hs
  cases step with
  | observationStarted => exact .inl ⟨rfl, .inl hs⟩
  | firstFundingRefreshed => exact .inl ⟨rfl, .inl (by rw [moveTo_state, hs]; rfl)⟩
  | refreshedAtGeneration => exact .inl ⟨rfl, .inl (by rw [moveTo_state, hs]; rfl)⟩
  | firstFundingRevoked => exact .inl ⟨rfl, .inl (by rw [moveTo_state, hs]; rfl)⟩
  | authorizationIssued => exact .inl ⟨rfl, .inl rfl⟩
  | secondFundingConfirmed => exact .inl ⟨rfl, .inr rfl⟩
  | refundEligibilityValidated => exact .inr ⟨rfl, hff, rfl⟩
  | chainRefundConfirmed =>
    exact .inr ⟨rfl, by rw [moveTo_firstFunding, withRefund_firstFunding]; exact hff,
      refundOutcome_past⟩
  | terminalFailure => exact .inr ⟨rfl, hff, rfl⟩
  | firstRedemptionConfirmed hst =>
    rw [hs] at hst
    rcases hst with hst | hst <;> exact absurd hst (by decide)
  | _ hst =>
    rw [hs] at hst
    exact absurd hst (by decide)

theorem secondFunding_isSome_of_step (h : s.secondFunding.isSome) (step : s.Step e now t) :
    t.secondFunding.isSome := by
  cases step with
  | secondFundingConfirmed => rfl
  | chainRefundConfirmed =>
    rw [moveTo_secondFunding]
    unfold withRefund
    split <;> exact h
  | _ => exact h

theorem secondFunding_isSome_of_applies (h : s.secondFunding.isSome) (ha : s.Applies ev t) :
    t.secondFunding.isSome := by
  obtain ⟨next, revision, hstep, -, rfl⟩ := applies_iff.1 ha
  have := secondFunding_isSome_of_step h hstep
  exact this

theorem Coherent.run_of_pending (h : s₁.Coherent) (hs₁ : s₁.state = .secondFundingPending)
    (hr : Run Applies s₁ evs s) :
    ((∀ ev ∈ evs, ev.evidence.abandonsSecondFunding = false) ∧
      s.state = .secondFundingPending) ∨
    s.secondFunding.isSome ∨
    ((∃ ev ∈ evs, ev.evidence.abandonsSecondFunding) ∧ s.PastSecondFunding) := by
  induction hr with
  | refl => exact .inl ⟨by simp, hs₁⟩
  | @snoc evs ev t u hr happ ih =>
    obtain ⟨next, revision, hstep, -, rfl⟩ := applies_iff.1 happ
    rcases ih with ⟨hkeep, hs⟩ | hsf | ⟨⟨bad, hbad, hab⟩, hpast⟩
    · rcases (h.run hr).step_of_pending hs hstep with ⟨hev, hnext⟩ | ⟨hev, hnext⟩
      · rcases hnext with hnext | hnext
        · refine .inl ⟨fun b hb => ?_, hnext⟩
          rcases List.mem_append.1 hb with hb | hb
          · exact hkeep b hb
          · rw [List.mem_singleton.1 hb]
            exact hev
        · exact .inr (.inl hnext)
      · exact .inr (.inr ⟨⟨ev, by simp, hev⟩, hnext.firstFunding, hnext.state⟩)
    · exact .inr (.inl (secondFunding_isSome_of_applies hsf happ))
    · have hnext := hpast.step hstep
      exact .inr (.inr ⟨⟨bad, by simp [hbad], hab⟩, hnext.firstFunding, hnext.state⟩)

theorem secondFundingConfirmed_iff {l : ObjectHash} :
    s.transition (.secondFundingConfirmed l) now = .ok t ↔
      s.state = .secondFundingPending ∧
        t = { s with secondFunding := some l }.moveTo .bothFunded now := by
  rw [← step_iff]
  constructor
  · intro h
    cases h with
    | secondFundingConfirmed hs => exact ⟨hs, rfl⟩
  · rintro ⟨hs, rfl⟩
    exact .secondFundingConfirmed hs

theorem Coherent.canRefund_second_iff (h : s.Coherent) (hsf : s.secondFunding.isSome) :
    s.canRefundModule s.secondModule ↔ s.fundedModuleIsSettled s.secondModule = false := by
  simp only [canRefundModule, fundedModuleIsSettled, if_neg h.modules.symm, if_pos, hsf,
    Bool.true_and]
  cases s.secondRefund <;> cases s.firstRedemption <;> simp

/-- After a run that passed `secondFundingPending` and has no second lock yet,
the lock is accepted, and can then be refunded until its leg is settled, exactly
when no evidence accepted since abandoned it. -/
theorem second_lock_is_recordable_iff (hnew : s₀.Created) (h₁ : Run Applies s₀ evs₁ s₁)
    (hs₁ : s₁.state = .secondFundingPending) (h₂ : Run Applies s₁ evs₂ s)
    (hsf : s.secondFunding = none) :
    (∀ l now, ∃ t, s.transition (.secondFundingConfirmed l) now = .ok t ∧
      t.secondFunding = some l ∧
      ∀ evs₃ u, Run Applies t evs₃ u →
        (u.canRefundModule u.secondModule ↔ u.fundedModuleIsSettled u.secondModule = false)) ↔
    ∀ ev ∈ evs₂, ev.evidence ≠ .refundEligibilityValidated ∧
      (∀ m l, ev.evidence ≠ .chainRefundConfirmed m l) ∧
      ∀ reason, ev.evidence ≠ .terminalFailure reason := by
  have hc₁ := hnew.blank.1.coherent.run h₁
  have hc := hc₁.run h₂
  have hrun := hc₁.run_of_pending hs₁ h₂
  rw [hsf] at hrun
  constructor
  · intro haccept ev hev
    obtain ⟨t, ht, -⟩ := haccept ⟨.replicate 32 0⟩ 0
    have hs := (secondFundingConfirmed_iff.1 ht).1
    rcases hrun with ⟨hkeep, -⟩ | hsome | ⟨-, hpast⟩
    · have := hkeep ev hev
      refine ⟨fun h => ?_, fun m l h => ?_, fun reason h => ?_⟩ <;>
        simp [h, VerifiedEvidence.abandonsSecondFunding] at this
    · exact absurd hsome Bool.false_ne_true
    · have := hpast.state
      rw [hs] at this
      exact absurd this Bool.false_ne_true
  · intro hnone l now
    rcases hrun with ⟨-, hs⟩ | hsome | ⟨⟨ev, hev, hab⟩, -⟩
    · have hstep : s.Step (.secondFundingConfirmed l) now
        ({ s with secondFunding := some l }.moveTo .bothFunded now) := .secondFundingConfirmed hs
      refine ⟨_, hstep.transition, rfl, fun evs₃ u hu => ?_⟩
      refine ((hc.step hstep).run hu).canRefund_second_iff ?_
      exact hu.invariant (I := fun u => u.secondFunding.isSome)
        secondFunding_isSome_of_applies rfl
    · exact absurd hsome Bool.false_ne_true
    · obtain ⟨h₁, h₂, h₃⟩ := hnone ev hev
      cases hevidence : ev.evidence <;>
        simp_all [VerifiedEvidence.abandonsSecondFunding]

def samplePendingEvents : List SwapEvent :=
  sampleFundingEvents ++
    [⟨.firstFundingConfirmed ⟨.replicate 32 9⟩, 3⟩, ⟨.secondFundingReady, 4⟩]

/-- A first lock that is refunded on its chain while the second lock is being
funded closes the session; the second lock is then never accepted. -/
theorem second_lock_is_lost_after_first_refund :
    ∃ s₁ s, Run Applies sample samplePendingEvents s₁ ∧
      s₁.state = .secondFundingPending ∧
      Run Applies s₁ [⟨.chainRefundConfirmed .handshake ⟨.replicate 32 7⟩, 5⟩] s ∧
      s.secondFunding = none ∧
      ¬ ∃ t, s.transition (.secondFundingConfirmed ⟨.replicate 32 5⟩) 6 = .ok t := by
  have hr := run_iff_replay.2 (rfl : sample.replay samplePendingEvents = some _)
  refine ⟨_, _, hr, rfl, run_iff_replay.2 rfl, rfl, ?_⟩
  rintro ⟨t, ht⟩
  exact absurd (secondFundingConfirmed_iff.1 ht).1 (by decide)

def sampleLossEvents : List SwapEvent :=
  [⟨.firstFundingConfirmed ⟨.replicate 32 7⟩, 5⟩, ⟨.firstFundingInvalidated ⟨.replicate 32 7⟩, 6⟩]

/-- The first lock is seen again and then lost, and the second is still accepted. -/
theorem second_lock_is_recordable_iff_sample :
    ∃ s₁ s, Run Applies sample samplePendingEvents s₁ ∧ s₁.state = .secondFundingPending ∧
      Run Applies s₁ sampleLossEvents s ∧
      ∀ l now, ∃ t, s.transition (.secondFundingConfirmed l) now = .ok t ∧
        t.secondFunding = some l ∧
        ∀ evs₃ u, Run Applies t evs₃ u →
          (u.canRefundModule u.secondModule ↔
            u.fundedModuleIsSettled u.secondModule = false) := by
  have hr := run_iff_replay.2 (rfl : sample.replay samplePendingEvents = some _)
  exact ⟨_, _, hr, rfl, run_iff_replay.2 rfl,
    (@second_lock_is_recordable_iff _ _ _ _ sampleLossEvents sample_created hr rfl
      (run_iff_replay.2 rfl) rfl).2 (by simp [sampleLossEvents])⟩

end SwapSession

end HnsWallet
