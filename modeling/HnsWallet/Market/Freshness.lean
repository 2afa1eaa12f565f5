import HnsWallet.Market.SessionRuns

/-! # Freshness of second-funding authority -/

namespace HnsWallet

open Lib

namespace SwapSession

variable {s s₀ t : SwapSession} {ev : SwapEvent} {evs : List SwapEvent}
  {e : VerifiedEvidence} {now : UInt64} {l : ObjectHash} {g : UInt64}

/-! ## Authority in one state -/

structure Authorizes (s : SwapSession) (a : SecondFundingAuthorization) : Prop where
  state : s.state = .secondFundingPending
  firstFunding : s.firstFunding = some a.firstFunding
  notRevoked : s.firstFundingRevoked = false
  generation : a.firstFundingObservationGeneration = s.firstFundingObservationGeneration
  confirmed : s.firstFundingConfirmedGeneration = some s.firstFundingObservationGeneration
  secondFunding : s.secondFunding = none
  module : a.module = s.secondModule
  nonZero : a.id.nonZero

def AuthorityHeld (s : SwapSession) : Prop :=
  ∀ a, s.secondFundingAuthorization = some a → s.Authorizes a

theorem Authorizes.current {a : SecondFundingAuthorization} (h : s.Authorizes a) :
    s.firstFundingIsCurrent := by
  simp [firstFundingIsCurrent, h.firstFunding, h.notRevoked, h.confirmed]

theorem AuthorityHeld.of_none (h : t.secondFundingAuthorization = none) : t.AuthorityHeld := by
  intro a ha
  rw [h] at ha
  exact absurd ha (by simp)

theorem AuthorityHeld.moveTo {next : SwapState} (h : next ≠ .secondFundingPending) :
    (s.moveTo next now).AuthorityHeld :=
  .of_none (if_neg h)

theorem AuthorityHeld.step (h : s.AuthorityHeld) (step : s.Step e now t) :
    t.AuthorityHeld := by
  cases step with
  | observationStarted => exact .of_none (ite_self _)
  | firstFundingRefreshed => exact .of_none (ite_self _)
  | refreshedAtGeneration | firstFundingRevoked => exact .of_none (ite_self _)
  | secondFundingReady hs =>
    -- `firstFunded` holds no authorization, so none is carried along.
    refine .of_none ?_
    rw [moveTo_secondFundingAuthorization, if_pos rfl, Option.eq_none_iff_forall_ne_some]
    intro a ha
    have := (h a ha).state
    rw [hs] at this
    exact absurd this (by decide)
  | authorizationIssued hs hff hrev hsf hm hg hc hid hexp =>
    intro b hb
    rw [moveTo_secondFundingAuthorization, if_pos rfl] at hb
    cases hb
    exact ⟨rfl, hff, hrev, hg.symm, hc.trans (congrArg some hg.symm),
      Option.isNone_iff_eq_none.1 hsf, hm.symm, hid⟩
  | secretExtracted =>
    refine .moveTo ?_
    unfold secretOutcome
    split <;> simp
  | chainRefundConfirmed =>
    refine .moveTo ?_
    unfold refundOutcome
    split <;> simp
  | _ => exact .moveTo (by simp)

theorem AuthorityHeld.applies (h : s.AuthorityHeld) (ha : s.Applies ev t) :
    t.AuthorityHeld := by
  obtain ⟨next, revision, hstep, -, rfl⟩ := applies_iff.1 ha
  intro a hauth
  exact { h.step hstep a hauth with }

theorem AuthorityHeld.run (h : s.AuthorityHeld) (hr : Run Applies s evs t) :
    t.AuthorityHeld :=
  hr.invariant AuthorityHeld.applies h

/-! ## Authority in a history -/

structure ConfirmedAt (s : SwapSession) (l : ObjectHash) (g : UInt64) : Prop where
  firstFunding : s.firstFunding = some l
  generation : s.firstFundingObservationGeneration = g
  confirmed : s.firstFundingConfirmedGeneration = some g

def supersedesRead : VerifiedEvidence → Bool
  | .firstFundingInvalidated _ | .firstFundingConfirmed _
  | .firstFundingObservationStarted _ _ => true
  | _ => false

theorem ConfirmedAt.back (step : s.Step e now t) (h : t.ConfirmedAt l g) :
    (e = .firstFundingConfirmedAtGeneration l s.firstModule g ∧
      s.firstFundingObservationGeneration = g) ∨
    (s.ConfirmedAt l g ∧ supersedesRead e = false) := by
  obtain ⟨hl, hg, hc⟩ := h
  cases step with
  | observationStarted => exact absurd hc (by simp)
  | firstFundingConfirmed => exact absurd hc (by simp [withFirstFunding])
  | firstFundingRecovered | firstFundingRefreshed => exact absurd hc (by simp [withFirstFunding])
  | firstFundingDropped | firstFundingRevoked => exact absurd hc (by simp)
  | confirmedAtGeneration hs hgen | recoveredAtGeneration hs hgen
  | refreshedAtGeneration hs hnot hgen =>
    cases hl
    cases hc
    exact .inl ⟨rfl, hgen⟩
  | @chainRefundConfirmed m e now hs hr =>
    have hrefund : (s.withRefund m e).firstFunding = s.firstFunding ∧
        (s.withRefund m e).firstFundingObservationGeneration =
          s.firstFundingObservationGeneration ∧
        (s.withRefund m e).firstFundingConfirmedGeneration =
          s.firstFundingConfirmedGeneration := by
      unfold withRefund
      split <;> exact ⟨rfl, rfl, rfl⟩
    obtain ⟨h₁, h₂, h₃⟩ := hrefund
    exact .inr ⟨⟨h₁.symm.trans hl, h₂.symm.trans hg, h₃.symm.trans hc⟩, rfl⟩
  | _ => exact .inr ⟨⟨hl, hg, hc⟩, rfl⟩

theorem generation_back (step : s.Step e now t) (h : t.firstFundingObservationGeneration = g) :
    e = .firstFundingObservationStarted s.firstModule g ∨
      s.firstFundingObservationGeneration = g := by
  cases step with
  | observationStarted =>
    cases h
    exact .inl rfl
  | @chainRefundConfirmed m e now hs hr =>
    refine .inr ?_
    rw [← h, moveTo_firstFundingObservationGeneration]
    unfold withRefund
    split <;> rfl
  | _ => exact .inr h

theorem observation_of_generation (hr : Run Applies s₀ evs t)
    (h₀ : s₀.firstFundingObservationGeneration ≠ g) (h : t.firstFundingObservationGeneration = g) :
    ∃ before start after, evs = before ++ start :: after ∧
      start.evidence = .firstFundingObservationStarted t.firstModule g := by
  obtain ⟨before, start, after, v, w, rfl, hv, hstep, hmake, hw, -⟩ :=
    hr.since (P := fun u => u.firstFundingObservationGeneration = g)
      (M := fun v ev => ev.evidence = .firstFundingObservationStarted v.firstModule g)
      (U := fun _ => False) h₀
      (fun {u ev w} happ hw => by
        obtain ⟨next, revision, hstep, -, rfl⟩ := applies_iff.1 happ
        rcases generation_back hstep hw with hmake | hkeep
        · exact .inl hmake
        · exact .inr ⟨hkeep, not_false⟩) h
  refine ⟨before, start, after, rfl, ?_⟩
  rw [hmake, (sameTerms_of_run (Run.cons hstep hw)).firstModule]

theorem confirmation_of_confirmedAt (hr : Run Applies s₀ evs t)
    (h₀ : s₀.firstFundingObservationGeneration ≠ g) (h : t.ConfirmedAt l g) :
    ∃ before start between confirmation after,
      evs = before ++ start :: between ++ confirmation :: after ∧
      start.evidence = .firstFundingObservationStarted t.firstModule g ∧
      confirmation.evidence = .firstFundingConfirmedAtGeneration l t.firstModule g ∧
      ∀ ev ∈ after, supersedesRead ev.evidence = false := by
  obtain ⟨ls, confirmation, after, v, w, rfl, hv, hstep, ⟨hmake, hgen⟩, hw, hkeep⟩ :=
    hr.since (P := fun u => u.ConfirmedAt l g)
      (M := fun v ev =>
        ev.evidence = .firstFundingConfirmedAtGeneration l v.firstModule g ∧
          v.firstFundingObservationGeneration = g)
      (U := fun ev => supersedesRead ev.evidence = true)
      (fun h => h₀ h.generation)
      (fun {u ev w} happ hw => by
        obtain ⟨next, revision, hstep, -, rfl⟩ := applies_iff.1 happ
        rcases ConfirmedAt.back hstep { hw with } with hmake | ⟨hp, hundo⟩
        · exact .inl hmake
        · exact .inr ⟨hp, by simp [hundo]⟩) h
  -- The confirmation was accepted at generation `g`, so the read had started before it.
  obtain ⟨before, start, between, rfl, hstart⟩ := observation_of_generation hv h₀ hgen
  refine ⟨before, start, between, confirmation, after, rfl, ?_, ?_, ?_⟩
  · rw [hstart, (sameTerms_of_run (Run.cons hstep hw)).firstModule]
  · rw [hmake, (sameTerms_of_run (Run.cons hstep hw)).firstModule]
  · intro ev hev
    simpa using hkeep ev hev

/-- Authority over whole runs.  An authorization in the session is supported by
its present lock, generation and chain; and a lock that is current at a
generation was confirmed by the read of that generation, after which no
invalidation, unscoped confirmation or newer read was accepted. -/
theorem second_funding_authority_is_fresh (hnew : s₀.Created) (hr : Run Applies s₀ evs s) :
    (∀ a, s.secondFundingAuthorization = some a →
      s.state = .secondFundingPending ∧ s.firstFunding = some a.firstFunding ∧
      s.firstFundingRevoked = false ∧
      a.firstFundingObservationGeneration = s.firstFundingObservationGeneration ∧
      s.firstFundingConfirmedGeneration = some s.firstFundingObservationGeneration ∧
      s.secondFunding = none ∧ a.module = s.secondModule ∧ a.id.nonZero) ∧
    (s.firstFundingIsCurrent → 0 < s.firstFundingObservationGeneration →
      ∃ l before start between confirmation after, s.firstFunding = some l ∧
        evs = before ++ start :: between ++ confirmation :: after ∧
        start.evidence =
          .firstFundingObservationStarted s.firstModule s.firstFundingObservationGeneration ∧
        confirmation.evidence = .firstFundingConfirmedAtGeneration l s.firstModule
          s.firstFundingObservationGeneration ∧
        ∀ ev ∈ after, (∀ l', ev.evidence ≠ .firstFundingInvalidated l') ∧
          (∀ l', ev.evidence ≠ .firstFundingConfirmed l') ∧
          ∀ m g, ev.evidence ≠ .firstFundingObservationStarted m g) := by
  have hblank := hnew.blank.1
  constructor
  · intro a ha
    have h := (AuthorityHeld.of_none hblank.authorization).run hr a ha
    exact ⟨h.state, h.firstFunding, h.notRevoked, h.generation, h.confirmed, h.secondFunding,
      h.module, h.nonZero⟩
  · intro hcur hpos
    have hne : s.firstFundingObservationGeneration ≠ 0 := by
      rintro h0
      rw [h0] at hpos
      exact absurd hpos (by decide)
    simp only [firstFundingIsCurrent, Bool.and_eq_true, Bool.or_eq_true, beq_iff_eq, hne,
      false_or] at hcur
    obtain ⟨⟨hff, -⟩, hconf⟩ := hcur
    obtain ⟨l, hl⟩ := Option.isSome_iff_exists.1 hff
    have h₀ : s₀.firstFundingObservationGeneration ≠ s.firstFundingObservationGeneration := by
      rw [hblank.generation]
      exact hne.symm
    obtain ⟨before, start, between, confirmation, after, hevs, hstart, hconfirm, hkeep⟩ :=
      confirmation_of_confirmedAt hr h₀ ⟨hl, rfl, hconf⟩
    refine ⟨l, before, start, between, confirmation, after, hl, hevs, hstart, hconfirm, ?_⟩
    intro ev hev
    have hev := hkeep ev hev
    refine ⟨fun l' h => ?_, fun l' h => ?_, fun m g h => ?_⟩ <;>
      simp [h, supersedesRead] at hev

def sampleReadEvents : List SwapEvent :=
  [⟨.firstFundingObservationStarted .handshake 1, 3⟩,
    ⟨.firstFundingConfirmedAtGeneration ⟨.replicate 32 9⟩ .handshake 1, 3⟩,
    ⟨.secondFundingReady, 4⟩,
    ⟨.secondFundingAuthorizationIssued
      ⟨⟨.replicate 32 8⟩, .bitcoin, ⟨.replicate 32 9⟩, 1, 100⟩, 5⟩]

theorem second_funding_authority_is_fresh_sample :
    ∃ s, Run Applies sample (sampleFundingEvents ++ sampleReadEvents) s ∧
      s.secondFundingAuthorization.isSome ∧ s.firstFundingIsCurrent ∧
      ∃ l before start between confirmation after, s.firstFunding = some l ∧
        sampleFundingEvents ++ sampleReadEvents =
          before ++ start :: between ++ confirmation :: after ∧
        start.evidence =
          .firstFundingObservationStarted s.firstModule s.firstFundingObservationGeneration ∧
        confirmation.evidence = .firstFundingConfirmedAtGeneration l s.firstModule
          s.firstFundingObservationGeneration ∧
        ∀ ev ∈ after, (∀ l', ev.evidence ≠ .firstFundingInvalidated l') ∧
          (∀ l', ev.evidence ≠ .firstFundingConfirmed l') ∧
          ∀ m g, ev.evidence ≠ .firstFundingObservationStarted m g := by
  have hr := run_iff_replay.2
    (rfl : sample.replay (sampleFundingEvents ++ sampleReadEvents) = some _)
  exact ⟨_, hr, by decide, by decide,
    (second_funding_authority_is_fresh sample_created hr).2 (by decide) (by decide)⟩

end SwapSession

end HnsWallet
