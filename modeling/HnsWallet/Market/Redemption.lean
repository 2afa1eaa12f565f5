import HnsWallet.Market.SessionRuns

/-! # Using a revealed secret -/

namespace HnsWallet

open Lib

namespace SwapSession

variable {s s₀ t u : SwapSession} {ev : SwapEvent} {evs : List SwapEvent}
  {e : VerifiedEvidence} {now : UInt64}

structure FirstLegOpen (s : SwapSession) : Prop where
  firstFunding : s.firstFunding.isSome
  firstRefund : s.firstRefund = none
  secondRedemption : s.secondRedemption = none

structure AwaitsSecret (s : SwapSession) : Prop where
  secondFunding : s.secondFunding.isSome
  secondRefund : s.secondRefund = none
  firstRedemption : s.firstRedemption = none

def Strands (s : SwapSession) (e : VerifiedEvidence) : Prop :=
  s.FirstLegOpen ∧
    ((s.firstRedemption.isSome ∧ ∃ reason, e = .terminalFailure reason) ∨
      (s.AwaitsSecret ∧ ∃ l, e = .refundBroadcast l))

structure Usable (s : SwapSession) : Prop where
  awaiting : s.FirstLegOpen → s.AwaitsSecret →
    s.state = .bothFunded ∨ s.state = .refundEligible ∨ s.state = .failed
  revealed : s.FirstLegOpen → s.firstRedemption.isSome →
    s.state = .firstRedeemed ∨ s.state = .secretObserved

/-! ## Evidence that does not strand the session -/

theorem Usable.of_no_second_lock (h : s.Ledger) (hsf : s.secondFunding = none) : s.Usable := by
  constructor
  · intro _ hwait
    have := hwait.secondFunding
    rw [hsf] at this
    exact absurd this Bool.false_ne_true
  · intro _ hfr
    rw [h.firstRedemption_none hsf] at hfr
    exact absurd hfr Bool.false_ne_true

theorem Usable.of_settled (h : ¬ s.FirstLegOpen) : s.Usable :=
  ⟨fun hopen => absurd hopen h, fun hopen => absurd hopen h⟩

theorem Usable.of_same (h : s.Usable) (hff : s.firstFunding.isSome = t.firstFunding.isSome)
    (hsf : t.secondFunding = s.secondFunding) (hfr : t.firstRedemption = s.firstRedemption)
    (hsr : t.secondRedemption = s.secondRedemption) (hrf₁ : t.firstRefund = s.firstRefund)
    (hrf₂ : t.secondRefund = s.secondRefund) (hs : t.state = s.state) : t.Usable := by
  have hopen : t.FirstLegOpen → s.FirstLegOpen := fun ho =>
    ⟨by rw [hff]; exact ho.firstFunding, by rw [← hrf₁]; exact ho.firstRefund,
      by rw [← hsr]; exact ho.secondRedemption⟩
  have hwait : t.AwaitsSecret → s.AwaitsSecret := fun hw =>
    ⟨by rw [← hsf]; exact hw.secondFunding, by rw [← hrf₂]; exact hw.secondRefund,
      by rw [← hfr]; exact hw.firstRedemption⟩
  constructor
  · intro ho hw
    rw [hs]
    exact h.awaiting (hopen ho) (hwait hw)
  · intro ho hr
    rw [hs]
    rw [hfr] at hr
    exact h.revealed (hopen ho) hr

theorem FirstLegOpen.secretOutcome (h : s.FirstLegOpen) : s.secretOutcome = .secretObserved := by
  have hff := h.firstFunding
  unfold SwapSession.secretOutcome
  rw [if_neg]
  simp [allFundedLegsSettled, h.firstRefund, h.secondRedemption, Option.ne_none_iff_isSome.2 hff]

theorem Usable.refreshed (h : s.Usable) (hc : s.Coherent) {l : ObjectHash} {g : UInt64} :
    ((s.withFirstFunding l (some g)).moveTo s.state.reopened now).Usable := by
  by_cases hff : s.firstFunding.isSome
  · constructor
    · intro ho hw
      have hs := h.awaiting ⟨hff, ho.firstRefund, ho.secondRedemption⟩
        ⟨hw.secondFunding, hw.secondRefund, hw.firstRedemption⟩
      rcases hs with hs | hs | hs <;> simp [hs, SwapState.reopened]
    · intro ho hr
      have hs := h.revealed ⟨hff, ho.firstRefund, ho.secondRedemption⟩ hr
      rcases hs with hs | hs <;> simp [hs, SwapState.reopened]
  · have hnone : s.firstFunding = none := Option.not_isSome_iff_eq_none.1 hff
    exact .of_no_second_lock hc.ledger.withFirstFunding.moveTo
      (hc.ledger.secondFunding_none hnone)

theorem Usable.step (h : s.Usable) (hc : s.Coherent) (hn : ¬ s.Strands e)
    (step : s.Step e now t) : t.Usable := by
  have hl := hc.ledger
  have ht := (hc.step step).ledger
  -- Without a second lock there is nothing to keep.
  by_cases hsf : t.secondFunding = none
  · exact .of_no_second_lock ht hsf
  cases step with
  | observationStarted => exact h.of_same rfl rfl rfl rfl rfl rfl rfl
  | firstFundingConfirmed hs =>
    exact absurd (hl.secondFunding_none (hc.of_unfunded (by rw [hs]; rfl))) hsf
  | firstFundingRecovered _ _ h₂ => exact absurd (Option.isNone_iff_eq_none.1 h₂) hsf
  | firstFundingRefreshed _ _ _ h₂ => exact absurd (Option.isNone_iff_eq_none.1 h₂) hsf
  | confirmedAtGeneration hs =>
    exact absurd (hl.secondFunding_none (hc.of_unfunded (by rw [hs]; rfl))) hsf
  | recoveredAtGeneration _ _ _ h₂ => exact absurd (Option.isNone_iff_eq_none.1 h₂) hsf
  | refreshedAtGeneration => exact h.refreshed hc
  | firstFundingDropped _ _ h₂ => exact absurd (Option.isNone_iff_eq_none.1 h₂) hsf
  | firstFundingRevoked hs _ hff hsr hrf =>
    refine h.of_same rfl rfl rfl rfl rfl rfl ?_
    -- A refunded session has no open leg, so its lock is not revoked.
    cases hst : s.state with
    | refunded =>
      have hopen : s.FirstLegOpen := ⟨by rw [hff]; rfl, Option.isNone_iff_eq_none.1 hrf,
        Option.isNone_iff_eq_none.1 hsr⟩
      have hall := (hc.of_refunded hst).1
      simp [allFundedLegsSettled, hff, hopen.firstRefund, hopen.secondRedemption] at hall
    | _ => simp [SwapState.revoked]
  | secondFundingConfirmed hs =>
    refine ⟨fun _ _ => .inl rfl, fun _ hr => ?_⟩
    have hnone := hl.firstRedemption_none (hc.of_secondFundingPending hs).2.1
    simp only [moveTo_firstRedemption, hnone] at hr
    exact absurd hr Bool.false_ne_true
  | firstRedemptionConfirmed =>
    refine ⟨fun _ hw => ?_, fun _ _ => .inl rfl⟩
    exact absurd hw.firstRedemption (by simp)
  | secretExtracted hs =>
    have hfr := (hc.of_firstRedeemed hs).1
    refine ⟨fun _ hw => ?_, fun ho _ => .inr ?_⟩
    · have := hw.firstRedemption
      rw [moveTo_firstRedemption] at this
      rw [this] at hfr
      exact absurd hfr Bool.false_ne_true
    · have hopen : s.FirstLegOpen := ⟨ho.firstFunding, ho.firstRefund, ho.secondRedemption⟩
      exact hopen.secretOutcome
  | secondRedemptionConfirmed => exact .of_settled fun ho => absurd ho.secondRedemption (by simp)
  | completionValidated hs =>
    refine .of_settled fun ho => ?_
    have hsr := hc.of_redeemed (.inl hs)
    rw [show s.secondRedemption = none from ho.secondRedemption] at hsr
    exact absurd hsr Bool.false_ne_true
  | refundEligibilityValidated _ _ h₂ => exact absurd (Option.isNone_iff_eq_none.1 h₂) hsf
  | refundBroadcast hs =>
    constructor
    · intro ho hw
      have hopen : s.FirstLegOpen := ⟨ho.firstFunding, ho.firstRefund, ho.secondRedemption⟩
      have hwait : s.AwaitsSecret := ⟨hw.secondFunding, hw.secondRefund, hw.firstRedemption⟩
      exact absurd ⟨hopen, .inr ⟨hwait, _, rfl⟩⟩ hn
    · intro ho hr
      have hopen : s.FirstLegOpen := ⟨ho.firstFunding, ho.firstRefund, ho.secondRedemption⟩
      have := h.revealed hopen hr
      rw [hs] at this
      rcases this with this | this <;> exact absurd this (by decide)
  | refundConfirmed _ _ _ h₂ => exact absurd (Option.isNone_iff_eq_none.1 h₂) hsf
  | @chainRefundConfirmed m l now _ hr =>
    by_cases hm : m = s.firstModule
    · refine .of_settled fun ho => ?_
      have := ho.firstRefund
      simp [withRefund, hm] at this
    · -- The second leg is refunded only while the secret is hidden.
      simp only [canRecordRefundForModule, if_neg hm] at hr
      have hfr : s.firstRedemption = none := by
        split at hr
        next => simpa using (Bool.and_eq_true_iff.1 hr).2
        next => exact absurd hr Bool.false_ne_true
      refine ⟨fun _ hw => ?_, fun _ hr' => ?_⟩
      · have := hw.secondRefund
        simp [withRefund, hm] at this
      · simp [withRefund, hm, hfr] at hr'
  | terminalFailure =>
    refine ⟨fun _ _ => .inr (.inr rfl), fun ho hr => ?_⟩
    have hopen : s.FirstLegOpen := ⟨ho.firstFunding, ho.firstRefund, ho.secondRedemption⟩
    exact absurd ⟨hopen, .inl ⟨hr, _, rfl⟩⟩ hn
  | secondFundingReady hs => exact absurd (hc.of_firstFunded hs).2.2.1 hsf
  | authorizationIssued hs => exact absurd (hc.of_secondFundingPending hs).2.1 hsf
  | _ hs => exact absurd (hl.secondFunding_none (hc.of_unfunded (by rw [hs]; rfl))) hsf

def GenerationBehind (s : SwapSession) : Prop :=
  (s.state = .offerPublished ∧ s.firstFundingObservationGeneration = 0) ∨
    s.firstFundingObservationGeneration.toNat + 1 ≤ s.revision.toNat

theorem Step.generation (step : s.Step e now t) :
    t.firstFundingObservationGeneration.toNat ≤ s.firstFundingObservationGeneration.toNat + 1 ∧
      (s.state = .offerPublished →
        t.firstFundingObservationGeneration = s.firstFundingObservationGeneration) := by
  cases step with
  | observationStarted hs _ _ _ hg =>
    refine ⟨Nat.le_of_eq (checkedAdd_eq_some.1 hg), fun hp => ?_⟩
    rw [hp] at hs
    rcases hs with hs | hs <;> exact absurd hs (by decide)
  | chainRefundConfirmed =>
    unfold withRefund
    split <;> exact ⟨Nat.le_succ _, fun _ => rfl⟩
  | _ => exact ⟨Nat.le_succ _, fun _ => rfl⟩

theorem GenerationBehind.applies (h : s.GenerationBehind) (ha : s.Applies ev t) :
    t.GenerationBehind := by
  have hrev := ha.revision
  obtain ⟨next, revision, hstep, -, rfl⟩ := applies_iff.1 ha
  obtain ⟨hle, hfresh⟩ := hstep.generation
  refine .inr ?_
  rcases h with ⟨hs, hg⟩ | hg
  · show next.firstFundingObservationGeneration.toNat + 1 ≤ _
    rw [hfresh hs, hg, hrev]
    simp
  · show next.firstFundingObservationGeneration.toNat + 1 ≤ _
    omega

theorem GenerationBehind.next (h : s.GenerationBehind) :
    ∃ g, checkedAdd s.firstFundingObservationGeneration 1 = some g := by
  cases hg : checkedAdd s.firstFundingObservationGeneration 1 with
  | some g => exact ⟨g, rfl⟩
  | none =>
    have hfull : UInt64.size ≤ s.firstFundingObservationGeneration.toNat + 1 :=
      checkedAdd_eq_none.1 hg
    have hrev := s.revision.toNat_lt_size
    rcases h with ⟨-, hzero⟩ | hle
    · rw [hzero] at hfull
      exact absurd hfull (by decide)
    · omega

def Refreshes (s : SwapSession) (startedAt confirmedAt : UInt64) (u : SwapSession) : Prop :=
  ∃ l g t, s.firstFunding = some l ∧
    s.transition (.firstFundingObservationStarted s.firstModule g) startedAt = .ok t ∧
    t.transition (.firstFundingConfirmedAtGeneration l s.firstModule g) confirmedAt = .ok u

def observed (s : SwapSession) (g now : UInt64) : SwapSession :=
  { s with
    firstFundingObservationGeneration := g
    firstFundingConfirmedGeneration := none
    secondFundingAuthorization := none }.moveTo s.state now

theorem FirstLegOpen.refreshes (h : s.FirstLegOpen) (hg : s.GenerationBehind)
    (hs : s.state.fundingRefreshable) (startedAt confirmedAt : UInt64) :
    ∃ u, s.Refreshes startedAt confirmedAt u ∧ u.state = s.state.reopened ∧
      u.firstFundingIsCurrent ∧ u.secondFunding = s.secondFunding ∧
      u.secondRefund = s.secondRefund ∧ u.firstRedemption = s.firstRedemption := by
  obtain ⟨l, hl⟩ := Option.isSome_iff_exists.1 h.firstFunding
  obtain ⟨g, hg⟩ := hg.next
  have hrf := Option.isNone_iff_eq_none.2 h.firstRefund
  have hsr := Option.isNone_iff_eq_none.2 h.secondRedemption
  have hobs : s.Step (.firstFundingObservationStarted s.firstModule g) startedAt
      (s.observed g startedAt) :=
    .observationStarted (.inr hs) (.inr (.inl h.firstFunding)) hsr hrf hg
  have hconfirm : (s.observed g startedAt).Step
      (.firstFundingConfirmedAtGeneration l s.firstModule g) confirmedAt
      (((s.observed g startedAt).withFirstFunding l (some g)).moveTo
        s.state.reopened confirmedAt) := by
    refine .refreshedAtGeneration hs ?_ rfl hrf hsr
    rintro ⟨-, hnone, -⟩
    rw [observed, moveTo_firstFunding, hl] at hnone
    exact absurd hnone Bool.false_ne_true
  refine ⟨_, ⟨l, g, _, hl, hobs.transition, hconfirm.transition⟩, rfl, ?_, rfl, rfl, rfl⟩
  simp [firstFundingIsCurrent, withFirstFunding, observed]

/-! ## What an open first leg needs -/

def AcceptsFirstRedemption (s : SwapSession) : Prop :=
  ∀ l now, ∃ t, s.transition (.firstRedemptionConfirmed l) now = .ok t

def AcceptsSecondRedemption (s : SwapSession) : Prop :=
  ∀ l now, ∃ t, s.transition (.secondRedemptionConfirmed l) now = .ok t

def Transitions (s : SwapSession) (ev : SwapEvent) (t : SwapSession) : Prop :=
  s.transition ev.evidence ev.nowUnix = .ok t

inductive Resumes (s : SwapSession) : VerifiedEvidence → Prop where
  | observation (g : UInt64) : Resumes s (.firstFundingObservationStarted s.firstModule g)
  | confirmation {l : ObjectHash} (g : UInt64) : s.firstFunding = some l →
      Resumes s (.firstFundingConfirmedAtGeneration l s.firstModule g)
  | secret : Resumes s (.secretExtracted s.hashlock)

/-- The secret is not lost to the taker.  While it is hidden, the redemption that
reveals it is accepted, if need be after the first lock is refreshed.  Once it is
revealed, the session resumes to `secretObserved`, where the taker's redemption is
accepted and `Issued` holds, which stands for the taker's permit. -/
structure SecretUsable (Issued : SwapSession → Prop) (s : SwapSession) : Prop where
  awaiting : s.FirstLegOpen → s.AwaitsSecret → s.AcceptsFirstRedemption ∨
    ∀ startedAt confirmedAt, ∃ u, s.Refreshes startedAt confirmedAt u ∧ u.AcceptsFirstRedemption
  revealed : s.FirstLegOpen → s.firstRedemption.isSome → ∀ now, ∃ resumption t,
    (∀ ev ∈ resumption, s.Resumes ev.evidence ∧ ev.nowUnix = now) ∧
    Run Transitions s resumption t ∧ t.state = .secretObserved ∧ t.AcceptsSecondRedemption ∧
    t.firstFundingIsCurrent ∧ Issued t

theorem acceptsFirstRedemption_of (hs : s.state = .bothFunded ∨ s.state = .refundEligible)
    (hw : s.AwaitsSecret) : s.AcceptsFirstRedemption := fun _ _ =>
  ⟨_, (Step.firstRedemptionConfirmed hs hw.secondFunding
    (Option.isNone_iff_eq_none.2 hw.secondRefund)
    (Option.isNone_iff_eq_none.2 hw.firstRedemption)).transition⟩

theorem acceptsSecondRedemption_of (hs : s.state = .secretObserved) :
    s.AcceptsSecondRedemption := fun _ _ =>
  ⟨_, (Step.secondRedemptionConfirmed hs).transition⟩

theorem Refreshes.run (h : s.Refreshes now now u) : ∃ resumption,
    (∀ ev ∈ resumption, s.Resumes ev.evidence ∧ ev.nowUnix = now) ∧
      Run Transitions s resumption u ∧ s.SameTerms u := by
  obtain ⟨l, g, t, hl, hobs, hconfirm⟩ := h
  refine ⟨[⟨.firstFundingObservationStarted s.firstModule g, now⟩,
    ⟨.firstFundingConfirmedAtGeneration l s.firstModule g, now⟩], ?_, ?_, ?_⟩
  · intro ev hev
    rcases List.mem_pair.1 hev with rfl | rfl
    · exact ⟨.observation g, rfl⟩
    · exact ⟨.confirmation g hl, rfl⟩
  · exact .cons hobs (.single hconfirm)
  · exact (step_iff.2 hobs).sameTerms.trans (step_iff.2 hconfirm).sameTerms

theorem FirstLegOpen.resumes_of_secretObserved (h : s.FirstLegOpen) (hg : s.GenerationBehind)
    (hs : s.state = .secretObserved) (now : UInt64) : ∃ resumption t,
    (∀ ev ∈ resumption, s.Resumes ev.evidence ∧ ev.nowUnix = now) ∧
      Run Transitions s resumption t ∧ s.SameTerms t ∧ t.state = .secretObserved ∧
      t.firstFundingIsCurrent := by
  obtain ⟨t, ht, hstate, hcurrent, -⟩ := h.refreshes hg (by rw [hs]; rfl) now now
  obtain ⟨resumption, hres, hrun, hterms⟩ := ht.run
  refine ⟨resumption, t, hres, hrun, hterms, ?_, hcurrent⟩
  rw [hstate, hs]
  rfl

variable {Issued : SwapSession → Prop}

theorem Usable.secretUsable (h : s.Usable) (hg : s.GenerationBehind)
    (hissued : ∀ t, s.SameTerms t → t.state = .secretObserved → t.firstFundingIsCurrent →
      Issued t) : s.SecretUsable Issued := by
  constructor
  · intro ho hw
    rcases h.awaiting ho hw with hs | hs | hs
    · exact .inl (acceptsFirstRedemption_of (.inl hs) hw)
    · exact .inl (acceptsFirstRedemption_of (.inr hs) hw)
    · -- A failed session takes the redemption once its lock is refreshed.
      refine .inr fun startedAt confirmedAt => ?_
      obtain ⟨u, hu, hstate, -, hsf, hrf, hfr⟩ :=
        ho.refreshes hg (by rw [hs]; rfl) startedAt confirmedAt
      rw [hs] at hstate
      refine ⟨u, hu, acceptsFirstRedemption_of (.inr hstate) ?_⟩
      exact ⟨by rw [hsf]; exact hw.secondFunding, hrf.trans hw.secondRefund,
        hfr.trans hw.firstRedemption⟩
  · intro ho hfr now
    rcases h.revealed ho hfr with hs | hs
    · -- The secret is read first; nothing else changes by that.
      have hsecret : s.Step (.secretExtracted s.hashlock) now (s.moveTo s.secretOutcome now) :=
        .secretExtracted hs
      rw [ho.secretOutcome] at hsecret
      have hopen : (s.moveTo .secretObserved now).FirstLegOpen := { ho with }
      have hbehind : (s.moveTo .secretObserved now).GenerationBehind := by
        rcases hg with ⟨hp, -⟩ | hle
        · rw [hs] at hp
          exact absurd hp (by decide)
        · exact .inr hle
      obtain ⟨resumption, t, hres, hrun, hterms, hstate, hcurrent⟩ :=
        hopen.resumes_of_secretObserved hbehind rfl now
      refine ⟨⟨.secretExtracted s.hashlock, now⟩ :: resumption, t, ?_,
        .cons hsecret.transition hrun, hstate, acceptsSecondRedemption_of hstate, hcurrent,
        hissued t (hsecret.sameTerms.trans hterms) hstate hcurrent⟩
      intro ev hev
      rcases List.mem_cons.1 hev with rfl | hev
      · exact ⟨.secret, rfl⟩
      · obtain ⟨hev, htime⟩ := hres ev hev
        refine ⟨?_, htime⟩
        generalize ev.evidence = e at hev
        cases hev with
        | observation g => exact .observation g
        | confirmation g hl => exact .confirmation g hl
        | secret => exact .secret
    · obtain ⟨resumption, t, hres, hrun, hterms, hstate, hcurrent⟩ :=
        ho.resumes_of_secretObserved hg hs now
      exact ⟨resumption, t, hres, hrun, hstate, acceptsSecondRedemption_of hstate, hcurrent,
        hissued t hterms hstate hcurrent⟩

/-! ## Stranded sessions do not -/

def Parked (s : SwapSession) : Prop :=
  s.firstFunding.isSome ∧ (s.state = .failed ∨ s.state = .refundEligible)

theorem Parked.resumes {v w : SwapSession} (h : v.Parked) (hres : s.Resumes e)
    (step : v.Step e now w) : w.Parked := by
  obtain ⟨hff, hs⟩ := h
  cases hres with
  | observation g =>
    generalize s.firstModule = m at step
    cases step with
    | observationStarted => exact ⟨hff, hs⟩
  | confirmation g hl =>
    generalize s.firstModule = m at step
    cases step with
    | confirmedAtGeneration hst =>
      rw [hst] at hs
      rcases hs with hs | hs <;> exact absurd hs (by decide)
    | recoveredAtGeneration _ _ hnone =>
      rw [Option.isNone_iff_eq_none.1 hnone] at hff
      exact absurd hff Bool.false_ne_true
    | refreshedAtGeneration =>
      refine ⟨rfl, .inr ?_⟩
      rcases hs with hs | hs <;> simp [hs, SwapState.reopened]
  | secret =>
    generalize s.hashlock = hashlock at step
    cases step with
    | secretExtracted hst =>
      rw [hst] at hs
      rcases hs with hs | hs <;> exact absurd hs (by decide)

theorem Parked.not_secretUsable (h : s.Parked)
    (ho : s.FirstLegOpen) (hfr : s.firstRedemption.isSome) : ¬ s.SecretUsable Issued := by
  intro husable
  obtain ⟨resumption, t, hres, hrun, hstate, -⟩ := husable.revealed ho hfr 0
  have hparked : t.Parked :=
    hrun.invariant_of_steps (I := Parked) (C := fun _ ev => s.Resumes ev.evidence)
      (fun hp hr htransition => hp.resumes hr (step_iff.2 htransition)) h
      (fun ms ev ms' _ heq _ => (hres ev (by simp [heq])).1)
  have := hparked.2
  rw [hstate] at this
  rcases this with this | this <;> exact absurd this (by decide)

theorem not_secretUsable_of_refundBroadcast
    (hs : s.state = .refundBroadcast) (ho : s.FirstLegOpen) (hw : s.AwaitsSecret) :
    ¬ s.SecretUsable Issued := by
  have hrefuses : ∀ {v : SwapSession}, v.state = .refundBroadcast →
      ¬ v.AcceptsFirstRedemption := by
    intro v hv haccepts
    obtain ⟨t, ht⟩ := haccepts ⟨.replicate 32 0⟩ 0
    cases step_of_transition ht with
    | firstRedemptionConfirmed hst =>
      rw [hv] at hst
      rcases hst with hst | hst <;> exact absurd hst (by decide)
  intro husable
  rcases husable.awaiting ho hw with haccepts | hrefresh
  · exact hrefuses hs haccepts
  · obtain ⟨u, ⟨l, g, t, -, hobs, hconfirm⟩, haccepts⟩ := hrefresh 0 0
    refine hrefuses ?_ haccepts
    have ht : t.state = .refundBroadcast := by
      cases step_of_transition hobs with
      | observationStarted => exact hs
    generalize s.firstModule = m at hconfirm
    cases step_of_transition hconfirm with
    | confirmedAtGeneration hst => exact absurd (ht.symm.trans hst) (by decide)
    | recoveredAtGeneration hst => exact absurd (ht.symm.trans hst) (by decide)
    | refreshedAtGeneration => simp [ht, SwapState.reopened]

theorem Strands.not_secretUsable {Issued : SwapSession → Prop} (h : s.Strands ev.evidence)
    (happ : s.Applies ev t) : ¬ t.SecretUsable Issued := by
  obtain ⟨next, revision, hstep, -, rfl⟩ := applies_iff.1 happ
  obtain ⟨ho, ⟨hfr, reason, he⟩ | ⟨hw, l, he⟩⟩ := h
  · rw [he] at hstep
    cases hstep with
    | terminalFailure => exact Parked.not_secretUsable ⟨ho.firstFunding, .inl rfl⟩ { ho with } hfr
  · rw [he] at hstep
    cases hstep with
    | refundBroadcast => exact not_secretUsable_of_refundBroadcast rfl { ho with } { hw with }

theorem Started.blank (h : s.Started) : s.Blank ∧ s.GenerationBehind := by
  rcases h with h | ⟨s', h, terms, now, rfl⟩
  · obtain ⟨hblank, -, hs⟩ := h.blank
    exact ⟨hblank, .inl ⟨hs, hblank.generation⟩⟩
  · obtain ⟨hblank, -, -⟩ := h.blank
    refine ⟨{ hblank with unfunded := rfl }, .inr ?_⟩
    show s'.firstFundingObservationGeneration.toNat + 1 ≤ (1 : UInt64).toNat
    rw [hblank.generation]
    decide

theorem Blank.usable (h : s.Blank) : s.Usable :=
  .of_no_second_lock h.coherent.ledger h.secondFunding

theorem Usable.run (hnew : s₀.Started) (hr : Run Applies s₀ evs s)
    (steps : ∀ before ev after v, evs = before ++ ev :: after → Run Applies s₀ before v →
      ¬ v.Strands ev.evidence) : s.Coherent ∧ s.Usable ∧ s.GenerationBehind := by
  obtain ⟨hblank, hg⟩ := hnew.blank
  refine hr.invariant_of_steps (I := fun s => s.Coherent ∧ s.Usable ∧ s.GenerationBehind)
    (C := fun v ev => ¬ v.Strands ev.evidence) ?_ ⟨hblank.coherent, hblank.usable, hg⟩ steps
  rintro t ev u ⟨hc, husable, hg⟩ hn happ
  refine ⟨hc.applies happ, ?_, hg.applies happ⟩
  obtain ⟨next, revision, hstep, -, rfl⟩ := applies_iff.1 happ
  exact (husable.step hc hn hstep).of_same rfl rfl rfl rfl rfl rfl rfl

theorem secretUsable_iff_not_strands (hnew : s₀.Started) (hr : Run Applies s₀ evs s)
    (hissued : ∀ t, s₀.SameTerms t → t.state = .secretObserved → t.firstFundingIsCurrent →
      Issued t) :
    (∀ before after v, evs = before ++ after → Run Applies s₀ before v →
      v.SecretUsable Issued) ↔
    ∀ before ev after v, evs = before ++ ev :: after → Run Applies s₀ before v →
      ¬ v.Strands ev.evidence := by
  constructor
  · intro husable before ev after v hevs hv hstrands
    rw [hevs, Run.append_iff] at hr
    obtain ⟨v', hv', hrest⟩ := hr
    obtain rfl := hv'.functional (fun h₁ h₂ => h₁.functional h₂) hv
    obtain ⟨w, hw, -⟩ := Run.cons_iff.1 hrest
    refine hstrands.not_secretUsable hw (husable (before ++ [ev]) after w ?_ (.snoc hv hw))
    simp [hevs]
  · intro hsteps before after v hevs hv
    obtain ⟨-, husable, hg⟩ := Usable.run hnew hv fun as ev bs w heq hw =>
      hsteps as ev (bs ++ after) w (by simp [hevs, heq]) hw
    exact husable.secretUsable hg fun t ht => hissued t ((sameTerms_of_run hv).trans ht)

end SwapSession

end HnsWallet
