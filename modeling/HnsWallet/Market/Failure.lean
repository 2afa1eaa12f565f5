import HnsWallet.Market.Funding
import HnsWallet.Market.SecondFundingAuthority

/-! # Sessions that failed before funding -/

namespace HnsWallet

open Lib WalletStore

namespace SwapSession

variable {s s₀ t : SwapSession} {evs : List SwapEvent} {e : VerifiedEvidence} {now : UInt64}

/-- The session failed without a lock, and not for one of the two reasons that a
lock seen later undoes. -/
structure FailedForGood (s : SwapSession) : Prop where
  state : s.state = .failed
  firstFunding : s.firstFunding = none
  secondFunding : s.secondFunding = none
  reason : s.failedBeforeFunding = false

theorem FailedForGood.step (h : s.FailedForGood) (step : s.Step e now t) :
    (∃ reason, e = .terminalFailure reason) ∨
      ∃ l, e = .firstFundingConfirmedAtGeneration l s.firstModule
        s.firstFundingObservationGeneration := by
  have hs := h.state
  have hff := h.firstFunding
  have hsf := h.secondFunding
  have hreason := h.reason
  cases step with
  | terminalFailure => exact .inl ⟨_, rfl⟩
  | @refreshedAtGeneration l g _ _ _ hg =>
    subst hg
    exact .inr ⟨l, rfl⟩
  | observationStarted _ hheld =>
    exfalso
    simp [hs, hff, hreason] at hheld
  | firstFundingRecovered _ _ _ hb => exact absurd (hreason.symm.trans hb) Bool.false_ne_true
  | recoveredAtGeneration _ _ _ _ hb => exact absurd (hreason.symm.trans hb) Bool.false_ne_true
  | firstFundingRefreshed _ hsome => simp [hff] at hsome
  | firstFundingRevoked _ _ hsome => simp [hff] at hsome
  | chainRefundConfirmed _ hr =>
    exfalso
    simp [canRecordRefundForModule, hff, hsf] at hr
  | _ => simp_all

theorem FailedForGood.refreshed (h : s.FailedForGood) (hc : s.Coherent) (l : ObjectHash)
    (now : UInt64) :
    s.Step (.firstFundingConfirmedAtGeneration l s.firstModule
      s.firstFundingObservationGeneration) now
      ((s.withFirstFunding l (some s.firstFundingObservationGeneration)).moveTo
        .refundEligible now) := by
  have hnot : ¬ (s.state = .failed ∧ s.firstFunding.isNone ∧ s.secondFunding.isNone ∧
      s.failedBeforeFunding) := by
    simp [h.reason]
  have hfirst : s.firstRefund = none := hc.ledger.firstRefund_none h.firstFunding
  have hsecond : s.secondRedemption = none :=
    hc.ledger.secondRedemption_none (hc.ledger.firstRedemption_none h.secondFunding)
  have hstep : s.Step (.firstFundingConfirmedAtGeneration l s.firstModule
      s.firstFundingObservationGeneration) now _ :=
    .refreshedAtGeneration (by rw [h.state]; rfl) hnot rfl (by rw [hfirst]; rfl)
      (by rw [hsecond]; rfl)
  rwa [h.state] at hstep

end SwapSession

section EntryPoints

variable {V : Type} {store : WalletStore V} {policy : ShakescapeDirectSwapPolicy}
  {sessionId : SessionId} {funding : LocallyVerifiedSwapFunding}
  {observationGeneration : Option UInt64} {s t : SwapSession} {evidence : List VerifiedEvidence}
  {nowUnix : UInt64} {stored : StoredWorkflow SwapSession}

theorem SwapSession.FailedForGood.fundingEvidence (h : s.FailedForGood) {module : ModuleId}
    {l : ObjectHash} (he : fundingEvidenceFor s module l observationGeneration = .ok evidence) :
    module = s.firstModule ∧
      evidence = [firstFundingEvidence module l observationGeneration] := by
  unfold fundingEvidenceFor at he
  simp only [h.state, h.firstFunding, h.secondFunding, h.reason] at he
  split_ifs at he with h₁ h₂ h₃ <;> simp_all

variable [Sha256] [MarketplaceProtocol] [Serde V SwapSession]

theorem judgeFunding_eq_ok [BitcoinLibrary]
    (h : judgeFunding store policy sessionId funding observationGeneration = .ok (s, evidence)) :
    ∃ stored, store.loadWorkflow SwapSession (shakescapeExecutionWorkflowId sessionId) =
        .ok (some stored) ∧ stored.state = s ∧ s.acceptedShakescapeTerms.isSome ∧
      fundingEvidenceFor s funding.module (fundingEvidenceId funding) observationGeneration =
        .ok evidence ∧
      ∀ g ∈ observationGeneration, readIsLatest s funding.module g := by
  unfold judgeFunding acceptedHello at h
  simp only [ok_iff, liftStore_eq_ok] at h
  obtain ⟨_, hload, stored, rfl, -, -, hello, ⟨terms, hterms, -⟩, -, -, -, -, -, hlatest, evs,
    hevs, hret⟩ := h
  cases hret
  refine ⟨stored, hload, rfl, by rw [hterms]; rfl, hevs, fun g hg => ?_⟩
  by_contra hnot
  exact hlatest ⟨g, hg, by simpa using hnot⟩

theorem loadShakescapeExecution_state
    (hload : store.loadWorkflow SwapSession (shakescapeExecutionWorkflowId sessionId) =
      .ok (some stored)) {s : SwapSession}
    (h : loadShakescapeExecution store policy sessionId = .ok (some s)) : stored.state = s := by
  obtain ⟨-, row, state, hrow, hstate, rfl⟩ := loadWorkflow_eq_some.1 hload
  obtain ⟨-, row', hrow', hstate', -⟩ := loadShakescapeExecution_row h
  rw [hrow] at hrow'
  cases hrow'
  exact Option.some.inj (hstate.symm.trans hstate')

variable [Encoded V] [Serde V PersistedSecondFundingAuthorization]

section

variable (h : s.FailedForGood)
  (hload : store.loadWorkflow SwapSession (shakescapeExecutionWorkflowId sessionId) =
    .ok (some stored)) (hs : stored.state = s)
include h hload hs

theorem SwapSession.FailedForGood.observation_refused {module : ModuleId}
    {r : UInt64 × WalletStore V} :
    beginShakescapeFirstFundingObservation store policy sessionId module nowUnix ≠ .ok r := by
  intro hok
  unfold beginShakescapeFirstFundingObservation at hok
  simp only [ok_iff, not_or] at hok
  obtain ⟨_, hloaded, session, rfl, -, ⟨-, -, hheld, -⟩, -⟩ := hok
  obtain rfl := loadShakescapeExecution_state hload hloaded
  subst hs
  simp [h.state, h.firstFunding, h.reason] at hheld

theorem SwapSession.FailedForGood.invalidation_refused {r : SwapSession × WalletStore V} :
    invalidateLocallyVerifiedShakescapeFirstFundingInner store policy sessionId
      observationGeneration nowUnix ≠ .ok r := by
  intro hok
  unfold invalidateLocallyVerifiedShakescapeFirstFundingInner at hok
  simp only [ok_iff] at hok
  obtain ⟨_, hloaded, session, rfl, -, -, hok⟩ := hok
  obtain rfl := loadShakescapeExecution_state hload hloaded
  subst hs
  rw [if_neg (by simp [h.state, h.firstFunding, h.reason])] at hok
  simp [ok_iff, h.firstFunding] at hok

end

omit [MarketplaceProtocol] in
theorem applyAll_unchanged {journal : WalletStoreJournal V}
    (h : ∀ e ∈ evidence.head?, ∀ t, ¬ s.Step e nowUnix t) :
    (applyAll s nowUnix journal evidence).2 = journal := by
  cases evidence with
  | nil => rfl
  | cons e rest =>
    have happly : ∀ r, s.apply e nowUnix journal ≠ .ok r := by
      rintro ⟨t, journal'⟩ happly
      obtain ⟨next, -, hstep, -⟩ := SwapSession.apply_eq_ok.1 happly
      exact h e rfl next hstep
    unfold applyAll
    cases hr : s.apply e nowUnix journal with
    | error => rfl
    | ok r => exact absurd hr (happly r)

variable [BitcoinLibrary]

theorem SwapSession.FailedForGood.funding_unchanged (h : s.FailedForGood)
    (hload : store.loadWorkflow SwapSession (shakescapeExecutionWorkflowId sessionId) =
      .ok (some stored)) (hs : stored.state = s)
    (hscope : ∀ g ∈ observationGeneration, funding.module = s.firstModule →
      g ≠ s.firstFundingObservationGeneration) :
    (applyLocallyVerifiedShakescapeFundingInner store policy sessionId funding
      observationGeneration nowUnix).2 = store := by
  unfold applyLocallyVerifiedShakescapeFundingInner
  cases hj : judgeFunding store policy sessionId funding observationGeneration with
  | error => rfl
  | ok r =>
    obtain ⟨session, evidence⟩ := r
    obtain ⟨stored', hload', rfl, -, hevidence, -⟩ := judgeFunding_eq_ok hj
    rw [hload] at hload'
    cases hload'
    subst hs
    obtain ⟨hm, rfl⟩ := h.fundingEvidence hevidence
    show (applyAll _ _ _ _).2.store = store
    rw [applyAll_unchanged]
    intro e he t hstep
    cases he
    cases observationGeneration with
    | none => rcases h.step hstep with ⟨_, heq⟩ | ⟨_, heq⟩ <;> cases heq
    | some g =>
      rcases h.step hstep with ⟨_, heq⟩ | ⟨_, heq⟩
      · cases heq
      · rw [firstFundingEvidence, VerifiedEvidence.firstFundingConfirmedAtGeneration.injEq]
          at heq
        exact hscope g rfl hm heq.2.2

theorem SwapSession.FailedForGood.funding_reopens (h : s.FailedForGood) (hc : s.Coherent)
    (hload : store.loadWorkflow SwapSession (shakescapeExecutionWorkflowId sessionId) =
      .ok (some stored)) (hs : stored.state = s) {store' : WalletStore V}
    (hok : applyLocallyVerifiedShakescapeFundingInner store policy sessionId funding
      (some s.firstFundingObservationGeneration) nowUnix = (.ok t, store')) :
    t.state = .refundEligible ∧
      store'.Holds (shakescapeExecutionWorkflowId sessionId) t := by
  unfold applyLocallyVerifiedShakescapeFundingInner at hok
  cases hj : judgeFunding store policy sessionId funding
    (some s.firstFundingObservationGeneration) with
  | error => simp [hj] at hok
  | ok r =>
    obtain ⟨session, evidence⟩ := r
    obtain ⟨stored', hload', rfl, hterms, hevidence, -⟩ := judgeFunding_eq_ok hj
    rw [hload] at hload'
    cases hload'
    subst hs
    obtain ⟨hm, rfl⟩ := h.fundingEvidence hevidence
    simp only [hj, firstFundingEvidence, hm, applyAll] at hok
    split at hok
    next => cases hok
    next t' journal' happly =>
      cases hok
      obtain ⟨next, revision, hstep, -, rfl, hsave⟩ := SwapSession.apply_eq_ok.1 happly
      have hnext := (SwapSession.step_iff.1 hstep).symm.trans
        (h.refreshed hc _ nowUnix).transition
      cases hnext
      refine ⟨rfl, (WalletStoreJournal.saved ?_ hsave).holds⟩
      exact hterms

/-- A failure without locks, and not for one of the two reasons that a later lock
undoes, is final exactly against evidence other than a confirmation of the first
chain at the session's current generation.  A stored session is left as it is by
every funding entry point but the one for that confirmation, which reopens it. -/
theorem failure_without_locks_is_final_iff {s₀ : SwapSession} {evs : List SwapEvent}
    (h₀ : s₀.Blank) (hr : Run SwapSession.Applies s₀ evs s) (h : s.FailedForGood)
    {stored : StoredWorkflow SwapSession}
    (hload : store.loadWorkflow SwapSession (shakescapeExecutionWorkflowId sessionId) =
      .ok (some stored)) (hs : stored.state = s) :
    (∀ e : VerifiedEvidence, (∀ reason, e ≠ .terminalFailure reason) →
      ((∀ now t, ¬ s.Applies ⟨e, now⟩ t) ↔
        checkedAdd s.revision 1 = none ∨
        ∀ l, e ≠ .firstFundingConfirmedAtGeneration l s.firstModule
          s.firstFundingObservationGeneration)) ∧
    (∀ policy funding now,
      (applyLocallyVerifiedShakescapeFunding store policy sessionId funding now).2 = store) ∧
    (∀ policy funding g now,
      (funding.module ≠ s.firstModule ∨ g ≠ s.firstFundingObservationGeneration →
        (applyLocallyVerifiedShakescapeFundingAtGeneration store policy sessionId funding g
          now).2 = store) ∧
      ∀ t store', g = s.firstFundingObservationGeneration →
        applyLocallyVerifiedShakescapeFundingAtGeneration store policy sessionId funding g now =
          (.ok t, store') →
        t.state = .refundEligible ∧
          store'.Holds (shakescapeExecutionWorkflowId sessionId) t) ∧
    (∀ policy module now r,
      beginShakescapeFirstFundingObservation store policy sessionId module now ≠ .ok r) ∧
    ∀ policy g now r,
      invalidateLocallyVerifiedShakescapeFirstFundingInner store policy sessionId g now ≠
        .ok r := by
  have hc := h₀.coherent.run hr
  refine ⟨?_, ?_, ?_, ?_, ?_⟩
  · intro e he
    constructor
    · intro hrejected
      rw [or_iff_not_imp_left]
      intro hrev l hl
      obtain ⟨revision, hrev⟩ := Option.ne_none_iff_exists'.1 hrev
      subst hl
      exact hrejected 0 _ (SwapSession.applies_iff.2 ⟨_, revision, h.refreshed hc l 0, hrev, rfl⟩)
    · rintro hcond now t happlies
      obtain ⟨next, revision, hstep, hrev, -⟩ := SwapSession.applies_iff.1 happlies
      rcases hcond with hnone | hother
      · rw [hnone] at hrev
        cases hrev
      · rcases h.step hstep with ⟨reason, hreason⟩ | ⟨l, hl⟩
        · exact he reason hreason
        · exact hother l hl
  · intro policy funding now
    exact h.funding_unchanged hload hs fun g hg => by cases hg
  · intro policy funding g now
    refine ⟨fun hscope => h.funding_unchanged hload hs ?_, ?_⟩
    · intro g' hg' hm
      cases hg'
      exact hscope.resolve_left (not_not.2 hm)
    · rintro t store' rfl hok
      exact h.funding_reopens hc hload hs hok
  · exact fun policy module now r => h.observation_refused hload hs
  · exact fun policy g now r => h.invalidation_refused hload hs

end EntryPoints

namespace SwapSession

def sampleFailure : List SwapEvent :=
  sampleFundingEvents ++ [⟨.firstFundingObservationStarted .handshake 1, 3⟩,
    ⟨.terminalFailure "peer withdrew", 4⟩]

/-- The read's result reopens a session that failed for good. -/
theorem failed_session_is_reopened :
    ∃ s t : SwapSession, s.Reachable ∧ s.FailedForGood ∧
      s.Applies ⟨.firstFundingConfirmedAtGeneration ⟨.replicate 32 9⟩ .handshake 1, 5⟩ t ∧
      t.state = .refundEligible := by
  have hr := run_iff_replay.2 (rfl : sample.replay sampleFailure = some _)
  exact ⟨_, _, ⟨sample, _, sample_created, hr⟩, ⟨rfl, rfl, rfl, by decide⟩,
    applies_iff_advance.2 rfl, rfl⟩

end SwapSession

section Sample

open FundingSystem

@[reducible] def sampleBitcoin : BitcoinLibrary where
  publicKey key := some key
  publicKey_compressed h := (Option.some.inj h).symm
  p2wsh script := script

attribute [local instance] sampleSha256 sampleProtocol sampleBitcoin

def sampleFailed : SwapSession :=
  { sampleExecution with
    revision := 5
    state := .failed
    firstFundingObservationGeneration := 1
    lastVerifiedAtUnix := 4
    failureReason := some "peer withdrew" }

def sampleFailedStore : WalletStore SampleValue :=
  (⟨true, ∅, ∅, ∅⟩ : WalletStore SampleValue).putWorkflow
    (shakescapeExecutionWorkflowId sampleExecution.id)
    ⟨.atomicSwap, 5, .session sampleFailed, false, 4⟩

theorem failure_without_locks_is_final_iff_sample :
    sampleFailed.FailedForGood ∧
      (∀ now t, ¬ sampleFailed.Applies ⟨.firstFundingConfirmed ⟨.replicate 32 9⟩, now⟩ t) ∧
      ∀ policy funding now, (applyLocallyVerifiedShakescapeFunding sampleFailedStore policy
        sampleExecution.id funding now).2 = sampleFailedStore := by
  have hr := SwapSession.run_iff_replay.2 (rfl : sampleExecution.replay
    [⟨.refundsValidated, 2⟩, ⟨.fundingReady, 2⟩, ⟨.firstFundingObservationStarted .handshake 1, 3⟩,
      ⟨.terminalFailure "peer withdrew", 4⟩] = some sampleFailed)
  have hf : sampleFailed.FailedForGood := ⟨rfl, rfl, rfl, by decide⟩
  have hload : sampleFailedStore.loadWorkflow SwapSession
      (shakescapeExecutionWorkflowId sampleExecution.id) =
        .ok (some ⟨_, .atomicSwap, 5, sampleFailed, false, 4⟩) :=
    loadWorkflow_eq_some.2 ⟨rfl, _, _, putWorkflow_lookup, rfl, rfl⟩
  obtain ⟨hreject, hfunding, -⟩ :=
    failure_without_locks_is_final_iff sampleSystem_opened.blank hr hf hload rfl
  refine ⟨hf, ?_, hfunding⟩
  refine (hreject _ ?_).2 (.inr ?_)
  · intro reason h
    cases h
  · intro l h
    cases h

end Sample

end HnsWallet
