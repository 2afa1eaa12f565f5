import HnsWallet.Market.Coherence

/-! # Runs of a session -/

namespace HnsWallet

open Lib

structure SwapEvent where
  evidence : VerifiedEvidence
  nowUnix : UInt64
deriving DecidableEq

namespace SwapSession

variable {s t u : SwapSession} {ev : SwapEvent} {evs : List SwapEvent}

def Applies (s : SwapSession) (ev : SwapEvent) (t : SwapSession) : Prop :=
  ∃ (J : Type) (_ : SwapJournal J) (journal journal' : J),
    s.apply ev.evidence ev.nowUnix journal = .ok (t, journal')

theorem apply_eq_ok {J : Type} [SwapJournal J] {e : VerifiedEvidence} {now : UInt64}
    {journal journal' : J} : s.apply e now journal = .ok (t, journal') ↔
      ∃ next revision, s.Step e now next ∧ checkedAdd s.revision 1 = some revision ∧
        t = { next with revision } ∧
        SwapJournal.save journal t s.revision = .ok journal' := by
  unfold apply
  rw [ok_bind_iff]
  constructor
  · rintro ⟨next, hstep, hrest⟩
    split at hrest
    next => exact absurd hrest (by simp)
    next revision hrev =>
      rw [ok_bind_iff] at hrest
      obtain ⟨saved, hsave, hret⟩ := hrest
      cases hret
      exact ⟨next, revision, step_iff.2 hstep, hrev, rfl, hsave⟩
  · rintro ⟨next, revision, hstep, hrev, rfl, hsave⟩
    refine ⟨next, hstep.transition, ?_⟩
    rw [hrev]
    exact ok_bind_iff.2 ⟨journal', hsave, rfl⟩

theorem apply_of_step {J : Type} [SwapJournal J] {e : VerifiedEvidence} {now : UInt64}
    (h : s.Step e now t) (journal : J) :
    s.apply e now journal = match checkedAdd s.revision 1 with
      | none => .error .invariant
      | some revision =>
        (SwapJournal.save journal { t with revision } s.revision).map
          ({ t with revision }, ·) := by
  unfold apply
  rw [h.transition]
  show (match checkedAdd s.revision 1 with | none => _ | some _ => _) = _
  cases checkedAdd s.revision 1 with
  | none => rfl
  | some revision =>
    show (SwapJournal.save journal _ s.revision >>= _) = Except.map _ _
    cases SwapJournal.save journal { t with revision } s.revision <;> rfl

theorem applies_iff : s.Applies ev t ↔ ∃ next revision, s.Step ev.evidence ev.nowUnix next ∧
    checkedAdd s.revision 1 = some revision ∧ t = { next with revision } := by
  constructor
  · rintro ⟨J, inst, journal, journal', h⟩
    obtain ⟨next, revision, hstep, hrev, ht, -⟩ := apply_eq_ok.1 h
    exact ⟨next, revision, hstep, hrev, ht⟩
  · rintro ⟨next, revision, hstep, hrev, rfl⟩
    -- A journal that keeps nothing refuses nothing.
    refine ⟨Unit, ⟨fun _ _ _ => .ok ()⟩, (), (), ?_⟩
    exact (@apply_eq_ok _ _ Unit ⟨fun _ _ _ => .ok ()⟩ _ _ _ _).2
      ⟨next, revision, hstep, hrev, rfl, rfl⟩

def advance (s : SwapSession) (ev : SwapEvent) : Option SwapSession :=
  match s.transition ev.evidence ev.nowUnix with
  | .error _ => none
  | .ok next => (checkedAdd s.revision 1).map fun revision => { next with revision }

theorem applies_iff_advance : s.Applies ev t ↔ s.advance ev = some t := by
  rw [applies_iff]
  unfold advance
  constructor
  · rintro ⟨next, revision, hstep, hrev, rfl⟩
    rw [hstep.transition, hrev]
    rfl
  · intro h
    cases hn : s.transition ev.evidence ev.nowUnix with
    | error e =>
      rw [hn] at h
      exact absurd h (by simp)
    | ok next =>
      rw [hn] at h
      obtain ⟨revision, hrev, ht⟩ := Option.map_eq_some_iff.1 h
      exact ⟨next, revision, step_iff.2 hn, hrev, ht.symm⟩

def replay (s : SwapSession) (evs : List SwapEvent) : Option SwapSession :=
  evs.foldlM advance s

theorem run_iff_replay : Run Applies s evs t ↔ s.replay evs = some t := by
  have happlies : Applies = fun s ev t => s.advance ev = some t := by
    funext s ev t
    exact propext applies_iff_advance
  rw [happlies]
  exact Run.foldlM_iff

theorem Applies.revision (h : s.Applies ev t) : t.revision.toNat = s.revision.toNat + 1 := by
  obtain ⟨next, revision, -, hrev, rfl⟩ := applies_iff.1 h
  exact checkedAdd_eq_some.1 hrev

theorem Applies.functional (h₁ : s.Applies ev t) (h₂ : s.Applies ev u) : t = u := by
  have := (applies_iff_advance.1 h₁).symm.trans (applies_iff_advance.1 h₂)
  exact Option.some.inj this

theorem Step.sameTerms {e : VerifiedEvidence} {now : UInt64} (h : s.Step e now t) :
    s.SameTerms t := by
  cases h with
  | @chainRefundConfirmed m e now hs hr =>
    unfold withRefund
    split <;> constructor <;> rfl
  | _ => constructor <;> rfl

theorem Applies.sameTerms (h : s.Applies ev t) : s.SameTerms t := by
  obtain ⟨next, revision, hstep, -, rfl⟩ := applies_iff.1 h
  exact { hstep.sameTerms with }

theorem sameTerms_of_run (hr : Run Applies s evs t) : s.SameTerms t :=
  hr.related SameTerms.refl SameTerms.trans Applies.sameTerms

theorem Coherent.withRevision (h : s.Coherent) (r : UInt64) :
    { s with revision := r }.Coherent :=
  ⟨h.modules, { h.ledger with }, h.fits⟩

theorem Coherent.applies (h : s.Coherent) (ha : s.Applies ev t) : t.Coherent := by
  obtain ⟨next, revision, hstep, -, rfl⟩ := applies_iff.1 ha
  exact (h.step hstep).withRevision revision

/-! ## Created and reachable sessions -/

def Created (s : SwapSession) : Prop :=
  ∃ id firstModule secondModule quote hashlock timeouts nowUnix,
    new id firstModule secondModule quote hashlock timeouts nowUnix = .ok s

/-- A session starts as `new` returns it, or from countersigned terms: at frozen
terms, with one revision behind it. -/
def Started (s : SwapSession) : Prop :=
  s.Created ∨ ∃ s' : SwapSession, s'.Created ∧ ∃ terms now, s =
    { s' with
      state := .termsFrozen, revision := 1, acceptedShakescapeTerms := terms,
      lastVerifiedAtUnix := now }

def Reachable (s : SwapSession) : Prop :=
  ∃ s₀ evs, s₀.Created ∧ Run Applies s₀ evs s

structure Blank (s : SwapSession) : Prop where
  modules : s.firstModule ≠ s.secondModule
  unfunded : s.state.unfunded
  firstFunding : s.firstFunding = none
  firstFundingRevoked : s.firstFundingRevoked = false
  generation : s.firstFundingObservationGeneration = 0
  confirmed : s.firstFundingConfirmedGeneration = none
  authorization : s.secondFundingAuthorization = none
  secondFunding : s.secondFunding = none
  firstRedemption : s.firstRedemption = none
  secondRedemption : s.secondRedemption = none
  firstRefund : s.firstRefund = none
  secondRefund : s.secondRefund = none

theorem Created.blank (h : s.Created) : s.Blank ∧ s.revision = 0 ∧ s.state = .offerPublished := by
  obtain ⟨id, m₁, m₂, quote, hashlock, timeouts, now, h⟩ := h
  unfold new at h
  obtain ⟨-, -, h⟩ := ok_bind_iff.1 h
  obtain ⟨-, -, h⟩ := ok_bind_iff.1 h
  split at h
  next => exact absurd h (by simp)
  next hpair =>
    cases h
    rw [not_or] at hpair
    exact ⟨⟨hpair.1, rfl, rfl, rfl, rfl, rfl, rfl, rfl, rfl, rfl, rfl, rfl⟩, rfl, rfl⟩

theorem Blank.coherent (h : s.Blank) : s.Coherent := by
  refine ⟨h.modules, ?_, ?_⟩
  · constructor <;>
      simp [h.firstFunding, h.secondFunding, h.firstRedemption, h.secondRedemption,
        h.firstRefund, h.secondRefund, h.firstFundingRevoked]
  · have hs := h.unfunded
    unfold FitsState
    cases hst : s.state <;> rw [hst] at hs <;>
      first | exact h.firstFunding | exact absurd hs Bool.false_ne_true

theorem Coherent.run (h : s.Coherent) (hr : Run Applies s evs t) : t.Coherent :=
  hr.invariant Coherent.applies h

theorem Reachable.coherent (h : s.Reachable) : s.Coherent := by
  obtain ⟨s₀, evs, hnew, hr⟩ := h
  exact hnew.blank.1.coherent.run hr

def sample : SwapSession where
  id := ⟨.replicate 32 1⟩
  revision := 0
  state := .offerPublished
  firstModule := .handshake
  secondModule := .bitcoin
  offered := ⟨.hns, ⟨5, by decide⟩⟩
  received := ⟨.btc, ⟨7, by decide⟩⟩
  termsId := ⟨.replicate 32 2⟩
  hashlock := ⟨.replicate 32 3⟩
  acceptedShakescapeTerms := none
  timeouts := ⟨20000, 10000, 3600⟩
  firstFunding := none
  firstFundingRevoked := false
  firstFundingObservationGeneration := 0
  firstFundingConfirmedGeneration := none
  secondFundingAuthorization := none
  secondFunding := none
  firstRedemption := none
  secondRedemption := none
  refund := none
  firstRefund := none
  secondRefund := none
  lastVerifiedAtUnix := 1
  failureReason := none

theorem sample_created : sample.Created :=
  ⟨sample.id, .handshake, .bitcoin, ⟨sample.termsId, ⟨.hns, ⟨5, by decide⟩⟩,
    ⟨.btc, ⟨7, by decide⟩⟩, 10000⟩,
    sample.hashlock, ⟨20000, 10000, 3600⟩, 1, rfl⟩

def sampleFundingEvents : List SwapEvent :=
  [⟨.offerAcceptanceValidated, 2⟩, ⟨.offerReserved, 2⟩, ⟨.termsApproved sample.termsId, 2⟩,
    ⟨.refundsValidated, 2⟩, ⟨.fundingReady, 2⟩]

end SwapSession

end HnsWallet
