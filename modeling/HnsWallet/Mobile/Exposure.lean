import HnsWallet.Mobile.Settlement

/-! # When the maker's secret leaves the wallet -/

namespace HnsWallet

open Lib

structure RedeemContext where
  policy : ShakescapeDirectSwapPolicy
  walletId : WalletId
  sessionId : SessionId
  accountEntityPrefix : Bytes 32

/-- The store and what the controllers hold next to it.  Permits are never taken back:
a caller may use one however old it is. -/
structure RedeemSystem (V : Type) where
  store : WalletStore V
  bitcoinPermits : List MobileShakescapeBitcoinSettlementPermit
  hnsPermits : List MobileShakescapeHnsSettlementPermit
  bitcoinPending : Option PendingMobileBitcoinHtlcSettlement
  hnsPending : Option PendingMobileShakescapeHnsSettlement

inductive RedeemAction where
  | advance (event : SwapEvent)
  | authorizeBitcoin
  | authorizeHns
  | prepareBitcoin (nowUnix : UInt64)
  | prepareHns (nowUnix : UInt64)
  | approveBitcoin (nowUnix checkpointNowUnix : UInt64)
  | approveHns (nowUnix startedAtUnix : UInt64)
  | reject
  | synchronize
  | restart
  | elsewhere

section Fences

variable [Sha256]

def RedeemContext.redeemId (c : RedeemContext) : WorkflowId :=
  settlementWorkflowId c.accountEntityPrefix c.sessionId .redeem

def RedeemContext.executionId (c : RedeemContext) : WorkflowId :=
  shakescapeExecutionWorkflowId c.sessionId

def RedeemContext.Redeems (c : RedeemContext) (p : PendingMobileBitcoinHtlcSettlement) : Prop :=
  p.sessionId = c.sessionId ∧ p.branch = .redeem

variable {V : Type} [Serde V SwapSession] [Serde V HnsPreparedSettlement]

structure RedeemSystem.Opened (c : RedeemContext) (s₀ : SwapSession) (σ : RedeemSystem V) :
    Prop where
  holds : σ.store.Holds c.executionId s₀
  started : s₀.Started
  id : s₀.id = c.sessionId
  terms : s₀.acceptedShakescapeTerms.isSome
  unprepared : σ.store.settlement c.redeemId = none
  bitcoinPermits : σ.bitcoinPermits = []
  hnsPermits : σ.hnsPermits = []
  bitcoinPending : σ.bitcoinPending = none
  hnsPending : σ.hnsPending = none

structure HnsSettlementBroadcastGuard.Bound (guard : HnsSettlementBroadcastGuard)
    (c : RedeemContext) (s : SwapSession) : Prop where
  execution : guard.executionWorkflowId = c.executionId
  revision : guard.executionRevision.toNat ≤ s.revision.toNat
  state : guard.executionRevision = s.revision → s.state = .bothFunded ∧ s.firstFundingIsCurrent

structure RedeemSystem.Fenced (c : RedeemContext) (σ : RedeemSystem V) (s : SwapSession) :
    Prop where
  holds : σ.store.Holds c.executionId s
  id : s.id = c.sessionId
  terms : s.acceptedShakescapeTerms.isSome
  modules : s.firstModule ≠ s.secondModule
  bitcoinPermits : ∀ permit ∈ σ.bitcoinPermits, permit.policy = c.policy ∧
    permit.terms.sessionId = c.sessionId.bytes ∧
    (s.secondModule = .bitcoin → permit.requiresCurrentFirstFunding)
  bitcoinPending : ∀ p ∈ σ.bitcoinPending, c.Redeems p → p.policy = c.policy ∧
    (s.secondModule = .bitcoin → p.requiresCurrentFirstFunding)
  hnsPermits : ∀ permit ∈ σ.hnsPermits, permit.action = .redeem ∧
    permit.terms.sessionId = c.sessionId.bytes ∧
    (s.secondModule = .handshake → ∃ g, permit.hnsBroadcastGuard = some g ∧ g.Bound c s)
  settlement : ∀ p, σ.store.settlement c.redeemId = some p → p.stage = .prepared →
    s.secondModule = .handshake → ∃ g, p.broadcastGuard = some g ∧ g.Bound c s

variable {c : RedeemContext} {σ : RedeemSystem V} {s t s₀ : SwapSession} {store : WalletStore V}

theorem RedeemSystem.Opened.fenced (h : σ.Opened c s₀) : σ.Fenced c s₀ where
  holds := h.holds
  id := h.id
  terms := h.terms
  modules := h.started.blank.1.modules
  bitcoinPermits permit hpermit := by
    rw [h.bitcoinPermits] at hpermit
    cases hpermit
  bitcoinPending p hp := by
    rw [h.bitcoinPending] at hp
    cases hp
  hnsPermits permit hpermit := by
    rw [h.hnsPermits] at hpermit
    cases hpermit
  settlement p hp := by
    rw [h.unprepared] at hp
    cases hp

theorem HnsSettlementBroadcastGuard.Bound.advance {guard : HnsSettlementBroadcastGuard}
    (h : guard.Bound c s) (hrev : t.revision.toNat = s.revision.toNat + 1) : guard.Bound c t where
  execution := h.execution
  revision := by
    have := h.revision
    omega
  state heq := by
    have := h.revision
    have := congrArg UInt64.toNat heq
    omega

theorem RedeemSystem.Fenced.of_rows (h : σ.Fenced c s)
    (hexecution : store.workflows.lookup c.executionId = σ.store.workflows.lookup c.executionId)
    (hsettlement : store.settlement c.redeemId = σ.store.settlement c.redeemId) :
    { σ with store }.Fenced c s :=
  { h with
    holds := ⟨by rw [hexecution]; exact h.holds.row⟩
    settlement := fun p hp => h.settlement p (hsettlement ▸ hp) }

theorem RedeemSystem.Fenced.of_write (h : σ.Fenced c s) (hids : c.redeemId ≠ c.executionId)
    {p : HnsPreparedSettlement} (hwrites : σ.store.WritesSettlement store c.redeemId p)
    (hp : p.stage = .prepared → s.secondModule = .handshake →
      ∃ g, p.broadcastGuard = some g ∧ g.Bound c s) :
    { σ with store }.Fenced c s :=
  { h with
    holds := ⟨by rw [hwrites.others _ hids.symm]; exact h.holds.row⟩
    settlement := fun q hq => by
      obtain rfl := Option.some.inj (hwrites.settlement.symm.trans hq)
      exact hp }

end Fences

section Evidence

variable [Sha256] {V : Type} [Serde V SwapSession] [Serde V HnsPreparedSettlement]
  {c : RedeemContext} {σ : RedeemSystem V} {s t : SwapSession}

theorem RedeemSystem.Fenced.guard_bound [DirectSwapProtocol] (h : σ.Fenced c s)
    {guard : HnsSettlementBroadcastGuard} {side : SwapAssetSide}
    (htaken : guard.TakenFrom σ.store c.policy c.sessionId)
    (hcurrent : s.firstFundingIsCurrent) (hredeemable : s.Redeemable .handshake side)
    (hsecond : s.secondModule = .handshake) : guard.Bound c s := by
  obtain ⟨hexecution, u, hload, hrevision⟩ := htaken
  obtain rfl := h.holds.load_eq hload
  refine ⟨hexecution, by rw [hrevision], fun _ => ⟨?_, hcurrent⟩⟩
  cases side with
  | offered => exact absurd (hredeemable.2.trans hsecond.symm) h.modules
  | received => exact hredeemable.1

variable [Encoded V] [Serde V PersistedSecondFundingAuthorization]

theorem RedeemSystem.Fenced.advance (h : σ.Fenced c s) (hids : c.redeemId ≠ c.executionId)
    {evidence : VerifiedEvidence} {nowUnix : UInt64} {journal : WalletStoreJournal V}
    (happly : s.apply evidence nowUnix
      (⟨σ.store, c.executionId, nowUnix⟩ : WalletStoreJournal V) = .ok (t, journal)) :
    { σ with store := journal.store }.Fenced c t := by
  obtain ⟨next, revision, hstep, hrevision, rfl, hsave⟩ := SwapSession.apply_eq_ok.1 happly
  have hsame := hstep.sameTerms
  have hterms : next.acceptedShakescapeTerms.isSome := by
    rw [hsame.acceptedShakescapeTerms]
    exact h.terms
  have hsaved : Saved (⟨σ.store, c.executionId, nowUnix⟩ : WalletStoreJournal V) journal
      { next with revision } s.revision := WalletStoreJournal.saved hterms hsave
  have hrev : revision.toNat = s.revision.toNat + 1 := hsaved.revision
  have hsecond : next.secondModule = s.secondModule := hsame.secondModule
  exact {
    holds := hsaved.holds
    id := hsame.id.trans h.id
    terms := hterms
    modules := by
      show next.firstModule ≠ next.secondModule
      rw [hsame.firstModule, hsecond]
      exact h.modules
    bitcoinPermits := fun permit hpermit => by
      obtain ⟨hpolicy, hsession, hcurrent⟩ := h.bitcoinPermits permit hpermit
      exact ⟨hpolicy, hsession, fun hm => hcurrent (hsecond.symm.trans hm)⟩
    bitcoinPending := fun p hp hredeems => by
      obtain ⟨hpolicy, hcurrent⟩ := h.bitcoinPending p hp hredeems
      exact ⟨hpolicy, fun hm => hcurrent (hsecond.symm.trans hm)⟩
    hnsPermits := fun permit hpermit => by
      obtain ⟨haction, hsession, hguard⟩ := h.hnsPermits permit hpermit
      refine ⟨haction, hsession, fun hm => ?_⟩
      obtain ⟨g, hg, hbound⟩ := hguard (hsecond.symm.trans hm)
      exact ⟨g, hg, hbound.advance hrev⟩
    settlement := fun p hp hstage hm => by
      have hrow : journal.store.settlement c.redeemId = σ.store.settlement c.redeemId := by
        rw [WalletStore.settlement, hsaved.others _ hids, WalletStore.settlement]
      obtain ⟨g, hg, hbound⟩ := h.settlement p (hrow.symm.trans hp) hstage (hsecond.symm.trans hm)
      exact ⟨g, hg, hbound.advance hrev⟩ }

end Evidence

section System

variable [Sha256] [DirectSwapProtocol] [KeyDerivation] {V : Type} [Serde V SwapSession]
  [Serde V PersistedShakescapeDirectSwap] [Serde V CrossChainSwapKeyAllocation]
  [Serde V PersistedLocalDirectOffer] [Serde V PersistedLocalDirectAcceptance]
  [Serde V PersistedLocalDirectAcceptanceAbandonment] [SwapRecovery V]
  [Serde V HnsPreparedSettlement] {c : RedeemContext} {σ τ σ₀ : RedeemSystem V}
  {s t s₀ : SwapSession} {act : RedeemAction} {acts : List RedeemAction}

theorem RedeemSystem.Fenced.hnsRedeem (h : σ.Fenced c s)
    {permit : MobileShakescapeHnsSettlementPermit}
    (hp : authorizeLocalHnsRedeem σ.store c.policy c.walletId c.sessionId = .ok permit) :
    executionHnsRedeem σ.store c.policy c.walletId c.sessionId s = .ok permit := by
  obtain ⟨loaded, hload, hp⟩ := ok_bind_iff.1 hp
  obtain rfl := h.holds.loaded hload
  exact hp

variable [BitcoinLibrary]

theorem RedeemSystem.Fenced.bitcoinRedeem (h : σ.Fenced c s)
    {permit : MobileShakescapeBitcoinSettlementPermit}
    (hp : authorizeLocalBitcoinRedeem σ.store c.policy c.walletId c.sessionId = .ok permit) :
    executionBitcoinRedeem σ.store c.policy c.walletId c.sessionId s = .ok permit := by
  obtain ⟨loaded, hload, hp⟩ := ok_bind_iff.1 hp
  obtain rfl := h.holds.loaded hload
  exact hp

variable [HnsSwapLibrary] [BitcoinWallet] [Encoded V] [Serde V PersistedSecondFundingAuthorization]
  [Serde V BitcoinTransactionRecord]

inductive RedeemStep (c : RedeemContext) : RedeemSystem V → RedeemAction →
    RedeemSystem V → Prop where
  | advance {σ : RedeemSystem V} {s t : SwapSession} {evidence : VerifiedEvidence}
      {nowUnix : UInt64} {journal : WalletStoreJournal V} :
      loadShakescapeExecution σ.store c.policy c.sessionId = .ok (some s) →
      s.apply evidence nowUnix (⟨σ.store, c.executionId, nowUnix⟩ : WalletStoreJournal V) =
        .ok (t, journal) →
      RedeemStep c σ (.advance ⟨evidence, nowUnix⟩) { σ with store := journal.store }
  | authorizeBitcoin {σ : RedeemSystem V} {permit : MobileShakescapeBitcoinSettlementPermit} :
      authorizeLocalBitcoinRedeem σ.store c.policy c.walletId c.sessionId = .ok permit →
      RedeemStep c σ .authorizeBitcoin { σ with bitcoinPermits := permit :: σ.bitcoinPermits }
  | authorizeHns {σ : RedeemSystem V} {permit : MobileShakescapeHnsSettlementPermit} :
      authorizeLocalHnsRedeem σ.store c.policy c.walletId c.sessionId = .ok permit →
      RedeemStep c σ .authorizeHns { σ with hnsPermits := permit :: σ.hnsPermits }
  | prepareBitcoin {σ : RedeemSystem V} {permit : MobileShakescapeBitcoinSettlementPermit}
      {maximumFeeSats nowUnix : UInt64} {verifiedLock : Option VerifiedBitcoinLock}
      {sign : Option (Bytes 32) → Except BitcoinWalletError (List UInt8)} {actionToken : Bytes 32}
      {pending : PendingMobileBitcoinHtlcSettlement} :
      permit ∈ σ.bitcoinPermits →
      prepareShakescapeHtlcSettlement σ.bitcoinPending.isSome permit maximumFeeSats verifiedLock
        sign actionToken nowUnix = .ok pending →
      RedeemStep c σ (.prepareBitcoin nowUnix) { σ with bitcoinPending := some pending }
  | prepareHns {σ : RedeemSystem V} {permit : MobileShakescapeHnsSettlementPermit} {R : Type}
      [Serde V R] {maximumFee nowUnix : UInt64} {lockVerified summaryConsistent : Bool}
      {spend : HnsSpend R} {actionToken : Bytes 32} {store : WalletStore V}
      {result : Except MobileWalletError PendingMobileShakescapeHnsSettlement} :
      permit ∈ σ.hnsPermits →
      prepareShakescapeHnsSettlement σ.hnsPending.isSome σ.store c.accountEntityPrefix permit
        maximumFee lockVerified summaryConsistent spend actionToken nowUnix = .ok (store, result) →
      RedeemStep c σ (.prepareHns nowUnix)
        { σ with store, hnsPending := result.toOption.or σ.hnsPending }
  | approveBitcoin {σ : RedeemSystem V} {actionToken : Bytes 32}
      {nowUnix checkpointNowUnix : UInt64} {approval : BitcoinApproval V} :
      approveShakescapeHtlcSettlement σ.bitcoinPending σ.store actionToken nowUnix
        checkpointNowUnix = approval →
      RedeemStep c σ (.approveBitcoin nowUnix checkpointNowUnix)
        { σ with store := approval.store, bitcoinPending := approval.pending }
  | approveHns {σ : RedeemSystem V} {pending : PendingMobileShakescapeHnsSettlement} {R : Type}
      [Serde V R] {actionToken : Bytes 32} {saves : List (EntityBatchSave R)}
      {deletes : List EntityBatchDelete} {nodeAccepts : Bool} {nowUnix startedAtUnix : UInt64}
      {approval : HnsApproval V} :
      σ.hnsPending = some pending → pending.prepared.workflowId = c.redeemId →
      approveShakescapeHnsSettlement σ.hnsPending σ.store actionToken saves deletes nodeAccepts
        nowUnix startedAtUnix = approval →
      RedeemStep c σ (.approveHns nowUnix startedAtUnix)
        { σ with store := approval.store, hnsPending := approval.pending }
  | reject {σ : RedeemSystem V} {bitcoinPending : Option PendingMobileBitcoinHtlcSettlement}
      {hnsPending : Option PendingMobileShakescapeHnsSettlement} :
      bitcoinPending = none ∨ bitcoinPending = σ.bitcoinPending →
      hnsPending = none ∨ hnsPending = σ.hnsPending →
      RedeemStep c σ .reject { σ with bitcoinPending, hnsPending }
  | synchronize {σ : RedeemSystem V} {p : HnsPreparedSettlement} {stage : HnsSettlementStage}
      {store : WalletStore V} :
      σ.store.settlement c.redeemId = some p → stage ≠ .prepared →
      σ.store.WritesSettlement store c.redeemId { p with stage } →
      RedeemStep c σ .synchronize { σ with store }
  | restart {σ : RedeemSystem V} :
      RedeemStep c σ .restart ⟨σ.store, [], [], none, none⟩
  | elsewhere {σ : RedeemSystem V} {store : WalletStore V}
      {bitcoinPending : Option PendingMobileBitcoinHtlcSettlement}
      {hnsPending : Option PendingMobileShakescapeHnsSettlement} :
      store.workflows.lookup c.executionId = σ.store.workflows.lookup c.executionId →
      store.workflows.lookup c.redeemId = σ.store.workflows.lookup c.redeemId →
      bitcoinPending = σ.bitcoinPending ∨ (∀ p ∈ bitcoinPending, ¬ c.Redeems p) →
      hnsPending = σ.hnsPending ∨ (∀ p ∈ hnsPending, p.prepared.workflowId ≠ c.redeemId) →
      RedeemStep c σ .elsewhere
        { σ with store, bitcoinPending, hnsPending }

/-! ## What holds along a run -/

theorem RedeemSystem.Fenced.step (h : σ.Fenced c s) (hids : c.redeemId ≠ c.executionId)
    (hstep : RedeemStep c σ act τ) : ∃ t, τ.Fenced c t := by
  cases hstep with
  | advance hload happly =>
    obtain rfl := h.holds.load_eq hload
    exact ⟨_, h.advance hids happly⟩
  | authorizeBitcoin hpermit =>
    obtain ⟨-, -, hpolicy, hsession, hrequires⟩ :=
      executionBitcoinRedeem_eq_ok (h.bitcoinRedeem hpermit)
    refine ⟨s, { h with bitcoinPermits := fun p hp => ?_ }⟩
    rcases List.mem_cons.1 hp with rfl | hp
    · refine ⟨hpolicy, hsession, fun hm => ?_⟩
      rw [hrequires, decide_eq_true_eq]
      exact hm
    · exact h.bitcoinPermits p hp
  | authorizeHns hpermit =>
    obtain ⟨hcurrent, hredeemable, haction, hsession, hguard⟩ :=
      executionHnsRedeem_eq_ok (h.hnsRedeem hpermit)
    refine ⟨s, { h with hnsPermits := fun p hp => ?_ }⟩
    rcases List.mem_cons.1 hp with rfl | hp
    · refine ⟨haction, hsession, fun hm => ?_⟩
      obtain ⟨g, hg, htaken⟩ := hguard hm
      exact ⟨g, hg, h.guard_bound htaken hcurrent hredeemable hm⟩
    · exact h.hnsPermits p hp
  | prepareBitcoin hpermit hprepare =>
    obtain ⟨hpolicy, hsession, hcurrent⟩ := h.bitcoinPermits _ hpermit
    obtain ⟨-, -, hpending, hrequires⟩ := prepareShakescapeHtlcSettlement_eq_ok hprepare
    refine ⟨s, { h with bitcoinPending := fun p hp _ => ?_ }⟩
    cases hp
    exact ⟨hpending.trans hpolicy, fun hm => hrequires ▸ hcurrent hm⟩
  | @prepareHns permit _ _ _ _ _ _ _ _ _ _ hpermit hprepare =>
    obtain ⟨haction, hsession, hguard⟩ := h.hnsPermits permit hpermit
    obtain ⟨p, hwrites, hp⟩ := prepareShakescapeHnsSettlement_eq_ok hprepare
    have hid : settlementWorkflowId c.accountEntityPrefix ⟨permit.terms.sessionId⟩
        permit.action.hns = c.redeemId := by
      rw [hsession, haction]
      rfl
    rw [hid] at hwrites
    have hfenced := h.of_write hids hwrites fun hstage hm => by
      rcases hp with ⟨hsame, -⟩ | hother
      · rw [hsame]
        exact hguard hm
      · exact absurd hstage hother
    exact ⟨s, { hfenced with }⟩
  | approveBitcoin happroval =>
    rcases approveShakescapeHtlcSettlement_cases happroval with hinert |
      ⟨pending, _, _, store', hheld, hcheckpoint, rfl⟩
    · obtain ⟨hstore, -, hpending⟩ := hinert
      rw [hstore]
      refine ⟨s, { h with bitcoinPending := fun p hp => ?_ }⟩
      rcases hpending with hnone | hsame
      · rw [hnone] at hp
        cases hp
      · exact h.bitcoinPending p (hsame ▸ hp)
    · obtain ⟨-, hworkflows, -⟩ := bitcoinSettlementCheckpoint_eq_ok hcheckpoint
      have hfenced : { σ with store := store' }.Fenced c s :=
        h.of_rows (by rw [hworkflows]) (by rw [WalletStore.settlement, hworkflows]; rfl)
      exact ⟨s, { hfenced with bitcoinPending := fun p hp => by cases hp }⟩
  | approveHns hheld hid happroval =>
    obtain ⟨-, hinert | ⟨pending, q, hpending, hwrites, hstage, -⟩⟩ :=
      approveShakescapeHnsSettlement_cases happroval
    · rw [hinert.store]
      exact ⟨s, { h with }⟩
    · cases hheld.symm.trans hpending
      rw [hid] at hwrites
      have hfenced := h.of_write hids hwrites fun hprepared => absurd hprepared hstage
      exact ⟨s, { hfenced with }⟩
  | reject hbitcoin hhns =>
    refine ⟨s, { h with bitcoinPending := fun p hp => ?_ }⟩
    rcases hbitcoin with rfl | rfl
    · cases hp
    · exact h.bitcoinPending p hp
  | synchronize _ hstage hwrites =>
    exact ⟨s, h.of_write hids hwrites fun hprepared => absurd hprepared hstage⟩
  | restart =>
    exact ⟨s, {
      h with
      bitcoinPermits := fun p hp => by cases hp
      bitcoinPending := fun p hp => by cases hp
      hnsPermits := fun p hp => by cases hp }⟩
  | elsewhere hexecution hredeem hbitcoin hhns =>
    have hfenced := h.of_rows hexecution (by rw [WalletStore.settlement, hredeem]; rfl)
    refine ⟨s, { hfenced with bitcoinPending := fun p hp hredeems => ?_ }⟩
    rcases hbitcoin with rfl | hother
    · exact h.bitcoinPending p hp hredeems
    · exact absurd hredeems (hother p hp)

theorem RedeemSystem.Fenced.run (h : σ₀.Fenced c s₀) (hids : c.redeemId ≠ c.executionId)
    (hrun : Run (RedeemStep c) σ₀ acts σ) : ∃ s, σ.Fenced c s := by
  induction hrun with
  | refl => exact ⟨s₀, h⟩
  | snoc _ hstep ih =>
    obtain ⟨s, hs⟩ := ih
    exact hs.step hids hstep

theorem bitcoinPending_prepared (hnone : σ₀.bitcoinPending = none)
    (hrun : Run (RedeemStep c) σ₀ acts σ) {p : PendingMobileBitcoinHtlcSettlement}
    (hp : σ.bitcoinPending = some p) (hredeems : c.Redeems p) :
    ∃ t, .prepareBitcoin t ∈ acts ∧ p.expiresAtUnix.toNat = t.toNat + 300 := by
  induction hrun with
  | refl =>
    rw [hnone] at hp
    cases hp
  | @snoc acts act σ τ _ hstep ih =>
    have hkept : σ.bitcoinPending = some p → ∃ t, .prepareBitcoin t ∈ acts ++ [act] ∧
        p.expiresAtUnix.toNat = t.toNat + 300 := by
      intro hold
      obtain ⟨t, ht, hexpires⟩ := ih hold
      exact ⟨t, List.mem_append_left _ ht, hexpires⟩
    cases hstep with
    | @prepareBitcoin _ _ nowUnix _ _ _ _ _ hprepare =>
      obtain ⟨hexpires, -⟩ := prepareShakescapeHtlcSettlement_eq_ok hprepare
      cases hp
      exact ⟨nowUnix, by simp, hexpires⟩
    | approveBitcoin happroval =>
      rcases approveShakescapeHtlcSettlement_cases happroval with ⟨-, -, hnone' | hsame⟩ |
        ⟨_, _, _, _, -, -, rfl⟩
      · cases hnone'.symm.trans hp
      · exact hkept (hsame.symm.trans hp)
      · cases hp
    | reject hbitcoin _ =>
      rcases hbitcoin with rfl | rfl
      · cases hp
      · exact hkept hp
    | restart => cases hp
    | elsewhere _ _ hbitcoin _ =>
      rcases hbitcoin with rfl | hother
      · exact hkept hp
      · exact absurd hredeems (hother p hp)
    | _ => exact hkept hp

theorem settlement_prepared (hids : c.redeemId ≠ c.executionId)
    (hstart : σ₀.Fenced c s₀) (hnone : σ₀.store.settlement c.redeemId = none)
    (hrun : Run (RedeemStep c) σ₀ acts σ) {p : HnsPreparedSettlement}
    (hp : σ.store.settlement c.redeemId = some p) (hstage : p.stage = .prepared) :
    ∃ t, .prepareHns t ∈ acts ∧ p.expiresAtUnix.toNat = t.toNat + 300 := by
  induction hrun with
  | refl =>
    rw [hnone] at hp
    cases hp
  | @snoc acts act σ τ hrun hstep ih =>
    have hkept : σ.store.settlement c.redeemId = some p → ∃ t, .prepareHns t ∈ acts ++ [act] ∧
        p.expiresAtUnix.toNat = t.toNat + 300 := by
      intro hold
      obtain ⟨t, ht, hexpires⟩ := ih hold
      exact ⟨t, List.mem_append_left _ ht, hexpires⟩
    have hsame : ∀ {store : WalletStore V},
        store.workflows.lookup c.redeemId = σ.store.workflows.lookup c.redeemId →
        store.settlement c.redeemId = some p → σ.store.settlement c.redeemId = some p := by
      intro store hrow hsettlement
      rw [WalletStore.settlement, ← hrow]
      exact hsettlement
    cases hstep with
    | advance _ happly =>
      obtain ⟨_, _, -, -, -, hsave⟩ := SwapSession.apply_eq_ok.1 happly
      exact hkept (hsame ((WalletStoreJournal.keepsBut hsave).workflows _ hids) hp)
    | @prepareHns permit _ _ _ nowUnix _ _ _ _ _ _ hpermit hprepare =>
      obtain ⟨s, hfenced⟩ := hstart.run hids hrun
      obtain ⟨haction, hsession, -⟩ := hfenced.hnsPermits permit hpermit
      obtain ⟨q, hwrites, hq⟩ := prepareShakescapeHnsSettlement_eq_ok hprepare
      have hid : settlementWorkflowId c.accountEntityPrefix ⟨permit.terms.sessionId⟩
          permit.action.hns = c.redeemId := by
        rw [hsession, haction]
        rfl
      rw [hid] at hwrites hq
      cases hwrites.settlement.symm.trans hp
      rcases hq with ⟨-, hexpires | hold⟩ | hother
      · exact ⟨nowUnix, by simp, hexpires⟩
      · exact hkept hold
      · exact absurd hstage hother
    | approveBitcoin happroval =>
      rcases approveShakescapeHtlcSettlement_cases happroval with hinert |
        ⟨_, _, _, _, -, hcheckpoint, rfl⟩
      · exact hkept (hinert.store ▸ hp)
      · obtain ⟨-, hworkflows, -⟩ := bitcoinSettlementCheckpoint_eq_ok hcheckpoint
        exact hkept (hsame (by rw [hworkflows]) hp)
    | approveHns hheld hid happroval =>
      obtain ⟨-, hinert | ⟨pending, q, hpending, hwrites, hother, -⟩⟩ :=
        approveShakescapeHnsSettlement_cases happroval
      · exact hkept (hinert.store ▸ hp)
      · cases hheld.symm.trans hpending
        rw [hid] at hwrites
        cases hwrites.settlement.symm.trans hp
        exact absurd hstage hother
    | synchronize _ hother hwrites =>
      cases hwrites.settlement.symm.trans hp
      exact absurd hstage hother
    | elsewhere _ hredeem _ _ => exact hkept (hsame hredeem hp)
    | _ => exact hkept hp

/-- What keeps the maker's secret, whatever happens around the session and at whatever times.  A
permit for the second lock is issued only while both locks are funded and the first is current.  A
spend of the second lock gets past the point of no return only while the first lock is current, and
less than five minutes after it was prepared. -/
theorem second_lock_spends_are_fenced (hids : c.redeemId ≠ c.executionId) (hopened : σ₀.Opened c s₀)
    (hrun : Run (RedeemStep c) σ₀ acts σ) :
    ∃ s, σ.store.Holds c.executionId s ∧
      (∀ permit, authorizeLocalBitcoinRedeem σ.store c.policy c.walletId c.sessionId = .ok permit →
        permit.side = .received → s.state = .bothFunded ∧ s.firstFundingIsCurrent) ∧
      (∀ permit, authorizeLocalHnsRedeem σ.store c.policy c.walletId c.sessionId = .ok permit →
        permit.side = .received → s.state = .bothFunded ∧ s.firstFundingIsCurrent) ∧
      (∀ p actionToken nowUnix checkpointNowUnix, σ.bitcoinPending = some p → c.Redeems p →
        s.secondModule = .bitcoin →
        (approveShakescapeHtlcSettlement σ.bitcoinPending σ.store actionToken nowUnix
          checkpointNowUnix).recorded →
        s.firstFundingIsCurrent ∧ ∃ t, .prepareBitcoin t ∈ acts ∧
          p.expiresAtUnix.toNat = t.toNat + 300 ∧ checkpointNowUnix < p.expiresAtUnix) ∧
      (∀ (R : Type) [Serde V R] p actionToken (saves : List (EntityBatchSave R)) deletes nodeAccepts
        nowUnix startedAtUnix, σ.hnsPending = some p → p.prepared.workflowId = c.redeemId →
        s.secondModule = .handshake →
        (approveShakescapeHnsSettlement σ.hnsPending σ.store actionToken saves deletes nodeAccepts
          nowUnix startedAtUnix).activated →
        s.state = .bothFunded ∧ s.firstFundingIsCurrent ∧
          ∃ q t, σ.store.settlement c.redeemId = some q ∧ .prepareHns t ∈ acts ∧
            q.expiresAtUnix.toNat = t.toNat + 300 ∧ startedAtUnix < q.expiresAtUnix) := by
  obtain ⟨s, hs⟩ := hopened.fenced.run hids hrun
  refine ⟨s, hs.holds, fun permit hpermit hside => ?_, fun permit hpermit hside => ?_,
    fun p actionToken nowUnix checkpointNowUnix hp hredeems hsecond hrecorded => ?_,
    fun R _ p actionToken saves deletes nodeAccepts nowUnix startedAtUnix hp hid hsecond
      hactivated => ?_⟩
  · obtain ⟨hcurrent, hredeemable, -⟩ := executionBitcoinRedeem_eq_ok (hs.bitcoinRedeem hpermit)
    rw [hside] at hredeemable
    exact ⟨hredeemable.1, hcurrent⟩
  · obtain ⟨hcurrent, hredeemable, -⟩ := executionHnsRedeem_eq_ok (hs.hnsRedeem hpermit)
    rw [hside] at hredeemable
    exact ⟨hredeemable.1, hcurrent⟩
  · generalize happroval : approveShakescapeHtlcSettlement σ.bitcoinPending σ.store actionToken
      nowUnix checkpointNowUnix = approval at hrecorded
    rcases approveShakescapeHtlcSettlement_cases happroval with hinert |
      ⟨pending, _, _, store', hheld, hcheckpoint, -⟩
    · rw [hinert.recorded] at hrecorded
      cases hrecorded
    · cases hp.symm.trans hheld
      obtain ⟨hlive, -, hcurrent⟩ := bitcoinSettlementCheckpoint_eq_ok hcheckpoint
      obtain ⟨hpolicy, hrequires⟩ := hs.bitcoinPending p hp hredeems
      obtain ⟨u, hload, hu⟩ := hcurrent (hrequires hsecond)
      rw [hpolicy, hredeems.1] at hload
      obtain rfl := hs.holds.load_eq hload
      obtain ⟨t, ht, hexpires⟩ := bitcoinPending_prepared hopened.bitcoinPending hrun hp hredeems
      exact ⟨hu, t, ht, hexpires, hlive⟩
  · generalize happroval : approveShakescapeHnsSettlement σ.hnsPending σ.store actionToken saves
      deletes nodeAccepts nowUnix startedAtUnix = approval at hactivated
    obtain ⟨-, hinert | ⟨pending, q, hheld, -, -, hactivated'⟩⟩ :=
      approveShakescapeHnsSettlement_cases happroval
    · rw [hinert.activated] at hactivated
      cases hactivated
    · cases hp.symm.trans hheld
      obtain ⟨hfound, hstage, hlive, hguarded⟩ := hactivated' hactivated
      rw [hid] at hfound
      obtain ⟨g, hg, hbound⟩ := hs.settlement _ hfound hstage hsecond
      have hrevision : g.executionRevision = s.revision := by
        have hguard := hguarded g hg
        obtain ⟨irreversible, updatedAt, hrow⟩ := hs.holds.row
        rw [HnsSettlementBroadcastGuard.Holds, hbound.execution,
          WalletStore.authenticatedWorkflowRevision, hrow] at hguard
        exact (Except.ok.inj hguard).symm
      obtain ⟨t, ht, hexpires⟩ :=
        settlement_prepared hids hopened.fenced hopened.unprepared hrun hfound hstage
      obtain ⟨hstate, hcurrent⟩ := hbound.state hrevision
      exact ⟨hstate, hcurrent, _, t, hfound, ht, hexpires, hlive⟩

end System

/-! ## A late redemption

The maker of the sample agreement, whose second lock can be refunded from 1700010000
on, redeems that lock at 1700010150. -/

namespace Sample

def redemption : List UInt8 := [0x02, 0x00, 0x00, 0x00, 0x00, 0x01] ++ preimage.toList

def redemptionTransaction : BitcoinTransaction :=
  ⟨.replicate 32 12, .replicate 32 13, [⟨.replicate 32 10, 0⟩], 1⟩

@[reducible] def bitcoinWallet : BitcoinWallet where
  deserialize raw := if raw = redemption then some redemptionTransaction else none
  serialize _ := redemption
  networkMagic := ⟨[0xf9, 0xbe, 0xb4, 0xd9], rfl⟩
  verifySignedBitcoinHtlcSpend raw lock branch :=
    if raw = redemption ∧ lock.fundingTxid = .replicate 32 10 ∧ branch = .redeem then
      .ok ⟨redemptionTransaction.txid, redemptionTransaction.wtxid, 500⟩
    else .error .invalidEvidence

@[reducible] def hnsLibrary : HnsSwapLibrary where
  encodeTimeLockNotBefore refundAt := toU32 (refundAt.toNat / 512)
  validDescriptor _ _ := true

def broadcastDigests : List (List UInt8 × Bytes 32) :=
  [(broadcastApprovalDomain ++ [0xf9, 0xbe, 0xb4, 0xd9] ++ List.replicate 32 12 ++
      List.replicate 32 13 ++ beBytes 8 500 ++ beBytes 8 1000 ++ beBytes 8 1700010400,
      .ofNat 32 0x4242f73175d3dd842543708311e9c10d62366ac28ad8718f5769070d62852beb),
    (inputOutpointsDomain ++ beBytes 8 1 ++ List.replicate 32 10 ++ beBytes 4 0,
      .ofNat 32 0x7b63e626f754819a8f035bd350b131807896700ba529717a52803a608b7602e9)]

@[reducible] def broadcastSha256 : Sha256 where
  digest input := (broadcastDigests.lookup input).getD (sha256.digest input)

attribute [local instance] broadcastSha256 keys bitcoin protocol bitcoinWallet hnsLibrary

def makerStore : WalletStore Value where
  unlocked := true
  workflows := AList.insert (shakescapeExecutionWorkflowId sessionId)
    ⟨.atomicSwap, 1, .session opened, false, 1700000020⟩ ∅
  entities := ((∅ : AList fun _ : EntityKind × RecordId => EntityRow Value).insert
    (.swapSession, policy.recordId sessionId) ⟨4, .swap row, 1700000100⟩).insert
    (.shakescapeBoardObject, localAcceptanceRecordId makerWallet sessionId)
      ⟨1, .acceptance ⟨1, makerWallet, ⟨offer.offerId⟩, sessionId, 1000, 1699999600⟩, 1699999600⟩
    |>.insert (.crossChainSwapKeyAllocation, allocationRecordId makerWallet sessionId .maker)
      ⟨1, .allocation (allocationOf makerWallet makerSeed .maker makerKey), 1699999000⟩
  secrets := ((∅ : AList fun _ : RecordId => SecretRow).insert makerWallet.bytes.toList
    ⟨.recoverySeed, makerSeed, 1⟩).insert (makerPreimageRecordId sessionId)
    ⟨.htlcPreimage, preimage.toList, 1699999600⟩

def redeemContext : RedeemContext := ⟨policy, makerWallet, sessionId, .replicate 32 17⟩

def atOpening : RedeemSystem Value := ⟨makerStore, [], [], none, none⟩

theorem atOpening_opened : atOpening.Opened redeemContext opened where
  holds := ⟨_, _, rfl⟩
  started := opened_started
  id := rfl
  terms := rfl
  unprepared := rfl
  bitcoinPermits := rfl
  hnsPermits := rfl
  bitcoinPending := rfl
  hnsPending := rfl

def advanceAll (store : WalletStore Value) : List SwapEvent → Option (WalletStore Value)
  | [] => some store
  | event :: events =>
    match loadShakescapeExecution store policy sessionId with
    | .ok (some s) =>
      match s.apply event.evidence event.nowUnix
        (⟨store, redeemContext.executionId, event.nowUnix⟩ : WalletStoreJournal Value) with
      | .ok (_, journal) => advanceAll journal.store events
      | .error _ => none
    | _ => none

theorem run_advanceAll {store : WalletStore Value} {events : List SwapEvent} :
    ∀ {σ : RedeemSystem Value}, advanceAll σ.store events = some store →
      Run (RedeemStep redeemContext) σ (events.map .advance) { σ with store } := by
  induction events with
  | nil =>
    intro σ h
    cases h
    exact .refl
  | cons event events ih =>
    intro σ h
    simp only [advanceAll] at h
    split at h
    next s hload =>
      split at h
      next t journal happly =>
        have hstep : RedeemStep redeemContext σ (.advance event)
            { σ with store := journal.store } := .advance hload happly
        exact Run.cons hstep (@ih { σ with store := journal.store } h)
      next => cases h
    next => cases h

def bothFundedStore : WalletStore Value :=
  (advanceAll makerStore (revealing.take 6)).getD makerStore

def makerPermit : MobileShakescapeBitcoinSettlementPermit where
  policy := policy
  terms := ⟨network, sessionId.bytes, offer.offerId, makerKey, takerKey, hashlock, .hns, 5000000,
    100000, 1700020224, 1700010000, 2, 1⟩
  side := .received
  settlementKey := ⟨⟨makerWallet, sessionId, .maker, network⟩, makerKey, makerScalar⟩
  preimage := some preimage
  action := .redeem
  feeReserve := unlimitedFeeReserve
  requiresCurrentFirstFunding := true
  recoveredFundingOutpoint := none

def bitcoinLock : VerifiedBitcoinLock where
  fundingTxid := .replicate 32 10
  outputIndex := 0
  valueSats := 100000
  confirmationCount := 1
  htlc := ⟨hashlock, makerKey.toList, takerKey.toList, 1700010000, bitcoinScript,
    BitcoinLibrary.p2wsh bitcoinScript⟩

def lateRedemption : PendingMobileBitcoinHtlcSettlement where
  actionToken := .replicate 32 14
  sessionId := sessionId
  action := .redeem
  branch := .redeem
  rawTransaction := redemption
  lock := bitcoinLock
  maximumFeeSats := 1000
  expiresAtUnix := 1700010400
  policy := policy
  requiresCurrentFirstFunding := true

set_option maxRecDepth 8000 in
theorem bothFundedStore_eq : advanceAll makerStore (revealing.take 6) =
    some bothFundedStore := by rfl

set_option maxRecDepth 8000 in
theorem makerPermit_eq :
    authorizeLocalBitcoinRedeem bothFundedStore policy makerWallet sessionId = .ok makerPermit := by
  rfl

def beforeCheckpoint : RedeemSystem Value :=
  ⟨bothFundedStore, [makerPermit], [], some lateRedemption, none⟩

def lateActions : List RedeemAction :=
  (revealing.take 6).map .advance ++ [.authorizeBitcoin, .prepareBitcoin 1700010100]

set_option maxRecDepth 4000 in
theorem run_beforeCheckpoint :
    Run (RedeemStep redeemContext) atOpening lateActions beforeCheckpoint := by
  have hfunded : Run (RedeemStep redeemContext) atOpening ((revealing.take 6).map .advance)
      { atOpening with store := bothFundedStore } := run_advanceAll bothFundedStore_eq
  have hpermit : RedeemStep redeemContext { atOpening with store := bothFundedStore }
      .authorizeBitcoin ⟨bothFundedStore, [makerPermit], [], none, none⟩ :=
    .authorizeBitcoin makerPermit_eq
  have hprepare : prepareShakescapeHtlcSettlement false makerPermit 1000 (some bitcoinLock)
      (fun held => if held = some preimage then .ok redemption else .error .invalidEvidence)
      (.replicate 32 14) 1700010100 = .ok lateRedemption := by
    rfl
  have hprepared : RedeemStep redeemContext ⟨bothFundedStore, [makerPermit], [], none, none⟩
      (.prepareBitcoin 1700010100) beforeCheckpoint :=
    .prepareBitcoin (List.mem_singleton.2 rfl) hprepare
  exact hfunded.trans ((Run.single hpermit).trans (Run.single hprepared))

set_option maxRecDepth 8000 in
theorem lateRedemption_recorded :
    (approveShakescapeHtlcSettlement (some lateRedemption) bothFundedStore (.replicate 32 14)
      1700010140 1700010150).recorded = true := by
  rfl

/-- With terms whose refund times are safe, the maker is still issued a permit that
carries the preimage, and its redemption is recorded for broadcast, when the second lock
can already be refunded. -/
theorem preimage_leaves_after_refund_time :
    validateShakescapeEffectiveRefundSafety agreement = .ok () ∧
      atOpening.Opened redeemContext opened ∧
      Run (RedeemStep redeemContext) atOpening lateActions beforeCheckpoint ∧
      ∃ refundAt, shakescapeEffectiveRefundAt agreement.receivedAsset
          agreement.receivedRefundDeadline = .ok refundAt ∧
        (∃ permit, authorizeLocalBitcoinRedeem beforeCheckpoint.store policy makerWallet sessionId =
          .ok permit ∧ permit.side = .received ∧ permit.preimage = some preimage) ∧
        .prepareBitcoin 1700010100 ∈ lateActions ∧ refundAt ≤ 1700010100 ∧
        (∃ p, beforeCheckpoint.bitcoinPending = some p ∧ redeemContext.Redeems p ∧
          preimage.toList <:+: p.rawTransaction) ∧
        refundAt ≤ 1700010150 ∧
        (approveShakescapeHtlcSettlement beforeCheckpoint.bitcoinPending beforeCheckpoint.store
          (.replicate 32 14) 1700010140 1700010150).recorded = true := by
  refine ⟨by rfl, atOpening_opened, run_beforeCheckpoint, 1700010000, by rfl,
    ⟨makerPermit, makerPermit_eq, rfl, rfl⟩, by simp [lateActions], by decide,
    ⟨lateRedemption, rfl, ⟨rfl, rfl⟩, ?_⟩, by decide, lateRedemption_recorded⟩
  exact ⟨[0x02, 0x00, 0x00, 0x00, 0x00, 0x01], [], rfl⟩

def funded : SwapSession :=
  { opened with
    revision := 7
    state := .bothFunded
    firstFunding := some ⟨.replicate 32 9⟩
    firstFundingObservationGeneration := 1
    firstFundingConfirmedGeneration := some 1
    secondFunding := some ⟨.replicate 32 10⟩
    lastVerifiedAtUnix := 1700000300 }

set_option maxRecDepth 8000 in
theorem second_lock_spends_are_fenced_sample :
    redeemContext.redeemId ≠ redeemContext.executionId ∧
      atOpening.Opened redeemContext opened ∧
      Run (RedeemStep redeemContext) atOpening lateActions beforeCheckpoint ∧
      beforeCheckpoint.store.Holds redeemContext.executionId funded ∧
      funded.state = .bothFunded ∧ funded.firstFundingIsCurrent = true ∧
      ∃ t, .prepareBitcoin t ∈ lateActions ∧
        lateRedemption.expiresAtUnix.toNat = t.toNat + 300 ∧
          1700010150 < lateRedemption.expiresAtUnix := by
  have hids : redeemContext.redeemId ≠ redeemContext.executionId := by decide
  have hload : loadShakescapeExecution bothFundedStore policy sessionId =
      .ok (some funded) := by rfl
  obtain ⟨s, hholds, hpermits, -, happrovals, -⟩ :=
    second_lock_spends_are_fenced hids atOpening_opened run_beforeCheckpoint
  obtain rfl : funded = s := hholds.load_eq hload
  obtain ⟨hstate, hcurrent⟩ := hpermits makerPermit makerPermit_eq rfl
  obtain ⟨-, hprepared⟩ := happrovals lateRedemption _ _ 1700010150 rfl ⟨rfl, rfl⟩ rfl
    lateRedemption_recorded
  exact ⟨hids, atOpening_opened, run_beforeCheckpoint, hholds, hstate, hcurrent, hprepared⟩

end Sample

end HnsWallet
