import HnsWallet.Lib.Lease
import HnsWallet.Market.Freshness
import HnsWallet.Market.JournalLaws
import HnsWallet.Market.SecondLock

/-! # Second-funding authority is consumed at most once -/

namespace HnsWallet

open Lib WalletStore SwapSession SecondFundingBroadcastGuard

section System

variable {V : Type} [Encoded V] [Serde V SwapSession]
  [Serde V PersistedSecondFundingAuthorization] [Sha256] [MarketplaceProtocol]

/-- The store and what tasks hold around it.  Copies and guards are never taken
back: a task may act on one however old it is. -/
structure FundingSystem (V : Type) where
  store : WalletStore V
  copies : List SwapSession
  guards : List SecondFundingBroadcastGuard
  committed : List SecondFundingBroadcastGuard

inductive FundingAction where
  | apply (evidence : VerifiedEvidence) (nowUnix updatedAtUnix : UInt64)
  | capture (policy : ShakescapeDirectSwapPolicy) (module : ModuleId)
      (authorizationId : ObjectHash) (nowUnix : UInt64)
  | checkpoint (guard : SecondFundingBroadcastGuard)
  | elsewhere

def FundingAction.isCheckpoint : FundingAction → Bool
  | .checkpoint _ => true
  | _ => false

/-- One action around the session `sessionId`.  A checkpoint is either of the store's
transactions that consume a guard entity under a workflow guard, with any batch and
any workflow of the chain runtime. -/
inductive FundingStep (sessionId : SessionId) :
    FundingSystem V → FundingAction → FundingSystem V → Prop where
  | apply {σ : FundingSystem V} {copy t : SwapSession} {evidence : VerifiedEvidence}
      {nowUnix updatedAtUnix : UInt64} {journal : WalletStoreJournal V} :
      copy ∈ σ.copies →
      copy.apply evidence nowUnix (⟨σ.store, shakescapeExecutionWorkflowId sessionId,
        updatedAtUnix⟩ : WalletStoreJournal V) = .ok (t, journal) →
      FundingStep sessionId σ (.apply evidence nowUnix updatedAtUnix)
        { σ with store := journal.store, copies := t :: σ.copies }
  | capture {σ : FundingSystem V} {policy : ShakescapeDirectSwapPolicy} {module : ModuleId}
      {authorizationId : ObjectHash} {nowUnix : UInt64} {guard : SecondFundingBroadcastGuard} :
      shakescapeSecondFundingBroadcastGuard σ.store policy sessionId module authorizationId
        nowUnix = .ok guard →
      FundingStep sessionId σ (.capture policy module authorizationId nowUnix)
        { σ with guards := guard :: σ.guards }
  | checkpointBatch {σ : FundingSystem V} {guard : SecondFundingBroadcastGuard} {β : Type}
      [Serde V β] {kind : EntityKind} {saves : List (EntityBatchSave β)}
      {deletes : List EntityBatchDelete} {consumedAt : UInt64} {store : WalletStore V} :
      guard ∈ σ.guards →
      σ.store.applyEntityBatchWithWorkflowGuardAndConsumedEntity kind saves deletes
        guard.workflowAssertion .swapFundingAuthorization guard.authorizationAssertion
        consumedAt = .ok store →
      FundingStep sessionId σ (.checkpoint guard)
        { σ with store, committed := guard :: σ.committed }
  | checkpointWorkflow {σ : FundingSystem V} {guard : SecondFundingBroadcastGuard} {α β : Type}
      [Serde V α] [Serde V β] {id : WorkflowId} {wkind : WorkflowKind}
      {expected updatedAt next : UInt64} {state : α} {irreversible : Bool} {kind : EntityKind}
      {saves : List (EntityBatchSave β)} {deletes : List EntityBatchDelete}
      {store : WalletStore V} :
      guard ∈ σ.guards →
      σ.store.saveWorkflowWithEntityBatchAndGuards id wkind expected state irreversible
        updatedAt kind saves deletes guard.workflowAssertion .swapFundingAuthorization
        guard.authorizationAssertion true = .ok (store, next) →
      FundingStep sessionId σ (.checkpoint guard)
        { σ with store, committed := guard :: σ.committed }
  | elsewhere {σ : FundingSystem V} {store : WalletStore V} :
      store.workflows.lookup (shakescapeExecutionWorkflowId sessionId) =
        σ.store.workflows.lookup (shakescapeExecutionWorkflowId sessionId) →
      store.authorizationRow sessionId = σ.store.authorizationRow sessionId →
      FundingStep sessionId σ .elsewhere { σ with store }

structure FundingSystem.Opened (sessionId : SessionId) (s₀ : SwapSession)
    (σ : FundingSystem V) : Prop where
  holds : σ.store.Holds (shakescapeExecutionWorkflowId sessionId) s₀
  id : s₀.id = sessionId
  terms : s₀.acceptedShakescapeTerms.isSome
  blank : s₀.Blank
  authorizationRow : σ.store.authorizationRow sessionId = none
  copies : σ.copies = [s₀]
  guards : σ.guards = []
  committed : σ.committed = []

def tokenOf (row : EntityRow V) : Option (Token SecondFundingAuthorization) :=
  (Serde.fromSlice row.value : Option PersistedSecondFundingAuthorization).map fun record =>
    ⟨row.revision.toNat, record.issuedEntityRevision.toNat, record.executionRevision.toNat,
      record.authorization⟩

def SecondFundingBroadcastGuard.ticket (guard : SecondFundingBroadcastGuard) :
    Ticket SecondFundingAuthorization :=
  ⟨guard.executionRevision.toNat, guard.authorizationEntityRevision.toNat, guard.authorization⟩

def FundingSystem.lease (σ : FundingSystem V) (sessionId : SessionId) (s : SwapSession) :
    Lease SecondFundingAuthorization where
  version := s.revision.toNat
  held := s.secondFundingAuthorization
  closed := s.secondFunding.isSome
  token := (σ.store.authorizationRow sessionId).bind tokenOf
  tickets := σ.guards.map ticket
  used := σ.committed.map ticket

structure FundingSystem.Persists (σ : FundingSystem V) (sessionId : SessionId)
    (s : SwapSession) : Prop where
  holds : σ.store.Holds (shakescapeExecutionWorkflowId sessionId) s
  authority : s.AuthorityHeld
  decodes : ∀ row, σ.store.authorizationRow sessionId = some row → ∃ k, tokenOf row = some k
  copies : ∀ copy ∈ σ.copies, copy.id = sessionId ∧ copy.acceptedShakescapeTerms.isSome ∧
    copy.revision.toNat ≤ s.revision.toNat ∧ (copy.revision = s.revision → copy = s)
  guards : ∀ guard ∈ σ.guards, guard.executionWorkflowId = shakescapeExecutionWorkflowId sessionId ∧
    guard.authorizationEntityId = secondFundingAuthorizationEntityId sessionId

namespace FundingSystem

variable {σ τ : FundingSystem V} {sessionId : SessionId} {s t s₀ : SwapSession}
  {ev : SwapEvent} {act : FundingAction} {acts : List FundingAction}
  {guard : SecondFundingBroadcastGuard} {store : WalletStore V} {nowUnix : UInt64}

section
omit [Encoded V] [MarketplaceProtocol]

omit [Serde V PersistedSecondFundingAuthorization] [Sha256] in
theorem revision_eq_of_holds {workflowId : WorkflowId} {r : UInt64} (h : store.Holds workflowId s)
    (hr : store.authenticatedWorkflowRevision workflowId .atomicSwap = .ok r) :
    r = s.revision := by
  obtain ⟨irreversible, updatedAt, hrow⟩ := h.row
  rcases authenticatedWorkflowRevision_eq_ok.1 hr with
    ⟨hnone, -⟩ | ⟨row, hrow', -, rfl⟩
  · rw [hrow] at hnone
    cases hnone
  · rw [hrow] at hrow'
    cases hrow'
    rfl

theorem Opened.persists (h : σ.Opened sessionId s₀) : σ.Persists sessionId s₀ where
  holds := h.holds
  authority := .of_none h.blank.authorization
  decodes row hrow := by
    rw [h.authorizationRow] at hrow
    cases hrow
  copies copy hcopy := by
    rw [h.copies, List.mem_singleton] at hcopy
    subst hcopy
    exact ⟨h.id, h.terms, Nat.le_refl _, fun _ => rfl⟩
  guards guard hguard := by
    rw [h.guards] at hguard
    cases hguard

theorem Opened.sound (h : σ.Opened sessionId s₀) : (σ.lease sessionId s₀).Sound := by
  have hlease : σ.lease sessionId s₀ = ⟨s₀.revision.toNat, s₀.secondFundingAuthorization,
      s₀.secondFunding.isSome, none, [], []⟩ := by
    simp [lease, h.authorizationRow, h.guards, h.committed]
  rw [hlease]
  exact .fresh

omit [Serde V SwapSession] in
theorem lease_step_of_move (hs : s.Applies ev t) (hauth : t.AuthorityHeld)
    (hrev : t.revision.toNat = s.revision.toNat + 1)
    (hmove : AuthorizationMove t (σ.store.authorizationRow sessionId)
      (τ.store.authorizationRow sessionId))
    (hguards : τ.guards = σ.guards) (hcommitted : τ.committed = σ.committed) :
    Lease.Step (σ.lease sessionId s) (τ.lease sessionId t) := by
  have hsf : t.secondFunding = none → s.secondFunding = none := by
    intro ht
    by_contra hsome
    have := secondFunding_isSome_of_applies (Option.isSome_iff_ne_none.2 hsome) hs
    rw [ht] at this
    cases this
  generalize hold : σ.store.authorizationRow sessionId = old at hmove
  generalize hnew : τ.store.authorizationRow sessionId = new at hmove
  cases hmove with
  | @issue _ a previous revision updatedAt ha hprevious hnext =>
    have hnone := (hauth a ha).secondFunding
    have hτ : τ.lease sessionId t = { σ.lease sessionId s with
        version := s.revision.toNat + 1, held := some a,
        token := some ⟨previous.toNat + 1, previous.toNat + 1, s.revision.toNat + 1, a⟩ } := by
      simp [lease, hnew, tokenOf, persistedSecondFundingAuthorization, Serde.fromSlice_toVec,
        hnext, hrev, ha, hnone, hsf hnone, hguards, hcommitted]
    rw [hτ]
    refine .issue ?_ (by simp [lease, hsf hnone])
    rcases hprevious with ⟨rfl, rfl⟩ | ⟨row, record, rfl, hrecord, hopen, rfl⟩
    · exact .inl ⟨by simp [lease, hold], rfl⟩
    · refine .inr ⟨_, by simp [lease, hold, tokenOf, hrecord]; rfl, ?_, rfl⟩
      exact congrArg UInt64.toNat hopen
  | drop ha hgone =>
    have hτ : τ.lease sessionId t = { σ.lease sessionId s with
        version := s.revision.toNat + 1, held := none, closed := t.secondFunding.isSome,
        token := none } := by
      simp [lease, hnew, hrev, ha, hguards, hcommitted]
    rw [hτ]
    refine .drop ?_ fun hc => secondFunding_isSome_of_applies hc hs
    intro k hk
    cases old with
    | none => simp [lease, hold] at hk
    | some row =>
      obtain ⟨record, hrecord, hopen⟩ := hgone row rfl
      simp only [lease, hold, Option.bind_some, tokenOf, hrecord, Option.map_some,
        Option.some.injEq] at hk
      subst hk
      exact hopen.imp_left (congrArg UInt64.toNat)
  | @keep row record ha hrecord hconsumed hnone =>
    have hτ : τ.lease sessionId t =
        { σ.lease sessionId s with version := s.revision.toNat + 1, held := none } := by
      simp [lease, hnew, hold, hrev, ha, hnone, hsf hnone, hguards, hcommitted]
    rw [hτ]
    refine .keep (k := ⟨row.revision.toNat, record.issuedEntityRevision.toNat,
      record.executionRevision.toNat, record.authorization⟩) ?_ ?_
    · simp [lease, hold, tokenOf, hrecord]
    · exact fun h => hconsumed (UInt64.toNat_inj.1 h)

omit [Serde V SwapSession] in
theorem decodes_of_move {old new : Option (EntityRow V)} (h : AuthorizationMove t old new)
    {row : EntityRow V} (hrow : new = some row) : ∃ k, tokenOf row = some k := by
  cases h with
  | issue =>
    cases hrow
    simp [tokenOf, Serde.fromSlice_toVec]
  | drop => cases hrow
  | keep _ hrecord =>
    cases hrow
    simp [tokenOf, hrecord]

theorem Persists.accepts (h : σ.Persists sessionId s) (hguard : guard ∈ σ.guards)
    (hc : σ.store.ConsumesGuard store guard.workflowAssertion .swapFundingAuthorization
      guard.authorizationAssertion) :
    ∃ k, (σ.lease sessionId s).token = some k ∧ guard.ticket.version = s.revision.toNat ∧
      k.revision = guard.ticket.revision ∧
      { σ with store, committed := guard :: σ.committed }.Persists sessionId s ∧
      { σ with store, committed := guard :: σ.committed }.lease sessionId s =
        { σ.lease sessionId s with
          token := some { k with revision := k.revision + 1 }
          used := guard.ticket :: (σ.lease sessionId s).used } := by
  obtain ⟨hworkflow, hentity⟩ := h.guards guard hguard
  rw [workflowAssertion, hworkflow,
    authorizationAssertion, hentity] at hc
  obtain ⟨row, next, consumedAt, hrow, hrev, hnext, hnew⟩ := hc.consumed
  have hversion := congrArg UInt64.toNat (revision_eq_of_holds h.holds hc.workflow)
  change σ.store.authorizationRow sessionId = some row at hrow
  change store.authorizationRow sessionId = some _ at hnew
  obtain ⟨k, hk⟩ := h.decodes row hrow
  have htoken : (σ.lease sessionId s).token = some k := by
    show (σ.store.authorizationRow sessionId).bind tokenOf = some k
    rw [hrow]
    exact hk
  -- The token's revision is the row's; the rest comes from the value, which is kept.
  have hkrev : k.revision = row.revision.toNat ∧
      tokenOf (⟨next, row.value, consumedAt⟩ : EntityRow V) =
        some { k with revision := next.toNat } := by
    unfold tokenOf at hk ⊢
    obtain ⟨record, hrecord, rfl⟩ := Option.map_eq_some_iff.1 hk
    exact ⟨rfl, by rw [hrecord]; rfl⟩
  have hnextrev : next.toNat = k.revision + 1 := by rw [hnext, hkrev.1, hrev]
  refine ⟨k, htoken, hversion, ?_, ⟨⟨?_⟩, h.authority, ?_, h.copies, h.guards⟩, ?_⟩
  · rw [hkrev.1, hrev]
    rfl
  · obtain ⟨irreversible, updatedAt, hheld⟩ := h.holds.row
    exact ⟨irreversible, updatedAt, hc.workflow_kept.trans hheld⟩
  · intro row' hrow'
    rw [hnew] at hrow'
    cases hrow'
    exact ⟨_, hkrev.2⟩
  · simp only [lease, hnew, Option.bind_some, hkrev.2, hnextrev, List.map_cons]

end

omit [Encoded V] in
theorem Persists.capture (h : σ.Persists sessionId s) {policy : ShakescapeDirectSwapPolicy}
    {module : ModuleId} {authorizationId : ObjectHash}
    (hg : shakescapeSecondFundingBroadcastGuard σ.store policy sessionId module authorizationId
      nowUnix = .ok guard) :
    { σ with guards := guard :: σ.guards }.Persists sessionId s ∧
      Lease.Step (σ.lease sessionId s)
        ({ σ with guards := guard :: σ.guards }.lease sessionId s) := by
  obtain ⟨s', row, record, hload, hrow, hrecord, hopen, hrev, hauth, rfl⟩ :=
    shakescapeSecondFundingBroadcastGuard_captures hg
  obtain rfl := h.holds.load_eq hload
  refine ⟨⟨h.holds, h.authority, h.decodes, h.copies, ?_⟩, ?_⟩
  · intro g hg
    rcases List.mem_cons.1 hg with rfl | hg
    · exact ⟨rfl, rfl⟩
    · exact h.guards g hg
  · have htoken : (σ.lease sessionId s').token = some ⟨row.revision.toNat,
        record.issuedEntityRevision.toNat, record.executionRevision.toNat,
        record.authorization⟩ := by
      simp [lease, hrow, tokenOf, hrecord]
    exact .capture htoken (congrArg UInt64.toNat hopen) (congrArg UInt64.toNat hrev)

omit [MarketplaceProtocol] in
theorem Persists.apply (h : σ.Persists sessionId s) {copy : SwapSession}
    {evidence : VerifiedEvidence} {updatedAtUnix : UInt64} {journal : WalletStoreJournal V}
    (hcopy : copy ∈ σ.copies)
    (happly : copy.apply evidence nowUnix (⟨σ.store, shakescapeExecutionWorkflowId sessionId,
      updatedAtUnix⟩ : WalletStoreJournal V) = .ok (t, journal)) :
    { σ with store := journal.store, copies := t :: σ.copies }.Persists sessionId t ∧
      Lease.Step (σ.lease sessionId s)
        ({ σ with store := journal.store, copies := t :: σ.copies }.lease sessionId t) := by
  obtain ⟨hid, hterms, -, hsame⟩ := h.copies copy hcopy
  have happlies : copy.Applies ⟨evidence, nowUnix⟩ t := ⟨_, _, _, _, happly⟩
  have hterms' : t.acceptedShakescapeTerms.isSome := by
    rw [happlies.sameTerms.acceptedShakescapeTerms]
    exact hterms
  have hid' : t.id = sessionId := happlies.sameTerms.id.trans hid
  obtain ⟨next, revision, -, -, -, hsave⟩ := apply_eq_ok.1 happly
  have hsaved := WalletStoreJournal.saved hterms' hsave
  obtain rfl : copy = s := hsame (revision_eq_of_holds h.holds hsaved.found)
  have hauth := h.authority.applies happlies
  have hmove := hsaved.authorization
  rw [hid'] at hmove
  refine ⟨⟨hsaved.holds, hauth, fun row hrow => decodes_of_move hmove hrow, ?_, h.guards⟩, ?_⟩
  · intro c hc
    rcases List.mem_cons.1 hc with rfl | hc
    · exact ⟨hid', hterms', Nat.le_refl _, fun _ => rfl⟩
    · obtain ⟨hcid, hcterms, hle, -⟩ := h.copies c hc
      have hrev := hsaved.revision
      refine ⟨hcid, hcterms, by omega, fun heq => ?_⟩
      have := congrArg UInt64.toNat heq
      omega
  · exact lease_step_of_move happlies hauth hsaved.revision hmove rfl rfl

theorem checkpoint_consumes (h : FundingStep sessionId σ (.checkpoint guard) τ) :
    guard ∈ σ.guards ∧ τ = { σ with store := τ.store, committed := guard :: σ.committed } ∧
      σ.store.ConsumesGuard τ.store guard.workflowAssertion .swapFundingAuthorization
        guard.authorizationAssertion := by
  cases h with
  | checkpointBatch hguard h =>
    have hc := applyEntityBatchWithWorkflowGuardAndConsumedEntity_consumes h
    exact ⟨hguard, rfl, hc⟩
  | checkpointWorkflow hguard h =>
    have hc := saveWorkflowWithEntityBatchAndGuards_consumes h
    exact ⟨hguard, rfl, hc⟩

theorem Persists.simulates (h : σ.Persists sessionId s) (step : FundingStep sessionId σ act τ) :
    ∃ t, τ.Persists sessionId t ∧
      (Lease.Step (σ.lease sessionId s) (τ.lease sessionId t) ∨
        τ.lease sessionId t = σ.lease sessionId s) := by
  cases act with
  | apply =>
    cases step with
    | apply hcopy happly =>
      obtain ⟨hp, hl⟩ := h.apply hcopy happly
      exact ⟨_, hp, .inl hl⟩
  | capture =>
    cases step with
    | capture hg =>
      obtain ⟨hp, hl⟩ := h.capture hg
      exact ⟨s, hp, .inl hl⟩
  | checkpoint guard =>
    obtain ⟨hguard, hτ, hc⟩ := checkpoint_consumes step
    obtain ⟨k, hk, hversion, hrev, hp, hl⟩ := h.accepts hguard hc
    rw [hτ]
    refine ⟨s, hp, .inl ?_⟩
    rw [hl]
    exact .consume (List.mem_map_of_mem hguard) hversion hk hrev
  | elsewhere =>
    cases step with
    | elsewhere hworkflow hrow =>
      obtain ⟨irreversible, updatedAt, hheld⟩ := h.holds.row
      refine ⟨s, ⟨⟨irreversible, updatedAt, hworkflow.trans hheld⟩, h.authority, ?_, h.copies,
        h.guards⟩, .inr ?_⟩
      · intro row hrow'
        exact h.decodes row (hrow.symm.trans hrow')
      · simp only [lease, hrow]

theorem Opened.run (h : σ.Opened sessionId s₀) (hr : Run (FundingStep sessionId) σ acts τ) :
    ∃ s, τ.Persists sessionId s ∧ (τ.lease sessionId s).Sound ∧
      τ.committed.length = acts.countP FundingAction.isCheckpoint := by
  induction hr with
  | refl => exact ⟨s₀, h.persists, h.sound, by simp [h.committed]⟩
  | @snoc acts act τ υ _ step ih =>
    obtain ⟨s, hp, hsound, hlen⟩ := ih
    obtain ⟨t, hp', hl⟩ := hp.simulates step
    have hsound' : (υ.lease sessionId t).Sound := by
      rcases hl with hl | hl
      · exact hsound.step hl
      · rw [hl]
        exact hsound
    refine ⟨t, hp', hsound', ?_⟩
    rw [List.countP_append, ← hlen]
    cases act with
    | apply => cases step with | apply => rfl
    | capture => cases step with | capture => rfl
    | checkpoint guard =>
      rw [(checkpoint_consumes step).2.1]
      rfl
    | elsewhere => cases step with | elsewhere => rfl

/-- In every interleaving around one accepted session at most one checkpoint
commits, and one that commits finds a session that holds the very authorization it
consumes, with a current first lock and no second one. -/
theorem second_funding_authority_is_consumed_at_most_once (h : σ.Opened sessionId s₀)
    (hr : Run (FundingStep sessionId) σ acts τ) :
    acts.countP FundingAction.isCheckpoint ≤ 1 ∧
      ∀ guard υ, FundingStep sessionId τ (.checkpoint guard) υ →
        ∃ s, τ.store.Holds (shakescapeExecutionWorkflowId sessionId) s ∧
          s.state = .secondFundingPending ∧
          s.secondFundingAuthorization = some guard.authorization ∧
          s.secondFunding = none ∧ s.firstFundingIsCurrent := by
  obtain ⟨s, hp, hsound, hlen⟩ := h.run hr
  constructor
  · have hused := hsound.used_length
    rw [← hlen]
    simpa [lease] using hused
  · intro guard υ step
    obtain ⟨hguard, -, hc⟩ := checkpoint_consumes step
    obtain ⟨k, hk, hversion, hrev, -, -⟩ := hp.accepts hguard hc
    obtain ⟨-, hheld, -, -⟩ := hsound.of_accepted (List.mem_map_of_mem hguard) hversion hk hrev
    have hauth := hp.authority _ hheld
    exact ⟨s, hp.holds, hauth.state, hheld, hauth.secondFunding, hauth.current⟩

def perform (sessionId : SessionId) (σ : FundingSystem V) :
    FundingAction → Option (FundingSystem V)
  | .apply evidence nowUnix updatedAtUnix => do
    let copy ← σ.copies.head?
    let (t, journal) ← (copy.apply evidence nowUnix (⟨σ.store,
      shakescapeExecutionWorkflowId sessionId, updatedAtUnix⟩ :
        WalletStoreJournal V)).toOption
    return { σ with store := journal.store, copies := t :: σ.copies }
  | .capture policy module authorizationId nowUnix => do
    let guard ← (shakescapeSecondFundingBroadcastGuard σ.store policy sessionId module
      authorizationId nowUnix).toOption
    return { σ with guards := guard :: σ.guards }
  | .checkpoint guard =>
    if guard ∈ σ.guards then do
      let store ← (σ.store.applyEntityBatchWithWorkflowGuardAndConsumedEntity
        .bitcoinTransaction ([] : List (EntityBatchSave SwapSession)) []
        guard.workflowAssertion .swapFundingAuthorization guard.authorizationAssertion
        1).toOption
      return { σ with store, committed := guard :: σ.committed }
    else none
  | .elsewhere => some σ

theorem perform_step (h : σ.perform sessionId act = some τ) : FundingStep sessionId σ act τ := by
  cases act with
  | apply evidence nowUnix updatedAtUnix =>
    simp only [perform, Option.bind_eq_bind, Option.bind_eq_some_iff] at h
    obtain ⟨copy, hcopy, ⟨t, journal⟩, happly, hret⟩ := h
    cases hret
    exact .apply (List.mem_of_mem_head? hcopy) (toOption_eq_some.1 happly)
  | capture policy module authorizationId nowUnix =>
    simp only [perform, Option.bind_eq_bind, Option.bind_eq_some_iff] at h
    obtain ⟨guard, hguard, hret⟩ := h
    cases hret
    exact .capture (toOption_eq_some.1 hguard)
  | checkpoint guard =>
    simp only [perform, Option.bind_eq_bind] at h
    split at h
    next hguard =>
      obtain ⟨store, hstore, hret⟩ := Option.bind_eq_some_iff.1 h
      cases hret
      exact .checkpointBatch hguard (toOption_eq_some.1 hstore)
    next => cases h
  | elsewhere =>
    cases h
    exact .elsewhere rfl rfl

end FundingSystem

end System

inductive SampleValue where
  | session (session : SwapSession)
  | authorization (record : PersistedSecondFundingAuthorization)
  | bytes (value : List UInt8)

namespace SampleValue

instance : Encoded SampleValue := ⟨fun _ => 1⟩

instance : Serde SampleValue SwapSession :=
  ⟨session, fun | session s => some s | _ => none, fun _ => rfl⟩

instance : Serde SampleValue PersistedSecondFundingAuthorization :=
  ⟨authorization, fun | authorization record => some record | _ => none, fun _ => rfl⟩

instance : Serde SampleValue (List UInt8) :=
  ⟨bytes, fun | bytes value => some value | _ => none, fun _ => rfl⟩

end SampleValue

namespace FundingSystem

@[reducible] def sampleSha256 : Sha256 where
  digest _ := ⟨[139, 247, 181, 168, 43, 74, 59, 188, 1, 243, 168, 150, 103, 14, 180, 21, 88, 5, 215,
    69, 67, 96, 159, 6, 203, 104, 21, 233, 183, 188, 225, 246],
    rfl⟩

def sampleNetwork : NetworkBinding :=
  ⟨0x5b6ec393, .replicate 32 1, .bitcoin, 1, .replicate 32 2⟩

def sampleHello : SwapSessionHello where
  header := ⟨sampleNetwork, .replicate 33 2, 1, 1, 900⟩
  directOfferId := .replicate 32 2
  swapSessionId := .replicate 32 1
  makerSettlementPublicKey := .replicate 33 2
  takerSettlementPublicKey := .replicate 33 3
  offeredAsset := .hns
  offeredAmount := sample.offered.baseUnits
  receivedAsset := .btc
  receivedAmount := sample.received.baseUnits
  hashlock := .replicate 32 3
  firstFundingChain := .handshake
  offeredLockCommitment := .replicate 32 7
  offeredRefundDeadline := ⟨.unixTime, 20000⟩
  offeredMinimumConfirmations := 2
  receivedLockCommitment := .replicate 32 8
  receivedRefundDeadline := ⟨.unixTime, 10000⟩
  receivedMinimumConfirmations := 1
  makerSignature := .replicate 64 0
  takerSignature := .replicate 64 0

@[reducible] def sampleProtocol : MarketplaceProtocol where
  chain
    | .hns => .handshake
    | .btc => .bitcoin
    | .other code => .other code
  decodeHello terms := if terms = [1] then .ok sampleHello else .error .rejected
  encodeHello hello := if hello = sampleHello then .ok [1] else .error .rejected
  verifyAgreement hello network :=
    if hello = sampleHello ∧ network = sampleNetwork then .ok () else .error .rejected
  verifyNewFundingAt hello network now :=
    if hello = sampleHello ∧ network = sampleNetwork ∧ now < 900 then .ok ()
    else .error .rejected
  validateForPair network := if network = sampleNetwork then .ok () else .error .rejected
  encodeNetwork _ := .ok [1]
  buildHnsHtlc hello side receiver refund := match side with
    | .offered => .ok ⟨⟨5, hello.hashlock, receiver, refund, 20000⟩, hello.offeredLockCommitment⟩
    | .received => .error .rejected
  hnsRefundTimeLock deadline := .ok deadline.value

def samplePolicy : ShakescapeDirectSwapPolicy :=
  ⟨⟨sampleNetwork, ⟨.replicate 32 0⟩⟩, ⟨.replicate 32 0⟩⟩

def sampleExecution : SwapSession :=
  { sample with
    state := .termsFrozen, revision := 1, acceptedShakescapeTerms := some [1] }

section Sample

attribute [local instance] sampleSha256 sampleProtocol

def sampleSystem : FundingSystem SampleValue where
  store := (⟨true, ∅, ∅, ∅⟩ : WalletStore SampleValue).putWorkflow
    (shakescapeExecutionWorkflowId sampleExecution.id)
    ⟨.atomicSwap, 1, .session sampleExecution, false, 1⟩
  copies := [sampleExecution]
  guards := []
  committed := []

theorem sampleSystem_opened : sampleSystem.Opened sampleExecution.id sampleExecution where
  holds := ⟨false, 1, putWorkflow_lookup⟩
  id := rfl
  terms := rfl
  blank := by constructor <;> first | rfl | decide
  authorizationRow := rfl
  copies := rfl
  guards := rfl
  committed := rfl

def sampleAuthorization : SecondFundingAuthorization :=
  ⟨⟨.replicate 32 5⟩, .bitcoin, ⟨.replicate 32 9⟩, 1, 800⟩

def sampleActions (guard : SecondFundingBroadcastGuard) : List FundingAction :=
  [.apply .refundsValidated 2 2, .apply .fundingReady 2 2,
    .apply (.firstFundingObservationStarted .handshake 1) 3 3,
    .apply (.firstFundingConfirmedAtGeneration ⟨.replicate 32 9⟩ .handshake 1) 3 3,
    .apply .secondFundingReady 4 4,
    .apply (.secondFundingAuthorizationIssued sampleAuthorization) 5 5,
    .capture samplePolicy .bitcoin sampleAuthorization.id 6, .checkpoint guard]

def sampleGuard : SecondFundingBroadcastGuard where
  sessionId := sampleExecution.id
  executionWorkflowId := shakescapeExecutionWorkflowId sampleExecution.id
  executionRevision := 7
  authorizationEntityId := secondFundingAuthorizationEntityId sampleExecution.id
  authorizationEntityRevision := 1
  authorization := sampleAuthorization

theorem second_funding_authority_is_consumed_at_most_once_sample :
    ∃ τ, Run (FundingStep sampleExecution.id) sampleSystem (sampleActions sampleGuard) τ ∧
      τ.committed = [sampleGuard] ∧
      (sampleActions sampleGuard).countP FundingAction.isCheckpoint ≤ 1 ∧
      ∀ guard υ, FundingStep sampleExecution.id τ (.checkpoint guard) υ →
        ∃ s, τ.store.Holds (shakescapeExecutionWorkflowId sampleExecution.id) s ∧
          s.state = .secondFundingPending ∧
          s.secondFundingAuthorization = some guard.authorization ∧
          s.secondFunding = none ∧ s.firstFundingIsCurrent := by
  have hplay := Run.foldlM_iff.2 (rfl : (sampleActions sampleGuard).foldlM
    (perform sampleExecution.id) sampleSystem = some _)
  have hr := hplay.mono (fun h => perform_step h)
  exact ⟨_, hr, rfl, second_funding_authority_is_consumed_at_most_once sampleSystem_opened hr⟩

end Sample

end FundingSystem

end HnsWallet
