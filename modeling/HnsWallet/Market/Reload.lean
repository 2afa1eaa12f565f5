import HnsWallet.Market.Failure
import HnsWallet.Market.SessionBoardLaws
import HnsWallet.Market.Spending
import HnsWallet.Mobile.Redeem

/-! # Executions load again -/

namespace HnsWallet

open Lib WalletStore

structure SwapSession.Reloadable [MarketplaceProtocol] (policy : ShakescapeDirectSwapPolicy)
    (sessionId : SessionId) (hello : SwapSessionHello) (s : SwapSession) : Prop where
  id : s.id = sessionId
  terms : acceptedHello policy sessionId s = .ok hello
  revoked : s.firstFundingRevoked → s.firstFunding ≠ none
  generation : ∀ g, s.firstFundingConfirmedGeneration = some g →
    g ≠ 0 ∧ g = s.firstFundingObservationGeneration
  authority : s.AuthorityHeld
  expiry : ∀ a, s.secondFundingAuthorization = some a →
    a.expiresAtUnix ≤ hello.header.expiresAt

/-- Evidence that leaves such a session: a confirmation names a generation that a read
was given, and an authorization ends with the terms. -/
def VerifiedEvidence.Admissible (hello : SwapSessionHello) : VerifiedEvidence → Prop
  | .firstFundingConfirmedAtGeneration _ _ g => g ≠ 0
  | .secondFundingAuthorizationIssued a => a.expiresAtUnix ≤ hello.header.expiresAt
  | _ => True

section Steps

variable {s t : SwapSession} {e : VerifiedEvidence} {now : UInt64}

namespace SwapSession

variable {a : SecondFundingAuthorization}

theorem authorization_of_moveTo {next : SwapState}
    (h : (s.moveTo next now).secondFundingAuthorization = some a) :
    s.secondFundingAuthorization = some a := by
  rw [moveTo_secondFundingAuthorization] at h
  split at h
  · exact h
  · cases h

theorem withRefund_keeps (m : ModuleId) (l : ObjectHash) :
    (s.withRefund m l).firstFunding = s.firstFunding ∧
      (s.withRefund m l).firstFundingRevoked = s.firstFundingRevoked ∧
      (s.withRefund m l).firstFundingObservationGeneration =
        s.firstFundingObservationGeneration ∧
      (s.withRefund m l).firstFundingConfirmedGeneration = s.firstFundingConfirmedGeneration ∧
      (s.withRefund m l).secondFundingAuthorization = s.secondFundingAuthorization := by
  unfold withRefund
  split <;> exact ⟨rfl, rfl, rfl, rfl, rfl⟩

theorem authorization_back (step : s.Step e now t) (ha : t.secondFundingAuthorization = some a) :
    s.secondFundingAuthorization = some a ∨ e = .secondFundingAuthorizationIssued a := by
  cases step with
  | observationStarted | firstFundingConfirmed | firstFundingRecovered | firstFundingRefreshed
  | confirmedAtGeneration | recoveredAtGeneration | refreshedAtGeneration
  | firstFundingDropped | firstFundingRevoked => cases authorization_of_moveTo ha
  | authorizationIssued =>
    cases authorization_of_moveTo ha
    exact .inr rfl
  | @chainRefundConfirmed m l =>
    rw [← (s.withRefund_keeps m l).2.2.2.2]
    exact .inl (authorization_of_moveTo ha)
  | _ =>
    have hold := authorization_of_moveTo ha
    exact .inl hold

theorem revoked_step (h : s.firstFundingRevoked → s.firstFunding ≠ none)
    (step : s.Step e now t) : t.firstFundingRevoked → t.firstFunding ≠ none := by
  cases step with
  | firstFundingDropped => exact fun hrevoked => absurd hrevoked (by simp)
  | firstFundingRevoked _ _ hff =>
    intro _
    rw [moveTo_firstFunding, hff]
    simp
  | @chainRefundConfirmed m l =>
    obtain ⟨hff, hrevoked, -⟩ := s.withRefund_keeps m l
    rw [moveTo_firstFunding, moveTo_firstFundingRevoked, hff, hrevoked]
    exact h
  | firstFundingConfirmed => exact fun _ => by simp [withFirstFunding]
  | firstFundingRecovered | firstFundingRefreshed | confirmedAtGeneration
  | recoveredAtGeneration | refreshedAtGeneration => exact fun _ => by simp [withFirstFunding]
  | _ => exact h

theorem generation_step {hello : SwapSessionHello}
    (h : ∀ g, s.firstFundingConfirmedGeneration = some g →
      g ≠ 0 ∧ g = s.firstFundingObservationGeneration)
    (step : s.Step e now t) (he : e.Admissible hello) :
    ∀ g, t.firstFundingConfirmedGeneration = some g →
      g ≠ 0 ∧ g = t.firstFundingObservationGeneration := by
  cases step with
  | observationStarted => exact nofun
  | firstFundingConfirmed => exact nofun
  | firstFundingRecovered => exact nofun
  | firstFundingRefreshed => exact nofun
  | firstFundingDropped => exact nofun
  | firstFundingRevoked => exact nofun
  | confirmedAtGeneration _ hg | recoveredAtGeneration _ hg | refreshedAtGeneration _ _ hg =>
    rintro g ⟨⟩
    exact ⟨he, hg.symm⟩
  | @chainRefundConfirmed m l =>
    obtain ⟨-, -, hgen, hconf, -⟩ := s.withRefund_keeps m l
    rw [moveTo_firstFundingConfirmedGeneration, moveTo_firstFundingObservationGeneration, hgen,
      hconf]
    exact h
  | _ => exact h

variable [MarketplaceProtocol] {policy : ShakescapeDirectSwapPolicy} {sessionId : SessionId}
  {hello : SwapSessionHello}

theorem acceptedHello_congr (h : t.acceptedShakescapeTerms = s.acceptedShakescapeTerms) :
    acceptedHello policy sessionId t = acceptedHello policy sessionId s := by
  unfold acceptedHello
  rw [h]

theorem Reloadable.step (h : s.Reloadable policy sessionId hello) (step : s.Step e now t)
    (he : e.Admissible hello) : t.Reloadable policy sessionId hello where
  id := step.sameTerms.id.trans h.id
  terms := (acceptedHello_congr step.sameTerms.acceptedShakescapeTerms).trans h.terms
  revoked := revoked_step h.revoked step
  generation := generation_step h.generation step he
  authority := h.authority.step step
  expiry a ha := by
    rcases authorization_back step ha with hold | rfl
    · exact h.expiry a hold
    · exact he

end SwapSession

end Steps

section Rows

variable [Sha256] {V : Type} [Serde V SwapSession]

structure WalletStore.Keeps (store : WalletStore V) (sessionId : SessionId) (s : SwapSession) :
    Prop where
  unlocked : store.unlocked
  row : ∃ irreversible, store.workflows.lookup (shakescapeExecutionWorkflowId sessionId) =
    some ⟨.atomicSwap, s.revision, Serde.toVec s, irreversible, s.lastVerifiedAtUnix⟩

variable {store : WalletStore V} {sessionId : SessionId} {s : SwapSession}

theorem WalletStore.Keeps.holds (h : store.Keeps sessionId s) :
    store.Holds (shakescapeExecutionWorkflowId sessionId) s := by
  obtain ⟨irreversible, hrow⟩ := h.row
  exact ⟨irreversible, _, hrow⟩

theorem WalletStore.Keeps.loadWorkflow (h : store.Keeps sessionId s) :
    ∃ irreversible, store.loadWorkflow SwapSession (shakescapeExecutionWorkflowId sessionId) =
      .ok (some ⟨shakescapeExecutionWorkflowId sessionId, .atomicSwap, s.revision, s,
        irreversible, s.lastVerifiedAtUnix⟩) := by
  obtain ⟨irreversible, hrow⟩ := h.row
  exact ⟨irreversible, loadWorkflow_eq_some.2
    ⟨h.unlocked, _, s, hrow, Serde.fromSlice_toVec s, rfl⟩⟩

theorem WalletStore.Keeps.putSecret {store' : WalletStore V} {id : RecordId}
    {cleartext : List UInt8} {updatedAt : UInt64} (h : store.Keeps sessionId s)
    (hput : store.putSecret id .htlcPreimage cleartext updatedAt = .ok store') :
    store'.Keeps sessionId s := by
  obtain ⟨-, -, -, -, rfl⟩ := (putSecret_eq_ok (by decide)).1 hput
  exact ⟨h.unlocked, h.row⟩

variable [MarketplaceProtocol] {policy : ShakescapeDirectSwapPolicy} {hello : SwapSessionHello}

omit [Sha256] in
theorem SwapSession.Reloadable.validate (h : s.Reloadable policy sessionId hello)
    (workflowId : WorkflowId) (irreversible : Bool) :
    validateShakescapeExecutionRecord policy sessionId workflowId
      ⟨workflowId, .atomicSwap, s.revision, s, irreversible, s.lastVerifiedAtUnix⟩ = .ok () := by
  unfold validateShakescapeExecutionRecord
  simp only [ok_iff]
  refine ⟨(), ?_, hello, h.terms, ?_⟩
  · simp only [ne_eq, not_true_eq_false, h.id, false_or, not_or, not_and, not_exists]
    refine ⟨h.revoked, fun g hg => ?_⟩
    obtain ⟨hpos, heq⟩ := h.generation g hg
    exact ⟨hpos, not_not.2 heq⟩
  · rintro ⟨a, ha, hrefused⟩
    have hsupport := h.authority a ha
    have hexpiry := h.expiry a ha
    simp [hsupport.state, hsupport.module, hsupport.firstFunding, hsupport.notRevoked,
      hsupport.generation, hsupport.confirmed, hsupport.secondFunding,
      hsupport.nonZero] at hrefused
    exact absurd hrefused (UInt64.not_lt.2 hexpiry)

theorem WalletStore.Keeps.load (hkept : store.Keeps sessionId s)
    (h : s.Reloadable policy sessionId hello) :
    loadShakescapeExecution store policy sessionId = .ok (some s) := by
  obtain ⟨irreversible, hload⟩ := hkept.loadWorkflow
  unfold loadShakescapeExecution
  simp only [hload]
  show (validateShakescapeExecutionRecord policy sessionId _ _ >>= fun _ => pure (some s)) = _
  rw [h.validate]
  rfl

end Rows

section Journal

variable [Sha256] {V : Type} [Encoded V] [Serde V SwapSession]
  [Serde V PersistedSecondFundingAuthorization]

def Journals (workflowId : WorkflowId) (nowUnix : UInt64)
    (before : WalletStore V × SwapSession) (evidence : VerifiedEvidence)
    (after : WalletStore V × SwapSession) : Prop :=
  before.2.apply evidence nowUnix (⟨before.1, workflowId, nowUnix⟩ : WalletStoreJournal V) =
    .ok (after.2, ⟨after.1, workflowId, nowUnix⟩)

variable {workflowId : WorkflowId} {nowUnix : UInt64} {store : WalletStore V} {s t : SwapSession}
  {evidence : List VerifiedEvidence} {e : VerifiedEvidence} {journal : WalletStoreJournal V}

theorem WalletStoreJournal.save_store {journal' : WalletStoreJournal V} {session : SwapSession}
    {expected : UInt64} (h : journal.save session expected = .ok journal') :
    journal' = { journal with store := journal'.store } := by
  unfold save at h
  split at h
  all_goals simp only [ok_iff] at h
  · obtain ⟨⟨written, next⟩, -, -, -, hret⟩ := h
    cases hret
    rfl
  · obtain ⟨-, -, -, -, -, -, -, -, ⟨written, next⟩, -, -, -, hret⟩ := h
    cases hret
    rfl

theorem journals_of_apply
    (h : s.apply e nowUnix (⟨store, workflowId, nowUnix⟩ : WalletStoreJournal V) =
      .ok (t, journal)) : Journals workflowId nowUnix (store, s) e (journal.store, t) := by
  obtain ⟨next, revision, -, -, -, hsave⟩ := SwapSession.apply_eq_ok.1 h
  have hjournal : journal = ⟨journal.store, workflowId, nowUnix⟩ :=
    WalletStoreJournal.save_store hsave
  unfold Journals
  rw [h, ← hjournal]

theorem journals_of_applyAll {result : Except MarketError SwapSession}
    (h : applyAll s nowUnix (⟨store, workflowId, nowUnix⟩ : WalletStoreJournal V) evidence =
      (result, journal)) :
    ∃ done t, Run (Journals workflowId nowUnix) (store, s) done (journal.store, t) ∧
      done <+: evidence ∧ ∀ r, result = .ok r → r = t := by
  induction evidence generalizing store s with
  | nil =>
    cases h
    exact ⟨[], s, .refl, List.prefix_refl [], fun r hr => (Except.ok.inj hr).symm⟩
  | cons e rest ih =>
    unfold applyAll at h
    split at h
    next happly =>
      cases h
      exact ⟨[], s, .refl, List.nil_prefix, fun r hr => by cases hr⟩
    next t journal' happly =>
      have hstep := journals_of_apply happly
      obtain ⟨next, revision, -, -, -, hsave⟩ := SwapSession.apply_eq_ok.1 happly
      rw [WalletStoreJournal.save_store hsave] at h
      obtain ⟨done, u, hrun, hdone, hresult⟩ := ih h
      exact ⟨e :: done, u, .cons hstep hrun, List.cons_prefix_cons.2 ⟨rfl, hdone⟩, hresult⟩

theorem journals_of_journalEach (workflowId : WorkflowId) (nowUnix : UInt64)
    (store : WalletStore V) (s : SwapSession)
    (choices : List (SwapSession → Option VerifiedEvidence)) :
    ∃ done t, Run (Journals workflowId nowUnix) (store, s) done
        ((journalEach workflowId nowUnix store s choices).final store, t) ∧
      (∀ e ∈ done, ∃ choose ∈ choices, ∃ u, choose u = some e) ∧
      ∀ r, (journalEach workflowId nowUnix store s choices).result = .ok r → r = t := by
  induction choices generalizing store s with
  | nil => exact ⟨[], s, .refl, nofun, fun r hr => (Except.ok.inj hr).symm⟩
  | cons choose rest ih =>
    unfold journalEach
    split
    next =>
      obtain ⟨done, t, hrun, hdone, hresult⟩ := ih store s
      refine ⟨done, t, hrun, fun e he => ?_, hresult⟩
      obtain ⟨choice, hmem, hchosen⟩ := hdone e he
      exact ⟨choice, List.mem_cons_of_mem _ hmem, hchosen⟩
    next e hchoose =>
      split
      next => exact ⟨[], s, .refl, nofun, fun r hr => by cases hr⟩
      next u journal happly =>
        obtain ⟨done, t, hrun, hdone, hresult⟩ := ih journal.store u
        refine ⟨e :: done, t, .cons (journals_of_apply happly) ?_, fun e' he' => ?_, hresult⟩
        · rw [Call.final, List.getLastD_cons]
          exact hrun
        · rcases List.mem_cons.1 he' with rfl | he'
          · exact ⟨choose, List.mem_cons_self, s, hchoose⟩
          · obtain ⟨choice, hmem, hchosen⟩ := hdone e' he'
            exact ⟨choice, List.mem_cons_of_mem _ hmem, hchosen⟩

variable [MarketplaceProtocol] {policy : ShakescapeDirectSwapPolicy} {sessionId : SessionId}
  {hello : SwapSessionHello} {store' : WalletStore V}

theorem SwapSession.Reloadable.journals (hs : s.Reloadable policy sessionId hello)
    (h : Journals (shakescapeExecutionWorkflowId sessionId) nowUnix (store, s) e (store', t))
    (he : e.Admissible hello) :
    store'.Keeps sessionId t ∧ t.Reloadable policy sessionId hello := by
  obtain ⟨next, revision, hstep, -, rfl, hsave⟩ := SwapSession.apply_eq_ok.1 h
  have hnext := hs.step hstep he
  have hterms : next.acceptedShakescapeTerms.isSome := by
    obtain ⟨terms, hterms, -⟩ := ok_bind_iff.1 hnext.terms
    rw [okOr_eq_ok.1 hterms]
    rfl
  have hsaved : Saved (⟨store, _, nowUnix⟩ : WalletStoreJournal V) ⟨store', _, nowUnix⟩
      { next with revision } s.revision := WalletStoreJournal.saved hterms hsave
  have hnow : next.lastVerifiedAtUnix = nowUnix := by cases hstep <;> rfl
  refine ⟨⟨hsaved.unlocked, next.state.irreversible, ?_⟩, { hnext with authority := ?_ }⟩
  · rw [← hnow] at hsaved
    exact hsaved.stored
  · intro a ha
    exact { hnext.authority a ha with }

theorem WalletStore.Keeps.run (hkept : store.Keeps sessionId s)
    (hs : s.Reloadable policy sessionId hello)
    (h : Run (Journals (shakescapeExecutionWorkflowId sessionId) nowUnix) (store, s) evidence
      (store', t)) (he : ∀ e ∈ evidence, e.Admissible hello) :
    store'.Keeps sessionId t ∧ t.Reloadable policy sessionId hello := by
  induction evidence generalizing store s with
  | nil =>
    cases Run.nil_iff.1 h
    exact ⟨hkept, hs⟩
  | cons e rest ih =>
    obtain ⟨⟨store₁, s₁⟩, hfirst, hrest⟩ := Run.cons_iff.1 h
    obtain ⟨hkept₁, hs₁⟩ := hs.journals hfirst (he e List.mem_cons_self)
    exact ih hkept₁ hs₁ hrest fun e' he' => he e' (List.mem_cons_of_mem _ he')

end Journal

inductive LocalStep where
  | refundsValidated
  | fundingReady
  | secondFundingReady
  | terminalFailure (reason : String)

def LocalStep.evidence : LocalStep → VerifiedEvidence
  | .refundsValidated => .refundsValidated
  | .fundingReady => .fundingReady
  | .secondFundingReady => .secondFundingReady
  | .terminalFailure reason => .terminalFailure reason

inductive ExecutionCall where
  | reopen
  | advance (step : LocalStep)
  | begin (module : ModuleId)
  | fund (lock : LocallyVerifiedSwapFunding) (observationGeneration : Option UInt64)
  | invalidate (observationGeneration : Option UInt64)
  | issue (module : ModuleId) (authorizationId : ObjectHash) (expiresAtUnix : UInt64)
  | firstRedemption (spend : LocallyVerifiedSwapSpend)
  | secondRedemption (spend : LocallyVerifiedSwapSpend)
  | refund (spend : LocallyVerifiedSwapSpend)

theorem VerifiedEvidence.Admissible.choice {hello : SwapSessionHello}
    {p : SwapSession → Prop} [DecidablePred p]
    {f : SwapSession → VerifiedEvidence} (hf : ∀ u, (f u).Admissible hello) :
    ∀ u e, (if p u then some (f u) else none) = some e → e.Admissible hello := by
  intro u e he
  split at he
  · cases he
    exact hf u
  · cases he

theorem mem_fundingEvidenceFor {s : SwapSession} {e : VerifiedEvidence} {module : ModuleId}
    {l : ObjectHash}
    {observationGeneration : Option UInt64} {evidence : List VerifiedEvidence}
    (h : fundingEvidenceFor s module l observationGeneration = .ok evidence) (he : e ∈ evidence) :
    e = firstFundingEvidence module l observationGeneration ∨ e = .secondFundingReady ∨
      e = .secondFundingConfirmed l := by
  simp only [fundingEvidenceFor] at h
  split_ifs at h
  all_goals cases h
  all_goals simp only [List.mem_cons, List.not_mem_nil, or_false] at he
  all_goals grind

def atomically {V α : Type} (store : WalletStore V) :
    Except MarketError (α × WalletStore V) → Except MarketError α × WalletStore V
  | .error e => (.error e, store)
  | .ok (value, store) => (.ok value, store)

theorem atomically_eq {V α : Type} {store store' : WalletStore V}
    {r : Except MarketError (α × WalletStore V)} {result : Except MarketError α}
      (h : atomically store r = (result, store')) :
    (∃ e, result = .error e ∧ store' = store) ∨ ∃ a, result = .ok a ∧ r = .ok (a, store') := by
  cases r with
  | error e =>
    cases h
    exact .inl ⟨e, rfl, rfl⟩
  | ok r =>
    cases h
    exact .inr ⟨r.1, rfl, rfl⟩

section Loads

variable [Sha256] [DirectSwapProtocol] {V : Type} [Serde V SwapSession]

structure WalletStore.Loads (store : WalletStore V) (policy : ShakescapeDirectSwapPolicy)
    (sessionId : SessionId) (hello : SwapSessionHello) (s : SwapSession) : Prop where
  keeps : store.Keeps sessionId s
  reloadable : s.Reloadable policy sessionId hello

variable {store store' : WalletStore V} {policy : ShakescapeDirectSwapPolicy}
  {sessionId : SessionId} {hello : SwapSessionHello} {s t : SwapSession} {nowUnix : UInt64}
  {e : VerifiedEvidence}

theorem WalletStore.Loads.load (h : store.Loads policy sessionId hello s) :
    loadShakescapeExecution store policy sessionId = .ok (some s) :=
  h.keeps.load h.reloadable

theorem WalletStore.Loads.judgedOn (h : store.Loads policy sessionId hello s)
    (hjudged : JudgedOn store policy sessionId t) : t = s := by
  obtain ⟨stored, hload, rfl⟩ := hjudged
  obtain ⟨irreversible, hworkflow⟩ := h.keeps.loadWorkflow
  obtain ⟨hload, -⟩ := loadShakescapeExecutionForLocalEvidence_eq_ok.1 hload
  cases hload.symm.trans hworkflow
  rfl

def Call.LeavesLoading (call : Call V) (store : WalletStore V)
    (policy : ShakescapeDirectSwapPolicy) (sessionId : SessionId) (hello : SwapSessionHello) :
    Prop :=
  ∃ t, (call.final store).Loads policy sessionId hello t ∧ ∀ r, call.result = .ok r → r = t

theorem WalletStore.Loads.failedCall (h : store.Loads policy sessionId hello s)
    (error : MarketError) :
    Call.LeavesLoading ⟨.error error, []⟩ store policy sessionId hello :=
  ⟨s, h, fun r hr => by cases hr⟩

theorem Call.LeavesLoading.returned {call : Call V}
    (h : call.LeavesLoading store policy sessionId hello) :
    ∃ t, (call.final store).Loads policy sessionId hello t ∧
      ∀ u, (call.result.map some).toOption.join = some u → u = t := by
  obtain ⟨t, ht, hresult⟩ := h
  refine ⟨t, ht, fun u hu => hresult u ?_⟩
  cases hr : call.result with
  | error e =>
    rw [hr] at hu
    cases hu
  | ok r =>
    rw [hr] at hu
    cases hu
    rfl

theorem WalletStore.Loads.atomically {result : Except MarketError (Option SwapSession)}
    {r : Except MarketError (Option SwapSession × WalletStore V)}
    (h : store.Loads policy sessionId hello s)
    (hcall : HnsWallet.atomically store r = (result, store'))
    (hok : ∀ returned, r = .ok (returned, store') →
      ∃ t, store'.Loads policy sessionId hello t ∧ ∀ u, returned = some u → u = t) :
    ∃ t, store'.Loads policy sessionId hello t ∧ ∀ u, result.toOption.join = some u → u = t := by
  rcases atomically_eq hcall with ⟨e, rfl, rfl⟩ | ⟨returned, rfl, hr⟩
  · exact ⟨s, h, fun u hu => by cases hu⟩
  · exact hok returned hr

variable [Encoded V] [Serde V PersistedSecondFundingAuthorization] {module : ModuleId}
  {observationGeneration : Option UInt64} {spend : LocallyVerifiedSwapSpend}

def advanceShakescapeExecution (store : WalletStore V) (policy : ShakescapeDirectSwapPolicy)
    (sessionId : SessionId) (step : LocalStep) (nowUnix : UInt64) :
    Except MarketError (SwapSession × WalletStore V) := do
  let loaded ← loadShakescapeExecution store policy sessionId
  let session ← okOr loaded .unknownShakescapeDirectSwap
  let (session, journal) ← session.apply step.evidence nowUnix
    (⟨store, shakescapeExecutionWorkflowId sessionId, nowUnix⟩ : WalletStoreJournal V)
  return (session, journal.store)

section

variable (h : store.Loads policy sessionId hello s)
include h

theorem WalletStore.Loads.apply {journal : WalletStoreJournal V}
    (happly : s.apply e nowUnix (⟨store, shakescapeExecutionWorkflowId sessionId, nowUnix⟩ :
      WalletStoreJournal V) = .ok (t, journal)) (he : e.Admissible hello) :
    journal.store.Loads policy sessionId hello t := by
  obtain ⟨hkept, hs⟩ := h.reloadable.journals (journals_of_apply happly) he
  exact ⟨hkept, hs⟩

theorem WalletStore.Loads.journalEach {choices : List (SwapSession → Option VerifiedEvidence)}
    (hchoices : ∀ choose ∈ choices, ∀ u e, choose u = some e → e.Admissible hello) :
    ∃ t, ((journalEach (shakescapeExecutionWorkflowId sessionId) nowUnix store s
        choices).final store).Loads policy sessionId hello t ∧
      ∀ r, (journalEach (shakescapeExecutionWorkflowId sessionId) nowUnix store s
        choices).result = .ok r → r = t := by
  obtain ⟨done, t, hrun, hdone, hresult⟩ := journals_of_journalEach
    (shakescapeExecutionWorkflowId sessionId) nowUnix store s choices
  obtain ⟨hkept, ht⟩ := h.keeps.run h.reloadable hrun fun e he => by
    obtain ⟨choose, hmem, u, hu⟩ := hdone e he
    exact hchoices choose hmem u e hu
  exact ⟨t, ⟨hkept, ht⟩, hresult⟩

/-! ## Each call leaves a row that loads -/

theorem WalletStore.Loads.advance {step : LocalStep}
    (hcall : advanceShakescapeExecution store policy sessionId step nowUnix = .ok (t, store')) :
    store'.Loads policy sessionId hello t := by
  simp only [advanceShakescapeExecution, h.load, ok_iff] at hcall
  obtain ⟨_, hloaded, session, rfl, ⟨u, journal⟩, happly, hret⟩ := hcall
  cases hloaded
  cases hret
  exact h.apply happly (by cases step <;> trivial)

theorem WalletStore.Loads.begin {g : UInt64}
    (hcall : beginShakescapeFirstFundingObservation store policy sessionId module nowUnix =
      .ok (g, store')) : ∃ t, store'.Loads policy sessionId hello t := by
  simp only [beginShakescapeFirstFundingObservation, h.load, ok_iff] at hcall
  obtain ⟨_, hloaded, session, rfl, -, -, generation, -, ⟨u, journal⟩, happly, hret⟩ := hcall
  cases hloaded
  cases hret
  exact ⟨u, h.apply happly trivial⟩

theorem WalletStore.Loads.invalidate
    (hcall : invalidateLocallyVerifiedShakescapeFirstFundingInner store policy sessionId
      observationGeneration nowUnix = .ok (t, store')) :
    store'.Loads policy sessionId hello t := by
  simp only [invalidateLocallyVerifiedShakescapeFirstFundingInner, h.load, ok_iff] at hcall
  obtain ⟨_, hloaded, session, rfl, -, -, hcall⟩ := hcall
  cases hloaded
  split at hcall
  · cases hcall
    exact h
  · simp only [ok_iff] at hcall
    obtain ⟨-, -, evidence, -, ⟨u, journal⟩, happly, hret⟩ := hcall
    cases hret
    exact h.apply happly trivial

theorem WalletStore.Loads.issue {authorizationId : ObjectHash} {expiresAtUnix : UInt64}
    (hcall : issueShakescapeSecondFundingAuthorization store policy sessionId module
      authorizationId expiresAtUnix nowUnix = .ok (t, store')) :
    store'.Loads policy sessionId hello t := by
  simp only [issueShakescapeSecondFundingAuthorization, h.load, ok_iff] at hcall
  obtain ⟨_, hloaded, session, rfl, -, -, terms, hterms, decoded, hdecoded, -, -, -, -, -, hexpiry,
    funding, -, ⟨u, journal⟩, happly, hret⟩ := hcall
  cases hloaded
  cases hret
  have hhello := h.reloadable.terms
  simp only [acceptedHello, hterms, ok_iff] at hhello
  obtain ⟨_, hsame, decoded', hdecoded', -, -, hret⟩ := hhello
  cases hsame
  cases hret
  cases hdecoded.symm.trans hdecoded'
  exact h.apply happly (UInt64.not_lt.1 hexpiry)

theorem WalletStore.Loads.firstRedemption :
    (applyLocallyVerifiedShakescapeFirstRedemption store policy sessionId spend
      nowUnix).LeavesLoading store policy sessionId hello := by
  have hchoices : ∀ choose ∈ firstRedemptionEvidence (spendEvidenceId spend), ∀ u e,
      choose u = some e → e.Admissible hello :=
    List.forall_mem_cons.2 ⟨.choice fun _ => trivial,
      List.forall_mem_cons.2 ⟨.choice fun _ => trivial, nofun⟩⟩
  unfold applyLocallyVerifiedShakescapeFirstRedemption
  split
  next error _ => exact h.failedCall error
  next session preimage hjudge =>
    obtain rfl := h.judgedOn (judgeFirstRedemption_eq_ok.1 hjudge).1
    exact h.journalEach hchoices
  next session preimage hjudge =>
    obtain rfl := h.judgedOn (judgeFirstRedemption_eq_ok.1 hjudge).1
    split
    next error _ => exact h.failedCall error
    next written hput =>
      -- The preimage goes to another table.
      have hwritten : written.Loads policy sessionId hello session :=
        ⟨h.keeps.putSecret (liftStore_eq_ok.1 hput), h.reloadable⟩
      obtain ⟨t, ht, hresult⟩ := hwritten.journalEach hchoices
      refine ⟨t, ?_, hresult⟩
      rw [Call.final, List.getLastD_cons]
      exact ht

theorem WalletStore.Loads.secondRedemption :
    (applyLocallyVerifiedShakescapeSecondRedemption store policy sessionId spend
      nowUnix).LeavesLoading store policy sessionId hello := by
  unfold applyLocallyVerifiedShakescapeSecondRedemption
  split
  next error _ => exact h.failedCall error
  next session hjudge =>
    obtain rfl := h.judgedOn (judgeSecondRedemption_eq_ok.1 hjudge).1
    exact h.journalEach (List.forall_mem_cons.2 ⟨.choice fun _ => trivial,
      List.forall_mem_cons.2 ⟨.choice fun _ => trivial, nofun⟩⟩)

theorem WalletStore.Loads.refund :
    (applyLocallyVerifiedShakescapeRefund store policy sessionId spend
      nowUnix).LeavesLoading store policy sessionId hello := by
  unfold applyLocallyVerifiedShakescapeRefund
  split
  next error _ => exact h.failedCall error
  next session hjudge =>
    obtain rfl := h.judgedOn (judgeRefund_judgedOn hjudge)
    exact h.journalEach (List.forall_mem_cons.2 ⟨.choice fun _ => trivial, nofun⟩)

end

variable [BitcoinLibrary]

theorem WalletStore.Loads.fund {lock : LocallyVerifiedSwapFunding}
    {result : Except MarketError SwapSession} (h : store.Loads policy sessionId hello s)
    (hgeneration : observationGeneration ≠ some 0)
    (hcall : applyLocallyVerifiedShakescapeFundingInner store policy sessionId lock
      observationGeneration nowUnix = (result, store')) :
    ∃ t, store'.Loads policy sessionId hello t ∧ ∀ r, result = .ok r → r = t := by
  unfold applyLocallyVerifiedShakescapeFundingInner at hcall
  split at hcall
  next =>
    cases hcall
    exact ⟨s, h, fun r hr => by cases hr⟩
  next session evidence hjudge =>
    obtain ⟨stored, hstored, rfl, -, hevidence, -⟩ := judgeFunding_eq_ok hjudge
    obtain ⟨irreversible, hload⟩ := h.keeps.loadWorkflow
    cases hstored.symm.trans hload
    generalize happly : applyAll s nowUnix (⟨store, _, nowUnix⟩ : WalletStoreJournal V) evidence =
      applied at hcall
    obtain ⟨result', journal⟩ := applied
    cases hcall
    obtain ⟨done, t, hrun, hdone, hresult⟩ := journals_of_applyAll happly
    obtain ⟨hkept, ht⟩ := h.keeps.run h.reloadable hrun fun e he => by
      rcases mem_fundingEvidenceFor hevidence (hdone.subset he) with rfl | rfl | rfl
      · cases observationGeneration with
        | none => trivial
        | some g => exact fun hzero => hgeneration (congrArg some hzero)
      · trivial
      · trivial
    exact ⟨t, ⟨hkept, ht⟩, hresult⟩

variable [Serde V PersistedShakescapeDirectSwap]

def ExecutionCall.perform (policy : ShakescapeDirectSwapPolicy) (sessionId : SessionId)
    (nowUnix : UInt64) (store : WalletStore V) :
    ExecutionCall → Except MarketError (Option SwapSession) × WalletStore V
  | .reopen => atomically store <|
      (openShakescapeExecution store policy sessionId nowUnix).map fun r => (some r.2, r.1)
  | .advance step => atomically store <|
      (advanceShakescapeExecution store policy sessionId step nowUnix).map fun r => (some r.1, r.2)
  | .begin module => atomically store <|
      (beginShakescapeFirstFundingObservation store policy sessionId module nowUnix).map
        fun r => (none, r.2)
  | .fund lock observationGeneration =>
    let (result, store) := applyLocallyVerifiedShakescapeFundingInner store policy sessionId
      lock observationGeneration nowUnix
    (result.map some, store)
  | .invalidate observationGeneration => atomically store <|
      (invalidateLocallyVerifiedShakescapeFirstFundingInner store policy sessionId
        observationGeneration nowUnix).map fun r => (some r.1, r.2)
  | .issue module authorizationId expiresAtUnix => atomically store <|
      (issueShakescapeSecondFundingAuthorization store policy sessionId module authorizationId
        expiresAtUnix nowUnix).map fun r => (some r.1, r.2)
  | .firstRedemption spend =>
    let call := applyLocallyVerifiedShakescapeFirstRedemption store policy sessionId spend
      nowUnix
    (call.result.map some, call.final store)
  | .secondRedemption spend =>
    let call := applyLocallyVerifiedShakescapeSecondRedemption store policy sessionId spend
      nowUnix
    (call.result.map some, call.final store)
  | .refund spend =>
    let call := applyLocallyVerifiedShakescapeRefund store policy sessionId spend nowUnix
    (call.result.map some, call.final store)

structure ExecutionEvent where
  call : ExecutionCall
  nowUnix : UInt64
  returned : Option SwapSession

def Calls (policy : ShakescapeDirectSwapPolicy) (sessionId : SessionId) (store : WalletStore V)
    (event : ExecutionEvent) (store' : WalletStore V) : Prop :=
  ∃ result, event.call.perform policy sessionId event.nowUnix store = (result, store') ∧
    event.returned = (result.toOption).join

theorem calls_perform (policy : ShakescapeDirectSwapPolicy) (sessionId : SessionId)
    (call : ExecutionCall) (nowUnix : UInt64) (store : WalletStore V) :
    Calls policy sessionId store
      ⟨call, nowUnix, (call.perform policy sessionId nowUnix store).1.toOption.join⟩
      (call.perform policy sessionId nowUnix store).2 :=
  ⟨_, rfl, rfl⟩

def ExecutionEvent.Scoped (event : ExecutionEvent) : Prop :=
  ∀ lock, event.call ≠ .fund lock (some 0)

omit [Serde V PersistedSecondFundingAuthorization] in
theorem WalletStore.Loads.reopen (h : store.Loads policy sessionId hello s)
    (hcall : openShakescapeExecution store policy sessionId nowUnix = .ok (store', t)) :
    store'.Loads policy sessionId hello t := by
  obtain ⟨irreversible, hload⟩ := h.keeps.loadWorkflow
  simp only [openShakescapeExecution, ok_iff, hload, liftStore_eq_ok] at hcall
  obtain ⟨_, -, _, -, _, -, _, -, _, -, _, -, _, -, _, -, loaded, hloaded, hcall⟩ := hcall
  cases hloaded
  obtain ⟨_, -, hret⟩ := ok_bind_iff.1 hcall
  cases hret
  exact h

theorem WalletStore.Loads.calls {event : ExecutionEvent} (h : store.Loads policy sessionId hello s)
    (hcall : Calls policy sessionId store event store') (hscoped : event.Scoped) :
    ∃ t, store'.Loads policy sessionId hello t ∧ ∀ u, event.returned = some u → u = t := by
  obtain ⟨result, hperform, hreturned⟩ := hcall
  rw [hreturned]
  obtain ⟨call, nowUnix, returned⟩ := event
  cases call with
  | reopen =>
    refine h.atomically hperform fun returned hr => ?_
    obtain ⟨⟨written, t⟩, hopen, hr⟩ := map_eq_ok.1 hr
    cases hr
    exact ⟨t, h.reopen hopen, fun u hu => (Option.some.inj hu).symm⟩
  | advance step =>
    refine h.atomically hperform fun returned hr => ?_
    obtain ⟨⟨t, written⟩, hadvance, hr⟩ := map_eq_ok.1 hr
    cases hr
    exact ⟨t, h.advance hadvance, fun u hu => (Option.some.inj hu).symm⟩
  | begin module =>
    refine h.atomically hperform fun returned hr => ?_
    obtain ⟨⟨g, written⟩, hbegin, hr⟩ := map_eq_ok.1 hr
    cases hr
    obtain ⟨t, ht⟩ := h.begin hbegin
    exact ⟨t, ht, fun u hu => by cases hu⟩
  | fund lock observationGeneration =>
    have hgeneration : observationGeneration ≠ some 0 := by
      rintro rfl
      exact hscoped lock rfl
    generalize hfund : applyLocallyVerifiedShakescapeFundingInner store policy sessionId lock
      observationGeneration nowUnix = funded at hperform
    obtain ⟨r, written⟩ := funded
    simp only [ExecutionCall.perform, hfund] at hperform
    cases hperform
    obtain ⟨t, ht, hr⟩ := h.fund hgeneration hfund
    refine ⟨t, ht, fun u hu => hr u ?_⟩
    cases r with
    | error e => cases hu
    | ok r =>
      cases hu
      rfl
  | invalidate observationGeneration =>
    refine h.atomically hperform fun returned hr => ?_
    obtain ⟨⟨t, written⟩, hinvalidate, hr⟩ := map_eq_ok.1 hr
    cases hr
    exact ⟨t, h.invalidate hinvalidate, fun u hu => (Option.some.inj hu).symm⟩
  | issue module authorizationId expiresAtUnix =>
    refine h.atomically hperform fun returned hr => ?_
    obtain ⟨⟨t, written⟩, hissue, hr⟩ := map_eq_ok.1 hr
    cases hr
    exact ⟨t, h.issue hissue, fun u hu => (Option.some.inj hu).symm⟩
  | firstRedemption spend =>
    cases hperform
    exact h.firstRedemption.returned
  | secondRedemption spend =>
    cases hperform
    exact h.secondRedemption.returned
  | refund spend =>
    cases hperform
    exact h.refund.returned

omit [Serde V PersistedSecondFundingAuthorization] in
theorem loads_of_open
    (hnew : store.workflows.lookup (shakescapeExecutionWorkflowId sessionId) = none)
    (hopen : openShakescapeExecution store policy sessionId nowUnix = .ok (store', s)) :
    ∃ hello, store'.Loads policy sessionId hello s := by
  simp only [openShakescapeExecution, ok_iff, liftStore_eq_ok] at hopen
  obtain ⟨_, hload, record, rfl, hello, hhello, acceptedAt, -, _, hverify, _, -, _, -, terms,
    hterms, loaded, hloaded, hopen⟩ := hopen
  cases loaded with
  | some stored =>
    obtain ⟨-, row, -, hrow, -⟩ := loadWorkflow_eq_some.1 hloaded
    rw [hnew] at hrow
    cases hrow
  | none =>
    simp only [ok_iff, liftStore_eq_ok, not_not] at hopen
    obtain ⟨_, -, _, -, _, -, session, hsession, ⟨written, revision⟩, hsave, -, hrevision, hret⟩ :=
      hopen
    cases hret
    have hblank := (started_of_swapSessionFromAcceptedHello hsession (some terms)
      nowUnix).blank.1
    have hid : hello.swapSessionId = sessionId.bytes :=
      (loadShakescapeDirectSwap_session hload).2 hello hhello
    obtain ⟨-, hkey, -, -, rfl⟩ := saveWorkflow_eq_ok.1 hsave
    refine ⟨hello, ⟨hkey, false, ?_⟩, ?_, ?_, ?_, ?_, .of_none hblank.authorization, ?_⟩
    · rw [← hrevision]
      exact putWorkflow_lookup
    · exact (swapSessionFromAcceptedHello_id hsession).trans (congrArg SessionId.mk hid)
    · simp only [acceptedHello, ok_iff]
      refine ⟨terms, rfl, hello, DirectSwapProtocol.decode_encodeHello hterms, (), ?_, rfl⟩
      simp [hterms, hverify, hid, Except.toOption]
    · intro hrevoked
      rw [hblank.firstFundingRevoked] at hrevoked
      cases hrevoked
    · intro _ hconfirmed
      rw [hblank.confirmed] at hconfirmed
      cases hconfirmed
    · intro _ hauthorization
      rw [hblank.authorization] at hauthorization
      cases hauthorization

/-- After any calls on a newly opened execution, the execution loads, and what loads is
the session that the row holds and that the last call returned: provided that no call
confirms the first lock at generation zero. -/
theorem executions_load_again {store₀ : WalletStore V} {s₀ : SwapSession} {openedAt : UInt64}
    {events : List ExecutionEvent}
    (hnew : store.workflows.lookup (shakescapeExecutionWorkflowId sessionId) = none)
    (hopen : openShakescapeExecution store policy sessionId openedAt = .ok (store₀, s₀))
    (hrun : Run (Calls policy sessionId) store₀ events store')
    (hscoped : ∀ event ∈ events, event.Scoped) :
    ∃ s, store'.Holds (shakescapeExecutionWorkflowId sessionId) s ∧
      loadShakescapeExecution store' policy sessionId = .ok (some s) ∧
      (events = [] → s = s₀) ∧
      ∀ event, events.getLast? = some event → ∀ r, event.returned = some r → r = s := by
  obtain ⟨hello, hloads₀⟩ := loads_of_open hnew hopen
  -- The invariant is carried along the run; what a call returned is read off its own step.
  have hloads : ∀ {ls : List ExecutionEvent} {σ : WalletStore V},
      Run (Calls policy sessionId) store₀ ls σ → (∀ event ∈ ls, event.Scoped) →
      ∃ s, σ.Loads policy sessionId hello s ∧ (ls = [] → s = s₀) ∧
        ∀ event, ls.getLast? = some event → ∀ r, event.returned = some r → r = s := by
    intro ls σ hrun
    induction hrun with
    | refl => exact fun _ => ⟨s₀, hloads₀, fun _ => rfl, fun event he => by cases he⟩
    | @snoc ls l t u _ hstep ih =>
      intro hall
      obtain ⟨s, hs, -, -⟩ := ih fun event he => hall event (List.mem_append_left _ he)
      obtain ⟨s', hs', hreturned⟩ := hs.calls hstep (hall l (by simp))
      refine ⟨s', hs', fun hnil => absurd hnil (by simp), fun event hevent r hr => ?_⟩
      rw [List.getLast?_concat] at hevent
      cases hevent
      exact hreturned r hr
  obtain ⟨s, hs, hnil, hlast⟩ := hloads hrun hscoped
  exact ⟨s, hs.keeps.holds, hs.load, hnil, hlast⟩

end Loads

namespace Sample

def firstLock : VerifiedLock where
  module := .handshake
  sessionId := sessionId
  fundingId := .replicate 32 9
  amount := ⟨.hns, agreement.offeredAmount⟩
  hashlock := ⟨hashlock⟩
  absoluteTimelock := 1700020224
  confirmationCount := 2
  evidenceHash := ⟨.replicate 32 13⟩

def firstLockDigest : List UInt8 × Bytes 32 :=
  (verifiedShakescapeFundingDomain ++ [0] ++ firstLock.fundingId.toList ++
      firstLock.evidenceHash.bytes.toList,
    .ofNat 32 0xcd04748dff64893b3e9d64c928bea6da936f30bde2ae7c8b4233ffe5d28ad2c7)

@[reducible] def lockSha256 : Sha256 where
  digest input := ((firstLockDigest :: digests).lookup input).getD (.replicate 32 0)

attribute [local instance] lockSha256 keys bitcoin protocol

def signedStore : WalletStore Value :=
  { takerStore with workflows := ∅ }

def openedAt : UInt64 := 1700000110

def openedStore : WalletStore Value :=
  signedStore.putWorkflow (shakescapeExecutionWorkflowId sessionId)
    ⟨.atomicSwap, 1, .session { opened with lastVerifiedAtUnix := openedAt }, false, openedAt⟩

set_option maxRecDepth 4000 in
theorem openedStore_eq : openShakescapeExecution signedStore policy sessionId openedAt =
    .ok (openedStore, { opened with lastVerifiedAtUnix := openedAt }) := by
  rfl

def eventOf (store : WalletStore Value) (call : ExecutionCall) (nowUnix : UInt64) :
    ExecutionEvent :=
  ⟨call, nowUnix, (call.perform policy sessionId nowUnix store).1.toOption.join⟩

def afterCall (store : WalletStore Value) (call : ExecutionCall) (nowUnix : UInt64) :
    WalletStore Value :=
  (call.perform policy sessionId nowUnix store).2

theorem calls_afterCall (store : WalletStore Value) (call : ExecutionCall) (nowUnix : UInt64) :
    Calls policy sessionId store (eventOf store call nowUnix) (afterCall store call nowUnix) :=
  calls_perform policy sessionId call nowUnix store

def validatedStore : WalletStore Value :=
  afterCall openedStore (.advance .refundsValidated) 1700000120

def pendingStore : WalletStore Value :=
  afterCall validatedStore (.advance .fundingReady) 1700000120

def readStore : WalletStore Value :=
  afterCall pendingStore (.begin .handshake) 1700000200

theorem pending_run : Run (Calls policy sessionId) openedStore
    [eventOf openedStore (.advance .refundsValidated) 1700000120,
      eventOf validatedStore (.advance .fundingReady) 1700000120] pendingStore :=
  .cons (calls_afterCall _ _ _) (.single (calls_afterCall _ _ _))

set_option maxRecDepth 4000 in
theorem executions_load_again_sample :
    openShakescapeExecution signedStore policy sessionId openedAt =
        .ok (openedStore, { opened with lastVerifiedAtUnix := openedAt }) ∧
      Run (Calls policy sessionId) openedStore
        [eventOf openedStore (.advance .refundsValidated) 1700000120,
          eventOf validatedStore (.advance .fundingReady) 1700000120,
          eventOf pendingStore (.begin .handshake) 1700000200,
          eventOf readStore (.fund (.hns firstLock) (some 1)) 1700000201]
        (afterCall readStore (.fund (.hns firstLock) (some 1)) 1700000201) ∧
      ∃ s, s.firstFunding.isSome ∧ s.firstFundingConfirmedGeneration = some 1 ∧
        loadShakescapeExecution (afterCall readStore (.fund (.hns firstLock) (some 1)) 1700000201)
          policy sessionId = .ok (some s) := by
  have hrun := pending_run.trans (.cons (calls_afterCall pendingStore (.begin .handshake)
    1700000200)
    (.single (calls_afterCall readStore (.fund (.hns firstLock) (some 1)) 1700000201)))
  refine ⟨openedStore_eq, hrun, ?_⟩
  obtain ⟨s, -, hload, -, hlast⟩ := executions_load_again rfl openedStore_eq hrun (by
    intro event hevent lock hcall
    simp only [List.mem_append, List.mem_cons, List.not_mem_nil, or_false] at hevent
    rcases hevent with (rfl | rfl) | rfl | rfl
    all_goals cases hcall)
  cases hlast _ rfl _ rfl
  exact ⟨_, rfl, rfl, hload⟩

set_option maxRecDepth 4000 in
/-- Without a read, the confirmation at generation zero is accepted too, and the row no
longer loads. -/
theorem confirmation_at_zero_does_not_load :
    openShakescapeExecution signedStore policy sessionId openedAt =
        .ok (openedStore, { opened with lastVerifiedAtUnix := openedAt }) ∧
      Run (Calls policy sessionId) openedStore
        [eventOf openedStore (.advance .refundsValidated) 1700000120,
          eventOf validatedStore (.advance .fundingReady) 1700000120,
          eventOf pendingStore (.fund (.hns firstLock) (some 0)) 1700000201]
        (afterCall pendingStore (.fund (.hns firstLock) (some 0)) 1700000201) ∧
      (eventOf pendingStore (.fund (.hns firstLock) (some 0)) 1700000201).returned.isSome ∧
      loadShakescapeExecution
        (afterCall pendingStore (.fund (.hns firstLock) (some 0)) 1700000201) policy sessionId =
          .error .shakescapeDirectSwapConflict :=
  ⟨openedStore_eq, pending_run.trans (.single (calls_afterCall _ _ _)), rfl, rfl⟩

end Sample

end HnsWallet
