import HnsWallet.Market.Reload

/-! # Settlement calls resume -/

namespace HnsWallet

open Lib WalletStore SwapSession

def SwapSession.seenAt (s : SwapSession) (now : UInt64) : SwapSession :=
  { s with lastVerifiedAtUnix := now }

def VerifiedEvidence.settling : VerifiedEvidence → Bool
  | .secondFundingReady | .secondFundingConfirmed _ | .firstRedemptionConfirmed _
  | .secretExtracted _ | .secondRedemptionConfirmed _ | .completionValidated => true
  | _ => false

theorem SwapSession.Step.seenAt {s t : SwapSession} {e : VerifiedEvidence} {now : UInt64}
    (h : s.Step e now t) (he : e.settling) (was now' : UInt64) :
    (s.seenAt was).Step e now' (t.seenAt now') := by
  cases h with
  | secondFundingReady hs => exact .secondFundingReady hs
  | secondFundingConfirmed hs => exact .secondFundingConfirmed hs
  | firstRedemptionConfirmed hs hsf hr hfr => exact .firstRedemptionConfirmed hs hsf hr hfr
  | secretExtracted hs => exact .secretExtracted hs
  | secondRedemptionConfirmed hs => exact .secondRedemptionConfirmed hs
  | completionValidated hs => exact .completionValidated hs
  | _ => cases he

def SwapSession.RowsFit (V : Type) [Encoded V] [Serde V SwapSession] (s : SwapSession) : Prop :=
  ∀ t, s.SameTerms t → t.failureReason = s.failureReason →
    Encoded.length (Serde.toVec t : V) ≠ 0 ∧ Encoded.length (Serde.toVec t : V) ≤ maxStateBytes

section Stores

variable {V : Type} {updatedAt expected : UInt64} {irreversible : Bool}

structure WalletStore.Alike (workflowId : WorkflowId) (sessionId : SessionId)
    (store store' : WalletStore V) : Prop where
  unlocked : store'.unlocked = store.unlocked
  revision : store'.authenticatedWorkflowRevision workflowId .atomicSwap =
    store.authenticatedWorkflowRevision workflowId .atomicSwap
  authorization : store'.authorizationRow sessionId = store.authorizationRow sessionId

theorem WalletStore.Alike.refl (workflowId : WorkflowId) (sessionId : SessionId)
    (store : WalletStore V) : Alike workflowId sessionId store store :=
  ⟨rfl, rfl, rfl⟩

theorem WalletStore.Alike.putWorkflow {workflowId : WorkflowId} {sessionId : SessionId}
    {store store' : WalletStore V} (h : Alike workflowId sessionId store store')
    {revision updatedAt' : UInt64} {value value' : V} {irreversible' : Bool} :
    Alike workflowId sessionId
      (store.putWorkflow workflowId ⟨.atomicSwap, revision, value, irreversible, updatedAt⟩)
      (store'.putWorkflow workflowId ⟨.atomicSwap, revision, value', irreversible',
        updatedAt'⟩) := by
  refine ⟨h.unlocked, ?_, h.authorization⟩
  simp only [WalletStore.authenticatedWorkflowRevision, putWorkflow_lookup]

theorem WalletStore.Alike.dropAuthorization {workflowId : WorkflowId} {sessionId : SessionId}
    {store store' : WalletStore V} (h : Alike workflowId sessionId store store') :
    Alike workflowId sessionId
      (store.dropEntity .swapFundingAuthorization (secondFundingAuthorizationEntityId sessionId))
      (store'.dropEntity .swapFundingAuthorization
        (secondFundingAuthorizationEntityId sessionId)) :=
  ⟨h.unlocked, h.revision, by rw [authorizationRow_dropEntity, authorizationRow_dropEntity]⟩

variable [Serde V PersistedSecondFundingAuthorization]

theorem WalletStore.Alike.loadAuthorization {workflowId : WorkflowId} {sessionId : SessionId}
    {store store' : WalletStore V} (h : Alike workflowId sessionId store store') :
    store'.loadEntity PersistedSecondFundingAuthorization .swapFundingAuthorization
        (secondFundingAuthorizationEntityId sessionId) =
      store.loadEntity PersistedSecondFundingAuthorization .swapFundingAuthorization
        (secondFundingAuthorizationEntityId sessionId) := by
  have hrow := h.authorization
  unfold WalletStore.authorizationRow at hrow
  unfold WalletStore.loadEntity WalletStore.requireKey
  rw [h.unlocked, hrow]

variable [Encoded V] [Serde V SwapSession] {workflowId : WorkflowId}
  {sessionId : SessionId} {store store' : WalletStore V}

theorem WalletStore.saveWorkflowWithEntityBatch_delete {state : SwapSession} {next : UInt64}
    {delete : EntityBatchDelete} :
    store.saveWorkflowWithEntityBatch workflowId .atomicSwap expected state irreversible updatedAt
        .swapFundingAuthorization
        ([] : List (EntityBatchSave PersistedSecondFundingAuthorization)) [delete] =
          .ok (store', next) ↔
      Encoded.length (Serde.toVec state : V) ≠ 0 ∧
      Encoded.length (Serde.toVec state : V) ≤ maxStateBytes ∧
      validateId delete.id = .ok () ∧ delete.expectedRevision ≠ 0 ∧ store.unlocked ∧
      store.authenticatedWorkflowRevision workflowId .atomicSwap = .ok expected ∧
      store.entityRevision .swapFundingAuthorization delete.id = delete.expectedRevision ∧
      next.toNat = expected.toNat + 1 ∧
      store' = (store.dropEntity .swapFundingAuthorization delete.id).putWorkflow workflowId
        ⟨.atomicSwap, next, Serde.toVec state, irreversible, updatedAt⟩ := by
  simp only [saveWorkflowWithEntityBatch, prepareEntityBatch, prepareSaves, prepareDeletes, ok_iff,
    requireKey_eq_ok, requireRevision_eq_ok, nextRevision_eq_ok, not_or, not_lt]
  constructor
  · rintro ⟨-, ⟨hempty, hlen⟩, prepared, ⟨-, -, ⟨seen, saves⟩, hsaves, -,
      ⟨⟨⟩, hid, -, ⟨hrev, -⟩, -⟩,
      hprepared⟩, -, hkey, actual, hactual, -, rfl, written, hwritten, n, hn, hret⟩
    cases hsaves
    cases hprepared
    cases hret
    obtain ⟨-, hrow, rfl⟩ := applyEntityBatch_delete_eq_ok.1 hwritten
    exact ⟨hempty, hlen, hid, hrev, hkey, hactual, hrow, hn, rfl⟩
  · rintro ⟨hempty, hlen, hid, hrev, hkey, hactual, hrow, hn, rfl⟩
    exact ⟨(), ⟨hempty, hlen⟩, [], ⟨(), by simp [maxEntityBatchOperations], ([], []), rfl, (),
      ⟨(), hid, (), ⟨hrev, by simp⟩, trivial⟩, rfl⟩, (), hkey, expected, hactual, (), rfl, _,
      applyEntityBatch_delete_eq_ok.2 ⟨rfl, hrow, rfl⟩, next, hn, rfl⟩

variable [Sha256]

theorem WalletStoreJournal.save_alike (session : SwapSession) {now : UInt64} (now' : UInt64)
    {journal : WalletStoreJournal V} (halike : WalletStore.Alike workflowId session.id store store')
    (hauthorization : session.secondFundingAuthorization = none)
    (hterms : session.acceptedShakescapeTerms.isSome)
    (hfits : Encoded.length (Serde.toVec (session.seenAt now') : V) ≠ 0 ∧
      Encoded.length (Serde.toVec (session.seenAt now') : V) ≤ maxStateBytes)
    (h : (⟨store, workflowId, now⟩ : WalletStoreJournal V).save session expected = .ok journal) :
    ∃ journal', (⟨store', workflowId, now'⟩ : WalletStoreJournal V).save (session.seenAt now')
        expected = .ok journal' ∧
      WalletStore.Alike workflowId session.id journal.store journal'.store := by
  obtain ⟨terms, hterms⟩ := Option.isSome_iff_exists.1 hterms
  have hterms' : (session.seenAt now').acceptedShakescapeTerms = some terms := hterms
  simp only [save, hterms, ok_iff, liftStore_eq_ok, not_not] at h
  obtain ⟨-, hid, stored, hstored, ⟨⟩, hprevious, ⟨saves, deletes⟩, hwrites, ⟨written, next⟩,
    hcommit, -, rfl, hret⟩ := h
  cases hret
  -- The writes are decided by the authorization row alone.
  have hwrites' : authorizationWrites (session.seenAt now')
      (secondFundingAuthorizationEntityId session.id) now' stored = .ok (saves, deletes) := by
    unfold authorizationWrites at hwrites ⊢
    rw [hauthorization] at hwrites
    rw [show (session.seenAt now').secondFundingAuthorization = none from hauthorization]
    cases stored <;> exact hwrites
  have hcommit' : ∃ written', (if saves = [] ∧ deletes = [] then
        store'.saveWorkflow workflowId .atomicSwap expected (session.seenAt now')
          session.state.irreversible now'
      else
        store'.saveWorkflowWithEntityBatch workflowId .atomicSwap expected (session.seenAt now')
          session.state.irreversible now' .swapFundingAuthorization saves deletes) =
        .ok (written', session.revision) ∧
      WalletStore.Alike workflowId session.id written written' := by
    rcases authorizationWrites_eq_ok hwrites with
      ⟨a, _, _, ha, -⟩ | ⟨-, rfl, rfl, -⟩ | ⟨-, rfl, row, hrow, -, rfl⟩
    · rw [hauthorization] at ha
      cases ha
    · rw [if_pos ⟨rfl, rfl⟩] at hcommit ⊢
      obtain ⟨-, hkey, hfound, hnext, rfl⟩ := saveWorkflow_eq_ok.1 hcommit
      exact ⟨_, saveWorkflow_eq_ok.2 ⟨hfits.2, halike.unlocked.trans hkey,
        halike.revision.trans hfound, hnext, rfl⟩, halike.putWorkflow⟩
    · rw [if_neg (by simp)] at hcommit ⊢
      obtain ⟨-, -, hvalid, hrev, hkey, hfound, hentity, hnext, rfl⟩ :=
        saveWorkflowWithEntityBatch_delete.1 hcommit
      refine ⟨_, saveWorkflowWithEntityBatch_delete.2 ⟨hfits.1, hfits.2, hvalid, hrev,
        halike.unlocked.trans hkey, halike.revision.trans hfound, ?_, hnext, rfl⟩,
        halike.dropAuthorization.putWorkflow⟩
      have hrow := halike.authorization
      unfold WalletStore.authorizationRow at hrow
      unfold WalletStore.entityRevision at hentity ⊢
      rw [hrow]
      exact hentity
  obtain ⟨written', hcommit', halike'⟩ := hcommit'
  refine ⟨⟨written', workflowId, now'⟩, ?_, halike'⟩
  simp only [save, hterms', ok_iff, liftStore_eq_ok, not_not]
  exact ⟨(), hid, stored, halike.loadAuthorization.trans hstored, (), hprevious, _, hwrites', _,
    hcommit', (), rfl, rfl⟩

theorem Journals.alike {s t : SwapSession} {e : VerifiedEvidence} {now now' was : UInt64}
    {written : WalletStore V} (halike : WalletStore.Alike workflowId s.id store store')
    (he : e.settling) (hterms : s.acceptedShakescapeTerms.isSome)
    (hauthorization : t.secondFundingAuthorization = none)
    (hfits : Encoded.length (Serde.toVec (t.seenAt now') : V) ≠ 0 ∧
      Encoded.length (Serde.toVec (t.seenAt now') : V) ≤ maxStateBytes)
    (h : Journals workflowId now (store, s) e (written, t)) :
    ∃ written', Journals workflowId now' (store', s.seenAt was) e (written', t.seenAt now') ∧
      WalletStore.Alike workflowId s.id written written' := by
  obtain ⟨next, revision, hstep, hrevision, rfl, hsave⟩ := apply_eq_ok.1 h
  have hsame := hstep.sameTerms
  have hid : next.id = s.id := hsame.id
  obtain ⟨journal', hsave', halike'⟩ := WalletStoreJournal.save_alike
    { next with revision } now'
    (by rw [← hid] at halike; exact halike) hauthorization
    (by rw [← hsame.acceptedShakescapeTerms] at hterms; exact hterms) hfits hsave
  refine ⟨journal'.store, ?_, by rw [← hid]; exact halike'⟩
  refine journals_of_apply (apply_eq_ok.2 ⟨next.seenAt now', revision,
    hstep.seenAt he was now', hrevision, rfl, hsave'⟩)

end Stores

abbrev Choice := SwapSession → Option VerifiedEvidence

def Spent (choices : List Choice) (s : SwapSession) : Prop :=
  ∀ choose ∈ choices, choose s = none

theorem Spent.append {pre post : List Choice} {s : SwapSession} (hpre : Spent pre s)
    (hpost : Spent post s) : Spent (pre ++ post) s := by
  intro choose hmem
  rcases List.mem_append.1 hmem with h | h
  · exact hpre choose h
  · exact hpost choose h

section Choices

variable [Sha256] {V : Type} [Encoded V] [Serde V SwapSession]
  [Serde V PersistedSecondFundingAuthorization]

structure Resumable (workflowId : WorkflowId) (choices : List Choice)
    (Good : WalletStore V → SwapSession → Prop) : Prop where
  settling : ∀ {choose s e}, choose ∈ choices → choose s = some e → e.settling
  timeless : ∀ {choose}, choose ∈ choices → ∀ s now, choose (s.seenAt now) = choose s
  terms : ∀ {store s}, Good store s → s.acceptedShakescapeTerms.isSome
  step : ∀ {store s choose e now store' t}, Good store s → choose ∈ choices →
    choose s = some e → Journals workflowId now (store, s) e (store', t) → Good store' t
  quiet : ∀ {store s choose e now store' t}, Good store s → choose ∈ choices →
    choose s = some e → Journals workflowId now (store, s) e (store', t) →
    t.secondFundingAuthorization = none
  fits : ∀ {store s}, Good store s → ∀ now,
    Encoded.length (Serde.toVec (s.seenAt now) : V) ≠ 0 ∧
      Encoded.length (Serde.toVec (s.seenAt now) : V) ≤ maxStateBytes
  spends : ∀ {pre choose post store s e now store' t}, choices = pre ++ choose :: post →
    Good store s → Spent pre s → choose s = some e →
    Journals workflowId now (store, s) e (store', t) → Spent (pre ++ [choose]) t

variable {workflowId : WorkflowId} {store store' : WalletStore V} {s t : SwapSession}
  {now : UInt64} {choices pre post : List Choice} {choose : Choice} {rest : List Choice}

theorem journalEach_spent (h : Spent pre s) :
    journalEach workflowId now store s (pre ++ post) = journalEach workflowId now store s post := by
  induction pre with
  | nil => rfl
  | cons choose pre ih =>
    rw [List.cons_append, journalEach, h choose List.mem_cons_self]
    exact ih fun c hc => h c (List.mem_cons_of_mem _ hc)

theorem journalEach_done (h : Spent choices s) :
    journalEach workflowId now store s choices = ⟨.ok s, []⟩ := by
  have hskip : journalEach workflowId now store s (choices ++ []) =
      journalEach workflowId now store s [] := journalEach_spent h
  rw [List.append_nil] at hskip
  exact hskip

theorem journalEach_cons_of_journals {e : VerifiedEvidence} {u : SwapSession}
    {written : WalletStore V} (hchoose : choose s = some e)
    (h : Journals workflowId now (store, s) e (written, u)) :
    journalEach workflowId now store s (choose :: rest) =
      ⟨(journalEach workflowId now written u rest).result,
        written :: (journalEach workflowId now written u rest).writes⟩ := by
  have happly : s.apply e now (⟨store, workflowId, now⟩ : WalletStoreJournal V) =
      .ok (u, ⟨written, workflowId, now⟩) := h
  rw [journalEach, hchoose]
  simp only [happly]

theorem journalEach_cons_ok
    (h : (journalEach workflowId now store s (choose :: rest)).result = .ok t) :
    (choose s = none ∧ journalEach workflowId now store s (choose :: rest) =
      journalEach workflowId now store s rest) ∨
    ∃ e u written, choose s = some e ∧ Journals workflowId now (store, s) e (written, u) ∧
      journalEach workflowId now store s (choose :: rest) =
        ⟨(journalEach workflowId now written u rest).result,
          written :: (journalEach workflowId now written u rest).writes⟩ := by
  cases hchoose : choose s with
  | none =>
    refine .inl ⟨rfl, ?_⟩
    rw [journalEach, hchoose]
  | some e =>
    rw [journalEach, hchoose] at h
    cases happly : s.apply e now (⟨store, workflowId, now⟩ : WalletStoreJournal V) with
    | error e =>
      simp only [happly] at h
      cases h
    | ok r =>
      obtain ⟨u, journal⟩ := r
      have hstep := journals_of_apply happly
      exact .inr ⟨e, u, journal.store, rfl, hstep, journalEach_cons_of_journals hchoose hstep⟩

namespace Resumable

variable {Good : WalletStore V → SwapSession → Prop}

section

variable (h : Resumable workflowId choices Good)
include h

theorem alike (hpost : ∀ choose ∈ post, choose ∈ choices) (hgood : Good store s)
    (halike : WalletStore.Alike workflowId s.id store store') (was now' : UInt64)
    (hok : (journalEach workflowId now store s post).result = .ok t) :
    ∃ seen, (journalEach workflowId now' store' (s.seenAt was) post).result =
      .ok (t.seenAt seen) := by
  induction post generalizing store store' s was with
  | nil =>
    cases hok
    exact ⟨was, rfl⟩
  | cons choose rest ih =>
    have hmem := hpost choose List.mem_cons_self
    have hrest : ∀ c ∈ rest, c ∈ choices := fun c hc => hpost c (List.mem_cons_of_mem _ hc)
    rcases journalEach_cons_ok hok with ⟨hnone, heq⟩ | ⟨e, u, written, hsome, hstep, heq⟩
    · rw [heq] at hok
      obtain ⟨seen, hseen⟩ := ih hrest hgood halike was hok
      have hnone' : choose (s.seenAt was) = none := (h.timeless hmem s was).trans hnone
      refine ⟨seen, ?_⟩
      rw [journalEach, hnone']
      exact hseen
    · rw [heq] at hok
      have hgood' := h.step hgood hmem hsome hstep
      obtain ⟨written', hstep', halike'⟩ := Journals.alike halike (h.settling hmem hsome)
        (h.terms hgood) (h.quiet hgood hmem hsome hstep) (h.fits hgood' now') hstep
      have hid : u.id = s.id := by
        obtain ⟨next, revision, hrule, -, rfl, -⟩ := apply_eq_ok.1 hstep
        exact hrule.sameTerms.id
      rw [← hid] at halike'
      obtain ⟨seen, hseen⟩ := ih hrest hgood' halike' now' hok
      have hsome' : choose (s.seenAt was) = some e := (h.timeless hmem s was).trans hsome
      exact ⟨seen, by rw [journalEach_cons_of_journals hsome' hstep']; exact hseen⟩

section

variable (hsplit : choices = pre ++ post) (hgood : Good store s) (hspent : Spent pre s)
  (hok : (journalEach workflowId now store s post).result = .ok t)
include hsplit hgood hspent hok

theorem stops (hstop : store' ∈ store :: (journalEach workflowId now store s post).writes) :
    ∃ pre' post' u, choices = pre' ++ post' ∧ Good store' u ∧ Spent pre' u ∧
      (journalEach workflowId now store' u post').result = .ok t := by
  induction post generalizing store s pre with
  | nil =>
    rcases List.mem_cons.1 hstop with rfl | hstop
    · exact ⟨pre, [], s, hsplit, hgood, hspent, hok⟩
    · cases hstop
  | cons choose rest ih =>
    have hsplit' : choices = (pre ++ [choose]) ++ rest := by simp [hsplit]
    have hmem : choose ∈ choices := by simp [hsplit]
    rcases journalEach_cons_ok hok with ⟨hnone, heq⟩ | ⟨e, u, written, hsome, hstep, heq⟩
    · rw [heq] at hok hstop
      exact ih hsplit' hgood (hspent.append (by simpa [Spent] using hnone)) hok hstop
    · rcases List.mem_cons.1 hstop with rfl | hstop
      · exact ⟨pre, choose :: rest, s, hsplit, hgood, hspent, hok⟩
      · rw [heq] at hok hstop
        exact ih hsplit' (h.step hgood hmem hsome hstep)
          (h.spends hsplit hgood hspent hsome hstep) hok hstop

theorem final :
    Good ((journalEach workflowId now store s post).final store) t ∧ Spent choices t := by
  induction post generalizing store s pre with
  | nil =>
    cases hok
    rw [List.append_nil] at hsplit
    exact ⟨hgood, hsplit ▸ hspent⟩
  | cons choose rest ih =>
    have hsplit' : choices = (pre ++ [choose]) ++ rest := by simp [hsplit]
    have hmem : choose ∈ choices := by simp [hsplit]
    rcases journalEach_cons_ok hok with ⟨hnone, heq⟩ | ⟨e, u, written, hsome, hstep, heq⟩
    · rw [heq] at hok ⊢
      exact ih hsplit' hgood (hspent.append (by simpa [Spent] using hnone)) hok
    · rw [heq] at hok ⊢
      rw [Call.final, List.getLastD_cons]
      exact ih hsplit' (h.step hgood hmem hsome hstep)
        (h.spends hsplit hgood hspent hsome hstep) hok

end

theorem resume (hgood : Good store s)
    (hok : (journalEach workflowId now store s choices).result = .ok t)
    (hstop : store' ∈ store :: (journalEach workflowId now store s choices).writes)
    (now' : UInt64) :
    ∃ u seen, Good store' u ∧
      (journalEach workflowId now' store' u choices).result = .ok (t.seenAt seen) ∧
      Good ((journalEach workflowId now' store' u choices).final store') (t.seenAt seen) ∧
      Spent choices (t.seenAt seen) := by
  have hnone : Spent [] s := fun c hc => by cases hc
  obtain ⟨pre, post, u, hsplit, hgood', hspent, hrest⟩ :=
    h.stops (List.nil_append choices).symm hgood hnone hok hstop
  obtain ⟨seen, hseen⟩ := h.alike (fun c hc => hsplit ▸ List.mem_append_right _ hc) hgood'
    (.refl workflowId u.id store') u.lastVerifiedAtUnix now' hrest
  have hfinal := h.final hsplit hgood' hspent hseen
  have hskip : journalEach workflowId now' store' u choices =
      journalEach workflowId now' store' u post := by
    rw [hsplit, journalEach_spent hspent]
  refine ⟨u, seen, hgood', ?_, ?_, hfinal.2⟩
  · rw [hskip]
    exact hseen
  · rw [hskip]
    exact hfinal.1

end

end Resumable

end Choices

def WalletStore.storedPreimage {V : Type} (store : WalletStore V) (sessionId : SessionId) :
    Option (List UInt8) :=
  (store.secrets.lookup (shakescapeObservedPreimageId sessionId)).map SecretRow.value

section Resumes

variable [Sha256] {V : Type} [Serde V SwapSession]

def ResumesFrom (call : UInt64 → WalletStore V → Call V) (sessionId : SessionId)
    (store : WalletStore V) (now : UInt64) (t : SwapSession) (stop : WalletStore V)
    (now' : UInt64) : Prop :=
  ∃ seen, (call now' stop).result = .ok (t.seenAt seen) ∧
    ((call now' stop).final stop).Holds (shakescapeExecutionWorkflowId sessionId)
      (t.seenAt seen) ∧
    ((call now store).final store).Holds (shakescapeExecutionWorkflowId sessionId) t ∧
    ((call now' stop).final stop).storedPreimage sessionId =
      ((call now store).final store).storedPreimage sessionId ∧
    ∀ later, call later ((call now' stop).final stop) = ⟨.ok (t.seenAt seen), []⟩

variable [Encoded V] [Serde V PersistedSecondFundingAuthorization]
  {sessionId : SessionId} {choices : List Choice} {Good : WalletStore V → SwapSession → Prop}
  {store stop : WalletStore V} {s t : SwapSession} {now : UInt64}

theorem Resumable.resumes (h : Resumable (shakescapeExecutionWorkflowId sessionId) choices Good)
    {call : UInt64 → WalletStore V → Call V} {preimage : Option (List UInt8)}
    (hcall : ∀ {store s}, Good store s → ∀ now, call now store =
      journalEach (shakescapeExecutionWorkflowId sessionId) now store s choices)
    (hheld : ∀ {store s}, Good store s →
      store.Holds (shakescapeExecutionWorkflowId sessionId) s ∧
        store.storedPreimage sessionId = preimage)
    (hgood : Good store s) (hok : (call now store).result = .ok t)
    (hstop : stop ∈ store :: (call now store).writes) (now' : UInt64) :
    ResumesFrom call sessionId store now t stop now' := by
  rw [hcall hgood now] at hok hstop
  obtain ⟨u, seen, hgood', hresult, hfinal, hspent⟩ := h.resume hgood hok hstop now'
  have hnone : Spent [] s := fun c hc => by cases hc
  have hfirst := (h.final (List.nil_append choices).symm hgood hnone hok).1
  refine ⟨seen, ?_, ?_, ?_, ?_, fun later => ?_⟩
  · rw [hcall hgood']
    exact hresult
  · rw [hcall hgood']
    exact (hheld hfinal).1
  · rw [hcall hgood]
    exact (hheld hfirst).1
  · rw [hcall hgood', hcall hgood, (hheld hfinal).2, (hheld hfirst).2]
  · rw [hcall hgood', hcall hfinal]
    exact journalEach_done hspent

end Resumes

section Settling

variable {s t : SwapSession} {e : VerifiedEvidence} {now : UInt64}

theorem SwapSession.Step.failureReason_of_settling (h : s.Step e now t) (he : e.settling) :
    t.failureReason = s.failureReason := by
  cases h with
  | secondFundingReady => rfl
  | secondFundingConfirmed => rfl
  | firstRedemptionConfirmed => rfl
  | secretExtracted => rfl
  | secondRedemptionConfirmed => rfl
  | completionValidated => rfl
  | _ => cases he

theorem VerifiedEvidence.admissible_of_settling (he : e.settling) (hello : SwapSessionHello) :
    e.Admissible hello := by
  cases e <;> trivial

structure SwapSession.Continues (s u : SwapSession) : Prop where
  sameTerms : s.SameTerms u
  failureReason : u.failureReason = s.failureReason

theorem SwapSession.Continues.refl (s : SwapSession) : s.Continues s :=
  ⟨.refl s, rfl⟩

theorem SwapSession.Continues.fits {V : Type} [Encoded V] [Serde V SwapSession]
    (hs : s.Continues t) (hfits : s.RowsFit V) (seen : UInt64) :
    Encoded.length (Serde.toVec (t.seenAt seen) : V) ≠ 0 ∧
      Encoded.length (Serde.toVec (t.seenAt seen) : V) ≤ maxStateBytes :=
  hfits (t.seenAt seen) { hs.sameTerms with } hs.failureReason

variable [Sha256] {V : Type} [Encoded V] [Serde V SwapSession]
  [Serde V PersistedSecondFundingAuthorization] {workflowId : WorkflowId}
  {store store' : WalletStore V}

theorem Journals.saved (h : Journals workflowId now (store, s) e (store', t))
    (hterms : s.acceptedShakescapeTerms.isSome) :
    ∃ next revision, s.Step e now next ∧ t = { next with revision } ∧
      Saved (⟨store, workflowId, now⟩ : WalletStoreJournal V) ⟨store', workflowId, now⟩ t
        s.revision := by
  obtain ⟨next, revision, hstep, -, rfl, hsave⟩ := apply_eq_ok.1 h
  refine ⟨next, revision, hstep, rfl, WalletStoreJournal.saved ?_ hsave⟩
  rw [← hstep.sameTerms.acceptedShakescapeTerms] at hterms
  exact hterms

theorem SwapSession.Continues.journals {s₁ : SwapSession} (hs : s₁.Continues s)
    (he : e.settling) (h : Journals workflowId now (store, s) e (store', t)) :
    s₁.Continues t := by
  obtain ⟨next, revision, hstep, -, rfl, -⟩ := apply_eq_ok.1 h
  have hsame := hs.sameTerms.trans hstep.sameTerms
  exact ⟨{ hsame with }, (hstep.failureReason_of_settling he).trans hs.failureReason⟩

end Settling

variable {first second : Choice} {Fits : SwapSession → Prop}

theorem split_pair {choose : Choice} {pre post : List Choice}
    (h : [first, second] = pre ++ choose :: post) :
    (pre = [] ∧ choose = first) ∨ (pre = [first] ∧ choose = second) := by
  rcases pre with _ | ⟨p, _ | ⟨q, pre⟩⟩
  · simp only [List.nil_append, List.cons.injEq] at h
    exact .inl ⟨rfl, h.1.symm⟩
  · simp only [List.cons_append, List.nil_append, List.cons.injEq] at h
    exact .inr ⟨by rw [h.1], h.2.1.symm⟩
  · simp at h

structure PairSettles (first second : Choice) (Fits : SwapSession → Prop) : Prop where
  settling : ∀ {choose s e}, choose ∈ [first, second] → choose s = some e → e.settling
  timeless : ∀ {choose}, choose ∈ [first, second] → ∀ s now, choose (s.seenAt now) = choose s
  step : ∀ {choose s e now next}, Fits s → choose ∈ [first, second] → choose s = some e →
    s.Step e now next → ∀ revision, Fits { next with revision } ∧
      next.secondFundingAuthorization = none ∧ first { next with revision } = none ∧
      (first s = none → second { next with revision } = none)

theorem PairSettles.of_conditions {p q : SwapSession → Prop} [DecidablePred p] [DecidablePred q]
    {a b : SwapSession → VerifiedEvidence} (hsettling : ∀ s, (a s).settling ∧ (b s).settling)
    (htimeless : ∀ s now, (p (s.seenAt now) ↔ p s) ∧ (q (s.seenAt now) ↔ q s) ∧
      a (s.seenAt now) = a s ∧ b (s.seenAt now) = b s)
    (hfirst : ∀ {s now next}, Fits s → p s → s.Step (a s) now next → ∀ revision,
      Fits { next with revision } ∧ next.secondFundingAuthorization = none ∧
        ¬ p { next with revision })
    (hsecond : ∀ {s now next}, Fits s → q s → s.Step (b s) now next → ∀ revision,
      Fits { next with revision } ∧ next.secondFundingAuthorization = none ∧
        ¬ p { next with revision } ∧ (¬ p s → ¬ q { next with revision })) :
    PairSettles (fun s => if p s then some (a s) else none)
      (fun s => if q s then some (b s) else none)
      Fits where
  settling hmem hsome := by
    simp only [List.mem_cons, List.not_mem_nil, or_false] at hmem
    rcases hmem with rfl | rfl
    all_goals
      simp only [Option.ite_none_right_eq_some, Option.some.injEq] at hsome
      obtain ⟨-, rfl⟩ := hsome
    · exact (hsettling _).1
    · exact (hsettling _).2
  timeless hmem s now := by
    obtain ⟨hp, hq, ha, hb⟩ := htimeless s now
    simp only [List.mem_cons, List.not_mem_nil, or_false] at hmem
    rcases hmem with rfl | rfl
    · simp only [hp, ha]
    · simp only [hq, hb]
  step h hmem hsome hstep revision := by
    simp only [List.mem_cons, List.not_mem_nil, or_false] at hmem
    rcases hmem with rfl | rfl
    all_goals
      simp only [Option.ite_none_right_eq_some, Option.some.injEq] at hsome
      obtain ⟨hcondition, rfl⟩ := hsome
    · obtain ⟨hfits, hnone, hover⟩ := hfirst h hcondition hstep revision
      exact ⟨hfits, hnone, if_neg hover, by simp [hcondition]⟩
    · obtain ⟨hfits, hnone, hover, hboth⟩ := hsecond h hcondition hstep revision
      exact ⟨hfits, hnone, if_neg hover, by simpa using hboth⟩

theorem PairSettles.resumable [Sha256] {V : Type} [Encoded V] [Serde V SwapSession]
    [Serde V PersistedSecondFundingAuthorization] (h : PairSettles first second Fits)
    {workflowId : WorkflowId} {Kept : WalletStore V → SwapSession → Prop}
    (hterms : ∀ {store s}, Kept store s → s.acceptedShakescapeTerms.isSome)
    (hkept : ∀ {store s e now store' t}, Kept store s → e.settling →
      Journals workflowId now (store, s) e (store', t) → Kept store' t)
    (hfits : ∀ {store s}, Kept store s → ∀ now,
      Encoded.length (Serde.toVec (s.seenAt now) : V) ≠ 0 ∧
        Encoded.length (Serde.toVec (s.seenAt now) : V) ≤ maxStateBytes) :
    Resumable workflowId [first, second] (fun store s => Kept store s ∧ Fits s) where
  settling := h.settling
  timeless := h.timeless
  terms hgood := hterms hgood.1
  step hgood hmem hsome hstep := by
    obtain ⟨next, revision, hrule, rfl, -⟩ := hstep.saved (hterms hgood.1)
    exact ⟨hkept hgood.1 (h.settling hmem hsome) hstep, (h.step hgood.2 hmem hsome hrule _).1⟩
  quiet hgood hmem hsome hstep := by
    obtain ⟨next, revision, hrule, rfl, -⟩ := hstep.saved (hterms hgood.1)
    exact (h.step hgood.2 hmem hsome hrule revision).2.1
  fits hgood := hfits hgood.1
  spends {pre choose post store s e now store' t} hsplit hgood hspent hsome hstep := by
    obtain ⟨next, revision, hrule, rfl, -⟩ := hstep.saved (hterms hgood.1)
    have hmem : choose ∈ [first, second] := by
      rw [hsplit]
      simp
    obtain ⟨-, -, hfirst, hsecond⟩ := h.step hgood.2 hmem hsome hrule revision
    rcases split_pair hsplit with ⟨rfl, rfl⟩ | ⟨rfl, rfl⟩
    · simpa [Spent] using hfirst
    · have hold : first s = none := by simpa [Spent] using hspent
      simpa [Spent] using ⟨hfirst, hsecond hold⟩

section Redemptions

variable [Sha256] [DirectSwapProtocol] {V : Type} [Serde V SwapSession]
  {policy : ShakescapeDirectSwapPolicy} {sessionId : SessionId} {hello : SwapSessionHello}
  {s₁ s t : SwapSession} {preimage : Bytes 32} {store store' : WalletStore V}
  {spend : LocallyVerifiedSwapSpend} {e : VerifiedEvidence} {now : UInt64}

theorem WalletStore.Loads.judges (h : store.Loads policy sessionId hello s) :
    JudgedOn store policy sessionId s := by
  obtain ⟨irreversible, hload⟩ := h.keeps.loadWorkflow
  exact ⟨_, loadShakescapeExecutionForLocalEvidence_eq_ok.2 ⟨hload, h.reloadable.validate _ _⟩,
    rfl⟩

theorem WalletStore.Holds.loads (hheld : store.Holds (shakescapeExecutionWorkflowId sessionId) s)
    (hjudged : JudgedOn store policy sessionId t) :
    t = s ∧ ∃ hello, store.Loads policy sessionId hello s := by
  obtain ⟨stored, hload, rfl⟩ := hjudged
  obtain ⟨hload, hvalid⟩ := loadShakescapeExecutionForLocalEvidence_eq_ok.1 hload
  obtain ⟨irreversible, updatedAt, hrow⟩ := hheld.row
  obtain ⟨hkey, row, state, hfound, hstate, rfl⟩ := loadWorkflow_eq_some.1 hload
  cases hrow.symm.trans hfound
  rw [Serde.fromSlice_toVec] at hstate
  cases hstate
  simp only [validateShakescapeExecutionRecord, ok_iff, not_or, not_not, not_and, not_exists,
    Option.mem_def, Bool.not_eq_true, Bool.not_eq_false] at hvalid
  obtain ⟨-, ⟨-, -, hid, -, hupdated, hrevoked, hgeneration⟩, hello, hhello, hauthority⟩ := hvalid
  refine ⟨rfl, hello, ⟨hkey, irreversible, by rw [← hupdated]; exact hrow⟩, hid, hhello,
    hrevoked, hgeneration, fun a ha => ?_, fun a ha => ?_⟩
  · obtain ⟨hstate, hmodule, hfunding, hnot, hobserved, hconfirmed, hsecond, hnonzero, -⟩ :=
      hauthority a ha
    exact ⟨hstate, hfunding, hnot, hobserved.symm, by rw [hconfirmed, hobserved], hsecond,
      hmodule.symm, hnonzero⟩
  · obtain ⟨-, -, -, -, -, -, -, -, hexpiry⟩ := hauthority a ha
    exact UInt64.not_lt.1 hexpiry

structure RedemptionKept (policy : ShakescapeDirectSwapPolicy) (sessionId : SessionId)
    (hello : SwapSessionHello) (s₁ : SwapSession) (preimage : Bytes 32) (store : WalletStore V)
    (s : SwapSession) : Prop where
  loads : store.Loads policy sessionId hello s
  continues : s₁.Continues s
  secret : store.getSecret (shakescapeObservedPreimageId sessionId) .htlcPreimage =
    .ok (some preimage.toList)

theorem RedemptionKept.held (h : RedemptionKept policy sessionId hello s₁ preimage store s) :
    store.Holds (shakescapeExecutionWorkflowId sessionId) s ∧
      store.storedPreimage sessionId = some preimage.toList :=
  ⟨h.loads.keeps.holds, (getSecret_eq_ok.1 h.secret).2.2.2.symm⟩

theorem RedemptionKept.terms (h : RedemptionKept policy sessionId hello s₁ preimage store s) :
    s.acceptedShakescapeTerms.isSome := by
  obtain ⟨terms, hterms, -⟩ := ok_bind_iff.1 h.loads.reloadable.terms
  rw [okOr_eq_ok.1 hterms]
  rfl

variable [Encoded V] [Serde V PersistedSecondFundingAuthorization]

theorem RedemptionKept.journals
    (h : RedemptionKept policy sessionId hello s₁ preimage store s) (he : e.settling)
    (hstep : Journals (shakescapeExecutionWorkflowId sessionId) now (store, s) e (store', t)) :
    RedemptionKept policy sessionId hello s₁ preimage store' t := by
  obtain ⟨hkept, ht⟩ := h.loads.reloadable.journals hstep (e.admissible_of_settling he hello)
  obtain ⟨-, -, -, -, hsaved⟩ := hstep.saved h.terms
  refine ⟨⟨hkept, ht⟩, h.continues.journals he hstep, ?_⟩
  obtain ⟨hid, -, hkind, hvalue⟩ := getSecret_eq_ok.1 h.secret
  have hsecrets : store'.secrets = store.secrets := hsaved.secrets
  refine getSecret_eq_ok.2 ⟨hid, hkept.unlocked, ?_, ?_⟩
  · rw [hsecrets]
    exact hkind
  · rw [hsecrets]
    exact hvalue

end Redemptions

section Redeems

variable [Sha256] {s : SwapSession} {preimage : Bytes 32} {spend : LocallyVerifiedSwapSpend}

theorem firstRedemption_settles (spend : LocallyVerifiedSwapSpend) (preimage : Bytes 32) :
    ∃ first second, firstRedemptionEvidence (spendEvidenceId spend) = [first, second] ∧
      PairSettles first second (FirstRedemptionFits · spend preimage) := by
  refine ⟨_, _, rfl, .of_conditions (fun _ => ⟨rfl, rfl⟩) (fun _ _ => ⟨.rfl, .rfl, rfl, rfl⟩)
    (fun {s now next} h hnone hstep revision => ?_) fun {s now next} h hstate hstep revision => ?_⟩
  · cases hstep with
    | firstRedemptionConfirmed =>
      refine ⟨⟨h.module, h.confirmed, h.unrefunded, h.reveals, h.opens, ?_, ?_⟩, rfl, ?_⟩
      · rintro existing ⟨⟩
        rfl
      · intro hfirst
        cases hfirst
      · simp
  · -- A redemption was recorded before, since the state asks for one.
    have hfirst : s.firstRedemption ≠ none := by
      intro hnone
      rcases h.state hnone with hboth | heligible
      · rw [hstate] at hboth
        cases hboth
      · rw [hstate] at heligible
        cases heligible
    have houtcome : s.secretOutcome ≠ .firstRedeemed ∧
        s.secretOutcome ≠ .secondFundingPending := by
      unfold secretOutcome
      split <;> simp
    cases hstep with
    | secretExtracted =>
      refine ⟨⟨h.module, h.confirmed, h.unrefunded, h.reveals, h.opens, h.same, ?_⟩, ?_, hfirst, ?_⟩
      · exact fun hnone => absurd hnone hfirst
      · rw [moveTo_secondFundingAuthorization, if_neg houtcome.2]
      · exact fun _ => houtcome.1

theorem secondRedemption_settles (spend : LocallyVerifiedSwapSpend) (preimage : Bytes 32) :
    ∃ first second, secondRedemptionEvidence (spendEvidenceId spend) = [first, second] ∧
      PairSettles first second (SecondRedemptionFits · spend preimage) := by
  refine ⟨_, _, rfl, .of_conditions (fun _ => ⟨rfl, rfl⟩) (fun _ _ => ⟨.rfl, .rfl, rfl, rfl⟩)
    (fun {s now next} h hnone hstep revision => ?_) fun {s now next} h hstate hstep revision => ?_⟩
  · cases hstep with
    | secondRedemptionConfirmed =>
      refine ⟨⟨h.module, h.confirmed, h.reveals, h.opens, ?_, ?_⟩, rfl, ?_⟩
      · rintro existing ⟨⟩
        rfl
      · intro hsecond
        cases hsecond
      · simp
  · have hsecond : s.secondRedemption ≠ none := by
      intro hnone
      have hobserved := h.state hnone
      rw [hstate] at hobserved
      cases hobserved
    cases hstep with
    | completionValidated =>
      refine ⟨⟨h.module, h.confirmed, h.reveals, h.opens, h.same, ?_⟩, rfl, hsecond, ?_⟩
      · exact fun hnone => absurd hnone hsecond
      · simp

end Redeems

def secondLockEvidence (evidence : ObjectHash) : List Choice :=
  [fun session => if session.state = .firstFunded ∧ session.secondFunding ≠ some evidence then
      some .secondFundingReady else none,
    fun session => if session.state = .secondFundingPending ∧
        session.secondFunding ≠ some evidence then
      some (.secondFundingConfirmed evidence) else none]

structure SecondLockFits (module : ModuleId) (evidence : ObjectHash) (s : SwapSession) : Prop where
  modules : s.firstModule ≠ s.secondModule
  module : module = s.secondModule
  authority : s.AuthorityHeld
  state : s.state = .firstFunded ∨ s.state = .secondFundingPending ∨
    s.secondFunding = some evidence

theorem secondLock_settles (module : ModuleId) (evidence : ObjectHash) :
    ∃ first second, secondLockEvidence evidence = [first, second] ∧
      PairSettles first second (SecondLockFits module evidence) := by
  refine ⟨_, _, rfl, .of_conditions (fun _ => ⟨rfl, rfl⟩) (fun _ _ => ⟨.rfl, .rfl, rfl, rfl⟩)
    (fun {s now next} h hcan hstep revision => ?_) fun {s now next} h hcan hstep revision => ?_⟩
  all_goals
    have hauthority : ({ next with revision } : SwapSession).AuthorityHeld :=
      fun a ha => { h.authority.step hstep a ha with }
  · -- No authority is held before the second chain is ready.
    have hnone : s.secondFundingAuthorization = none := by
      rw [Option.eq_none_iff_forall_ne_some]
      intro a ha
      have hpending := (h.authority a ha).state
      rw [hcan.1] at hpending
      cases hpending
    cases hstep with
    | secondFundingReady =>
      refine ⟨⟨h.modules, h.module, hauthority, .inr (.inl rfl)⟩, hnone, ?_⟩
      simp
  · cases hstep with
    | secondFundingConfirmed =>
      refine ⟨⟨h.modules, h.module, hauthority, .inr (.inr rfl)⟩, rfl, ?_, ?_⟩
      · simp
      · simp

section SecondLock

variable [Sha256] {V : Type} [Encoded V] [Serde V SwapSession]
  [Serde V PersistedSecondFundingAuthorization]
  {policy : ShakescapeDirectSwapPolicy} {sessionId : SessionId} {hello : SwapSessionHello}
  {s₁ s t : SwapSession} {store store' : WalletStore V} {funding : LocallyVerifiedSwapFunding}
  {e : VerifiedEvidence} {evidence : List VerifiedEvidence} {now : UInt64}

theorem journalEach_secondLock {module : ModuleId} {l : ObjectHash} (workflowId : WorkflowId)
    (now : UInt64) (store : WalletStore V) (h : SecondLockFits module l s) :
    ∃ evidence, fundingEvidenceFor s module l none = .ok evidence ∧
      journalEach workflowId now store s (evidence.map fun e _ => some e) =
        journalEach workflowId now store s (secondLockEvidence l) := by
  by_cases hfunded : s.secondFunding = some l
  · refine ⟨[], by simp [fundingEvidenceFor, h.module, hfunded, h.modules.symm], ?_⟩
    have hspent : Spent (secondLockEvidence l) s := by simp [Spent, secondLockEvidence, hfunded]
    rw [journalEach_done hspent]
    rfl
  · rcases h.state with hstate | hstate | hstate
    · refine ⟨[.secondFundingReady, .secondFundingConfirmed l], ?_, ?_⟩
      · simp [fundingEvidenceFor, h.module, hfunded, hstate, h.modules.symm]
      · simp only [secondLockEvidence, List.map_cons, List.map_nil, journalEach, hstate, hfunded,
          ne_eq, not_false_eq_true, and_self, if_true]
        cases happly : s.apply .secondFundingReady now
            (⟨store, workflowId, now⟩ : WalletStoreJournal V) with
        | error => rfl
        | ok r =>
          obtain ⟨u, journal⟩ := r
          obtain ⟨next, revision, hrule, -, rfl, -⟩ := apply_eq_ok.1 happly
          cases hrule with
          | secondFundingReady => simp [hfunded]
    · refine ⟨[.secondFundingConfirmed l], ?_, ?_⟩
      · simp [fundingEvidenceFor, h.module, hfunded, hstate, h.modules.symm]
      · simp only [secondLockEvidence, List.map_cons, List.map_nil, journalEach, hstate, hfunded,
          ne_eq, not_false_eq_true, and_self, if_true, reduceCtorEq, false_and, if_false]
    · exact absurd hstate hfunded

structure FundingKept (sessionId : SessionId) (s₁ : SwapSession)
    (preimage : Option (List UInt8)) (store : WalletStore V) (s : SwapSession) : Prop where
  unlocked : store.unlocked
  holds : store.Holds (shakescapeExecutionWorkflowId sessionId) s
  continues : s₁.Continues s
  secret : store.storedPreimage sessionId = preimage

theorem FundingKept.journals {preimage : Option (List UInt8)}
    (h : FundingKept sessionId s₁ preimage store s) (hterms : s₁.acceptedShakescapeTerms.isSome)
    (he : e.settling)
    (hstep : Journals (shakescapeExecutionWorkflowId sessionId) now (store, s) e (store', t)) :
    FundingKept sessionId s₁ preimage store' t := by
  rw [← h.continues.sameTerms.acceptedShakescapeTerms] at hterms
  obtain ⟨-, -, -, -, hsaved⟩ := hstep.saved hterms
  refine ⟨hsaved.unlocked, hsaved.holds, h.continues.journals he hstep, ?_⟩
  have hsecrets : store'.secrets = store.secrets := hsaved.secrets
  unfold WalletStore.storedPreimage
  rw [hsecrets]
  exact h.secret

variable [DirectSwapProtocol] [BitcoinLibrary]

/-- `apply_locally_verified_shakescape_funding`, with the store that each journalled step
leaves behind. -/
def fundingCall (policy : ShakescapeDirectSwapPolicy) (sessionId : SessionId)
    (funding : LocallyVerifiedSwapFunding) (nowUnix : UInt64) (store : WalletStore V) : Call V :=
  match judgeFunding store policy sessionId funding none with
  | .error e => ⟨.error e, []⟩
  | .ok (session, evidence) =>
    journalEach (shakescapeExecutionWorkflowId sessionId) nowUnix store session
      (evidence.map fun e _ => some e)

omit [Encoded V] [Serde V PersistedSecondFundingAuthorization] in
theorem judgeFunding_none_eq_ok :
    judgeFunding store policy sessionId funding none = .ok (s, evidence) ↔
      ∃ stored hello, store.loadWorkflow SwapSession (shakescapeExecutionWorkflowId sessionId) =
          .ok (some stored) ∧ stored.state = s ∧ stored.kind = .atomicSwap ∧ s.id = sessionId ∧
        acceptedHello policy sessionId s = .ok hello ∧
        verifyLocalFundingAgainstShakescapeTerms hello funding = .ok () ∧
        ¬ (funding.module = s.firstModule ∧ s.firstFundingObservationGeneration ≠ 0) ∧
        fundingEvidenceFor s funding.module (fundingEvidenceId funding) none = .ok evidence := by
  simp only [judgeFunding, ok_iff, liftStore_eq_ok, not_or, not_not, true_and, Option.mem_def,
    reduceCtorEq, false_and, exists_false, not_false_eq_true]
  constructor
  · rintro ⟨_, hload, stored, rfl, -, ⟨hkind, hid⟩, hello, hhello, ⟨⟩, hverify, -, hscoped, -, evs,
      hevs, hret⟩
    cases hret
    exact ⟨stored, hello, hload, rfl, hkind, hid, hhello, hverify, hscoped, hevs⟩
  · rintro ⟨stored, hello, hload, rfl, hkind, hid, hhello, hverify, hscoped, hevs⟩
    exact ⟨_, hload, stored, rfl, (), ⟨hkind, hid⟩, hello, hhello, (), hverify, (), hscoped, (),
      evidence, hevs, rfl⟩

theorem fundingCall_secondLock {preimage : Option (List UInt8)}
    (hid : s₁.id = sessionId) (hhello : acceptedHello policy sessionId s₁ = .ok hello)
    (hverify : verifyLocalFundingAgainstShakescapeTerms hello funding = .ok ())
    (h : FundingKept sessionId s₁ preimage store s)
    (hfits : SecondLockFits funding.module (fundingEvidenceId funding) s) :
    fundingCall policy sessionId funding now store =
      journalEach (shakescapeExecutionWorkflowId sessionId) now store s
        (secondLockEvidence (fundingEvidenceId funding)) := by
  obtain ⟨evidence, hevidence, heq⟩ := journalEach_secondLock
    (shakescapeExecutionWorkflowId sessionId) now store hfits
  obtain ⟨irreversible, updatedAt, hrow⟩ := h.holds.row
  have hsame := h.continues.sameTerms
  have hjudge : judgeFunding store policy sessionId funding none = .ok (s, evidence) := by
    refine judgeFunding_none_eq_ok.2 ⟨_, hello, loadWorkflow_eq_some.2
      ⟨h.unlocked, _, s, hrow, Serde.fromSlice_toVec s, rfl⟩, rfl, rfl, hsame.id.trans hid,
      (acceptedHello_congr hsame.acceptedShakescapeTerms).trans hhello, hverify, ?_,
      hevidence⟩
    rintro ⟨hmodule, -⟩
    exact hfits.modules (hmodule.symm.trans hfits.module)
  unfold fundingCall
  rw [hjudge]
  exact heq

end SecondLock

inductive SettlementCall where
  | secondLock (funding : LocallyVerifiedSwapFunding)
  | firstRedemption (spend : LocallyVerifiedSwapSpend)
  | secondRedemption (spend : LocallyVerifiedSwapSpend)

def SettlementCall.Concerns (s : SwapSession) : SettlementCall → Prop
  | .secondLock funding => s.state = .firstFunded ∧ funding.module = s.secondModule
  | _ => True

section Settlement

variable [Sha256] [DirectSwapProtocol] {V : Type} [Serde V SwapSession]
  {policy : ShakescapeDirectSwapPolicy} {sessionId : SessionId} {hello : SwapSessionHello}
  {s t : SwapSession} {store stop : WalletStore V} {funding : LocallyVerifiedSwapFunding}
  {spend : LocallyVerifiedSwapSpend} {preimage : Bytes 32} {now : UInt64} {written : WalletStore V}

theorem RedemptionKept.of_putSecret (hloads : store.Loads policy sessionId hello s)
    (hput : store.putSecret (shakescapeObservedPreimageId sessionId) .htlcPreimage
      preimage.toList now = .ok written) :
    RedemptionKept policy sessionId hello s preimage written s := by
  have hkept := hloads.keeps.putSecret hput
  obtain ⟨hid, -, -, -, rfl⟩ := (putSecret_eq_ok (by decide)).1 hput
  refine ⟨⟨hkept, hloads.reloadable⟩, .refl s,
    getSecret_eq_ok.2 ⟨hid, hkept.unlocked, ?_, ?_⟩⟩
  · simp only [AList.lookup_insert]
    rintro row ⟨⟩
    rfl
  · simp only [AList.lookup_insert]
    rfl

variable [Encoded V] [Serde V PersistedSecondFundingAuthorization]

theorem secondRedemption_eq {s₁ : SwapSession}
    (h : RedemptionKept policy sessionId hello s₁ preimage store s)
    (hfits : SecondRedemptionFits s spend preimage) :
    applyLocallyVerifiedShakescapeSecondRedemption store policy sessionId spend now =
      journalEach (shakescapeExecutionWorkflowId sessionId) now store s
        (secondRedemptionEvidence (spendEvidenceId spend)) := by
  have hjudge : judgeSecondRedemption store policy sessionId spend = .ok s :=
    judgeSecondRedemption_eq_ok.2 ⟨h.loads.judges, preimage, hfits, h.secret⟩
  unfold applyLocallyVerifiedShakescapeSecondRedemption
  rw [hjudge]

theorem secondRedemption_resumes
    (hheld : store.Holds (shakescapeExecutionWorkflowId sessionId) s) (hfits : s.RowsFit V)
    (hok : (applyLocallyVerifiedShakescapeSecondRedemption store policy sessionId spend
      now).result = .ok t)
    (hstop : stop ∈ store :: (applyLocallyVerifiedShakescapeSecondRedemption store policy sessionId
      spend now).writes) (now' : UInt64) :
    ResumesFrom (fun now store => applyLocallyVerifiedShakescapeSecondRedemption store policy
      sessionId spend now) sessionId store now t stop now' := by
  have hjudged : ∃ u, judgeSecondRedemption store policy sessionId spend = .ok u := by
    unfold applyLocallyVerifiedShakescapeSecondRedemption at hok
    split at hok
    next => cases hok
    next hjudge => exact ⟨_, hjudge⟩
  obtain ⟨u, hjudge⟩ := hjudged
  obtain ⟨hjudged, preimage, hspend, hsecret⟩ := judgeSecondRedemption_eq_ok.1 hjudge
  obtain ⟨rfl, hello, hloads⟩ := hheld.loads hjudged
  obtain ⟨first, second, hpair, hsettles⟩ := secondRedemption_settles spend preimage
  have hresumable : Resumable (shakescapeExecutionWorkflowId sessionId) [first, second]
      (fun σ v => RedemptionKept policy sessionId hello u preimage σ v ∧
        SecondRedemptionFits v spend preimage) :=
    hsettles.resumable (fun h => h.terms) (fun h he hstep => h.journals he hstep)
      fun h => h.continues.fits hfits
  refine hresumable.resumes (fun hgood later => ?_) (fun hgood => hgood.1.held)
    ⟨⟨hloads, .refl u, hsecret⟩, hspend⟩ hok hstop now'
  rw [← hpair]
  exact secondRedemption_eq hgood.1 hgood.2

theorem firstRedemption_eq {s₁ : SwapSession}
    (h : RedemptionKept policy sessionId hello s₁ preimage store s)
    (hfits : FirstRedemptionFits s spend preimage) :
    applyLocallyVerifiedShakescapeFirstRedemption store policy sessionId spend now =
      journalEach (shakescapeExecutionWorkflowId sessionId) now store s
        (firstRedemptionEvidence (spendEvidenceId spend)) := by
  have hjudge : judgeFirstRedemption store policy sessionId spend = .ok (s, preimage, true) :=
    judgeFirstRedemption_eq_ok.2 ⟨h.loads.judges, hfits, some preimage.toList, h.secret,
      fun value hvalue => (Option.some.inj hvalue).symm, (fun hnone => by cases hnone), rfl⟩
  unfold applyLocallyVerifiedShakescapeFirstRedemption
  rw [hjudge]

theorem firstRedemption_put
    (hjudge : judgeFirstRedemption store policy sessionId spend = .ok (s, preimage, false))
    (hput : store.putSecret (shakescapeObservedPreimageId sessionId) .htlcPreimage
      preimage.toList now = .ok written) :
    applyLocallyVerifiedShakescapeFirstRedemption store policy sessionId spend now =
      ⟨(journalEach (shakescapeExecutionWorkflowId sessionId) now written s
          (firstRedemptionEvidence (spendEvidenceId spend))).result,
        written :: (journalEach (shakescapeExecutionWorkflowId sessionId) now written s
          (firstRedemptionEvidence (spendEvidenceId spend))).writes⟩ := by
  unfold applyLocallyVerifiedShakescapeFirstRedemption
  rw [hjudge]
  simp only [liftStore_eq_ok.2 hput]

theorem firstRedemption_resumes
    (hheld : store.Holds (shakescapeExecutionWorkflowId sessionId) s) (hfits : s.RowsFit V)
    (hok : (applyLocallyVerifiedShakescapeFirstRedemption store policy sessionId spend
      now).result = .ok t)
    (hstop : stop ∈ store :: (applyLocallyVerifiedShakescapeFirstRedemption store policy sessionId
      spend now).writes) (now' : UInt64) :
    ResumesFrom (fun now store => applyLocallyVerifiedShakescapeFirstRedemption store policy
      sessionId spend now) sessionId store now t stop now' := by
  have hjudged : ∃ r, judgeFirstRedemption store policy sessionId spend = .ok r := by
    unfold applyLocallyVerifiedShakescapeFirstRedemption at hok
    split at hok
    next => cases hok
    all_goals exact ⟨_, by assumption⟩
  obtain ⟨⟨u, preimage, known⟩, hjudge⟩ := hjudged
  obtain ⟨hjudged, hspend, persisted, hsecret, hvalue, -, hknown⟩ :=
    judgeFirstRedemption_eq_ok.1 hjudge
  obtain ⟨rfl, hello, hloads⟩ := hheld.loads hjudged
  obtain ⟨first, second, hpair, hsettles⟩ := firstRedemption_settles spend preimage
  have hresumable : Resumable (shakescapeExecutionWorkflowId sessionId) [first, second]
      (fun σ v => RedemptionKept policy sessionId hello u preimage σ v ∧
        FirstRedemptionFits v spend preimage) :=
    hsettles.resumable (fun h => h.terms) (fun h he hstep => h.journals he hstep)
      fun h => h.continues.fits hfits
  have hcall : ∀ {σ : WalletStore V} {v : SwapSession},
      RedemptionKept policy sessionId hello u preimage σ v ∧ FirstRedemptionFits v spend preimage →
      ∀ later, applyLocallyVerifiedShakescapeFirstRedemption σ policy sessionId spend later =
        journalEach (shakescapeExecutionWorkflowId sessionId) later σ v [first, second] := by
    intro σ v hgood later
    rw [← hpair]
    exact firstRedemption_eq hgood.1 hgood.2
  cases persisted with
  | some value =>
    cases hvalue value rfl
    exact hresumable.resumes (fun hgood later => hcall hgood later) (fun hgood => hgood.1.held)
      ⟨⟨hloads, .refl u, hsecret⟩, hspend⟩ hok hstop now'
  | none =>
    have hjudge : judgeFirstRedemption store policy sessionId spend =
        .ok (u, preimage, false) := by
      rw [hjudge, hknown]
      rfl
    -- The preimage is put first, whatever the time.
    have hput : ∀ at_, ∃ written, store.putSecret (shakescapeObservedPreimageId sessionId)
        .htlcPreimage preimage.toList at_ = .ok written := by
      intro at_
      unfold applyLocallyVerifiedShakescapeFirstRedemption at hok
      rw [hjudge] at hok
      cases hput : store.putSecret (shakescapeObservedPreimageId sessionId) .htlcPreimage
          preimage.toList now with
      | error e =>
        simp only [hput] at hok
        cases hok
      | ok written =>
        obtain ⟨hid, hlen, hkey, hkind, -⟩ := (putSecret_eq_ok (by decide)).1 hput
        exact ⟨_, (putSecret_eq_ok (by decide)).2 ⟨hid, hlen, hkey, hkind, rfl⟩⟩
    obtain ⟨written, hwritten⟩ := hput now
    have hgood : RedemptionKept policy sessionId hello u preimage written u ∧
        FirstRedemptionFits u spend preimage := ⟨.of_putSecret hloads hwritten, hspend⟩
    have hfirst := firstRedemption_put hjudge hwritten
    have hfinal : (applyLocallyVerifiedShakescapeFirstRedemption store policy sessionId spend
        now).final store = (applyLocallyVerifiedShakescapeFirstRedemption written policy sessionId
          spend now).final written := by
      rw [hfirst, hcall hgood, ← hpair, Call.final, List.getLastD_cons]
      rfl
    rw [hfirst, hpair, ← hcall hgood] at hok hstop
    -- Whoever stops later stops in the call over the store that has the preimage.
    have hlater : ∀ σ ∈ written :: (applyLocallyVerifiedShakescapeFirstRedemption written policy
        sessionId spend now).writes, ResumesFrom (fun now store =>
          applyLocallyVerifiedShakescapeFirstRedemption store policy sessionId spend now)
            sessionId written now t σ now' := fun σ hσ =>
      hresumable.resumes (fun hgood later => hcall hgood later) (fun hgood => hgood.1.held)
        hgood hok hσ now'
    rcases List.mem_cons.1 hstop with rfl | hstop
    · obtain ⟨_, -, -, hheld'', -, -⟩ := hlater written List.mem_cons_self
      obtain ⟨written', hwritten'⟩ := hput now'
      have hgood' : RedemptionKept policy sessionId hello u preimage written' u ∧
          FirstRedemptionFits u spend preimage := ⟨.of_putSecret hloads hwritten', hspend⟩
      have halike : WalletStore.Alike (shakescapeExecutionWorkflowId sessionId) u.id written
          written' := by
        obtain ⟨-, -, -, -, rfl⟩ := (putSecret_eq_ok (by decide)).1 hwritten
        obtain ⟨-, -, -, -, rfl⟩ := (putSecret_eq_ok (by decide)).1 hwritten'
        exact ⟨rfl, rfl, rfl⟩
      have hnone : Spent [] u := fun c hc => by cases hc
      rw [hcall hgood] at hok
      obtain ⟨seen, hseen⟩ := hresumable.alike (fun c hc => hc) hgood halike
        u.lastVerifiedAtUnix now' hok
      obtain ⟨hdone, hspent⟩ := hresumable.final rfl hgood' hnone hseen
      have hdone₁ := (hresumable.final rfl hgood hnone hok).1
      have hretry := firstRedemption_put hjudge hwritten'
      rw [hpair] at hretry
      have hretry' : (applyLocallyVerifiedShakescapeFirstRedemption stop policy sessionId spend
          now').final stop = (journalEach (shakescapeExecutionWorkflowId sessionId) now' written'
            u [first, second]).final written' := by
        rw [hretry, Call.final, List.getLastD_cons]
        rfl
      refine ⟨seen, ?_, ?_, ?_, ?_, fun later => ?_⟩
      · simp only [hretry]
        exact hseen
      · simp only [hretry']
        exact hdone.1.held.1
      · rw [hfinal]
        exact hheld''
      · simp only [hretry', hfinal, hcall hgood]
        exact hdone.1.held.2.trans hdone₁.1.held.2.symm
      · simp only [hretry']
        rw [hcall hdone later]
        exact journalEach_done hspent
    · obtain ⟨seen, hresult, hheld', hheld'', hpreimage, hagain⟩ := hlater stop hstop
      exact ⟨seen, hresult, hheld', by rw [hfinal]; exact hheld'', by rw [hfinal]; exact hpreimage,
        hagain⟩

variable [BitcoinLibrary]

def SettlementCall.perform (policy : ShakescapeDirectSwapPolicy) (sessionId : SessionId)
    (call : SettlementCall) (nowUnix : UInt64) (store : WalletStore V) : Call V :=
  match call with
  | .secondLock funding => fundingCall policy sessionId funding nowUnix store
  | .firstRedemption spend =>
    applyLocallyVerifiedShakescapeFirstRedemption store policy sessionId spend nowUnix
  | .secondRedemption spend =>
    applyLocallyVerifiedShakescapeSecondRedemption store policy sessionId spend nowUnix

theorem secondLock_resumes (hmodules : s.firstModule ≠ s.secondModule)
    (hauthority : s.AuthorityHeld)
    (hheld : store.Holds (shakescapeExecutionWorkflowId sessionId) s) (hfits : s.RowsFit V)
    (hstate : s.state = .firstFunded) (hmodule : funding.module = s.secondModule)
    (hok : (fundingCall policy sessionId funding now store).result = .ok t)
    (hstop : stop ∈ store :: (fundingCall policy sessionId funding now store).writes)
    (now' : UInt64) :
    ResumesFrom (fundingCall policy sessionId funding) sessionId store now t stop now' := by
  have hjudged : ∃ r, judgeFunding store policy sessionId funding none = .ok r := by
    unfold fundingCall at hok
    split at hok
    next => cases hok
    next hjudge => exact ⟨_, hjudge⟩
  obtain ⟨⟨u, evidence⟩, hjudge⟩ := hjudged
  obtain ⟨stored, hello, hload, rfl, -, hid, hhello, hverify, -, -⟩ :=
    judgeFunding_none_eq_ok.1 hjudge
  obtain ⟨irreversible, updatedAt, hrow⟩ := hheld.row
  obtain ⟨hkey, row, state, hfound, hdecoded, rfl⟩ := loadWorkflow_eq_some.1 hload
  cases hrow.symm.trans hfound
  rw [Serde.fromSlice_toVec] at hdecoded
  cases hdecoded
  have hterms : s.acceptedShakescapeTerms.isSome := by
    obtain ⟨terms, hterms, -⟩ := ok_bind_iff.1 hhello
    rw [okOr_eq_ok.1 hterms]
    rfl
  obtain ⟨first, second, hpair, hsettles⟩ :=
    secondLock_settles funding.module (fundingEvidenceId funding)
  have hresumable : Resumable (shakescapeExecutionWorkflowId sessionId) [first, second]
      (fun (σ : WalletStore V) u => FundingKept sessionId s (store.storedPreimage sessionId) σ u ∧
        SecondLockFits funding.module (fundingEvidenceId funding) u) := by
    refine hsettles.resumable (fun h => ?_) (fun h he hstep => h.journals hterms he hstep)
      fun h => h.continues.fits hfits
    rw [h.continues.sameTerms.acceptedShakescapeTerms]
    exact hterms
  refine hresumable.resumes (fun hgood later => ?_) (fun hgood => ⟨hgood.1.holds, hgood.1.secret⟩)
    ⟨⟨hkey, hheld, .refl s, rfl⟩, ⟨hmodules, hmodule, hauthority, .inl hstate⟩⟩ hok hstop now'
  rw [← hpair]
  exact fundingCall_secondLock hid hhello hverify hgood.1 hgood.2

/-- Crash and resume.  For a session that the journal holds and a call that succeeds on it,
and for every store that the call passes through: the same call, made there at any time,
succeeds and ends in the same session, but for its time, and with the same preimage; and
a further call changes nothing. -/
theorem settlement_calls_resume {s₀ : SwapSession} {evs : List SwapEvent} (hstart : s₀.Started)
    (hrun : Run SwapSession.Applies s₀ evs s)
    (hheld : store.Holds (shakescapeExecutionWorkflowId sessionId) s) (hfits : s.RowsFit V)
    (call : SettlementCall) (hconcerns : call.Concerns s)
    (hok : (call.perform policy sessionId now store).result = .ok t)
    (hstop : stop ∈ store :: (call.perform policy sessionId now store).writes) (now' : UInt64) :
    ∃ seen, (call.perform policy sessionId now' stop).result = .ok (t.seenAt seen) ∧
      ((call.perform policy sessionId now' stop).final stop).Holds
        (shakescapeExecutionWorkflowId sessionId) (t.seenAt seen) ∧
      ((call.perform policy sessionId now store).final store).Holds
        (shakescapeExecutionWorkflowId sessionId) t ∧
      ((call.perform policy sessionId now' stop).final stop).storedPreimage sessionId =
        ((call.perform policy sessionId now store).final store).storedPreimage sessionId ∧
      ∀ later, call.perform policy sessionId later
        ((call.perform policy sessionId now' stop).final stop) = ⟨.ok (t.seenAt seen), []⟩ := by
  cases call with
  | secondLock funding =>
    have hblank := hstart.blank.1
    have hsame := SwapSession.sameTerms_of_run hrun
    have hmodules : s.firstModule ≠ s.secondModule := by
      rw [hsame.firstModule, hsame.secondModule]
      exact hblank.modules
    have hauthority : s.AuthorityHeld :=
      (SwapSession.AuthorityHeld.of_none hblank.authorization).run hrun
    exact secondLock_resumes hmodules hauthority hheld hfits hconcerns.1 hconcerns.2 hok hstop
      now'
  | firstRedemption spend => exact firstRedemption_resumes hheld hfits hok hstop now'
  | secondRedemption spend => exact secondRedemption_resumes hheld hfits hok hstop now'

end Settlement

namespace Sample

def firstRedemption : LocallyVerifiedSwapSpend :=
  .bitcoin ⟨.replicate 32 0x21, .replicate 32 0x22, .redeem, some preimage⟩ 1

def redemptionDigests : List (List UInt8 × Bytes 32) :=
  [(preimage.toList, hashlock),
    (verifiedShakescapeSpendDomain ++ [1] ++ (Bytes.replicate 32 0x21).toList ++
      (Bytes.replicate 32 0x22).toList ++ [0],
    .ofNat 32 0xbcd8b6ac1426967c50dce952d3d812a1f3d704f2e5a14ac1ac5104f61637c585)]

@[reducible] def redemptionSha256 : Sha256 where
  digest input := ((redemptionDigests ++ digests).lookup input).getD (.replicate 32 0)

attribute [local instance] redemptionSha256 keys bitcoin protocol

def bothFunded : SwapSession :=
  { observed with
    revision := 7
    state := .bothFunded
    firstRedemption := none
    lastVerifiedAtUnix := 1700000300 }

def fundedStore : WalletStore Value :=
  { takerStore with
    workflows := AList.insert (shakescapeExecutionWorkflowId sessionId)
      ⟨.atomicSwap, 7, .session bothFunded, true, 1700000300⟩ ∅
    secrets := (∅ : AList fun _ : RecordId => SecretRow).insert takerWallet.bytes.toList
      ⟨.recoverySeed, takerSeed, 1⟩ }

set_option maxRecDepth 4000 in
theorem settlement_calls_resume_sample :
    ∃ t, t.state = .secretObserved ∧
      ((SettlementCall.firstRedemption firstRedemption).perform policy sessionId 1700000400
        fundedStore).result = .ok t ∧
      ((SettlementCall.firstRedemption firstRedemption).perform policy sessionId 1700000400
        fundedStore).writes.length = 3 ∧
      ∀ stop ∈ fundedStore :: ((SettlementCall.firstRedemption firstRedemption).perform policy
          sessionId 1700000400 fundedStore).writes, ∀ now', ∃ seen,
        ((SettlementCall.firstRedemption firstRedemption).perform policy sessionId now'
          stop).result = .ok (t.seenAt seen) := by
  have hrun := SwapSession.run_iff_replay.2
    (rfl : opened.replay (revealing.take 6) = some bothFunded)
  have hheld : fundedStore.Holds (shakescapeExecutionWorkflowId sessionId) bothFunded :=
    ⟨true, 1700000300, rfl⟩
  have hfits : bothFunded.RowsFit Value := fun _ _ _ =>
    (by decide : (1 : Nat) ≠ 0 ∧ 1 ≤ maxStateBytes)
  refine ⟨_, ?_, rfl, rfl, fun stop hstop now' => ?_⟩
  · rfl
  · obtain ⟨seen, hresult, -⟩ := settlement_calls_resume opened_started hrun hheld hfits
      (.firstRedemption firstRedemption) trivial rfl hstop now'
    exact ⟨seen, hresult⟩

end Sample

end HnsWallet
