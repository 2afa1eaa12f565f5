import HnsWallet.Hns.NameRuns

/-! # Withdrawn authority -/

namespace HnsWallet

open Lib

def HnsSnapshot.ShowsBytes [HnsTransactions] (snapshot : HnsSnapshot) (raw : List UInt8)
    (transactionId : Bytes 32) : Prop :=
  snapshot.Confirms transactionId ∨ snapshot.InMempool transactionId ∨
    ∃ transaction, decodeTransactionForId raw transactionId = .ok transaction ∧
      snapshot.Conflicts transactionId transaction.spentOutpoints

def HnsSnapshot.Shows [HnsTransactions] (snapshot : HnsSnapshot) (w : HnsNameWorkflow) : Prop :=
  ∀ raw transactionId, w.signedTransaction = some raw → w.transaction = some transactionId →
    snapshot.ShowsBytes raw transactionId

def HnsSnapshot.Justifies [HnsTransactions] (snapshot : HnsSnapshot) (w : HnsNameWorkflow)
    (stage : NameOperationState) : Prop :=
  ∃ raw transactionId, w.signedTransaction = some raw ∧ w.transaction = some transactionId ∧
    ((stage.isConfirmed ∧ snapshot.Confirms transactionId) ∨
      (stage = .mempool ∧ snapshot.InMempool transactionId) ∨
      (stage = .conflicted ∧ ∃ transaction,
        decodeTransactionForId raw transactionId = .ok transaction ∧
          snapshot.Conflicts transactionId transaction.spentOutpoints))

/-- A reconciliation looks for the transaction of the workflow. -/
def HnsBook.Observes (b : HnsBook) (id : WorkflowId) : Prop :=
  ∃ w, b.names id = some w ∧ w.stage.isObserved

structure Withdrawn [HnsTransactions] (id : WorkflowId) (w₀ : HnsNameWorkflow)
    (seen : HnsSnapshot → Prop) (handed : List (WorkflowId × List UInt8)) (b : HnsBook) : Prop where
  sent : b.sent.filter (·.1 = id) = handed
  row : ∃ w, b.names id = some w ∧ w.signedTransaction = w₀.signedTransaction ∧
    w.transaction = w₀.transaction ∧
    (w.stage = .reapprovalRequired ∨ w.stage = .cancelled ∨
      ∃ snapshot, seen snapshot ∧ snapshot.Justifies w₀ w.stage)

section Moves

variable [HnsTransactions] {config : HnsRuntimeConfig} {id : WorkflowId} {seen : HnsSnapshot → Prop}
  {w w₀ : HnsNameWorkflow} {snapshot : HnsSnapshot} {nowUnix : UInt64}
  {observation : NameObservation}

theorem withdrawn_stage (h : w.stage = .reapprovalRequired ∨ w.stage = .cancelled ∨
      ∃ snapshot, seen snapshot ∧ snapshot.Justifies w₀ w.stage) :
    w.stage ≠ .prepared ∧ w.stage ≠ .authorized ∧ w.stage ≠ .requiresRebroadcast := by
  rcases h with h | h | ⟨snapshot, -, raw, transactionId, -, -, ⟨h, -⟩ | ⟨h, -⟩ | ⟨h, -⟩⟩
  · simp [h]
  · simp [h]
  · refine ⟨fun hstage => ?_, fun hstage => ?_, fun hstage => ?_⟩ <;>
      (rw [hstage] at h; cases h)
  · simp [h]
  · simp [h]

theorem NameReconciled.justifies (h : NameReconciled snapshot nowUnix w observation)
    (hsigned : w.signedTransaction = w₀.signedTransaction)
    (htransaction : w.transaction = w₀.transaction) (hprepared : w.stage ≠ .prepared)
    (hshown : w.stage.isObserved → snapshot.Shows w₀) :
    observation.workflow.stage = w.stage ∨
      w.stage.isObserved ∧ snapshot.Justifies w₀ observation.workflow.stage := by
  cases h with
  | untouched _ _ same => exact .inl (by rw [same])
  | expired stage _ _ => exact absurd stage hprepared
  | @observed stage transactionId raw transaction hid hraw hdecode is =>
    rw [hsigned] at hraw
    rw [htransaction] at hid
    refine .inr ⟨stage, raw, transactionId, hraw, hid, ?_⟩
    cases is with
    | conflicted conflicts _ stage _ =>
      exact .inr (.inr ⟨stage, transaction, hdecode, conflicts⟩)
    | confirmed confirms _ is => exact .inl ⟨is.stage, confirms⟩
    | mempool inMempool _ _ _ stage _ => exact .inr (.inl ⟨stage, inMempool⟩)
    | gone absent evicted free _ _ _ =>
      rcases hshown stage raw transactionId hraw hid with
        hconfirms | hmempool | ⟨transaction', hdecode', hconflicts⟩
      · exact absurd hconfirms absent
      · exact absurd hmempool evicted
      · cases hdecode.symm.trans hdecode'
        exact absurd hconflicts free

theorem Withdrawn.move {powers : BookPowers} {b b' : HnsBook}
    {handed : List (WorkflowId × List UInt8)} (h : Withdrawn id w₀ seen handed b)
    (hmove : HnsBook.Move config powers b b')
    (hlooks : ∀ snapshot nowUnix, powers.looks snapshot nowUnix →
      seen snapshot ∧ (b.Observes id → snapshot.Shows w₀)) :
    Withdrawn id w₀ seen handed b' ∧ (b'.Observes id → b.Observes id) := by
  obtain ⟨hsent, w, hread, hsigned, htransaction, hstage⟩ := h
  obtain ⟨hprepared, hauthorized, hrebroadcast⟩ := withdrawn_stage hstage
  cases hmove with
  | drop _ _ => exact ⟨⟨hsent, w, hread, hsigned, htransaction, hstage⟩, fun h => h⟩
  | @send id' effect bytes w' other possible move =>
    have hid : id' ≠ id := by
      rintro rfl
      rw [hread] at other
      cases other
    refine ⟨⟨?_, w, hread, hsigned, htransaction, hstage⟩, fun h => h⟩
    rw [List.filter_append, hsent, List.filter_eq_nil_iff.2, List.append_nil]
    intro entry hentry
    obtain ⟨bytes, -, rfl⟩ := List.mem_map.1 hentry
    simpa using hid
  | @name id' effect bytes w' other possible move =>
    by_cases hid : id' = id
    · subst hid
      rw [hread] at move
      -- only a look and a cancellation start from the stages of a withdrawn workflow
      cases move with
      | mark stage _ =>
        rcases stage with stage | stage | stage
        · exact absurd stage hprepared
        · exact absurd stage hauthorized
        · exact absurd stage hrebroadcast
      | authorize stage _ _ _ _ _ => exact absurd stage hprepared
      | submit stage _ _ _ =>
        rcases stage with stage | stage
        · exact absurd stage hauthorized
        · exact absurd stage hrebroadcast
      | accept stage => exact absurd stage hrebroadcast
      | cancel stage =>
        refine ⟨⟨by simpa using hsent, _, Function.update_self _ _ _, hsigned, htransaction,
          .inr (.inl rfl)⟩, ?_⟩
        rintro ⟨w', hread', hobserved⟩
        cases hread'.symm.trans (Function.update_self _ _ _)
        cases hobserved
      | @look _ snapshot nowUnix observation allowed is =>
        obtain ⟨hseen, hshown⟩ := hlooks snapshot nowUnix allowed
        have hlook := reconcileNameWorkflow_eq_ok is
        have hsame := hlook.same
        have hrow := Function.update_self id' (some observation.workflow) b.names
        have hjustifies := hlook.justifies hsigned htransaction hprepared fun hobserved =>
          hshown ⟨w, hread, hobserved⟩
        refine ⟨⟨by simpa using hsent, _, hrow, hsame.signedTransaction.trans hsigned,
          hsame.transaction.trans htransaction, ?_⟩, ?_⟩
        · rcases hjustifies with hkept | ⟨-, hjustified⟩
          · rw [hkept]
            exact hstage
          · exact .inr (.inr ⟨snapshot, hseen, hjustified⟩)
        · rintro ⟨w', hread', hobserved⟩
          cases hread'.symm.trans hrow
          rcases hjustifies with hkept | ⟨hobserved, -⟩
          · exact ⟨w, hread, hkept ▸ hobserved⟩
          · exact ⟨w, hread, hobserved⟩
    · have hrow : ∀ w', Function.update b.names id' (some w') id = b.names id :=
        fun _ => Function.update_of_ne (Ne.symm hid) _ _
      refine ⟨⟨?_, w, (hrow _).trans hread, hsigned, htransaction, hstage⟩,
        fun ⟨w', hread', hobserved⟩ => ⟨w', (hrow _).symm.trans hread', hobserved⟩⟩
      rw [List.filter_append, hsent, List.filter_eq_nil_iff.2, List.append_nil]
      intro entry hentry
      obtain ⟨bytes, -, rfl⟩ := List.mem_map.1 hentry
      simpa using hid

end Moves

section Runs

theorem HnsOperation.looks_iff {config : HnsRuntimeConfig} {op : HnsOperation}
    {snapshot : HnsSnapshot} {nowUnix : UInt64} :
    (op.powers config).looks snapshot nowUnix ↔ op = .reconcile snapshot nowUnix := by
  cases op with
  | reconcile snapshot' nowUnix' =>
    simp only [HnsOperation.powers, HnsOperation.reconcile.injEq]
    exact and_congr eq_comm eq_comm
  | _ => simp [HnsOperation.powers]

variable {V : Type} [Encoded V] [Serde V HnsInputReservation] [Serde V HnsNameWorkflow]
  [Serde V HnsSendWorkflow] [Serde V HnsPreparedSettlement] [HnsTransactions] [Sha256]
  {config : HnsRuntimeConfig} {mid system : HnsSystem V} {ops later : List HnsOperation}
  {id : WorkflowId} {w : HnsNameWorkflow}

/-- From any state of any run in which a name workflow needs a new approval, and along every
later run whose reconciliations find its transaction whenever they look for it: nothing is
sent for it again, and it leaves the stage only to be cancelled or for what a snapshot of the
run shows. -/
theorem reapproval_withdraws_authority [SendsApart V]
    (hrun : Run (HnsSystem.Step config) (.empty : HnsSystem V) ops mid)
    (hread : mid.store.nameWorkflow id = some w) (hstage : w.stage = .reapprovalRequired)
    (hlater : Run (HnsSystem.Step config) mid later system)
    (hshown : ∀ before snapshot nowUnix after at_,
      later = before ++ .reconcile snapshot nowUnix :: after →
      Run (HnsSystem.Step config) mid before at_ → (at_.book config).Observes id →
      snapshot.Shows w) :
    system.sent.filter (·.1 = id) = mid.sent.filter (·.1 = id) ∧
    ∃ w', system.store.nameWorkflow id = some w' ∧
      w'.signedTransaction = w.signedTransaction ∧
      (w'.stage = .reapprovalRequired ∨ w'.stage = .cancelled ∨
        ∃ snapshot, (∃ nowUnix, .reconcile snapshot nowUnix ∈ later) ∧
          snapshot.Justifies w w'.stage) := by
  obtain ⟨hsound, -⟩ := HnsSystem.namesWritten_of_run hrun
  obtain ⟨-, hsent, w', hread', hsigned', -, hstage'⟩ := hlater.invariant_of_steps
    (I := fun at_ => at_.store.Sound ∧ Withdrawn id w
      (fun snapshot => ∃ nowUnix, .reconcile snapshot nowUnix ∈ later)
      (mid.sent.filter (·.1 = id)) (at_.book config))
    (C := fun at_ op => op ∈ later ∧ ∀ snapshot nowUnix, op = .reconcile snapshot nowUnix →
      (at_.book config).Observes id → snapshot.Shows w)
    (fun {at_ op next} h hop hstep => by
      obtain ⟨hnext, hmoves⟩ := hstep.moves h.1
      refine ⟨hnext, (hmoves.invariant (P := fun b => Withdrawn id w _ _ b ∧
        (b.Observes id → (at_.book config).Observes id)) (fun hmove hb => ?_) ⟨h.2, fun h => h⟩).1⟩
      obtain ⟨hwithdrawn, hobserves⟩ := hb.1.move hmove fun snapshot nowUnix hlooks => by
        rw [HnsOperation.looks_iff] at hlooks
        exact ⟨⟨nowUnix, hlooks ▸ hop.1⟩, fun hb' => hop.2 snapshot nowUnix hlooks (hb.2 hb')⟩
      exact ⟨hwithdrawn, fun hb' => hb.2 (hobserves hb')⟩)
    ⟨hsound, rfl, w, hread, rfl, rfl, .inl hstage⟩ fun before op after at_ hops hbefore =>
      ⟨by simp [hops], fun snapshot nowUnix his => hshown before snapshot nowUnix after at_
        (his ▸ hops) hbefore⟩
  exact ⟨hsent, w', hread', hsigned', hstage'⟩

end Runs

namespace Sample

section

attribute [local instance] hnsSha hnsTransactions

def reorganised : HnsSystem HnsValue :=
  hnsAfter (confirmedOnce .transfer ++ [.reconcile (hnsSnapshot 3 absent []) 1002])

theorem reorganised_needs_approval : ∃ w,
    reorganised.store.nameWorkflow (hnsWorkflow 7) = some w ∧ w.stage = .reapprovalRequired ∧
      w.signedTransaction = some [7] := by
  obtain ⟨w, hread, hcheck⟩ := exists_of_nameIs (show nameIs reorganised.store (fun w =>
    w.stage = .reapprovalRequired && w.signedTransaction = some [7]) = true by decide +kernel)
  simp only [Bool.and_eq_true, decide_eq_true_eq] at hcheck
  exact ⟨w, hread, hcheck.1, hcheck.2⟩

theorem reapproval_withdraws_authority_mempool :
    let later := [.reconcile (hnsSnapshot 4 inMempool []) 1003,
      .rebroadcastName (hnsWorkflow 7) (nameSubmission .transfer 7)]
    (reorganised.afterCalls hnsConfig later).sent.filter (·.1 = hnsWorkflow 7) =
      reorganised.sent.filter (·.1 = hnsWorkflow 7) := by
  obtain ⟨w, hread, hstage, -⟩ := reorganised_needs_approval
  refine (reapproval_withdraws_authority (HnsSystem.run_afterCalls hnsConfig _ .empty) hread hstage
    (HnsSystem.run_afterCalls hnsConfig _ _)
      fun before snapshot nowUnix after at_ hops _ _ raw transactionId _ _ => ?_).1
  have hmem : .reconcile snapshot nowUnix ∈ before ++ .reconcile snapshot nowUnix :: after :=
    List.mem_append_right _ List.mem_cons_self
  rw [← hops] at hmem
  simp only [List.mem_cons, HnsOperation.reconcile.injEq, reduceCtorEq, List.not_mem_nil,
    or_false] at hmem
  rw [hmem.1]
  exact .inr (.inl ⟨_, rfl, rfl⟩)

/-- A second reconciliation that does not find the transaction makes the workflow one to be
submitted again, and the next rebroadcast hands over the bytes of the withdrawn approval. -/
theorem withdrawn_transfer_is_sent_again :
    (∃ w, reorganised.store.nameWorkflow (hnsWorkflow 7) = some w ∧
      w.stage = .reapprovalRequired ∧ w.signedTransaction = some [7]) ∧
    reorganised.sent = [(hnsWorkflow 7, [7])] ∧
    (reorganised.afterCalls hnsConfig [.reconcile (hnsSnapshot 3 absent []) 1003,
      .rebroadcastName (hnsWorkflow 7) (nameSubmission .transfer 7)]).sent =
        [(hnsWorkflow 7, [7]), (hnsWorkflow 7, [7])] := by
  exact ⟨reorganised_needs_approval, by decide +kernel, by decide +kernel⟩

end

end Sample

end HnsWallet
