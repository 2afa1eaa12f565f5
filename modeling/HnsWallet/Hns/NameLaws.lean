import HnsWallet.Hns.NameWorkflow
import HnsWallet.Lib.Passes

/-! # What a reconciliation makes of a name workflow -/

namespace HnsWallet

open Lib WalletStore

namespace HnsSnapshot

variable (snapshot : HnsSnapshot)

def Confirms (transactionId : Bytes 32) : Prop :=
  ∃ evidence, snapshot.getTransactionEvidence transactionId = .ok evidence ∧
    0 < evidence.status.confirmationCount

def InMempool (transactionId : Bytes 32) : Prop :=
  ∃ evidence, snapshot.getTransactionEvidence transactionId = .ok evidence ∧
    evidence.status.inMempool

def Conflicts (transactionId : Bytes 32) (outpoints : List HnsOutpoint) : Prop :=
  (∃ evidence, snapshot.getTransactionEvidence transactionId = .ok evidence ∧
    evidence.status.conflicted) ∨
    snapshot.hasCompetingSpenderInBatches outpoints transactionId = .ok true

variable {snapshot} {transactionId : Bytes 32} {evidence : TransactionEvidence}

section

variable (h : snapshot.getTransactionEvidence transactionId = .ok evidence)
include h

theorem confirms_iff :
    snapshot.Confirms transactionId ↔ 0 < evidence.status.confirmationCount := by
  simp [Confirms, h]

theorem inMempool_iff :
    snapshot.InMempool transactionId ↔ evidence.status.inMempool := by
  simp [InMempool, h]

theorem conflicts_iff {outpoints : List HnsOutpoint} {competing : Bool}
    (hcompeting : snapshot.hasCompetingSpenderInBatches outpoints transactionId = .ok competing) :
    snapshot.Conflicts transactionId outpoints ↔ evidence.status.conflicted ∨ competing := by
  simp [Conflicts, h, hcompeting]

end

/-- The answer is read batch by batch: each is evidence about the outpoints asked for, and
the transaction competes if one of them shows another spender. -/
theorem competingInBatches_eq_ok {spender : Bytes 32} {batches : List (List HnsOutpoint)}
    {competing : Bool} :
    snapshot.competingInBatches spender batches = .ok competing ↔
      ∃ answers, List.Forall₂ (fun batch evidence =>
          snapshot.getOutpointSpendEvidence batch = .ok evidence ∧
            validateSpendEvidence evidence snapshot.binding batch = .ok ()) batches answers ∧
        competing = answers.any fun evidence => evidence.spentByOther spender := by
  induction batches generalizing competing with
  | nil => simp [competingInBatches, eq_comm]
  | cons batch batches ih =>
    simp only [competingInBatches, ok_iff, ih, List.forall₂_cons_left_iff]
    constructor
    · rintro ⟨evidence, hevidence, _, hvalid, _, ⟨answers, hanswers, rfl⟩, hret⟩
      cases hret
      exact ⟨evidence :: answers, ⟨evidence, answers, ⟨hevidence, hvalid⟩, hanswers, rfl⟩, rfl⟩
    · rintro ⟨_, ⟨evidence, answers, ⟨hevidence, hvalid⟩, hanswers, rfl⟩, rfl⟩
      exact ⟨evidence, hevidence, (), hvalid, _, ⟨answers, hanswers, rfl⟩, rfl⟩

end HnsSnapshot

structure HnsNameWorkflow.SameOperation (w w' : HnsNameWorkflow) : Prop where
  plan : w'.plan = w.plan
  transaction : w'.transaction = w.transaction
  signedTransaction : w'.signedTransaction = w.signedTransaction
  feeQuote : w'.feeQuote = w.feeQuote

theorem HnsNameWorkflow.SameOperation.refl (w : HnsNameWorkflow) : w.SameOperation w :=
  ⟨rfl, rfl, rfl, rfl⟩

section Laws

variable {snapshot : HnsSnapshot} {nowUnix : UInt64} {w : HnsNameWorkflow}
  {observation : NameObservation} {transaction : HnsTransaction} {transactionId : Bytes 32}
  {inclusion : TransactionInclusion}

theorem observeTransferOwner_eq_ok
    (h : observeTransferOwner snapshot w transaction transactionId inclusion = .ok observation) :
    w.SameOperation observation.workflow ∧
      (observation.workflow.stage = .finalizeEligible ∨
        observation.workflow.stage = .transferLocked) ∧
      observation.workflow.lastVerifiedBinding = w.lastVerifiedBinding ∧
      observation.deleteReservations = false := by
  simp only [observeTransferOwner, ok_iff] at h
  obtain ⟨⟨context, ownerCoin⟩, -, output, -, height, -, -, -, hret⟩ := h
  cases hret
  refine ⟨⟨rfl, rfl, rfl, rfl⟩, ?_, rfl, rfl⟩
  exact ite_eq_or_eq _ _ _

variable [HnsTransactions]

structure ObservedConfirmed (snapshot : HnsSnapshot) (w : HnsNameWorkflow)
    (observation : NameObservation) : Prop where
  same : w.SameOperation observation.workflow
  stage : observation.workflow.stage.isConfirmed
  binding : observation.workflow.lastVerifiedBinding = some snapshot.binding
  keeps : observation.deleteReservations = false
  updated : observation.workflow.stage = .updated → w.plan.action = .update

theorem observeConfirmed_eq_ok
    (h : observeConfirmed snapshot w transaction transactionId inclusion = .ok observation) :
    ObservedConfirmed snapshot w observation := by
  unfold observeConfirmed at h
  cases haction : w.plan.action with
  | finalize =>
    rw [haction] at h
    cases h
    exact ⟨⟨rfl, rfl, rfl, rfl⟩, rfl, rfl, rfl, fun hstage => by cases hstage⟩
  | update =>
    rw [haction] at h
    cases h
    exact ⟨⟨rfl, rfl, rfl, rfl⟩, rfl, rfl, rfl, fun _ => haction⟩
  | transfer =>
    rw [haction] at h
    obtain ⟨kind, -, h⟩ := ok_bind_iff.1 h
    match kind with
    | none =>
      obtain ⟨hsame, hstage, hbinding, hkeeps⟩ := observeTransferOwner_eq_ok h
      refine ⟨⟨hsame.plan, hsame.transaction, hsame.signedTransaction, hsame.feeQuote⟩, ?_,
        hbinding, hkeeps, fun hupdated => ?_⟩
      · rcases hstage with hstage | hstage <;> rw [hstage] <;> rfl
      · rw [hupdated] at hstage
        rcases hstage with hstage | hstage <;> cases hstage
    | some .finalize | some .update | some .renew | some .revoke =>
      cases h
      exact ⟨⟨rfl, rfl, rfl, rfl⟩, rfl, rfl, rfl, fun hstage => by cases hstage⟩
    | some .none | some .claim | some .open | some .bid | some .reveal | some .redeem
    | some .register | some .transfer => cases h

inductive Observed (snapshot : HnsSnapshot) (w : HnsNameWorkflow) (transactionId : Bytes 32)
    (outpoints : List HnsOutpoint) (observation : NameObservation) : Prop where
  | conflicted (conflicts : snapshot.Conflicts transactionId outpoints)
      (same : w.SameOperation observation.workflow)
      (stage : observation.workflow.stage = .conflicted)
      (releases : observation.deleteReservations = true)
  | confirmed (confirms : snapshot.Confirms transactionId)
      (free : ¬ snapshot.Conflicts transactionId outpoints)
      (is : ObservedConfirmed snapshot w observation)
  | mempool (inMempool : snapshot.InMempool transactionId)
      (absent : ¬ snapshot.Confirms transactionId)
      (free : ¬ snapshot.Conflicts transactionId outpoints)
      (same : w.SameOperation observation.workflow)
      (stage : observation.workflow.stage = .mempool)
      (keeps : observation.deleteReservations = false)
  | gone (absent : ¬ snapshot.Confirms transactionId)
      (evicted : ¬ snapshot.InMempool transactionId)
      (free : ¬ snapshot.Conflicts transactionId outpoints)
      (same : w.SameOperation observation.workflow)
      (stage : observation.workflow.stage =
        if w.stage.needsReapproval then .reapprovalRequired else .requiresRebroadcast)
      (keeps : observation.deleteReservations = false)

theorem observeSubmitted_eq_ok (h : observeSubmitted snapshot w = .ok observation) :
    ∃ transactionId signed transaction, w.transaction = some transactionId ∧
      w.signedTransaction = some signed ∧
      decodeTransactionForId signed transactionId = .ok transaction ∧
      Observed snapshot w transactionId transaction.spentOutpoints observation := by
  simp only [observeSubmitted, ok_iff] at h
  obtain ⟨transactionId, hid, signed, hsigned, transaction, hdecode, evidence, hevidence, -, -,
    competing, hcompeting, h⟩ := h
  refine ⟨transactionId, signed, transaction, hid, hsigned, hdecode, ?_⟩
  have hconflicts : snapshot.Conflicts transactionId transaction.spentOutpoints ↔ _ :=
    HnsSnapshot.conflicts_iff hevidence hcompeting
  split at h
  next hconflict =>
    cases h
    exact .conflicted (hconflicts.2 hconflict) ⟨rfl, rfl, rfl, rfl⟩ rfl rfl
  next hconflict =>
    have hfree := mt hconflicts.1 hconflict
    split at h
    next hcount =>
      simp only [ok_iff] at h
      obtain ⟨inclusion, -, -, -, h⟩ := h
      exact .confirmed ((HnsSnapshot.confirms_iff hevidence).2 hcount) hfree
        (observeConfirmed_eq_ok h)
    next hcount =>
      have habsent := mt (HnsSnapshot.confirms_iff hevidence).1 hcount
      split at h
      next => cases h
      next =>
        split at h
        next hmempool =>
          cases h
          exact .mempool ((HnsSnapshot.inMempool_iff hevidence).2 hmempool) habsent hfree
            ⟨rfl, rfl, rfl, rfl⟩ rfl rfl
        next hmempool =>
          have hevicted := mt (HnsSnapshot.inMempool_iff hevidence).1 hmempool
          split at h
          next hneeds =>
            cases h
            exact .gone habsent hevicted hfree ⟨rfl, rfl, rfl, rfl⟩ (by rw [if_pos hneeds]) rfl
          next hneeds =>
            cases h
            exact .gone habsent hevicted hfree ⟨rfl, rfl, rfl, rfl⟩ (by rw [if_neg hneeds]) rfl

inductive NameReconciled (snapshot : HnsSnapshot) (nowUnix : UInt64) (w : HnsNameWorkflow)
    (observation : NameObservation) : Prop where
  | untouched (stage : w.stage.isObserved = false)
      (live : w.stage = .prepared → nowUnix < w.plan.expiresAtUnix)
      (same : observation = ⟨w, false, false⟩)
  | expired (stage : w.stage = .prepared) (ended : w.plan.expiresAtUnix ≤ nowUnix)
      (same : observation = ⟨{ w with stage := .expired }, true, false⟩)
  | observed (stage : w.stage.isObserved) {transactionId : Bytes 32} {signed : List UInt8}
      {transaction : HnsTransaction} (hid : w.transaction = some transactionId)
      (hsigned : w.signedTransaction = some signed)
      (hdecode : decodeTransactionForId signed transactionId = .ok transaction)
      (is : Observed snapshot w transactionId transaction.spentOutpoints observation)

theorem reconcileNameWorkflow_eq_ok
    (h : reconcileNameWorkflow snapshot nowUnix w = .ok observation) :
    NameReconciled snapshot nowUnix w observation := by
  unfold reconcileNameWorkflow at h
  split at h
  next hprepared =>
    split at h
    next hover =>
      cases h
      exact .expired hprepared hover rfl
    next hlive =>
      cases h
      exact .untouched (by rw [hprepared]; rfl) (fun _ => UInt64.not_le.1 hlive) rfl
  next hprepared =>
    split at h
    next hobserved =>
      obtain ⟨transactionId, signed, transaction, hid, hsigned, hdecode, hlook⟩ :=
        observeSubmitted_eq_ok h
      exact .observed hobserved hid hsigned hdecode hlook
    next hobserved =>
      cases h
      exact .untouched (by simpa using hobserved) (fun hp => absurd hp hprepared) rfl

theorem NameReconciled.same (h : NameReconciled snapshot nowUnix w observation) :
    w.SameOperation observation.workflow := by
  cases h with
  | untouched _ _ same => exact same ▸ .refl w
  | expired _ _ same => exact same ▸ ⟨rfl, rfl, rfl, rfl⟩
  | observed _ _ _ _ is =>
    cases is with
    | conflicted _ same _ _ => exact same
    | confirmed _ _ is => exact is.same
    | mempool _ _ _ same _ _ => exact same
    | gone _ _ _ same _ _ => exact same

theorem NameReconciled.workflow_eq (h : NameReconciled snapshot nowUnix w observation)
    (hchanged : observation.changed w = false) : observation.workflow = w := by
  have hsame := h.same
  simp only [NameObservation.changed, Bool.or_eq_false_iff, decide_eq_false_iff_not,
    ne_eq, not_not] at hchanged
  obtain ⟨⟨⟨hstage, hbinding⟩, hinclusion⟩, hheight⟩ := hchanged
  obtain ⟨plan, stage, transaction, signed, quote, binding, inclusion, height⟩ := w
  obtain ⟨⟨plan', stage', transaction', signed', quote', binding', inclusion', height'⟩, _, _⟩ :=
    observation
  obtain ⟨h₁, h₂, h₃, h₄⟩ := hsame
  dsimp only at hstage hbinding hinclusion hheight h₁ h₂ h₃ h₄
  rw [hstage, hbinding, hinclusion, hheight, h₁, h₂, h₃, h₄]

end Laws

def WorkflowKind.isName : WorkflowKind → Bool
  | .nameTransfer | .nameFinalize | .nameUpdate => true
  | _ => false

@[simp] theorem HnsNameAction.isName_workflowKind (action : HnsNameAction) :
    action.workflowKind.isName := by
  cases action <;> rfl

section Rows

variable {V : Type} [Serde V HnsNameWorkflow]

def WalletStore.nameWorkflow (store : WalletStore V) (id : WorkflowId) : Option HnsNameWorkflow :=
  (store.workflows.lookup id).bind fun row =>
    if row.kind.isName then Serde.fromSlice row.state else none

variable {store store' s t u : WalletStore V} {id : WorkflowId} {row : WorkflowRow V}
  {config : HnsRuntimeConfig} {snapshot : HnsSnapshot} {kind : WorkflowKind} {nowUnix : UInt64}
  {w : HnsNameWorkflow}

namespace WalletStore

theorem nameWorkflow_eq_some : store.nameWorkflow id = some w ↔ ∃ row,
    store.workflows.lookup id = some row ∧ row.kind.isName ∧ Serde.fromSlice row.state =
      some w := by
  unfold nameWorkflow
  rw [Option.bind_eq_some_iff]
  refine exists_congr fun row => and_congr_right fun _ => ?_
  split <;> simp [*]

theorem nameWorkflow_congr (h : store'.workflows.lookup id = store.workflows.lookup id) :
    store'.nameWorkflow id = store.nameWorkflow id := by
  rw [nameWorkflow, nameWorkflow, h]

theorem nameWorkflow_putWorkflow (hkind : kind.isName) {revision updatedAt : UInt64}
    {irreversible : Bool} :
    (store.putWorkflow id ⟨kind, revision, Serde.toVec w, irreversible, updatedAt⟩).nameWorkflow
      id =
      some w :=
  nameWorkflow_eq_some.2 ⟨_, putWorkflow_lookup, hkind, Serde.fromSlice_toVec w⟩

theorem nameWorkflow_of_load {stored : StoredWorkflow HnsNameWorkflow}
    (h : store.loadWorkflow HnsNameWorkflow id = .ok (some stored)) (hkind : stored.kind.isName) :
    store.nameWorkflow id = some stored.state := by
  obtain ⟨-, row, state, hlookup, hstate, rfl⟩ := loadWorkflow_eq_some.1 h
  exact nameWorkflow_eq_some.2 ⟨row, hlookup, hkind, hstate⟩

end WalletStore

variable [Encoded V] [Serde V HnsInputReservation] {stored : StoredWorkflow HnsNameWorkflow}

theorem saveObservedName_eq_ok {observation : NameObservation}
    (h : saveObservedName config stored kind observation nowUnix s = .ok (t, ())) :
    ∃ deletes written next, WalletStore.Batched .inputReservation
        ([] : List (EntityBatchSave HnsInputReservation)) deletes s written ∧
      (if observation.deleteReservations then reservationDeletes s config stored.id else .ok []) =
        .ok deletes ∧
      s.authenticatedWorkflowRevision stored.id kind = .ok stored.revision ∧
      t = written.putWorkflow stored.id ⟨kind, next, Serde.toVec observation.workflow,
        observation.workflow.signedTransaction.isSome, nowUnix⟩ := by
  simp only [saveObservedName, ok_iff] at h
  obtain ⟨deletes, hdeletes, ⟨saved, next⟩, hsave, hret⟩ := h
  cases hret
  obtain ⟨-, hrevision, -, written, hbatched, rfl⟩ :=
    saveWorkflowWithEntityBatch_batched hsave
  exact ⟨deletes, written, next, hbatched, hdeletes, hrevision, rfl⟩

variable [HnsTransactions]

theorem reconcileListedName_eq_ok {pending : Bool}
    (h : reconcileListedName config snapshot kind nowUnix stored s = .ok pending t) :
    (∀ id, id ≠ stored.id → t.workflows.lookup id = s.workflows.lookup id) ∧
      (¬ stored.state.plan.ofAccount config → t = s) ∧
      (stored.state.plan.ofAccount config → kind.isName →
        s.nameWorkflow stored.id = some stored.state →
        stored.state.plan.workflowId = stored.id ∧
        ∃ observation, reconcileNameWorkflow snapshot nowUnix stored.state = .ok observation ∧
          pending = observation.isPending ∧
          t.nameWorkflow stored.id = some observation.workflow ∧
          (t = s ∨ (t.workflows.lookup stored.id).map WorkflowRow.kind = some kind)) := by
  unfold reconcileListedName at h
  split at h
  next hforeign =>
    obtain ⟨-, rfl⟩ := attempt_pure_eq_ok.1 h
    exact ⟨fun _ _ => rfl, fun _ => rfl, fun hown => absurd hown hforeign⟩
  next hown =>
    rw [not_not] at hown
    simp only [attempt_bind_eq_ok, lift_eq_ok, refuseIf_eq_ok] at h
    obtain ⟨-, _, ⟨hkind, rfl⟩, observation, _, ⟨hobservation, rfl⟩, ⟨⟩, mid, hmid, hret⟩ := h
    obtain ⟨rfl, rfl⟩ := attempt_pure_eq_ok.1 hret
    rw [not_or, not_not, not_not] at hkind
    have hlaw := reconcileNameWorkflow_eq_ok hobservation
    by_cases hchanged : observation.changed stored.state
    · rw [if_pos hchanged, transact_eq_ok] at hmid
      obtain ⟨deletes, written, next, hbatched, -, -, rfl⟩ := saveObservedName_eq_ok hmid
      refine ⟨fun id hid => ?_, fun hforeign => absurd hown hforeign, fun _ hname _ =>
        ⟨hkind.2, observation, hobservation, rfl, nameWorkflow_putWorkflow hname, .inr ?_⟩⟩
      · rw [putWorkflow_lookup_ne hid, hbatched.workflows]
      · rw [putWorkflow_lookup, Option.map_some]
    · rw [if_neg hchanged] at hmid
      obtain ⟨-, rfl⟩ := attempt_pure_eq_ok.1 hmid
      refine ⟨fun _ _ => rfl, fun _ => rfl, fun _ _ hrow =>
        ⟨hkind.2, observation, hobservation, rfl, ?_, .inl rfl⟩⟩
      rw [hrow, hlaw.workflow_eq (by simpa using hchanged)]

structure NamesPassed (config : HnsRuntimeConfig) (snapshot : HnsSnapshot) (nowUnix : UInt64)
    (kinds : List WorkflowKind) (pending : List WorkflowId) (s t : WalletStore V) : Prop where
  kind_eq : ∀ id, (t.workflows.lookup id).map WorkflowRow.kind =
    (s.workflows.lookup id).map WorkflowRow.kind
  others : ∀ id row, s.workflows.lookup id = some row → row.kind ∉ kinds →
    t.workflows.lookup id = some row
  rows : ∀ id row, s.workflows.lookup id = some row → row.kind ∈ kinds →
    ∃ w, Serde.fromSlice row.state = some w ∧
      (¬ w.plan.ofAccount config → t.workflows.lookup id = some row) ∧
      (w.plan.ofAccount config → w.plan.workflowId = id ∧
        ∃ observation, reconcileNameWorkflow snapshot nowUnix w = .ok observation ∧
          t.nameWorkflow id = some observation.workflow ∧
          (observation.isPending → id ∈ pending))

theorem reconcileListedNames_eq (listed : List (StoredWorkflow HnsNameWorkflow)) :
    reconcileListedNames (V := V) config snapshot kind nowUnix listed =
      passEach (reconcileListedName config snapshot kind nowUnix) StoredWorkflow.id listed := by
  induction listed with
  | nil => rfl
  | cons first rest ih => rw [reconcileListedNames, passEach, ih]

theorem reconcileListedName_local : Local (fun s : WalletStore V => s.workflows.lookup)
    (reconcileListedName config snapshot kind nowUnix) StoredWorkflow.id :=
  fun _ _ _ _ _ h hne => (reconcileListedName_eq_ok h).1 _ hne

variable {pending : List WorkflowId}

theorem reconcileNameKind_passed (hname : kind.isName)
    (h : reconcileNameKind config snapshot nowUnix kind s = .ok pending t) :
    NamesPassed config snapshot nowUnix [kind] pending s t := by
  simp only [reconcileNameKind, reconcileListedNames_eq, attempt_bind_eq_ok, reading_eq_ok,
    mapError_eq_ok] at h
  obtain ⟨listed, _, ⟨hlisted, rfl⟩, h⟩ := h
  obtain ⟨hframe, hpassed⟩ := passEach_rows reconcileListedName_local
    (nodup_of_listWorkflowsComplete hlisted) h
  have houtside : ∀ id, (∀ row, s.workflows.lookup id = some row → row.kind ≠ kind) →
      t.workflows.lookup id = s.workflows.lookup id := by
    intro id hother
    refine hframe id fun hin => ?_
    obtain ⟨stored, hstored, rfl⟩ := List.mem_map.1 hin
    obtain ⟨row, hlookup, hkind, -⟩ := row_of_listed hlisted hstored
    exact hother row hlookup hkind
  -- what became of a workflow of the listing
  have hlook : ∀ stored ∈ listed,
      (t.workflows.lookup stored.id).map WorkflowRow.kind = some kind ∧
      (¬ stored.state.plan.ofAccount config →
        t.workflows.lookup stored.id = s.workflows.lookup stored.id) ∧
      (stored.state.plan.ofAccount config → stored.state.plan.workflowId = stored.id ∧
        ∃ observation, reconcileNameWorkflow snapshot nowUnix stored.state = .ok observation ∧
          t.nameWorkflow stored.id = some observation.workflow ∧
          (observation.isPending → stored.id ∈ pending)) := by
    intro stored hstored
    obtain ⟨row, hrow, hkind, hstate⟩ := row_of_listed hlisted hstored
    obtain ⟨s', t', asks, hcall, hbefore, hafter, hasks⟩ := hpassed stored hstored
    obtain ⟨-, hforeign, hown⟩ := reconcileListedName_eq_ok hcall
    have hrow' : s'.workflows.lookup stored.id = some row := hbefore.trans hrow
    have hkind' : (s'.workflows.lookup stored.id).map WorkflowRow.kind = some kind := by
      rw [hrow', Option.map_some, hkind]
    have hafter : t.workflows.lookup stored.id = t'.workflows.lookup stored.id := hafter
    by_cases haccount : stored.state.plan.ofAccount config
    · obtain ⟨hid, observation, hobservation, rfl, hresult, hcase⟩ := hown haccount hname
        (nameWorkflow_eq_some.2 ⟨row, hrow', hkind ▸ hname, hstate⟩)
      refine ⟨?_, fun hf => absurd haccount hf, fun _ => ⟨hid, observation, hobservation,
        ?_, hasks⟩⟩
      · rw [hafter]
        rcases hcase with rfl | hsame
        · exact hkind'
        · exact hsame
      · rw [nameWorkflow_congr hafter, hresult]
    · obtain rfl := hforeign haccount
      exact ⟨by rw [hafter, hkind'], fun _ => hafter.trans hbefore, fun hf => absurd hf haccount⟩
  refine ⟨fun id => ?_, fun id row hlookup hkind => ?_, fun id row hlookup hkind => ?_⟩
  · cases hlookup : s.workflows.lookup id with
    | none =>
      have hkept := houtside id fun row hrow => absurd (hlookup.symm.trans hrow) (by simp)
      rw [hkept, hlookup]
    | some row =>
      by_cases hkind : row.kind = kind
      · obtain ⟨stored, hstored, rfl, -⟩ := listed_of_row hlisted hlookup hkind
        rw [(hlook stored hstored).1, Option.map_some, hkind]
      · have hkept := houtside id fun row' hrow' =>
          Option.some.inj (hlookup.symm.trans hrow') ▸ hkind
        rw [hkept, hlookup]
  · have hkept := houtside id fun row' hrow' =>
      Option.some.inj (hlookup.symm.trans hrow') ▸ (by simpa using hkind)
    rw [hkept, hlookup]
  · obtain ⟨stored, hstored, rfl, hstate⟩ :=
      listed_of_row hlisted hlookup (by simpa using hkind)
    obtain ⟨-, hforeign, hown⟩ := hlook stored hstored
    exact ⟨stored.state, hstate, fun hf => (hforeign hf).trans hlookup, hown⟩

omit [Encoded V] [Serde V HnsInputReservation] in
theorem NamesPassed.append {kinds kinds' : List WorkflowKind} {pending pending' : List WorkflowId}
    (h : NamesPassed config snapshot nowUnix kinds pending s t)
    (h' : NamesPassed config snapshot nowUnix kinds' pending' t u)
    (hdisjoint : ∀ kind ∈ kinds, kind ∉ kinds') :
    NamesPassed config snapshot nowUnix (kinds ++ kinds') (pending ++ pending') s u where
  kind_eq id := (h'.kind_eq id).trans (h.kind_eq id)
  others id row hlookup hkind := by
    rw [List.mem_append, not_or] at hkind
    exact h'.others id row (h.others id row hlookup hkind.1) hkind.2
  rows id row hlookup hkind := by
    by_cases hfirst : row.kind ∈ kinds
    · obtain ⟨w, hstate, hforeign, hown⟩ := h.rows id row hlookup hfirst
      have hkept : ∀ row', t.workflows.lookup id = some row' → row'.kind ∉ kinds' := by
        intro row' hrow'
        have hsame := h.kind_eq id
        rw [hrow', hlookup, Option.map_some, Option.map_some, Option.some_inj] at hsame
        exact hsame ▸ hdisjoint _ hfirst
      refine ⟨w, hstate, fun hf => h'.others id row (hforeign hf) (hkept row (hforeign hf)),
        fun hf => ?_⟩
      obtain ⟨hid, observation, hobservation, hresult, hpending⟩ := hown hf
      obtain ⟨row', hrow', -, -⟩ := nameWorkflow_eq_some.1 hresult
      refine ⟨hid, observation, hobservation, ?_, fun hp => List.mem_append_left _ (hpending hp)⟩
      rw [← hresult]
      refine nameWorkflow_congr ?_
      rw [h'.others id row' hrow' (hkept row' hrow'), hrow']
    · have hsecond : row.kind ∈ kinds' := (List.mem_append.1 hkind).resolve_left hfirst
      obtain ⟨w, hstate, hforeign, hown⟩ :=
        h'.rows id row (h.others id row hlookup hfirst) hsecond
      refine ⟨w, hstate, hforeign, fun hf => ?_⟩
      obtain ⟨hid, observation, hobservation, hresult, hpending⟩ := hown hf
      exact ⟨hid, observation, hobservation, hresult,
        fun hp => List.mem_append_right _ (hpending hp)⟩

theorem reconcileNameWorkflows_passed
    (h : reconcileNameWorkflows config snapshot nowUnix s = .ok pending t) :
    NamesPassed config snapshot nowUnix [.nameTransfer, .nameFinalize, .nameUpdate]
      pending s t := by
  simp only [reconcileNameWorkflows, attempt_bind_eq_ok] at h
  obtain ⟨transfers, s₁, h₁, finalizations, s₂, h₂, updates, s₃, h₃, hret⟩ := h
  obtain ⟨rfl, rfl⟩ := attempt_pure_eq_ok.1 hret
  have first := (reconcileNameKind_passed rfl h₁).append (reconcileNameKind_passed rfl h₂)
    (by decide)
  exact first.append (reconcileNameKind_passed rfl h₃) (by decide)

theorem reconcileNameWorkflows_eq_ok
    (h : reconcileNameWorkflows config snapshot nowUnix s = .ok pending t)
    {w' : HnsNameWorkflow} (hrow : t.nameWorkflow id = some w') (hown : w'.plan.ofAccount config) :
    ∃ w observation, s.nameWorkflow id = some w ∧
      reconcileNameWorkflow snapshot nowUnix w = .ok observation ∧ w' = observation.workflow ∧
      (observation.isPending → id ∈ pending) := by
  have hpassed := reconcileNameWorkflows_passed h
  obtain ⟨row', hlookup', hname, hstate'⟩ := nameWorkflow_eq_some.1 hrow
  have hsame := hpassed.kind_eq id
  rw [hlookup', Option.map_some] at hsame
  obtain ⟨row, hlookup, hkind⟩ := Option.map_eq_some_iff.1 hsame.symm
  have hmem : row.kind ∈ [WorkflowKind.nameTransfer, .nameFinalize, .nameUpdate] := by
    rw [hkind]
    revert hname
    cases row'.kind <;> simp [WorkflowKind.isName]
  obtain ⟨w, hstate, hforeign, hpass⟩ := hpassed.rows id row hlookup hmem
  have hread : s.nameWorkflow id = some w :=
    nameWorkflow_eq_some.2 ⟨row, hlookup, hkind ▸ hname, hstate⟩
  by_cases haccount : w.plan.ofAccount config
  · obtain ⟨-, observation, hobservation, hresult, hpending⟩ := hpass haccount
    exact ⟨w, observation, hread, hobservation, Option.some.inj (hrow.symm.trans hresult), hpending⟩
  · have hkept := hforeign haccount
    rw [hlookup'] at hkept
    cases hkept
    cases hstate'.symm.trans hstate
    exact absurd hown haccount

end Rows

end HnsWallet
