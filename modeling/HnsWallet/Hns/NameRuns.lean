import HnsWallet.Hns.Operations

/-! # Name workflows along runs -/

namespace HnsWallet

open Lib WalletStore

structure NameWritten (config : HnsRuntimeConfig) (id : WorkflowId) (w : HnsNameWorkflow) :
    Prop where
  own : w.plan.ofAccount config
  named : w.plan.workflowId = id
  ordinary : ∀ input ∈ w.plan.fundingInputs, isOrdinaryHnsSpendCandidate input
  funded : w.plan.fundingInputs ≠ []
  nodup : (w.plan.reservations.map Prod.fst).Nodup
  updated : w.stage = .updated → w.plan.action = .update
  unsigned : w.stage = .prepared → w.signedTransaction = none
  signed : w.stage.isObserved → w.stage ≠ .reapprovalRequired →
    w.signedTransaction.isSome ∧ w.transaction.isSome

section Moves

variable {config : HnsRuntimeConfig} {powers : MovePowers} {id : WorkflowId}
  {effect : HoldingEffect} {handed : List (List UInt8)} {before : Option HnsNameWorkflow}
  {w w' : HnsNameWorkflow} {snapshot : HnsSnapshot} {nowUnix : UInt64}
  {observation : NameObservation} {reserved : Holdings}

theorem NameWritten.restage (h : NameWritten config id w) (hsame : w.SameOperation w')
    (hupdated : w'.stage = .updated → w.plan.action = .update)
    (hunsigned : w'.stage = .prepared → w.signedTransaction = none)
    (hsigned : w'.stage.isObserved → w'.stage ≠ .reapprovalRequired →
      w.signedTransaction.isSome ∧ w.transaction.isSome) : NameWritten config id w' where
  own := hsame.plan ▸ h.own
  named := hsame.plan ▸ h.named
  ordinary := hsame.plan ▸ h.ordinary
  funded := hsame.plan ▸ h.funded
  nodup := hsame.plan ▸ h.nodup
  updated := fun hstage => hsame.plan ▸ hupdated hstage
  unsigned := fun hstage => hsame.signedTransaction ▸ hunsigned hstage
  signed := fun hobserved hne => by
    rw [hsame.signedTransaction, hsame.transaction]
    exact hsigned hobserved hne

theorem Observed.stage_cases {transactionId : Bytes 32} {outpoints : List HnsOutpoint}
    (h : Observed snapshot w transactionId outpoints observation) :
    observation.workflow.stage ≠ .prepared ∧
      (observation.workflow.stage = .updated → w.plan.action = .update) := by
  cases h with
  | conflicted _ _ stage _ => simp [stage]
  | confirmed _ _ is =>
    refine ⟨fun hprepared => ?_, is.updated⟩
    have hstage := is.stage
    rw [hprepared] at hstage
    cases hstage
  | mempool _ _ _ _ stage _ => simp [stage]
  | gone _ _ _ _ stage _ =>
    rw [stage]
    split <;> simp

variable [HnsTransactions]

theorem NameWritten.look (h : NameWritten config id w)
    (hlook : NameReconciled snapshot nowUnix w observation) :
    NameWritten config id observation.workflow := by
  have hsame := hlook.same
  cases hlook with
  | untouched _ _ same => exact same ▸ h
  | expired _ _ same =>
    subst same
    exact h.restage hsame (fun hstage => by cases hstage) (fun hstage => by cases hstage)
      fun hstage => by cases hstage
  | observed _ hid hsigned _ is =>
    obtain ⟨hprepared, hupdated⟩ := is.stage_cases
    exact h.restage hsame hupdated (fun hstage => absurd hstage hprepared)
      fun _ _ => by rw [hid, hsigned]; exact ⟨rfl, rfl⟩

theorem NameMove.written (h : NameMove config powers id effect handed before w')
    (hpossible : effect.Possible reserved)
    (hbefore : ∀ w, before = some w → NameWritten config id w) : NameWritten config id w' := by
  cases h with
  | prepare own named ordinary funded =>
    exact ⟨own, named, ordinary, funded, hpossible.1, fun hstage => (by cases hstage),
      fun _ => rfl, fun hstage => by cases hstage⟩
  | @mark w stage allowed =>
    exact (hbefore w rfl).restage ⟨rfl, rfl, rfl, rfl⟩ (fun hstage => by cases hstage)
      (fun hstage => by cases hstage) fun _ hne => absurd rfl hne
  | @authorize w stage commitNow allowed live signed transactionId quote =>
    have hw := hbefore w rfl
    exact ⟨hw.own, hw.named, hw.ordinary, hw.funded, hw.nodup, fun hstage => (by cases hstage),
      fun hstage => (by cases hstage), fun _ _ => ⟨rfl, rfl⟩⟩
  | @submit w raw stage signed transaction quote =>
    have hw := hbefore w rfl
    exact ⟨hw.own, hw.named, hw.ordinary, hw.funded, hw.nodup, fun hstage => (by cases hstage),
      fun hstage => (by cases hstage), fun _ _ => ⟨by rw [signed]; rfl, transaction⟩⟩
  | @accept w stage =>
    refine (hbefore w rfl).restage ⟨rfl, rfl, rfl, rfl⟩ (fun hstage => by cases hstage)
      (fun hstage => by cases hstage) fun _ _ => (hbefore w rfl).signed ?_ ?_
    · rw [stage]
      rfl
    · rw [stage]
      simp
  | @cancel w stage =>
    exact (hbefore w rfl).restage ⟨rfl, rfl, rfl, rfl⟩ (fun hstage => by cases hstage)
      (fun hstage => by cases hstage) fun hstage => by cases hstage
  | @look w snapshot nowUnix observation allowed is =>
    exact (hbefore w rfl).look (reconcileNameWorkflow_eq_ok is)

def HnsBook.NamesWritten (config : HnsRuntimeConfig) (b : HnsBook) : Prop :=
  ∀ id w, b.names id = some w → NameWritten config id w

theorem HnsBook.Move.namesWritten {powers : BookPowers} {b b' : HnsBook}
    (h : HnsBook.Move config powers b b') (hb : b.NamesWritten config) :
    b'.NamesWritten config := by
  cases h with
  | @name id effect handed w' other possible move =>
    refine (Function.forall_update_iff b.names fun id o => ∀ w, o = some w →
      NameWritten config id w).2 ⟨?_, fun id' _ => hb id'⟩
    rintro _ ⟨⟩
    exact move.written possible (hb id)
  | send _ _ _ => exact hb
  | drop _ _ => exact hb

/-- The stage says what the snapshot shows: a confirmed stage only for a transaction that the
snapshot confirms, and for one that was confirmed before and is neither in the chain nor in
conflict now, a stage that asks for a new approval or waits in the mempool. -/
def ConfirmedNow (snapshot : HnsSnapshot) (w₀ w : HnsNameWorkflow) : Prop :=
  (w.stage.isConfirmed → ∃ transactionId, w.transaction = some transactionId ∧
    snapshot.Confirms transactionId ∧ w.lastVerifiedBinding = some snapshot.binding) ∧
  (w₀.stage.isConfirmed → ∀ transactionId raw transaction, w₀.transaction = some transactionId →
    w₀.signedTransaction = some raw → decodeTransactionForId raw transactionId = .ok transaction →
    ¬ snapshot.Confirms transactionId →
    ¬ snapshot.Conflicts transactionId transaction.spentOutpoints →
    w.stage = .reapprovalRequired ∨ w.stage = .mempool)

theorem NameReconciled.confirmedNow {w₀ : HnsNameWorkflow} {observation : NameObservation}
    (h : NameReconciled snapshot nowUnix w₀ observation) (hupdated : w₀.stage ≠ .updated) :
    ConfirmedNow snapshot w₀ observation.workflow := by
  have hlooked : w₀.stage.isConfirmed → w₀.stage.isObserved := by
    cases hstage : w₀.stage <;> simp [NameOperationState.isConfirmed,
      NameOperationState.isObserved]
    exact hupdated hstage
  cases h with
  | untouched stage _ same =>
    have hnot : ¬ w₀.stage.isConfirmed := fun hconfirmed => by
      rw [hlooked hconfirmed] at stage
      cases stage
    rw [same]
    exact ⟨fun hconfirmed => absurd hconfirmed hnot, fun hconfirmed => absurd hconfirmed hnot⟩
  | expired stage _ same =>
    rw [same, ConfirmedNow, stage]
    exact ⟨fun hconfirmed => (by cases hconfirmed), fun hconfirmed => (by cases hconfirmed)⟩
  | @observed _ transactionId signed transaction hid hsigned hdecode is =>
    constructor
    · intro hconfirmed
      cases is with
      | conflicted _ _ stage _ =>
        rw [stage] at hconfirmed
        cases hconfirmed
      | confirmed confirms _ is =>
        exact ⟨transactionId, is.same.transaction.trans hid, confirms, is.binding⟩
      | mempool _ _ _ _ stage _ =>
        rw [stage] at hconfirmed
        cases hconfirmed
      | gone _ _ _ _ stage _ =>
        rw [stage] at hconfirmed
        split at hconfirmed <;> cases hconfirmed
    · intro hconfirmed transactionId' raw transaction' hid' hraw' hdecode' habsent hfree
      cases hid.symm.trans hid'
      cases hsigned.symm.trans hraw'
      cases hdecode.symm.trans hdecode'
      cases is with
      | conflicted conflicts _ _ _ => exact absurd conflicts hfree
      | confirmed confirms _ _ => exact absurd confirms habsent
      | mempool _ _ _ _ stage _ => exact .inr stage
      | gone _ _ _ _ stage _ =>
        refine .inl (stage.trans (if_pos ?_))
        revert hconfirmed
        cases hstage : w₀.stage <;> simp [NameOperationState.isConfirmed,
          NameOperationState.needsReapproval]
        exact hupdated hstage

end Moves

section Runs

variable {V : Type} [Encoded V] [Serde V HnsInputReservation] [Serde V HnsNameWorkflow]
  [Serde V HnsSendWorkflow] {config : HnsRuntimeConfig} {s t : WalletStore V}
  {system : HnsSystem V} {ops : List HnsOperation} {snapshot : HnsSnapshot} {nowUnix : UInt64}
  {id : WorkflowId} {pending : List WorkflowId}

theorem reconcileSendWorkflows_nameWorkflow {sends : List WorkflowId}
    (h : reconcileSendWorkflows config snapshot nowUnix s = .ok sends t) :
    t.nameWorkflow = s.nameWorkflow := by
  simp only [reconcileSendWorkflows, reconcileListedSends_eq, attempt_bind_eq_ok, reading_eq_ok,
    mapError_eq_ok] at h
  obtain ⟨listed, _, ⟨hlisted, rfl⟩, h⟩ := h
  obtain ⟨hframe, hpassed⟩ := passEach_rows reconcileListedSend_local
    (nodup_of_listWorkflowsComplete hlisted) h
  funext id
  by_cases hin : id ∈ listed.map StoredWorkflow.id
  · obtain ⟨stored, hstored, rfl⟩ := List.mem_map.1 hin
    obtain ⟨s', t', asks, hcall, hbefore, hafter, -⟩ := hpassed stored hstored
    rw [nameWorkflow_congr hafter, ← nameWorkflow_congr hbefore]
    rcases reconcileListedSend_saved hcall with rfl | ⟨w, hsaved⟩
    · rfl
    · rw [hsaved.sends.2.1]
  · exact nameWorkflow_congr (hframe id hin)

variable [Serde V HnsPreparedSettlement] [HnsTransactions]

theorem reconcileWorkflows_eq_ok
    (h : reconcileWorkflows config snapshot nowUnix s = .ok pending t) :
    ∃ names sends mid mid', reconcileNameWorkflows config snapshot nowUnix s = .ok names mid ∧
      reconcileSendWorkflows config snapshot nowUnix mid = .ok sends mid' ∧
      cleanupInputReservations config snapshot nowUnix mid' = .ok (t, ()) ∧
      pending = names ++ sends ∧ t.workflows = mid'.workflows ∧
      mid'.nameWorkflow = mid.nameWorkflow := by
  simp only [reconcileWorkflows, attempt_bind_eq_ok, transact_eq_ok] at h
  obtain ⟨names, mid, hnames, sends, mid', hsends, ⟨⟩, u, hcleanup, hret⟩ := h
  obtain ⟨rfl, rfl⟩ := attempt_pure_eq_ok.1 hret
  refine ⟨names, sends, mid, mid', hnames, hsends, hcleanup, rfl, ?_, ?_⟩
  · simp only [cleanupInputReservations, ok_iff] at hcleanup
    obtain ⟨_, -, _, -, _, -, _, -, -, -, h⟩ := hcleanup
    split at h
    next =>
      cases h
      rfl
    next =>
      obtain ⟨written, hbatch, hret⟩ := ok_bind_iff.1 h
      cases hret
      exact (applyEntityBatch_batched (mapError_eq_ok.1 hbatch)).2.workflows
  · exact reconcileSendWorkflows_nameWorkflow hsends

theorem looked_of_reconcile (h : reconcileWorkflows config snapshot nowUnix s = .ok pending t)
    {w : HnsNameWorkflow} (hread : t.nameWorkflow id = some w) (hown : w.plan.ofAccount config) :
    ∃ w₀ observation, s.nameWorkflow id = some w₀ ∧
      NameReconciled snapshot nowUnix w₀ observation ∧ w = observation.workflow ∧
      (observation.isPending → id ∈ pending) := by
  obtain ⟨names, sends, mid, mid', hnames, -, -, rfl, hworkflows, hsame⟩ :=
    reconcileWorkflows_eq_ok h
  have hmid : mid.nameWorkflow id = some w := by
    rw [← hsame, ← hread]
    exact nameWorkflow_congr (by rw [hworkflows])
  obtain ⟨w₀, observation, hread₀, hlook, hw, hpending⟩ :=
    reconcileNameWorkflows_eq_ok hnames hmid hown
  exact ⟨w₀, observation, hread₀, reconcileNameWorkflow_eq_ok hlook, hw,
    fun hp => List.mem_append_left _ (hpending hp)⟩

variable [Sha256]

theorem HnsSystem.namesWritten_of_run [SendsApart V]
    (hrun : Run (HnsSystem.Step config) (.empty : HnsSystem V) ops system) :
    system.store.Sound ∧ (system.book config).NamesWritten config :=
  run_invariant hrun empty_sound (fun _ _ _ _ hmove => hmove.namesWritten)
    fun _ _ hread => by cases hread

/-- After every successful reconciliation of every run: a name workflow that was not an update
found confirmed before is in a confirmed stage only if the snapshot confirms it, and one that
was in a confirmed stage and is gone without a conflict asks for a new approval or is back in
the mempool. -/
theorem name_confirmedNow [SendsApart V]
    (hrun : Run (HnsSystem.Step config) (.empty : HnsSystem V) ops system)
    (h : reconcileWorkflows config snapshot nowUnix system.store = .ok pending t)
    {w : HnsNameWorkflow} (hread : t.nameWorkflow id = some w) (hown : w.plan.ofAccount config)
    (hupdate : ∀ w₀, system.store.nameWorkflow id = some w₀ → w₀.plan.action = .update →
      w₀.stage ≠ .updated) :
    ∃ w₀, system.store.nameWorkflow id = some w₀ ∧ ConfirmedNow snapshot w₀ w := by
  obtain ⟨-, hwritten⟩ := HnsSystem.namesWritten_of_run hrun
  obtain ⟨w₀, observation, hread₀, hlook, rfl, -⟩ := looked_of_reconcile h hread hown
  refine ⟨w₀, hread₀, hlook.confirmedNow fun hstage => ?_⟩
  exact hupdate w₀ hread₀ ((hwritten id w₀ hread₀).updated hstage) hstage

end Runs

namespace Sample

inductive HnsValue where
  | name (workflow : HnsNameWorkflow)
  | send (workflow : HnsSendWorkflow)
  | settlement (settlement : HnsPreparedSettlement)
  | reservation (reservation : HnsInputReservation)

namespace HnsValue

instance : Encoded HnsValue := ⟨fun _ => 1⟩

instance : Serde HnsValue HnsNameWorkflow :=
  ⟨name, fun | name w => some w | _ => none, fun _ => rfl⟩

instance : Serde HnsValue HnsSendWorkflow :=
  ⟨send, fun | send w => some w | _ => none, fun _ => rfl⟩

instance : Serde HnsValue HnsPreparedSettlement :=
  ⟨settlement, fun | settlement p => some p | _ => none, fun _ => rfl⟩

instance : Serde HnsValue HnsInputReservation :=
  ⟨reservation, fun | reservation r => some r | _ => none, fun _ => rfl⟩

instance : SendsApart HnsValue where
  apart v w h := by
    cases v with
    | send => rfl
    | name | settlement | reservation => cases h

end HnsValue

def hnsHash (n : UInt8) : Bytes 32 := .replicate 32 n

def hnsOutpoint (n : UInt8) : HnsOutpoint := ⟨hnsHash n, 0⟩

def hnsConfig : HnsRuntimeConfig := ⟨⟨.replicate 16 1⟩, ⟨.replicate 16 2⟩⟩

@[reducible] def hnsSha : Sha256 := ⟨fun bytes => hnsHash (bytes.getLastD 0)⟩

def hnsTransaction (n : UInt8) : HnsTransaction where
  version := n.toUInt32
  inputs := [⟨hnsOutpoint n, 0, []⟩, ⟨hnsOutpoint (n + 100), 0, []⟩]
  outputs := [⟨1000, ⟨0, [n]⟩, ⟨.transfer, []⟩⟩]
  locktime := 0

@[reducible] def hnsTransactions : HnsTransactions where
  decode raw := raw.head?.map hnsTransaction
  transactionHash transaction := some (hnsHash transaction.version.toUInt8)
  isNull _ := false
  verifyCovenantLinks _ _ := true

def hnsCoin (n : UInt8) : TrackedHnsCoin where
  coin := ⟨hnsOutpoint n, 1000, 10, some 5, false, [], false⟩
  derivation := ⟨.hnsCoin, 0, 0, 0⟩
  addressProgram := []

def hnsBinding (epoch : UInt64) : SnapshotBinding := ⟨⟨100, hnsHash 50, hnsHash 51, 1000⟩, epoch⟩

def hnsMempool : MempoolSnapshotBinding := ⟨hnsHash 52, 1⟩

def hnsInclusion : TransactionInclusion := ⟨hnsHash 50, 100, none⟩

def hnsContext (action : HnsNameAction) (n : UInt8) : NameActionContextEvidence where
  action := action
  nameHash := hnsHash n
  ownerCoin := none
  ownerInclusion := hnsInclusion
  actionEligible := false
  ineligibilityReasons := []
  transferHeight := none
  finalizeEligibleHeight := none
  finalizeMature := none
  renewalMaturity := none
  renewalPeriod := none
  renewalBlockHeight := none
  renewalBlockHash := none
  mempoolSpender := none

def hnsSnapshot (epoch : UInt64) (status : TransactionStatus) (coins : List TrackedHnsCoin) :
    HnsSnapshot where
  binding := hnsBinding epoch
  mempool := hnsMempool
  getTransactionEvidence _ := .ok ⟨hnsBinding epoch, hnsMempool, none, status,
    if 0 < status.confirmationCount then some hnsInclusion else none⟩
  getOutpointSpendEvidence batch := .ok ⟨hnsBinding epoch, batch.map (⟨·, none⟩)⟩
  finalizeContext nameHash := .ok (hnsContext .finalize 0,
    ⟨⟨nameHash, 0⟩, 1000, 100, false, ⟨0, nameHash.toList.take 1⟩, ⟨.transfer, []⟩⟩)
  coins := coins

def confirmed : TransactionStatus := ⟨false, 1, false⟩
def inMempool : TransactionStatus := ⟨true, 0, false⟩
def absent : TransactionStatus := ⟨false, 0, false⟩

def hnsPlan (action : HnsNameAction) (n : UInt8) (nowUnix : UInt64) : HnsNamePlan where
  walletId := hnsConfig.walletId
  accountId := hnsConfig.accountId
  workflowId := ⟨.replicate 16 n⟩
  requestNonce := n.toUInt64
  action := action
  name := [n]
  nameHash := hnsHash n
  source := ⟨hnsBinding 1, hnsMempool, [], hnsOutpoint n, [], hnsInclusion, ⟨.hnsCoin, 0, 0, 0⟩,
    hnsContext action n⟩
  recipient := ⟨0, []⟩
  recipientDisplay := ""
  finalize := none
  resourceData := if action = .update then some [] else none
  fundingInputs := [hnsCoin (n + 100)]
  unsignedTransaction := []
  feeRate := 1
  fee := 1
  maximumFee := 1
  expiresAtUnix := nowUnix + 300

def hnsView (plan : HnsNamePlan) (outpoint : HnsOutpoint) : NameAuthorityView where
  cache := ⟨some (hnsBinding 1), some hnsMempool⟩
  verifyWalletNameActionV2 := .ok ⟨hnsBinding 1, hnsMempool, [], outpoint, hnsInclusion,
    ⟨.hnsCoin, 0, 0, 0⟩, none, plan.source.actionContext⟩
  encodeHnsAddress _ := .ok ""
  nowUnix := 1000

def hnsQuote : HnsTransactionFeeQuote := ⟨hnsBinding 1, hnsMempool⟩

def prepareName (action : HnsNameAction) (n : UInt8) (nowUnix : UInt64) : HnsOperation :=
  .prepareName (hnsPlan action n nowUnix)
    ⟨(hnsPlan action n nowUnix).source, hnsCoin n, rfl⟩ [hnsCoin (n + 100)]
    (fun coins => .ok ⟨coins, [], 1, 1⟩) ⟨some (hnsBinding 1), some hnsMempool⟩ nowUnix

def authorizeName (action : HnsNameAction) (n : UInt8) (nowUnix : UInt64) : HnsOperation :=
  let plan := hnsPlan action n nowUnix
  .authorizeName plan ⟨nowUnix, nowUnix, .ok (), hnsView plan (hnsOutpoint n), .ok (),
    .ok ([n], hnsHash n), .ok hnsQuote, nowUnix, hnsView plan (hnsOutpoint n), true⟩

def nameSubmission (action : HnsNameAction) (n : UInt8) : NameSubmission :=
  let plan := hnsPlan action n 1000
  ⟨hnsView plan (hnsOutpoint n), .ok (), .ok hnsQuote, hnsView plan (hnsOutpoint n), 1000,
    .ok (hnsHash n), 1000⟩

def broadcastName (action : HnsNameAction) (n : UInt8) : HnsOperation :=
  .broadcastName ⟨.replicate 16 n⟩ action (hnsHash n) [n] (nameSubmission action n)

section

attribute [local instance] hnsSha hnsTransactions

def hnsAfter (ops : List HnsOperation) : HnsSystem HnsValue :=
  HnsSystem.empty.afterCalls hnsConfig ops

def submitted (action : HnsNameAction) (n : UInt8) : List HnsOperation :=
  [prepareName action n 1000, authorizeName action n 1000, broadcastName action n]

def hnsWorkflow (n : UInt8) : WorkflowId := ⟨.replicate 16 n⟩

theorem not_confirms_absent {epoch : UInt64} {coins : List TrackedHnsCoin}
    {transactionId : Bytes 32} : ¬ (hnsSnapshot epoch absent coins).Confirms transactionId := by
  rintro ⟨evidence, hevidence, hcount⟩
  cases hevidence
  exact absurd hcount (show ¬ 0 < absent.confirmationCount by decide)

def confirmedOnce (action : HnsNameAction) : List HnsOperation :=
  submitted action 7 ++ [.reconcile (hnsSnapshot 2 confirmed []) 1001]

theorem confirmed_transfer_moves_the_book :
    Run (fun b (op : HnsOperation) => HnsBook.Moves hnsConfig (op.powers hnsConfig) b)
      ((hnsAfter []).book hnsConfig) (confirmedOnce .transfer)
      ((hnsAfter (confirmedOnce .transfer)).book hnsConfig) :=
  (account_calls_move_the_book (HnsSystem.run_afterCalls hnsConfig _ .empty)
    HnsSystem.empty_sound).2

def nameIs (store : WalletStore HnsValue) (check : HnsNameWorkflow → Bool) : Bool :=
  (store.nameWorkflow (hnsWorkflow 7)).any check

def reconciledIs (snapshot : HnsSnapshot) (nowUnix : UInt64) (system : HnsSystem HnsValue)
    (check : WalletStore HnsValue → Bool) : Bool :=
  match reconcileWorkflows hnsConfig snapshot nowUnix system.store with
  | .ok _ t => check t
  | .error _ _ => false

theorem exists_of_nameIs {store : WalletStore HnsValue} {check : HnsNameWorkflow → Bool}
    (h : nameIs store check = true) :
    ∃ w, store.nameWorkflow (hnsWorkflow 7) = some w ∧ check w = true :=
  (Option.any_eq_true _ _).1 h

theorem exists_of_reconciledIs {snapshot : HnsSnapshot} {nowUnix : UInt64}
    {system : HnsSystem HnsValue} {check : WalletStore HnsValue → Bool}
    (h : reconciledIs snapshot nowUnix system check = true) :
    ∃ pending t, reconcileWorkflows hnsConfig snapshot nowUnix system.store = .ok pending t ∧
      check t = true := by
  unfold reconciledIs at h
  split at h
  next pending t hreconcile => exact ⟨pending, t, hreconcile, h⟩
  next => cases h

theorem name_confirmedNow_transfer :
    ∃ pending t w w₀, reconcileWorkflows hnsConfig (hnsSnapshot 3 absent []) 1002
        (hnsAfter (confirmedOnce .transfer)).store = .ok pending t ∧
      t.nameWorkflow (hnsWorkflow 7) = some w ∧ w.stage = .reapprovalRequired ∧
      (hnsAfter (confirmedOnce .transfer)).store.nameWorkflow (hnsWorkflow 7) = some w₀ ∧
      w₀.stage = .transferLocked ∧ ConfirmedNow (hnsSnapshot 3 absent []) w₀ w := by
  obtain ⟨w₀, hread₀, hstage₀⟩ := exists_of_nameIs (show nameIs
    (hnsAfter (confirmedOnce .transfer)).store (·.stage = .transferLocked) = true by decide +kernel)
  obtain ⟨pending, t, hreconcile, hcheck⟩ := exists_of_reconciledIs (show reconciledIs
    (hnsSnapshot 3 absent []) 1002 (hnsAfter (confirmedOnce .transfer)) (nameIs · fun w =>
      w.stage = .reapprovalRequired && w.plan.ofAccount hnsConfig) = true by decide +kernel)
  obtain ⟨w, hread, hcheck⟩ := exists_of_nameIs hcheck
  simp only [Bool.and_eq_true, decide_eq_true_eq] at hcheck hstage₀
  obtain ⟨w₁, hread₁, hnow⟩ := name_confirmedNow (HnsSystem.run_afterCalls hnsConfig _ _) hreconcile
    hread hcheck.2 fun w₁ hread₁ _ => by
      cases hread₀.symm.trans hread₁
      rw [hstage₀]
      simp
  cases hread₀.symm.trans hread₁
  exact ⟨pending, t, w, w₀, hreconcile, hread, hcheck.1, hread₀, hstage₀, hnow⟩

/-- An update that was confirmed stays updated when a reorganisation removes it, bound to the
snapshot that is gone; and a transfer that was locked and then gone twice is to be submitted
again. -/
theorem updated_survives_reorganisation :
    (∃ pending t w, reconcileWorkflows hnsConfig (hnsSnapshot 3 absent []) 1002
        (hnsAfter (confirmedOnce .update)).store = .ok pending t ∧
      t.nameWorkflow (hnsWorkflow 7) = some w ∧ w.signedTransaction.isSome ∧ w.stage = .updated ∧
      w.transaction = some (hnsHash 7) ∧ w.lastVerifiedBinding = some (hnsBinding 2) ∧
      ¬ (hnsSnapshot 3 absent []).Confirms (hnsHash 7) ∧
      (hnsSnapshot 3 absent []).binding ≠ hnsBinding 2) ∧
    ∃ pending t w, reconcileWorkflows hnsConfig (hnsSnapshot 3 absent []) 1003
        (hnsAfter (confirmedOnce .transfer ++
          [.reconcile (hnsSnapshot 3 absent []) 1002])).store = .ok pending t ∧
      t.nameWorkflow (hnsWorkflow 7) = some w ∧ w.stage = .requiresRebroadcast := by
  constructor
  · obtain ⟨pending, t, hreconcile, hcheck⟩ := exists_of_reconciledIs (show reconciledIs
      (hnsSnapshot 3 absent []) 1002 (hnsAfter (confirmedOnce .update)) (nameIs · fun w =>
        w.signedTransaction.isSome && w.stage = .updated && w.transaction = some (hnsHash 7) &&
          w.lastVerifiedBinding = some (hnsBinding 2)) = true by decide +kernel)
    obtain ⟨w, hread, hcheck⟩ := exists_of_nameIs hcheck
    simp only [Bool.and_eq_true, decide_eq_true_eq] at hcheck
    obtain ⟨⟨⟨hsigned, hstage⟩, htransaction⟩, hbinding⟩ := hcheck
    exact ⟨pending, t, w, hreconcile, hread, hsigned, hstage, htransaction, hbinding,
      not_confirms_absent, by decide⟩
  · obtain ⟨pending, t, hreconcile, hcheck⟩ := exists_of_reconciledIs (show reconciledIs
      (hnsSnapshot 3 absent []) 1003 (hnsAfter (confirmedOnce .transfer ++
        [.reconcile (hnsSnapshot 3 absent []) 1002])) (nameIs · fun w =>
          w.stage = .requiresRebroadcast) = true by decide +kernel)
    obtain ⟨w, hread, hcheck⟩ := exists_of_nameIs hcheck
    exact ⟨pending, t, w, hreconcile, hread, of_decide_eq_true hcheck⟩

end

end Sample

end HnsWallet
