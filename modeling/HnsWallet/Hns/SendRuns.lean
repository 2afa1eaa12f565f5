import HnsWallet.Hns.NameRuns

/-! # Sends along runs -/

namespace HnsWallet

open Lib WalletStore

def HnsSendStage.isSigned : HnsSendStage → Bool
  | .prepared | .expired | .cancelled => false
  | _ => true

theorem HnsSendStage.isSigned_of_isActive {stage : HnsSendStage} (h : stage.isActive) :
    stage.isSigned := by
  cases stage <;> first | rfl | cases h

structure SendWritten (config : HnsRuntimeConfig) (id : WorkflowId) (w : HnsSendWorkflow) :
    Prop where
  own : w.plan.ofAccount config
  named : w.plan.workflowId = id
  signed : w.signedTransaction.isSome = w.stage.isSigned
  transaction : w.transaction.isSome = w.stage.isSigned
  live : w.stage ≠ .abandoned

section Moves

variable {config : HnsRuntimeConfig} {powers : MovePowers} {id : WorkflowId}
  {effect : HoldingEffect} {handed : List (List UInt8)} {before : Option HnsSendWorkflow}
  {w w' : HnsSendWorkflow} {snapshot : HnsSnapshot} {nowUnix : UInt64} {stage : HnsSendStage}
  {pending : Bool} {transactionId : Bytes 32}

theorem SendWritten.restage (h : SendWritten config id w)
    (hsigned : stage.isSigned = w.stage.isSigned) (hlive : stage ≠ .abandoned) :
    SendWritten config id { w with stage } :=
  ⟨h.own, h.named, h.signed.trans hsigned.symm, h.transaction.trans hsigned.symm, hlive⟩

inductive SendObserved (snapshot : HnsSnapshot) (stored : StoredWorkflow HnsSendWorkflow)
    (transactionId : Bytes 32) (nowUnix : UInt64) : HnsSendStage → Bool → Prop where
  | conflicted (conflicts : snapshot.Conflicts transactionId stored.state.plan.outpoints) :
      SendObserved snapshot stored transactionId nowUnix .conflicted false
  | confirmed (confirms : snapshot.Confirms transactionId)
      (free : ¬ snapshot.Conflicts transactionId stored.state.plan.outpoints) :
      SendObserved snapshot stored transactionId nowUnix .confirmed false
  | mempool (inMempool : snapshot.InMempool transactionId)
      (absent : ¬ snapshot.Confirms transactionId)
      (free : ¬ snapshot.Conflicts transactionId stored.state.plan.outpoints) :
      SendObserved snapshot stored transactionId nowUnix .mempool false
  | gone {stage : HnsSendStage} {pending : Bool} (absent : ¬ snapshot.Confirms transactionId)
      (evicted : ¬ snapshot.InMempool transactionId)
      (free : ¬ snapshot.Conflicts transactionId stored.state.plan.outpoints)
      (next : (stage = .broadcast ∧ pending = false ∧ sendIsWithinPropagationGrace
          stored.state.stage stored.updatedAtUnix nowUnix) ∨
        (stage = .requiresRebroadcast ∧ pending = true ∧ stored.state.stage.isActive) ∨
        (stage = stored.state.stage ∧ pending = false ∧ stored.state.stage.isActive = false)) :
      SendObserved snapshot stored transactionId nowUnix stage pending

theorem observeSend_eq_ok {stored : StoredWorkflow HnsSendWorkflow}
    (h : observeSend snapshot stored transactionId nowUnix = .ok (stage, pending)) :
    SendObserved snapshot stored transactionId nowUnix stage pending := by
  simp only [observeSend, ok_iff] at h
  obtain ⟨evidence, hevidence, -, -, competing, hcompeting, h⟩ := h
  have hconflicts := HnsSnapshot.conflicts_iff hevidence hcompeting
  split at h
  next hconflict =>
    cases h
    exact .conflicted (hconflicts.2 hconflict)
  next hconflict =>
    have hfree := mt hconflicts.1 hconflict
    split at h
    next hcount =>
      cases h
      exact .confirmed ((HnsSnapshot.confirms_iff hevidence).2 hcount) hfree
    next hcount =>
      have habsent := mt (HnsSnapshot.confirms_iff hevidence).1 hcount
      split at h
      next hmempool =>
        cases h
        exact .mempool ((HnsSnapshot.inMempool_iff hevidence).2 hmempool) habsent hfree
      next hmempool =>
        have hevicted := mt (HnsSnapshot.inMempool_iff hevidence).1 hmempool
        split at h
        next hgrace =>
          cases h
          exact .gone habsent hevicted hfree (.inl ⟨rfl, rfl, hgrace⟩)
        next =>
          split at h
          next hactive =>
            cases h
            exact .gone habsent hevicted hfree (.inr (.inl ⟨rfl, rfl, hactive⟩))
          next hactive =>
            cases h
            exact .gone habsent hevicted hfree (.inr (.inr ⟨rfl, rfl, by simpa using hactive⟩))

theorem SendObserved.isSigned {stored : StoredWorkflow HnsSendWorkflow}
    (h : SendObserved snapshot stored transactionId nowUnix stage pending)
    (hsigned : stored.state.stage.isSigned) (hlive : stored.state.stage ≠ .abandoned) :
    stage.isSigned ∧ stage ≠ .abandoned := by
  cases h with
  | conflicted _ => exact ⟨rfl, by simp⟩
  | confirmed _ _ => exact ⟨rfl, by simp⟩
  | mempool _ _ _ => exact ⟨rfl, by simp⟩
  | gone _ _ _ next =>
    rcases next with ⟨rfl, -⟩ | ⟨rfl, -⟩ | ⟨rfl, -⟩
    · exact ⟨rfl, by simp⟩
    · exact ⟨rfl, by simp⟩
    · exact ⟨hsigned, hlive⟩

theorem SendMove.written (h : SendMove config powers id effect handed before w')
    (hbefore : ∀ w, before = some w → SendWritten config id w) : SendWritten config id w' := by
  cases h with
  | prepare own named => exact ⟨own, named, rfl, rfl, by simp [newSendWorkflow]⟩
  | @authorize plan commitNow allowed live signed transactionId quote =>
    have hw := hbefore _ rfl
    exact ⟨hw.own, hw.named, rfl, rfl, by simp⟩
  | @submit w raw stage signed quote =>
    have hw := hbefore w rfl
    have hsigned := HnsSendStage.isSigned_of_isActive stage
    exact ⟨hw.own, hw.named, hw.signed.trans hsigned, hw.transaction.trans hsigned, by simp⟩
  | @accept w stage => exact (hbefore w rfl).restage (by rw [stage]; rfl) (by simp)
  | @cancel w stage => exact (hbefore w rfl).restage (by rw [stage]; rfl) (by simp)
  | @expire w snapshot nowUnix allowed stage ended =>
    exact (hbefore w rfl).restage (by rw [stage]; rfl) (by simp)
  | @look stored snapshot nowUnix transactionId stage pending allowed known is =>
    have hw := hbefore _ rfl
    have hsigned : stored.state.stage.isSigned := by rw [← hw.transaction, known]; rfl
    obtain ⟨hnext, hlive⟩ := (observeSend_eq_ok is).isSigned hsigned hw.live
    exact hw.restage (hnext.trans hsigned.symm) hlive

def HnsBook.SendsWritten (config : HnsRuntimeConfig) (b : HnsBook) : Prop :=
  ∀ id w, b.sends id = some w → SendWritten config id w

theorem HnsBook.Move.sendsWritten [HnsTransactions] {powers : BookPowers} {b b' : HnsBook}
    (h : HnsBook.Move config powers b b') (hb : b.SendsWritten config) :
    b'.SendsWritten config := by
  cases h with
  | @send id effect handed w' other possible move =>
    refine (Function.forall_update_iff b.sends fun id o => ∀ w, o = some w →
      SendWritten config id w).2 ⟨?_, fun id' _ => hb id'⟩
    rintro _ ⟨⟩
    exact move.written (hb id)
  | name _ _ _ => exact hb
  | drop _ _ => exact hb

end Moves

section Pass

variable {V : Type} [Encoded V] [Serde V HnsInputReservation] [Serde V HnsSendWorkflow]
  {config : HnsRuntimeConfig} {s t : WalletStore V} {snapshot : HnsSnapshot} {nowUnix : UInt64}
  {id : WorkflowId}

inductive SendPassed (snapshot : HnsSnapshot) (nowUnix : UInt64)
    (stored : StoredWorkflow HnsSendWorkflow) (pending : Bool) : HnsSendWorkflow → Prop where
  | expired (stage : stored.state.stage = .prepared)
      (ended : stored.state.plan.expiresAtUnix ≤ nowUnix) :
      SendPassed snapshot nowUnix stored pending { stored.state with stage := .expired }
  | unsigned (unknown : stored.state.transaction = none)
      (live : stored.state.stage = .prepared → nowUnix < stored.state.plan.expiresAtUnix) :
      SendPassed snapshot nowUnix stored pending stored.state
  | looked {transactionId : Bytes 32} {stage : HnsSendStage}
      (known : stored.state.transaction = some transactionId)
      (is : SendObserved snapshot stored transactionId nowUnix stage pending) :
      SendPassed snapshot nowUnix stored pending { stored.state with stage }

variable {stored : StoredWorkflow HnsSendWorkflow}

theorem saveSendStage_sendWorkflow {stage : HnsSendStage} {releases irreversible : Bool} {r : Unit}
    (h : saveSendStage config stored stage releases irreversible nowUnix s = .ok (t, r)) :
    t.sendWorkflow stored.id = some { stored.state with stage } := by
  simp only [saveSendStage, ok_iff] at h
  obtain ⟨deletes, -, ⟨saved, next⟩, hsave, hret⟩ := h
  cases hret
  obtain ⟨row, hlookup, hkind, hstate, -⟩ := (rowSaved_of_batch hsave).1.row
  exact sendWorkflow_eq_some.2 ⟨row, hlookup, hkind, hstate⟩

theorem reconcileListedSend_eq_ok {pending : Bool}
    (h : reconcileListedSend config snapshot nowUnix stored s = .ok pending t)
    (hown : stored.state.plan.ofAccount config)
    (hread : s.sendWorkflow stored.id = some stored.state) :
    ∃ w, t.sendWorkflow stored.id = some w ∧ SendPassed snapshot nowUnix stored pending w := by
  unfold reconcileListedSend at h
  rw [if_neg (not_not_intro hown)] at h
  split at h
  next hprepared =>
    obtain ⟨_, u, hu, hret⟩ := attempt_bind_eq_ok.1 h
    obtain ⟨-, rfl⟩ := attempt_pure_eq_ok.1 hret
    exact ⟨_, saveSendStage_sendWorkflow (transact_eq_ok.1 hu), .expired hprepared.1 hprepared.2⟩
  next hprepared =>
    cases hknown : stored.state.transaction with
    | none =>
      rw [hknown] at h
      obtain ⟨-, rfl⟩ := attempt_pure_eq_ok.1 h
      exact ⟨_, hread, .unsigned hknown fun hstage =>
        UInt64.not_le.1 fun hover => hprepared ⟨hstage, hover⟩⟩
    | some transactionId =>
      rw [hknown] at h
      simp only [attempt_bind_eq_ok, lift_eq_ok] at h
      obtain ⟨⟨stage, pending'⟩, _, ⟨hobserved, rfl⟩, _, u, hu, hret⟩ := h
      obtain ⟨rfl, rfl⟩ := attempt_pure_eq_ok.1 hret
      refine ⟨_, ?_, .looked hknown (observeSend_eq_ok hobserved)⟩
      split at hu
      next => exact saveSendStage_sendWorkflow (transact_eq_ok.1 hu)
      next hsame =>
        obtain ⟨-, rfl⟩ := attempt_pure_eq_ok.1 hu
        rw [not_not] at hsame
        subst hsame
        exact hread

theorem reconcileSendWorkflows_eq_ok {pending : List WorkflowId}
    (h : reconcileSendWorkflows config snapshot nowUnix s = .ok pending t)
    (hown : ∀ w₀, s.sendWorkflow id = some w₀ → w₀.plan.ofAccount config)
    {w : HnsSendWorkflow} (hread : t.sendWorkflow id = some w) :
    ∃ stored isPending, s.loadWorkflow HnsSendWorkflow id = .ok (some stored) ∧
      stored.kind = .hnsSend ∧ SendPassed snapshot nowUnix stored isPending w ∧
      (isPending → id ∈ pending) := by
  simp only [reconcileSendWorkflows, reconcileListedSends_eq, attempt_bind_eq_ok, reading_eq_ok,
    mapError_eq_ok] at h
  obtain ⟨listed, _, ⟨hlisted, rfl⟩, h⟩ := h
  obtain ⟨hframe, hpassed⟩ := passEach_rows reconcileListedSend_local
    (nodup_of_listWorkflowsComplete hlisted) h
  have hin : id ∈ listed.map StoredWorkflow.id := by
    by_contra hout
    have hread' := hread
    rw [sendWorkflow_congr (hframe id hout)] at hread'
    obtain ⟨row, hlookup, hkind, -⟩ := sendWorkflow_eq_some.1 hread'
    obtain ⟨stored, hstored, rfl, -⟩ := listed_of_row hlisted hlookup hkind
    exact hout (List.mem_map_of_mem hstored)
  obtain ⟨stored, hstored, rfl⟩ := List.mem_map.1 hin
  obtain ⟨hkind, hload⟩ := (mem_of_listWorkflowsComplete hlisted).1 hstored
  have hstate := WalletStore.sendWorkflow_of_load hload hkind
  obtain ⟨s', t', asks, hcall, hbefore, hafter, hasks⟩ := hpassed stored hstored
  obtain ⟨w', hresult, hpass⟩ := reconcileListedSend_eq_ok hcall (hown _ hstate)
    ((sendWorkflow_congr hbefore).trans hstate)
  rw [← sendWorkflow_congr hafter, hread] at hresult
  cases hresult
  exact ⟨stored, asks, hload, hkind, hpass, hasks⟩

end Pass

/-- The stage of a send says what the snapshot shows of its transaction, and a send of which it
shows nothing waits to be submitted again, or was only just submitted. -/
structure SendFollows (snapshot : HnsSnapshot) (nowUnix updatedAtUnix : UInt64)
    (isPending : Prop) (w : HnsSendWorkflow) (transactionId : Bytes 32) : Prop where
  confirmed : w.stage = .confirmed → snapshot.Confirms transactionId
  mempool : w.stage = .mempool → snapshot.InMempool transactionId
  conflicted : w.stage = .conflicted → snapshot.Conflicts transactionId w.plan.outpoints
  gone : ¬ snapshot.Confirms transactionId → ¬ snapshot.InMempool transactionId →
    ¬ snapshot.Conflicts transactionId w.plan.outpoints →
    (w.stage = .requiresRebroadcast ∧ isPending) ∨
      (w.stage = .broadcast ∧ sendIsWithinPropagationGrace .broadcast updatedAtUnix nowUnix)

theorem SendFollows.mono {snapshot : HnsSnapshot} {nowUnix updatedAtUnix : UInt64}
    {isPending isPending' : Prop} {w : HnsSendWorkflow} {transactionId : Bytes 32}
    (h : SendFollows snapshot nowUnix updatedAtUnix isPending w transactionId)
    (hpending : isPending → isPending') :
    SendFollows snapshot nowUnix updatedAtUnix isPending' w transactionId where
  confirmed := h.confirmed
  mempool := h.mempool
  conflicted := h.conflicted
  gone := fun habsent hevicted hfree =>
    (h.gone habsent hevicted hfree).imp_left fun hstage => ⟨hstage.1, hpending hstage.2⟩

section Runs

variable {V : Type} {config : HnsRuntimeConfig} {s t : WalletStore V} {system : HnsSystem V}
  {ops : List HnsOperation} {snapshot : HnsSnapshot} {nowUnix : UInt64} {id : WorkflowId}
  {pending : List WorkflowId} {w : HnsSendWorkflow}

def HnsSnapshot.ShowsSend (snapshot : HnsSnapshot) (w : HnsSendWorkflow) : Prop :=
  ∀ transactionId, w.transaction = some transactionId →
    snapshot.Confirms transactionId ∨ snapshot.InMempool transactionId ∨
      snapshot.Conflicts transactionId w.plan.outpoints

theorem SendObserved.follows {stored : StoredWorkflow HnsSendWorkflow} {transactionId : Bytes 32}
    {stage : HnsSendStage} {isPending : Bool}
    (h : SendObserved snapshot stored transactionId nowUnix stage isPending)
    (hknown : stored.state.transaction = some transactionId)
    (hshown : stored.state.stage.isActive = false → snapshot.ShowsSend stored.state) :
    SendFollows snapshot nowUnix stored.updatedAtUnix (isPending = true)
      { stored.state with stage } transactionId := by
  cases h with
  | conflicted conflicts =>
    exact ⟨fun hstage => (by cases hstage), fun hstage => (by cases hstage), fun _ => conflicts,
      fun _ _ hfree => absurd conflicts hfree⟩
  | confirmed confirms free =>
    exact ⟨fun _ => confirms, fun hstage => (by cases hstage), fun hstage => (by cases hstage),
      fun habsent => absurd confirms habsent⟩
  | mempool inMempool _ _ =>
    exact ⟨fun hstage => (by cases hstage), fun _ => inMempool, fun hstage => (by cases hstage),
      fun _ hevicted => absurd inMempool hevicted⟩
  | gone absent evicted free next =>
    rcases next with ⟨rfl, -, hgrace⟩ | ⟨rfl, hpending, -⟩ | ⟨-, -, hinactive⟩
    · have hbroadcast : stored.state.stage = .broadcast := by
        simp only [sendIsWithinPropagationGrace, Bool.and_eq_true, decide_eq_true_eq] at hgrace
        exact hgrace.1
      rw [hbroadcast] at hgrace
      exact ⟨fun hstage => (by cases hstage), fun hstage => (by cases hstage),
        fun hstage => (by cases hstage), fun _ _ _ => .inr ⟨rfl, hgrace⟩⟩
    · exact ⟨fun hstage => (by cases hstage), fun hstage => (by cases hstage),
        fun hstage => (by cases hstage), fun _ _ _ => .inl ⟨rfl, hpending⟩⟩
    · rcases hshown hinactive transactionId hknown with h | h | h
      · exact absurd h absent
      · exact absurd h evicted
      · exact absurd h free

variable [Encoded V] [Serde V HnsInputReservation] [Serde V HnsNameWorkflow] [HnsTransactions]

theorem reconcileNameWorkflows_send {names : List WorkflowId}
    (h : reconcileNameWorkflows config snapshot nowUnix s = .ok names t) {row : WorkflowRow V}
    (hlookup : t.workflows.lookup id = some row) (hkind : row.kind = .hnsSend) :
    s.workflows.lookup id = some row := by
  have hpassed := reconcileNameWorkflows_passed h
  have hsame := hpassed.kind_eq id
  rw [hlookup, Option.map_some, hkind] at hsame
  obtain ⟨row₀, hlookup₀, hkind₀⟩ := Option.map_eq_some_iff.1 hsame.symm
  have hkept := hpassed.others id row₀ hlookup₀ (by rw [hkind₀]; decide)
  rw [hlookup₀, ← hkept, hlookup]

variable [Serde V HnsSendWorkflow] [Serde V HnsPreparedSettlement]

theorem passed_of_reconcile (h : reconcileWorkflows config snapshot nowUnix s = .ok pending t)
    (hown : ∀ w₀, s.sendWorkflow id = some w₀ → w₀.plan.ofAccount config)
    (hread : t.sendWorkflow id = some w) :
    ∃ stored row isPending, s.workflows.lookup id = some row ∧
      s.sendWorkflow id = some stored.state ∧ stored.updatedAtUnix = row.updatedAtUnix ∧
      SendPassed snapshot nowUnix stored isPending w ∧ (isPending → id ∈ pending) := by
  obtain ⟨names, sends, mid, mid', hnames, hsends, -, rfl, hworkflows, -⟩ :=
    reconcileWorkflows_eq_ok h
  have hmid' : mid'.sendWorkflow id = some w := by
    rw [← hread]
    exact sendWorkflow_congr (by rw [hworkflows])
  have hback : ∀ w₀, mid.sendWorkflow id = some w₀ → s.sendWorkflow id = some w₀ := by
    intro w₀ hread₀
    obtain ⟨row, hlookup, hkind, hstate⟩ := sendWorkflow_eq_some.1 hread₀
    exact sendWorkflow_eq_some.2
      ⟨row, reconcileNameWorkflows_send hnames hlookup hkind, hkind, hstate⟩
  obtain ⟨stored, isPending, hload, hkind, hpass, hpending⟩ :=
    reconcileSendWorkflows_eq_ok hsends (fun w₀ hread₀ => hown w₀ (hback w₀ hread₀)) hmid'
  have hstored := WalletStore.sendWorkflow_of_load hload hkind
  obtain ⟨-, row, state, hlookup, -, heq⟩ := loadWorkflow_eq_some.1 hload
  have hrowKind : row.kind = .hnsSend := by rw [heq] at hkind; exact hkind
  exact ⟨stored, row, isPending, reconcileNameWorkflows_send hnames hlookup hrowKind,
    hback _ hstored, by rw [heq], hpass, fun hp => List.mem_append_right _ (hpending hp)⟩

variable [Sha256]

theorem HnsSystem.sendsWritten_of_run [SendsApart V]
    (hrun : Run (HnsSystem.Step config) (.empty : HnsSystem V) ops system) :
    (system.book config).SendsWritten config :=
  (run_invariant hrun empty_sound (fun _ _ _ _ hmove => hmove.sendsWritten)
    fun _ _ hread => by cases hread).2

/-- After every successful reconciliation of every run, the stage of each signed send is what
the snapshot shows, provided that it still shows every send that was confirmed or in conflict
before. -/
theorem send_follows_chain [SendsApart V]
    (hrun : Run (HnsSystem.Step config) (.empty : HnsSystem V) ops system)
    (h : reconcileWorkflows config snapshot nowUnix system.store = .ok pending t)
    (hread : t.sendWorkflow id = some w) (hsigned : w.signedTransaction.isSome)
    (hshown : ∀ w₀, system.store.sendWorkflow id = some w₀ →
      w₀.stage = .confirmed ∨ w₀.stage = .conflicted → snapshot.ShowsSend w₀) :
    ∃ transactionId row, w.transaction = some transactionId ∧
      system.store.workflows.lookup id = some row ∧
      SendFollows snapshot nowUnix row.updatedAtUnix (id ∈ pending) w transactionId := by
  have hwritten := HnsSystem.sendsWritten_of_run hrun
  obtain ⟨stored, row, isPending, hlookup, hread₀, hupdated, hpass, hpending⟩ :=
    passed_of_reconcile h (fun w₀ hread₀ => (hwritten id w₀ hread₀).own) hread
  have hw₀ := hwritten id _ hread₀
  cases hpass with
  | expired stage _ =>
    have hunsigned := hw₀.signed
    rw [stage] at hunsigned
    exact absurd (hunsigned.symm.trans hsigned) (by simp [HnsSendStage.isSigned])
  | unsigned unknown _ =>
    have hunsigned := hw₀.signed.trans hw₀.transaction.symm
    rw [unknown] at hunsigned
    exact absurd (hunsigned.symm.trans hsigned) (by simp)
  | @looked transactionId stage known is =>
    refine ⟨transactionId, row, known, hlookup, hupdated ▸ (is.follows known ?_).mono hpending⟩
    intro hinactive
    refine hshown _ hread₀ ?_
    have hstage : stored.state.stage.isSigned := by rw [← hw₀.transaction, known]; rfl
    have hlive := hw₀.live
    revert hinactive hstage hlive
    cases stored.state.stage <;> simp [HnsSendStage.isActive, HnsSendStage.isSigned]

end Runs

namespace Sample

def hnsSpendPlan (n : UInt8) (nowUnix : UInt64) : HnsSpendPlan where
  walletId := hnsConfig.walletId
  accountId := hnsConfig.accountId
  workflowId := hnsWorkflow n
  requestNonce := n.toUInt64
  unsignedTransaction := []
  inputs := [hnsCoin n]
  amount := 1
  fee := 1
  maximumFee := 1
  destination := ""
  expiresAtUnix := nowUnix + 300

def prepareSend (n : UInt8) (nowUnix : UInt64) : HnsOperation :=
  .prepareSend ⟨n.toUInt64, 1, 1, ""⟩ [hnsCoin n] (fun coins => .ok ⟨[], coins, 1⟩) nowUnix

def authorizeSend (n : UInt8) (nowUnix : UInt64) : HnsOperation :=
  .authorizeSend (hnsSpendPlan n nowUnix) ⟨nowUnix, nowUnix, .ok (), .ok ([n], hnsHash n),
    .ok hnsQuote, nowUnix, true⟩

def sendSubmission (n : UInt8) (nowUnix : UInt64) : SendSubmission :=
  ⟨.ok (), .ok hnsQuote, nowUnix, .ok (hnsHash n), nowUnix⟩

def paid (n : UInt8) : List HnsOperation :=
  [prepareSend n 1000, authorizeSend n 1000, .broadcastSend [n] (sendSubmission n 1000)]

section

attribute [local instance] hnsSha hnsTransactions

def sendIs (store : WalletStore HnsValue) (check : HnsSendWorkflow → Bool) : Bool :=
  (store.sendWorkflow (hnsWorkflow 7)).any check

theorem exists_of_sendIs {store : WalletStore HnsValue} {check : HnsSendWorkflow → Bool}
    (h : sendIs store check = true) :
    ∃ w, store.sendWorkflow (hnsWorkflow 7) = some w ∧ check w = true :=
  (Option.any_eq_true _ _).1 h

theorem send_follows_chain_evicted :
    ∃ pending t w, reconcileWorkflows hnsConfig (hnsSnapshot 3 absent [hnsCoin 7]) 2000
        (hnsAfter (paid 7 ++ [.reconcile (hnsSnapshot 2 inMempool [hnsCoin 7]) 1001])).store =
          .ok pending t ∧
      t.sendWorkflow (hnsWorkflow 7) = some w ∧ w.stage = .requiresRebroadcast ∧
      ∃ transactionId row, w.transaction = some transactionId ∧ (hnsAfter (paid 7 ++
          [.reconcile (hnsSnapshot 2 inMempool [hnsCoin 7]) 1001])).store.workflows.lookup
            (hnsWorkflow 7) = some row ∧
        SendFollows (hnsSnapshot 3 absent [hnsCoin 7]) 2000 row.updatedAtUnix
          (hnsWorkflow 7 ∈ pending) w transactionId := by
  obtain ⟨w₀, hread₀, hstage₀⟩ := exists_of_sendIs (show sendIs (hnsAfter (paid 7 ++
    [.reconcile (hnsSnapshot 2 inMempool [hnsCoin 7]) 1001])).store (·.stage = .mempool) = true
      by decide +kernel)
  obtain ⟨pending, t, hreconcile, hcheck⟩ := exists_of_reconciledIs (show reconciledIs
    (hnsSnapshot 3 absent [hnsCoin 7]) 2000 (hnsAfter (paid 7 ++
      [.reconcile (hnsSnapshot 2 inMempool [hnsCoin 7]) 1001])) (sendIs · fun w =>
        w.stage = .requiresRebroadcast && w.signedTransaction.isSome) = true by decide +kernel)
  obtain ⟨w, hread, hcheck⟩ := exists_of_sendIs hcheck
  simp only [Bool.and_eq_true, decide_eq_true_eq] at hcheck hstage₀
  refine ⟨pending, t, w, hreconcile, hread, hcheck.1, send_follows_chain
    (HnsSystem.run_afterCalls hnsConfig _ _) hreconcile hread hcheck.2 fun w₁ hread₁ hstage₁ => ?_⟩
  cases hread₀.symm.trans hread₁
  rw [hstage₀] at hstage₁
  rcases hstage₁ with hstage₁ | hstage₁ <;> cases hstage₁

theorem not_inMempool_absent {epoch : UInt64} {coins : List TrackedHnsCoin}
    {transactionId : Bytes 32} : ¬ (hnsSnapshot epoch absent coins).InMempool transactionId := by
  rintro ⟨evidence, hevidence, hin⟩
  cases hevidence
  exact absurd hin (show ¬ absent.inMempool = true by decide)

/-- A payment that was confirmed is shown as confirmed after a reorganisation has removed it,
and nobody is asked to submit it again. -/
theorem confirmed_survives_reorganisation :
    ∃ pending t w, reconcileWorkflows hnsConfig (hnsSnapshot 3 absent [hnsCoin 7]) 2000
        (hnsAfter (paid 7 ++ [.reconcile (hnsSnapshot 2 confirmed []) 1001])).store =
          .ok pending t ∧
      t.sendWorkflow (hnsWorkflow 7) = some w ∧ w.signedTransaction.isSome ∧
      w.stage = .confirmed ∧ w.transaction = some (hnsHash 7) ∧
      ¬ (hnsSnapshot 3 absent [hnsCoin 7]).Confirms (hnsHash 7) ∧
      ¬ (hnsSnapshot 3 absent [hnsCoin 7]).InMempool (hnsHash 7) := by
  obtain ⟨pending, t, hreconcile, hcheck⟩ := exists_of_reconciledIs (show reconciledIs
    (hnsSnapshot 3 absent [hnsCoin 7]) 2000 (hnsAfter (paid 7 ++
      [.reconcile (hnsSnapshot 2 confirmed []) 1001])) (sendIs · fun w =>
        w.signedTransaction.isSome && w.stage = .confirmed &&
          w.transaction = some (hnsHash 7)) = true by decide +kernel)
  obtain ⟨w, hread, hcheck⟩ := exists_of_sendIs hcheck
  simp only [Bool.and_eq_true, decide_eq_true_eq] at hcheck
  exact ⟨pending, t, w, hreconcile, hread, hcheck.1.1, hcheck.1.2, hcheck.2, not_confirms_absent,
    not_inMempool_absent⟩

end

end Sample

end HnsWallet
