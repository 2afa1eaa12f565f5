import HnsWallet.Hns.NameReservations

/-!
# Reconciliations that cannot be done

A reconciliation stops with `InvalidWorkflow` when it finds a row that no writer should have
left: a submitted workflow without its bytes, or a live one without its reservations.  The
writers leave no such row, with one exception: an authorization that finds the source or the
terms of an unsigned preparation changed marks it as one that needs a new approval, and from
then on every reconciliation of the account stops there.
-/

namespace HnsWallet

open Lib

/-- The node does not answer with the wallet's own complaint about a workflow. -/
structure HnsSnapshot.Coherent (snapshot : HnsSnapshot) : Prop where
  transactions : ∀ id, snapshot.getTransactionEvidence id ≠ .error .invalidWorkflow
  spends : ∀ batch, snapshot.getOutpointSpendEvidence batch ≠ .error .invalidWorkflow
  contexts : ∀ nameHash, snapshot.finalizeContext nameHash ≠ .error .invalidWorkflow

/-! ## Looking at a workflow -/

section Looking

variable [HnsTransactions] {snapshot : HnsSnapshot} {nowUnix : UInt64} {w : HnsNameWorkflow}
  {transaction : HnsTransaction} {transactionId : Bytes 32} {inclusion : TransactionInclusion}

theorem decodeTransactionForId_ne {raw : List UInt8} :
    decodeTransactionForId raw transactionId ≠ .error .invalidWorkflow :=
  bind_ne_error (okOr_ne_error (by simp)) fun _ _ =>
    bind_ne_error (okOr_ne_error (by simp)) fun _ _ =>
      bind_ne_error (refuseIf_ne_error (by simp)) fun _ _ => ok_ne_error

omit [HnsTransactions] in
theorem consensusHeight_ne {height : UInt64} :
    HnsSnapshot.consensusHeight height ≠ .error .invalidWorkflow := by
  unfold HnsSnapshot.consensusHeight
  split <;> simp

variable (hcoherent : snapshot.Coherent)
include hcoherent

omit [HnsTransactions] in
theorem competingInBatches_ne {batches : List (List HnsOutpoint)} :
    snapshot.competingInBatches transactionId batches ≠ .error .invalidWorkflow := by
  induction batches with
  | nil => exact ok_ne_error
  | cons batch batches ih =>
    refine bind_ne_error (hcoherent.spends batch) fun evidence _ => ?_
    refine bind_ne_error ?_ fun _ _ => bind_ne_error ih fun _ _ => ok_ne_error
    exact bind_ne_error (refuseIf_ne_error (by simp)) fun _ _ =>
      forM_ne_error fun _ _ => refuseIf_ne_error (by simp)

theorem confirmedTransferSpendKind_ne :
    snapshot.confirmedTransferSpendKind transaction transactionId inclusion ≠
      .error .invalidWorkflow := by
  refine bind_ne_error (okOr_ne_error (by simp)) fun output _ => ?_
  refine bind_ne_error (refuseIf_ne_error (by simp)) fun _ _ => ?_
  refine bind_ne_error (hcoherent.spends _) fun spend _ => ?_
  refine bind_ne_error (refuseIf_ne_error (by simp)) fun _ _ => ?_
  split
  next entry _ =>
    refine bind_ne_error (refuseIf_ne_error (by simp)) fun _ _ => ?_
    split
    next => exact ok_ne_error
    next spending _ =>
      refine bind_ne_error (hcoherent.transactions _) fun evidence _ => ?_
      refine bind_ne_error (okOr_ne_error (by simp)) fun _ _ => ?_
      refine bind_ne_error (refuseIf_ne_error (by simp)) fun _ _ => ?_
      refine bind_ne_error (okOr_ne_error (by simp)) fun _ _ => ?_
      refine bind_ne_error decodeTransactionForId_ne fun _ _ => ?_
      refine bind_ne_error (okOr_ne_error (by simp)) fun _ _ => ?_
      refine bind_ne_error (okOr_ne_error (by simp)) fun _ _ => ?_
      refine bind_ne_error (refuseIf_ne_error (by simp)) fun _ _ => ?_
      refine bind_ne_error consensusHeight_ne fun _ _ => ?_
      exact bind_ne_error (refuseIf_ne_error (by simp)) fun _ _ => ok_ne_error
  next => simp

theorem observeConfirmed_ne :
    observeConfirmed snapshot w transaction transactionId inclusion ≠ .error .invalidWorkflow := by
  unfold observeConfirmed
  cases w.plan.action with
  | finalize => exact ok_ne_error
  | update => exact ok_ne_error
  | transfer =>
    refine bind_ne_error (confirmedTransferSpendKind_ne hcoherent) fun kind _ => ?_
    match kind with
    | none =>
      refine bind_ne_error (hcoherent.contexts _) fun _ _ => ?_
      refine bind_ne_error (okOr_ne_error (by simp)) fun _ _ => ?_
      refine bind_ne_error consensusHeight_ne fun _ _ => ?_
      exact bind_ne_error (refuseIf_ne_error (by simp)) fun _ _ => ok_ne_error
    | some kind => cases kind <;> first | exact ok_ne_error | simp

theorem observeSubmitted_ne (hid : w.transaction.isSome) (hsigned : w.signedTransaction.isSome) :
    observeSubmitted snapshot w ≠ .error .invalidWorkflow := by
  obtain ⟨transactionId, hid⟩ := Option.isSome_iff_exists.1 hid
  obtain ⟨signed, hsigned⟩ := Option.isSome_iff_exists.1 hsigned
  refine bind_ne_error (by rw [hid]; exact ok_ne_error) fun _ _ => ?_
  refine bind_ne_error (by rw [hsigned]; exact ok_ne_error) fun _ _ => ?_
  refine bind_ne_error decodeTransactionForId_ne fun _ _ => ?_
  refine bind_ne_error (hcoherent.transactions _) fun evidence _ => ?_
  refine bind_ne_error (refuseIf_ne_error (by simp)) fun _ _ => ?_
  refine bind_ne_error (competingInBatches_ne hcoherent) fun competing _ => ?_
  split
  next => exact ok_ne_error
  next =>
    split
    next =>
      refine bind_ne_error (okOr_ne_error (by simp)) fun _ _ => ?_
      exact bind_ne_error (refuseIf_ne_error (by simp)) fun _ _ => observeConfirmed_ne hcoherent
    next => repeat' first | exact ok_ne_error | split | simp

theorem reconcileNameWorkflow_ne
    (hsigned : w.stage.isObserved → w.signedTransaction.isSome ∧ w.transaction.isSome) :
    reconcileNameWorkflow snapshot nowUnix w ≠ .error .invalidWorkflow := by
  unfold reconcileNameWorkflow
  split
  next => split <;> exact ok_ne_error
  next =>
    split
    next hobserved =>
      exact observeSubmitted_ne hcoherent (hsigned hobserved).2 (hsigned hobserved).1
    next => exact ok_ne_error

end Looking

/-! ## Workflows that need an approval -/

theorem HnsBook.holding_unprotected {b : HnsBook} {id : WorkflowId} {h : Holding}
    (hholding : b.holding id = some h) {item : HnsOutpoint × HnsInputReservationKind}
    (hitem : item ∈ h.items) :
    item.2.isProtectedShakedex = false := by
  unfold HnsBook.holding at hholding
  split at hholding
  next w _ =>
    cases hholding
    rcases List.mem_cons.1 hitem with rfl | hitem
    · rfl
    · obtain ⟨input, -, rfl⟩ := List.mem_map.1 hitem
      rfl
  next =>
    obtain ⟨w, -, rfl⟩ := Option.map_eq_some_iff.1 hholding
    obtain ⟨input, -, rfl⟩ := List.mem_map.1 hitem
    rfl

section Moves

variable [HnsTransactions] {config : HnsRuntimeConfig} {id : WorkflowId}
  {effect : HoldingEffect} {handed : List (List UInt8)}

/-- Every name workflow that needs a new approval was signed. -/
def HnsBook.NamesSigned (b : HnsBook) : Prop :=
  ∀ id w, b.names id = some w → w.stage = .reapprovalRequired →
    w.signedTransaction.isSome ∧ w.transaction.isSome

theorem NameMove.signed {powers : MovePowers} {before : Option HnsNameWorkflow}
    {w' : HnsNameWorkflow} (h : NameMove config powers id effect handed before w')
    (hwithdraws : ¬ powers.withdraws)
    (hbefore : ∀ w, before = some w → NameWritten config id w)
    (hstage : w'.stage = .reapprovalRequired) :
    w'.signedTransaction.isSome ∧ w'.transaction.isSome := by
  cases h with
  | prepare _ _ _ _ => cases hstage
  | @mark w stage allowed =>
    rcases stage with stage | stage | stage
    · exact absurd (allowed stage) hwithdraws
    · exact (hbefore w rfl).signed (by rw [stage]; rfl) (by rw [stage]; simp)
    · exact (hbefore w rfl).signed (by rw [stage]; rfl) (by rw [stage]; simp)
  | authorize _ _ _ _ _ _ => cases hstage
  | submit _ _ _ _ => cases hstage
  | accept _ => cases hstage
  | cancel _ => cases hstage
  | @look w snapshot nowUnix observation allowed is =>
    have hlook := reconcileNameWorkflow_eq_ok is
    have hsame := hlook.same
    rw [hsame.signedTransaction, hsame.transaction]
    cases hlook with
    | untouched stage _ same =>
      rw [same] at hstage
      rw [hstage] at stage
      cases stage
    | expired _ _ same =>
      rw [same] at hstage
      cases hstage
    | observed _ hid hsigned _ _ =>
      rw [hid, hsigned]
      exact ⟨rfl, rfl⟩

theorem HnsBook.Move.namesSigned {powers : BookPowers} {b b' : HnsBook}
    (h : HnsBook.Move config powers b b') (hwithdraws : ¬ powers.withdraws)
    (hwritten : b.NamesWritten config) (hb : b.NamesSigned) : b'.NamesSigned := by
  cases h with
  | @name id effect handed w' other possible move =>
    intro id' w hread hstage
    have hread : Function.update b.names id (some w') id' = some w := hread
    by_cases hid : id' = id
    · subst hid
      rw [Function.update_self] at hread
      cases hread
      exact move.signed hwithdraws (hwritten id') hstage
    · rw [Function.update_of_ne hid] at hread
      exact hb id' w hread hstage
  | send _ _ _ => exact hb
  | drop _ _ => exact hb

end Moves

/-! ## Stores that the calls have left -/

section Stores

variable {V : Type} {config : HnsRuntimeConfig} {s t : WalletStore V}
  {snapshot : HnsSnapshot} {nowUnix : UInt64} {kind : WorkflowKind} {id : WorkflowId}

/-- What a pass over workflows may do. -/
def passPowers (snapshot : HnsSnapshot) (nowUnix : UInt64) : BookPowers where
  looks snapshot' nowUnix' := snapshot' = snapshot ∧ nowUnix' = nowUnix
  commits _ := False
  withdraws := False
  drops _ _ := False

theorem passPowers_looks : (passPowers snapshot nowUnix).looks snapshot nowUnix := ⟨rfl, rfl⟩

theorem settlementConflicted_ne [Serde V HnsPreparedSettlement] (hcoherent : snapshot.Coherent) :
    settlementConflicted snapshot s id ≠ .error .invalidWorkflow := by
  unfold settlementConflicted
  split
  next =>
    refine bind_ne_error (hcoherent.transactions _) fun _ _ => ?_
    exact bind_ne_error (refuseIf_ne_error (by simp)) fun _ _ => ok_ne_error
  next => exact ok_ne_error
  next => exact ok_ne_error

theorem droppedReservations_ne [Serde V HnsPreparedSettlement] {holdings : List NameHolding}
    {listed : List (StoredEntity HnsInputReservation)}
    (h : ∀ stored ∈ listed,
      dropsReservation snapshot s holdings nowUnix stored.value ≠ .error .invalidWorkflow) :
    droppedReservations snapshot s holdings nowUnix listed ≠ .error .invalidWorkflow := by
  induction listed with
  | nil => exact ok_ne_error
  | cons stored rest ih =>
    obtain ⟨hstored, hrest⟩ := List.forall_mem_cons.1 h
    exact bind_ne_error hstored fun _ _ => bind_ne_error (ih hrest) fun _ _ => ok_ne_error

theorem nameHoldings_reads [Serde V HnsNameWorkflow] {holdings : List NameHolding}
    {holding : NameHolding} (hkind : kind.isName) (hupdate : kind ≠ .nameUpdate)
    (h : nameHoldings config s kind = .ok holdings) (hmem : holding ∈ holdings) :
    ∃ w, s.nameWorkflow holding.id = some w ∧ w.plan.action ≠ .update ∧
      holding.reservations = w.plan.reservations ∧ holding.terminal = w.stage.isTerminal := by
  obtain ⟨w, hread, -, haction, -, hitems, hterminal⟩ := (mem_nameHoldings hkind h).1 holding hmem
  refine ⟨w, hread, fun his => hupdate ?_, hitems, hterminal⟩
  rw [← haction, his]
  rfl

theorem accountInputReservations_ne [Serde V HnsInputReservation] :
    accountInputReservations s config ≠ .error .invalidWorkflow :=
  bind_ne_error (mapError_ne_error fun _ => by simp) fun _ _ =>
    bind_ne_error (refuseIf_ne_error (by simp)) fun _ _ => ok_ne_error

variable [Serde V HnsInputReservation] [Serde V HnsNameWorkflow] [Serde V HnsSendWorkflow]

/-- A store in which a reconciliation finds what it expects. -/
structure WalletStore.Healthy (config : HnsRuntimeConfig) (nowUnix : UInt64)
    (store : WalletStore V) : Prop where
  sound : store.Sound
  held : NamesHeld config nowUnix (HnsSystem.book config ⟨store, []⟩)
  signed : (HnsSystem.book config ⟨store, []⟩).NamesSigned

theorem reservationDeletes_ne (hs : s.Healthy config nowUnix) :
    reservationDeletes s config id ≠ .error .invalidWorkflow := by
  refine bind_ne_error (bind_ne_error accountInputReservations_ne fun _ _ => ok_ne_error)
    fun owned howned => ?_
  refine bind_ne_error (refuseIf_ne_error_of_not ?_) fun _ _ => ok_ne_error
  rintro ⟨stored, hstored, hprotected⟩
  simp only [workflowReservations, ok_bind_iff] at howned
  obtain ⟨listed, hlisted, hret⟩ := howned
  cases hret
  obtain ⟨hmem, -, -⟩ := accountInputReservations_eq_ok hlisted
  obtain ⟨-, -, -, h, hholding, hitem, -⟩ :=
    hs.held.backed _ _ (hmem stored (List.mem_filter.1 hstored).1).2.1
  rw [HnsBook.holding_unprotected hholding hitem] at hprotected
  cases hprotected

theorem nameHoldings_ne (hs : s.Healthy config nowUnix) (hkind : kind.isName) :
    nameHoldings config s kind ≠ .error .invalidWorkflow := by
  refine bind_ne_error (mapError_ne_error fun _ => by simp) fun listed hlisted => ?_
  rw [mapError_eq_ok] at hlisted
  refine mapM_ne_error fun stored hstored => ?_
  obtain ⟨row, hlookup, hrowKind, hstate⟩ :=
    WalletStore.row_of_listed hlisted (List.mem_filter.1 hstored).1
  subst hrowKind
  have hwritten := hs.held.written stored.id stored.state
    (WalletStore.nameWorkflow_eq_some.2 ⟨row, hlookup, hkind, hstate⟩)
  refine bind_ne_error (refuseIf_ne_error_of_not ?_) fun _ _ => ?_
  · rw [not_or, not_not, not_not]
    exact ⟨hwritten.named, (hs.sound.kinds _ row _ hlookup hkind hstate).1.symm⟩
  · refine bind_ne_error (refuseIf_ne_error_of_not ?_) fun _ _ => ok_ne_error
    rintro (⟨input, hinput, hno⟩ | hdup)
    · rw [hwritten.ordinary input hinput] at hno
      cases hno
    · exact hdup hwritten.nodup

/-- A live workflow that is signed, or prepared and not over. -/
theorem WalletStore.Healthy.valid {w : HnsNameWorkflow} (hs : s.Healthy config nowUnix)
    (hread : s.nameWorkflow id = some w) (haction : w.plan.action ≠ .update)
    (hlive : w.stage.isTerminal = false)
    (hprepared : w.stage = .prepared → nowUnix < w.plan.expiresAtUnix) :
    w.signedTransaction.isSome ∨ nowUnix < w.plan.expiresAtUnix := by
  have hwritten := hs.held.written id w hread
  by_cases hstage : w.stage = .prepared
  · exact .inr (hprepared hstage)
  by_cases hchanged : w.stage = .reapprovalRequired
  · exact .inl (hs.signed id w hread hchanged).1
  have hupdated : w.stage ≠ .updated := fun h => haction (hwritten.updated h)
  refine .inl (hwritten.signed ?_ hchanged).1
  cases hcase : w.stage <;> simp_all [NameOperationState.isTerminal, NameOperationState.isObserved]

section Passes

theorem StoreRefines.healthy [HnsTransactions]
    (h : StoreRefines config (passPowers snapshot nowUnix) s t)
    (hs : s.Healthy config nowUnix) : t.Healthy config nowUnix := by
  obtain ⟨ht, hmoves⟩ := h [] hs.sound
  obtain ⟨hheld, hsigned⟩ := hmoves.invariant
    (P := fun b => NamesHeld config nowUnix b ∧ b.NamesSigned)
    (fun hmove hb => ⟨hb.1.move hmove (fun _ hcommits => hcommits.elim) fun _ _ hdrops =>
      hdrops.elim,
      hmove.namesSigned (fun hwithdraws => hwithdraws) hb.1.written hb.2⟩) ⟨hs.held, hs.signed⟩
  exact ⟨ht, hheld, hsigned⟩

theorem WalletStore.Healthy.after [HnsTransactions] {α : Type}
    {m : EStateM HnsWalletError (WalletStore V) α} {a : α}
    (hs : s.Healthy config nowUnix)
    (hrefines : StoreRefines config (passPowers snapshot nowUnix) s (finalState (m s)))
    (h : m s = .ok a t) : t.Healthy config nowUnix := by
  rw [h] at hrefines
  exact hrefines.healthy hs

variable [Encoded V]

theorem saveObservedName_ne {stored : StoredWorkflow HnsNameWorkflow}
    {observation : NameObservation} (hs : s.Healthy config nowUnix) :
    saveObservedName config stored kind observation nowUnix s ≠ .error .invalidWorkflow := by
  refine bind_ne_error ?_ fun _ _ =>
    bind_ne_error (mapError_ne_error fun _ => by simp) fun _ _ => ok_ne_error
  split
  · exact reservationDeletes_ne hs
  · exact ok_ne_error

variable [HnsTransactions]

/-- One workflow whose row is as it was listed. -/
theorem reconcileListedName_avoids {stored : StoredWorkflow HnsNameWorkflow}
    (hcoherent : snapshot.Coherent) (hs : s.Healthy config nowUnix) (hkind : kind.isName)
    (hrow : ∃ row, s.workflows.lookup stored.id = some row ∧ row.kind = kind ∧
      Serde.fromSlice row.state = some stored.state) :
    Avoids .invalidWorkflow (reconcileListedName config snapshot kind nowUnix stored) s := by
  obtain ⟨row, hlookup, rfl, hstate⟩ := hrow
  have hread : s.nameWorkflow stored.id = some stored.state :=
    WalletStore.nameWorkflow_eq_some.2 ⟨row, hlookup, hkind, hstate⟩
  have hwritten := hs.held.written stored.id stored.state hread
  unfold reconcileListedName
  split
  next => exact .pure
  next =>
    refine .bind (.lift (refuseIf_ne_error_of_not ?_)) fun _ s₁ h₁ => ?_
    · rw [not_or, not_not, not_not]
      exact ⟨(hs.sound.kinds _ row _ hlookup hkind hstate).1.symm, hwritten.named⟩
    obtain ⟨-, rfl⟩ := lift_eq_ok.1 h₁
    refine .bind (.lift (reconcileNameWorkflow_ne hcoherent fun hobserved => ?_)) fun _ s₂ h₂ => ?_
    · by_cases hstage : stored.state.stage = .reapprovalRequired
      · exact hs.signed stored.id stored.state hread hstage
      · exact hwritten.signed hobserved hstage
    obtain ⟨-, rfl⟩ := lift_eq_ok.1 h₂
    refine .bind ?_ fun _ _ _ => .pure
    split
    · exact .transact (saveObservedName_ne hs)
    · exact .pure

theorem reconcileNameKind_avoids (hcoherent : snapshot.Coherent) (hs : s.Healthy config nowUnix)
    (hkind : kind.isName) :
    Avoids .invalidWorkflow (reconcileNameKind config snapshot nowUnix kind) s := by
  refine .bind (.lift (mapError_ne_error fun _ => by simp)) fun listed s₁ h₁ => ?_
  obtain ⟨hlisted, rfl⟩ := reading_eq_ok.1 h₁
  rw [mapError_eq_ok] at hlisted
  rw [reconcileListedNames_eq]
  refine passEach_avoids reconcileListedName_local
    (WalletStore.nodup_of_listWorkflowsComplete hlisted) hs fun stored hstored s' hs' hbefore => ?_
  have hrow := WalletStore.row_of_listed hlisted hstored
  rw [← show s'.workflows.lookup stored.id = s.workflows.lookup stored.id from hbefore] at hrow
  refine ⟨reconcileListedName_avoids hcoherent hs' hkind hrow, ?_⟩
  obtain ⟨row, hlookup, rfl, hstate⟩ := hrow
  exact (reconcileListedName_refines passPowers_looks
    (WalletStore.nameWorkflow_eq_some.2 ⟨row, hlookup, hkind, hstate⟩)).healthy hs'

theorem reconcileNameWorkflows_avoids (hcoherent : snapshot.Coherent)
    (hs : s.Healthy config nowUnix) :
    Avoids .invalidWorkflow (reconcileNameWorkflows config snapshot nowUnix) s := by
  refine .bind (reconcileNameKind_avoids hcoherent hs rfl) fun _ s₁ h₁ => ?_
  have hs₁ := hs.after (reconcileNameKind_keeps rfl passPowers_looks s) h₁
  refine .bind (reconcileNameKind_avoids hcoherent hs₁ rfl) fun _ s₂ h₂ => ?_
  have hs₂ := hs₁.after (reconcileNameKind_keeps rfl passPowers_looks s₁) h₂
  exact .bind (reconcileNameKind_avoids hcoherent hs₂ rfl) fun _ _ _ => .pure

end Passes

/-! ## Cleaning up -/

section Cleaning

/-- The reservations of what a name workflow holds are complete. -/
theorem holding_complete {listed : List (StoredEntity HnsInputReservation)}
    {holding : NameHolding} {w : HnsNameWorkflow} (hs : s.Healthy config nowUnix)
    (hlisted : accountInputReservations s config = .ok listed)
    (hread : s.nameWorkflow holding.id = some w) (haction : w.plan.action ≠ .update)
    (hitems : holding.reservations = w.plan.reservations)
    (hterminal : holding.terminal = w.stage.isTerminal)
    (hprepared : w.stage = .prepared → nowUnix < w.plan.expiresAtUnix) :
    holding.complete listed := by
  refine ⟨(outpoints_nodup hlisted).sublist (List.filter_sublist.map _), fun hlive => ?_⟩
  rw [hterminal] at hlive
  have hcomplete := hs.held.complete holding.id w hread haction hlive
    (hs.valid hread haction hlive hprepared)
  have hperm := listed_perm hlisted hs.held.backed
    (HnsBook.holding_of_name (b := HnsSystem.book config ⟨s, []⟩) hread)
    (hs.held.written _ w hread).nodup hcomplete
  rw [hitems]
  refine ⟨?_, fun expected hexpected => ?_⟩
  · have hlength := hperm.length_eq
    rw [List.length_map] at hlength
    rw [List.length_map]
    exact hlength
  · obtain ⟨stored, hstored, rfl⟩ := List.mem_map.1 (hperm.mem_iff.2 hexpected)
    exact List.mem_map_of_mem hstored

variable [Serde V HnsPreparedSettlement]

/-- A listed reservation is one that its workflow expects. -/
theorem dropsReservation_ne {holdings : List NameHolding}
    {listed : List (StoredEntity HnsInputReservation)} (hcoherent : snapshot.Coherent)
    (hs : s.Healthy config nowUnix) (hlisted : accountInputReservations s config = .ok listed)
    (hholdings : ∀ holding ∈ holdings, ∃ w, s.nameWorkflow holding.id = some w ∧
      holding.reservations = w.plan.reservations)
    {stored : StoredEntity HnsInputReservation} (hstored : stored ∈ listed) :
    dropsReservation snapshot s holdings nowUnix stored.value ≠ .error .invalidWorkflow := by
  unfold dropsReservation
  split
  next holding hfind =>
    obtain ⟨w, hread, hitems⟩ := hholdings holding (List.mem_of_find?_eq_some hfind)
    have hid : holding.id = stored.value.workflowId := by simpa using List.find?_some hfind
    obtain ⟨hmem, -, -⟩ := accountInputReservations_eq_ok hlisted
    obtain ⟨-, -, -, h, hholding, hitem, -⟩ := hs.held.backed _ _ (hmem stored hstored).2.1
    rw [← hid, HnsBook.holding_of_name (b := HnsSystem.book config ⟨s, []⟩) hread] at hholding
    cases hholding
    refine bind_ne_error (refuseIf_ne_error_of_not ?_) fun _ _ => ok_ne_error
    rw [not_not, hitems]
    exact hitem
  next =>
    split
    next => exact ok_ne_error
    next =>
      split
      next => exact ok_ne_error
      next =>
        refine bind_ne_error ?_ fun _ _ => ok_ne_error
        split
        · exact settlementConflicted_ne hcoherent
        · exact ok_ne_error

variable [Encoded V]

theorem cleanupInputReservations_ne (hcoherent : snapshot.Coherent)
    (hs : s.Healthy config nowUnix)
    (hprepared : ∀ id w, s.nameWorkflow id = some w → w.stage = .prepared →
      nowUnix < w.plan.expiresAtUnix) :
    cleanupInputReservations config snapshot nowUnix s ≠ .error .invalidWorkflow := by
  refine bind_ne_error (nameHoldings_ne hs rfl) fun transfers htransfers => ?_
  refine bind_ne_error (nameHoldings_ne hs rfl) fun finalizations hfinalizations => ?_
  have hholdings {holding} (hmem : holding ∈ transfers ++ finalizations) :=
    (List.mem_append.1 hmem).elim (nameHoldings_reads rfl (by simp) htransfers)
      (nameHoldings_reads rfl (by simp) hfinalizations)
  refine bind_ne_error accountInputReservations_ne fun listed hlisted => ?_
  refine bind_ne_error (droppedReservations_ne fun stored hstored =>
    dropsReservation_ne hcoherent hs hlisted (fun holding hholding => ?_) hstored) fun _ _ => ?_
  · obtain ⟨w, hread, -, hitems, -⟩ := hholdings hholding
    exact ⟨w, hread, hitems⟩
  · refine bind_ne_error (refuseIf_ne_error_of_not ?_) fun _ _ => ?_
    · rintro ⟨holding, hholding, hincomplete⟩
      obtain ⟨w, hread, haction, hitems, hterminal⟩ := hholdings hholding
      exact hincomplete (holding_complete hs hlisted hread haction hitems hterminal
        (hprepared holding.id w hread))
    · split
      · exact ok_ne_error
      · exact bind_ne_error (mapError_ne_error fun _ => by simp) fun _ _ => ok_ne_error

end Cleaning

/-! ## Runs -/

variable [Encoded V] [HnsTransactions] [Sha256] [Serde V HnsPreparedSettlement] [SendsApart V]
  {system : HnsSystem V} {ops : List HnsOperation}

theorem HnsSystem.namesSigned_of_run
    (hrun : Run (HnsSystem.Step config) (.empty : HnsSystem V) ops system)
    (hauthority : ∀ plan given, .authorizeName plan given ∈ ops → ¬ given.findsChange plan) :
    (system.book config).NamesSigned :=
  (HnsSystem.run_invariant (P := fun b => b.NamesWritten config ∧ b.NamesSigned) hrun
    HnsSystem.empty_sound
    (fun op hop _ _ hmove hb => ⟨hmove.namesWritten hb.1, hmove.namesSigned (fun hwithdraws => by
      cases op with
      | authorizeName plan given => exact hauthority plan given hop hwithdraws
      | _ => exact hwithdraws) hb.1 hb.2⟩)
    ⟨fun _ _ hread => (by cases hread), fun _ _ hread => (by cases hread)⟩).2.2

/-- After every run whose clock does not go back, a reconciliation with any coherent snapshot
stops with `InvalidWorkflow` in neither the pass over the name workflows nor the clean-up
after the passes, unless a workflow waits for a new approval that was never signed.  Only an
authorization that finds its source or terms changed leaves such a workflow. -/
theorem reconcile_never_wedges
    (hrun : Run (HnsSystem.Step config) (.empty : HnsSystem V) ops system)
    (htimed : HnsOperation.Timed (ops ++ [.reconcile snapshot nowUnix]))
    (hcoherent : snapshot.Coherent) :
    ((∀ plan given, .authorizeName plan given ∈ ops → ¬ given.findsChange plan) →
      (system.book config).NamesSigned) ∧
    ((system.book config).NamesSigned →
      (∀ t, reconcileNameWorkflows config snapshot nowUnix system.store ≠
        .error .invalidWorkflow t) ∧
      ∀ names sends mid mid',
        reconcileNameWorkflows config snapshot nowUnix system.store = .ok names mid →
        reconcileSendWorkflows config snapshot nowUnix mid = .ok sends mid' →
        cleanupInputReservations config snapshot nowUnix mid' ≠ .error .invalidWorkflow) := by
  refine ⟨HnsSystem.namesSigned_of_run hrun, fun hsigned => ?_⟩
  obtain ⟨hops, hle, htime⟩ := htimed.snoc
  rw [htime nowUnix rfl] at hle
  obtain ⟨hsound, hheld⟩ := HnsSystem.namesHeld_of_run hrun hops
  have hhealthy : system.store.Healthy config nowUnix :=
    ⟨hsound, ⟨hheld.written, hheld.backed, hheld.complete.mono hle⟩, hsigned⟩
  refine ⟨reconcileNameWorkflows_avoids hcoherent hhealthy,
    fun names sends mid mid' hnames hsends => ?_⟩
  have hmid := hhealthy.after (reconcileNameWorkflows_keeps passPowers_looks system.store) hnames
  have hmid' := hmid.after (reconcileSendWorkflows_keeps passPowers_looks mid) hsends
  refine cleanupInputReservations_ne hcoherent hmid' fun id w hread hprepared => ?_
  -- the pass has just moved every preparation that is over
  rw [reconcileSendWorkflows_nameWorkflow hsends] at hread
  obtain ⟨w₀, observation, -, hlook, rfl, -⟩ :=
    reconcileNameWorkflows_eq_ok hnames hread (hmid.held.written id w hread).own
  cases reconcileNameWorkflow_eq_ok hlook with
  | untouched _ live same =>
    rw [same] at hprepared ⊢
    exact live hprepared
  | expired _ _ same =>
    rw [same] at hprepared
    cases hprepared
  | observed _ _ _ _ is => exact absurd hprepared is.stage_cases.1

end Stores

namespace Sample

section

attribute [local instance] hnsSha hnsTransactions

/-- What a pass over the names answers. -/
def stopsWithInvalidWorkflow (snapshot : HnsSnapshot) (nowUnix : UInt64)
    (system : HnsSystem HnsValue) : Bool :=
  match reconcileNameWorkflows hnsConfig snapshot nowUnix system.store with
  | .error .invalidWorkflow _ => true
  | _ => false

theorem stops_of_stopsWithInvalidWorkflow {snapshot : HnsSnapshot} {nowUnix : UInt64}
    {system : HnsSystem HnsValue} (h : stopsWithInvalidWorkflow snapshot nowUnix system = true) :
    ∃ t, reconcileNameWorkflows hnsConfig snapshot nowUnix system.store =
      .error .invalidWorkflow t := by
  unfold stopsWithInvalidWorkflow at h
  split at h
  next t heq => exact ⟨t, heq⟩
  next => cases h

theorem hnsSnapshot_coherent {epoch : UInt64} {status : TransactionStatus}
    {coins : List TrackedHnsCoin} : (hnsSnapshot epoch status coins).Coherent :=
  ⟨fun _ => ok_ne_error, fun _ => ok_ne_error, fun _ => ok_ne_error⟩

/-- A transfer that is locked, and two preparations. -/
def mixedCalls : List HnsOperation :=
  confirmedOnce .transfer ++ [prepareName .finalize 9 1001, prepareSend 5 1001]

/-- The transfer is gone at the next look: both parts of the reconciliation go through. -/
theorem reconcile_never_wedges_transfer :
    (∀ t, reconcileNameWorkflows hnsConfig (hnsSnapshot 3 absent []) 1002
      (hnsAfter mixedCalls).store ≠ .error .invalidWorkflow t) ∧
    ∀ names sends mid mid',
      reconcileNameWorkflows hnsConfig (hnsSnapshot 3 absent []) 1002
        (hnsAfter mixedCalls).store = .ok names mid →
      reconcileSendWorkflows hnsConfig (hnsSnapshot 3 absent []) 1002 mid = .ok sends mid' →
      cleanupInputReservations hnsConfig (hnsSnapshot 3 absent []) 1002 mid' ≠
        .error .invalidWorkflow := by
  have htimed : HnsOperation.Timed
      (mixedCalls ++ [.reconcile (hnsSnapshot 3 absent []) 1002]) := by
    show List.Pairwise (· ≤ ·) [(1000 : UInt64), 1000, 1001, 1001, 1001, 1002]
    decide
  obtain ⟨hsigned, hnever⟩ := reconcile_never_wedges (V := HnsValue)
    (HnsSystem.run_afterCalls hnsConfig _ _) htimed hnsSnapshot_coherent
  refine hnever (hsigned ?_)
  intro plan given hmem
  simp only [mixedCalls, confirmedOnce, submitted, prepareName, authorizeName, broadcastName,
    prepareSend, List.mem_append, List.mem_cons, HnsOperation.authorizeName.injEq, reduceCtorEq,
    List.not_mem_nil, or_false, false_or] at hmem
  obtain ⟨rfl, rfl⟩ := hmem
  rintro (hfirst | ⟨quote, hquote, hsecond⟩)
  · exact absurd hfirst (by decide +kernel)
  · cases hquote
    exact absurd hsecond (by decide +kernel)

/-- An authorization that finds another owner of the name. -/
def authorizeChanged : HnsOperation :=
  let plan := hnsPlan .transfer 7 1000
  .authorizeName plan ⟨1000, 1000, .ok (), hnsView plan (hnsOutpoint 8), .ok (),
    .ok ([7], hnsHash 7), .ok hnsQuote, 1000, hnsView plan (hnsOutpoint 8), true⟩

/-- After it the workflow needs a new approval without ever having been signed, and every
reconciliation stops. -/
theorem changed_preparation_stops_reconciliation :
    (∃ w, (hnsAfter [prepareName .transfer 7 1000, authorizeChanged]).store.nameWorkflow
        (hnsWorkflow 7) = some w ∧
      w.stage = .reapprovalRequired ∧ w.signedTransaction = none) ∧
    (∃ t, reconcileNameWorkflows hnsConfig (hnsSnapshot 2 absent [hnsCoin 107]) 1001
      (hnsAfter [prepareName .transfer 7 1000, authorizeChanged]).store =
        .error .invalidWorkflow t) ∧
    ∃ t, reconcileNameWorkflows hnsConfig (hnsSnapshot 3 confirmed [hnsCoin 107]) 5000
      (hnsAfter [prepareName .transfer 7 1000, authorizeChanged,
        .reconcile (hnsSnapshot 2 absent [hnsCoin 107]) 1001]).store =
          .error .invalidWorkflow t := by
  obtain ⟨w, hread, hcheck⟩ := exists_of_nameIs (show nameIs
    (hnsAfter [prepareName .transfer 7 1000, authorizeChanged]).store (fun w =>
      w.stage = .reapprovalRequired && w.signedTransaction = none) = true by decide +kernel)
  simp only [Bool.and_eq_true, decide_eq_true_eq] at hcheck
  exact ⟨⟨w, hread, hcheck⟩, stops_of_stopsWithInvalidWorkflow (by decide +kernel),
    stops_of_stopsWithInvalidWorkflow (by decide +kernel)⟩

end

end Sample

end HnsWallet
