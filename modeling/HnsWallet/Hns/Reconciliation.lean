import HnsWallet.Hns.Refinement

/-! # Sends and reconciliations are sequences of moves -/

namespace HnsWallet

open Lib WalletStore HoldingEffect
open Relation (ReflTransGen)

section Workflows

variable {V : Type} {s t : WalletStore V} {id : WorkflowId} {kind : WorkflowKind}
  {config : HnsRuntimeConfig} {powers : BookPowers} {snapshot : HnsSnapshot}
  {nowUnix startedAtUnix revision : UInt64} {releases : Bool} {deletes : List EntityBatchDelete}
  {submitted : HnsSendWorkflow} {raw : List UInt8} {holdings : List NameHolding}
  {quote : HnsTransactionFeeQuote}

theorem reservation_releaseIf [Serde V HnsInputReservation]
    (hdeletes : (if releases then reservationDeletes s config id else .ok []) = .ok deletes)
    (h : WalletStore.Batched .inputReservation ([] : List (EntityBatchSave HnsInputReservation))
      deletes s t) :
    (if releases then release else .keep).Possible (s.reservation config) ∧
      t.reservation config = (if releases then release else .keep).apply config id
        (s.reservation config) := by
  cases releases with
  | true => exact ⟨possible_release, reservation_release hdeletes h⟩
  | false =>
    cases hdeletes
    refine ⟨possible_keep, reservation_congr fun rid => ?_⟩
    exact h.lookup_ne (fun save hsave => absurd hsave List.not_mem_nil)
      fun delete hdelete => absurd hdelete List.not_mem_nil

theorem mem_nameHoldings [Serde V HnsNameWorkflow] (hkind : kind.isName)
    (h : nameHoldings config s kind = .ok holdings) :
    (∀ holding ∈ holdings, ∃ w, s.nameWorkflow holding.id = some w ∧ w.plan.ofAccount config ∧
      w.plan.action.workflowKind = kind ∧ w.plan.workflowId = holding.id ∧
      holding.reservations = w.plan.reservations ∧ holding.terminal = w.stage.isTerminal) ∧
    (∀ id row (w : HnsNameWorkflow), s.workflows.lookup id = some row → row.kind = kind →
      Serde.fromSlice row.state = some w → w.plan.ofAccount config →
      ∃ holding ∈ holdings, holding.id = id) := by
  simp only [nameHoldings, ok_iff] at h
  obtain ⟨listed, hlisted, h⟩ := h
  constructor
  · intro holding hholding
    obtain ⟨stored, hstored, hread⟩ := (mem_of_mapM_eq_ok h).1 hholding
    obtain ⟨hstored, hown⟩ := List.mem_filter.1 hstored
    obtain ⟨hstoredKind, hload⟩ := (mem_of_listWorkflowsComplete hlisted).1 hstored
    simp only [nameHolding, ok_iff, not_or, not_not] at hread
    obtain ⟨-, ⟨hid, haction⟩, -, -, hret⟩ := hread
    cases hret
    exact ⟨stored.state, nameWorkflow_of_load hload (hstoredKind ▸ hkind),
      of_decide_eq_true hown, haction, hid, rfl, rfl⟩
  · intro id row w hlookup hrowKind hstate hown
    obtain ⟨stored, hstored, rfl, hstate'⟩ := listed_of_row hlisted hlookup hrowKind
    cases hstate.symm.trans hstate'
    obtain ⟨holding, hholding, hholds⟩ := exists_of_mapM_eq_ok h
      (List.mem_filter.2 ⟨hstored, decide_eq_true hown⟩)
    refine ⟨holding, hholding, ?_⟩
    simp only [nameHolding, ok_iff] at hholds
    obtain ⟨-, -, -, -, hret⟩ := hholds
    cases hret
    rfl

theorem droppedReservations_eq_ok [Serde V HnsPreparedSettlement]
    {listed : List (StoredEntity HnsInputReservation)}
    (h : droppedReservations snapshot s holdings nowUnix listed = .ok deletes) :
    deletes = (listed.filter fun stored =>
      (dropsReservation snapshot s holdings nowUnix stored.value).toOption = some true).map
        deleteOf := by
  induction listed generalizing deletes with
  | nil =>
    cases h
    rfl
  | cons stored rest ih =>
    simp only [droppedReservations, ok_iff] at h
    obtain ⟨drops, hdrops, others, hothers, hret⟩ := h
    cases hret
    rw [List.filter_cons, hdrops, ih hothers]
    cases drops <;> rfl

class SendsApart (V : Type) [Serde V HnsSendWorkflow] [Serde V HnsPreparedSettlement] : Prop where
  apart (v : V) (w : HnsSendWorkflow) : Serde.fromSlice v = some w →
    (Serde.fromSlice v : Option HnsPreparedSettlement) = none

section Sends

variable [Serde V HnsSendWorkflow] {stored : StoredWorkflow HnsSendWorkflow}

theorem WalletStore.sendWorkflow_of_load
    (h : s.loadWorkflow HnsSendWorkflow id = .ok (some stored)) (hkind : stored.kind = .hnsSend) :
    s.sendWorkflow id = some stored.state := by
  obtain ⟨-, row, state, hlookup, hstate, rfl⟩ := loadWorkflow_eq_some.1 h
  exact sendWorkflow_eq_some.2 ⟨row, hlookup, hkind, hstate⟩

theorem RowSaved.sendWorkflow_of_load {loaded : Option (StoredWorkflow HnsSendWorkflow)}
    {w : HnsSendWorkflow} (h : RowSaved id .hnsSend w s t)
    (hload : s.loadWorkflow HnsSendWorkflow id = .ok loaded) (hstored : loaded = some stored) :
    s.sendWorkflow id = some stored.state := by
  have hkind := h.kind_of_load hload hstored
  subst hstored
  exact WalletStore.sendWorkflow_of_load hload hkind

theorem sendWorkflow_eq_none_of_conflicted [Serde V HnsPreparedSettlement] [SendsApart V]
    (h : settlementConflicted snapshot s id = .ok true) : s.sendWorkflow id = none := by
  cases hsend : s.sendWorkflow id with
  | none => rfl
  | some w =>
    obtain ⟨row, hlookup, -, hstate⟩ := sendWorkflow_eq_some.1 hsend
    unfold settlementConflicted at h
    split at h
    next stored hload =>
      obtain ⟨-, row', state, hlookup', hstate', -⟩ := loadWorkflow_eq_some.1 hload
      rw [hlookup] at hlookup'
      cases hlookup'
      rw [SendsApart.apart row.state w hstate] at hstate'
      cases hstate'
    next hload =>
      have hnone := (loadWorkflow_eq_none.1 hload).2
      rw [hlookup] at hnone
      cases hnone
    next => cases h

variable [Encoded V]

theorem beginSendSubmission_stage
    (h : beginSendSubmission stored quote startedAtUnix s = .ok (t, revision, submitted)) :
    submitted.stage = .requiresRebroadcast := by
  simp only [beginSendSubmission, ok_iff] at h
  obtain ⟨_, -, current, -, -, -, ⟨saved, next⟩, -, hret⟩ := h
  cases hret
  rfl

variable [Serde V HnsInputReservation]

theorem reconcileListedSend_saved {pending : Bool}
    (h : reconcileListedSend config snapshot nowUnix stored s = .ok pending t) :
    t = s ∨ ∃ w : HnsSendWorkflow, RowSaved stored.id .hnsSend w s t := by
  have hsave : ∀ {stage : HnsSendStage} {releases irreversible : Bool} {r : Unit} {u},
      transact (saveSendStage config stored stage releases irreversible nowUnix) s =
        .ok r u → ∃ w : HnsSendWorkflow, RowSaved stored.id .hnsSend w s u := by
    intro stage releases irreversible r u hu
    rw [transact_eq_ok] at hu
    simp only [saveSendStage, ok_iff] at hu
    obtain ⟨deletes, -, ⟨saved, next⟩, hwrite, hret⟩ := hu
    cases hret
    exact ⟨_, (rowSaved_of_batch hwrite).1⟩
  unfold reconcileListedSend at h
  split at h
  next =>
    obtain ⟨-, rfl⟩ := attempt_pure_eq_ok.1 h
    exact .inl rfl
  next =>
    split at h
    next =>
      obtain ⟨_, u, hu, hret⟩ := attempt_bind_eq_ok.1 h
      obtain ⟨-, rfl⟩ := attempt_pure_eq_ok.1 hret
      exact .inr (hsave hu)
    next =>
      cases hknown : stored.state.transaction with
      | none =>
        rw [hknown] at h
        obtain ⟨-, rfl⟩ := attempt_pure_eq_ok.1 h
        exact .inl rfl
      | some transactionId =>
        rw [hknown] at h
        simp only [attempt_bind_eq_ok, lift_eq_ok] at h
        obtain ⟨⟨stage, pending'⟩, _, ⟨-, rfl⟩, _, u, hu, hret⟩ := h
        obtain ⟨-, rfl⟩ := attempt_pure_eq_ok.1 hret
        split at hu
        next => exact .inr (hsave hu)
        next =>
          obtain ⟨-, rfl⟩ := attempt_pure_eq_ok.1 hu
          exact .inl rfl

theorem reconcileListedSends_eq (listed : List (StoredWorkflow HnsSendWorkflow)) :
    reconcileListedSends (V := V) config snapshot nowUnix listed =
      passEach (reconcileListedSend config snapshot nowUnix) StoredWorkflow.id listed := by
  induction listed with
  | nil => rfl
  | cons first rest ih => rw [reconcileListedSends, passEach, ih]

theorem reconcileListedSend_local : Local (fun s : WalletStore V => s.workflows.lookup)
    (reconcileListedSend config snapshot nowUnix) StoredWorkflow.id := by
  intro stored s t pending id h hne
  rcases reconcileListedSend_saved h with rfl | ⟨w, hsaved⟩
  · rfl
  · exact hsaved.others id hne

end Sends

variable [Encoded V] [Serde V HnsInputReservation] [Serde V HnsNameWorkflow]
  [Serde V HnsSendWorkflow] [HnsTransactions]

variable {r : Unit} {stored : StoredWorkflow HnsNameWorkflow}

section

variable (hlooks : powers.looks snapshot nowUnix)
  (hread : s.nameWorkflow stored.id = some stored.state)
include hlooks hread

theorem saveObservedName_refines {observation : NameObservation}
    (hmatches : stored.state.plan.action.workflowKind = kind)
    (hnamed : stored.state.plan.workflowId = stored.id)
    (hobservation : reconcileNameWorkflow snapshot nowUnix stored.state = .ok observation)
    (h : saveObservedName config stored kind observation nowUnix s = .ok (t, r)) :
    StoreRefines config powers s t := by
  simp only [saveObservedName, ok_iff] at h
  obtain ⟨deletes, hdeletes, ⟨saved, next⟩, hsave, hret⟩ := h
  cases hret
  obtain ⟨hsaved, -, written, hbatched, hentities⟩ := rowSaved_of_batch hsave
  have hmove : NameMove config powers.toMovePowers stored.id _ [] (some stored.state) _ :=
    .look hlooks hobservation
  rw [← hread] at hmove
  have hsame := (reconcileNameWorkflow_eq_ok hobservation).same
  exact hsaved.refines_name_batch hbatched hentities (by rw [← hmatches]; simp)
    (by rw [hsame.plan]; exact ⟨hmatches.symm, hnamed⟩) (fun _ => reservation_releaseIf hdeletes
      hbatched) hmove

theorem reconcileListedName_refines :
    StoreRefines config powers s
      (finalState (reconcileListedName config snapshot kind nowUnix stored s)) := by
  unfold reconcileListedName
  split
  next => exact .refl s
  next =>
    refine finalState_bind .trans (Keeps.lift .refl _ s) fun _ s₁ h₁ => ?_
    obtain ⟨hchecks, rfl⟩ := lift_eq_ok.1 h₁
    rw [refuseIf_eq_ok, not_or, not_not, not_not] at hchecks
    refine finalState_bind .trans (Keeps.lift .refl _ s) fun observation s₂ h₂ => ?_
    obtain ⟨hobservation, rfl⟩ := lift_eq_ok.1 h₂
    refine finalState_bind .trans ?_ fun _ s₃ _ => .refl s₃
    split
    next =>
      exact finalState_transact .refl fun t r hsave =>
        saveObservedName_refines hlooks hread hchecks.1 hchecks.2 hobservation hsave
    next => exact .refl s

end

theorem reconcileNameKind_keeps (hkind : kind.isName) (hlooks : powers.looks snapshot nowUnix) :
    Keeps (StoreRefines config powers)
      (reconcileNameKind (V := V) config snapshot nowUnix kind) := by
  intro s
  refine Keeps.reading_bind .refl fun listed hlisted => ?_
  rw [mapError_eq_ok] at hlisted
  rw [reconcileListedNames_eq]
  refine passEach_final .refl .trans reconcileListedName_local
    (nodup_of_listWorkflowsComplete hlisted) fun stored hstored s' hbefore => ?_
  obtain ⟨hstoredKind, hload⟩ := (mem_of_listWorkflowsComplete hlisted).1 hstored
  refine reconcileListedName_refines hlooks ?_
  rw [nameWorkflow_congr hbefore]
  exact nameWorkflow_of_load hload (hstoredKind ▸ hkind)

theorem reconcileNameWorkflows_keeps (hlooks : powers.looks snapshot nowUnix) :
    Keeps (StoreRefines config powers)
      (reconcileNameWorkflows (V := V) config snapshot nowUnix) := by
  refine .bind .trans (reconcileNameKind_keeps rfl hlooks) fun _ => ?_
  refine .bind .trans (reconcileNameKind_keeps rfl hlooks) fun _ => ?_
  exact .bind .trans (reconcileNameKind_keeps rfl hlooks) fun _ => .pure .refl _

variable {stored : StoredWorkflow HnsSendWorkflow}

variable {plan : HnsSpendPlan}

theorem savePreparedSend_refines (hown : plan.ofAccount config)
    (h : savePreparedSend config plan nowUnix s = .ok (t, r)) : StoreRefines config powers s t := by
  simp only [savePreparedSend, reservationSaves, ok_iff] at h
  obtain ⟨saves, ⟨-, -, hsaves⟩, ⟨saved, next⟩, hsave, hret⟩ := h
  cases hret
  cases hsaves
  obtain ⟨hsaved, hrevision, written, hbatched, hentities⟩ := rowSaved_of_batch hsave
  have hitems : (plan.inputs.map fun input => reservationSave config plan.workflowId
      plan.expiresAtUnix nowUnix input.coin.outpoint .ordinary) =
      ((plan.inputs.map fun input => (input.coin.outpoint, HnsInputReservationKind.ordinary)).map
        fun item => reservationSave config plan.workflowId plan.expiresAtUnix nowUnix item.1
          item.2) := by
    rw [List.map_map]
    rfl
  rw [hitems] at hbatched
  refine hsaved.refines_send_batch hbatched hentities
    (fun hs => reservation_reserve _ hs hbatched) fun hs => ?_
  rw [WalletStore.sendWorkflow, lookup_eq_none_of_revision_zero hs hrevision]
  exact .prepare hown rfl

theorem prepareSend_keeps [Sha256] {request : SendRequest} {cachedCoins : List TrackedHnsCoin}
    {build : List TrackedHnsCoin → Except HnsWalletError SendAssembly}
    (hdrops : ∀ b reservation, HnsInputReservation.expired reservation nowUnix →
      reservation.kind.isProtectedShakedex = false → powers.drops b reservation) :
    Keeps (StoreRefines config powers)
      (prepareSend (V := V) config request cachedCoins build nowUnix) := by
  refine .bind .trans (.reading .refl _) fun loaded => ?_
  cases loaded with
  | some stored =>
    refine .lift_bind .refl fun _ _ => ?_
    exact .bind .trans (.reading .refl _) fun _ => .pure .refl _
  | none =>
    refine .bind .trans (.transact .refl fun s t r h =>
      availableUnreservedCoins_refines hdrops h) fun coins => ?_
    refine .lift_bind .refl fun assembly _ => ?_
    refine .lift_bind .refl fun expiresAtUnix _ => ?_
    exact .bind .trans (.transact .refl fun s t r h =>
      savePreparedSend_refines ⟨rfl, rfl⟩ h) fun _ => .pure .refl _

theorem saveAuthorizedSend_refines {signed : List UInt8}
    {transactionId : Bytes 32} {approvalStands : Bool}
    {commitNow : UInt64} (hcommits : powers.commits commitNow)
    (hlive : commitNow < plan.expiresAtUnix)
    (h : saveAuthorizedSend config plan signed transactionId quote approvalStands commitNow s =
      .ok (t, r)) : StoreRefines config powers s t := by
  simp only [saveAuthorizedSend, loadPreparedSend, ok_iff, not_not] at h
  obtain ⟨stored, ⟨loaded, hload, stored', hstored, -, hstate, hret'⟩, saves, hsaves, -, -,
    ⟨saved, next⟩, hsave, hret⟩ := h
  cases hret'
  cases hret
  obtain ⟨hsaved, -, written, hbatched, hentities⟩ := rowSaved_of_batch hsave
  have hread := hsaved.sendWorkflow_of_load hload hstored
  rw [hstate] at hread
  refine hsaved.refines_send_batch hbatched hentities
    (fun _ => ⟨possible_activate, reservation_activate hsaves hbatched⟩) fun _ => ?_
  rw [hread]
  exact .authorize hcommits hlive signed transactionId quote

theorem authorizeSend_keeps {given : SendAuthorization}
    (hcommits : powers.commits given.commitNow) :
    Keeps (StoreRefines config powers) (authorizeSend (V := V) config plan given) := by
  refine .lift_bind .refl fun _ _ => ?_
  refine .lift_bind .refl fun _ _ => ?_
  refine .lift_bind .refl fun _ _ => ?_
  refine .bind .trans (.reading .refl _) fun _ => ?_
  refine .lift_bind .refl fun _ _ => ?_
  refine .lift_bind .refl fun _ _ => ?_
  refine .lift_bind .refl fun _ hlive => ?_
  rw [refuseIf_eq_ok, UInt64.not_le] at hlive
  exact .bind .trans (.transact .refl fun s t r h =>
    saveAuthorizedSend_refines hcommits hlive h) fun _ => .pure .refl _

theorem beginSendSubmission_refines (hstage : stored.state.stage.isActive)
    (hsigned : stored.state.signedTransaction = some raw)
    (h : beginSendSubmission stored quote startedAtUnix s = .ok (t, revision, submitted))
    (sent : List (WorkflowId × List UInt8)) :
    Refines config powers ⟨s, sent⟩ ⟨t, sent ++ [(stored.id, raw)]⟩ := by
  simp only [beginSendSubmission, ok_iff] at h
  obtain ⟨loaded, hload, current, hcurrent, -, hsame, ⟨saved, next⟩, hsave, hret⟩ := h
  cases hret
  rw [not_or, not_not, not_not] at hsame
  obtain ⟨hsaved, hentities⟩ := rowSaved_of_save hsave
  have hread := hsaved.sendWorkflow_of_load hload hcurrent
  have hmove : SendMove config powers.toMovePowers stored.id .keep [raw] (some current.state) _ :=
    .submit (hsame.2.symm ▸ hstage) (hsame.2.symm ▸ hsigned) quote
  rw [← hread] at hmove
  exact hsaved.refines_send_alone hentities hmove sent

theorem finishSendSubmission_refines {acceptedAtUnix : UInt64}
    (hstage : submitted.stage = .requiresRebroadcast)
    (h : finishSendSubmission id revision submitted acceptedAtUnix s = .ok (t, r)) :
    StoreRefines config powers s t := by
  simp only [finishSendSubmission, ok_iff] at h
  obtain ⟨loaded, hload, current, hcurrent, -, hsame, ⟨saved, next⟩, hsave, hret⟩ := h
  cases hret
  rw [not_or, not_not, not_not] at hsame
  obtain ⟨hsaved, hentities⟩ := rowSaved_of_save hsave
  have hread := hsaved.sendWorkflow_of_load hload hcurrent
  have hmove : SendMove config powers.toMovePowers id .keep [] (some current.state) _ :=
    .accept (hsame.2.symm ▸ hstage)
  rw [← hread] at hmove
  intro sent
  have hrefines := hsaved.refines_send_alone hentities hmove sent
  rwa [List.map_nil, List.append_nil] at hrefines

variable {given : SendSubmission}

theorem submitSend_keeps (hstage : stored.state.stage.isActive) :
    Keeps (Refines config powers) (submitSend (V := V) stored given) := by
  refine .lift_bind .refl fun raw hraw => ?_
  rw [okOr_eq_ok] at hraw
  refine .lift_bind .refl fun expected _ => ?_
  refine .lift_bind .refl fun _ _ => ?_
  refine .lift_bind .refl fun _ _ => ?_
  refine .lift_bind .refl fun quote _ => ?_
  refine .bind_of .trans (P := fun begun : UInt64 × HnsSendWorkflow =>
    begun.2.stage = .requiresRebroadcast) (.transact .refl fun s t begun h => ?_) (fun h => ?_)
    fun begun hbegun => ?_
  · simp only [ok_iff] at h
    obtain ⟨⟨store, revision, submitted⟩, hbegin, hret⟩ := h
    cases hret
    exact beginSendSubmission_refines hstage hraw hbegin s.sent
  · rw [transact_eq_ok] at h
    simp only [ok_iff] at h
    obtain ⟨⟨store, revision, submitted⟩, hbegin, hret⟩ := h
    cases hret
    exact beginSendSubmission_stage hbegin
  · refine .lift_bind .refl fun actual _ => ?_
    refine .lift_bind .refl fun _ _ => ?_
    exact .bind .trans (onStore_keeps (.transact .refl fun s t r h =>
      finishSendSubmission_refines hbegun h)) fun _ => .pure .refl _

theorem broadcastSend_keeps :
    Keeps (Refines config powers) (broadcastSend (V := V) config raw given) := by
  refine .lift_bind .refl fun transaction _ => ?_
  refine .lift_bind .refl fun transactionId _ => ?_
  intro system
  refine Keeps.reading_bind .refl fun stored hfound => ?_
  simp only [findSend, ok_iff, not_not] at hfound
  obtain ⟨_, -, found, -, -, hstage, hret⟩ := hfound
  cases hret
  exact submitSend_keeps (by rw [hstage]; rfl) system

theorem rebroadcastPendingSend_keeps :
    Keeps (Refines config powers) (rebroadcastPendingSend (V := V) config id given) := by
  intro system
  refine Keeps.reading_bind .refl fun stored hloaded => ?_
  simp only [loadActiveSend, ok_iff] at hloaded
  obtain ⟨_, -, found, -, -, -, -, hstage, hret⟩ := hloaded
  cases hret
  exact submitSend_keeps (by simpa using hstage) system

theorem saveSendStage_refines {stage : HnsSendStage} {irreversible : Bool}
    (hread : ∀ {w : HnsSendWorkflow} {t}, RowSaved stored.id .hnsSend w s t →
      s.sendWorkflow stored.id = some stored.state)
    (hmove : SendMove config powers.toMovePowers stored.id
      (if releases then .release else .keep) [] (some stored.state)
      { stored.state with stage })
    (h : saveSendStage config stored stage releases irreversible nowUnix s = .ok (t, r)) :
    StoreRefines config powers s t := by
  simp only [saveSendStage, ok_iff] at h
  obtain ⟨deletes, hdeletes, ⟨saved, next⟩, hsave, hret⟩ := h
  cases hret
  obtain ⟨hsaved, -, written, hbatched, hentities⟩ := rowSaved_of_batch hsave
  rw [← hread hsaved] at hmove
  exact hsaved.refines_send_batch hbatched hentities
    (fun _ => reservation_releaseIf hdeletes hbatched) fun _ => hmove

theorem cancelPreparedSend_refines
    (h : cancelPreparedSend config id nowUnix s = .ok (t, r)) : StoreRefines config powers s t := by
  simp only [cancelPreparedSend, ok_iff] at h
  obtain ⟨loaded, hload, stored, hstored, -, hchecks, h⟩ := h
  rw [not_or, not_not, not_not] at hchecks
  have hid : stored.id = id := by
    subst hstored
    obtain ⟨-, row, state, -, -, rfl⟩ := loadWorkflow_eq_some.1 hload
    rfl
  subst hid
  exact saveSendStage_refines (fun hsaved => hsaved.sendWorkflow_of_load hload hstored)
    (.cancel hchecks.2) h

theorem reconcileListedSend_refines (hlooks : powers.looks snapshot nowUnix)
    (hread : s.sendWorkflow stored.id = some stored.state) :
    StoreRefines config powers s
      (finalState (reconcileListedSend config snapshot nowUnix stored s)) := by
  have hsave : ∀ {stage : HnsSendStage} {releases irreversible : Bool},
      SendMove config powers.toMovePowers stored.id (if releases then .release else .keep) []
        (some stored.state) { stored.state with stage } →
      StoreRefines config powers s (finalState (transact
        (saveSendStage config stored stage releases irreversible nowUnix) s)) := by
    intro stage releases irreversible hmove
    exact finalState_transact .refl fun t r h => saveSendStage_refines (fun _ => hread) hmove h
  unfold reconcileListedSend
  split
  next => exact .refl s
  next =>
    split
    next hprepared =>
      exact finalState_bind .trans (hsave (.expire hlooks hprepared.1 hprepared.2))
        fun _ u _ => .refl u
    next =>
      cases hknown : stored.state.transaction with
      | none => exact .refl s
      | some transactionId =>
        refine finalState_bind .trans (Keeps.lift .refl _ s) fun observed s₁ h₁ => ?_
        obtain ⟨hobserved, rfl⟩ := lift_eq_ok.1 h₁
        obtain ⟨stage, pending⟩ := observed
        refine finalState_bind .trans ?_ fun _ u _ => .refl u
        split
        next =>
          refine hsave ?_
          have hmove : SendMove config powers.toMovePowers stored.id _ [] (some stored.state) _ :=
            .look hlooks hknown hobserved
          simpa only [Bool.or_eq_true, decide_eq_true_eq] using hmove
        next => exact .refl s

theorem reconcileSendWorkflows_keeps (hlooks : powers.looks snapshot nowUnix) :
    Keeps (StoreRefines config powers)
      (reconcileSendWorkflows (V := V) config snapshot nowUnix) := by
  intro s
  refine Keeps.reading_bind .refl fun listed hlisted => ?_
  rw [mapError_eq_ok] at hlisted
  rw [reconcileListedSends_eq]
  refine passEach_final .refl .trans reconcileListedSend_local
    (nodup_of_listWorkflowsComplete hlisted) fun stored hstored s' hbefore => ?_
  obtain ⟨hkind, hload⟩ := (mem_of_listWorkflowsComplete hlisted).1 hstored
  refine reconcileListedSend_refines hlooks ?_
  rw [sendWorkflow_congr hbefore]
  exact WalletStore.sendWorkflow_of_load hload hkind

def CleanupDrops (config : HnsRuntimeConfig) (snapshot : HnsSnapshot) (nowUnix : UInt64)
    (b : HnsBook) (reservation : HnsInputReservation) : Prop :=
  (∃ w, b.names reservation.workflowId = some w ∧ w.plan.ofAccount config ∧
    w.plan.action ≠ .update ∧ w.stage.isTerminal) ∨
  ((∀ w, b.names reservation.workflowId = some w → w.plan.ofAccount config →
      w.plan.action = .update) ∧
    (reservation.kind.isName ∨ reservation.expired nowUnix ∨
      reservation.outpoint ∉ snapshot.unspent ∨
      (reservation.expiresAtUnix = none ∧ b.sends reservation.workflowId = none)))

variable [Serde V HnsPreparedSettlement]

omit [Encoded V] [HnsTransactions] in
theorem cleanupDrops_of_drops [SendsApart V] {transfers finalizations : List NameHolding}
    (hs : s.Sound) (htransfers : nameHoldings config s .nameTransfer = .ok transfers)
    (hfinalizations : nameHoldings config s .nameFinalize = .ok finalizations)
    {sent : List (WorkflowId × List UInt8)} {reservation : HnsInputReservation}
    (h : dropsReservation snapshot s (transfers ++ finalizations) nowUnix reservation = .ok true) :
    CleanupDrops config snapshot nowUnix (HnsSystem.book config ⟨s, sent⟩) reservation := by
  obtain ⟨htransfer, hallTransfers⟩ := mem_nameHoldings rfl htransfers
  obtain ⟨hfinalize, hallFinalizations⟩ := mem_nameHoldings rfl hfinalizations
  unfold dropsReservation at h
  split at h
  next holding hfind =>
    -- a transfer or a finalization that is over
    simp only [ok_iff] at h
    obtain ⟨-, -, hret⟩ := h
    have hterminal : holding.terminal = true := Except.ok.inj hret
    have hid : holding.id = reservation.workflowId := by simpa using List.find?_some hfind
    rcases List.mem_append.1 (List.mem_of_find?_eq_some hfind) with hmem | hmem
    · obtain ⟨w, hread, hown, haction, -, -, hstage⟩ := htransfer holding hmem
      refine .inl ⟨w, hid ▸ hread, hown, fun hupdate => ?_, hstage ▸ hterminal⟩
      rw [hupdate] at haction
      cases haction
    · obtain ⟨w, hread, hown, haction, -, -, hstage⟩ := hfinalize holding hmem
      refine .inl ⟨w, hid ▸ hread, hown, fun hupdate => ?_, hstage ▸ hterminal⟩
      rw [hupdate] at haction
      cases haction
  next hfind =>
    have hno : ∀ holding ∈ transfers ++ finalizations, holding.id ≠ reservation.workflowId := by
      intro holding hmem
      simpa using List.find?_eq_none.1 hfind holding hmem
    refine .inr ⟨fun w hread hown => ?_, ?_⟩
    · obtain ⟨row, hlookup, hname, hstate⟩ := nameWorkflow_eq_some.1 hread
      have hkind := (hs.kinds _ row w hlookup hname hstate).1
      cases haction : w.plan.action with
      | update => rfl
      | transfer =>
        rw [haction] at hkind
        obtain ⟨holding, hmem, hid⟩ := hallTransfers _ row w hlookup hkind hstate hown
        exact absurd hid (hno holding (List.mem_append_left _ hmem))
      | finalize =>
        rw [haction] at hkind
        obtain ⟨holding, hmem, hid⟩ := hallFinalizations _ row w hlookup hkind hstate hown
        exact absurd hid (hno holding (List.mem_append_right _ hmem))
    · split at h
      next hname => exact .inl hname
      next =>
        split at h
        next => cases h
        next =>
          obtain ⟨conflicted, hconflicted, hret⟩ := ok_bind_iff.1 h
          have hreasons := Except.ok.inj hret
          simp only [Bool.or_eq_true, decide_eq_true_eq] at hreasons
          rcases hreasons with (hexpired | hspent) | hconflict
          · exact .inr (.inl hexpired)
          · exact .inr (.inr (.inl hspent))
          · rw [hconflict] at hconflicted
            split at hconflicted
            next hpermanent =>
              exact .inr (.inr (.inr ⟨hpermanent, sendWorkflow_eq_none_of_conflicted hconflicted⟩))
            next => cases hconflicted

theorem cleanupInputReservations_refines [SendsApart V]
    (hdrops : ∀ b reservation, CleanupDrops config snapshot nowUnix b reservation →
      powers.drops b reservation)
    (h : cleanupInputReservations config snapshot nowUnix s = .ok (t, r)) :
    StoreRefines config powers s t := by
  simp only [cleanupInputReservations, ok_iff] at h
  obtain ⟨transfers, htransfers, finalizations, hfinalizations, listed, hlisted, deletes, hdeletes,
    -, -, h⟩ := h
  split at h
  next =>
    cases h
    exact .refl _
  next =>
    obtain ⟨written, hbatch, hret⟩ := ok_bind_iff.1 h
    cases hret
    obtain ⟨-, hbatched⟩ := applyEntityBatch_batched (mapError_eq_ok.1 hbatch)
    rw [droppedReservations_eq_ok hdeletes] at hbatched
    intro sent hs
    refine refines_drop (hbatched.sound hs) hbatched.workflows
      (hbatched.reservation_delete hlisted (fun reservation => (dropsReservation snapshot s
        (transfers ++ finalizations) nowUnix reservation).toOption = some true) fun _ _ => rfl)
      (fun outpoint reservation _ hdropped => hdrops _ reservation ?_) hs
    refine cleanupDrops_of_drops hs htransfers hfinalizations ?_
    have hresult := of_decide_eq_true hdropped
    cases hcase : dropsReservation snapshot s (transfers ++ finalizations) nowUnix reservation with
    | error e =>
      rw [hcase] at hresult
      cases hresult
    | ok drops =>
      rw [hcase] at hresult
      cases hresult
      rfl

theorem reconcileWorkflows_keeps [SendsApart V] (hlooks : powers.looks snapshot nowUnix)
    (hdrops : ∀ b reservation, CleanupDrops config snapshot nowUnix b reservation →
      powers.drops b reservation) :
    Keeps (StoreRefines config powers)
      (reconcileWorkflows (V := V) config snapshot nowUnix) := by
  refine .bind .trans (reconcileNameWorkflows_keeps hlooks) fun _ => ?_
  refine .bind .trans (reconcileSendWorkflows_keeps hlooks) fun _ => ?_
  exact .bind .trans (.transact .refl fun s t r h => cleanupInputReservations_refines hdrops h)
    fun _ => .pure .refl _

end Workflows

end HnsWallet
