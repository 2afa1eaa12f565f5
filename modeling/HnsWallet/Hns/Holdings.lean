import HnsWallet.Hns.SendRuns

/-! # Who holds which outpoint -/

namespace HnsWallet

open Lib HoldingEffect

structure Holding where
  items : List (HnsOutpoint × HnsInputReservationKind)
  expiresAtUnix : Option UInt64

def HnsNameWorkflow.holding (w : HnsNameWorkflow) : Holding where
  items := w.plan.reservations
  expiresAtUnix := if w.signedTransaction.isSome then none else some w.plan.expiresAtUnix

def HnsSendWorkflow.holding (w : HnsSendWorkflow) : Holding where
  items := w.plan.inputs.map fun input => (input.coin.outpoint, .ordinary)
  expiresAtUnix := if w.signedTransaction.isSome then none else some w.plan.expiresAtUnix

def HnsBook.holding (b : HnsBook) (id : WorkflowId) : Option Holding :=
  match b.names id with
  | some w => some w.holding
  | none => (b.sends id).map HnsSendWorkflow.holding

inductive HoldingStep : HoldingEffect → Option Holding → Holding → Prop where
  | keep (h : Holding) : HoldingStep .keep (some h) h
  | reserve (items : List (HnsOutpoint × HnsInputReservationKind)) (expiresAtUnix : UInt64) :
      HoldingStep (.reserve items expiresAtUnix) none ⟨items, some expiresAtUnix⟩
  | activate (items : List (HnsOutpoint × HnsInputReservationKind)) (until? : Option UInt64) :
      HoldingStep .activate (some ⟨items, until?⟩) ⟨items, none⟩
  | release (h h' : Holding) : HoldingStep .release (some h) h'

section Holdings

variable {config : HnsRuntimeConfig} {id id' : WorkflowId} {effect : HoldingEffect}
  {reserved : Holdings} {holdings : WorkflowId → Option Holding} {h h' : Holding}
  {before : Option Holding} {items : List (HnsOutpoint × HnsInputReservationKind)}
  {expiresAtUnix : UInt64} {outpoint : HnsOutpoint}

theorem HoldingEffect.apply_reserve_some {item : HnsOutpoint × HnsInputReservationKind}
    (hfind : (items.find? fun i => i.1 = outpoint) = some item) :
    (reserve items expiresAtUnix).apply config id reserved outpoint =
      some ⟨config.walletId, config.accountId, outpoint, id, some expiresAtUnix, item.2⟩ := by
  simp only [apply, hfind]

theorem HoldingEffect.apply_reserve_none (hfind : (items.find? fun i => i.1 = outpoint) = none) :
    (reserve items expiresAtUnix).apply config id reserved outpoint =
      reserved outpoint := by
  simp only [apply, hfind]

def Backed (config : HnsRuntimeConfig) (holdings : WorkflowId → Option Holding)
    (reserved : Holdings) : Prop :=
  ∀ outpoint r, reserved outpoint = some r →
    r.walletId = config.walletId ∧ r.accountId = config.accountId ∧ r.outpoint = outpoint ∧
    ∃ h, holdings r.workflowId = some h ∧ (outpoint, r.kind) ∈ h.items ∧
      r.expiresAtUnix = h.expiresAtUnix

def Holding.reservation (config : HnsRuntimeConfig) (id : WorkflowId) (h : Holding)
    (item : HnsOutpoint × HnsInputReservationKind) : HnsInputReservation :=
  ⟨config.walletId, config.accountId, item.1, id, h.expiresAtUnix, item.2⟩

def Holding.Complete (config : HnsRuntimeConfig) (id : WorkflowId) (h : Holding)
    (reserved : Holdings) : Prop :=
  ∀ item ∈ h.items, reserved item.1 = some (h.reservation config id item)

theorem Backed.step (hb : Backed config holdings reserved)
    (hstep : HoldingStep effect (holdings id) h') :
    Backed config (Function.update holdings id (some h')) (effect.apply config id reserved) := by
  -- the reservations of the other workflows are as they were
  have hother : ∀ {outpoint : HnsOutpoint} {r : HnsInputReservation},
      reserved outpoint = some r → r.workflowId ≠ id →
      r.walletId = config.walletId ∧ r.accountId = config.accountId ∧ r.outpoint = outpoint ∧
      ∃ h, Function.update holdings id (some h') r.workflowId = some h ∧
        (outpoint, r.kind) ∈ h.items ∧ r.expiresAtUnix = h.expiresAtUnix := by
    intro outpoint r hr hne
    rw [Function.update_of_ne hne]
    exact hb outpoint r hr
  intro outpoint r hr
  generalize hbefore : holdings id = before at hstep
  cases hstep with
  | keep =>
    by_cases hid : r.workflowId = id
    · obtain ⟨hwallet, haccount, houtpoint, h, hholding, hitem, hexpiry⟩ := hb outpoint r hr
      rw [hid, hbefore] at hholding
      cases hholding
      exact ⟨hwallet, haccount, houtpoint, h', by rw [hid, Function.update_self], hitem, hexpiry⟩
    · exact hother hr hid
  | reserve items expiresAtUnix =>
    cases hfind : items.find? fun item => item.1 = outpoint with
    | some item =>
      rw [apply_reserve_some hfind] at hr
      cases hr
      obtain rfl : item.1 = outpoint := by simpa using List.find?_some hfind
      exact ⟨rfl, rfl, rfl, _, Function.update_self _ _ _, List.mem_of_find?_eq_some hfind, rfl⟩
    | none =>
      rw [apply_reserve_none hfind] at hr
      refine hother hr fun hid => ?_
      obtain ⟨-, -, -, h, hholding, -⟩ := hb outpoint r hr
      rw [hid, hbefore] at hholding
      cases hholding
  | activate items until? =>
    obtain ⟨r₀, hr₀, rfl⟩ := Option.map_eq_some_iff.1
      (show (reserved outpoint).map _ = some r from hr)
    split
    next hid =>
      obtain ⟨hwallet, haccount, houtpoint, h, hholding, hitem, -⟩ := hb outpoint r₀ hr₀
      rw [hid, hbefore] at hholding
      cases hholding
      exact ⟨hwallet, haccount, houtpoint, ⟨items, none⟩, by rw [hid, Function.update_self],
        hitem, rfl⟩
    next hid => exact hother hr₀ hid
  | release =>
    obtain ⟨hr, hid⟩ := Option.filter_eq_some_iff.1
      (show (reserved outpoint).filter _ = some r from hr)
    exact hother hr (of_decide_eq_true hid)

theorem Backed.drop (hb : Backed config holdings reserved) (dropped : HnsInputReservation → Bool) :
    Backed config holdings fun outpoint => (reserved outpoint).filter fun r => !dropped r :=
  fun outpoint r hr => hb outpoint r (Option.filter_eq_some_iff.1 hr).1

theorem Holding.Complete.other (hc : h.Complete config id reserved) (hne : id ≠ id')
    (hpossible : effect.Possible reserved) :
    h.Complete config id (effect.apply config id' reserved) := by
  intro item hitem
  have hr := hc item hitem
  cases effect with
  | keep => exact hr
  | reserve items expiresAtUnix =>
    have hfind : (items.find? fun i => i.1 = item.1) = none := by
      refine List.find?_eq_none.2 fun i hi heq => ?_
      have hfree := hpossible.2 i hi
      rw [of_decide_eq_true heq, hr] at hfree
      cases hfree
    rw [apply_reserve_none hfind]
    exact hr
  | activate =>
    show (reserved item.1).map _ = _
    rw [hr, Option.map_some, if_neg (show ¬ (h.reservation config id item).workflowId =
      id' from hne)]
  | release =>
    show (reserved item.1).filter _ = _
    rw [hr, Option.filter_some, if_pos (decide_eq_true
      (show (h.reservation config id item).workflowId ≠ id' from hne))]

theorem Holding.Complete.step (hstep : HoldingStep effect before h')
    (hpossible : effect.Possible reserved) (hkeeps : effect ≠ .release)
    (hc : ∀ h, before = some h → h.Complete config id reserved) :
    h'.Complete config id (effect.apply config id reserved) := by
  intro item hitem
  cases hstep with
  | keep => exact hc h' rfl item hitem
  | reserve items expiresAtUnix =>
    have hfind : (items.find? fun i => i.1 = item.1) = some item := by
      cases hfind : items.find? fun i => i.1 = item.1 with
      | none => exact absurd (decide_eq_true rfl) (List.find?_eq_none.1 hfind item hitem)
      | some i =>
        have hfst : i.1 = item.1 := by simpa using List.find?_some hfind
        rw [List.inj_on_of_nodup_map hpossible.1 (List.mem_of_find?_eq_some hfind) hitem hfst]
    exact apply_reserve_some hfind
  | activate items until? =>
    show (reserved item.1).map _ = _
    rw [hc _ rfl item hitem]
    exact congrArg some (if_pos rfl)
  | release => exact absurd rfl hkeeps

theorem Holding.Complete.drop (hc : h.Complete config id reserved)
    {dropped : HnsInputReservation → Bool}
    (hkept : ∀ item ∈ h.items, dropped (h.reservation config id item) = false) :
    h.Complete config id fun outpoint => (reserved outpoint).filter fun r => !dropped r := by
  intro item hitem
  show (reserved item.1).filter _ = _
  rw [hc item hitem, Option.filter_some, if_pos (by rw [hkept item hitem]; rfl)]

end Holdings

section Moves

variable {config : HnsRuntimeConfig} {powers : MovePowers} {id : WorkflowId}
  {effect : HoldingEffect} {handed : List (List UInt8)} {w w' : HnsNameWorkflow}
  {nowUnix : UInt64} {b b' : HnsBook} {sent : List (WorkflowId × List UInt8)}

theorem HnsNameWorkflow.SameOperation.holding (h : w.SameOperation w') :
    w'.holding = w.holding := by
  rw [HnsNameWorkflow.holding, HnsNameWorkflow.holding, h.plan, h.signedTransaction]

theorem SendMove.holdingStep {before : Option HnsSendWorkflow} {w' : HnsSendWorkflow}
    (h : SendMove config powers id effect handed before w') :
    HoldingStep effect (before.map HnsSendWorkflow.holding) w'.holding := by
  cases h with
  | @prepare plan own named => exact .reserve _ plan.expiresAtUnix
  | @authorize plan commitNow allowed live signed transactionId quote => exact .activate _ _
  | @submit w raw stage signed quote => exact .keep w.holding
  | @accept w stage => exact .keep w.holding
  | @cancel w stage | @expire w stage => exact .release w.holding _
  | @look stored snapshot nowUnix transactionId stage pending allowed known is =>
    split
    next => exact .release stored.state.holding _
    next => exact .keep stored.state.holding

theorem HnsBook.holding_of_name (h : b.names id = some w) : b.holding id = some w.holding := by
  rw [HnsBook.holding, h]

theorem HnsBook.holding_of_send (h : b.names id = none) :
    b.holding id = (b.sends id).map HnsSendWorkflow.holding := by
  rw [HnsBook.holding, h]

theorem HnsBook.holding_updateName {reserved : Holdings} :
    HnsBook.holding { b with
      names := Function.update b.names id (some w'), reserved, sent } =
        Function.update b.holding id (some w'.holding) := by
  funext id'
  by_cases hid : id' = id
  · subst hid
    rw [Function.update_self, HnsBook.holding]
    simp only [Function.update_self]
  · rw [Function.update_of_ne hid, HnsBook.holding]
    simp only [Function.update_of_ne hid]
    rfl

theorem HnsBook.holding_updateSend {w' : HnsSendWorkflow} {reserved : Holdings}
    (hother : b.names id = none) :
    HnsBook.holding { b with
      sends := Function.update b.sends id (some w'), reserved, sent } =
        Function.update b.holding id (some w'.holding) := by
  funext id'
  by_cases hid : id' = id
  · subst hid
    rw [Function.update_self, HnsBook.holding]
    simp only [hother, Function.update_self, Option.map_some]
  · rw [Function.update_of_ne hid, HnsBook.holding]
    simp only [Function.update_of_ne hid]
    rfl

theorem HnsBook.holding_before (hother : b.sends id = none) :
    b.holding id = (b.names id).map HnsNameWorkflow.holding := by
  rw [HnsBook.holding]
  cases b.names id with
  | some w => rfl
  | none => rw [hother]; rfl

def HnsBook.NamesComplete (config : HnsRuntimeConfig) (nowUnix : UInt64) (b : HnsBook) : Prop :=
  ∀ id w, b.names id = some w → w.plan.action ≠ .update → w.stage.isTerminal = false →
    (w.signedTransaction.isSome ∨ nowUnix < w.plan.expiresAtUnix) →
    w.holding.Complete config id b.reserved

theorem HnsBook.NamesComplete.mono {earlier later : UInt64}
    (h : b.NamesComplete config earlier) (hle : earlier ≤ later) :
    b.NamesComplete config later :=
  fun id w hread haction hlive hvalid =>
    h id w hread haction hlive (hvalid.imp_right (UInt64.lt_of_le_of_lt hle))

variable [HnsTransactions]

theorem NameReconciled.releases {snapshot : HnsSnapshot} {observation : NameObservation}
    (h : NameReconciled snapshot nowUnix w observation) :
    (observation.deleteReservations = true → observation.workflow.stage.isTerminal) ∧
      (observation.deleteReservations = false → observation.workflow.stage.isTerminal →
        w.stage.isTerminal) := by
  cases h with
  | untouched _ _ same =>
    rw [same]
    exact ⟨fun hdelete => (by cases hdelete), fun _ hterminal => hterminal⟩
  | expired _ _ same =>
    rw [same]
    exact ⟨fun _ => rfl, fun hdelete => (by cases hdelete)⟩
  | observed _ _ _ _ is =>
    cases is with
    | conflicted _ _ stage releases =>
      rw [stage, releases]
      exact ⟨fun _ => rfl, fun hdelete => (by cases hdelete)⟩
    | confirmed _ _ is =>
      rw [is.keeps]
      refine ⟨fun hdelete => (by cases hdelete), fun _ hterminal => ?_⟩
      have hstage := is.stage
      revert hstage hterminal
      cases observation.workflow.stage <;>
        simp [NameOperationState.isConfirmed, NameOperationState.isTerminal]
    | mempool _ _ _ _ stage keeps =>
      rw [stage, keeps]
      exact ⟨fun hdelete => (by cases hdelete), fun _ hterminal => (by cases hterminal)⟩
    | gone _ _ _ _ stage keeps =>
      rw [stage, keeps]
      refine ⟨fun hdelete => (by cases hdelete), fun _ hterminal => ?_⟩
      split at hterminal <;> cases hterminal

theorem NameMove.holdingStep {before : Option HnsNameWorkflow}
    (h : NameMove config powers id effect handed before w') :
    HoldingStep effect (before.map HnsNameWorkflow.holding) w'.holding := by
  cases h with
  | @prepare plan own named ordinary funded => exact .reserve plan.reservations plan.expiresAtUnix
  | @mark w stage allowed => exact .keep w.holding
  | @authorize w stage commitNow allowed live signed transactionId quote =>
    exact .activate w.plan.reservations _
  | @submit w raw stage signed transaction quote => exact .keep w.holding
  | @accept w stage => exact .keep w.holding
  | @cancel w stage => exact .release w.holding _
  | @look w snapshot nowUnix observation allowed is =>
    have hsame := (reconcileNameWorkflow_eq_ok is).same
    cases observation.deleteReservations with
    | true => exact .release w.holding _
    | false =>
      rw [hsame.holding]
      exact .keep w.holding

theorem HnsBook.Move.backed {powers : BookPowers} (h : HnsBook.Move config powers b b')
    (hb : Backed config b.holding b.reserved) :
    Backed config b'.holding b'.reserved := by
  cases h with
  | @name id effect handed w' other possible move =>
    rw [HnsBook.holding_updateName]
    refine hb.step ?_
    rw [HnsBook.holding_before other]
    exact move.holdingStep
  | @send id effect handed w' other possible move =>
    rw [HnsBook.holding_updateSend other]
    refine hb.step ?_
    rw [HnsBook.holding_of_send other]
    exact move.holdingStep
  | drop dropped _ => exact hb.drop dropped

def SparesNames (config : HnsRuntimeConfig) (nowUnix : UInt64) (b : HnsBook)
    (r : HnsInputReservation) : Prop :=
  r.expired nowUnix ∨
    (∃ w, b.names r.workflowId = some w ∧ w.stage.isTerminal) ∨
    ∀ w, b.names r.workflowId = some w → w.plan.ofAccount config → w.plan.action = .update

theorem NameMove.complete {before : Option HnsNameWorkflow} {reserved : Holdings}
    (h : NameMove config powers id effect handed before w') (hpossible : effect.Possible reserved)
    (hclock : ∀ commitNow, powers.commits commitNow → nowUnix ≤ commitNow)
    (hbefore : ∀ w, before = some w → NameWritten config id w)
    (hcomplete : ∀ w, before = some w → w.plan.action ≠ .update → w.stage.isTerminal = false →
      (w.signedTransaction.isSome ∨ nowUnix < w.plan.expiresAtUnix) →
      w.holding.Complete config id reserved) (haction : w'.plan.action ≠ .update)
    (hlive : w'.stage.isTerminal = false)
    (hvalid : w'.signedTransaction.isSome ∨ nowUnix < w'.plan.expiresAtUnix) :
    w'.holding.Complete config id (effect.apply config id reserved) := by
  have hstep := h.holdingStep
  -- the workflow before was complete for the same reasons
  have hkeeps : effect ≠ .release ∧ ∀ w, before = some w →
      w.holding.Complete config id reserved := by
    cases h with
    | prepare own named ordinary funded =>
      exact ⟨by simp, fun w hw => (by cases hw)⟩
    | @mark w stage allowed =>
      refine ⟨by simp, fun w₁ hw => ?_⟩
      cases hw
      refine hcomplete w rfl haction ?_ hvalid
      rcases stage with stage | stage | stage <;> rw [stage] <;> rfl
    | @authorize w stage commitNow allowed live signed transactionId quote =>
      refine ⟨by simp, fun w₁ hw => ?_⟩
      cases hw
      exact hcomplete w rfl haction (by rw [stage]; rfl)
        (.inr (UInt64.lt_of_le_of_lt (hclock commitNow allowed) live))
    | @submit w raw stage signed transaction quote =>
      refine ⟨by simp, fun w₁ hw => ?_⟩
      cases hw
      refine hcomplete w rfl haction ?_ hvalid
      rcases stage with stage | stage <;> rw [stage] <;> rfl
    | @accept w stage =>
      refine ⟨by simp, fun w₁ hw => ?_⟩
      cases hw
      exact hcomplete w rfl haction (by rw [stage]; rfl) hvalid
    | cancel stage => cases hlive
    | @look w snapshot nowUnix' observation allowed is =>
      have hlook := reconcileNameWorkflow_eq_ok is
      have hsame := hlook.same
      have hreleases := hlook.releases
      cases hdelete : observation.deleteReservations with
      | true =>
        rw [hreleases.1 hdelete] at hlive
        cases hlive
      | false =>
        refine ⟨by simp, fun w₁ hw => ?_⟩
        cases hw
        refine hcomplete w rfl (hsame.plan ▸ haction) ?_ ?_
        · cases hterminal : w.stage.isTerminal with
          | false => rfl
          | true =>
            -- a workflow that is over stays so
            cases hlook with
            | untouched _ _ same =>
              rw [same] at hlive
              exact hterminal.symm.trans hlive
            | expired stage _ _ =>
              rw [stage] at hterminal
              cases hterminal
            | observed stage _ _ _ _ =>
              revert stage hterminal
              cases w.stage <;>
                simp [NameOperationState.isObserved, NameOperationState.isTerminal]
        · rw [← hsame.signedTransaction, ← hsame.plan]
          exact hvalid
  refine Holding.Complete.step hstep hpossible hkeeps.1 fun h₀ hh₀ => ?_
  obtain ⟨w, hw, rfl⟩ := Option.map_eq_some_iff.1 hh₀
  exact hkeeps.2 w hw

theorem HnsBook.Move.namesComplete {powers : BookPowers} (h : HnsBook.Move config powers b b')
    (hclock : ∀ commitNow, powers.commits commitNow → nowUnix ≤ commitNow)
    (hdrops : ∀ b r, powers.drops b r → SparesNames config nowUnix b r)
    (hwritten : b.NamesWritten config) (hb : b.NamesComplete config nowUnix) :
    b'.NamesComplete config nowUnix := by
  intro id w hread haction hlive hvalid
  cases h with
  | @name id' effect handed w' other possible move =>
    have hread : Function.update b.names id' (some w') id = some w := hread
    by_cases hid : id = id'
    · subst hid
      rw [Function.update_self] at hread
      cases hread
      exact move.complete possible hclock (hwritten id) (hb id) haction hlive hvalid
    · rw [Function.update_of_ne hid] at hread
      exact (hb id w hread haction hlive hvalid).other hid possible
  | @send id' effect handed w' other possible move =>
    have hid : id ≠ id' := by
      rintro rfl
      rw [other] at hread
      cases hread
    exact (hb id w hread haction hlive hvalid).other hid possible
  | drop dropped allowed =>
    have hcomplete := hb id w hread haction hlive hvalid
    refine hcomplete.drop fun item hitem => ?_
    cases hdropped : dropped (w.holding.reservation config id item) with
    | false => rfl
    | true =>
      rcases hdrops b _ (allowed item.1 _ (hcomplete item hitem) hdropped) with
        hexpired | ⟨w₁, hread₁, hterminal⟩ | hupdate
      · -- only an unsigned workflow has reservations that end
        simp only [HnsInputReservation.expired, Holding.reservation,
          HnsNameWorkflow.holding] at hexpired
        rcases hvalid with hsigned | hearly
        · rw [if_pos hsigned] at hexpired
          cases hexpired
        · split at hexpired
          next => cases hexpired
          next => exact absurd (of_decide_eq_true hexpired) (UInt64.not_le.2 hearly)
      · have hread : b.names id = some w := hread
        rw [show b.names id = some w₁ from hread₁] at hread
        cases hread
        rw [hlive] at hterminal
        cases hterminal
      · exact absurd (hupdate w hread (hwritten id w hread).own) haction

end Moves

end HnsWallet
