import HnsWallet.Hns.Holdings

/-! # Reservations of name workflows along runs -/

namespace HnsWallet

open Lib

namespace HnsOperation

def times (ops : List HnsOperation) : List UInt64 :=
  ops.filterMap nowUnix?

def Timed (ops : List HnsOperation) : Prop :=
  (times ops).Pairwise (· ≤ ·)

def lastTime (ops : List HnsOperation) : UInt64 :=
  (times ops).getLastD 0

variable {op : HnsOperation} {ops : List HnsOperation}

theorem times_snoc :
    times (ops ++ [op]) = times ops ++ op.nowUnix?.toList := by
  rw [times, List.filterMap_append]
  cases h : op.nowUnix? <;> simp [times, h]

theorem lastTime_le {nowUnix : UInt64}
    (h : ∀ time ∈ times ops, time ≤ nowUnix) : lastTime ops ≤ nowUnix := by
  rw [lastTime]
  rcases List.eq_nil_or_concat (times ops) with hnil | ⟨earlier, last, hlast⟩
  · rw [hnil]
    exact UInt64.zero_le
  · rw [hlast, List.concat_eq_append, List.getLastD_concat]
    exact h last (by rw [hlast]; simp)

theorem Timed.snoc (h : Timed (ops ++ [op])) :
    Timed ops ∧ lastTime ops ≤ lastTime (ops ++ [op]) ∧
      ∀ nowUnix ∈ op.nowUnix?, lastTime (ops ++ [op]) = nowUnix := by
  rw [Timed, times_snoc, List.pairwise_append] at h
  obtain ⟨hops, -, hlater⟩ := h
  refine ⟨hops, ?_, fun nowUnix hnow => ?_⟩
  · cases hnow : op.nowUnix? with
    | none =>
      rw [lastTime, lastTime, times_snoc, hnow, Option.toList_none, List.append_nil]
      exact UInt64.le_refl _
    | some nowUnix =>
      rw [show lastTime (ops ++ [op]) = nowUnix by
        rw [lastTime, times_snoc, hnow, Option.toList_some, List.getLastD_concat]]
      exact lastTime_le fun time htime => hlater time htime nowUnix (by rw [hnow]; simp)
  · rw [lastTime, times_snoc, show op.nowUnix? = some nowUnix from hnow, Option.toList_some,
      List.getLastD_concat]

theorem drops_spare {config : HnsRuntimeConfig} {time : UInt64}
    (htime : ∀ nowUnix ∈ op.nowUnix?, time = nowUnix) {b : HnsBook} {r : HnsInputReservation}
    (h : (op.powers config).drops b r) : SparesNames config time b r := by
  cases op with
  | reconcile snapshot nowUnix =>
    rcases h with ⟨w, hread, -, -, hterminal⟩ | ⟨hupdate, -⟩
    · exact .inr (.inl ⟨w, hread, hterminal⟩)
    · exact .inr (.inr hupdate)
  | prepareName _ _ _ _ _ nowUnix | prepareSend _ _ _ nowUnix =>
    rw [htime nowUnix rfl]
    exact .inl h.1
  | _ => exact h.elim

theorem commits_at {config : HnsRuntimeConfig} {time commitNow : UInt64}
    (htime : ∀ nowUnix ∈ op.nowUnix?, time = nowUnix) (h : (op.powers config).commits commitNow) :
    time ≤ commitNow := by
  cases op with
  | authorizeName plan given | authorizeSend plan given =>
    rw [htime given.commitNow rfl, show commitNow = given.commitNow from h]
    exact UInt64.le_refl _
  | _ => exact h.elim

end HnsOperation

section Listing

variable {V : Type} [Serde V HnsInputReservation] {config : HnsRuntimeConfig}
  {store : WalletStore V} {id : WorkflowId} {listed : List (StoredEntity HnsInputReservation)}

theorem outpoints_nodup (hlisted : accountInputReservations store config = .ok listed) :
    (listed.map fun stored => stored.value.outpoint).Nodup := by
  obtain ⟨hmem, -, hnodup⟩ := accountInputReservations_eq_ok hlisted
  refine List.Nodup.of_map (namespacedOutpointId config) ?_
  rw [List.map_map, show listed.map (namespacedOutpointId config ∘ fun stored =>
    stored.value.outpoint) = listed.map StoredEntity.id from
      List.map_congr_left fun stored hstored => ((hmem stored hstored).1).symm]
  exact hnodup

theorem listed_perm {h : Holding} {holdings : WorkflowId → Option Holding}
    (hlisted : accountInputReservations store config = .ok listed)
    (hbacked : Backed config holdings (store.reservation config)) (hholding : holdings id = some h)
    (hnodup : (h.items.map Prod.fst).Nodup) (hcomplete : h.Complete config id (store.reservation
      config)) :
    ((listed.filter fun stored => stored.value.workflowId = id).map fun stored =>
      (stored.value.outpoint, stored.value.kind)).Perm h.items := by
  obtain ⟨hmem, hshown, -⟩ := accountInputReservations_eq_ok hlisted
  have hdistinct : ((listed.filter fun stored => stored.value.workflowId = id).map fun stored =>
      (stored.value.outpoint, stored.value.kind)).Nodup := by
    refine List.Nodup.of_map Prod.fst ?_
    rw [List.map_map]
    exact (outpoints_nodup hlisted).sublist (List.filter_sublist.map _)
  refine (List.perm_ext_iff_of_nodup hdistinct (List.Nodup.of_map _ hnodup)).2 fun item => ?_
  constructor
  · intro hitem
    obtain ⟨stored, hstored, rfl⟩ := List.mem_map.1 hitem
    obtain ⟨hin, hid⟩ := List.mem_filter.1 hstored
    obtain ⟨-, -, -, h₁, hholding₁, hmember, -⟩ := hbacked _ _ (hmem stored hin).2.1
    rw [of_decide_eq_true hid, hholding] at hholding₁
    cases hholding₁
    exact hmember
  · intro hitem
    obtain ⟨-, stored, hin, hvalue⟩ := hshown item.1 _ (hcomplete item hitem)
    refine List.mem_map.2 ⟨stored, List.mem_filter.2 ⟨hin, ?_⟩, ?_⟩
    · rw [hvalue]
      exact decide_eq_true rfl
    · rw [hvalue]
      rfl

end Listing

section Runs

variable {V : Type} [Serde V HnsInputReservation] [Serde V HnsNameWorkflow]
  [Serde V HnsSendWorkflow] {config : HnsRuntimeConfig} {store : WalletStore V}
  {system : HnsSystem V} {ops : List HnsOperation} {id : WorkflowId} {w : HnsNameWorkflow}

theorem validateNameReservations_ok {listed : List (StoredEntity HnsInputReservation)}
    (hlisted : accountInputReservations store config = .ok listed)
    (hbacked : Backed config (HnsSystem.book config ⟨store, []⟩).holding (store.reservation config))
    (hread : store.nameWorkflow id = some w) (hwritten : NameWritten config id w)
    (hcomplete : w.holding.Complete config id (store.reservation config)) :
    validateNameReservations store config id w.plan.nameHash w.plan.source.ownerOutpoint
      w.plan.fundingInputs w.holding.expiresAtUnix = .ok () := by
  have hholding := HnsBook.holding_of_name (b := HnsSystem.book config ⟨store, []⟩) hread
  have hperm := listed_perm hlisted hbacked hholding hwritten.nodup hcomplete
  simp only [validateNameReservations, workflowReservations, ok_iff, not_not]
  refine ⟨(), ?_, (), hwritten.funded, _, ⟨listed, hlisted, rfl⟩, ?_, fun stored hstored => ?_⟩
  · rintro (⟨input, hinput, hno⟩ | hdup)
    · rw [hwritten.ordinary input hinput] at hno
      cases hno
    · exact hdup hwritten.nodup
  · have hlength := hperm.length_eq
    rw [List.length_map] at hlength
    exact hlength
  · have hmember := hperm.mem_iff.1 (List.mem_map_of_mem hstored)
    obtain ⟨hin, hid⟩ := List.mem_filter.1 hstored
    obtain ⟨hmem, -, -⟩ := accountInputReservations_eq_ok hlisted
    obtain ⟨-, -, -, h₁, hholding₁, -, hexpiry⟩ := hbacked _ _ (hmem stored hin).2.1
    rw [of_decide_eq_true hid, hholding] at hholding₁
    cases hholding₁
    exact ⟨hmember, hexpiry⟩

variable [Encoded V] [Serde V HnsPreparedSettlement] [HnsTransactions] [Sha256]

structure NamesHeld (config : HnsRuntimeConfig) (nowUnix : UInt64) (b : HnsBook) : Prop where
  written : b.NamesWritten config
  backed : Backed config b.holding b.reserved
  complete : b.NamesComplete config nowUnix

omit [Sha256] in
theorem NamesHeld.move {powers : BookPowers} {b b' : HnsBook} {nowUnix : UInt64}
    (h : HnsBook.Move config powers b b')
    (hclock : ∀ commitNow, powers.commits commitNow → nowUnix ≤ commitNow)
    (hdrops : ∀ b r, powers.drops b r → SparesNames config nowUnix b r)
    (hb : NamesHeld config nowUnix b) : NamesHeld config nowUnix b' :=
  ⟨h.namesWritten hb.written, h.backed hb.backed,
    h.namesComplete hclock hdrops hb.written hb.complete⟩

theorem HnsSystem.namesHeld_of_run [SendsApart V]
    (hrun : Run (HnsSystem.Step config) (.empty : HnsSystem V) ops system)
    (htimed : HnsOperation.Timed ops) :
    system.store.Sound ∧ NamesHeld config (HnsOperation.lastTime ops) (system.book config) := by
  induction hrun with
  | refl =>
    refine ⟨HnsSystem.empty_sound, fun _ _ hread => ?_, fun _ _ hreserved => ?_,
      fun _ _ hread => ?_⟩
    · cases hread
    · cases hreserved
    · cases hread
  | @snoc ops op mid last hrun hstep ih =>
    obtain ⟨hops, hle, htime⟩ := htimed.snoc
    obtain ⟨hmid, hheld⟩ := ih hops
    obtain ⟨hlast, hmoves⟩ := hstep.moves hmid
    refine ⟨hlast, hmoves.invariant (P := NamesHeld config _) (fun hmove hb => hb.move hmove
      (fun _ => HnsOperation.commits_at htime) fun _ _ => HnsOperation.drops_spare htime) ?_⟩
    exact ⟨hheld.written, hheld.backed, hheld.complete.mono hle⟩

/-- Along every run whose clock does not go back, a live transfer or finalization that is
signed or not over has one reservation for each outpoint of its plan and no other, and a
preparation among them passes the check of its reservations. -/
theorem name_reservations_exact [SendsApart V]
    (hrun : Run (HnsSystem.Step config) (.empty : HnsSystem V) ops system)
    (htimed : HnsOperation.Timed ops) (hread : system.store.nameWorkflow id = some w)
    (haction : w.plan.action ≠ .update) (hlive : w.stage.isTerminal = false)
    (hvalid : w.signedTransaction.isSome ∨
      HnsOperation.lastTime ops < w.plan.expiresAtUnix) :
    (∀ item ∈ w.plan.reservations, ∃ until?, system.store.reservation config item.1 =
      some ⟨config.walletId, config.accountId, item.1, id, until?, item.2⟩) ∧
    (∀ outpoint r, system.store.reservation config outpoint = some r → r.workflowId = id →
      (outpoint, r.kind) ∈ w.plan.reservations) ∧
    (w.stage = .prepared → ∀ listed, accountInputReservations system.store config = .ok listed →
      validateNameReservations system.store config id w.plan.nameHash w.plan.source.ownerOutpoint
        w.plan.fundingInputs (some w.plan.expiresAtUnix) = .ok ()) := by
  obtain ⟨-, hheld⟩ := HnsSystem.namesHeld_of_run hrun htimed
  have hcomplete := hheld.complete id w hread haction hlive hvalid
  have hholding := HnsBook.holding_of_name (b := system.book config) hread
  have hwritten := hheld.written id w hread
  refine ⟨fun item hitem => ⟨_, hcomplete item hitem⟩, fun outpoint r hr hid => ?_,
    fun hprepared listed hlisted => ?_⟩
  · obtain ⟨-, -, -, h₁, hholding₁, hmember, -⟩ := hheld.backed outpoint r hr
    rw [hid, hholding] at hholding₁
    cases hholding₁
    exact hmember
  · have hexpiry : w.holding.expiresAtUnix = some w.plan.expiresAtUnix := by
      rw [HnsNameWorkflow.holding, hwritten.unsigned hprepared]
      rfl
    rw [← hexpiry]
    exact validateNameReservations_ok hlisted hheld.backed hread hwritten hcomplete

end Runs

namespace Sample

section

attribute [local instance] hnsSha hnsTransactions

theorem name_reservations_exact_transfer :
    ∃ w, (hnsAfter (confirmedOnce .transfer)).store.nameWorkflow (hnsWorkflow 7) = some w ∧
      w.stage = .transferLocked ∧ ∀ item ∈ w.plan.reservations, ∃ until?,
        (hnsAfter (confirmedOnce .transfer)).store.reservation hnsConfig item.1 =
          some ⟨hnsConfig.walletId, hnsConfig.accountId, item.1, hnsWorkflow 7,
            until?, item.2⟩ := by
  obtain ⟨w, hread, hcheck⟩ := exists_of_nameIs (show nameIs
    (hnsAfter (confirmedOnce .transfer)).store (fun w => w.stage = .transferLocked &&
      w.plan.action = .transfer && w.signedTransaction.isSome) = true by decide +kernel)
  simp only [Bool.and_eq_true, decide_eq_true_eq] at hcheck
  obtain ⟨⟨hstage, haction⟩, hsigned⟩ := hcheck
  refine ⟨w, hread, hstage, (name_reservations_exact (HnsSystem.run_afterCalls hnsConfig _ _)
    ?_ hread (by rw [haction]; simp) (by rw [hstage]; rfl) (.inl hsigned)).1⟩
  show List.Pairwise (· ≤ ·) [(1000 : UInt64), 1000, 1001]
  decide

/-- A reconciliation drops the reservation of the name that an update is prepared for; and a
transfer that is over but not yet reconciled loses its reservations to the next
preparation. -/
theorem update_loses_its_name :
    (∃ w, (hnsAfter [prepareName .update 7 1000,
        .reconcile (hnsSnapshot 2 absent [hnsCoin 107]) 1001]).store.nameWorkflow
          (hnsWorkflow 7) = some w ∧
      w.stage = .prepared ∧ (1001 : UInt64) < w.plan.expiresAtUnix ∧
      w.plan.source.ownerOutpoint = hnsOutpoint 7) ∧
    (hnsAfter [prepareName .update 7 1000]).store.reservation hnsConfig (hnsOutpoint 7) ≠ none ∧
    (hnsAfter [prepareName .update 7 1000,
      .reconcile (hnsSnapshot 2 absent [hnsCoin 107]) 1001]).store.reservation hnsConfig
        (hnsOutpoint 7) = none ∧
    (∃ w, (hnsAfter [prepareName .transfer 7 1000, prepareSend 9 1300]).store.nameWorkflow
        (hnsWorkflow 7) = some w ∧ w.stage = .prepared) ∧
    (hnsAfter [prepareName .transfer 7 1000, prepareSend 9 1300]).store.reservation hnsConfig
      (hnsOutpoint 7) = none := by
  obtain ⟨w, hread, hcheck⟩ := exists_of_nameIs (show nameIs (hnsAfter [prepareName .update 7 1000,
    .reconcile (hnsSnapshot 2 absent [hnsCoin 107]) 1001]).store (fun w => w.stage = .prepared &&
      (1001 : UInt64) < w.plan.expiresAtUnix && w.plan.source.ownerOutpoint = hnsOutpoint 7) = true
        by decide +kernel)
  obtain ⟨w', hread', hcheck'⟩ := exists_of_nameIs (show nameIs (hnsAfter
    [prepareName .transfer 7 1000, prepareSend 9 1300]).store (·.stage = .prepared) = true
      by decide +kernel)
  simp only [Bool.and_eq_true, decide_eq_true_eq] at hcheck hcheck'
  exact ⟨⟨w, hread, hcheck.1.1, hcheck.1.2, hcheck.2⟩, by decide +kernel, by decide +kernel,
    ⟨w', hread', hcheck'⟩, by decide +kernel⟩

end

end Sample

end HnsWallet
