import HnsWallet.Hns.Book

/-! # The operations move the book -/

namespace HnsWallet

open Lib WalletStore HoldingEffect
open Relation (ReflTransGen)

theorem leBytes_injective {a b : UInt32} (h : leBytes 4 a.toNat = leBytes 4 b.toNat) :
    a = b := by
  have hread := congrArg ofLeBytes h
  rw [ofLeBytes_leBytes, ofLeBytes_leBytes] at hread
  have ha := a.toNat_lt
  have hb := b.toNat_lt
  rw [Nat.mod_eq_of_lt (by omega), Nat.mod_eq_of_lt (by omega)] at hread
  exact UInt32.toNat_inj.1 hread

theorem namespacedOutpointId_injective {config : HnsRuntimeConfig} {a b : HnsOutpoint}
    (h : namespacedOutpointId config a = namespacedOutpointId config b) : a = b := by
  have hrest := List.append_cancel_left h
  obtain ⟨htransaction, hindex⟩ := List.append_inj hrest (by simp)
  obtain ⟨transaction, index⟩ := a
  obtain ⟨transaction', index'⟩ := b
  obtain rfl : transaction = transaction' := Bytes.ext htransaction
  obtain rfl : index = index' := leBytes_injective hindex
  rfl

section Rows

variable {V : Type}

def WalletStore.sendWorkflow [Serde V HnsSendWorkflow] (store : WalletStore V) (id : WorkflowId) :
    Option HnsSendWorkflow :=
  (store.workflows.lookup id).bind fun row =>
    if row.kind = .hnsSend then Serde.fromSlice row.state else none

def WalletStore.reservation [Serde V HnsInputReservation] (config : HnsRuntimeConfig)
    (store : WalletStore V) : Holdings := fun outpoint =>
  (store.entities.lookup (.inputReservation, namespacedOutpointId config outpoint)).bind fun row =>
    Serde.fromSlice row.value

structure WalletStore.Sound [Serde V HnsNameWorkflow] (store : WalletStore V) : Prop where
  workflows : ∀ id row, store.workflows.lookup id = some row → row.revision ≠ 0
  entities : ∀ id row, store.entities.lookup (.inputReservation, id) = some row → row.revision ≠ 0
  kinds : ∀ id row (w : HnsNameWorkflow), store.workflows.lookup id = some row →
    row.kind.isName → Serde.fromSlice row.state = some w →
      row.kind = w.plan.action.workflowKind ∧ w.plan.workflowId = id

variable {store s t u : WalletStore V} {config : HnsRuntimeConfig} {id : WorkflowId}

theorem WalletStore.sendWorkflow_eq_some [Serde V HnsSendWorkflow] {w : HnsSendWorkflow} :
    store.sendWorkflow id = some w ↔ ∃ row, store.workflows.lookup id = some row ∧
      row.kind = .hnsSend ∧ Serde.fromSlice row.state = some w := by
  unfold sendWorkflow
  rw [Option.bind_eq_some_iff]
  refine exists_congr fun row => and_congr_right fun _ => ?_
  split <;> simp [*]

theorem WalletStore.sendWorkflow_congr [Serde V HnsSendWorkflow]
    (h : t.workflows.lookup id = s.workflows.lookup id) :
    t.sendWorkflow id = s.sendWorkflow id := by
  rw [sendWorkflow, sendWorkflow, h]

variable [Serde V HnsInputReservation]

def HnsSystem.book [Serde V HnsNameWorkflow] [Serde V HnsSendWorkflow]
    (config : HnsRuntimeConfig) (system : HnsSystem V) : HnsBook where
  names := system.store.nameWorkflow
  sends := system.store.sendWorkflow
  reserved := system.store.reservation config
  sent := system.sent

/-! ## Reservations of the account -/

variable {listed : List (StoredEntity HnsInputReservation)}

theorem accountInputReservations_eq_ok (h : accountInputReservations store config = .ok listed) :
    (∀ stored ∈ listed, stored.id = namespacedOutpointId config stored.value.outpoint ∧
      store.reservation config stored.value.outpoint = some stored.value ∧
      store.entityRevision .inputReservation stored.id = stored.revision) ∧
    (∀ outpoint reservation, store.reservation config outpoint = some reservation →
      reservation.outpoint = outpoint ∧ ∃ stored ∈ listed, stored.value = reservation) ∧
    (listed.map StoredEntity.id).Nodup := by
  simp only [accountInputReservations, ok_iff] at h
  obtain ⟨rows, hlist, -, hnamed, hret⟩ := h
  cases hret
  have hids : ∀ stored ∈ listed,
      stored.id = namespacedOutpointId config stored.value.outpoint := by
    intro stored hstored
    by_contra hne
    exact hnamed ⟨stored, hstored, .inr (.inr hne)⟩
  refine ⟨fun stored hstored => ?_, fun outpoint reservation hreserved => ?_,
    nodup_of_listEntitiesByIdPrefix hlist⟩
  · obtain ⟨-, hload⟩ := (mem_of_listEntitiesByIdPrefix hlist).1 hstored
    obtain ⟨-, -, row, value, hlookup, hvalue, heq⟩ := loadEntity_eq_some.1 hload
    refine ⟨hids stored hstored, ?_, ?_⟩
    · rw [WalletStore.reservation, ← hids stored hstored, hlookup, Option.bind_some, hvalue, heq]
    · rw [WalletStore.entityRevision, hlookup, heq]
  · obtain ⟨row, hlookup, hvalue⟩ := Option.bind_eq_some_iff.1 hreserved
    have hrow : (namespacedOutpointId config outpoint, row) ∈
        store.entitiesByIdPrefix .inputReservation (accountEntityPrefix config) :=
      mem_entitiesByIdPrefix.2 ⟨List.prefix_append _ _, hlookup⟩
    simp only [WalletStore.listEntitiesByIdPrefix, ok_iff] at hlist
    obtain ⟨_, -, _, -, _, -, _, -, hlist⟩ := hlist
    obtain ⟨stored, hstored, hread⟩ := exists_of_mapM_eq_ok hlist hrow
    obtain ⟨-, value, hvalue', heq⟩ := storedEntity_eq_ok.1 hread
    cases hvalue.symm.trans hvalue'
    have hid := hids stored hstored
    rw [heq] at hid
    exact ⟨(namespacedOutpointId_injective hid).symm, stored, hstored, by rw [heq]⟩

theorem WalletStore.reservation_congr
    (h : ∀ rid, t.entities.lookup (.inputReservation, rid) = s.entities.lookup
      (.inputReservation, rid)) :
    t.reservation config = s.reservation config := by
  funext outpoint
  rw [reservation, reservation, h]

variable {β : Type} {saves : List (EntityBatchSave HnsInputReservation)}
  {deletes : List EntityBatchDelete}

theorem WalletStore.Batched.reservation_delete
    (hlisted : accountInputReservations s config = .ok listed)
    {drops : StoredEntity HnsInputReservation → Bool} (dropped : HnsInputReservation → Bool)
    (hdrops : ∀ stored ∈ listed, drops stored = dropped stored.value)
    (h : Batched .inputReservation ([] : List (EntityBatchSave HnsInputReservation))
      ((listed.filter drops).map deleteOf) s t) :
    t.reservation config = fun outpoint => (s.reservation config outpoint).filter fun reservation =>
      !dropped reservation := by
  obtain ⟨hmem, hshown, -⟩ := accountInputReservations_eq_ok hlisted
  funext outpoint
  -- a delete of this row is of the reservation that the book shows for the outpoint
  have hwhich : ∀ delete ∈ (listed.filter drops).map deleteOf,
      delete.id = namespacedOutpointId config outpoint →
      ∃ reservation, s.reservation config outpoint = some reservation ∧ dropped reservation := by
    intro delete hdelete hid
    obtain ⟨stored, hstored, rfl⟩ := List.mem_map.1 hdelete
    obtain ⟨hin, hdrop⟩ := List.mem_filter.1 hstored
    obtain ⟨hstoredId, hreserved, -⟩ := hmem stored hin
    obtain rfl : stored.value.outpoint = outpoint :=
      namespacedOutpointId_injective (hstoredId.symm.trans hid)
    exact ⟨stored.value, hreserved, hdrops stored hin ▸ hdrop⟩
  cases hreserved : s.reservation config outpoint with
  | none =>
    have hkept := h.lookup_ne (fun save hsave => absurd hsave List.not_mem_nil)
      (fun delete hdelete hid => by
        obtain ⟨r, hr, -⟩ := hwhich delete hdelete hid
        rw [hreserved] at hr
        cases hr)
    rw [WalletStore.reservation, hkept]
    exact hreserved
  | some reservation =>
    rw [Option.filter_some]
    by_cases hdropped : dropped reservation
    · obtain ⟨houtpoint, stored, hin, rfl⟩ := hshown outpoint reservation hreserved
      have hdelete : deleteOf stored ∈ (listed.filter drops).map deleteOf :=
        List.mem_map_of_mem (List.mem_filter.2 ⟨hin, (hdrops stored hin).trans hdropped⟩)
      have hgone := (h.deleted _ hdelete).2.2
      have hid : (deleteOf stored).id = namespacedOutpointId config outpoint := by
        rw [← houtpoint]
        exact (hmem stored hin).1
      rw [hid] at hgone
      rw [WalletStore.reservation, hgone, Option.bind_none, if_neg (by simp [hdropped])]
    · have hkept := h.lookup_ne (fun save hsave => absurd hsave List.not_mem_nil)
        (fun delete hdelete hid => by
          obtain ⟨r, hr, hd⟩ := hwhich delete hdelete hid
          rw [hreserved, Option.some_inj] at hr
          exact hdropped (hr ▸ hd))
      rw [WalletStore.reservation, hkept, if_pos (by simpa using hdropped)]
      exact hreserved

theorem reservation_release {deletes : List EntityBatchDelete}
    (hdeletes : reservationDeletes s config id = .ok deletes)
    (h : WalletStore.Batched .inputReservation ([] : List (EntityBatchSave HnsInputReservation))
      deletes s t) :
    t.reservation config = release.apply config id (s.reservation config) := by
  simp only [reservationDeletes, workflowReservations, ok_iff] at hdeletes
  obtain ⟨owned, ⟨listed, hlisted, howned⟩, -, -, hret⟩ := hdeletes
  cases howned
  cases hret
  rw [h.reservation_delete hlisted (fun reservation => reservation.workflowId = id)
    fun stored _ => rfl]
  funext outpoint
  simp [apply]

theorem reservation_activate {nowUnix : UInt64} {saves : List (EntityBatchSave HnsInputReservation)}
    (hsaves : reservationActivationSaves s config id nowUnix = .ok saves)
    (h : WalletStore.Batched .inputReservation saves [] s t) :
    t.reservation config = activate.apply config id (s.reservation config) := by
  simp only [reservationActivationSaves, workflowReservations, ok_iff]
    at hsaves
  obtain ⟨owned, ⟨listed, hlisted, howned⟩, -, -, hret⟩ := hsaves
  cases howned
  cases hret
  obtain ⟨hmem, hshown, -⟩ := accountInputReservations_eq_ok hlisted
  funext outpoint
  have hnone : ∀ delete ∈ ([] : List EntityBatchDelete),
      delete.id ≠ namespacedOutpointId config outpoint :=
    fun delete hdelete => absurd hdelete List.not_mem_nil
  show t.reservation config outpoint = (s.reservation config outpoint).map fun reservation =>
    if reservation.workflowId = id then { reservation with expiresAtUnix := none } else reservation
  by_cases howner : ∃ reservation, s.reservation config outpoint = some reservation ∧
      reservation.workflowId = id
  · obtain ⟨reservation, hreserved, hid⟩ := howner
    obtain ⟨houtpoint, stored, hin, rfl⟩ := hshown outpoint reservation hreserved
    have hfilter : stored ∈ listed.filter fun stored => stored.value.workflowId = id :=
      List.mem_filter.2 ⟨hin, decide_eq_true hid⟩
    obtain ⟨-, next, -, hrow⟩ := h.saved _ (List.mem_map_of_mem hfilter)
    subst houtpoint
    rw [hreserved, Option.map_some, if_pos hid, WalletStore.reservation, ← (hmem stored hin).1]
    rw [show t.entities.lookup (.inputReservation, stored.id) = _ from hrow, Option.bind_some,
      Serde.fromSlice_toVec]
  · have hkept : t.entities.lookup (.inputReservation, namespacedOutpointId config outpoint) =
        s.entities.lookup (.inputReservation, namespacedOutpointId config outpoint) :=
      h.lookup_ne (fun save hsave hid => by
      obtain ⟨stored, hstored, rfl⟩ := List.mem_map.1 hsave
      obtain ⟨hin, hown⟩ := List.mem_filter.1 hstored
      obtain ⟨hstoredId, hreserved, -⟩ := hmem stored hin
      obtain rfl : stored.value.outpoint = outpoint :=
        namespacedOutpointId_injective (hstoredId.symm.trans hid)
      exact howner ⟨stored.value, hreserved, of_decide_eq_true hown⟩) hnone
    have hsame : t.reservation config outpoint = s.reservation config outpoint := by
      rw [WalletStore.reservation, WalletStore.reservation, hkept]
    rw [hsame]
    cases hreserved : s.reservation config outpoint with
    | none => rfl
    | some reservation =>
      rw [Option.map_some, if_neg fun hid => howner ⟨reservation, hreserved, hid⟩]

variable [Serde V HnsNameWorkflow]

theorem WalletStore.Batched.sound (h : Batched .inputReservation saves deletes s t)
    (hs : s.Sound) : t.Sound where
  workflows id row hlookup := hs.workflows id row (by rwa [h.workflows] at hlookup)
  entities rid row hlookup := by
    by_cases hsave : ∃ save ∈ saves, save.id = rid
    · obtain ⟨save, hmem, rfl⟩ := hsave
      obtain ⟨-, next, hnext, hrow⟩ := h.saved save hmem
      cases hlookup.symm.trans hrow
      rintro rfl
      exact Nat.succ_ne_zero _ hnext.symm
    · by_cases hdelete : ∃ delete ∈ deletes, delete.id = rid
      · obtain ⟨delete, hmem, rfl⟩ := hdelete
        exact absurd (hlookup.symm.trans (h.deleted delete hmem).2.2) (by simp)
      · refine hs.entities rid row ?_
        rw [← h.lookup_ne (fun save hmem hid => hsave ⟨save, hmem, hid⟩)
          (fun delete hmem hid => hdelete ⟨delete, hmem, hid⟩), hlookup]
  kinds id row w hlookup := hs.kinds id row w (by rwa [h.workflows] at hlookup)

theorem reservation_reserve (items : List (HnsOutpoint × HnsInputReservationKind))
    {expiresAtUnix nowUnix : UInt64} (hs : s.Sound)
    (h : WalletStore.Batched .inputReservation (items.map fun item =>
      reservationSave config id expiresAtUnix nowUnix item.1 item.2) [] s t) :
    (reserve items expiresAtUnix).Possible (s.reservation config) ∧
      t.reservation config =
        (reserve items expiresAtUnix).apply config id (s.reservation config) := by
  have hnodup : (items.map Prod.fst).Nodup := by
    have hids := h.nodup
    rw [List.map_map] at hids
    refine List.Nodup.of_map (namespacedOutpointId config) ?_
    rw [List.map_map]
    exact hids
  refine ⟨⟨hnodup, fun item hitem => ?_⟩, ?_⟩
  · obtain ⟨hrevision, -⟩ := h.saved _ (List.mem_map_of_mem hitem)
    show (s.entities.lookup _).bind _ = none
    cases hlookup : s.entities.lookup (.inputReservation, namespacedOutpointId config item.1) with
    | none => rfl
    | some row =>
      refine absurd ?_ (hs.entities _ row hlookup)
      have hzero : s.entityRevision .inputReservation (namespacedOutpointId config item.1) = 0 :=
        hrevision
      rwa [WalletStore.entityRevision, hlookup] at hzero
  · funext outpoint
    simp only [apply]
    cases hfind : items.find? fun item => item.1 = outpoint with
    | some item =>
      have hitem := List.mem_of_find?_eq_some hfind
      obtain rfl : item.1 = outpoint := by simpa using List.find?_some hfind
      obtain ⟨-, next, -, hrow⟩ := h.saved _ (List.mem_map_of_mem hitem)
      show (t.entities.lookup (.inputReservation, namespacedOutpointId config item.1)).bind _ = _
      rw [show t.entities.lookup (.inputReservation, namespacedOutpointId config item.1) = _
        from hrow, Option.bind_some, Serde.fromSlice_toVec]
      rfl
    | none =>
      have hkept : t.entities.lookup (.inputReservation, namespacedOutpointId config outpoint) =
          s.entities.lookup (.inputReservation, namespacedOutpointId config outpoint) :=
        h.lookup_ne (fun save hsave hid => by
          obtain ⟨item, hitem, rfl⟩ := List.mem_map.1 hsave
          have heq := namespacedOutpointId_injective hid
          have hno := List.find?_eq_none.1 hfind item hitem
          exact hno (by simpa using heq))
        (fun delete hdelete => absurd hdelete List.not_mem_nil)
      show (t.entities.lookup _).bind _ = (s.entities.lookup _).bind _
      rw [hkept]

end Rows

end HnsWallet
