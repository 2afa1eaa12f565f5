import HnsWallet.Store.Laws

/-! # What a batch writes -/

namespace HnsWallet

open Lib

namespace WalletStore

variable {V β : Type} [Serde V β] {store store' written : WalletStore V} {kind : EntityKind}
  {saves : List (EntityBatchSave β)} {deletes : List EntityBatchDelete}
  {writes : List (AuthenticatedSave V)} {id : RecordId} {prepared : List (PreparedSave V)}

structure Batched (kind : EntityKind) (saves : List (EntityBatchSave β))
    (deletes : List EntityBatchDelete) (store store' : WalletStore V) : Prop where
  unlocked : store'.unlocked = store.unlocked
  workflows : store'.workflows = store.workflows
  secrets : store'.secrets = store.secrets
  nodup : (saves.map EntityBatchSave.id).Nodup
  saved : ∀ save ∈ saves, store.entityRevision kind save.id = save.expectedRevision ∧
    ∃ next : UInt64, next.toNat = save.expectedRevision.toNat + 1 ∧
      store'.entities.lookup (kind, save.id) =
        some ⟨next, Serde.toVec save.value, save.updatedAtUnix⟩
  deleted : ∀ delete ∈ deletes, delete.expectedRevision ≠ 0 ∧
    store.entityRevision kind delete.id = delete.expectedRevision ∧
    store'.entities.lookup (kind, delete.id) = none
  others : ∀ key, ¬ BatchTouches kind (saves.map EntityBatchSave.id) deletes key →
    store'.entities.lookup key = store.entities.lookup key

section Names

variable [Encoded V] {seen : List RecordId}

theorem prepareSaves_nodup {seen' : List RecordId} {prepared : List (PreparedSave V)}
    (h : prepareSaves seen saves = .ok (seen', prepared)) :
    (saves.map EntityBatchSave.id).Nodup ∧
      (∀ save ∈ saves, save.id ∉ seen ∧ save.id ∈ seen') ∧ ∀ id ∈ seen, id ∈ seen' := by
  induction saves generalizing seen prepared with
  | nil =>
    cases h
    exact ⟨.nil, fun save hsave => absurd hsave List.not_mem_nil, fun _ hid => hid⟩
  | cons save saves ih =>
    unfold prepareSaves at h
    simp only [ok_iff] at h
    obtain ⟨-, -, -, hfresh, -, -, ⟨seen₁, rest⟩, hrest, hret⟩ := h
    cases hret
    obtain ⟨hnodup, hids, hseen⟩ := ih hrest
    refine ⟨List.nodup_cons.2 ⟨fun hmem => ?_, hnodup⟩, fun s hs => ?_, fun id hid => ?_⟩
    · obtain ⟨other, hother, hid⟩ := List.mem_map.1 hmem
      exact (hids other hother).1 (hid ▸ List.mem_cons_self)
    · rcases List.mem_cons.1 hs with rfl | hs
      · exact ⟨hfresh, hseen _ List.mem_cons_self⟩
      · exact ⟨fun hid => (hids s hs).1 (List.mem_cons_of_mem _ hid), (hids s hs).2⟩
    · exact hseen id (List.mem_cons_of_mem _ hid)

omit [Encoded V] in
theorem prepareDeletes_fresh {u : Unit} (h : prepareDeletes seen deletes = .ok u) :
    ∀ delete ∈ deletes, delete.expectedRevision ≠ 0 ∧ delete.id ∉ seen := by
  induction deletes generalizing seen with
  | nil => exact fun delete hdelete => absurd hdelete List.not_mem_nil
  | cons first rest ih =>
    unfold prepareDeletes at h
    simp only [ok_iff, not_or] at h
    obtain ⟨-, -, -, hfirst, hrest⟩ := h
    intro delete hdelete
    rcases List.mem_cons.1 hdelete with rfl | hdelete
    · exact hfirst
    · obtain ⟨hrevision, hid⟩ := ih hrest delete hdelete
      exact ⟨hrevision, fun hseen => hid (List.mem_cons_of_mem _ hseen)⟩

end Names

theorem foldl_putEntity_lookup {write : AuthenticatedSave V}
    (hnodup : (writes.map AuthenticatedSave.id).Nodup) (hwrite : write ∈ writes) :
    (writes.foldl (fun store write => store.putEntity kind write.id
      ⟨write.revision, write.encoded, write.updatedAtUnix⟩) store).entities.lookup
        (kind, write.id) = some ⟨write.revision, write.encoded, write.updatedAtUnix⟩ := by
  induction writes generalizing store with
  | nil => cases hwrite
  | cons first rest ih =>
    rw [List.map_cons, List.nodup_cons] at hnodup
    rw [List.foldl_cons]
    rcases List.mem_cons.1 hwrite with rfl | hrest
    · have hframe : AgreesOff (fun key => ∃ later ∈ rest, key = (kind, later.id))
          (store.putEntity kind write.id ⟨write.revision, write.encoded, write.updatedAtUnix⟩)
          (rest.foldl (fun store write => store.putEntity kind write.id
            ⟨write.revision, write.encoded, write.updatedAtUnix⟩)
            (store.putEntity kind write.id
              ⟨write.revision, write.encoded, write.updatedAtUnix⟩)) :=
        foldl_agreesOff fun later hlater _ => putEntity_agreesOff ⟨later, hlater, rfl⟩
      refine (hframe.entities _ ?_).trans putEntity_lookup
      rintro ⟨later, hlater, hkey⟩
      obtain ⟨-, hid⟩ := Prod.mk.inj hkey
      exact hnodup.1 (hid ▸ List.mem_map_of_mem hlater)
    · exact ih hnodup.2 hrest

theorem foldl_dropEntity_lookup (hid : ∃ delete ∈ deletes, delete.id = id) :
    (deletes.foldl (fun store delete => store.dropEntity kind delete.id) store).entities.lookup
      (kind, id) = none := by
  induction deletes generalizing store with
  | nil =>
    obtain ⟨delete, hdelete, -⟩ := hid
    cases hdelete
  | cons first rest ih =>
    rw [List.foldl_cons]
    by_cases hrest : ∃ later ∈ rest, later.id = id
    · exact ih hrest
    · have hfirst : first.id = id := by
        obtain ⟨delete, hdelete, hid⟩ := hid
        rcases List.mem_cons.1 hdelete with rfl | hdelete
        · exact hid
        · exact absurd ⟨delete, hdelete, hid⟩ hrest
      have hframe : AgreesOff (fun key => ∃ later ∈ rest, key = (kind, later.id))
          (store.dropEntity kind first.id) (rest.foldl
            (fun store delete => store.dropEntity kind delete.id)
            (store.dropEntity kind first.id)) :=
        foldl_agreesOff fun later hlater _ => dropEntity_agreesOff ⟨later, hlater, rfl⟩
      rw [hframe.entities, ← hfirst]
      · exact dropEntity_lookup
      · rintro ⟨later, hlater, hkey⟩
        exact hrest ⟨later, hlater, (Prod.mk.inj hkey).2.symm⟩

theorem secrets_foldl {L : Type} {f : WalletStore V → L → WalletStore V} {xs : List L}
    (h : ∀ x store, (f store x).secrets = store.secrets) :
    (xs.foldl f store).secrets = store.secrets := by
  induction xs generalizing store with
  | nil => rfl
  | cons x xs ih => exact ih.trans (h x store)

theorem authenticateSaves_mem (h : store.authenticateSaves kind prepared = .ok writes)
    {save : PreparedSave V} (hsave : save ∈ prepared) :
    store.entityRevision kind save.id = save.expectedRevision ∧
      ∃ next : UInt64, next.toNat = save.expectedRevision.toNat + 1 ∧
        ⟨save.id, next, save.encoded, save.updatedAtUnix⟩ ∈ writes := by
  induction prepared generalizing writes with
  | nil => cases hsave
  | cons first rest ih =>
    simp only [authenticateSaves, ok_iff, requireRevision_eq_ok, nextRevision_eq_ok] at h
    obtain ⟨-, hrevision, next, hnext, tail, htail, hret⟩ := h
    cases hret
    rcases List.mem_cons.1 hsave with rfl | hsave
    · exact ⟨hrevision, next, hrevision ▸ hnext, List.mem_cons_self⟩
    · obtain ⟨hexpected, next', hnext', hmem⟩ := ih htail hsave
      exact ⟨hexpected, next', hnext', List.mem_cons_of_mem _ hmem⟩

variable [Encoded V]

theorem batched_of_transaction (hprepared : prepareEntityBatch saves deletes = .ok prepared)
    (h : store.applyEntityBatchInTransaction kind prepared deletes = .ok store') :
    Batched kind saves deletes store store' := by
  have hencoded := prepareEntityBatch_eq_ok hprepared
  have hids := prepareEntityBatch_ids hprepared
  simp only [prepareEntityBatch, ok_iff] at hprepared
  obtain ⟨_, -, ⟨seen, ps⟩, hps, _, hdeletes, -⟩ := hprepared
  obtain ⟨hnodup, hnames, -⟩ := prepareSaves_nodup hps
  have hfresh := prepareDeletes_fresh hdeletes
  have hframe := applyEntityBatchInTransaction_agreesOff h
  rw [hids] at hframe
  simp only [applyEntityBatchInTransaction, authenticateEntityBatch, ok_iff] at h
  obtain ⟨ws, ⟨_, -, writes, hws, _, hrevisions, hret⟩, hstore⟩ := h
  cases hret
  cases hstore
  have hwriteIds : (ws.map AuthenticatedSave.id).Nodup := by
    rw [authenticateSaves_ids hws, hids]
    exact hnodup
  have hexpected := authenticateDeletes_eq_ok hrevisions
  refine ⟨hframe.unlocked, hframe.workflows, ?_, hnodup, fun save hsave => ?_,
    fun delete hdelete => ⟨(hfresh delete hdelete).1, hexpected delete hdelete,
      foldl_dropEntity_lookup ⟨delete, hdelete, rfl⟩⟩, hframe.entities⟩
  · rw [writeEntityBatch, secrets_foldl, secrets_foldl]
    · exact fun _ _ => rfl
    · exact fun _ _ => rfl
  · have hmem : PreparedSave.ofSave save ∈ prepared := by
      rw [hencoded]
      exact List.mem_map_of_mem hsave
    obtain ⟨hrevision, next, hnext, hwrite⟩ := authenticateSaves_mem hws hmem
    refine ⟨hrevision, next, hnext, ?_⟩
    -- The deletions name other rows, so they do not undo the write.
    have hkept : AgreesOff (fun key => ∃ delete ∈ deletes, key = (kind, delete.id))
        (ws.foldl (fun store write => store.putEntity kind write.id
          ⟨write.revision, write.encoded, write.updatedAtUnix⟩) store)
        (store.writeEntityBatch kind ws deletes) :=
      foldl_agreesOff fun delete hdelete _ => dropEntity_agreesOff ⟨delete, hdelete, rfl⟩
    rw [hkept.entities]
    · exact foldl_putEntity_lookup hwriteIds hwrite
    · rintro ⟨delete, hdelete, hkey⟩
      obtain ⟨-, hid⟩ := Prod.mk.inj hkey
      exact (hfresh delete hdelete).2 (hid ▸ (hnames save hsave).2)

theorem applyEntityBatch_batched (h : store.applyEntityBatch kind saves deletes = .ok store') :
    store.unlocked ∧ Batched kind saves deletes store store' := by
  simp only [applyEntityBatch, ok_iff, requireKey_eq_ok] at h
  obtain ⟨prepared, hprepared, -, hkey, h⟩ := h
  exact ⟨hkey, batched_of_transaction hprepared h⟩

theorem guardedBatch_batched {workflowGuard : WorkflowRevisionAssertion} {guardKind : EntityKind}
    {guard : EntityRevisionAssertion} {consumedAt : UInt64}
    (h : store.applyEntityBatchWithWorkflowGuardAndConsumedEntity kind saves deletes workflowGuard
      guardKind guard consumedAt = .ok store') :
    ∃ written row, Batched kind saves deletes store written ∧
      store' = written.putEntity guardKind guard.id row ∧
      written.entities.lookup (guardKind, guard.id) = store.entities.lookup
        (guardKind, guard.id) := by
  unfold applyEntityBatchWithWorkflowGuardAndConsumedEntity at h
  simp only [ok_iff, requireKey_eq_ok] at h
  obtain ⟨-, -, -, -, -, hdup, prepared, hprepared, -, -, -, -, -, -, written, hwritten,
    hconsumed⟩ := h
  have hbatched := batched_of_transaction hprepared hwritten
  obtain ⟨row, m, -, -, -, rfl⟩ := consume_eq_ok.1 hconsumed
  exact ⟨written, _, hbatched, rfl, hbatched.others _ (not_batchTouches hdup)⟩

omit [Encoded V] in
theorem Batched.lookup_ne (h : Batched kind saves deletes store store')
    (hsaves : ∀ save ∈ saves, save.id ≠ id) (hdeletes : ∀ delete ∈ deletes, delete.id ≠ id) :
    store'.entities.lookup (kind, id) = store.entities.lookup (kind, id) := by
  refine h.others _ ?_
  rintro ⟨-, hmem | ⟨delete, hdelete, hid⟩⟩
  · obtain ⟨save, hsave, hid⟩ := List.mem_map.1 hmem
    exact hsaves save hsave hid
  · exact hdeletes delete hdelete hid

omit [Encoded V] in
theorem Batched.lookup_kind (h : Batched kind saves deletes store store') {other : EntityKind}
    (hother : other ≠ kind) (id : RecordId) :
    store'.entities.lookup (other, id) = store.entities.lookup (other, id) :=
  h.others _ fun htouched => hother htouched.1

end WalletStore

end HnsWallet
