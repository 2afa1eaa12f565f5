import HnsWallet.Store.Store

/-! # Laws of the store -/

namespace HnsWallet

open Lib

namespace WalletStore

variable {V : Type} {store store' : WalletStore V} {u : Unit} {actual : UInt64}
  {prepared : List (PreparedSave V)} {writes : List (AuthenticatedSave V)}

theorem requireKey_eq_ok : store.requireKey = .ok u ↔ store.unlocked := by
  rw [requireKey, refuseIf_eq_ok, Bool.not_eq_false]

theorem requireRevision_eq_ok {expected : UInt64} :
    requireRevision expected actual = .ok u ↔ actual = expected := by
  rw [requireRevision, refuseIf_eq_ok, not_not]

theorem nextRevision_eq_ok {next : UInt64} :
    nextRevision actual = .ok next ↔ next.toNat = actual.toNat + 1 := by
  rw [nextRevision, okOr_eq_ok, checkedAdd_eq_some]
  rfl

theorem authenticatedWorkflowRevision_eq_ok {id : WorkflowId} {kind : WorkflowKind}
    {r : UInt64} : store.authenticatedWorkflowRevision id kind = .ok r ↔
      (store.workflows.lookup id = none ∧ r = 0) ∨
      ∃ row, store.workflows.lookup id = some row ∧ row.kind = kind ∧ r = row.revision := by
  unfold authenticatedWorkflowRevision
  cases h : store.workflows.lookup id with
  | none => simp [eq_comm]
  | some row =>
    by_cases hk : row.kind = kind
    · simp [hk, eq_comm]
    · simp [hk]

theorem assertWorkflow_eq_ok {a : WorkflowRevisionAssertion} :
    store.assertWorkflow a = .ok u ↔
      store.authenticatedWorkflowRevision a.id a.kind = .ok a.expectedRevision := by
  unfold assertWorkflow
  rw [ok_bind_iff]
  constructor
  · rintro ⟨actual, hactual, hrev⟩
    rw [requireRevision_eq_ok] at hrev
    rw [hactual, hrev]
  · intro h
    exact ⟨_, h, requireRevision_eq_ok.2 rfl⟩

section Reads

variable {α : Type} [Serde V α]

theorem loadWorkflow_eq_some {id : WorkflowId} {stored : StoredWorkflow α} :
    store.loadWorkflow α id = .ok (some stored) ↔
      store.unlocked ∧ ∃ row state, store.workflows.lookup id = some row ∧
        Serde.fromSlice row.state = some state ∧
        stored = ⟨id, row.kind, row.revision, state, row.irreversibleBroadcastPrepared,
          row.updatedAtUnix⟩ := by
  unfold loadWorkflow
  simp only [ok_iff, requireKey_eq_ok, exists_const]
  refine and_congr_right fun _ => ?_
  cases hrow : store.workflows.lookup id with
  | none => simp [pure, Except.pure]
  | some row =>
    cases hstate : (Serde.fromSlice row.state : Option α) with
    | none => simp [hstate]
    | some state => simp [hstate, pure, Except.pure, eq_comm]

theorem loadWorkflow_eq_none {id : WorkflowId} :
    store.loadWorkflow α id = .ok none ↔
      store.unlocked ∧ store.workflows.lookup id = none := by
  unfold loadWorkflow
  simp only [ok_iff, requireKey_eq_ok, exists_const]
  refine and_congr_right fun _ => ?_
  cases hrow : store.workflows.lookup id with
  | none => simp [pure, Except.pure]
  | some row =>
    cases hstate : (Serde.fromSlice row.state : Option α) with
    | none => simp [hstate]
    | some state => simp [hstate, pure, Except.pure]

theorem loadEntity_eq_some {kind : EntityKind} {id : RecordId} {stored : StoredEntity α} :
    store.loadEntity α kind id = .ok (some stored) ↔
      validateId id = .ok () ∧ store.unlocked ∧ ∃ row value,
        store.entities.lookup (kind, id) = some row ∧ Serde.fromSlice row.value = some value ∧
        stored = ⟨kind, id, row.revision, value, row.updatedAtUnix⟩ := by
  unfold loadEntity
  simp only [ok_iff, requireKey_eq_ok, Unique.exists_iff]
  show _ = Except.ok () ∧ _ ↔ _
  refine and_congr_right fun _ => and_congr_right fun _ => ?_
  cases hrow : store.entities.lookup (kind, id) with
  | none => simp [pure, Except.pure]
  | some row =>
    cases hvalue : (Serde.fromSlice row.value : Option α) with
    | none => simp [hvalue]
    | some value => simp [hvalue, pure, Except.pure, eq_comm]

theorem loadEntity_eq_none {kind : EntityKind} {id : RecordId} :
    store.loadEntity α kind id = .ok none ↔
      validateId id = .ok () ∧ store.unlocked ∧ store.entities.lookup (kind, id) = none := by
  unfold loadEntity
  simp only [ok_iff, requireKey_eq_ok, Unique.exists_iff]
  show _ = Except.ok () ∧ _ ↔ _
  refine and_congr_right fun _ => and_congr_right fun _ => ?_
  cases hrow : store.entities.lookup (kind, id) with
  | none => simp [pure, Except.pure]
  | some row =>
    cases hvalue : (Serde.fromSlice row.value : Option α) with
    | none => simp [hvalue]
    | some value => simp [hvalue, pure, Except.pure]

end Reads

section Secrets

variable {id : RecordId} {kind : SecretKind} {cleartext : List UInt8} {updatedAt : UInt64}

theorem getSecret_eq_ok {value : Option (List UInt8)} :
    store.getSecret id kind = .ok value ↔ validateId id = .ok () ∧ store.unlocked ∧
      (∀ row, store.secrets.lookup id = some row → row.kind = kind) ∧
      value = (store.secrets.lookup id).map SecretRow.value := by
  unfold getSecret
  simp only [ok_iff, requireKey_eq_ok, exists_const]
  constructor
  · rintro ⟨⟨⟩, hid, hkey, h⟩
    refine ⟨hid, hkey, ?_⟩
    cases hrow : store.secrets.lookup id with
    | none =>
      rw [hrow] at h
      cases h
      exact ⟨nofun, rfl⟩
    | some row =>
      simp only [hrow, ok_iff, not_not] at h
      obtain ⟨-, hkind, hret⟩ := h
      cases hret
      refine ⟨?_, rfl⟩
      rintro _ ⟨⟩
      exact hkind
  · rintro ⟨hid, hkey, hkind, rfl⟩
    refine ⟨(), hid, hkey, ?_⟩
    cases hrow : store.secrets.lookup id with
    | none => rfl
    | some row =>
      simp only [ok_iff, not_not]
      exact ⟨(), hkind row hrow, rfl⟩

theorem putSecret_eq_ok (hseed : kind ≠ .recoverySeed) :
    store.putSecret id kind cleartext updatedAt = .ok store' ↔ validateId id = .ok () ∧
      ¬ (cleartext.length = 0 ∨ maxSecretBytes < cleartext.length) ∧ store.unlocked ∧
      (∀ row, store.secrets.lookup id = some row → row.kind = kind) ∧
      store' = { store with secrets := store.secrets.insert id ⟨kind, cleartext, updatedAt⟩ } := by
  unfold putSecret
  simp only [ok_iff, requireKey_eq_ok, exists_const]
  constructor
  · rintro ⟨⟨⟩, hid, hlen, hkey, h⟩
    refine ⟨hid, hlen, hkey, ?_⟩
    cases hrow : store.secrets.lookup id with
    | none =>
      rw [hrow] at h
      cases h
      exact ⟨nofun, rfl⟩
    | some row =>
      simp only [hrow, ok_iff, not_not, if_neg hseed] at h
      obtain ⟨-, hkind, hret⟩ := h
      cases hret
      refine ⟨?_, rfl⟩
      rintro _ ⟨⟩
      exact hkind
  · rintro ⟨hid, hlen, hkey, hkind, rfl⟩
    refine ⟨(), hid, hlen, hkey, ?_⟩
    cases hrow : store.secrets.lookup id with
    | none => rfl
    | some row =>
      simp only [ok_iff, not_not, if_neg hseed]
      exact ⟨(), hkind row hrow, rfl⟩

end Secrets

section Rows

variable {id id' : WorkflowId} {wrow : WorkflowRow V} {erow : EntityRow V} {kind : EntityKind}
  {eid : RecordId} {key : EntityKind × RecordId}

@[simp] theorem putWorkflow_entities : (store.putWorkflow id wrow).entities = store.entities :=
  rfl

@[simp] theorem putWorkflow_unlocked : (store.putWorkflow id wrow).unlocked = store.unlocked :=
  rfl

@[simp] theorem putWorkflow_lookup :
    (store.putWorkflow id wrow).workflows.lookup id = some wrow :=
  AList.lookup_insert _

theorem putWorkflow_lookup_ne (h : id' ≠ id) :
    (store.putWorkflow id wrow).workflows.lookup id' = store.workflows.lookup id' :=
  AList.lookup_insert_ne h

@[simp] theorem putEntity_workflows :
    (store.putEntity kind eid erow).workflows = store.workflows := rfl

@[simp] theorem putEntity_unlocked :
    (store.putEntity kind eid erow).unlocked = store.unlocked := rfl

@[simp] theorem putEntity_lookup :
    (store.putEntity kind eid erow).entities.lookup (kind, eid) = some erow :=
  AList.lookup_insert _

theorem putEntity_lookup_ne (h : key ≠ (kind, eid)) :
    (store.putEntity kind eid erow).entities.lookup key = store.entities.lookup key :=
  AList.lookup_insert_ne h

@[simp] theorem dropEntity_lookup :
    (store.dropEntity kind eid).entities.lookup (kind, eid) = none :=
  AList.lookup_erase _ _

theorem dropEntity_lookup_ne (h : key ≠ (kind, eid)) :
    (store.dropEntity kind eid).entities.lookup key = store.entities.lookup key :=
  AList.lookup_erase_ne h

end Rows

variable {kind : EntityKind} {deletes : List EntityBatchDelete}

theorem deleteEntity_eq_ok {id : RecordId} {expected : UInt64} {found : Bool}
    (h : store.deleteEntity kind id expected = .ok (store', found)) :
    store' = store ∨ store' = store.dropEntity kind id := by
  simp only [deleteEntity, ok_iff] at h
  obtain ⟨_, -, _, -, _, -, _, -, h⟩ := h
  split at h
  next =>
    cases h
    exact .inl rfl
  next =>
    obtain ⟨_, -, hret⟩ := ok_bind_iff.1 h
    cases hret
    exact .inr rfl

theorem authenticateSaves_eq_ok {saves : List (PreparedSave V)}
    (h : store.authenticateSaves kind saves = .ok writes) :
    List.Forall₂ (fun save write => write.id = save.id ∧ write.encoded = save.encoded ∧
      store.entityRevision kind save.id = save.expectedRevision ∧
      write.revision.toNat = save.expectedRevision.toNat + 1) saves writes := by
  induction saves generalizing writes with
  | nil =>
    cases h
    exact .nil
  | cons save saves ih =>
    unfold authenticateSaves at h
    simp only [ok_iff, requireRevision_eq_ok, nextRevision_eq_ok] at h
    obtain ⟨-, hrev, next, hnext, rest, hrest, hret⟩ := h
    cases hret
    rw [hrev] at hnext
    exact .cons ⟨rfl, rfl, hrev, hnext⟩ (ih hrest)

theorem authenticateSaves_ids {saves : List (PreparedSave V)}
    (h : store.authenticateSaves kind saves = .ok writes) :
    writes.map AuthenticatedSave.id = saves.map PreparedSave.id := by
  have hboth := authenticateSaves_eq_ok h
  clear h
  induction hboth with
  | nil => rfl
  | cons hhead _ ih => rw [List.map_cons, List.map_cons, hhead.1, ih]

theorem authenticateDeletes_eq_ok (h : store.authenticateDeletes kind deletes = .ok u) :
    ∀ delete ∈ deletes, store.entityRevision kind delete.id = delete.expectedRevision := by
  induction deletes with
  | nil => simp
  | cons delete deletes ih =>
    unfold authenticateDeletes at h
    simp only [ok_iff, requireRevision_eq_ok] at h
    obtain ⟨-, hrev, hrest⟩ := h
    intro d hd
    rcases List.mem_cons.1 hd with rfl | hd
    · exact hrev
    · exact ih hrest d hd

variable [Encoded V]

theorem saveWorkflow_eq_ok {α : Type} [Serde V α] {id : WorkflowId} {kind : WorkflowKind}
    {expected updatedAt next : UInt64} {state : α} {irreversible : Bool} :
    store.saveWorkflow id kind expected state irreversible updatedAt = .ok (store', next) ↔
      Encoded.length (Serde.toVec state : V) ≤ maxStateBytes ∧ store.unlocked ∧
      store.authenticatedWorkflowRevision id kind = .ok expected ∧
      next.toNat = expected.toNat + 1 ∧
      store' = store.putWorkflow id ⟨kind, next, Serde.toVec state, irreversible, updatedAt⟩ := by
  unfold saveWorkflow
  simp only [ok_iff, requireKey_eq_ok, requireRevision_eq_ok, nextRevision_eq_ok, not_lt]
  constructor
  · rintro ⟨-, hlen, -, hkey, actual, hactual, -, rfl, n, hn, hret⟩
    cases hret
    exact ⟨hlen, hkey, hactual, hn, rfl⟩
  · rintro ⟨hlen, hkey, hactual, hn, rfl⟩
    exact ⟨(), hlen, (), hkey, expected, hactual, (), rfl, next, hn, rfl⟩

theorem saveEntity_eq_ok {α : Type} [Serde V α] {id : RecordId}
    {expected updatedAt next : UInt64} {value : α} :
    store.saveEntity kind id expected value updatedAt = .ok (store', next) ↔
      validateId id = .ok () ∧
      (Encoded.length (Serde.toVec value : V) ≠ 0 ∧
        Encoded.length (Serde.toVec value : V) ≤ maxStateBytes) ∧
      store.unlocked ∧ store.entityRevision kind id = expected ∧
      next.toNat = expected.toNat + 1 ∧
      store' = store.putEntity kind id ⟨next, Serde.toVec value, updatedAt⟩ := by
  unfold saveEntity
  simp only [ok_iff, requireKey_eq_ok, requireRevision_eq_ok, nextRevision_eq_ok, not_or, not_lt]
  constructor
  · rintro ⟨⟨⟩, hid, -, hlen, -, hkey, -, rfl, n, hn, hret⟩
    cases hret
    exact ⟨hid, hlen, hkey, rfl, hn, rfl⟩
  · rintro ⟨hid, hlen, hkey, rfl, hn, rfl⟩
    exact ⟨(), hid, (), hlen, (), hkey, (), rfl, next, hn, rfl⟩

def PreparedSave.ofSave {β : Type} [Serde V β] (save : EntityBatchSave β) : PreparedSave V :=
  ⟨save.id, save.expectedRevision, Serde.toVec save.value, save.updatedAtUnix⟩

theorem prepareSaves_eq_ok {β : Type} [Serde V β] {saves : List (EntityBatchSave β)}
    {seen seen' : List RecordId} (h : prepareSaves seen saves = .ok (seen', prepared)) :
    prepared = saves.map PreparedSave.ofSave := by
  induction saves generalizing seen prepared with
  | nil =>
    cases h
    rfl
  | cons save saves ih =>
    unfold prepareSaves at h
    simp only [ok_iff] at h
    obtain ⟨-, -, -, -, -, -, ⟨seen₁, rest⟩, hrest, hret⟩ := h
    cases hret
    rw [ih hrest]
    rfl

theorem prepareEntityBatch_eq_ok {β : Type} [Serde V β] {saves : List (EntityBatchSave β)}
    (h : prepareEntityBatch saves deletes = .ok prepared) :
    prepared = saves.map PreparedSave.ofSave := by
  unfold prepareEntityBatch at h
  simp only [ok_iff] at h
  obtain ⟨-, -, ⟨seen, ps⟩, hps, -, -, hret⟩ := h
  cases hret
  exact prepareSaves_eq_ok hps

omit [Encoded V]

structure AgreesOff (T : EntityKind × RecordId → Prop) (store store' : WalletStore V) : Prop where
  unlocked : store'.unlocked = store.unlocked
  workflows : store'.workflows = store.workflows
  entities : ∀ key, ¬ T key → store'.entities.lookup key = store.entities.lookup key

variable {T T' : EntityKind × RecordId → Prop} {store'' : WalletStore V} {kind : EntityKind}

theorem AgreesOff.refl (store : WalletStore V) : store.AgreesOff T store :=
  ⟨rfl, rfl, fun _ _ => rfl⟩

theorem AgreesOff.trans (h₁ : AgreesOff T store store') (h₂ : AgreesOff T store' store'') :
    AgreesOff T store store'' where
  unlocked := h₂.unlocked.trans h₁.unlocked
  workflows := h₂.workflows.trans h₁.workflows
  entities key hkey := (h₂.entities key hkey).trans (h₁.entities key hkey)

theorem putEntity_agreesOff {id : RecordId} {row : EntityRow V} (hT : T (kind, id)) :
    AgreesOff T store (store.putEntity kind id row) := by
  refine ⟨rfl, rfl, fun key hkey => putEntity_lookup_ne ?_⟩
  rintro rfl
  exact hkey hT

theorem dropEntity_agreesOff {id : RecordId} (hT : T (kind, id)) :
    AgreesOff T store (store.dropEntity kind id) := by
  refine ⟨rfl, rfl, fun key hkey => dropEntity_lookup_ne ?_⟩
  rintro rfl
  exact hkey hT

theorem foldl_agreesOff {L : Type} {f : WalletStore V → L → WalletStore V} {xs : List L}
    (h : ∀ x ∈ xs, ∀ store, AgreesOff T store (f store x)) :
    AgreesOff T store (xs.foldl f store) := by
  induction xs generalizing store with
  | nil => exact .refl store
  | cons x xs ih =>
    have hx := h x (List.mem_cons_self ..) store
    exact hx.trans (ih fun y hy => h y (List.mem_cons_of_mem _ hy))

theorem deleteEntities_eq_ok {deletes : List (EntityKind × EntityBatchDelete)}
    (h : store.deleteEntities deletes = .ok store') :
    AgreesOff (fun key => ∃ delete ∈ deletes, key = (delete.1, delete.2.id)) store store' ∧
      ∀ delete ∈ deletes, store'.entities.lookup (delete.1, delete.2.id) = none := by
  simp only [deleteEntities, ok_iff] at h
  obtain ⟨_, -, _, -, _, -, _, -, _, -, _, -, hret⟩ := h
  cases hret
  refine ⟨foldl_agreesOff fun delete hdelete _ => dropEntity_agreesOff ⟨delete, hdelete, rfl⟩, ?_⟩
  clear * -
  induction deletes generalizing store with
  | nil => exact fun _ hdelete => absurd hdelete List.not_mem_nil
  | cons first rest ih =>
    intro delete hdelete
    rcases List.mem_cons.1 hdelete with rfl | hdelete
    · by_cases hagain : ∃ later ∈ rest, (delete.1, delete.2.id) = (later.1, later.2.id)
      · obtain ⟨later, hlater, hsame⟩ := hagain
        rw [hsame]
        exact ih later hlater
      · have hoff : AgreesOff (fun key => ∃ later ∈ rest, key = (later.1, later.2.id))
            (store.dropEntity delete.1 delete.2.id)
            (rest.foldl (fun store later => store.dropEntity later.1 later.2.id)
              (store.dropEntity delete.1 delete.2.id)) :=
          foldl_agreesOff fun later hlater _ => dropEntity_agreesOff ⟨later, hlater, rfl⟩
        exact (hoff.entities _ hagain).trans dropEntity_lookup
    · exact ih delete hdelete

def BatchTouches (kind : EntityKind) (saves : List RecordId) (deletes : List EntityBatchDelete)
    (key : EntityKind × RecordId) : Prop :=
  key.1 = kind ∧ (key.2 ∈ saves ∨ ∃ delete ∈ deletes, delete.id = key.2)

theorem writeEntityBatch_agreesOff :
    AgreesOff (BatchTouches kind (writes.map AuthenticatedSave.id) deletes) store
      (store.writeEntityBatch kind writes deletes) := by
  unfold writeEntityBatch
  refine AgreesOff.trans (foldl_agreesOff fun write hwrite _ => ?_)
    (foldl_agreesOff fun delete hdelete _ => ?_)
  · exact putEntity_agreesOff ⟨rfl, .inl (List.mem_map_of_mem hwrite)⟩
  · exact dropEntity_agreesOff ⟨rfl, .inr ⟨delete, hdelete, rfl⟩⟩

theorem applyEntityBatchInTransaction_agreesOff {saves : List (PreparedSave V)}
    (h : store.applyEntityBatchInTransaction kind saves deletes = .ok store') :
    AgreesOff (BatchTouches kind (saves.map PreparedSave.id) deletes) store store' := by
  unfold applyEntityBatchInTransaction authenticateEntityBatch at h
  simp only [ok_iff] at h
  obtain ⟨writes, ⟨-, -, ws, hws, -, -, hret⟩, hstore⟩ := h
  cases hret
  cases hstore
  rw [← authenticateSaves_ids hws]
  exact writeEntityBatch_agreesOff

theorem applyEntityBatch_workflows [Encoded V] {β : Type} [Serde V β]
    {saves : List (EntityBatchSave β)}
    (h : store.applyEntityBatch kind saves deletes = .ok store') :
    store'.workflows = store.workflows := by
  unfold applyEntityBatch at h
  simp only [ok_iff] at h
  obtain ⟨prepared, -, -, -, hbatch⟩ := h
  exact (applyEntityBatchInTransaction_agreesOff hbatch).workflows

theorem applyEntityBatch_save_eq_ok {save : PreparedSave V} :
    store.applyEntityBatchInTransaction kind [save] [] = .ok store' ↔
      store.entityRevision kind save.id = save.expectedRevision ∧
      ∃ next, next.toNat = save.expectedRevision.toNat + 1 ∧
        store' = store.putEntity kind save.id ⟨next, save.encoded, save.updatedAtUnix⟩ := by
  simp only [applyEntityBatchInTransaction, authenticateEntityBatch, authenticateSaves,
    authenticateDeletes, ok_iff, requireRevision_eq_ok, nextRevision_eq_ok]
  constructor
  · rintro ⟨writes, ⟨-, -, ws, ⟨-, hrev, next, hnext, rest, hrest, hws⟩, -, -, hret⟩, hstore⟩
    cases hrest
    cases hws
    cases hret
    cases hstore
    rw [hrev] at hnext
    exact ⟨hrev, next, hnext, rfl⟩
  · rintro ⟨hrev, next, hnext, rfl⟩
    rw [← hrev] at hnext
    exact ⟨_, ⟨(), by simp, _, ⟨(), hrev, next, hnext, [], rfl, rfl⟩, (), trivial, rfl⟩, rfl⟩

theorem applyEntityBatch_delete_eq_ok {delete : EntityBatchDelete} :
    store.applyEntityBatchInTransaction kind [] [delete] = .ok store' ↔
      kind.deletionProtected = false ∧
      store.entityRevision kind delete.id = delete.expectedRevision ∧
      store' = store.dropEntity kind delete.id := by
  simp only [applyEntityBatchInTransaction, authenticateEntityBatch, authenticateSaves,
    authenticateDeletes, ok_iff, requireRevision_eq_ok]
  constructor
  · rintro ⟨writes, ⟨-, hprot, ws, hws, -, ⟨-, hrev, -⟩, hret⟩, hstore⟩
    cases hws
    cases hret
    cases hstore
    exact ⟨by simpa using hprot, hrev, rfl⟩
  · rintro ⟨hprot, hrev, rfl⟩
    exact ⟨[], ⟨(), by simp [hprot], [], rfl, (), ⟨(), hrev, trivial⟩, rfl⟩, rfl⟩

theorem consume_eq_ok {assertion : EntityRevisionAssertion} {consumedAt : UInt64} :
    store.consumeAuthenticatedEntityRevision kind assertion consumedAt = .ok store' ↔
      ∃ row next, store.entities.lookup (kind, assertion.id) = some row ∧
        row.revision = assertion.expectedRevision ∧
        next.toNat = assertion.expectedRevision.toNat + 1 ∧
        store' = store.putEntity kind assertion.id ⟨next, row.value, consumedAt⟩ := by
  unfold consumeAuthenticatedEntityRevision
  cases hrow : store.entities.lookup (kind, assertion.id) with
  | none => simp
  | some row =>
    simp only [ok_iff, requireRevision_eq_ok, nextRevision_eq_ok]
    constructor
    · rintro ⟨-, hrev, next, hnext, hret⟩
      cases hret
      rw [hrev] at hnext
      exact ⟨row, next, rfl, hrev, hnext, rfl⟩
    · rintro ⟨row', next, hrow', hrev, hnext, rfl⟩
      cases hrow'
      rw [← hrev] at hnext
      exact ⟨(), hrev, next, hnext, rfl⟩

section Guards

variable [Encoded V] {α β : Type} [Serde V α] [Serde V β] {id : WorkflowId} {wkind : WorkflowKind}
  {expected updatedAt next : UInt64} {state : α} {irreversible : Bool}

theorem saveWorkflowWithEntityBatch_eq_ok {saves : List (EntityBatchSave β)}
    {deletes : List EntityBatchDelete}
    (h : store.saveWorkflowWithEntityBatch id wkind expected state irreversible updatedAt kind
      saves deletes = .ok (store', next)) :
    store.unlocked ∧ store.authenticatedWorkflowRevision id wkind = .ok expected ∧
      next.toNat = expected.toNat + 1 ∧
      ∃ written, store.applyEntityBatchInTransaction kind (saves.map PreparedSave.ofSave)
          deletes = .ok written ∧
        prepareEntityBatch saves deletes = .ok (saves.map (PreparedSave.ofSave (V := V))) ∧
        store' = written.putWorkflow id
          ⟨wkind, next, Serde.toVec state, irreversible, updatedAt⟩ := by
  unfold saveWorkflowWithEntityBatch at h
  simp only [ok_iff, requireKey_eq_ok, requireRevision_eq_ok, nextRevision_eq_ok] at h
  obtain ⟨-, -, prepared, hprepared, -, hkey, actual, hactual, -, rfl, written, hwritten, n, hn,
    hret⟩ := h
  cases hret
  obtain rfl := prepareEntityBatch_eq_ok hprepared
  exact ⟨hkey, hactual, hn, written, hwritten, hprepared, rfl⟩

/-- What a transaction that consumes a guard entity under a workflow guard does:
both guards held at their asserted revisions, and of the two guarded rows only the
entity changed, to its consumed revision. -/
structure ConsumesGuard (store store' : WalletStore V) (workflowGuard : WorkflowRevisionAssertion)
    (kind : EntityKind) (entityGuard : EntityRevisionAssertion) : Prop where
  workflow : store.authenticatedWorkflowRevision workflowGuard.id workflowGuard.kind =
    .ok workflowGuard.expectedRevision
  workflow_pos : workflowGuard.expectedRevision ≠ 0
  workflow_kept : store'.workflows.lookup workflowGuard.id =
    store.workflows.lookup workflowGuard.id
  unlocked : store.unlocked ∧ store'.unlocked
  consumed : ∃ row next consumedAt, store.entities.lookup (kind, entityGuard.id) = some row ∧
    row.revision = entityGuard.expectedRevision ∧
    next.toNat = entityGuard.expectedRevision.toNat + 1 ∧
    store'.entities.lookup (kind, entityGuard.id) = some ⟨next, row.value, consumedAt⟩

variable {entityKind : EntityKind} {saves : List (EntityBatchSave β)}
  {deletes : List EntityBatchDelete} {workflowGuard : WorkflowRevisionAssertion}
  {guard : EntityRevisionAssertion}

theorem prepareEntityBatch_ids {prepared : List (PreparedSave V)}
    (h : prepareEntityBatch saves deletes = .ok prepared) :
    prepared.map PreparedSave.id = saves.map EntityBatchSave.id := by
  rw [prepareEntityBatch_eq_ok h, List.map_map]
  rfl

theorem not_batchTouches {name : RecordId} (h : ¬ (kind = entityKind ∧
    ((∃ save ∈ saves, save.id = name) ∨ ∃ delete ∈ deletes, delete.id = name))) :
    ¬ BatchTouches entityKind (saves.map EntityBatchSave.id) deletes (kind, name) :=
  fun ⟨hkind, hid⟩ => h ⟨hkind, hid.imp_left List.mem_map.1⟩

theorem saveWorkflowWithEntityBatchAndGuards_eq_ok {consume : Bool}
    (h : store.saveWorkflowWithEntityBatchAndGuards id wkind expected state irreversible
      updatedAt entityKind saves deletes workflowGuard kind guard consume = .ok (store', next)) :
    store.authenticatedWorkflowRevision workflowGuard.id workflowGuard.kind =
        .ok workflowGuard.expectedRevision ∧
      ∃ written : WalletStore V, written.workflows = store.workflows ∧
        store' = written.putWorkflow id
          ⟨wkind, next, Serde.toVec state, irreversible, updatedAt⟩ := by
  simp only [saveWorkflowWithEntityBatchAndGuards, ok_iff, assertWorkflow_eq_ok] at h
  obtain ⟨-, -, -, -, -, -, -, -, -, -, prepared, -, -, -, actual, -, -, -, -, hworkflow, -, -,
    written, hwritten, h⟩ := h
  have hworkflows := (applyEntityBatchInTransaction_agreesOff hwritten).workflows
  cases consume with
  | false =>
    simp only [Bool.false_eq_true, if_false, ok_iff] at h
    obtain ⟨_, ⟨⟩, n, -, ⟨⟩⟩ := h
    exact ⟨hworkflow, written, hworkflows, rfl⟩
  | true =>
    simp only [if_true, ok_iff] at h
    obtain ⟨consumed, hconsumed, n, -, ⟨⟩⟩ := h
    obtain ⟨row, m, -, -, -, rfl⟩ := consume_eq_ok.1 hconsumed
    exact ⟨hworkflow, written.putEntity kind guard.id ⟨m, row.value, updatedAt⟩, hworkflows, rfl⟩

theorem saveWorkflowWithEntityBatchAndGuards_consumes
    (h : store.saveWorkflowWithEntityBatchAndGuards id wkind expected state irreversible
      updatedAt entityKind saves deletes workflowGuard kind guard true = .ok (store', next)) :
    store.ConsumesGuard store' workflowGuard kind guard := by
  unfold saveWorkflowWithEntityBatchAndGuards at h
  simp only [ok_iff, requireKey_eq_ok, assertWorkflow_eq_ok, if_true, not_or] at h
  obtain ⟨-, ⟨hpos, -, hne⟩, -, -, -, -, -, hdup, -, -, prepared, hprepared, -, hkey, actual,
    -, -, -, -, hworkflow, -, -, written, hwritten, consumed, hconsumed, n, -, hret⟩ := h
  cases hret
  have hframe := applyEntityBatchInTransaction_agreesOff hwritten
  rw [prepareEntityBatch_ids hprepared] at hframe
  obtain ⟨row, m, hrow, hrev, hm, rfl⟩ := consume_eq_ok.1 hconsumed
  rw [hframe.entities _ (not_batchTouches hdup)] at hrow
  refine ⟨hworkflow, hpos, ?_, ⟨hkey, ?_⟩, row, m, updatedAt, hrow, hrev, hm, ?_⟩
  · rw [putWorkflow_lookup_ne hne, putEntity_workflows, hframe.workflows]
  · rw [putWorkflow_unlocked, putEntity_unlocked, hframe.unlocked, hkey]
  · rw [putWorkflow_entities, putEntity_lookup]

theorem applyEntityBatchWithWorkflowGuardAndConsumedEntity_consumes {consumedAt : UInt64}
    (h : store.applyEntityBatchWithWorkflowGuardAndConsumedEntity entityKind saves deletes
      workflowGuard kind guard consumedAt = .ok store') :
    store.ConsumesGuard store' workflowGuard kind guard := by
  unfold applyEntityBatchWithWorkflowGuardAndConsumedEntity at h
  simp only [ok_iff, requireKey_eq_ok, assertWorkflow_eq_ok, not_or] at h
  obtain ⟨-, ⟨hpos, -, -, -⟩, -, -, -, hdup, prepared, hprepared, -, hkey, -, hworkflow, -, -,
    written, hwritten, hconsumed⟩ := h
  have hframe := applyEntityBatchInTransaction_agreesOff hwritten
  rw [prepareEntityBatch_ids hprepared] at hframe
  obtain ⟨row, m, hrow, hrev, hm, rfl⟩ := consume_eq_ok.1 hconsumed
  rw [hframe.entities _ (not_batchTouches hdup)] at hrow
  refine ⟨hworkflow, hpos, ?_, ⟨hkey, ?_⟩, row, m, consumedAt, hrow, hrev, hm, putEntity_lookup⟩
  · rw [putEntity_workflows, hframe.workflows]
  · rw [putEntity_unlocked, hframe.unlocked, hkey]

end Guards

end WalletStore

end HnsWallet
