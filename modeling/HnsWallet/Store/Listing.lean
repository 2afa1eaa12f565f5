import Mathlib.Data.List.Sort
import HnsWallet.Store.Laws

/-! # Listing rows by their identity -/

namespace HnsWallet

open Lib

namespace WalletStore

variable {V : Type}

def namespaceRow (kind : EntityKind) (idPrefix : RecordId)
    (entry : (_ : EntityKind × RecordId) × EntityRow V) : Option (RecordId × EntityRow V) :=
  if entry.1.1 = kind ∧ idPrefix <+: entry.1.2 then some (entry.1.2, entry.2) else none

def entitiesByIdPrefix (store : WalletStore V) (kind : EntityKind) (idPrefix : RecordId) :
    List (RecordId × EntityRow V) :=
  (store.entities.entries.filterMap (namespaceRow kind idPrefix)).insertionSort
    fun a b => a.1 ≤ b.1

def storedEntity {α : Type} [Serde V α] (kind : EntityKind) (row : RecordId × EntityRow V) :
    Except StoreError (StoredEntity α) := do
  validateId row.1
  match Serde.fromSlice row.2.value with
  | none => .error .json
  | some value => return ⟨kind, row.1, row.2.revision, value, row.2.updatedAtUnix⟩

def listEntitiesByIdPrefix (α : Type) [Serde V α] (store : WalletStore V) (kind : EntityKind)
    (idPrefix : RecordId) (limit : Nat) : Except StoreError (List (StoredEntity α)) := do
  validateId idPrefix
  refuseIf (limit = 0 ∨ maxEntityListResults < limit) .invalidListLimit
  store.requireKey
  let rows := store.entitiesByIdPrefix kind idPrefix
  refuseIf (limit < rows.length) .listCapacity
  rows.mapM (storedEntity kind)

def listEntities (α : Type) [Serde V α] (store : WalletStore V) (kind : EntityKind)
    (limit : Nat) : Except StoreError (List (StoredEntity α)) := do
  refuseIf (limit = 0 ∨ maxEntityListResults < limit) .invalidListLimit
  store.requireKey
  ((store.entitiesByIdPrefix kind []).take limit).mapM (storedEntity kind)

variable {store : WalletStore V} {kind : EntityKind} {idPrefix id : RecordId} {row : EntityRow V}

theorem mem_entitiesByIdPrefix : (id, row) ∈ store.entitiesByIdPrefix kind idPrefix ↔
    idPrefix <+: id ∧ store.entities.lookup (kind, id) = some row := by
  rw [entitiesByIdPrefix, List.mem_insertionSort, List.mem_filterMap,
    ← Option.mem_def, AList.mem_lookup_iff]
  constructor
  · rintro ⟨⟨⟨k, i⟩, r⟩, hmem, hrow⟩
    rw [namespaceRow] at hrow
    split at hrow
    next h =>
      obtain ⟨hk, hp⟩ := h
      cases hk
      cases hrow
      exact ⟨hp, hmem⟩
    next => exact absurd hrow (by simp)
  · rintro ⟨hp, hmem⟩
    exact ⟨_, hmem, if_pos ⟨rfl, hp⟩⟩

theorem nodup_entitiesByIdPrefix (store : WalletStore V) :
    ((store.entitiesByIdPrefix kind idPrefix).map Prod.fst).Nodup := by
  have hkeys : store.entities.entries.Pairwise fun a b => a.1 ≠ b.1 :=
    List.nodupKeys_iff_pairwise.1 store.entities.nodupKeys
  have hrows : (store.entities.entries.filterMap (namespaceRow kind idPrefix)).Pairwise
      fun a b => a.1 ≠ b.1 := by
    refine hkeys.filterMap _ fun a a' hne b hb b' hb' heq => hne ?_
    unfold namespaceRow at hb hb'
    split at hb
    next hin =>
      split at hb'
      next hin' =>
        cases hb
        cases hb'
        exact Prod.ext (hin.1.trans hin'.1.symm) heq
      next => cases hb'
    next => cases hb
  rw [entitiesByIdPrefix, ((List.perm_insertionSort _ _).map Prod.fst).nodup_iff]
  exact List.pairwise_map.2 hrows

section Reads

variable {α : Type} [Serde V α] {stored : StoredEntity α}

theorem storedEntity_eq_ok :
    storedEntity kind (id, row) = .ok stored ↔ validateId id = .ok () ∧ ∃ value,
      Serde.fromSlice row.value = some value ∧
      stored = ⟨kind, id, row.revision, value, row.updatedAtUnix⟩ := by
  unfold storedEntity
  simp only [ok_iff, Unique.exists_iff]
  show _ = Except.ok () ∧ _ ↔ _
  refine and_congr_right fun _ => ?_
  cases hvalue : (Serde.fromSlice row.value : Option α) with
  | none => simp
  | some value => simp [pure, Except.pure, eq_comm]

variable {limit : Nat} {listed : List (StoredEntity α)}

theorem mem_of_storedEntities (hkey : store.unlocked)
    (h : (store.entitiesByIdPrefix kind idPrefix).mapM (storedEntity kind) = .ok listed) :
    stored ∈ listed ↔ idPrefix <+: stored.id ∧
      store.loadEntity α kind stored.id = .ok (some stored) := by
  rw [mem_of_mapM_eq_ok h]
  constructor
  · rintro ⟨⟨id, row⟩, hrow, hstored⟩
    obtain ⟨hpre, hlookup⟩ := mem_entitiesByIdPrefix.1 hrow
    obtain ⟨hid, value, hvalue, rfl⟩ := storedEntity_eq_ok.1 hstored
    exact ⟨hpre, loadEntity_eq_some.2 ⟨hid, hkey, row, value, hlookup, hvalue, rfl⟩⟩
  · rintro ⟨hpre, hload⟩
    obtain ⟨hid, -, row, value, hlookup, hvalue, hstored⟩ := loadEntity_eq_some.1 hload
    exact ⟨(stored.id, row), mem_entitiesByIdPrefix.2 ⟨hpre, hlookup⟩,
      storedEntity_eq_ok.2 ⟨hid, value, hvalue, hstored⟩⟩

theorem exists_storedEntity (hrow : (id, row) ∈ store.entitiesByIdPrefix kind idPrefix)
    (hload : ∀ id row, idPrefix <+: id → store.entities.lookup (kind, id) = some row →
      ∃ stored, store.loadEntity α kind id = .ok (some stored)) :
    ∃ stored : StoredEntity α, storedEntity kind (id, row) = .ok stored := by
  obtain ⟨hpre, hlookup⟩ := mem_entitiesByIdPrefix.1 hrow
  obtain ⟨stored, hstored⟩ := hload id row hpre hlookup
  obtain ⟨hid, -, row', value, hlookup', hvalue, -⟩ := loadEntity_eq_some.1 hstored
  cases hlookup.symm.trans hlookup'
  exact ⟨_, storedEntity_eq_ok.2 ⟨hid, value, hvalue, rfl⟩⟩

theorem ids_of_storedEntities {rows : List (RecordId × EntityRow V)}
    (h : rows.mapM (storedEntity kind) = .ok listed) :
    listed.map StoredEntity.id = rows.map Prod.fst := by
  refine map_of_mapM_eq_ok (fun hread => ?_) h
  obtain ⟨-, value, -, rfl⟩ := storedEntity_eq_ok.1 hread
  rfl

theorem mem_of_listEntitiesByIdPrefix
    (h : store.listEntitiesByIdPrefix α kind idPrefix limit = .ok listed) :
    stored ∈ listed ↔ idPrefix <+: stored.id ∧
      store.loadEntity α kind stored.id = .ok (some stored) := by
  simp only [listEntitiesByIdPrefix, ok_iff] at h
  obtain ⟨_, -, _, -, _, hkey, _, -, h⟩ := h
  exact mem_of_storedEntities (requireKey_eq_ok.1 hkey) h

theorem exists_listEntitiesByIdPrefix (hp : validateId idPrefix = .ok ())
    (hlimit : limit ≠ 0 ∧ limit ≤ maxEntityListResults) (hkey : store.unlocked)
    (hcount : (store.entitiesByIdPrefix kind idPrefix).length ≤ limit)
    (hload : ∀ id row, idPrefix <+: id → store.entities.lookup (kind, id) = some row →
      ∃ stored, store.loadEntity α kind id = .ok (some stored)) :
    ∃ listed, store.listEntitiesByIdPrefix α kind idPrefix limit = .ok listed := by
  obtain ⟨listed, hlisted⟩ := exists_mapM_eq_ok fun _ hrow => exists_storedEntity hrow hload
  refine ⟨listed, ?_⟩
  simp only [listEntitiesByIdPrefix, ok_iff]
  exact ⟨(), hp, (), by omega, (), requireKey_eq_ok.2 hkey, (), by omega, hlisted⟩

theorem length_of_listEntitiesByIdPrefix
    (h : store.listEntitiesByIdPrefix α kind idPrefix limit = .ok listed) :
    listed.length = (store.entitiesByIdPrefix kind idPrefix).length := by
  simp only [listEntitiesByIdPrefix, ok_iff] at h
  obtain ⟨_, -, _, -, _, -, _, -, h⟩ := h
  exact (mapM_eq_ok.1 h).length_eq.symm

theorem mem_of_listEntities
    (h : store.listEntities α kind limit = .ok listed) (hshort : listed.length < limit) :
    stored ∈ listed ↔ store.loadEntity α kind stored.id = .ok (some stored) := by
  simp only [listEntities, ok_iff] at h
  obtain ⟨_, -, _, hkey, h⟩ := h
  have hlength := (mapM_eq_ok.1 h).length_eq
  rw [List.length_take] at hlength
  rw [List.take_of_length_le (by omega)] at h
  rw [mem_of_storedEntities (requireKey_eq_ok.1 hkey) h, and_iff_right List.nil_prefix]

theorem loadEntity_of_listEntities (h : store.listEntities α kind limit = .ok listed)
    (hstored : stored ∈ listed) : store.loadEntity α kind stored.id = .ok (some stored) := by
  simp only [listEntities, ok_iff] at h
  obtain ⟨_, -, _, hkey, h⟩ := h
  obtain ⟨⟨id, row⟩, hrow, hread⟩ := (mem_of_mapM_eq_ok h).1 hstored
  obtain ⟨-, hlookup⟩ := mem_entitiesByIdPrefix.1 (List.mem_of_mem_take hrow)
  obtain ⟨hid, value, hvalue, rfl⟩ := storedEntity_eq_ok.1 hread
  exact loadEntity_eq_some.2 ⟨hid, requireKey_eq_ok.1 hkey, row, value, hlookup, hvalue, rfl⟩

theorem exists_listEntities (hlimit : limit ≠ 0 ∧ limit ≤ maxEntityListResults)
    (hkey : store.unlocked) (hload : ∀ id row, store.entities.lookup (kind, id) = some row →
      ∃ stored, store.loadEntity α kind id = .ok (some stored)) :
    ∃ listed, store.listEntities α kind limit = .ok listed ∧
      listed.length ≤ (store.entitiesByIdPrefix kind []).length := by
  obtain ⟨listed, hlisted⟩ := exists_mapM_eq_ok fun _ hrow =>
    exists_storedEntity (List.mem_of_mem_take (i := limit) hrow) fun id row _ => hload id row
  refine ⟨listed, ?_, ?_⟩
  · simp only [listEntities, ok_iff]
    exact ⟨(), by omega, (), requireKey_eq_ok.2 hkey, hlisted⟩
  · rw [← (mapM_eq_ok.1 hlisted).length_eq, List.length_take]
    exact Nat.min_le_right _ _

theorem nodup_of_listEntities (h : store.listEntities α kind limit = .ok listed) :
    (listed.map StoredEntity.id).Nodup := by
  simp only [listEntities, ok_iff] at h
  obtain ⟨_, -, _, -, h⟩ := h
  rw [ids_of_storedEntities h, List.map_take]
  exact (nodup_entitiesByIdPrefix store).sublist (List.take_sublist _ _)

theorem nodup_of_listEntitiesByIdPrefix
    (h : store.listEntitiesByIdPrefix α kind idPrefix limit = .ok listed) :
    (listed.map StoredEntity.id).Nodup := by
  simp only [listEntitiesByIdPrefix, ok_iff] at h
  obtain ⟨_, -, _, -, _, -, _, -, h⟩ := h
  rw [ids_of_storedEntities h]
  exact nodup_entitiesByIdPrefix store

end Reads

/-! ## The size of a namespace -/

theorem length_entitiesByIdPrefix (store : WalletStore V) :
    (store.entitiesByIdPrefix kind idPrefix).length =
      (store.entities.entries.filterMap (namespaceRow kind idPrefix)).length := by
  rw [entitiesByIdPrefix, List.length_insertionSort]

theorem namespaceRow_isSome {key : EntityKind × RecordId} {row row' : EntityRow V} :
    (namespaceRow kind idPrefix ⟨key, row⟩).isSome =
      (namespaceRow kind idPrefix ⟨key, row'⟩).isSome := by
  unfold namespaceRow
  split <;> rfl

theorem length_filterMap_cons {L R : Type} (f : L → Option R) (l : L) (ls : List L) :
    ((l :: ls).filterMap f).length = (f l).isSome.toNat + (ls.filterMap f).length := by
  rw [List.filterMap_cons]
  cases f l <;> simp [Nat.add_comm]

variable {kind' : EntityKind}

theorem length_putEntity_of_isSome {id : RecordId} {row : EntityRow V}
    (h : (store.entities.lookup (kind', id)).isSome) :
    ((store.putEntity kind' id row).entitiesByIdPrefix kind idPrefix).length =
      (store.entitiesByIdPrefix kind idPrefix).length := by
  rw [length_entitiesByIdPrefix, length_entitiesByIdPrefix, putEntity, AList.entries_insert]
  have hmem : (kind', id) ∈ store.entities.entries.keys :=
    AList.mem_keys.1 (AList.lookup_isSome.1 h)
  obtain ⟨old, l₁, l₂, -, hentries, hkerase⟩ := List.exists_of_kerase hmem
  have hsome : (namespaceRow kind idPrefix ⟨(kind', id), row⟩).isSome =
      (namespaceRow kind idPrefix ⟨(kind', id), old⟩).isSome := namespaceRow_isSome
  rw [hkerase, hentries, length_filterMap_cons, List.filterMap_append, List.filterMap_append,
    List.length_append, List.length_append, length_filterMap_cons, hsome]
  omega

theorem length_putEntity_le {id : RecordId} {row : EntityRow V} :
    ((store.putEntity kind' id row).entitiesByIdPrefix kind idPrefix).length ≤
      (store.entitiesByIdPrefix kind idPrefix).length + 1 := by
  rw [length_entitiesByIdPrefix, length_entitiesByIdPrefix, putEntity, AList.entries_insert,
    length_filterMap_cons]
  have hle := ((List.kerase_sublist (kind', id) store.entities.entries).filterMap
    (namespaceRow kind idPrefix)).length_le
  have := Bool.toNat_le (namespaceRow kind idPrefix ⟨(kind', id), row⟩).isSome
  omega

theorem length_dropEntity_le {id : RecordId} :
    ((store.dropEntity kind' id).entitiesByIdPrefix kind idPrefix).length ≤
      (store.entitiesByIdPrefix kind idPrefix).length := by
  rw [length_entitiesByIdPrefix, length_entitiesByIdPrefix]
  exact ((List.kerase_sublist (kind', id) store.entities.entries).filterMap
    (namespaceRow kind idPrefix)).length_le

end WalletStore

end HnsWallet
