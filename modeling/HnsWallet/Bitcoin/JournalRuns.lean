import HnsWallet.Bitcoin.JournalLaws
import HnsWallet.Lib.Runs

/-! # Persisters of one account -/

namespace HnsWallet

open Lib WalletStore

namespace BdkWalletStorePersister

variable {D R V : Type}

inductive Instance (D R V : Type) where
  | idle (persister : BdkWalletStorePersister D R)
  | persisting (changeset : ChangeSet D R) (committed : Bool) (call : PersisterCall D R V)

structure System (D R V : Type) where
  store : WalletStore V
  instances : Nat → Option (Instance D R V)

/-- What can happen: a persister is opened, reads the journal, is called, runs one
transaction of the call, returns from it, or is lost at any point. -/
inductive Label (D R : Type) where
  | opened (i : Nat)
  | initialized (i : Nat) (result : Except BitcoinWalletError (ChangeSet D R))
  | called (i : Nat) (changeset : ChangeSet D R)
  | transacted (i : Nat) (event : Option (UInt64 × ChangeSet D R))
  | returned (i : Nat) (changeset : ChangeSet D R) (committed : Bool)
      (result : Except BitcoinWalletError Unit)
  | crashed (i : Nat)

namespace Label

def committed : Label D R → Option (UInt64 × ChangeSet D R)
  | transacted _ event => event
  | _ => none

def accepted : Label D R → Option (ChangeSet D R)
  | transacted _ event => event.map Prod.snd
  | returned _ changeset false (.ok ()) => some changeset
  | _ => none

end Label

def System.set (s : System D R V) (i : Nat) (x : Option (Instance D R V)) : System D R V :=
  { s with instances := Function.update s.instances i x }

@[simp] theorem System.set_instances_self (s : System D R V) (i : Nat)
    (x : Option (Instance D R V)) : (s.set i x).instances i = x :=
  Function.update_self ..

def System.FirstComplete (ls : List (Label D R)) : Prop :=
  ∀ first ∈ (ls.filterMap Label.committed).head?, first.2.Complete

theorem System.FirstComplete.of_append {ls ms : List (Label D R)}
    (hfirst : FirstComplete (ls ++ ms)) : FirstComplete ls := by
  intro first hhead
  refine hfirst first ?_
  rw [List.filterMap_append, List.head?_append, hhead]
  rfl

variable [Monoid R] {accountId : RecordId} {h h' : History D R} {store store' : WalletStore V}
  {persister : BdkWalletStorePersister D R} {state : InitializedState D R} {c : ChangeSet D R}
  {m : Nat}

def KnowsState (h : History D R) : PersisterState D R → Prop
  | .uninitialized => True
  | .initialized state => ∃ m, Knows h state m

theorem KnowsState.mono {state : PersisterState D R} (hknows : KnowsState h state)
    (hle : h ≤ h') : KnowsState h' state := by
  cases state with
  | uninitialized => trivial
  | initialized state =>
    obtain ⟨m, hm⟩ := hknows
    exact ⟨m, hm.mono hle⟩

structure Returned (accountId : RecordId) (c : ChangeSet D R) (h : History D R)
    (result : BdkWalletStorePersister D R × Except BitcoinWalletError Unit) : Prop where
  account : result.1.accountId = accountId
  knows : KnowsState h result.1.state
  absorbs : result.2 = .ok () → ChangeSet.Absorbs h.log c

theorem Returned.mono [MergesOnce R]
    {result : BdkWalletStorePersister D R × Except BitcoinWalletError Unit} (hle : h ≤ h')
    (hreturned : Returned accountId c h result) : Returned accountId c h' result :=
  ⟨hreturned.account, hreturned.knows.mono hle, fun hok =>
    (hreturned.absorbs hok).mono h'.pinned (h.log_initial hle)⟩

variable [Serde V (StoredBdkWalletState D R)] [Serde V (StoredBdkWalletJournalRecord D R)] [Sha256]

def journalProtocol (accountId : RecordId) :
    Protocol (WalletStore V) (UInt64 × ChangeSet D R) (History D R) where
  Inv h store := Represents accountId h store
  Allowed h event := ∀ s c, event = some (s, c) → h.log = [] → c.Complete
  Extends h event h' := h ≤ h' ∧ h'.log = h.log ++ (event.map Prod.snd).toList ∧
    ∀ s c, event = some (s, c) → s.toNat = h.log.length + 1
  le_of_extends hextends := hextends.1
  extends_refl h := ⟨le_refl h, by simp, fun _ _ hevent => by cases hevent⟩

theorem follows_fail (haccount : persister.accountId = accountId)
    (hknows : KnowsState h persister.state) {error : BitcoinWalletError} :
    (journalProtocol (V := V) accountId).Follows (Returned accountId c) h
      (fail persister error) :=
  ⟨haccount, hknows, fun hok => by cases hok⟩

variable [Encoded V]

/-! ## What the transactions do -/

variable {saves : List (EntityBatchSave (StoredBdkWalletJournalRecord D R))} {next through : UInt64}

theorem Represents.saveSnapshot (hr : Represents accountId h store) (hknows : Knows h state m)
    {nowUnix revision : UInt64} (hthrough : through.toNat = m) {snapshot : StoredBdkWalletState D R}
    (hsnapshot : StoredBdkWalletState.new through state.aggregate = .ok snapshot)
    (hsave : store.saveEntity .bitcoinWalletState accountId state.snapshotRevision snapshot
      nowUnix = .ok (store', revision)) :
    h.compacted ≤ m ∧ revision.toNat = h.snapshotRevision + 1 ∧
      Represents accountId (h.compactTo m hknows.le_length) store' := by
  obtain ⟨-, -, hunlocked, hexpected, hrevision, rfl⟩ := saveEntity_eq_ok.1 hsave
  simp only [StoredBdkWalletState.new, ok_iff] at hsnapshot
  obtain ⟨_, hvalid, hret⟩ := hsnapshot
  cases hret
  have hcomplete : state.aggregate.Complete := validate_snapshotOf.1 hvalid
  have hcurrent : state.snapshotRevision.toNat = h.snapshotRevision := by
    rw [← hr.entityRevision_snapshot, hexpected]
  have hcovers := hknows.covers hcurrent
  have hm : m ≠ 0 := by
    rintro rfl
    rw [hknows.aggregate, List.take_zero] at hcomplete
    cases hcomplete.1
  rw [hcurrent] at hrevision
  have hlookup : ∀ id, (store.putEntity .bitcoinWalletState accountId
      ⟨revision, Serde.toVec (⟨bdkWalletStateFormatVersion, bdkWalletChangesetVersion, through,
        state.aggregate⟩ : StoredBdkWalletState D R), nowUnix⟩).entities.lookup
          (.bitcoinWalletChangeSet, id) = store.entities.lookup (.bitcoinWalletChangeSet, id) :=
    fun id => putEntity_lookup_ne fun hkey => by cases (Prod.mk.inj hkey).1
  refine ⟨hcovers, hrevision, hunlocked, hr.fits, .inr ⟨hm, revision, through, nowUnix, ?_,
    hrevision, hthrough, ?_⟩, ?_, ?_, ?_⟩
  · intro hzero
    rw [hzero] at hrevision
    cases hrevision
  · rw [putEntity_lookup, snapshotOf, hknows.aggregate]
    rfl
  · intro id row hstarts hrow
    rw [hlookup] at hrow
    exact hr.rows id row hstarts hrow
  · rw [hlookup]
    exact hr.head
  · intro s hlater hle
    rw [hlookup]
    exact hr.live s (lt_of_le_of_lt hcovers hlater) hle

theorem Represents.prune (hr : Represents accountId h store) {deletes : List EntityBatchDelete}
    (hdeletes : ∀ delete ∈ deletes, ∃ s : UInt64, s.toNat ≤ h.compacted ∧
      delete.id = journalId (accountCommitment accountId) s)
    (hbatch : store.applyEntityBatch (β := StoredBdkWalletJournalRecord D R)
      .bitcoinWalletChangeSet [] deletes = .ok store') : Represents accountId h store' := by
  obtain ⟨hunlocked, hbatched⟩ := applyEntityBatch_batched hbatch
  have hkept : ∀ id, (∀ delete ∈ deletes, delete.id ≠ id) →
      store'.entities.lookup (.bitcoinWalletChangeSet, id) =
        store.entities.lookup (.bitcoinWalletChangeSet, id) := fun id hid =>
    hbatched.lookup_ne (fun save hsave => by cases hsave) hid
  refine ⟨?_, hr.fits, ?_, ?_, ?_, ?_⟩
  · rw [hbatched.unlocked]
    exact hunlocked
  · rw [hbatched.lookup_kind (by decide)]
    exact hr.snapshot
  · intro id row hstarts hrow
    by_cases hid : ∀ delete ∈ deletes, delete.id ≠ id
    · rw [hkept id hid] at hrow
      exact hr.rows id row hstarts hrow
    · obtain ⟨delete, hdelete, rfl⟩ : ∃ delete ∈ deletes, delete.id = id := by
        simpa using hid
      rw [(hbatched.deleted delete hdelete).2.2] at hrow
      cases hrow
  · intro hlog
    rw [hkept]
    · exact hr.head hlog
    · intro delete hdelete hid
      obtain ⟨s, -, hs⟩ := hdeletes delete hdelete
      exact journalId_ne_journalHeadId (hs.symm.trans hid)
  · intro s hlater hle
    rw [hkept]
    · exact hr.live s hlater hle
    · intro delete hdelete hid
      obtain ⟨s', hs', hid'⟩ := hdeletes delete hdelete
      rw [journalId_inj (hid'.symm.trans hid)] at hs'
      omega

variable [DecidableEq D] [DecidableEq R]

theorem journalSaves_eq_ok (hsaves : journalSaves persister state c = .ok (next, saves)) :
    c ≠ .default ∧ next.toNat = state.nextSequence.toNat + 1 ∧
      saves = [⟨journalHeadId (accountCommitment persister.accountId), state.journalHeadRevision,
          headRecord (accountCommitment persister.accountId) next, persister.nowUnix⟩,
        ⟨journalId (accountCommitment persister.accountId) state.nextSequence, 0,
          changeSetRecord (accountCommitment persister.accountId) state.nextSequence c,
          persister.nowUnix⟩] := by
  simp only [journalSaves, ok_iff] at hsaves
  obtain ⟨_, hvalid, next', hnext, _, -, hret⟩ := hsaves
  cases hret
  exact ⟨(validate_changeSetRecord.1 hvalid).2, checkedAdd_eq_some.1 hnext, rfl⟩

theorem Represents.commit (hr : Represents accountId h store) (hknows : Knows h state m)
    (haccount : persister.accountId = accountId) {u : Unit}
    (hreject : rejectImmutableChanges state.aggregate c = .ok u)
    {saves : List (EntityBatchSave (StoredBdkWalletJournalRecord D R))}
    (hsaves : journalSaves persister state c = .ok (next, saves))
    (hbatch : store.applyEntityBatch .bitcoinWalletChangeSet saves [] = .ok store')
    (hfirst : h.log = [] → c.Complete) :
    m = h.log.length ∧ ∃ hc hpinned, Represents accountId (h.commit c hc hpinned) store' := by
  subst haccount
  obtain ⟨hdefault, hnext, rfl⟩ := journalSaves_eq_ok hsaves
  obtain ⟨hunlocked, hbatched⟩ := applyEntityBatch_batched hbatch
  obtain ⟨hexpected, headRevision, hheadRevision, hheadRow⟩ :=
    hbatched.saved _ List.mem_cons_self
  obtain ⟨-, revision, hrevision, hrow⟩ :=
    hbatched.saved _ (List.mem_cons_of_mem _ List.mem_cons_self)
  have hm : m = h.log.length := by
    rw [← hr.entityRevision_head, hexpected, hknows.journalHeadRevision]
  have hone : revision = 1 := UInt64.toNat_inj.1 hrevision
  subst hone
  subst hm
  simp only at hheadRevision hheadRow hrow
  rw [hknows.journalHeadRevision] at hheadRevision
  have hsequence := hknows.nextSequence
  rw [hsequence] at hnext
  have haggregate := hknows.aggregate
  rw [List.take_length] at haggregate
  have hpinned : ChangeSet.Pinned (h.log ++ [c]) := by
    refine h.pinned.append hfirst fun hne => ?_
    rw [← haggregate]
    exact within_of_rejectImmutableChanges hreject (haggregate ▸ h.pinned.complete hne)
  have hothers : ∀ id, id ≠ journalHeadId (accountCommitment persister.accountId) →
      id ≠ journalId (accountCommitment persister.accountId) state.nextSequence →
      store'.entities.lookup (.bitcoinWalletChangeSet, id) =
        store.entities.lookup (.bitcoinWalletChangeSet, id) := by
    intro id hhead hid
    refine hbatched.lookup_ne (fun save hsave => ?_) fun delete hdelete => by cases hdelete
    rcases List.mem_cons.1 hsave with rfl | hsave
    · exact hhead.symm
    · rw [List.mem_singleton.1 hsave]
      exact hid.symm
  refine ⟨rfl, hdefault, hpinned, ?_, ?_, ?_, ?_, ?_, ?_⟩
  · rw [hbatched.unlocked]
    exact hunlocked
  · have := next.toNat_lt_size
    rw [History.commit, List.length_append, List.length_singleton]
    omega
  · rw [hbatched.lookup_kind (by decide)]
    simp only [History.commit, List.take_append_of_le_length h.compacted_le]
    exact hr.snapshot
  · intro id row hstarts hlookup
    by_cases hhead : id = journalHeadId (accountCommitment persister.accountId)
    · subst hhead
      cases hlookup.symm.trans hheadRow
      refine .head (by simp [History.commit]) ?_ ?_
      · rw [hheadRevision]
        simp [History.commit]
      · rw [hnext]
        simp [History.commit]
    · by_cases hid : id = journalId (accountCommitment persister.accountId) state.nextSequence
      · subst hid
        cases hlookup.symm.trans hrow
        refine .changeSet ?_ ?_
        · intro hzero
          rw [hzero] at hsequence
          cases hsequence
        · rw [hsequence]
          simp [History.commit]
      · rw [hothers id hhead hid] at hlookup
        cases hr.rows id row hstarts hlookup with
        | head => exact absurd rfl hhead
        | changeSet hs hc =>
          refine .changeSet hs ?_
          rw [History.commit, List.getElem?_append_left (List.getElem?_eq_some_iff.1 hc).1]
          exact hc
  · intro _
    rw [hheadRow]
    rfl
  · intro s hlater hle
    rw [History.commit, List.length_append, List.length_singleton] at hle
    by_cases hs : s = state.nextSequence
    · rw [hs, hrow]
      rfl
    · rw [hothers _ journalId_ne_journalHeadId fun hid => hs (journalId_inj hid)]
      refine hr.live s hlater ?_
      have : s.toNat ≠ state.nextSequence.toNat := fun heq => hs (UInt64.toNat_inj.1 heq)
      omega

/-! ## What the calls do -/

theorem Represents.exists_commit (hr : Represents accountId h store)
    (hknows : Knows h state h.log.length) (haccount : persister.accountId = accountId)
    (hsaves : journalSaves persister state c = .ok (next, saves))
    (hsize : ∀ value : V, Encoded.length value ≠ 0 ∧ Encoded.length value ≤ maxStateBytes) :
    ∃ store', store.applyEntityBatch .bitcoinWalletChangeSet saves [] = .ok store' := by
  subst haccount
  obtain ⟨-, -, hlist⟩ := journalSaves_eq_ok hsaves
  have hhead : store.entityRevision .bitcoinWalletChangeSet
      (journalHeadId (accountCommitment persister.accountId)) = state.journalHeadRevision :=
    UInt64.toNat_inj.1 (hr.entityRevision_head.trans hknows.journalHeadRevision.symm)
  have hrow : store.entityRevision .bitcoinWalletChangeSet
      (journalId (accountCommitment persister.accountId) state.nextSequence) = 0 := by
    unfold WalletStore.entityRevision
    cases hlookup : store.entities.lookup (.bitcoinWalletChangeSet,
        journalId (accountCommitment persister.accountId) state.nextSequence) with
    | none => rfl
    | some row =>
      have hjournal := hr.rows _ row prefix_journalId hlookup
      generalize hid : journalId (accountCommitment persister.accountId) state.nextSequence = id
        at hjournal
      cases hjournal with
      | head => exact absurd hid journalId_ne_journalHeadId
      | changeSet hs hc =>
        have hlt := (List.getElem?_eq_some_iff.1 hc).1
        rw [← journalId_inj hid, hknows.nextSequence] at hlt
        omega
  obtain ⟨headNext, hheadNext⟩ : ∃ n, WalletStore.nextRevision state.journalHeadRevision =
    .ok n := by
    have hfits := hr.fits
    have hvalue := hknows.journalHeadRevision
    have hnext : (UInt64.ofNat (h.log.length + 1)).toNat = h.log.length + 1 :=
      UInt64.toNat_ofNat_of_lt hfits
    refine ⟨.ofNat (h.log.length + 1), nextRevision_eq_ok.2 ?_⟩
    rw [hnext, hvalue]
  have hne : journalId (accountCommitment persister.accountId) state.nextSequence ∉
      [journalHeadId (accountCommitment persister.accountId)] := by
    rw [List.mem_singleton]
    exact journalId_ne_journalHeadId
  have hlength : ∀ value : V, ¬ (Encoded.length value = 0 ∨ maxStateBytes < Encoded.length value) :=
    fun value hbad => hbad.elim (hsize value).1 (Nat.not_lt.2 (hsize value).2)
  have hkey : store.requireKey = .ok () := requireKey_eq_ok.2 hr.unlocked
  have hzero : WalletStore.nextRevision 0 = .ok 1 := rfl
  cases hbatch : store.applyEntityBatch .bitcoinWalletChangeSet saves [] with
  | ok store' => exact ⟨store', rfl⟩
  | error e =>
    simp [hlist, WalletStore.applyEntityBatch, WalletStore.prepareEntityBatch,
      WalletStore.prepareSaves, WalletStore.prepareDeletes,
      WalletStore.applyEntityBatchInTransaction, WalletStore.authenticateEntityBatch,
      WalletStore.authenticateSaves, WalletStore.authenticateDeletes, validateId_journalHeadId,
      validateId_journalId, hhead, hrow, hheadNext, hzero, hkey, WalletStore.requireRevision,
      refuseIf, hne, hlength, bind, Except.bind, pure, Except.pure, maxEntityBatchOperations]
      at hbatch

variable [MergesOnce R]

section

variable (haccount : persister.accountId = accountId)
include haccount

omit [DecidableEq D] [DecidableEq R] in
theorem follows_prune (hknows : KnowsState h persister.state) (habsorbs : ChangeSet.Absorbs h.log c)
    (hthrough : through.toNat ≤ h.compacted) :
    (journalProtocol (V := V) accountId).Follows (Returned accountId c) h
      (prune persister through) := by
  refine Protocol.follows_read fun h₁ hle₁ store hr => ?_
  have hdone : Returned accountId c h₁ (persister, .ok ()) :=
    Returned.mono hle₁ ⟨haccount, hknows, fun _ => habsorbs⟩
  cases hlist : store.listEntitiesByIdPrefix (StoredBdkWalletJournalRecord D R)
      .bitcoinWalletChangeSet (accountCommitment persister.accountId).toList
      (maxBdkWalletChangesetRecords + 2) with
  | error e => exact follows_fail haccount hdone.knows
  | ok listed =>
    simp only
    split
    next => exact hdone
    next =>
      have hdeletes : ∀ delete ∈ redundantDeletes through listed, ∃ s : UInt64,
          s.toNat ≤ h₁.compacted ∧
            delete.id = journalId (accountCommitment accountId) s := by
        intro delete hdelete
        obtain ⟨record, hrecord, rfl⟩ := List.mem_map.1 hdelete
        obtain ⟨hlisted, hsequence⟩ := List.mem_filter.1 hrecord
        rw [haccount] at hlist
        rcases hr.listed_cases hlist hlisted with ⟨-, _, _, _, -, -, rfl⟩ |
          ⟨s, _, _, -, -, rfl⟩
        · cases hsequence
        · have hle := UInt64.le_iff_toNat_le.1 (of_decide_eq_true hsequence)
          exact ⟨s, (hle.trans hthrough).trans hle₁.2.2.2, rfl⟩
      refine Protocol.follows_attempt (fun h₂ hle₂ _ _ e _ => ?_)
        fun h₂ hle₂ store₂ hr₂ _ store₃ u hbatch => ?_
      · exact follows_fail haccount (hdone.knows.mono hle₂)
      · obtain ⟨written, hwritten, hret⟩ := map_eq_ok.1 hbatch
        cases hret
        refine ⟨h₂, (journalProtocol accountId).extends_refl h₂, ?_, hdone.mono hle₂⟩
        refine hr₂.prune (fun delete hdelete => ?_) hwritten
        obtain ⟨s, hs, hid⟩ := hdeletes delete hdelete
        exact ⟨s, hs.trans hle₂.2.2.2, hid⟩

omit [DecidableEq D] [DecidableEq R] in
theorem follows_compact (hknows : KnowsState h persister.state)
    (habsorbs : ChangeSet.Absorbs h.log c) :
    (journalProtocol (V := V) accountId).Follows (Returned accountId c) h
      (compact persister) := by
  unfold compact
  cases hstate : persister.state with
  | uninitialized => exact follows_fail haccount hknows
  | initialized state =>
    have hdone : Returned accountId c h (persister, .ok ()) := ⟨haccount, hknows, fun _ => habsorbs⟩
    rw [hstate] at hknows
    obtain ⟨m, hm⟩ := hknows
    simp only
    split
    next => exact hdone
    next =>
      split
      next => exact follows_fail haccount hdone.knows
      next through hthrough =>
        have hthrough : through.toNat = m := by
          have hsub := checkedSub_eq_some.1 hthrough
          have hone : (1 : UInt64).toNat = 1 := rfl
          have hnext := hm.nextSequence
          omega
        split
        next => exact follows_fail haccount hdone.knows
        next snapshot hsnapshot =>
          refine Protocol.follows_attempt (fun h₁ hle₁ _ _ e _ => ?_)
            fun h₁ hle₁ store hr _ store' revision hsave => ?_
          · exact follows_fail haccount (hdone.knows.mono hle₁)
          · rw [haccount] at hsave
            have hm₁ := hm.mono hle₁
            obtain ⟨hcovers, hrevision, hr'⟩ := hr.saveSnapshot hm₁ hthrough hsnapshot hsave
            have hle₂ : h₁ ≤ h₁.compactTo m hm₁.le_length := History.le_compactTo hcovers
            refine ⟨_, ⟨hle₂, by simp [History.compactTo], fun _ _ hevent => by cases hevent⟩, hr',
              ?_⟩
            apply follows_prune
            · exact haccount
            · exact ⟨m, hm₁.le_length, hm₁.nextSequence, hm₁.journalHeadRevision, hm₁.aggregate,
                hm₁.hadPersistedState, hrevision.le, fun _ => le_refl m⟩
            · exact habsorbs.mono (History.pinned _) (h.log_initial (hle₁.trans hle₂))
            · exact hthrough.le

omit [Encoded V] in
theorem follows_acceptExactRetry (hid : validateId accountId = .ok ())
    (hknows : KnowsState h persister.state) {sequence : UInt64} {aggregate : ChangeSet D R}
    {had : Bool} {stale : StoreError} :
    (journalProtocol (V := V) accountId).Follows (Returned accountId c) h
      (acceptExactRetry persister sequence c (aggregate * c) had stale) := by
  unfold acceptExactRetry
  split
  next => exact follows_fail haccount hknows
  next =>
    refine Protocol.follows_read fun h₁ hle₁ store hr => ?_
    have hknows₁ := hknows.mono hle₁
    split
    next => exact follows_fail haccount hknows₁
    next => exact follows_fail haccount hknows₁
    next stored =>
      split
      next => exact follows_fail haccount hknows₁
      next =>
        split
        next => exact follows_fail haccount hknows₁
        next =>
          split
          next => exact follows_fail haccount hknows₁
          next =>
            refine Protocol.follows_read fun h₂ hle₂ store₂ hr₂ => ?_
            have hknows₂ := hknows₁.mono hle₂
            split
            next => exact follows_fail haccount hknows₂
            next => exact follows_fail haccount hknows₂
            next loaded hloaded =>
              rw [haccount] at hloaded
              have hm := hr₂.knows_of_loadState hid hloaded
              split
              next => exact follows_fail haccount hknows₂
              next hsame =>
                refine ⟨haccount, ⟨_, hm⟩, fun _ => ?_⟩
                -- Nothing came after the changeset, so merging it once more adds nothing.
                have hprod : h₂.log.prod = aggregate * c := by
                  rw [← not_not.1 hsame, hm.aggregate, List.take_length]
                unfold ChangeSet.Absorbs
                rw [hprod, ChangeSet.mul_mul_self]

theorem follows_persist (hid : validateId accountId = .ok ())
    (hknows : KnowsState h persister.state) :
    (journalProtocol (V := V) accountId).Follows (Returned accountId c) h
      (persist persister c) := by
  unfold persist
  cases hstate : persister.state with
  | uninitialized => exact follows_fail haccount hknows
  | initialized state =>
    have hknows' := hknows
    rw [hstate] at hknows'
    obtain ⟨m, hm⟩ := hknows'
    simp only
    split
    next => exact follows_fail haccount hknows
    next hreject =>
      split
      next hsame =>
        refine ⟨haccount, hknows, fun _ => ?_⟩
        rw [ChangeSet.merge_eq_mul, hm.aggregate] at hsame
        exact ChangeSet.Absorbs.mono hsame h.pinned <| List.take_prefix _ _
      next =>
        split
        next => exact follows_fail haccount hknows
        next next saves hsaves =>
          refine Protocol.follows_attempt (fun h₁ hle₁ _ _ e _ => ?_)
            fun h₁ hle₁ store hr hallowed store' u hbatch => ?_
          · have hknows₁ := hknows.mono hle₁
            cases e with
            | staleRevision expected actual =>
              exact follows_acceptExactRetry haccount hid hknows₁
            | _ => exact follows_fail haccount hknows₁
          · obtain ⟨written, hwritten, hret⟩ := map_eq_ok.1 hbatch
            cases hret
            have hm₁ := hm.mono hle₁
            obtain ⟨rfl, hc, hpinned, hr'⟩ := hr.commit hm₁ haccount hreject hsaves hwritten
              (hallowed _ _ rfl)
            refine ⟨h₁.commit c hc hpinned, ⟨History.le_commit, by simp [History.commit], ?_⟩, hr',
              ?_⟩
            · rintro s c' hevent
              cases hevent
              exact hm₁.nextSequence
            · simp only
              have hknows₂ : KnowsState (h₁.commit c hc hpinned) persister.state :=
                hknows.mono (hle₁.trans History.le_commit)
              have hprod : (h₁.log ++ [c]).prod = state.aggregate * c := by
                rw [List.prod_append, List.prod_singleton, hm₁.aggregate, List.take_length]
              split
              next => exact follows_fail haccount hknows₂
              next persister' hcommitted =>
                simp only [committed, ok_iff] at hcommitted
                obtain ⟨headRevision, hheadRevision, hret⟩ := hcommitted
                cases hret
                have hvalue := checkedAdd_eq_some.1 hheadRevision
                have hlength : (h₁.commit c hc hpinned).log.length = h₁.log.length + 1 := by
                  simp [History.commit]
                refine follows_compact haccount ⟨h₁.log.length + 1, ?_⟩ ?_
                · refine ⟨hlength.ge, ?_, ?_, ?_, ?_, hm₁.snapshotRevision_le, fun heq => ?_⟩
                  · simp only
                    rw [(journalSaves_eq_ok hsaves).2.1, hm₁.nextSequence]
                  · simp only
                    rw [hvalue, hm₁.journalHeadRevision]
                    rfl
                  · rw [← hlength, List.take_length]
                    exact hprod.symm
                  · simp
                  · exact (hm₁.covers heq).trans (Nat.le_succ _)
                · unfold ChangeSet.Absorbs
                  rw [show (h₁.commit c hc hpinned).log = h₁.log ++ [c] from rfl, hprod,
                    ChangeSet.mul_mul_self]

end

namespace System

variable (accountId : RecordId)

inductive Step : System D R V → Label D R → System D R V → Prop where
  | opened {s i nowUnix persister} (hnew : BdkWalletStorePersister.new accountId nowUnix =
      .ok persister) :
      Step s (.opened i) (s.set i (some (.idle persister)))
  | initialized {s : System D R V} {i persister} (hidle : s.instances i = some (.idle persister)) :
      Step s (.initialized i (initializePersister s.store persister).2)
        (s.set i (some (.idle (initializePersister s.store persister).1)))
  | called {s : System D R V} {i persister} (nowUnix changeset)
      (hidle : s.instances i = some (.idle persister)) :
      Step s (.called i changeset) (s.set i (some (.persisting changeset false
        (persist { persister with nowUnix } changeset))))
  | transacted {s : System D R V} {i changeset committed effect next}
      (hcall : s.instances i = some (.persisting changeset committed (.transact effect next))) :
      Step s (.transacted i (effect s.store).2)
        { (s.set i (some (.persisting changeset (committed || (effect s.store).2.isSome)
            (next s.store)))) with store := (effect s.store).1 }
  | returned {s : System D R V} {i changeset committed persister result}
      (hcall : s.instances i = some (.persisting changeset committed (.done (persister, result)))) :
      Step s (.returned i changeset committed result) (s.set i (some (.idle persister)))
  | crashed {s : System D R V} {i} : Step s (.crashed i) (s.set i none)

structure Fresh (s : System D R V) : Prop where
  unlocked : s.store.unlocked
  snapshot : s.store.entities.lookup (.bitcoinWalletState, accountId) = none
  journal : ∀ id, (accountCommitment accountId).toList <+: id →
    s.store.entities.lookup (.bitcoinWalletChangeSet, id) = none
  instances : ∀ i, s.instances i = none

def Sound (h : History D R) : Instance D R V → Prop
  | .idle persister => persister.accountId = accountId ∧ KnowsState h persister.state
  | .persisting changeset _ call =>
    (journalProtocol accountId).Follows (Returned accountId changeset) h call

structure After (ls : List (Label D R)) (h : History D R) (s : System D R V) : Prop where
  represents : Represents accountId h s.store
  accepted : (ls.filterMap Label.accepted).prod = h.log.prod
  committed : (ls.filterMap Label.committed).map Prod.snd = h.log
  sequences : (ls.filterMap Label.committed).map (fun commit => commit.1.toNat) =
    List.range' 1 h.log.length
  instances : ∀ i x, s.instances i = some x → validateId accountId = .ok () ∧ Sound accountId h x

variable {accountId} {s s' : System D R V} {ls : List (Label D R)} {l : Label D R}

omit [DecidableEq D] [DecidableEq R] [Encoded V] [MergesOnce R] in
theorem after_nil (hfresh : Fresh accountId s) : After accountId [] History.empty s where
  represents := by
    refine ⟨hfresh.unlocked, by show 0 + 1 < UInt64.size; decide,
      .inl ⟨rfl, rfl, hfresh.snapshot⟩, ?_, ?_, ?_⟩
    · intro id row hstarts hrow
      rw [hfresh.journal id hstarts] at hrow
      cases hrow
    · exact fun hlog => absurd rfl hlog
    · intro s hlater hle
      exact absurd (Nat.lt_of_lt_of_le hlater hle) (Nat.lt_irrefl 0)
  accepted := rfl
  committed := rfl
  sequences := rfl
  instances := by
    intro i x hx
    rw [hfresh.instances i] at hx
    cases hx

omit [DecidableEq D] [DecidableEq R] [Encoded V] in
theorem Sound.mono {x : Instance D R V} (hsound : Sound accountId h x) (hle : h ≤ h') :
    Sound accountId h' x := by
  cases x with
  | idle persister => exact ⟨hsound.1, hsound.2.mono hle⟩
  | persisting changeset committed call => exact Protocol.Follows.mono Returned.mono hle hsound

omit [DecidableEq D] [DecidableEq R] [Encoded V] [MergesOnce R] in
theorem After.set (hafter : After accountId ls h s) {i : Nat} {x : Option (Instance D R V)}
    (hx : ∀ y ∈ x, validateId accountId = .ok () ∧ Sound accountId h y)
    (hcommitted : l.committed = none) (haccepted : ∀ c ∈ l.accepted, ChangeSet.Absorbs h.log c) :
    After accountId (ls ++ [l]) h (s.set i x) where
  represents := hafter.represents
  accepted := by
    rw [List.filterMap_append, List.prod_append, hafter.accepted]
    cases hl : l.accepted with
    | none => simp [hl]
    | some c =>
      rw [List.filterMap_cons, hl, List.filterMap_nil, List.prod_singleton]
      exact haccepted c hl
  committed := by
    simp only [List.filterMap_append, List.filterMap_cons, hcommitted, List.filterMap_nil,
      List.append_nil]
    exact hafter.committed
  sequences := by
    simp only [List.filterMap_append, List.filterMap_cons, hcommitted, List.filterMap_nil,
      List.append_nil]
    exact hafter.sequences
  instances := by
    intro j y hy
    by_cases hj : j = i
    · subst hj
      simp only [System.set, Function.update_self] at hy
      exact hx y hy
    · simp only [System.set, Function.update_of_ne hj] at hy
      exact hafter.instances j y hy

omit [Encoded V] [MergesOnce R] in
theorem knowsState_initializePersister (hr : Represents accountId h s.store)
    (hid : validateId accountId = .ok ()) (haccount : persister.accountId = accountId) :
    (initializePersister s.store persister).1.accountId = accountId ∧
      KnowsState h (initializePersister s.store persister).1.state := by
  unfold initializePersister
  split
  next => exact ⟨haccount, trivial⟩
  next => exact ⟨haccount, trivial⟩
  next state hload =>
    rw [haccount] at hload
    exact ⟨haccount, _, hr.knows_of_loadState hid hload⟩

theorem After.step (hafter : After accountId ls h s) (hstep : Step accountId s l s')
    (hfirst : h.log = [] → ∀ commit ∈ l.committed, commit.2.Complete) :
    ∃ h', After accountId (ls ++ [l]) h' s' := by
  cases hstep with
  | @opened i nowUnix persister hnew =>
    refine ⟨h, hafter.set (fun y hy => ?_) rfl fun c hc => by cases hc⟩
    cases hy
    simp only [BdkWalletStorePersister.new, ok_iff] at hnew
    obtain ⟨_, hvalid, hret⟩ := hnew
    cases hret
    refine ⟨?_, rfl, trivial⟩
    rw [validateId, refuseIf_eq_ok]
    exact hvalid
  | @initialized i persister hidle =>
    obtain ⟨hid, hsound⟩ := hafter.instances i _ hidle
    refine ⟨h, hafter.set (fun y hy => ?_) rfl fun c hc => by cases hc⟩
    cases hy
    exact ⟨hid, knowsState_initializePersister hafter.represents hid hsound.1⟩
  | @called i persister nowUnix changeset hidle =>
    obtain ⟨hid, haccount, hknows⟩ := hafter.instances i _ hidle
    refine ⟨h, hafter.set (fun y hy => ?_) rfl fun c hc => by cases hc⟩
    cases hy
    refine ⟨hid, ?_⟩
    apply follows_persist
    · exact haccount
    · exact hid
    · exact hknows
  | @transacted i changeset committed effect next hcall =>
    obtain ⟨hid, hsound⟩ := hafter.instances i _ hcall
    obtain ⟨h', ⟨hle, hlog, hsequence⟩, hr', hnext⟩ := hsound h (le_refl h) s.store
      hafter.represents fun sequence c hevent hnil => hfirst hnil (sequence, c) hevent
    refine ⟨h', hr', ?_, ?_, ?_, ?_⟩
    · rw [List.filterMap_append, List.prod_append, hafter.accepted, hlog, List.prod_append]
      cases hevent : (effect s.store).2 with
      | none => rfl
      | some commit => rfl
    · rw [List.filterMap_append, List.map_append, hafter.committed, hlog]
      cases hevent : (effect s.store).2 with
      | none => simp [Label.committed]
      | some commit => simp [Label.committed]
    · rw [List.filterMap_append, List.map_append, hafter.sequences, hlog]
      cases hevent : (effect s.store).2 with
      | none => simp [Label.committed]
      | some commit =>
        have hvalue := hsequence commit.1 commit.2 hevent
        simp [Label.committed, hvalue, List.range'_concat, Nat.add_comm]
    · intro j y hy
      by_cases hj : j = i
      · subst hj
        simp only [System.set, Function.update_self] at hy
        cases hy
        exact ⟨hid, hnext⟩
      · simp only [System.set, Function.update_of_ne hj] at hy
        obtain ⟨hid', hsound'⟩ := hafter.instances j y hy
        exact ⟨hid', hsound'.mono hle⟩
  | @returned i changeset committed persister result hcall =>
    obtain ⟨hid, hreturned⟩ := hafter.instances i _ hcall
    refine ⟨h, hafter.set (fun y hy => ?_) rfl fun c hc => ?_⟩
    · cases hy
      exact ⟨hid, hreturned.account, hreturned.knows⟩
    · unfold Label.accepted at hc
      split at hc
      next heq => cases heq
      next heq =>
        cases heq
        cases hc
        exact hreturned.absorbs rfl
      next => cases hc
  | crashed =>
    exact ⟨h, hafter.set (fun y hy => by cases hy) rfl fun c hc => by cases hc⟩

theorem exists_after {s₀ : System D R V} (hfresh : Fresh accountId s₀)
    (hrun : Run (Step accountId) s₀ ls s) (hfirst : FirstComplete ls) :
    ∃ h, After accountId ls h s := by
  induction hrun with
  | refl => exact ⟨_, after_nil hfresh⟩
  | @snoc ls l t u _ hstep ih =>
    obtain ⟨h, hafter⟩ := ih hfirst.of_append
    refine hafter.step hstep fun hlog commit hcommit => hfirst commit ?_
    have hnil : ls.filterMap Label.committed = [] := by
      rw [← List.map_eq_nil_iff, hafter.committed, hlog]
    rw [List.filterMap_append, hnil, List.nil_append, List.filterMap_cons, hcommit]
    rfl

/-- For every run of any number of persisters on an account that was not used before,
in which the first commit names the wallet: as long as the journal has not more rows
than are read, it is read as the merge of what was accepted, in its order, and what is
read is never anything else; there is at most one row for each commit, and the head;
sequence numbers are given out one after the other, so that none is used twice; and
descriptors and network stay as they were. -/
theorem journal_is_merge_of_accepted {s₀ : System D R V} (hfresh : Fresh accountId s₀)
    (hrun : Run (Step accountId) s₀ ls s) (hfirst : FirstComplete ls) :
    (∀ persister : BdkWalletStorePersister D R, persister.accountId = accountId →
      validateId accountId = .ok () →
      ((s.store.entitiesByIdPrefix .bitcoinWalletChangeSet
          (accountCommitment accountId).toList).length ≤ maxBdkWalletChangesetRecords + 1 →
        (initializePersister s.store persister).2 = .ok (ls.filterMap Label.accepted).prod) ∧
      ∀ c, (initializePersister s.store persister).2 = .ok c →
        c = (ls.filterMap Label.accepted).prod) ∧
    (s.store.entitiesByIdPrefix .bitcoinWalletChangeSet
      (accountCommitment accountId).toList).length ≤ (ls.filterMap Label.committed).length + 1 ∧
    (ls.filterMap Label.committed).map (fun commit => commit.1.toNat) =
      List.range' 1 (ls.filterMap Label.committed).length ∧
    ∀ ms ms', ls = ms ++ ms' → ChangeSet.Within (ms.filterMap Label.accepted).prod
      (ls.filterMap Label.accepted).prod := by
  obtain ⟨h, hafter⟩ := exists_after hfresh hrun hfirst
  refine ⟨fun persister haccount hid => ⟨fun hrows => ?_, fun c hc => ?_⟩, ?_, ?_, ?_⟩
  · obtain ⟨state, hload, hknows⟩ := hafter.represents.loadState_eq hid hrows
    rw [← haccount] at hload
    rw [initializePersister, hload, hafter.accepted]
    simp only
    rw [hknows.aggregate, List.take_length]
  · unfold initializePersister at hc
    split at hc
    next => cases hc
    next => cases hc
    next state hload =>
      cases hc
      rw [haccount] at hload
      rw [hafter.accepted, (hafter.represents.knows_of_loadState hid hload).aggregate,
        List.take_length]
  · have hrows := hafter.represents.length_rows_le
    rwa [← hafter.committed, List.length_map] at hrows
  · rw [hafter.sequences, ← hafter.committed, List.length_map]
  · rintro ms ms' rfl
    obtain ⟨t, hrun₁, -⟩ := Run.append_iff.1 hrun
    obtain ⟨h₁, hafter₁⟩ := exists_after hfresh hrun₁ hfirst.of_append
    rw [hafter₁.accepted, hafter.accepted]
    by_cases hlog : h₁.log = []
    · rw [hlog]
      exact .one
    · have hstarts : h₁.log <+: h.log := by
        rw [← hafter₁.committed, ← hafter.committed, List.filterMap_append, List.map_append]
        exact List.prefix_append _ _
      exact (h.pinned.samePins_of_initial hstarts hlog).symm.within (.refl _)

end System

end BdkWalletStorePersister

namespace Sample

open BdkWalletStorePersister

/-! ## Persisters that die right after their commits -/

structure JournalHeight where
  height : Nat
deriving DecidableEq

instance journalHeightMonoid : Monoid JournalHeight where
  mul a b := ⟨max a.height b.height⟩
  one := ⟨0⟩
  mul_assoc a b c := congrArg JournalHeight.mk (Nat.max_assoc ..)
  one_mul a := congrArg JournalHeight.mk (Nat.zero_max ..)
  mul_one a := congrArg JournalHeight.mk (Nat.max_zero ..)

theorem journalHeight_mul (a b : JournalHeight) : (a * b).height = max a.height b.height := rfl

instance journalHeightMergesOnce : MergesOnce JournalHeight where
  mul_mul_left a b := by
    apply congrArg JournalHeight.mk
    rw [journalHeight_mul, Nat.max_right_comm, Nat.max_self]

inductive JournalValue where
  | state (state : StoredBdkWalletState Unit JournalHeight)
  | record (record : StoredBdkWalletJournalRecord Unit JournalHeight)

instance journalEncoded : Encoded JournalValue := ⟨fun _ => 1⟩

instance journalStateSerde : Serde JournalValue (StoredBdkWalletState Unit JournalHeight) where
  toVec := .state
  fromSlice
    | .state state => some state
    | .record _ => none
  fromSlice_toVec _ := rfl

instance journalRecordSerde :
    Serde JournalValue (StoredBdkWalletJournalRecord Unit JournalHeight) where
  toVec := .record
  fromSlice
    | .state _ => none
    | .record record => some record
  fromSlice_toVec _ := rfl

@[reducible] def journalSha256 : Sha256 := ⟨fun _ => Bytes.replicate 32 0⟩

attribute [local instance] journalSha256

def journalAccountId : RecordId := [1]

def journalStart : System Unit JournalHeight JournalValue :=
  ⟨⟨true, ∅, ∅, ∅⟩, fun _ => none⟩

def journalChange (n : Nat) : ChangeSet Unit JournalHeight :=
  ⟨some (), some (), some .regtest, ⟨n + 1⟩⟩

theorem journalStart_fresh : System.Fresh journalAccountId journalStart where
  unlocked := rfl
  snapshot := rfl
  journal _ _ := rfl
  instances _ := rfl

theorem journalChange_complete (n : Nat) : (journalChange n).Complete := ⟨rfl, rfl, rfl⟩

theorem journalChange_ne_default (n : Nat) : journalChange n ≠ .default := by
  intro h
  cases congrArg ChangeSet.descriptor h

theorem journalChanges_pinned (n : Nat) :
    ChangeSet.Pinned ((List.range n).map journalChange) := by
  intro first hfirst
  obtain ⟨i, -, rfl⟩ := List.mem_map.1 (List.mem_of_mem_head? hfirst)
  refine ⟨journalChange_complete i, fun c hc => ?_⟩
  obtain ⟨j, -, rfl⟩ := List.mem_map.1 hc
  exact ⟨fun d hd => hd, fun d hd => hd, fun d hd => hd⟩

theorem journalChanges_succ (n : Nat) :
    (List.range (n + 1)).map journalChange = (List.range n).map journalChange ++
      [journalChange n] := by
  rw [List.range_succ, List.map_append]
  rfl

theorem journalChanges_height (n : Nat) : ((List.range n).map journalChange).prod.rest = ⟨n⟩ := by
  induction n with
  | zero => rfl
  | succ n ih =>
    rw [journalChanges_succ, List.prod_append, List.prod_singleton, ChangeSet.mul_rest, ih]
    exact congrArg JournalHeight.mk (Nat.max_eq_right (Nat.le_succ n))

def journalHistory (n : Nat) : History Unit JournalHeight where
  log := (List.range n).map journalChange
  compacted := 0
  snapshotRevision := 0
  pinned := journalChanges_pinned n
  filled := by
    intro c hc
    obtain ⟨i, -, rfl⟩ := List.mem_map.1 hc
    exact journalChange_ne_default i
  compacted_le := Nat.zero_le _

theorem journalHistory_length (n : Nat) : (journalHistory n).log.length = n := by
  simp [journalHistory]

theorem journalHistory_succ (n : Nat) {hc : journalChange n ≠ .default}
    {hpinned : ChangeSet.Pinned ((journalHistory n).log ++ [journalChange n])} :
    (journalHistory n).commit (journalChange n) hc hpinned = journalHistory (n + 1) := by
  simp only [History.commit, journalHistory, ← journalChanges_succ]

structure JournalCut (n : Nat) (ls : List (Label Unit JournalHeight))
    (s : System Unit JournalHeight JournalValue) : Prop where
  run : Run (System.Step journalAccountId) journalStart ls s
  represents : Represents journalAccountId (journalHistory n) s.store
  committed : (ls.filterMap Label.committed).map Prod.snd = (List.range n).map journalChange
  accepted : ls.filterMap Label.accepted = (List.range n).map journalChange
  instances : ∀ i, s.instances i = none

variable {n : Nat}

theorem JournalCut.length_rows {ls : List (Label Unit JournalHeight)}
    {s : System Unit JournalHeight JournalValue} (h : JournalCut (n + 1) ls s) :
    (s.store.entitiesByIdPrefix .bitcoinWalletChangeSet
      (accountCommitment journalAccountId).toList).length = n + 2 := by
  rw [h.represents.length_rows rfl]
  · rw [journalHistory_length]
  · rw [Ne, ← List.length_eq_zero_iff, journalHistory_length]
    exact Nat.succ_ne_zero n

theorem journalCut_zero : JournalCut 0 [] journalStart where
  run := .refl
  represents := (System.after_nil journalStart_fresh).represents
  committed := rfl
  accepted := rfl
  instances _ := rfl

theorem JournalCut.length_rows_le {ls : List (Label Unit JournalHeight)}
    {s : System Unit JournalHeight JournalValue} (h : JournalCut n ls s)
    (hn : n ≤ maxBdkWalletChangesetRecords) :
    (s.store.entitiesByIdPrefix .bitcoinWalletChangeSet
      (accountCommitment journalAccountId).toList).length ≤ maxBdkWalletChangesetRecords + 1 := by
  have hrows := h.represents.length_rows_le
  rw [journalHistory_length] at hrows
  omega

theorem journal_persist_eq {state : InitializedState Unit JournalHeight}
    {persister : BdkWalletStorePersister Unit JournalHeight} (hn : n ≤ maxBdkWalletChangesetRecords)
    (hknows : Knows (journalHistory n) state n) (hstate : persister.state = .initialized state) :
    ∃ next saves k, journalSaves persister state (journalChange n) = .ok (next, saves) ∧
      rejectImmutableChanges state.aggregate (journalChange n) = .ok () ∧
      persist persister (journalChange n) = .transact (Call.written (fun store : WalletStore
        JournalValue =>
        (store.applyEntityBatch .bitcoinWalletChangeSet saves []).map fun store => (store, ()))
        (some (state.nextSequence, journalChange n))) k := by
  have haggregate : state.aggregate = ((List.range n).map journalChange).prod := by
    have htake := hknows.aggregate
    rwa [List.take_of_length_le (journalHistory_length n).le] at htake
  have hreject : rejectImmutableChanges state.aggregate (journalChange n) = .ok () := by
    have htake := rejectImmutableChanges_take (journalChanges_pinned (n + 1))
      (c := journalChange n) (n := n) (by simp)
    rwa [journalChanges_succ, List.take_left' (by simp), ← haggregate] at htake
  have hcandidate : state.aggregate.merge (journalChange n) ≠ state.aggregate := by
    intro heq
    have hrest := congrArg (fun c => c.rest.height) heq
    simp only [ChangeSet.merge_eq_mul, ChangeSet.mul_rest, journalHeight_mul, haggregate,
      journalChanges_height, journalChange] at hrest
    omega
  have hsequence := hknows.nextSequence
  have hnonzero : state.nextSequence ≠ 0 := by
    intro hzero
    rw [hzero] at hsequence
    cases hsequence
  obtain ⟨next, hnext⟩ : ∃ next, checkedAdd state.nextSequence 1 = some next := by
    refine ⟨.ofNat (n + 2), checkedAdd_eq_some.2 ?_⟩
    have hsize : n + 2 < UInt64.size := by
      unfold maxBdkWalletChangesetRecords at hn
      unfold UInt64.size
      omega
    have hvalue : (UInt64.ofNat (n + 2)).toNat = n + 2 := UInt64.toNat_ofNat_of_lt hsize
    rw [hvalue, hsequence]
    rfl
  have hnext0 : next ≠ 0 := by
    rintro rfl
    have hvalue := checkedAdd_eq_some.1 hnext
    rw [hsequence] at hvalue
    cases hvalue
  obtain ⟨saves, hsaves⟩ :
      ∃ saves, journalSaves persister state (journalChange n) = .ok (next, saves) := by
    simp only [journalSaves, ok_iff]
    exact ⟨_, (), validate_changeSetRecord.2 ⟨hnonzero, journalChange_ne_default n⟩, next,
      hnext, (),
      validate_headRecord hnext0, rfl⟩
  refine ⟨next, saves, ?_⟩
  unfold persist
  simp only [hstate, hreject, if_neg hcandidate, hsaves]
  exact ⟨_, trivial, trivial, rfl⟩

theorem JournalCut.succ {ls : List (Label Unit JournalHeight)}
    {s : System Unit JournalHeight JournalValue} (h : JournalCut n ls s)
    (hn : n ≤ maxBdkWalletChangesetRecords) : ∃ ls' s', JournalCut (n + 1) ls' s' := by
  obtain ⟨state, hload, hknows⟩ := h.represents.loadState_eq rfl (h.length_rows_le hn)
  have hknows' := hknows
  rw [journalHistory_length] at hknows'
  let opened : BdkWalletStorePersister Unit JournalHeight := ⟨journalAccountId, 0, .uninitialized⟩
  let persister : BdkWalletStorePersister Unit JournalHeight :=
    ⟨journalAccountId, 0, .initialized state⟩
  have hinit : (initializePersister s.store opened).1 = persister := by
    rw [initializePersister, show opened.accountId = journalAccountId from rfl, hload]
  obtain ⟨next, saves, k, hsaves, hreject, hcall⟩ :=
    @journal_persist_eq n state persister hn hknows' rfl
  obtain ⟨store', hbatch⟩ := h.represents.exists_commit hknows rfl hsaves
    fun _ => ⟨Nat.one_ne_zero, show 1 ≤ maxStateBytes by decide⟩
  obtain ⟨-, hc, hpinned, hrepresents⟩ := h.represents.commit hknows rfl hreject hsaves hbatch
    fun _ => journalChange_complete n
  have heffect : Call.written (fun store : WalletStore JournalValue =>
      (store.applyEntityBatch .bitcoinWalletChangeSet saves []).map fun store => (store, ()))
        (some (state.nextSequence, journalChange n)) s.store =
          (store', some (state.nextSequence, journalChange n)) := by
    simp only [Call.written, hbatch, Except.map]
  let s₁ := s.set 0 (some (.idle opened))
  let s₂ := s₁.set 0 (some (.idle (initializePersister s₁.store opened).1))
  let s₃ := s₂.set 0 (some (.persisting (journalChange n) false
    (persist { (initializePersister s₁.store opened).1 with nowUnix := 0 } (journalChange n))))
  have h₁ : System.Step journalAccountId s (.opened 0) s₁ := .opened rfl
  have h₂ : System.Step journalAccountId s₁ (.initialized 0 (initializePersister s₁.store opened).2)
      s₂ := .initialized (s.set_instances_self ..)
  have h₃ : System.Step journalAccountId s₂ (.called 0 (journalChange n)) s₃ :=
    .called 0 (journalChange n) (s₁.set_instances_self ..)
  have hpending : s₃.instances 0 = some (.persisting (journalChange n) false (.transact
      (Call.written (fun store : WalletStore JournalValue =>
        (store.applyEntityBatch .bitcoinWalletChangeSet saves []).map fun store => (store, ()))
        (some (state.nextSequence, journalChange n))) k)) := by
    rw [← hcall]
    refine (s₂.set_instances_self ..).trans ?_
    rw [show (initializePersister s₁.store opened).1 = persister from hinit]
  let s₄ : System Unit JournalHeight JournalValue :=
    { s₃.set 0 (some (.persisting (journalChange n) true (k s.store))) with store := store' }
  have h₄ : System.Step journalAccountId s₃
      (.transacted 0 (some (state.nextSequence, journalChange n))) s₄ := by
    have hstep := @System.Step.transacted _ _ _ _ _ _ _ _ _ _ journalAccountId _ _ _ _ _ _ hpending
    rw [show s₃.store = s.store from rfl, heffect] at hstep
    exact hstep
  have h₅ : System.Step journalAccountId s₄ (.crashed 0) (s₄.set 0 none) := .crashed
  have hrun : Run (System.Step journalAccountId) journalStart (ls ++
      [.opened 0, .initialized 0 (initializePersister s₁.store opened).2,
        .called 0 (journalChange n), .transacted 0 (some (state.nextSequence, journalChange n)),
        .crashed 0]) (s₄.set 0 none) :=
    h.run.trans (.cons h₁ (.cons h₂ (.cons h₃ (.cons h₄ (.single h₅)))))
  refine ⟨_, _, hrun, ?_, ?_, ?_, ?_⟩
  · rw [@journalHistory_succ n hc hpinned] at hrepresents
    exact hrepresents
  · rw [List.filterMap_append, List.map_append, h.committed, journalChanges_succ]
    rfl
  · rw [List.filterMap_append, h.accepted, journalChanges_succ]
    rfl
  · intro i
    by_cases hi : i = 0
    · subst hi
      exact s₄.set_instances_self ..
    · simp only [System.set, s₁, s₂, s₃, s₄, Function.update_of_ne hi]
      exact h.instances i

theorem exists_journalCut (hn : n ≤ maxBdkWalletChangesetRecords + 1) :
    ∃ ls s, JournalCut n ls s := by
  induction n with
  | zero => exact ⟨_, _, journalCut_zero⟩
  | succ n ih =>
    obtain ⟨ls, s, hcut⟩ := ih (by omega)
    exact hcut.succ (by omega)

theorem JournalCut.firstComplete {ls : List (Label Unit JournalHeight)}
    {s : System Unit JournalHeight JournalValue} (h : JournalCut n ls s) :
    System.FirstComplete ls := by
  intro first hfirst
  have hmem : first.2 ∈ (ls.filterMap Label.committed).map Prod.snd :=
    List.mem_map_of_mem (List.mem_of_mem_head? hfirst)
  rw [h.committed] at hmem
  obtain ⟨i, -, hi⟩ := List.mem_map.1 hmem
  rw [← hi]
  exact journalChange_complete i

/-- After one commit too many that was cut off, no persister can read the journal. -/
theorem journal_cannot_be_read : ∃ ls s, System.Fresh journalAccountId journalStart ∧
    Run (System.Step journalAccountId) journalStart ls s ∧ System.FirstComplete ls ∧
    (∀ i, s.instances i = none) ∧
    ∀ persister : BdkWalletStorePersister Unit JournalHeight,
      persister.accountId = journalAccountId →
      (initializePersister s.store persister).2 = .error .corruptBitcoinWalletState := by
  obtain ⟨ls, s, hcut⟩ := exists_journalCut (le_refl _)
  refine ⟨ls, s, journalStart_fresh, hcut.run, hcut.firstComplete, hcut.instances,
    fun persister haccount => ?_⟩
  have hload := hcut.represents.loadState_full rfl hcut.length_rows
  rw [initializePersister, haccount, hload]

theorem journal_reads_cut_commit : ∃ ls s,
    Run (System.Step journalAccountId) journalStart ls s ∧
    ls.filterMap Label.accepted = [journalChange 0, journalChange 1, journalChange 2] ∧
    ∀ persister : BdkWalletStorePersister Unit JournalHeight,
      persister.accountId = journalAccountId →
      (initializePersister s.store persister).2 = .ok (ls.filterMap Label.accepted).prod := by
  obtain ⟨ls, s, hcut⟩ := exists_journalCut (show 3 ≤ maxBdkWalletChangesetRecords + 1 by decide)
  refine ⟨ls, s, hcut.run, hcut.accepted, fun persister haccount => ?_⟩
  obtain ⟨hread, -, -⟩ :=
    System.journal_is_merge_of_accepted journalStart_fresh hcut.run hcut.firstComplete
  exact (hread persister haccount rfl).1 (hcut.length_rows_le (by decide))

end Sample

end HnsWallet
