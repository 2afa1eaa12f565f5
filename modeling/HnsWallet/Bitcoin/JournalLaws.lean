import HnsWallet.Bitcoin.Journal
import HnsWallet.Store.Batches

/-! # What the journal holds -/

namespace HnsWallet

open Lib WalletStore

/-- Merging again what was merged before changes nothing. -/
class MergesOnce (R : Type) [Monoid R] : Prop where
  mul_mul_left (a b : R) : a * b * a = a * b

theorem mul_self_of_mergesOnce {R : Type} [Monoid R] [MergesOnce R] (a : R) : a * a = a := by
  have h := MergesOnce.mul_mul_left a 1
  rwa [mul_one] at h

theorem or_eq_right {A : Type} {next current : Option A} (h : ∀ a ∈ next, current = some a) :
    next.or current = current := by
  cases next with
  | none => rfl
  | some a => exact (h a rfl).symm

namespace ChangeSet

variable {D R : Type} {a b c first : ChangeSet D R} {log log' : List (ChangeSet D R)}

def Complete (c : ChangeSet D R) : Prop :=
  c.descriptor.isSome ∧ c.changeDescriptor.isSome ∧ c.network.isSome

structure Within (c first : ChangeSet D R) : Prop where
  descriptor : ∀ d ∈ c.descriptor, first.descriptor = some d
  changeDescriptor : ∀ d ∈ c.changeDescriptor, first.changeDescriptor = some d
  network : ∀ n ∈ c.network, first.network = some n

structure SamePins (a b : ChangeSet D R) : Prop where
  descriptor : a.descriptor = b.descriptor
  changeDescriptor : a.changeDescriptor = b.changeDescriptor
  network : a.network = b.network

theorem SamePins.symm (h : SamePins a b) : SamePins b a :=
  ⟨h.descriptor.symm, h.changeDescriptor.symm, h.network.symm⟩

theorem SamePins.trans (h₁ : SamePins a b) (h₂ : SamePins b c) : SamePins a c :=
  ⟨h₁.descriptor.trans h₂.descriptor, h₁.changeDescriptor.trans h₂.changeDescriptor,
    h₁.network.trans h₂.network⟩

theorem SamePins.complete (h : SamePins a b) (hb : b.Complete) : a.Complete := by
  unfold Complete
  rw [h.descriptor, h.changeDescriptor, h.network]
  exact hb

theorem SamePins.within (h : SamePins a b) (hc : Within c a) : Within c b :=
  ⟨h.descriptor ▸ hc.descriptor, h.changeDescriptor ▸ hc.changeDescriptor,
    h.network ▸ hc.network⟩

theorem Within.refl (c : ChangeSet D R) : Within c c :=
  ⟨fun _ h => h, fun _ h => h, fun _ h => h⟩

def Pinned (log : List (ChangeSet D R)) : Prop :=
  ∀ first ∈ log.head?, first.Complete ∧ ∀ c ∈ log, Within c first

theorem Pinned.of_initial (h : Pinned log') (hp : log <+: log') : Pinned log := by
  obtain ⟨more, rfl⟩ := hp
  intro first hfirst
  cases log with
  | nil => cases hfirst
  | cons c cs =>
    cases hfirst
    obtain ⟨hcomplete, hwithin⟩ := h first rfl
    exact ⟨hcomplete, fun c' hc' => hwithin c' (List.mem_append_left _ hc')⟩

variable [Monoid R]

instance : Monoid (ChangeSet D R) where
  mul := merge
  one := default
  mul_assoc a b c := by
    apply ChangeSet.ext
    · exact Option.or_assoc.symm
    · exact Option.or_assoc.symm
    · exact Option.or_assoc.symm
    · exact mul_assoc a.rest b.rest c.rest
  one_mul a := by
    apply ChangeSet.ext
    · exact Option.or_none
    · exact Option.or_none
    · exact Option.or_none
    · exact one_mul a.rest
  mul_one a := by
    apply ChangeSet.ext
    · exact Option.none_or
    · exact Option.none_or
    · exact Option.none_or
    · exact mul_one a.rest

theorem merge_eq_mul : a.merge b = a * b := rfl

@[simp] theorem mul_descriptor : (a * b).descriptor = b.descriptor.or a.descriptor := rfl

@[simp] theorem mul_changeDescriptor :
    (a * b).changeDescriptor = b.changeDescriptor.or a.changeDescriptor := rfl

@[simp] theorem mul_network : (a * b).network = b.network.or a.network := rfl

@[simp] theorem mul_rest : (a * b).rest = a.rest * b.rest := rfl

theorem Within.mul (ha : Within a first) (hb : Within b first) : Within (a * b) first := by
  refine ⟨fun d hd => ?_, fun d hd => ?_, fun n hn => ?_⟩
  · rcases Option.or_eq_some_iff.1 hd with h | ⟨-, h⟩
    · exact hb.descriptor d h
    · exact ha.descriptor d h
  · rcases Option.or_eq_some_iff.1 hd with h | ⟨-, h⟩
    · exact hb.changeDescriptor d h
    · exact ha.changeDescriptor d h
  · rcases Option.or_eq_some_iff.1 hn with h | ⟨-, h⟩
    · exact hb.network n h
    · exact ha.network n h

theorem Within.one : Within 1 first := by
  refine ⟨fun d hd => ?_, fun d hd => ?_, fun n hn => ?_⟩
  · cases hd
  · cases hd
  · cases hn

theorem Within.prod (h : ∀ c ∈ log, Within c first) : Within log.prod first := by
  induction log with
  | nil => exact .one
  | cons c cs ih =>
    rw [List.prod_cons]
    exact (h c List.mem_cons_self).mul (ih fun c' hc' => h c' (List.mem_cons_of_mem _ hc'))

theorem Within.mul_samePins (h : Within b a) : SamePins (a * b) a :=
  ⟨or_eq_right h.descriptor, or_eq_right h.changeDescriptor, or_eq_right h.network⟩

theorem Pinned.prod_samePins {rest : List (ChangeSet D R)} (h : Pinned (first :: rest)) :
    SamePins (first :: rest).prod first := by
  rw [List.prod_cons]
  exact (Within.prod fun c hc => (h first rfl).2 c (List.mem_cons_of_mem _ hc)).mul_samePins

theorem Pinned.samePins_of_initial (h : Pinned log') (hp : log <+: log') (hne : log ≠ []) :
    SamePins log'.prod log.prod := by
  have hlog := h.of_initial hp
  obtain ⟨more, rfl⟩ := hp
  cases log with
  | nil => exact absurd rfl hne
  | cons first rest => exact h.prod_samePins.trans hlog.prod_samePins.symm

theorem Pinned.complete (h : Pinned log) (hne : log ≠ []) : log.prod.Complete := by
  cases log with
  | nil => exact absurd rfl hne
  | cons first rest => exact h.prod_samePins.complete (h first rfl).1

theorem Pinned.within (h : Pinned log) (hc : c ∈ log) : Within c log.prod := by
  cases log with
  | nil => cases hc
  | cons first rest => exact h.prod_samePins.symm.within ((h first rfl).2 c hc)

theorem Pinned.append (h : Pinned log) (hfirst : log = [] → c.Complete)
    (hlater : log ≠ [] → Within c log.prod) : Pinned (log ++ [c]) := by
  intro first hhead
  cases log with
  | nil =>
    cases hhead
    refine ⟨hfirst rfl, fun c' hc' => ?_⟩
    rw [List.mem_singleton.1 hc']
    exact .refl c
  | cons f rest =>
    cases hhead
    obtain ⟨hcomplete, hwithin⟩ := h first rfl
    refine ⟨hcomplete, fun c' hc' => ?_⟩
    rcases List.mem_append.1 hc' with hc' | hc'
    · exact hwithin c' hc'
    · rw [List.mem_singleton.1 hc']
      exact h.prod_samePins.within (hlater (List.cons_ne_nil _ _))

def Absorbs (log : List (ChangeSet D R)) (c : ChangeSet D R) : Prop :=
  log.prod * c = log.prod

variable [MergesOnce R]

theorem mul_mul_self : a * c * c = a * c := by
  apply ChangeSet.ext
  · simp [← Option.or_assoc]
  · simp [← Option.or_assoc]
  · simp [← Option.or_assoc]
  · simp [mul_assoc, mul_self_of_mergesOnce]

theorem Absorbs.mono (habs : Absorbs log c) (h : Pinned log') (hp : log <+: log') :
    Absorbs log' c := by
  by_cases hne : log = []
  · subst hne
    have hc : c = 1 := by simpa [Absorbs] using habs
    rw [hc, Absorbs, mul_one]
  · have hpins := h.samePins_of_initial hp hne
    obtain ⟨more, rfl⟩ := hp
    rw [List.prod_append] at hpins
    unfold Absorbs at habs ⊢
    rw [List.prod_append]
    apply ChangeSet.ext
    · rw [mul_descriptor, hpins.descriptor, ← mul_descriptor, habs]
    · rw [mul_changeDescriptor, hpins.changeDescriptor, ← mul_changeDescriptor, habs]
    · rw [mul_network, hpins.network, ← mul_network, habs]
    · have hrest : log.prod.rest * c.rest = log.prod.rest := congrArg ChangeSet.rest habs
      calc (log.prod * more.prod * c).rest
          = log.prod.rest * more.prod.rest * log.prod.rest * c.rest := by
            rw [mul_rest, mul_rest, MergesOnce.mul_mul_left]
        _ = log.prod.rest * more.prod.rest := by
            rw [mul_assoc _ log.prod.rest, hrest, MergesOnce.mul_mul_left]
        _ = (log.prod * more.prod).rest := (mul_rest ..).symm

end ChangeSet

structure History (D R : Type) [Monoid R] where
  log : List (ChangeSet D R)
  compacted : Nat
  snapshotRevision : Nat
  pinned : ChangeSet.Pinned log
  filled : ∀ c ∈ log, c ≠ .default
  compacted_le : compacted ≤ log.length

namespace History

variable {D R : Type} [Monoid R] {h h' : History D R}

instance : Preorder (History D R) where
  le h h' := h.log <+: h'.log ∧ h.snapshotRevision ≤ h'.snapshotRevision ∧
    (h.snapshotRevision = h'.snapshotRevision → h.compacted = h'.compacted) ∧
    h.compacted ≤ h'.compacted
  le_refl h := ⟨List.prefix_refl _, le_refl _, fun _ => rfl, le_refl _⟩
  le_trans := by
    rintro h₁ h₂ h₃ ⟨hlog₁, hrevision₁, hsame₁, hcompacted₁⟩ ⟨hlog₂, hrevision₂, hsame₂,
      hcompacted₂⟩
    refine ⟨hlog₁.trans hlog₂, hrevision₁.trans hrevision₂, fun heq => ?_,
      hcompacted₁.trans hcompacted₂⟩
    rw [hsame₁ (by omega), hsame₂ (by omega)]

theorem log_initial (hle : h ≤ h') : h.log <+: h'.log := hle.1

theorem take_log (hle : h ≤ h') {m : Nat} (hm : m ≤ h.log.length) :
    h'.log.take m = h.log.take m := by
  obtain ⟨more, hmore⟩ := h.log_initial hle
  rw [← hmore, List.take_append_of_le_length hm]

def empty : History D R where
  log := []
  compacted := 0
  snapshotRevision := 0
  pinned := by
    intro first hfirst
    cases hfirst
  filled := by
    intro c hc
    cases hc
  compacted_le := le_refl 0

def commit (h : History D R) (c : ChangeSet D R) (hc : c ≠ .default)
    (hpinned : ChangeSet.Pinned (h.log ++ [c])) : History D R where
  log := h.log ++ [c]
  compacted := h.compacted
  snapshotRevision := h.snapshotRevision
  pinned := hpinned
  filled := by
    intro c' hc'
    rcases List.mem_append.1 hc' with hc' | hc'
    · exact h.filled c' hc'
    · rwa [List.mem_singleton.1 hc']
  compacted_le := by
    rw [List.length_append]
    exact h.compacted_le.trans (Nat.le_add_right _ _)

theorem le_commit {c : ChangeSet D R} {hc : c ≠ .default}
    {hpinned : ChangeSet.Pinned (h.log ++ [c])} : h ≤ h.commit c hc hpinned :=
  ⟨List.prefix_append _ _, le_refl _, fun _ => rfl, le_refl _⟩

def compactTo (h : History D R) (m : Nat) (hm : m ≤ h.log.length) : History D R where
  log := h.log
  compacted := m
  snapshotRevision := h.snapshotRevision + 1
  pinned := h.pinned
  filled := h.filled
  compacted_le := hm

theorem le_compactTo {m : Nat} {hm : m ≤ h.log.length} (hle : h.compacted ≤ m) :
    h ≤ h.compactTo m hm :=
  ⟨List.prefix_refl _, Nat.le_add_right _ _, fun heq => absurd heq (Nat.succ_ne_self _).symm, hle⟩

end History

namespace BdkWalletStorePersister

variable {D R V : Type}

section Identities

variable {commitment : Bytes 32} {s s' : UInt64}

theorem prefix_journalId : commitment.toList <+: journalId commitment s :=
  List.prefix_append _ _

theorem prefix_journalHeadId : commitment.toList <+: journalHeadId commitment :=
  List.prefix_append _ _

theorem journalId_inj (h : journalId commitment s = journalId commitment s') : s = s' := by
  have hbytes := (List.cons.inj (List.append_cancel_left h)).2
  have hnat := congrArg ofBeBytes hbytes
  rw [ofBeBytes_beBytes s.toNat_lt, ofBeBytes_beBytes s'.toNat_lt] at hnat
  exact UInt64.toNat_inj.1 hnat

theorem journalId_ne_journalHeadId : journalId commitment s ≠ journalHeadId commitment := by
  intro h
  have hlength := congrArg List.length (List.append_cancel_left h)
  simp at hlength

theorem validateId_journalId : validateId (journalId commitment s) = .ok () := by
  simp [validateId, journalId, refuseIf_eq_ok, maxRecordIdBytes]

theorem validateId_journalHeadId : validateId (journalHeadId commitment) = .ok () := by
  simp [validateId, journalHeadId, refuseIf_eq_ok, maxRecordIdBytes]

end Identities

theorem changes_iff {A : Type} [DecidableEq A] {next current : Option A} :
    changes next current = false ↔ ∀ a ∈ next, ∀ b ∈ current, a = b := by
  cases next <;> cases current <;> simp [changes]

theorem changes_of_some {A : Type} [DecidableEq A] {next current : Option A}
    (hchanges : changes next current = false) (hsome : current.isSome) :
    ∀ a ∈ next, current = some a := by
  intro a ha
  obtain ⟨b, hb⟩ := Option.isSome_iff_exists.1 hsome
  rw [hb, changes_iff.1 hchanges a ha b hb]

theorem toNat_saturatingAdd (compacted : UInt64) (hfits : compacted.toNat + 1 < UInt64.size) :
    (saturatingAdd compacted 1).toNat = compacted.toNat + 1 := by
  obtain ⟨next, hnext⟩ : ∃ next, checkedAdd compacted 1 = some next := by
    rw [← Option.isSome_iff_exists, Option.isSome_iff_ne_none]
    intro hnone
    have := checkedAdd_eq_none.1 hnone
    have hone : (1 : UInt64).toNat = 1 := rfl
    omega
  rw [saturatingAdd, hnext, Option.getD_some]
  exact checkedAdd_eq_some.1 hnext

/-! ## The rows of a history -/

def headRecord (commitment : Bytes 32) (nextSequence : UInt64) :
    StoredBdkWalletJournalRecord D R :=
  .head bdkWalletChangesetRecordVersion bdkWalletChangesetVersion commitment nextSequence

def changeSetRecord (commitment : Bytes 32) (sequence : UInt64) (c : ChangeSet D R) :
    StoredBdkWalletJournalRecord D R :=
  .changeSet bdkWalletChangesetRecordVersion bdkWalletChangesetVersion commitment sequence c

def snapshotOf (compacted : UInt64) (c : ChangeSet D R) : StoredBdkWalletState D R :=
  ⟨bdkWalletStateFormatVersion, bdkWalletChangesetVersion, compacted, c⟩

theorem validate_snapshotOf {compacted : UInt64} {c : ChangeSet D R} {u : Unit} :
    (snapshotOf compacted c).validate = .ok u ↔ c.Complete := by
  simp [StoredBdkWalletState.validate, snapshotOf, ChangeSet.Complete, ok_iff,
    bdkWalletStateFormatVersion, bdkWalletLegacyStateFormatVersion, Option.isSome_iff_ne_none]

inductive JournalRow [Serde V (StoredBdkWalletJournalRecord D R)] (commitment : Bytes 32)
    (log : List (ChangeSet D R)) : RecordId → EntityRow V → Prop where
  | head {revision nextSequence updatedAt : UInt64} (hlog : log ≠ [])
      (hrevision : revision.toNat = log.length) (hnext : nextSequence.toNat = log.length + 1) :
      JournalRow commitment log (journalHeadId commitment)
        ⟨revision, Serde.toVec (headRecord commitment nextSequence :
          StoredBdkWalletJournalRecord D R), updatedAt⟩
  | changeSet {sequence updatedAt : UInt64} {c : ChangeSet D R} (hsequence : sequence ≠ 0)
      (hc : log[sequence.toNat - 1]? = some c) :
      JournalRow commitment log (journalId commitment sequence)
        ⟨1, Serde.toVec (changeSetRecord commitment sequence c), updatedAt⟩

variable [Serde V (StoredBdkWalletJournalRecord D R)]

theorem JournalRow.head_inv {commitment : Bytes 32} {log : List (ChangeSet D R)}
    {row : EntityRow V} (hrow : JournalRow commitment log (journalHeadId commitment) row) :
    log ≠ [] ∧ row.revision.toNat = log.length := by
  generalize hid : journalHeadId commitment = id at hrow
  cases hrow with
  | head hlog hrevision _ => exact ⟨hlog, hrevision⟩
  | changeSet => exact absurd hid.symm journalId_ne_journalHeadId

def IsChangeSet (commitment : Bytes 32) (log : List (ChangeSet D R))
    (record : StoredEntity (StoredBdkWalletJournalRecord D R)) : Prop :=
  ∃ s updatedAt c, s ≠ 0 ∧ log[s.toNat - 1]? = some c ∧
    record = ⟨.bitcoinWalletChangeSet, journalId commitment s, 1, changeSetRecord commitment s c,
      updatedAt⟩

def IsHead (commitment : Bytes 32) (log : List (ChangeSet D R))
    (record : StoredEntity (StoredBdkWalletJournalRecord D R)) : Prop :=
  ∃ revision nextSequence updatedAt : UInt64, revision.toNat = log.length ∧
    nextSequence.toNat = log.length + 1 ∧
    record = ⟨.bitcoinWalletChangeSet, journalHeadId commitment, revision,
      headRecord commitment nextSequence, updatedAt⟩

section Loop

variable [DecidableEq D] {commitment : Bytes 32} {compacted s updatedAt nextSequence : UInt64}
  {aggregate c : ChangeSet D R} {progress : LoadProgress D R} {log : List (ChangeSet D R)}
  {u : Unit}

theorem rejectImmutableChanges_eq_ok :
    rejectImmutableChanges aggregate c = .ok u ↔
      changes c.descriptor aggregate.descriptor = false ∧
      changes c.changeDescriptor aggregate.changeDescriptor = false ∧
      changes c.network aggregate.network = false := by
  simp [rejectImmutableChanges, refuseIf_eq_ok]

theorem within_of_rejectImmutableChanges (h : rejectImmutableChanges aggregate c = .ok u)
    (hcomplete : aggregate.Complete) :
    ChangeSet.Within c aggregate := by
  obtain ⟨hdescriptor, hchange, hnetwork⟩ := rejectImmutableChanges_eq_ok.1 h
  exact ⟨changes_of_some hdescriptor hcomplete.1, changes_of_some hchange hcomplete.2.1,
    changes_of_some hnetwork hcomplete.2.2⟩

theorem rejectImmutableChanges_of_within
    (h : ChangeSet.Within c aggregate) : rejectImmutableChanges aggregate c = .ok () := by
  refine rejectImmutableChanges_eq_ok.2 ⟨changes_iff.2 fun a ha b hb => ?_,
    changes_iff.2 fun a ha b hb => ?_, changes_iff.2 fun a ha b hb => ?_⟩
  · exact Option.some.inj ((h.descriptor a ha).symm.trans hb)
  · exact Option.some.inj ((h.changeDescriptor a ha).symm.trans hb)
  · exact Option.some.inj ((h.network a ha).symm.trans hb)

variable [Monoid R]

theorem rejectImmutableChanges_take (hpinned : ChangeSet.Pinned log) {n : Nat}
    (hc : log[n]? = some c) : rejectImmutableChanges (log.take n).prod c = .ok () := by
  cases n with
  | zero =>
    refine rejectImmutableChanges_eq_ok.2 ⟨changes_iff.2 fun a ha b hb => ?_,
      changes_iff.2 fun a ha b hb => ?_, changes_iff.2 fun a ha b hb => ?_⟩
    · cases hb
    · cases hb
    · cases hb
  | succ n =>
    have hne : log.take (n + 1) ≠ [] := by
      intro htake
      rw [List.take_eq_nil_iff] at htake
      rcases htake with hzero | hnil
      · cases hzero
      · rw [hnil] at hc
        cases hc
    refine rejectImmutableChanges_of_within ?_
    have hinitial := List.take_prefix (n + 1) log
    exact (hpinned.samePins_of_initial hinitial hne).within
      (hpinned.within (List.mem_of_getElem? hc))

variable [DecidableEq R]

theorem validate_headRecord (hnext : nextSequence ≠ 0) :
    (headRecord commitment nextSequence : StoredBdkWalletJournalRecord D R).validate commitment =
      .ok () := by
  simp [headRecord, StoredBdkWalletJournalRecord.validate, refuseIf_eq_ok, hnext]

theorem validate_changeSetRecord :
    (changeSetRecord commitment s c).validate commitment = .ok u ↔ s ≠ 0 ∧ c ≠ .default := by
  simp [changeSetRecord, StoredBdkWalletJournalRecord.validate, refuseIf_eq_ok]

theorem loadRecord_head {revision : UInt64} (hnext : nextSequence ≠ 0)
    (hhead : progress.journalHead = none) :
    loadRecord commitment compacted progress ⟨.bitcoinWalletChangeSet, journalHeadId commitment,
      revision, headRecord commitment nextSequence, updatedAt⟩ =
        .ok { progress with journalHead := some (revision, nextSequence) } := by
  unfold loadRecord
  rw [validate_headRecord hnext]
  simp [headRecord, refuseIf, hhead, bind, Except.bind, pure, Except.pure]

section

variable (hs : s ≠ 0) (hc : c ≠ .default)
  (htotal : progress.totalChangesetRecords < maxBdkWalletChangesetRecords)
include hs hc htotal

theorem loadRecord_covered (hcovered : s ≤ compacted) :
    loadRecord commitment compacted progress ⟨.bitcoinWalletChangeSet, journalId commitment s, 1,
      changeSetRecord commitment s c, updatedAt⟩ =
        .ok { progress with totalChangesetRecords := progress.totalChangesetRecords + 1 } := by
  unfold loadRecord
  rw [(validate_changeSetRecord (u := ())).2 ⟨hs, hc⟩]
  simp [changeSetRecord, refuseIf, hcovered, bind, Except.bind, pure, Except.pure,
    Nat.not_lt.2 (Nat.succ_le_of_lt htotal)]

theorem loadRecord_next (hlater : ¬ s ≤ compacted) (hexpected : s = progress.expectedSequence)
    {next : UInt64} (hnext : checkedAdd progress.expectedSequence 1 = some next)
    (hreject : rejectImmutableChanges progress.aggregate c = .ok ()) :
    loadRecord commitment compacted progress ⟨.bitcoinWalletChangeSet, journalId commitment s, 1,
      changeSetRecord commitment s c, updatedAt⟩ =
        .ok { progress with
          totalChangesetRecords := progress.totalChangesetRecords + 1
          aggregate := progress.aggregate.merge c
          expectedSequence := next
          activeJournalRecords := progress.activeJournalRecords + 1 } := by
  subst hexpected
  unfold loadRecord
  rw [(validate_changeSetRecord (u := ())).2 ⟨hs, hc⟩]
  simp [changeSetRecord, refuseIf, hlater, hreject, hnext, okOr, bind, Except.bind, pure,
    Except.pure, Nat.not_lt.2 (Nat.succ_le_of_lt htotal)]

end

theorem loadRecords (commitment : Bytes 32) (progress : LoadProgress D R) {h : History D R}
    (hcompacted : compacted.toNat = h.compacted) (hfits : h.log.length + 1 < UInt64.size)
    {records : List (StoredEntity (StoredBdkWalletJournalRecord D R))}
    (hrecords : ∀ record ∈ records, IsChangeSet commitment h.log record)
    (hsorted : records.Pairwise fun a b => sequenceKey a < sequenceKey b)
    (htotal : progress.totalChangesetRecords + records.length ≤ maxBdkWalletChangesetRecords)
    (hlater : h.compacted < progress.expectedSequence.toNat) (haggregate : progress.aggregate =
      (h.log.take (progress.expectedSequence.toNat - 1)).prod)
    (hbound : progress.expectedSequence.toNat ≤ h.log.length + 1)
    (hlive : ∀ s : UInt64, progress.expectedSequence ≤ s → s.toNat ≤ h.log.length →
      ∃ record ∈ records, record.value.sequence = some s)
    (hkeys : ∀ record ∈ records, sequenceKey record ≤ h.compacted ∨
      progress.expectedSequence.toNat ≤ sequenceKey record) :
    ∃ progress', records.foldlM (loadRecord commitment compacted) progress = .ok progress' ∧
      progress'.expectedSequence.toNat = h.log.length + 1 ∧
      progress'.aggregate = h.log.prod ∧ progress'.journalHead = progress.journalHead := by
  induction records generalizing progress with
  | nil =>
    have hend : progress.expectedSequence.toNat = h.log.length + 1 := by
      by_contra hne
      obtain ⟨record, hrecord, -⟩ := hlive progress.expectedSequence UInt64.le_rfl (by omega)
      cases hrecord
    refine ⟨progress, rfl, hend, ?_, rfl⟩
    rw [haggregate, hend, Nat.add_sub_cancel, List.take_length]
  | cons first rest ih =>
    obtain ⟨s, updatedAt, c, hs, hc, rfl⟩ := hrecords first List.mem_cons_self
    have hrest := fun record hrecord => hrecords record (List.mem_cons_of_mem _ hrecord)
    rw [List.pairwise_cons] at hsorted
    rw [List.length_cons] at htotal
    have hdefault := h.filled c (List.mem_of_getElem? hc)
    have hlength : s.toNat - 1 < h.log.length := (List.getElem?_eq_some_iff.1 hc).1
    have hkey : sequenceKey (⟨.bitcoinWalletChangeSet, journalId commitment s, 1,
        changeSetRecord commitment s c, updatedAt⟩ :
          StoredEntity (StoredBdkWalletJournalRecord D R)) = s.toNat := rfl
    have hpos : s.toNat ≠ 0 := fun hzero => hs (UInt64.toNat_inj.1 hzero)
    rw [List.foldlM_cons]
    by_cases hcovered : s ≤ compacted
    · rw [loadRecord_covered hs hdefault (by omega) hcovered]
      have hle := UInt64.le_iff_toNat_le.1 hcovered
      refine ih _ hrest hsorted.2 (by simp only; omega) hlater haggregate hbound ?_
        fun record hrecord => hkeys record (List.mem_cons_of_mem _ hrecord)
      intro s' hs' hle'
      obtain ⟨record, hrecord, hsequence⟩ := hlive s' hs' hle'
      rcases List.mem_cons.1 hrecord with rfl | hrecord
      · cases hsequence
        have hge : progress.expectedSequence.toNat ≤ s.toNat := UInt64.le_iff_toNat_le.1 hs'
        omega
      · exact ⟨record, hrecord, hsequence⟩
    · have hgt : h.compacted < s.toNat := by
        have := mt UInt64.le_iff_toNat_le.2 hcovered
        omega
      -- The rows are sorted, so the one that is expected comes first.
      have hge : progress.expectedSequence.toNat ≤ s.toNat := by
        rcases hkeys _ List.mem_cons_self with hsmall | hlarge
        · rw [hkey] at hsmall
          omega
        · exact hlarge
      have hexpected : s = progress.expectedSequence := by
        obtain ⟨record, hrecord, hsequence⟩ :=
          hlive progress.expectedSequence UInt64.le_rfl (by omega)
        rcases List.mem_cons.1 hrecord with rfl | hrecord
        · exact Option.some.inj hsequence
        · have hlt := hsorted.1 record hrecord
          rw [hkey, sequenceKey, hsequence, Option.getD_some] at hlt
          omega
      obtain ⟨next, hnext⟩ : ∃ next, checkedAdd progress.expectedSequence 1 = some next := by
        rw [← Option.isSome_iff_exists, Option.isSome_iff_ne_none]
        intro hnone
        have := checkedAdd_eq_none.1 hnone
        have hone : (1 : UInt64).toNat = 1 := rfl
        omega
      have hvalue : next.toNat = progress.expectedSequence.toNat + 1 := checkedAdd_eq_some.1 hnext
      have hreject : rejectImmutableChanges progress.aggregate c = .ok () := by
        rw [haggregate, ← hexpected]
        exact rejectImmutableChanges_take h.pinned hc
      rw [loadRecord_next hs hdefault (by omega) hcovered hexpected hnext hreject]
      refine ih _ hrest hsorted.2 (by simp only; omega) ?_ ?_ ?_ ?_ ?_
      · simp only
        omega
      · have hsucc : next.toNat - 1 = s.toNat - 1 + 1 := by
          rw [hvalue, ← hexpected]
          omega
        rw [hsucc, List.take_add_one, hc, Option.toList_some, List.prod_append,
          List.prod_singleton, hexpected, ← haggregate]
        rfl
      · simp only
        rw [hvalue, ← hexpected]
        omega
      · intro s' hs' hle'
        have hlt := UInt64.le_iff_toNat_le.1 hs'
        simp only at hlt
        obtain ⟨record, hrecord, hsequence⟩ :=
          hlive s' (UInt64.le_iff_toNat_le.2 (by omega)) hle'
        rcases List.mem_cons.1 hrecord with rfl | hrecord
        · cases hsequence
          rw [hexpected] at hlt
          omega
        · exact ⟨record, hrecord, hsequence⟩
      · intro record hrecord
        refine .inr ?_
        have hlt := hsorted.1 record hrecord
        rw [hkey, hexpected] at hlt
        simp only
        omega

end Loop

variable [Monoid R] [Serde V (StoredBdkWalletState D R)] [Sha256]

structure Represents (accountId : RecordId) (h : History D R) (store : WalletStore V) : Prop where
  unlocked : store.unlocked
  fits : h.log.length + 1 < UInt64.size
  snapshot : (h.snapshotRevision = 0 ∧ h.compacted = 0 ∧
      store.entities.lookup (.bitcoinWalletState, accountId) = none) ∨
    (h.compacted ≠ 0 ∧ ∃ revision compacted updatedAt : UInt64, revision ≠ 0 ∧
      revision.toNat = h.snapshotRevision ∧ compacted.toNat = h.compacted ∧
      store.entities.lookup (.bitcoinWalletState, accountId) = some ⟨revision,
        Serde.toVec (snapshotOf compacted (h.log.take h.compacted).prod), updatedAt⟩)
  rows : ∀ id row, (accountCommitment accountId).toList <+: id →
    store.entities.lookup (.bitcoinWalletChangeSet, id) = some row →
    JournalRow (accountCommitment accountId) h.log id row
  head : h.log ≠ [] → (store.entities.lookup
    (.bitcoinWalletChangeSet, journalHeadId (accountCommitment accountId))).isSome
  live : ∀ s : UInt64, h.compacted < s.toNat → s.toNat ≤ h.log.length → (store.entities.lookup
    (.bitcoinWalletChangeSet, journalId (accountCommitment accountId) s)).isSome

section Represented

variable {accountId : RecordId} {h : History D R} {store : WalletStore V}

theorem Represents.entityRevision_head (hr : Represents accountId h store) :
    (store.entityRevision .bitcoinWalletChangeSet
      (journalHeadId (accountCommitment accountId))).toNat = h.log.length := by
  unfold WalletStore.entityRevision
  cases hrow : store.entities.lookup
      (.bitcoinWalletChangeSet, journalHeadId (accountCommitment accountId)) with
  | none =>
    by_cases hlog : h.log = []
    · rw [hlog]
      rfl
    · have hsome := hr.head hlog
      rw [hrow] at hsome
      cases hsome
  | some row => exact (hr.rows _ row prefix_journalHeadId hrow).head_inv.2

theorem Represents.entityRevision_snapshot (hr : Represents accountId h store) :
    (store.entityRevision .bitcoinWalletState accountId).toNat = h.snapshotRevision := by
  unfold WalletStore.entityRevision
  rcases hr.snapshot with ⟨hzero, -, hnone⟩ | ⟨-, revision, compacted, updatedAt, -, hrevision,
    -, hsome⟩
  · rw [hnone, hzero]
    rfl
  · rw [hsome]
    exact hrevision

end Represented

section Reading

variable {accountId : RecordId} {h : History D R}
  {store : WalletStore V} {listed : List (StoredEntity (StoredBdkWalletJournalRecord D R))}
  {record : StoredEntity (StoredBdkWalletJournalRecord D R)} {limit : Nat}

omit [Sha256] in
theorem IsHead.sequenceKey_eq {commitment : Bytes 32} (hhead : IsHead commitment h.log record) :
    sequenceKey record = 0 := by
  obtain ⟨_, _, _, -, -, rfl⟩ := hhead
  rfl

omit [Sha256] in
theorem IsChangeSet.sequenceKey_ne {commitment : Bytes 32}
    (hrecord : IsChangeSet commitment h.log record) : sequenceKey record ≠ 0 := by
  obtain ⟨s, _, _, hs, -, rfl⟩ := hrecord
  exact fun hzero => hs (UInt64.toNat_inj.1 hzero)

section Listed

variable (hr : Represents accountId h store)
  (hlist : store.listEntitiesByIdPrefix (StoredBdkWalletJournalRecord D R)
    .bitcoinWalletChangeSet (accountCommitment accountId).toList limit = .ok listed)

include hr hlist

theorem Represents.listed_cases (hrecord : record ∈ listed) :
    (h.log ≠ [] ∧ IsHead (accountCommitment accountId) h.log record) ∨
      IsChangeSet (accountCommitment accountId) h.log record := by
  obtain ⟨hstarts, hload⟩ := (mem_of_listEntitiesByIdPrefix hlist).1 hrecord
  obtain ⟨-, -, row, value, hlookup, hvalue, hstored⟩ := loadEntity_eq_some.1 hload
  have hrow := hr.rows _ row hstarts hlookup
  generalize record.id = id at hrow hstored
  cases hrow with
  | @head revision nextSequence updatedAt hlog hrevision hnext =>
    rw [Serde.fromSlice_toVec] at hvalue
    cases hvalue
    exact .inl ⟨hlog, revision, nextSequence, updatedAt, hrevision, hnext, hstored⟩
  | @changeSet s updatedAt c hs hc =>
    rw [Serde.fromSlice_toVec] at hvalue
    cases hvalue
    exact .inr ⟨s, updatedAt, c, hs, hc, hstored⟩

theorem Represents.exists_listed {id : RecordId}
    (hid : (accountCommitment accountId).toList <+: id) (hvalid : validateId id = .ok ())
    (hrow : (store.entities.lookup (.bitcoinWalletChangeSet, id)).isSome) :
    ∃ record ∈ listed, record.id = id := by
  obtain ⟨row, hrow⟩ := Option.isSome_iff_exists.1 hrow
  obtain ⟨value, hvalue⟩ : ∃ value : StoredBdkWalletJournalRecord D R,
      Serde.fromSlice row.value = some value := by
    cases hr.rows id row hid hrow with
    | head | changeSet => exact ⟨_, Serde.fromSlice_toVec _⟩
  exact ⟨⟨.bitcoinWalletChangeSet, id, row.revision, value, row.updatedAtUnix⟩,
    (mem_of_listEntitiesByIdPrefix hlist).2 ⟨hid, loadEntity_eq_some.2
      ⟨hvalid, hr.unlocked, row, value, hrow, hvalue, rfl⟩⟩, rfl⟩

theorem Represents.pairwise_sorted :
    (listed.insertionSort fun a b => sequenceKey a ≤ sequenceKey b).Pairwise
      fun a b => sequenceKey a < sequenceKey b := by
  have : Std.Total fun a b : StoredEntity (StoredBdkWalletJournalRecord D R) =>
      sequenceKey a ≤ sequenceKey b := ⟨fun a b => Nat.le_total _ _⟩
  have : IsTrans (StoredEntity (StoredBdkWalletJournalRecord D R))
      fun a b => sequenceKey a ≤ sequenceKey b := ⟨fun a b c => Nat.le_trans⟩
  have hsorted := List.pairwise_insertionSort
    (fun a b : StoredEntity (StoredBdkWalletJournalRecord D R) =>
      sequenceKey a ≤ sequenceKey b) listed
  have hids : (listed.insertionSort fun a b => sequenceKey a ≤ sequenceKey b).Pairwise
      fun a b => a.id ≠ b.id := by
    have hnodup := nodup_of_listEntitiesByIdPrefix hlist
    rw [← ((List.perm_insertionSort (fun a b => sequenceKey a ≤ sequenceKey b) listed).map
      StoredEntity.id).nodup_iff] at hnodup
    exact List.pairwise_map.1 hnodup
  refine (hsorted.and hids).imp_of_mem fun {a b} ha hb hab => ?_
  rw [List.mem_insertionSort] at ha hb
  refine Nat.lt_of_le_of_ne hab.1 fun hkey => hab.2 ?_
  rcases hr.listed_cases hlist ha with ⟨-, hheadA⟩ | hchangeA
  · rcases hr.listed_cases hlist hb with ⟨-, hheadB⟩ | hchangeB
    · obtain ⟨_, _, _, -, -, rfl⟩ := hheadA
      obtain ⟨_, _, _, -, -, rfl⟩ := hheadB
      rfl
    · exact absurd (hkey.symm.trans hheadA.sequenceKey_eq) hchangeB.sequenceKey_ne
  · rcases hr.listed_cases hlist hb with ⟨-, hheadB⟩ | hchangeB
    · exact absurd (hkey.trans hheadB.sequenceKey_eq) hchangeA.sequenceKey_ne
    · obtain ⟨s, _, _, -, -, rfl⟩ := hchangeA
      obtain ⟨s', _, _, -, -, rfl⟩ := hchangeB
      have hs : s = s' := UInt64.toNat_inj.1 hkey
      rw [hs]

theorem Represents.listed_nil (hlog : h.log = []) : listed = [] := by
  refine List.eq_nil_iff_forall_not_mem.2 fun record hrecord => ?_
  rcases hr.listed_cases hlist hrecord with ⟨hne, -⟩ | ⟨_, _, _, -, hc, -⟩
  · exact hne hlog
  · rw [hlog] at hc
    cases hc

theorem Represents.sorted_eq_cons (hlog : h.log ≠ []) :
    ∃ head rest, (listed.insertionSort fun a b => sequenceKey a ≤ sequenceKey b) = head :: rest ∧
      IsHead (accountCommitment accountId) h.log head ∧
      ∀ record ∈ rest, IsChangeSet (accountCommitment accountId) h.log record := by
  have hsorted := hr.pairwise_sorted hlist
  have hcases : ∀ record ∈ listed.insertionSort fun a b => sequenceKey a ≤ sequenceKey b,
      (h.log ≠ [] ∧ IsHead (accountCommitment accountId) h.log record) ∨
        IsChangeSet (accountCommitment accountId) h.log record :=
    fun record hrecord => hr.listed_cases hlist ((List.mem_insertionSort _).1 hrecord)
  obtain ⟨record, hrecord, hid⟩ := hr.exists_listed hlist prefix_journalHeadId
    validateId_journalHeadId (hr.head hlog)
  rw [← List.mem_insertionSort fun a b => sequenceKey a ≤ sequenceKey b] at hrecord
  have hrecordHead : IsHead (accountCommitment accountId) h.log record := by
    rcases hcases record hrecord with ⟨-, hhead⟩ | ⟨_, _, _, -, -, rfl⟩
    · exact hhead
    · exact absurd hid journalId_ne_journalHeadId
  generalize (listed.insertionSort fun a b => sequenceKey a ≤ sequenceKey b) = sorted at *
  cases sorted with
  | nil => cases hrecord
  | cons first rest =>
    rw [List.pairwise_cons] at hsorted
    have hfirst : record = first := by
      rcases List.mem_cons.1 hrecord with hfirst | hrest
      · exact hfirst
      · have hlt := hsorted.1 record hrest
        rw [hrecordHead.sequenceKey_eq] at hlt
        exact absurd hlt (Nat.not_lt_zero _)
    subst hfirst
    refine ⟨record, rest, rfl, hrecordHead, fun later hlater => ?_⟩
    rcases hcases later (List.mem_cons_of_mem _ hlater) with ⟨-, hhead⟩ | hchange
    · have hlt := hsorted.1 later hlater
      rw [hhead.sequenceKey_eq] at hlt
      exact absurd hlt (Nat.not_lt_zero _)
    · exact hchange

theorem Represents.loadJournal_eq [DecidableEq D] [DecidableEq R]
    (hlength : listed.length ≤ maxBdkWalletChangesetRecords + 1) {compacted : UInt64}
    (hcompacted : compacted.toNat = h.compacted) :
    ∃ progress, loadJournal (accountCommitment accountId) compacted
        (h.log.take h.compacted).prod listed = .ok progress ∧
      progress.expectedSequence.toNat = h.log.length + 1 ∧ progress.aggregate = h.log.prod ∧
      ∃ revision : UInt64, revision.toNat = h.log.length ∧
        headRevision compacted progress = .ok (revision, decide (h.log ≠ [])) := by
  have hle := h.compacted_le
  have hexpected := toNat_saturatingAdd compacted (by have := hr.fits; omega)
  by_cases hlog : h.log = []
  · have hzero : h.compacted = 0 := by
      rw [hlog] at hle
      exact Nat.le_zero.1 hle
    have hzero' : compacted = 0 := UInt64.toNat_inj.1 (hcompacted.trans hzero)
    refine ⟨_, by rw [hr.listed_nil hlist hlog]; rfl, ?_, ?_, 0, ?_, ?_⟩
    · simp only
      rw [hexpected, hcompacted, hzero, hlog]
      rfl
    · simp only
      rw [hlog, List.take_nil]
    · rw [hlog]
      rfl
    · simp [headRevision, hzero', hlog]
  · obtain ⟨head, rest, hsort, ⟨revision, nextSequence, updatedAt, hrevision, hnext, rfl⟩, hrest⟩ :=
      hr.sorted_eq_cons hlist hlog
    have hsorted := hr.pairwise_sorted hlist
    have hcount := List.length_insertionSort
      (fun a b : StoredEntity (StoredBdkWalletJournalRecord D R) =>
        sequenceKey a ≤ sequenceKey b) listed
    rw [hsort, List.length_cons] at hcount
    rw [hsort, List.pairwise_cons] at hsorted
    have hpos : nextSequence ≠ 0 := by
      rintro rfl
      cases hnext
    obtain ⟨progress, hloop, hend, haggregate, hhead⟩ := loadRecords
      (accountCommitment accountId)
      ⟨saturatingAdd compacted 1, 0, 0, some (revision, nextSequence),
        (h.log.take h.compacted).prod⟩ hcompacted hr.fits hrest hsorted.2
      (by simp only; omega) (by simp only; omega) (by simp only; rw [hexpected, hcompacted]; rfl)
      (by simp only; omega)
      (fun s hs hle' => by
        have hlater := UInt64.le_iff_toNat_le.1 hs
        simp only at hlater
        obtain ⟨record, hrecord, hid⟩ := hr.exists_listed hlist prefix_journalId
          validateId_journalId (hr.live s (by omega) hle')
        rw [← List.mem_insertionSort fun a b => sequenceKey a ≤ sequenceKey b, hsort] at hrecord
        rcases List.mem_cons.1 hrecord with rfl | hrecord
        · exact absurd hid.symm journalId_ne_journalHeadId
        · refine ⟨record, hrecord, ?_⟩
          obtain ⟨s', _, _, -, -, rfl⟩ := hrest record hrecord
          rw [← journalId_inj hid]
          rfl)
      (fun record hrecord => by simp only; omega)
    refine ⟨progress, ?_, hend, haggregate, revision, hrevision, ?_⟩
    · rw [loadJournal, hsort, List.foldlM_cons, loadRecord_head hpos rfl]
      exact hloop
    · have hsame : nextSequence = progress.expectedSequence :=
        UInt64.toNat_inj.1 (hnext.trans hend.symm)
      simp [headRevision, hhead, hsame, hlog]

end Listed

variable {state : InitializedState D R}

structure Knows (h : History D R) (state : InitializedState D R) (m : Nat) : Prop where
  le_length : m ≤ h.log.length
  nextSequence : state.nextSequence.toNat = m + 1
  journalHeadRevision : state.journalHeadRevision.toNat = m
  aggregate : state.aggregate = (h.log.take m).prod
  hadPersistedState : state.hadPersistedState = decide (m ≠ 0)
  snapshotRevision_le : state.snapshotRevision.toNat ≤ h.snapshotRevision
  covers : state.snapshotRevision.toNat = h.snapshotRevision → h.compacted ≤ m

omit [Sha256] in
theorem Knows.mono {h' : History D R} {m : Nat} (hk : Knows h state m) (hle : h ≤ h') :
    Knows h' state m where
  le_length := hk.le_length.trans (h.log_initial hle).length_le
  nextSequence := hk.nextSequence
  journalHeadRevision := hk.journalHeadRevision
  aggregate := by rw [h.take_log hle hk.le_length, hk.aggregate]
  hadPersistedState := hk.hadPersistedState
  snapshotRevision_le := hk.snapshotRevision_le.trans hle.2.1
  covers := by
    intro heq
    have hle' := hk.snapshotRevision_le
    have hrevision := hle.2.1
    rw [← hle.2.2.1 (by omega)]
    exact hk.covers (by omega)

theorem Represents.loadSnapshot_eq (hr : Represents accountId h store)
    (hid : validateId accountId = .ok ()) :
    ∃ stored, store.loadEntity (StoredBdkWalletState D R) .bitcoinWalletState accountId =
        .ok stored ∧
      ∃ revision compacted : UInt64, revision.toNat = h.snapshotRevision ∧
        compacted.toNat = h.compacted ∧ loadSnapshot stored =
          .ok (revision, compacted, (h.log.take h.compacted).prod, decide (h.compacted ≠ 0)) := by
  rcases hr.snapshot with ⟨hrevision, hcompacted, hlookup⟩ |
    ⟨hcompacted, revision, compacted, updatedAt, -, hrevision, hvalue, hlookup⟩
  · refine ⟨none, loadEntity_eq_none.2 ⟨hid, hr.unlocked, hlookup⟩, 0, 0,
      hrevision.symm, hcompacted.symm, ?_⟩
    rw [hcompacted]
    rfl
  · refine ⟨_, loadEntity_eq_some.2 ⟨hid, hr.unlocked, _, _, hlookup,
      Serde.fromSlice_toVec _, rfl⟩, revision, compacted, hrevision, hvalue, ?_⟩
    have hle := h.compacted_le
    have hne : h.log.take h.compacted ≠ [] := by
      intro hnil
      rcases List.take_eq_nil_iff.1 hnil with hzero | hlog
      · exact hcompacted hzero
      · rw [hlog] at hle
        exact hcompacted (Nat.le_zero.1 hle)
    have hcomplete := (h.pinned.of_initial <| List.take_prefix h.compacted _).complete hne
    simp only [loadSnapshot, ok_iff]
    exact ⟨(), validate_snapshotOf.2 hcomplete, by simp [snapshotOf, hcompacted, pure, Except.pure]⟩

theorem validateId_accountCommitment :
    validateId (accountCommitment accountId).toList = .ok () := by
  simp [validateId, refuseIf_eq_ok, maxRecordIdBytes]

section

variable (hr : Represents accountId h store)
include hr

theorem Represents.exists_listing
    (hrows : (store.entitiesByIdPrefix .bitcoinWalletChangeSet
      (accountCommitment accountId).toList).length ≤ maxBdkWalletChangesetRecords + 2) :
    ∃ listed, store.listEntitiesByIdPrefix (StoredBdkWalletJournalRecord D R)
      .bitcoinWalletChangeSet (accountCommitment accountId).toList
      (maxBdkWalletChangesetRecords + 2) = .ok listed := by
  refine exists_listEntitiesByIdPrefix validateId_accountCommitment (by decide)
    hr.unlocked hrows fun id row hstarts hlookup => ?_
  cases hr.rows id row hstarts hlookup with
  | head =>
    exact ⟨_, loadEntity_eq_some.2 ⟨validateId_journalHeadId, hr.unlocked, _, _,
      hlookup, Serde.fromSlice_toVec _, rfl⟩⟩
  | changeSet =>
    exact ⟨_, loadEntity_eq_some.2 ⟨validateId_journalId, hr.unlocked, _, _,
      hlookup, Serde.fromSlice_toVec _, rfl⟩⟩

/-- The rows that there can be: the head, and one for each commit. -/
def journalIds (accountId : RecordId) (commits : Nat) : List RecordId :=
  journalHeadId (accountCommitment accountId) :: (List.range commits).map fun i =>
    journalId (accountCommitment accountId) (.ofNat (i + 1))

theorem Represents.rows_subset : (store.entitiesByIdPrefix .bitcoinWalletChangeSet
    (accountCommitment accountId).toList).map Prod.fst ⊆ journalIds accountId h.log.length := by
  intro id hmem
  obtain ⟨⟨id', row⟩, hrow, rfl⟩ := List.mem_map.1 hmem
  obtain ⟨hstarts, hlookup⟩ := mem_entitiesByIdPrefix.1 hrow
  cases hr.rows id' row hstarts hlookup with
  | head => exact List.mem_cons_self
  | @changeSet s updatedAt c hs hc =>
    have hlt := (List.getElem?_eq_some_iff.1 hc).1
    have hpos : s.toNat ≠ 0 := fun hzero => hs (UInt64.toNat_inj.1 hzero)
    refine List.mem_cons_of_mem _ (List.mem_map.2 ⟨s.toNat - 1, List.mem_range.2 hlt, ?_⟩)
    rw [Nat.sub_add_cancel (by omega), UInt64.ofNat_toNat]

theorem Represents.length_rows_le : (store.entitiesByIdPrefix .bitcoinWalletChangeSet
    (accountCommitment accountId).toList).length ≤ h.log.length + 1 := by
  have hlength := ((nodup_entitiesByIdPrefix store).subperm hr.rows_subset).length_le
  simpa [journalIds] using hlength

theorem Represents.length_rows (hcompacted : h.compacted = 0) (hlog : h.log ≠ []) :
    (store.entitiesByIdPrefix .bitcoinWalletChangeSet
      (accountCommitment accountId).toList).length = h.log.length + 1 := by
  have hfits := hr.fits
  have hnat : ∀ i, i < h.log.length → (UInt64.ofNat (i + 1)).toNat = i + 1 := fun i hi =>
    UInt64.toNat_ofNat_of_lt (show i + 1 < UInt64.size by omega)
  have hnodup : (journalIds accountId h.log.length).Nodup := by
    refine List.nodup_cons.2 ⟨fun hmem => ?_, ?_⟩
    · obtain ⟨i, -, hi⟩ := List.mem_map.1 hmem
      exact journalId_ne_journalHeadId hi
    · refine List.Nodup.map_on (fun i hi j hj hij => ?_) List.nodup_range
      have heq := congrArg UInt64.toNat (journalId_inj hij)
      rw [hnat i (List.mem_range.1 hi), hnat j (List.mem_range.1 hj)] at heq
      omega
  have hlive : journalIds accountId h.log.length ⊆ (store.entitiesByIdPrefix
      .bitcoinWalletChangeSet (accountCommitment accountId).toList).map Prod.fst := by
    intro id hmem
    have hsome : (accountCommitment accountId).toList <+: id ∧
        (store.entities.lookup (.bitcoinWalletChangeSet, id)).isSome := by
      rcases List.mem_cons.1 hmem with rfl | hmem
      · exact ⟨prefix_journalHeadId, hr.head hlog⟩
      · obtain ⟨i, hi, rfl⟩ := List.mem_map.1 hmem
        have hi := List.mem_range.1 hi
        exact ⟨prefix_journalId, hr.live _ (by rw [hnat i hi]; omega) (by rw [hnat i hi]; omega)⟩
    obtain ⟨row, hrow⟩ := Option.isSome_iff_exists.1 hsome.2
    exact List.mem_map.2 ⟨(id, row), mem_entitiesByIdPrefix.2 ⟨hsome.1, hrow⟩, rfl⟩
  have hlength := (hnodup.subperm hlive).length_le
  rw [journalIds, List.length_cons, List.length_map, List.length_range, List.length_map] at hlength
  exact Nat.le_antisymm hr.length_rows_le hlength

variable [DecidableEq D] [DecidableEq R]

theorem Represents.loadState_full (hid : validateId accountId = .ok ())
    (hrows : (store.entitiesByIdPrefix .bitcoinWalletChangeSet
      (accountCommitment accountId).toList).length = maxBdkWalletChangesetRecords + 2) :
    (loadState store accountId : Except BitcoinWalletError (PersisterState D R)) =
      .error .corruptBitcoinWalletState := by
  obtain ⟨stored, hload, revision, compacted, -, -, hsnapshot⟩ := hr.loadSnapshot_eq hid
  obtain ⟨listed, hlist⟩ := hr.exists_listing hrows.le
  have hlength : listed.length = maxBdkWalletChangesetRecords + 2 := by
    rw [length_of_listEntitiesByIdPrefix hlist, hrows]
  have hfull : maxBdkWalletChangesetRecords + 1 < listed.length := by omega
  simp only [loadState, hload, hlist, Except.mapError, bind, Except.bind, hsnapshot]
  rw [refuseIf, if_pos hfull]

theorem Represents.loadState_eq (hid : validateId accountId = .ok ())
    (hrows : (store.entitiesByIdPrefix .bitcoinWalletChangeSet
      (accountCommitment accountId).toList).length ≤ maxBdkWalletChangesetRecords + 1) :
    ∃ state : InitializedState D R, loadState store accountId = .ok (.initialized state) ∧
      Knows h state h.log.length := by
  obtain ⟨stored, hload, revision, compacted, hrevision, hcompacted, hsnapshot⟩ :=
    hr.loadSnapshot_eq hid
  obtain ⟨listed, hlist⟩ := hr.exists_listing (hrows.trans (Nat.le_succ _))
  have hlength : listed.length ≤ maxBdkWalletChangesetRecords + 1 := by
    rw [length_of_listEntitiesByIdPrefix hlist]
    exact hrows
  obtain ⟨progress, hjournal, hend, haggregate, headRev, hheadRev, hhead⟩ :=
    hr.loadJournal_eq hlist hlength hcompacted
  have hle := h.compacted_le
  have hhad : (decide (h.compacted ≠ 0) || decide (h.log ≠ [])) =
      decide (h.log.length ≠ 0) := by
    have hlog : h.log ≠ [] ↔ h.log.length ≠ 0 := List.length_eq_zero_iff.not.symm
    rw [← Bool.decide_or, decide_eq_decide, hlog]
    omega
  refine ⟨⟨revision, headRev, progress.expectedSequence, progress.activeJournalRecords,
    decide (h.log.length ≠ 0), progress.aggregate⟩, ?_, ?_⟩
  · simp only [loadState, ok_iff]
    refine ⟨stored, hload, listed, hlist, _, hsnapshot, (), Nat.not_lt.2 hlength, progress,
      hjournal,
      _, hhead, (), ?_, ?_⟩
    · rintro ⟨hpersisted, hnone⟩
      rw [hhad, decide_eq_true_eq, Ne, List.length_eq_zero_iff] at hpersisted
      obtain ⟨hdescriptor, hchange, hnetwork⟩ := h.pinned.complete hpersisted
      rw [haggregate, ← Option.not_isSome, ← Option.not_isSome, ← Option.not_isSome, hdescriptor,
        hchange, hnetwork] at hnone
      simp at hnone
    · rw [hhad]
      rfl
  · exact ⟨le_refl _, hend, hheadRev, by rw [haggregate, List.take_length], rfl, hrevision.le,
      fun _ => hle⟩

theorem Represents.knows_of_loadState (hid : validateId accountId = .ok ())
    (hload : loadState store accountId = .ok (.initialized state)) :
    Knows h state h.log.length := by
  have hrows : (store.entitiesByIdPrefix .bitcoinWalletChangeSet
      (accountCommitment accountId).toList).length ≤ maxBdkWalletChangesetRecords + 1 := by
    have hload' := hload
    simp only [loadState, ok_iff] at hload'
    obtain ⟨_, -, listed, hlist, _, -, _, hlength, -⟩ := hload'
    rw [← length_of_listEntitiesByIdPrefix hlist]
    exact Nat.not_lt.1 hlength
  obtain ⟨state', hload', hknows⟩ := hr.loadState_eq hid hrows
  cases hload.symm.trans hload'
  exact hknows

end

end Reading

end BdkWalletStorePersister

end HnsWallet
