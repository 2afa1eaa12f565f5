import HnsWallet.Types

/-! # The transaction graph of the Bitcoin wallet -/

namespace HnsWallet

open Lib

inductive KeychainKind where
  | external
  | internal
deriving DecidableEq, Repr

/-- An outpoint as the graph keeps it, its index without a bound. -/
structure OutputPlace where
  txid : Bytes 32
  vout : Nat
deriving DecidableEq

structure BlockTransaction where
  txid : Bytes 32
  inputs : List OutputPlace
  outputs : List (List UInt8)
deriving DecidableEq

/-- A block as a peer delivers it.  Its hash is of a type of which only the order is
known. -/
structure IndexedBlock (H : Type) where
  hash : H
  height : UInt32
  time : UInt32
  txdata : List BlockTransaction

structure ConfirmationBlockTime (H : Type) where
  hash : H
  height : UInt32
  confirmationTime : UInt64

def IndexedBlock.anchor {H : Type} (block : IndexedBlock H) : ConfirmationBlockTime H :=
  ⟨block.hash, block.height, block.time.toUInt64⟩

class Descriptors where
  script : KeychainKind → Nat → List UInt8

structure KeychainTxOutIndex where
  lookahead : Nat
  lastRevealed : KeychainKind → Option Nat
  txouts : List (OutputPlace × KeychainKind × Nat)

section Index

variable {index index' index'' : KeychainTxOutIndex} {script : List UInt8} {outpoint : OutputPlace}
  {tx : BlockTransaction}

def KeychainTxOutIndex.knownScripts (index : KeychainTxOutIndex) (keychain : KeychainKind) : Nat :=
  (match index.lastRevealed keychain with
    | none => 0
    | some last => last + 1) + index.lookahead

def KeychainTxOutIndex.contains (index : KeychainTxOutIndex) (outpoint : OutputPlace) : Bool :=
  index.txouts.any fun entry => entry.1 = outpoint

def KeychainTxOutIndex.reveal (index : KeychainTxOutIndex) (keychain : KeychainKind) (i : Nat) :
    KeychainTxOutIndex :=
  { index with lastRevealed := fun k =>
      if k = keychain ∧ (index.lastRevealed k).all (· < i) then some i else index.lastRevealed k }

structure KeychainTxOutIndex.Grows (index index' : KeychainTxOutIndex) : Prop where
  known : ∀ keychain, index.knownScripts keychain ≤ index'.knownScripts keychain
  contains : ∀ outpoint, index.contains outpoint → index'.contains outpoint

theorem KeychainTxOutIndex.Grows.refl (index : KeychainTxOutIndex) : index.Grows index :=
  ⟨fun _ => Nat.le_refl _, fun _ h => h⟩

theorem KeychainTxOutIndex.Grows.trans (h : index.Grows index') (h' : index'.Grows index'') :
    index.Grows index'' :=
  ⟨fun k => Nat.le_trans (h.known k) (h'.known k), fun o ho => h'.contains o (h.contains o ho)⟩

theorem KeychainTxOutIndex.knownScripts_reveal (keychain k : KeychainKind) (i : Nat) :
    index.knownScripts k ≤ (index.reveal keychain i).knownScripts k := by
  by_cases hk : k = keychain ∧ (index.lastRevealed k).all (· < i)
  · simp only [knownScripts, reveal, if_pos hk]
    cases hlast : index.lastRevealed k with
    | none => simp
    | some last =>
      have hlt : last < i := by simpa [hlast] using hk.2
      show last + 1 + index.lookahead ≤ i + 1 + index.lookahead
      omega
  · simp only [knownScripts, reveal, if_neg hk, Nat.le_refl]

variable [Descriptors]

def KeychainTxOutIndex.indexOfScript (index : KeychainTxOutIndex) (script : List UInt8) :
    Option (KeychainKind × Nat) :=
  let place (keychain : KeychainKind) : Option (KeychainKind × Nat) :=
    ((List.range (index.knownScripts keychain)).find?
      fun i => Descriptors.script keychain i = script).map (keychain, ·)
  (place .external).or (place .internal)

def KeychainTxOutIndex.recognises (index : KeychainTxOutIndex) (script : List UInt8) : Bool :=
  (index.indexOfScript script).isSome

def KeychainTxOutIndex.indexTxout (index : KeychainTxOutIndex) (outpoint : OutputPlace)
    (script : List UInt8) : KeychainTxOutIndex :=
  match index.indexOfScript script with
  | none => index
  | some (keychain, i) =>
    { index.reveal keychain i with txouts := (outpoint, keychain, i) :: index.txouts }

def KeychainTxOutIndex.indexTx (index : KeychainTxOutIndex) (tx : BlockTransaction) :
    KeychainTxOutIndex :=
  tx.outputs.zipIdx.foldl (fun index (script, vout) => index.indexTxout ⟨tx.txid, vout⟩ script)
    index

def KeychainTxOutIndex.isTxRelevant (index : KeychainTxOutIndex) (tx : BlockTransaction) : Bool :=
  tx.inputs.any index.contains || tx.outputs.any index.recognises

def KeychainTxOutIndex.lastUsedIndex (index : KeychainTxOutIndex) (keychain : KeychainKind) :
    Option Nat :=
  ((index.txouts.filter fun entry => entry.2.1 = keychain).map fun entry => entry.2.2).max?

theorem KeychainTxOutIndex.recognises_iff : index.recognises script = true ↔
    ∃ keychain, ∃ i < index.knownScripts keychain, Descriptors.script keychain i = script := by
  simp only [recognises, indexOfScript, Option.isSome_or, Option.isSome_map, Bool.or_eq_true,
    List.find?_isSome, List.mem_range, decide_eq_true_eq]
  constructor
  · rintro (⟨i, hi, hs⟩ | ⟨i, hi, hs⟩)
    · exact ⟨.external, i, hi, hs⟩
    · exact ⟨.internal, i, hi, hs⟩
  · rintro ⟨keychain, i, hi, hs⟩
    cases keychain with
    | external => exact .inl ⟨i, hi, hs⟩
    | internal => exact .inr ⟨i, hi, hs⟩

theorem KeychainTxOutIndex.Grows.recognises (h : index.Grows index')
    (hs : index.recognises script = true) : index'.recognises script = true := by
  obtain ⟨keychain, i, hi, hscript⟩ := recognises_iff.1 hs
  exact recognises_iff.2 ⟨keychain, i, Nat.lt_of_lt_of_le hi (h.known keychain), hscript⟩

theorem KeychainTxOutIndex.indexTxout_contains {o : OutputPlace} :
    (index.indexTxout outpoint script).contains o = true ↔
      index.contains o = true ∨ index.recognises script = true ∧ o = outpoint := by
  cases hfind : index.indexOfScript script with
  | none => simp [indexTxout, hfind, recognises]
  | some place =>
    simp only [indexTxout, hfind, contains, List.any_cons, Bool.or_eq_true, decide_eq_true_eq,
      recognises, Option.isSome_some, true_and]
    exact ⟨fun h => h.elim (fun h => .inr h.symm) Or.inl,
      fun h => h.elim Or.inr fun h => .inl h.symm⟩

theorem KeychainTxOutIndex.indexTxout_grows : index.Grows (index.indexTxout outpoint script) := by
  refine ⟨fun k => ?_, fun o ho => indexTxout_contains.2 (.inl ho)⟩
  cases hfind : index.indexOfScript script with
  | none => simp [indexTxout, hfind]
  | some place =>
    simp only [indexTxout, hfind]
    exact knownScripts_reveal _ _ _

theorem KeychainTxOutIndex.foldl_indexTxout (txid : Bytes 32)
    (outputs : List (List UInt8 × Nat)) (index : KeychainTxOutIndex) :
    index.Grows (outputs.foldl (fun index (script, vout) => index.indexTxout ⟨txid, vout⟩ script)
      index) ∧
    ∀ output ∈ outputs, index.recognises output.1 = true →
      (outputs.foldl (fun index (script, vout) => index.indexTxout ⟨txid, vout⟩ script)
        index).contains ⟨txid, output.2⟩ = true := by
  induction outputs generalizing index with
  | nil => exact ⟨.refl _, nofun⟩
  | cons head outputs ih =>
    obtain ⟨hgrows, hall⟩ := ih (index.indexTxout ⟨txid, head.2⟩ head.1)
    refine ⟨indexTxout_grows.trans hgrows, fun output houtput hs => ?_⟩
    rcases List.mem_cons.1 houtput with rfl | htail
    · exact hgrows.contains _ (indexTxout_contains.2 (.inr ⟨hs, rfl⟩))
    · exact hall output htail (indexTxout_grows.recognises hs)

theorem KeychainTxOutIndex.indexTx_grows : index.Grows (index.indexTx tx) :=
  (foldl_indexTxout tx.txid tx.outputs.zipIdx index).1

def BlockTransaction.Pays (tx : BlockTransaction) (vout : Nat) (script : List UInt8) : Prop :=
  tx.outputs[vout]? = some script

theorem KeychainTxOutIndex.indexTx_contains {vout : Nat} (hpays : tx.Pays vout script)
    (hs : index.recognises script = true) :
    (index.indexTx tx).contains ⟨tx.txid, vout⟩ = true :=
  (foldl_indexTxout tx.txid tx.outputs.zipIdx index).2 (script, vout)
    (List.mem_zipIdx_iff_getElem?.2 hpays) hs

end Index

structure IndexedTxGraph (H : Type) where
  index : KeychainTxOutIndex
  txs : List BlockTransaction
  anchors : List (Bytes 32 × ConfirmationBlockTime H)

section Graph

variable {H : Type} {graph graph' graph'' : IndexedTxGraph H} {tx : BlockTransaction}
  {anchor : ConfirmationBlockTime H} {block : IndexedBlock H}

def IndexedTxGraph.insertAnchor (graph : IndexedTxGraph H) (txid : Bytes 32)
    (anchor : ConfirmationBlockTime H) : IndexedTxGraph H :=
  { graph with anchors := (txid, anchor) :: graph.anchors }

structure IndexedTxGraph.Keeps (graph : IndexedTxGraph H) (tx : BlockTransaction)
    (anchor : ConfirmationBlockTime H) : Prop where
  mem : tx ∈ graph.txs
  anchored : (tx.txid, anchor) ∈ graph.anchors

structure IndexedTxGraph.Grows (graph graph' : IndexedTxGraph H) : Prop where
  index : graph.index.Grows graph'.index
  txs : ∀ tx ∈ graph.txs, tx ∈ graph'.txs
  anchors : ∀ a ∈ graph.anchors, a ∈ graph'.anchors

theorem IndexedTxGraph.Grows.refl (graph : IndexedTxGraph H) : graph.Grows graph :=
  ⟨.refl _, fun _ h => h, fun _ h => h⟩

theorem IndexedTxGraph.Grows.trans (h : graph.Grows graph') (h' : graph'.Grows graph'') :
    graph.Grows graph'' :=
  ⟨h.index.trans h'.index, fun t ht => h'.txs t (h.txs t ht),
    fun a ha => h'.anchors a (h.anchors a ha)⟩

theorem IndexedTxGraph.Keeps.mono (h : graph.Keeps tx anchor) (hg : graph.Grows graph') :
    graph'.Keeps tx anchor :=
  ⟨hg.txs _ h.mem, hg.anchors _ h.anchored⟩

theorem IndexedTxGraph.insertAnchor_grows {txid : Bytes 32} :
    graph.Grows (graph.insertAnchor txid anchor) :=
  ⟨.refl _, fun _ h => h, fun _ h => List.mem_cons_of_mem _ h⟩

variable [Descriptors]

def IndexedTxGraph.insertTx (graph : IndexedTxGraph H) (tx : BlockTransaction) :
    IndexedTxGraph H :=
  { graph with index := graph.index.indexTx tx, txs := graph.txs.insert tx }

def IndexedTxGraph.applyTxRelevant (anchor : ConfirmationBlockTime H) (graph : IndexedTxGraph H)
    (tx : BlockTransaction) : IndexedTxGraph H :=
  let index := graph.index.indexTx tx
  if index.isTxRelevant tx then
    ⟨index, graph.txs.insert tx, (tx.txid, anchor) :: graph.anchors⟩
  else { graph with index }

def IndexedTxGraph.applyBlockRelevant (graph : IndexedTxGraph H) (block : IndexedBlock H) :
    IndexedTxGraph H :=
  block.txdata.foldl (applyTxRelevant block.anchor) graph

theorem IndexedTxGraph.insertTx_grows : graph.Grows (graph.insertTx tx) :=
  ⟨KeychainTxOutIndex.indexTx_grows, fun _ h => List.mem_insert_of_mem h, fun _ h => h⟩

theorem IndexedTxGraph.applyTxRelevant_index :
    (graph.applyTxRelevant anchor tx).index = graph.index.indexTx tx := by
  rw [applyTxRelevant]
  split <;> rfl

theorem IndexedTxGraph.applyTxRelevant_grows : graph.Grows (graph.applyTxRelevant anchor tx) := by
  rw [applyTxRelevant]
  split
  · exact ⟨KeychainTxOutIndex.indexTx_grows, fun _ h => List.mem_insert_of_mem h,
      fun _ h => List.mem_cons_of_mem _ h⟩
  · exact ⟨KeychainTxOutIndex.indexTx_grows, fun _ h => h, fun _ h => h⟩

theorem IndexedTxGraph.applyTxRelevant_keeps (h : (∃ o ∈ tx.inputs, graph.index.contains o = true) ∨
      ∃ vout script, tx.Pays vout script ∧ graph.index.recognises script = true) :
    (graph.applyTxRelevant anchor tx).Keeps tx anchor := by
  have hgrows : graph.index.Grows (graph.index.indexTx tx) := KeychainTxOutIndex.indexTx_grows
  have hrelevant : (graph.index.indexTx tx).isTxRelevant tx = true := by
    rw [KeychainTxOutIndex.isTxRelevant, Bool.or_eq_true, List.any_eq_true, List.any_eq_true]
    rcases h with ⟨o, ho, hin⟩ | ⟨vout, script, hpays, hs⟩
    · exact .inl ⟨o, ho, hgrows.contains o hin⟩
    · exact .inr ⟨script, List.mem_of_getElem? hpays, hgrows.recognises hs⟩
  rw [applyTxRelevant, if_pos hrelevant]
  exact ⟨List.mem_insert_self, List.mem_cons_self⟩

theorem IndexedTxGraph.foldl_applyTxRelevant_grows (txs : List BlockTransaction)
    (graph : IndexedTxGraph H) : graph.Grows (txs.foldl (applyTxRelevant anchor) graph) := by
  induction txs generalizing graph with
  | nil => exact .refl _
  | cons tx txs ih => exact applyTxRelevant_grows.trans (ih _)

theorem IndexedTxGraph.applyBlockRelevant_grows : graph.Grows (graph.applyBlockRelevant block) :=
  foldl_applyTxRelevant_grows _ _

theorem IndexedTxGraph.foldl_applyTxRelevant_contains {txs : List BlockTransaction} {vout : Nat}
    {script : List UInt8} (hmem : tx ∈ txs) (hpays : tx.Pays vout script)
    (hs : graph.index.recognises script = true) :
    (txs.foldl (applyTxRelevant anchor) graph).index.contains ⟨tx.txid, vout⟩ = true := by
  obtain ⟨before, after, rfl⟩ := List.append_of_mem hmem
  have hbefore : graph.Grows (before.foldl (applyTxRelevant anchor) graph) :=
    foldl_applyTxRelevant_grows _ _
  rw [List.foldl_append, List.foldl_cons]
  refine (foldl_applyTxRelevant_grows _ _).index.contains _ ?_
  rw [applyTxRelevant_index]
  exact KeychainTxOutIndex.indexTx_contains hpays (hbefore.index.recognises hs)

/-- A block is in the order of the chain: a transaction comes after those it spends. -/
def IndexedBlock.ParentsFirst (block : IndexedBlock H) : Prop :=
  ∀ before tx after, block.txdata = before ++ tx :: after →
    ∀ o ∈ tx.inputs, ∀ parent ∈ block.txdata, o.txid = parent.txid → parent ∈ before

theorem IndexedTxGraph.applyBlockRelevant_keeps (hmem : tx ∈ block.txdata)
    (hparents : block.ParentsFirst)
    (h : (∃ vout script, tx.Pays vout script ∧ graph.index.recognises script = true) ∨
      (∃ o ∈ tx.inputs, graph.index.contains o = true) ∨
      ∃ parent ∈ block.txdata, ∃ vout script, parent.Pays vout script ∧
        graph.index.recognises script = true ∧ ⟨parent.txid, vout⟩ ∈ tx.inputs) :
    (graph.applyBlockRelevant block).Keeps tx block.anchor := by
  obtain ⟨before, after, hsplit⟩ := List.append_of_mem hmem
  have hbefore : graph.Grows (before.foldl (applyTxRelevant block.anchor) graph) :=
    foldl_applyTxRelevant_grows _ _
  rw [applyBlockRelevant, hsplit, List.foldl_append, List.foldl_cons]
  refine Keeps.mono ?_ (foldl_applyTxRelevant_grows _ _)
  apply applyTxRelevant_keeps
  rcases h with ⟨vout, script, hpays, hs⟩ | ⟨o, ho, hin⟩ |
    ⟨parent, hparent, vout, script, hpays, hs, ho⟩
  · exact .inr ⟨vout, script, hpays, hbefore.index.recognises hs⟩
  · exact .inl ⟨o, ho, hbefore.index.contains o hin⟩
  · have hfirst := hparents before tx after hsplit _ ho parent hparent rfl
    exact .inl ⟨_, ho, foldl_applyTxRelevant_contains hfirst hpays hs⟩

theorem IndexedTxGraph.applyBlockRelevant_contains {vout : Nat} {script : List UInt8}
    (hmem : tx ∈ block.txdata) (hpays : tx.Pays vout script)
    (hs : graph.index.recognises script = true) :
    (graph.applyBlockRelevant block).index.contains ⟨tx.txid, vout⟩ = true :=
  foldl_applyTxRelevant_contains hmem hpays hs

end Graph

end HnsWallet
