import CasperAccumulator.Types

/-
  The block acceptor: one per tracked block hash, holding the block (once gossiped), the peers that
  vouched for it, the finality signatures collected for it and its era's weight table (once known).

  `block_acceptor.rs` is not under `src/`: the accumulator only calls it.  The model below is
  reconstructed from the call sites and from the spec's contract (§3, §4.2, §7, §8):

  * `register_block` rejects a block for another hash (`BlockHashMismatch`), one that fails
    verification (`InvalidGossip`) and one whose era differs from the era it already knows
    (`EraMismatch`); otherwise it stores the block and drops signatures of any other era;
  * `register_finality_signature` rejects in the same three ways; a signer seen before changes
    nothing; a new signature is `SingleSignature` while the quorum is not reached,
    `SufficientlySignedBlock` when it makes the quorum with the block known, and `Nothing` once
    the quorum was reached before it (the §8 scenario);
  * every rejection leaves the acceptor as it was (§7: "acceptor state left unmodified");
  * `has_sufficient_finality` is the quorum test of the known weight table over the signers.

  What the accumulator's own proofs use of it is collected at the end: a fresh acceptor knows no
  height and has no finality, only `register_block` sets a height (to the registered block's),
  signatures never set the block, and no quorum is reached without a signature.
-/

namespace CasperAccumulator

/-- Modelled from the spec: `BlockAcceptor` (`block_accumulator/block_acceptor.rs`, not under
    `src/`), with the fields of spec §3. -/
structure BlockAcceptor where
  blockHash : BlockHash
  block : Option Block
  signatures : List FinalitySignature
  peers : List NodeId
  eraValidatorWeights : Option EraValidatorWeights
deriving DecidableEq, Repr

namespace BlockAcceptor

/-- `BlockAcceptor::new`. -/
def new (blockHash : BlockHash) (peers : List NodeId) : BlockAcceptor :=
  ⟨blockHash, none, [], peers, none⟩

/-- `BlockAcceptor::new_with_validator_weights`. -/
def newWithValidatorWeights (blockHash : BlockHash) (eraValidatorWeights : EraValidatorWeights)
    (peers : List NodeId) : BlockAcceptor :=
  ⟨blockHash, none, [], peers, some eraValidatorWeights⟩

/-- `has_sufficient_finality`: the signers reach the quorum of the known weight table. -/
def hasSufficientFinality (a : BlockAcceptor) : Bool :=
  match a.eraValidatorWeights with
  | some weights => weights.hasSufficientWeight (a.signatures.map (·.publicKey))
  | none => false

/-- `era_id`: the block's era, else the era of the weight table, else unknown. -/
def eraId (a : BlockAcceptor) : Option EraId :=
  match a.block with
  | some block => some block.header.eraId
  | none => a.eraValidatorWeights.map (·.eraId)

/-- `block_height`: `None` until the block is known. -/
def blockHeight (a : BlockAcceptor) : Option Nat :=
  a.block.map (·.header.height)

/-- `block_era_and_height`. -/
def blockEraAndHeight (a : BlockAcceptor) : Option (EraId × Nat) :=
  a.block.map fun block => (block.header.eraId, block.header.height)

/-- `register_peer`: the vouching peers form a set. -/
def registerPeer (a : BlockAcceptor) (peer : NodeId) : BlockAcceptor :=
  if peer ∈ a.peers then a else { a with peers := a.peers ++ [peer] }

/-- `register_block`: validation, then the block is stored and stale-era signatures dropped. -/
def registerBlock (a : BlockAcceptor) (block : Block) (peer : NodeId) :
    BlockAcceptor × Except Error Unit :=
  if block.hash ≠ a.blockHash then (a, .error (.blockHashMismatch a.blockHash block.hash peer))
  else if !block.verified then (a, .error (.invalidGossip peer))
  else if a.eraId.any (· ≠ block.header.eraId) then (a, .error .eraMismatch)
  else
    ({ a.registerPeer peer with
        block := some block
        signatures := a.signatures.filter (·.eraId == block.header.eraId) }, .ok ())

/-- `register_finality_signature`: validation, then the §4.1 verdict on what to persist. -/
def registerFinalitySignature (a : BlockAcceptor) (fs : FinalitySignature) (peer : NodeId) :
    BlockAcceptor × Except Error ShouldStore :=
  if fs.blockHash ≠ a.blockHash then (a, .error (.blockHashMismatch a.blockHash fs.blockHash peer))
  else if !fs.verified then (a, .error (.invalidGossip peer))
  else if a.eraId.any (· ≠ fs.eraId) then (a, .error .eraMismatch)
  else if a.signatures.any (·.publicKey == fs.publicKey) then (a.registerPeer peer, .ok .nothing)
  else
    let signed := { a.registerPeer peer with signatures := a.signatures ++ [fs] }
    (signed, .ok <|
      if a.hasSufficientFinality then .nothing
      else
        match signed.hasSufficientFinality, signed.block with
        | true, some block => .sufficientlySignedBlock block signed.signatures
        | _, _ => .singleSignature fs)

/-- `refresh`: attach a new weight table, keeping only its validators' signatures. -/
def refresh (a : BlockAcceptor) (weights : EraValidatorWeights) : BlockAcceptor :=
  { a with
    eraValidatorWeights := some weights
    signatures := a.signatures.filter (fun fs => weights.isValidator fs.publicKey) }

/-! ## What the accumulator relies on -/

@[simp] theorem new_blockHeight (h : BlockHash) (peers : List NodeId) :
    (new h peers).blockHeight = none := rfl

@[simp] theorem newWithValidatorWeights_blockHeight (h : BlockHash) (w : EraValidatorWeights)
    (peers : List NodeId) : (newWithValidatorWeights h w peers).blockHeight = none := rfl

@[simp] theorem new_hasSufficientFinality (h : BlockHash) (peers : List NodeId) :
    (new h peers).hasSufficientFinality = false := rfl

/-- No signer, no quorum: the signed weight of nobody is `0`. -/
@[simp] theorem newWithValidatorWeights_hasSufficientFinality (h : BlockHash)
    (w : EraValidatorWeights) (peers : List NodeId) :
    (newWithValidatorWeights h w peers).hasSufficientFinality = false := by
  simp [newWithValidatorWeights, hasSufficientFinality, EraValidatorWeights.hasSufficientWeight,
    EraValidatorWeights.signedWeight]

@[simp] theorem registerPeer_block (a : BlockAcceptor) (peer : NodeId) :
    (a.registerPeer peer).block = a.block := by
  unfold registerPeer; split <;> rfl

/-- A block leaves the acceptor as it was, or becomes its block, with the peer registered and
    the signatures of other eras dropped. -/
theorem registerBlock_fst (a : BlockAcceptor) (block : Block) (peer : NodeId) :
    (a.registerBlock block peer).1 = a ∨
      (a.registerBlock block peer).1 = { a.registerPeer peer with
        block := some block
        signatures := a.signatures.filter (·.eraId == block.header.eraId) } := by
  unfold registerBlock
  split_ifs
  · exact .inl rfl
  · exact .inl rfl
  · exact .inl rfl
  · exact .inr rfl

/-- A registered block either fails, leaving the height, or becomes the acceptor's block. -/
theorem registerBlock_blockHeight (a : BlockAcceptor) (block : Block) (peer : NodeId) :
    (a.registerBlock block peer).1.blockHeight = a.blockHeight ∨
      (a.registerBlock block peer).1.blockHeight = some block.header.height := by
  rcases registerBlock_fst a block peer with h | h <;> rw [h]
  · exact .inl rfl
  · exact .inr rfl

@[simp] theorem registerPeer_blockHash (a : BlockAcceptor) (peer : NodeId) :
    (a.registerPeer peer).blockHash = a.blockHash := by
  unfold registerPeer; split <;> rfl

/-- Every path through `register_finality_signature`: a rejection, which leaves the acceptor as
    it was; a signer seen before, which only registers the peer; or a new signer, registered
    with the §4.1 verdict. -/
theorem registerFinalitySignature_cases (a : BlockAcceptor) (fs : FinalitySignature)
    (peer : NodeId) :
    (∃ e, a.registerFinalitySignature fs peer = (a, .error e)) ∨
      a.registerFinalitySignature fs peer = (a.registerPeer peer, .ok .nothing) ∨
      a.registerFinalitySignature fs peer =
        let signed := { a.registerPeer peer with signatures := a.signatures ++ [fs] }
        (signed, .ok <|
          if a.hasSufficientFinality then .nothing
          else
            match signed.hasSufficientFinality, signed.block with
            | true, some block => .sufficientlySignedBlock block signed.signatures
            | _, _ => .singleSignature fs) := by
  unfold registerFinalitySignature
  by_cases h1 : fs.blockHash ≠ a.blockHash
  · rw [if_pos h1]; exact .inl ⟨_, rfl⟩
  rw [if_neg h1]
  by_cases h2 : (!fs.verified) = true
  · rw [if_pos h2]; exact .inl ⟨_, rfl⟩
  rw [if_neg h2]
  by_cases h3 : a.eraId.any (· ≠ fs.eraId) = true
  · rw [if_pos h3]; exact .inl ⟨_, rfl⟩
  rw [if_neg h3]
  by_cases h4 : a.signatures.any (·.publicKey == fs.publicKey) = true
  · rw [if_pos h4]; exact .inr (.inl rfl)
  rw [if_neg h4]
  exact .inr (.inr rfl)

/-- Without a block, no signature makes the acceptor's block sufficiently signed: the verdict is
    an error, nothing, or the signature on its own. -/
theorem registerFinalitySignature_of_block_none {a : BlockAcceptor} (h : a.block = none)
    (fs : FinalitySignature) (peer : NodeId) :
    (∃ e, (a.registerFinalitySignature fs peer).2 = .error e) ∨
      (a.registerFinalitySignature fs peer).2 = .ok .nothing ∨
      (a.registerFinalitySignature fs peer).2 = .ok (.singleSignature fs) := by
  rcases registerFinalitySignature_cases a fs peer with ⟨e, hr⟩ | hr | hr <;> rw [hr]
  · exact .inl ⟨e, rfl⟩
  · exact .inr (.inl rfl)
  dsimp only
  by_cases h5 : a.hasSufficientFinality = true
  · rw [if_pos h5]; exact .inr (.inl rfl)
  rw [if_neg h5, registerPeer_block, h]
  split
  · rename_i hb; cases hb
  · exact .inr (.inr rfl)

/-- Signatures never touch the block. -/
@[simp] theorem registerFinalitySignature_block (a : BlockAcceptor) (fs : FinalitySignature)
    (peer : NodeId) : (a.registerFinalitySignature fs peer).1.block = a.block := by
  rcases registerFinalitySignature_cases a fs peer with ⟨e, h⟩ | h | h <;> simp [h]

@[simp] theorem registerFinalitySignature_blockHash (a : BlockAcceptor) (fs : FinalitySignature)
    (peer : NodeId) : (a.registerFinalitySignature fs peer).1.blockHash = a.blockHash := by
  rcases registerFinalitySignature_cases a fs peer with ⟨e, h⟩ | h | h <;> simp [h]

@[simp] theorem registerBlock_blockHash (a : BlockAcceptor) (block : Block) (peer : NodeId) :
    (a.registerBlock block peer).1.blockHash = a.blockHash := by
  rcases registerBlock_fst a block peer with h | h <;> simp [h]

@[simp] theorem refresh_block (a : BlockAcceptor) (weights : EraValidatorWeights) :
    (a.refresh weights).block = a.block := rfl

@[simp] theorem registerPeer_signatures (a : BlockAcceptor) (peer : NodeId) :
    (a.registerPeer peer).signatures = a.signatures := by
  unfold registerPeer; split <;> rfl

/-- No signature, no quorum. -/
theorem hasSufficientFinality_of_signatures_nil {a : BlockAcceptor} (h : a.signatures = []) :
    a.hasSufficientFinality = false := by
  unfold hasSufficientFinality
  split <;> simp [h, EraValidatorWeights.hasSufficientWeight, EraValidatorWeights.signedWeight]

/-- A block registered with an acceptor that holds no signature leaves it holding none. -/
theorem registerBlock_signatures_nil {a : BlockAcceptor} (h : a.signatures = []) (block : Block)
    (peer : NodeId) : (a.registerBlock block peer).1.signatures = [] := by
  rcases registerBlock_fst a block peer with h' | h' <;> simp [h', h]

end BlockAcceptor

end CasperAccumulator
