import Mathlib.Data.List.Basic

/-
  The data the block accumulator (`components/block_accumulator.rs`) reads and returns.

  Hashes, eras, peers and keys are opaque identifiers: the accumulator only compares them, so each
  is a one-field structure over `Nat`.  Heights, the execution threshold and times are `u64` in the
  source; the accumulator applies to them only comparisons, `saturating_sub` and `max`, none of
  which can wrap, and `Nat` (whose subtraction truncates at `0`) computes each of them exactly on
  `u64` inputs.

  `Block`, `FinalitySignature`, `EraValidatorWeights` and `ValidatorMatrix` live in casper_types
  and in `types/`, outside `src/`.  They keep here only the fields the accumulator and its block
  acceptor read.  Two outcomes computed outside this component enter as data: `verified` on a block
  or a signature is the verdict of `Block::verify` / `FinalitySignature::is_verified` (hashing and
  signature cryptography, out of scope by spec §1), and the quorum fraction of an era travels with
  that era's weight table (spec §3: "a quorum fraction ... of the era's total weight").

  `Event` is declared in `event.rs`, which is not under `src/`; its variants are exactly the six
  patterns `handle_event` matches on.  `Effect` is the data form of the `Effects` the component
  returns: each storage effect carries the `Stored` event it resolves into.
-/

namespace CasperAccumulator

/-! ## Identifiers -/

/-- `BlockHash`: a digest, compared for equality and used as a map key. -/
structure BlockHash where
  digest : Nat
deriving DecidableEq, Repr, Inhabited

/-- `EraId`. -/
structure EraId where
  value : Nat
deriving DecidableEq, Repr

/-- `NodeId`: a peer. -/
structure NodeId where
  id : Nat
deriving DecidableEq, Repr

/-- A validator's `PublicKey`. -/
structure PublicKey where
  key : Nat
deriving DecidableEq, Repr

/-- A cryptographic `Signature` value, carried and never inspected. -/
structure Signature where
  bytes : Nat
deriving DecidableEq, Repr

/-! ## Blocks and finality signatures -/

/-- Modelled from the spec: `BlockHeader` (`types/`, not under `src/`), the fields the
    accumulator reads: `parent()`, `era_id()`, `height()`.  The parent is absent for genesis
    (spec §3). -/
structure BlockHeader where
  parentHash : Option BlockHash
  eraId : EraId
  height : Nat
deriving DecidableEq, Repr

/-- Modelled from the spec: a gossiped `Block` (`types/`, not under `src/`): its claimed
    `hash()`, its header, and the verdict of `Block::verify`. -/
structure Block where
  hash : BlockHash
  header : BlockHeader
  verified : Bool
deriving DecidableEq, Repr

/-- `Block::parent`. -/
def Block.parent (block : Block) : Option BlockHash := block.header.parentHash

/-- Modelled from the spec: `FinalitySignatureId` (`types/`, not under `src/`), what `Stored` and
    the acceptance announcement name a signature by. -/
structure FinalitySignatureId where
  blockHash : BlockHash
  eraId : EraId
  publicKey : PublicKey
deriving DecidableEq, Repr

/-- Modelled from the spec: a gossiped `FinalitySignature` (`types/`, not under `src/`) over
    `block_hash` by `public_key`, with the verdict of `FinalitySignature::is_verified`. -/
structure FinalitySignature where
  blockHash : BlockHash
  eraId : EraId
  signature : Signature
  publicKey : PublicKey
  verified : Bool
deriving DecidableEq, Repr

/-- `FinalitySignature::id`. -/
def FinalitySignature.id (fs : FinalitySignature) : FinalitySignatureId :=
  ⟨fs.blockHash, fs.eraId, fs.publicKey⟩

/-- Modelled from the spec: `BlockSignatures` (`types/`, not under `src/`), the proofs persisted
    with a sufficiently signed block. -/
structure BlockSignatures where
  blockHash : BlockHash
  eraId : EraId
  proofs : List (PublicKey × Signature)
deriving DecidableEq, Repr

/-- `BlockSignatures::new`. -/
def BlockSignatures.new (blockHash : BlockHash) (eraId : EraId) : BlockSignatures :=
  ⟨blockHash, eraId, []⟩

/-- `BlockSignatures::insert_proof`. -/
def BlockSignatures.insertProof (bs : BlockSignatures) (publicKey : PublicKey)
    (signature : Signature) : BlockSignatures :=
  { bs with proofs := bs.proofs ++ [(publicKey, signature)] }

/-! ## Validator weights (the Weight Oracle of spec §2) -/

/-- Modelled from the spec: `EraValidatorWeights` (casper_types, not under `src/`).  One era's
    validators with their weights, and the quorum fraction `numerator / denominator` that signed
    weight must strictly exceed (spec §3, §8: "> 1/3"). -/
structure EraValidatorWeights where
  eraId : EraId
  validatorWeights : List (PublicKey × Nat)
  finalityThresholdFraction : Nat × Nat
deriving DecidableEq, Repr

/-- Total weight of the era. -/
def EraValidatorWeights.totalWeight (w : EraValidatorWeights) : Nat :=
  w.validatorWeights.foldr (fun v total => v.2 + total) 0

/-- Weight of the validators among `signers`. -/
def EraValidatorWeights.signedWeight (w : EraValidatorWeights) (signers : List PublicKey) : Nat :=
  w.validatorWeights.foldr (fun v total => if signers.contains v.1 then v.2 + total else total) 0

/-- Modelled from the spec: `EraValidatorWeights::has_sufficient_weight` — the signed weight is
    strictly more than the quorum fraction of the total weight. -/
def EraValidatorWeights.hasSufficientWeight (w : EraValidatorWeights)
    (signers : List PublicKey) : Bool :=
  decide (w.totalWeight * w.finalityThresholdFraction.1 <
    w.signedWeight signers * w.finalityThresholdFraction.2)

/-- Whether `publicKey` is a validator of the era. -/
def EraValidatorWeights.isValidator (w : EraValidatorWeights) (publicKey : PublicKey) : Bool :=
  w.validatorWeights.any (·.1 == publicKey)

/-- Modelled from the spec: `ValidatorMatrix` (not under `src/`), the weight tables of the eras
    known so far. -/
structure ValidatorMatrix where
  eras : List EraValidatorWeights
deriving DecidableEq, Repr

/-- `ValidatorMatrix::validator_weights`: the table of `eraId`, or `none` while it is unknown. -/
def ValidatorMatrix.validatorWeights (m : ValidatorMatrix) (eraId : EraId) :
    Option EraValidatorWeights :=
  m.eras.find? (·.eraId == eraId)

/-! ## What the block acceptor answers -/

/-- Modelled from the spec: `block_accumulator::Error` (`error.rs`, not under `src/`), the
    taxonomy of spec §7 with the fields the accumulator reads (the offending peer). -/
inductive Error
  | invalidGossip (peer : NodeId)
  | eraMismatch
  | blockHashMismatch (expected actual : BlockHash) (peer : NodeId)
  | invalidState
deriving DecidableEq, Repr

/-- Modelled from the spec: `ShouldStore` (`block_acceptor.rs`, not under `src/`), the
    acceptor's verdict on a registered finality signature (spec §4.1). -/
inductive ShouldStore
  | sufficientlySignedBlock (block : Block) (signatures : List FinalitySignature)
  | singleSignature (signature : FinalitySignature)
  | nothing
deriving DecidableEq, Repr

/-! ## The sync interface -/

/-- `SyncInstruction`. -/
inductive SyncInstruction
  | leap
  | caughtUp
  | blockExec (nextBlockHash : Option BlockHash)
  | blockSync (blockHash : BlockHash) (shouldFetchExecutionState : Bool)
deriving DecidableEq, Repr

/-- `StartingWith`: what the node already holds when it asks for a sync instruction. -/
inductive StartingWith
  | executableBlock (blockHash : BlockHash) (height : Nat)
  | blockIdentifier (blockHash : BlockHash) (height : Nat)
  | syncedBlockIdentifier (blockHash : BlockHash) (height : Nat)
  | hash (blockHash : BlockHash)
  | nothing
deriving DecidableEq, Repr

/-- `StartingWith::have_block`. -/
def StartingWith.haveBlock : StartingWith → Bool
  | .blockIdentifier .. => true
  | .executableBlock .. => true
  | .syncedBlockIdentifier .. => true
  | .hash _ => false
  | .nothing => false

/-! ## Events and effects -/

/-- Modelled from the spec: `block_accumulator::Event` (`event.rs`, not under `src/`), as
    `handle_event` matches it.  `getPeersForBlock` is
    `Request(GetPeersForBlock { block_hash, responder })`; the answer becomes a `respond` effect. -/
inductive Event
  | getPeersForBlock (blockHash : BlockHash)
  | receivedBlock (block : Block) (sender : NodeId)
  | receivedFinalitySignature (finalitySignature : FinalitySignature) (sender : NodeId)
  | updatedValidatorMatrix (eraId : EraId)
  | executedBlock (blockHeader : BlockHeader)
  | stored (blockHash : Option BlockHash) (finalitySignatureIds : List FinalitySignatureId)
deriving DecidableEq, Repr

/-- One effect of `Effects<Event>`.  A storage effect names the event it resolves into. -/
inductive Effect
  | announceDisconnectFromPeer (peer : NodeId)
  | putBlockAndSignaturesToStorage (block : Block) (blockSignatures : BlockSignatures)
      (completion : Event)
  | putFinalitySignatureToStorage (signature : FinalitySignature) (completion : Event)
  | announceBlockAccepted (blockHash : BlockHash)
  | announceFinalitySignatureAccepted (id : FinalitySignatureId)
  | respond (peers : Option (List NodeId))
deriving DecidableEq, Repr

/-- Modelled from the spec: `block_accumulator::Config` (`config.rs`, not under `src/`), the two
    settings the accumulator reads (spec §6). -/
structure Config where
  attemptExecutionThreshold : Nat
  deadAirInterval : Nat
deriving DecidableEq, Repr

/-- `Timestamp::elapsed`: milliseconds from `since` to `now`, saturating at `0`. -/
def elapsed (now since : Nat) : Nat := now - since

end CasperAccumulator
