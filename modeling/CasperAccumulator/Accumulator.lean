import CasperAccumulator.Acceptor
import Mathlib.Data.List.AList
import Mathlib.Data.Finset.Basic
import Mathlib.Tactic.Simps.Basic

/-
  `BlockAccumulator` (`components/block_accumulator.rs`): the registry of block acceptors, the
  parent-to-child links, the set of hashes already handled and the local tip, with every method of
  the source as a function from the old state to its result and the new state.

  Each `&mut self` method returns its new state beside its result; `Timestamp::now()` is the
  argument `now`.  A `&mut BlockAcceptor` borrowed from the map is written back with `putAcceptor`
  after the acceptor's method has run on it, whether that method failed or not.  The maps are
  Mathlib's `AList` (unique keys); a loop over a map runs over its `entries`, and the results proved
  about those loops hold for every order of them, not only the key order of a `BTreeMap`.

  Two lines of the source decide much of what follows, and the model keeps both as written:

  * `get_or_register_acceptor_mut` tests `Entry::Occupied`, so it replaces an acceptor already
    tracked for the hash by a fresh one and creates nothing for an untracked hash;
  * the `ExecutableBlock` branch of `sync_instruction` inserts a placeholder acceptor without
    looking at `already_handled`.
-/

namespace CasperAccumulator

/-- `BTreeMap<K, V>`: a finite map with unique keys. -/
abbrev BTreeMap (κ ν : Type) := AList fun _ : κ => ν

/-- Every value rewritten in place, the keys untouched (a loop over `values_mut`). -/
def BTreeMap.mapValues {κ ν : Type} (f : ν → ν) (m : BTreeMap κ ν) : BTreeMap κ ν :=
  ⟨m.entries.map fun e => ⟨e.1, f e.2⟩, by
    simpa [List.NodupKeys, List.keys, Function.comp_def] using m.nodupKeys⟩

@[simp] theorem BTreeMap.lookup_mapValues {κ ν : Type} [DecidableEq κ] (f : ν → ν)
    (m : BTreeMap κ ν) (k : κ) : (m.mapValues f).lookup k = (m.lookup k).map f :=
  List.dlookup_map₂ (f := fun _ => f) k

/-- `Effects<Event>`. -/
abbrev Effects := List Effect

/-- `BlockAccumulator`. -/
structure BlockAccumulator where
  validatorMatrix : ValidatorMatrix
  attemptExecutionThreshold : Nat
  deadAirInterval : Nat
  blockAcceptors : BTreeMap BlockHash BlockAcceptor
  blockChildren : BTreeMap BlockHash BlockHash
  alreadyHandled : Finset BlockHash
  lastProgress : Nat
  /-- The height of the subjective local tip of the chain. -/
  localTip : Option Nat
deriving DecidableEq

namespace BlockAccumulator

/-- `BlockAccumulator::new`. -/
def new (config : Config) (validatorMatrix : ValidatorMatrix) (localTip : Option Nat)
    (now : Nat) : BlockAccumulator where
  validatorMatrix := validatorMatrix
  attemptExecutionThreshold := config.attemptExecutionThreshold
  deadAirInterval := config.deadAirInterval
  blockAcceptors := ∅
  blockChildren := ∅
  alreadyHandled := ∅
  lastProgress := now
  localTip := localTip

/-- An acceptor written under `blockHash` (`insert`, or a `&mut` borrow written back). -/
@[simps]
def putAcceptor (s : BlockAccumulator) (blockHash : BlockHash) (acceptor : BlockAcceptor) :
    BlockAccumulator :=
  { s with blockAcceptors := s.blockAcceptors.insert blockHash acceptor }

/-- `block_acceptors.remove(block_hash)`. -/
@[simps]
def removeAcceptor (s : BlockAccumulator) (blockHash : BlockHash) : BlockAccumulator :=
  { s with blockAcceptors := s.blockAcceptors.erase blockHash }

/-! ## The sync decision -/

/-- `should_sync`. -/
def shouldSync (s : BlockAccumulator) (maybeStartingWithBlockHeight
    maybeHighestUsableBlockHeight : Option Nat) : Bool :=
  match maybeStartingWithBlockHeight, maybeHighestUsableBlockHeight with
  | none, _ | _, none => false
  | some startingWith, some highestUsableBlockHeight =>
    let heightDiff := highestUsableBlockHeight - startingWith
    if heightDiff = 0 then true else decide (heightDiff ≤ s.attemptExecutionThreshold)

/-- `next_syncable_block_hash`. -/
def nextSyncableBlockHash (s : BlockAccumulator) (parentBlockHash : BlockHash) :
    Option BlockHash := do
  let childHash ← s.blockChildren.lookup parentBlockHash
  let blockAcceptor ← s.blockAcceptors.lookup childHash
  if blockAcceptor.hasSufficientFinality then some childHash else none

/-- The body of the loop of `highest_usable_block_height`, on one entry `(k, v)`. -/
def highestUsableStep (alreadyHandled : Finset BlockHash) (ret : Option Nat)
    (entry : Σ _ : BlockHash, BlockAcceptor) : Option Nat :=
  if entry.1 ∈ alreadyHandled then ret
  else if entry.2.hasSufficientFinality = false then ret
  else
    match entry.2.blockEraAndHeight with
    | none => ret
    | some (_, acceptorHeight) =>
      match ret with
      | some currHeight => if acceptorHeight ≤ currHeight then ret else some acceptorHeight
      | none => some acceptorHeight

/-- `highest_usable_block_height`. -/
def highestUsableBlockHeight (s : BlockAccumulator) : Option Nat :=
  s.blockAcceptors.entries.foldl (highestUsableStep s.alreadyHandled) none

/-- `sync_instruction`.  `now` is the clock behind both `Timestamp::now()` and `elapsed()`. -/
def syncInstruction (s : BlockAccumulator) (startingWith : StartingWith) (now : Nat) :
    SyncInstruction × BlockAccumulator :=
  let shouldFetchExecutionState := false == startingWith.haveBlock
  let maybeHighestUsableBlockHeight := s.highestUsableBlockHeight
  match startingWith with
  | .nothing => (.leap, s)
  | .executableBlock blockHash blockHeight =>
    match maybeHighestUsableBlockHeight with
    | none => (.blockExec none, s)
    | some highestPerceived =>
      if blockHeight > highestPerceived then
        (.blockExec none, s.putAcceptor blockHash (BlockAcceptor.new blockHash []))
      else if highestPerceived = blockHeight then (.blockExec none, s)
      else if highestPerceived - s.attemptExecutionThreshold ≤ blockHeight then
        (.blockExec (s.nextSyncableBlockHash blockHash), s)
      else (.leap, s)
  | .hash blockHash =>
    match s.blockAcceptors.lookup blockHash with
    | none => (.leap, s)
    | some blockAcceptor =>
      if s.shouldSync blockAcceptor.blockHeight maybeHighestUsableBlockHeight then
        (.blockSync blockAcceptor.blockHash shouldFetchExecutionState,
          { s with lastProgress := now })
      else (.leap, s)
  | .blockIdentifier blockHash blockHeight =>
    if s.shouldSync (some blockHeight) maybeHighestUsableBlockHeight then
      (.blockSync blockHash shouldFetchExecutionState, { s with lastProgress := now })
    else (.leap, s)
  | .syncedBlockIdentifier blockHash blockHeight =>
    if s.shouldSync (some blockHeight) maybeHighestUsableBlockHeight then
      match s.nextSyncableBlockHash blockHash with
      | some childHash =>
        (.blockSync childHash shouldFetchExecutionState, { s with lastProgress := now })
      | none =>
        if elapsed now s.lastProgress < s.deadAirInterval then (.caughtUp, s) else (.leap, s)
    else (.leap, s)

/-! ## Registration -/

/-- The acceptor `get_or_register_acceptor_mut` builds, with the era's weights when known. -/
def freshAcceptor (validatorMatrix : ValidatorMatrix) (blockHash : BlockHash) (eraId : EraId)
    (peers : List NodeId) : BlockAcceptor :=
  match validatorMatrix.validatorWeights eraId with
  | some evw => BlockAcceptor.newWithValidatorWeights blockHash evw peers
  | none => BlockAcceptor.new blockHash peers

/-- `get_or_register_acceptor_mut`, with its `if let Entry::Occupied(..)` test as written. -/
def getOrRegisterAcceptorMut (s : BlockAccumulator) (blockHash : BlockHash) (eraId : EraId)
    (peers : List NodeId) : Option BlockAcceptor × BlockAccumulator :=
  match s.blockAcceptors.lookup blockHash with
  | none => (none, s)
  | some _ =>
    if blockHash ∈ s.alreadyHandled then (none, s)
    else
      let acceptor := freshAcceptor s.validatorMatrix blockHash eraId peers
      (some acceptor, s.putAcceptor blockHash acceptor)

/-- `block_children.insert(parent, block_hash)`, when the block has a parent. -/
@[simps]
def linkParent (s : BlockAccumulator) (block : Block) : BlockAccumulator :=
  { s with
    blockChildren :=
      match block.parent with
      | some parentHash => s.blockChildren.insert parentHash block.hash
      | none => s.blockChildren }

/-- The rest of `register_block` once `acceptor` is borrowed: register the block with it, write
    it back, and act on the acceptor's answer. -/
def acceptBlock (s : BlockAccumulator) (acceptor : BlockAcceptor) (block : Block)
    (sender : NodeId) : Effects × BlockAccumulator :=
  let blockHash := block.hash
  let (acceptor, result) := acceptor.registerBlock block sender
  let s := s.putAcceptor blockHash acceptor
  match result with
  | .ok () => ([], s)
  | .error (.invalidGossip peer) => ([.announceDisconnectFromPeer peer], s)
  | .error .eraMismatch => ([], s.removeAcceptor blockHash)
  | .error (.blockHashMismatch _ _ peer) => ([.announceDisconnectFromPeer peer], s)
  | .error .invalidState => ([], s)

/-- `register_block`. -/
def registerBlock (s : BlockAccumulator) (block : Block) (sender : NodeId) :
    Effects × BlockAccumulator :=
  let blockHash := block.hash
  let eraId := block.header.eraId
  if s.localTip.any (block.header.height < ·) then ([], s.removeAcceptor blockHash)
  else
    match (s.linkParent block).getOrRegisterAcceptorMut blockHash eraId [sender] with
    | (none, s) => ([], s)
    | (some acceptor, s) => s.acceptBlock acceptor block sender

/-- The rest of `register_finality_signature` once `acceptor` is borrowed. -/
def acceptFinalitySignature (s : BlockAccumulator) (acceptor : BlockAcceptor)
    (finalitySignature : FinalitySignature) (sender : NodeId) : Effects × BlockAccumulator :=
  let blockHash := finalitySignature.blockHash
  let (acceptor, result) := acceptor.registerFinalitySignature finalitySignature sender
  let s := s.putAcceptor blockHash acceptor
  match result with
  | .ok (.sufficientlySignedBlock block signatures) =>
    let blockSignatures := signatures.foldl
      (fun bs signature => bs.insertProof signature.publicKey signature.signature)
      (BlockSignatures.new block.hash block.header.eraId)
    let signatureIds := signatures.map (·.id)
    ([.putBlockAndSignaturesToStorage block blockSignatures
      (.stored (some block.hash) signatureIds)], s)
  | .ok (.singleSignature signature) =>
    ([.putFinalitySignatureToStorage signature (.stored none [signature.id])], s)
  | .ok .nothing => ([], s)
  | .error (.invalidGossip peer) => ([.announceDisconnectFromPeer peer], s)
  | .error .eraMismatch => ([], s)
  | .error (.blockHashMismatch _ _ peer) => ([.announceDisconnectFromPeer peer], s)
  | .error .invalidState => ([], s)

/-- `register_finality_signature`. -/
def registerFinalitySignature (s : BlockAccumulator) (finalitySignature : FinalitySignature)
    (sender : NodeId) : Effects × BlockAccumulator :=
  let blockHash := finalitySignature.blockHash
  let eraId := finalitySignature.eraId
  match s.getOrRegisterAcceptorMut blockHash eraId [sender] with
  | (none, s) => ([], s)
  | (some acceptor, s) => s.acceptFinalitySignature acceptor finalitySignature sender

/-- The body of the loop of `register_updated_validator_matrix`, on one acceptor. -/
def refreshFromMatrix (validatorMatrix : ValidatorMatrix) (acceptor : BlockAcceptor) :
    BlockAcceptor :=
  match acceptor.eraId with
  | some eraId =>
    match validatorMatrix.validatorWeights eraId with
    | some weights => acceptor.refresh weights
    | none => acceptor
  | none => acceptor

/-- `register_updated_validator_matrix`. -/
def registerUpdatedValidatorMatrix (s : BlockAccumulator) : BlockAccumulator :=
  { s with blockAcceptors := s.blockAcceptors.mapValues (refreshFromMatrix s.validatorMatrix) }

/-- The body of the loop of `register_local_tip`: drop the acceptor, remember the hash. -/
@[simps]
def markHandled (s : BlockAccumulator) (blockHash : BlockHash) : BlockAccumulator :=
  { s with
    blockAcceptors := s.blockAcceptors.erase blockHash
    alreadyHandled := insert blockHash s.alreadyHandled }

/-- `register_local_tip`: collect the keys of the acceptors below `height` (an unknown height
    counts as `0`), drop them, then raise the tip. -/
def registerLocalTip (s : BlockAccumulator) (height : Nat) : BlockAccumulator :=
  let evicted :=
    (s.blockAcceptors.entries.filter fun e => e.2.blockHeight.getD 0 < height).map (·.1)
  let s := evicted.foldl markHandled s
  { s with localTip := (s.localTip.toList ++ [height]).max? }

/-! ## Queries and events -/

/-- `block`. -/
def block (s : BlockAccumulator) (blockHash : BlockHash) : Option Block :=
  (s.blockAcceptors.lookup blockHash).bind (·.block)

/-- `get_peers`. -/
def getPeers (s : BlockAccumulator) (blockHash : BlockHash) : Option (List NodeId) :=
  (s.blockAcceptors.lookup blockHash).map (·.peers)

/-- `handle_stored`: announce the block, then each signature. -/
def handleStored (blockHash : Option BlockHash)
    (finalitySignatureIds : List FinalitySignatureId) : Effects :=
  (match blockHash with
    | some blockHash => [.announceBlockAccepted blockHash]
    | none => []) ++
  finalitySignatureIds.map .announceFinalitySignatureAccepted

/-- `Component::handle_event`. -/
def handleEvent (s : BlockAccumulator) : Event → Effects × BlockAccumulator
  | .getPeersForBlock blockHash => ([.respond (s.getPeers blockHash)], s)
  | .receivedBlock block sender => s.registerBlock block sender
  | .receivedFinalitySignature finalitySignature sender =>
    s.registerFinalitySignature finalitySignature sender
  | .updatedValidatorMatrix _ => ([], s)
  | .executedBlock blockHeader => ([], s.registerLocalTip blockHeader.height)
  | .stored blockHash finalitySignatureIds => (handleStored blockHash finalitySignatureIds, s)

end BlockAccumulator

end CasperAccumulator
