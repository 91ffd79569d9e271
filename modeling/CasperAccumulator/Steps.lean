import CasperAccumulator.Accumulator

/-
  What each operation of the accumulator can do to its state, said once per operation.

  `get_or_register_acceptor_mut` gets an equation (`getOrRegisterAcceptorMut_eq`): it hands out
  a fresh acceptor, written under the hash, exactly when the hash is tracked and not handled.
  From it, `registerBlock_cases` and `registerFinalitySignature_cases` list the shapes the new
  state can have (`Sync` does the same for `sync_instruction`).  Every invariant and frame result
  of the later files is a case analysis over these lists; only the lemmas about effects, and
  those comparing one operation on two states, look inside an operation again.  The origin
  lemmas (`lookup_registerBlock`, ...) say where each acceptor of the new state comes from, and
  `step_preserves` turns one preservation fact per writer into one per operation.

  The operations a caller can invoke are collected in `Op`, and `run` applies a list of them: the
  reachable states are the `run`s from `new`.
-/

namespace CasperAccumulator

namespace BlockAccumulator

variable (s : BlockAccumulator)

/-! ## Borrowing an acceptor -/

/-- **`get_or_register_acceptor_mut`**: a fresh acceptor for a tracked, unhandled hash, and
    nothing otherwise. -/
theorem getOrRegisterAcceptorMut_eq (h : BlockHash) (e : EraId) (peers : List NodeId) :
    s.getOrRegisterAcceptorMut h e peers =
      if h ∈ s.blockAcceptors ∧ h ∉ s.alreadyHandled then
        (some (freshAcceptor s.validatorMatrix h e peers),
          s.putAcceptor h (freshAcceptor s.validatorMatrix h e peers))
      else (none, s) := by
  unfold getOrRegisterAcceptorMut
  cases hl : s.blockAcceptors.lookup h with
  | none => simp [AList.lookup_eq_none.mp hl]
  | some a =>
    have hm : h ∈ s.blockAcceptors := AList.lookup_isSome.mp (by rw [hl]; rfl)
    simp [hm]

/-- The acceptor `get_or_register_acceptor_mut` hands out is the fresh one, for a tracked,
    unhandled hash. -/
theorem getOrRegisterAcceptorMut_some {h : BlockHash} {e : EraId} {peers : List NodeId}
    {a : BlockAcceptor} (ha : (s.getOrRegisterAcceptorMut h e peers).1 = some a) :
    h ∈ s.blockAcceptors ∧ h ∉ s.alreadyHandled ∧
      a = freshAcceptor s.validatorMatrix h e peers := by
  rw [getOrRegisterAcceptorMut_eq] at ha
  split_ifs at ha with hm
  exact ⟨hm.1, hm.2, (Option.some.inj ha).symm⟩

/-- After the borrowed acceptor registers a block, it is written back, or dropped on
    `EraMismatch`. -/
theorem acceptBlock_state (a : BlockAcceptor) (b : Block) (sender : NodeId) :
    (s.acceptBlock a b sender).2 = s.putAcceptor b.hash (a.registerBlock b sender).1 ∨
    (s.acceptBlock a b sender).2 =
      (s.putAcceptor b.hash (a.registerBlock b sender).1).removeAcceptor b.hash := by
  unfold acceptBlock
  generalize a.registerBlock b sender = r
  obtain ⟨a', e | _⟩ := r
  · cases e <;> simp
  · simp

/-- After the borrowed acceptor registers a signature, it is written back. -/
theorem acceptFinalitySignature_state (a : BlockAcceptor) (fs : FinalitySignature)
    (sender : NodeId) :
    (s.acceptFinalitySignature a fs sender).2 =
      s.putAcceptor fs.blockHash (a.registerFinalitySignature fs sender).1 := by
  unfold acceptFinalitySignature
  generalize a.registerFinalitySignature fs sender = r
  obtain ⟨a', e | v⟩ := r
  · cases e <;> rfl
  · cases v <;> rfl

/-! ## Registration -/

/-- **What `register_block` can do.**  An outdated block only drops the acceptor under its hash.
    Otherwise the link to its parent is recorded, and when the hash is tracked and not handled the
    acceptor there is replaced by a fresh one, which then registers the block. -/
theorem registerBlock_cases (b : Block) (sender : NodeId) :
    (s.localTip.any (b.header.height < ·) = true ∧
      s.registerBlock b sender = ([], s.removeAcceptor b.hash)) ∨
    (s.localTip.any (b.header.height < ·) = false ∧
      (b.hash ∉ s.blockAcceptors ∨ b.hash ∈ s.alreadyHandled) ∧
      s.registerBlock b sender = ([], s.linkParent b)) ∨
    (s.localTip.any (b.header.height < ·) = false ∧
      b.hash ∈ s.blockAcceptors ∧ b.hash ∉ s.alreadyHandled ∧
      s.registerBlock b sender =
        ((s.linkParent b).putAcceptor b.hash
            (freshAcceptor s.validatorMatrix b.hash b.header.eraId [sender])).acceptBlock
          (freshAcceptor s.validatorMatrix b.hash b.header.eraId [sender]) b sender) := by
  unfold registerBlock
  simp only [getOrRegisterAcceptorMut_eq, linkParent_blockAcceptors, linkParent_alreadyHandled,
    linkParent_validatorMatrix]
  split_ifs with ho hm
  · exact Or.inl ⟨ho, rfl⟩
  · exact Or.inr (Or.inr ⟨by simpa using ho, hm.1, hm.2, rfl⟩)
  · exact Or.inr (Or.inl ⟨by simpa using ho, by tauto, rfl⟩)

/-- **What `register_finality_signature` can do**: nothing, or replace the acceptor under the
    signature's hash by a fresh one that then registers the signature. -/
theorem registerFinalitySignature_cases (fs : FinalitySignature) (sender : NodeId) :
    ((fs.blockHash ∉ s.blockAcceptors ∨ fs.blockHash ∈ s.alreadyHandled) ∧
      s.registerFinalitySignature fs sender = ([], s)) ∨
    (fs.blockHash ∈ s.blockAcceptors ∧ fs.blockHash ∉ s.alreadyHandled ∧
      s.registerFinalitySignature fs sender =
        (s.putAcceptor fs.blockHash
            (freshAcceptor s.validatorMatrix fs.blockHash fs.eraId
              [sender])).acceptFinalitySignature
          (freshAcceptor s.validatorMatrix fs.blockHash fs.eraId [sender]) fs sender) := by
  unfold registerFinalitySignature
  simp only [getOrRegisterAcceptorMut_eq]
  split_ifs with hm
  · exact Or.inr ⟨hm.1, hm.2, rfl⟩
  · exact Or.inl ⟨by tauto, rfl⟩

/-! ## What each operation leaves alone -/

section Frame

variable (b : Block) (fs : FinalitySignature) (sender : NodeId)

/-- `register_block` writes only the acceptor map and the parent links. -/
theorem registerBlock_frame :
    (s.registerBlock b sender).2 = { s with
      blockAcceptors := (s.registerBlock b sender).2.blockAcceptors
      blockChildren := (s.registerBlock b sender).2.blockChildren } := by
  rcases registerBlock_cases s b sender with ⟨-, h⟩ | ⟨-, -, h⟩ | ⟨-, -, -, h⟩ <;> rw [h]
  · rfl
  · rfl
  · rcases acceptBlock_state _ _ b sender with h' | h' <;> rw [h'] <;> rfl

/-- `register_finality_signature` writes only the acceptor map. -/
theorem registerFinalitySignature_frame :
    (s.registerFinalitySignature fs sender).2 = { s with
      blockAcceptors := (s.registerFinalitySignature fs sender).2.blockAcceptors } := by
  rcases registerFinalitySignature_cases s fs sender with ⟨-, h⟩ | ⟨-, -, h⟩ <;> rw [h]
  rw [acceptFinalitySignature_state]
  rfl

@[simp] theorem registerBlock_alreadyHandled :
    (s.registerBlock b sender).2.alreadyHandled = s.alreadyHandled :=
  (congrArg alreadyHandled (registerBlock_frame s b sender) :)

@[simp] theorem registerBlock_localTip : (s.registerBlock b sender).2.localTip = s.localTip :=
  (congrArg localTip (registerBlock_frame s b sender) :)

@[simp] theorem registerBlock_lastProgress :
    (s.registerBlock b sender).2.lastProgress = s.lastProgress :=
  (congrArg lastProgress (registerBlock_frame s b sender) :)

@[simp] theorem registerBlock_validatorMatrix :
    (s.registerBlock b sender).2.validatorMatrix = s.validatorMatrix :=
  (congrArg validatorMatrix (registerBlock_frame s b sender) :)

@[simp] theorem registerFinalitySignature_alreadyHandled :
    (s.registerFinalitySignature fs sender).2.alreadyHandled = s.alreadyHandled :=
  (congrArg alreadyHandled (registerFinalitySignature_frame s fs sender) :)

@[simp] theorem registerFinalitySignature_localTip :
    (s.registerFinalitySignature fs sender).2.localTip = s.localTip :=
  (congrArg localTip (registerFinalitySignature_frame s fs sender) :)

@[simp] theorem registerFinalitySignature_lastProgress :
    (s.registerFinalitySignature fs sender).2.lastProgress = s.lastProgress :=
  (congrArg lastProgress (registerFinalitySignature_frame s fs sender) :)

@[simp] theorem registerFinalitySignature_validatorMatrix :
    (s.registerFinalitySignature fs sender).2.validatorMatrix = s.validatorMatrix :=
  (congrArg validatorMatrix (registerFinalitySignature_frame s fs sender) :)

@[simp] theorem registerFinalitySignature_blockChildren :
    (s.registerFinalitySignature fs sender).2.blockChildren = s.blockChildren :=
  (congrArg blockChildren (registerFinalitySignature_frame s fs sender) :)

end Frame


/-! ## The acceptor map, key by key -/

section Lookup

variable (b : Block) (fs : FinalitySignature) (sender : NodeId)

@[simp] theorem freshAcceptor_block (m : ValidatorMatrix) (h : BlockHash) (e : EraId)
    (peers : List NodeId) : (freshAcceptor m h e peers).block = none := by
  unfold freshAcceptor; split <;> rfl

@[simp] theorem freshAcceptor_signatures (m : ValidatorMatrix) (h : BlockHash) (e : EraId)
    (peers : List NodeId) : (freshAcceptor m h e peers).signatures = [] := by
  unfold freshAcceptor; split <;> rfl

@[simp] theorem freshAcceptor_blockHash (m : ValidatorMatrix) (h : BlockHash) (e : EraId)
    (peers : List NodeId) : (freshAcceptor m h e peers).blockHash = h := by
  unfold freshAcceptor; split <;> rfl

@[simp] theorem freshAcceptor_blockHeight (m : ValidatorMatrix) (h : BlockHash) (e : EraId)
    (peers : List NodeId) : (freshAcceptor m h e peers).blockHeight = none := by
  simp [BlockAcceptor.blockHeight]

@[simp] theorem freshAcceptor_hasSufficientFinality (m : ValidatorMatrix) (h : BlockHash)
    (e : EraId) (peers : List NodeId) :
    (freshAcceptor m h e peers).hasSufficientFinality = false := by
  unfold freshAcceptor; split <;> simp

/-- `register_block` touches the acceptor map only under the block's hash. -/
theorem registerBlock_lookup_ne {k : BlockHash} (hk : k ≠ b.hash) :
    (s.registerBlock b sender).2.blockAcceptors.lookup k = s.blockAcceptors.lookup k := by
  rcases registerBlock_cases s b sender with ⟨-, h⟩ | ⟨-, -, h⟩ | ⟨-, -, -, h⟩ <;> rw [h]
  · simp [AList.lookup_erase_ne hk]
  · simp
  · rcases acceptBlock_state _ _ b sender with h' | h' <;> rw [h'] <;>
      simp [AList.lookup_erase_ne hk, AList.lookup_insert_ne hk]

/-- Under the block's hash, `register_block` leaves nothing, what was there, or — for a block at
    or above the tip whose hash is tracked and not handled — the fresh acceptor after it has
    registered the block. -/
theorem registerBlock_lookup_self :
    (s.registerBlock b sender).2.blockAcceptors.lookup b.hash = none ∨
    (s.registerBlock b sender).2.blockAcceptors.lookup b.hash =
      s.blockAcceptors.lookup b.hash ∨
    (s.localTip.any (b.header.height < ·) = false ∧
      (s.registerBlock b sender).2.blockAcceptors.lookup b.hash =
        some ((freshAcceptor s.validatorMatrix b.hash b.header.eraId [sender]).registerBlock
          b sender).1) := by
  rcases registerBlock_cases s b sender with ⟨-, h⟩ | ⟨-, -, h⟩ | ⟨ho, -, -, h⟩ <;> rw [h]
  · simp
  · simp
  · rcases acceptBlock_state _ _ b sender with h' | h' <;> rw [h'] <;> simp [ho]

/-- `register_finality_signature` touches the acceptor map only under the signature's hash. -/
theorem registerFinalitySignature_lookup_ne {k : BlockHash} (hk : k ≠ fs.blockHash) :
    (s.registerFinalitySignature fs sender).2.blockAcceptors.lookup k =
      s.blockAcceptors.lookup k := by
  rcases registerFinalitySignature_cases s fs sender with ⟨-, h⟩ | ⟨-, -, h⟩ <;> rw [h]
  simp [acceptFinalitySignature_state, AList.lookup_insert_ne hk]

/-- Under the signature's hash, `register_finality_signature` leaves what was there, or the fresh
    acceptor after it has registered the signature. -/
theorem registerFinalitySignature_lookup_self :
    (s.registerFinalitySignature fs sender).2.blockAcceptors.lookup fs.blockHash =
      s.blockAcceptors.lookup fs.blockHash ∨
    (s.registerFinalitySignature fs sender).2.blockAcceptors.lookup fs.blockHash =
      some ((freshAcceptor s.validatorMatrix fs.blockHash fs.eraId
        [sender]).registerFinalitySignature fs sender).1 := by
  rcases registerFinalitySignature_cases s fs sender with ⟨-, h⟩ | ⟨-, -, h⟩ <;> rw [h]
  · simp
  · simp [acceptFinalitySignature_state]

/-- Where an acceptor after `register_block` comes from: it was there before, or it is the fresh
    acceptor after registering the block, under the block's hash, for a block at or above the
    tip. -/
theorem lookup_registerBlock {k : BlockHash} {a : BlockAcceptor}
    (hl : (s.registerBlock b sender).2.blockAcceptors.lookup k = some a) :
    s.blockAcceptors.lookup k = some a ∨
      (k = b.hash ∧ s.localTip.any (b.header.height < ·) = false ∧
        a = ((freshAcceptor s.validatorMatrix b.hash b.header.eraId [sender]).registerBlock
          b sender).1) := by
  by_cases hk : k = b.hash
  · subst hk
    rcases registerBlock_lookup_self s b sender with he | he | ⟨ho, he⟩ <;> rw [he] at hl
    · cases hl
    · exact .inl hl
    · exact .inr ⟨rfl, ho, (Option.some.inj hl).symm⟩
  · exact .inl (by rwa [registerBlock_lookup_ne s b sender hk] at hl)

/-- Where an acceptor after `register_finality_signature` comes from: it was there before, or it
    is the fresh acceptor after registering the signature, under the signature's hash. -/
theorem lookup_registerFinalitySignature {k : BlockHash} {a : BlockAcceptor}
    (hl : (s.registerFinalitySignature fs sender).2.blockAcceptors.lookup k = some a) :
    s.blockAcceptors.lookup k = some a ∨
      (k = fs.blockHash ∧
        a = ((freshAcceptor s.validatorMatrix fs.blockHash fs.eraId
          [sender]).registerFinalitySignature fs sender).1) := by
  by_cases hk : k = fs.blockHash
  · subst hk
    rcases registerFinalitySignature_lookup_self s fs sender with he | he <;> rw [he] at hl
    · exact .inl hl
    · exact .inr ⟨rfl, (Option.some.inj hl).symm⟩
  · exact .inl (by rwa [registerFinalitySignature_lookup_ne s fs sender hk] at hl)

/-- Neither registration adds a key: `get_or_register_acceptor_mut` never creates an acceptor. -/
theorem mem_of_mem_registerBlock {k : BlockHash}
    (hk : k ∈ (s.registerBlock b sender).2.blockAcceptors) : k ∈ s.blockAcceptors := by
  rcases registerBlock_cases s b sender with ⟨-, h⟩ | ⟨-, -, h⟩ | ⟨-, hm, -, h⟩ <;> rw [h] at hk
  · exact (AList.mem_erase.mp hk).2
  · exact hk
  · rcases acceptBlock_state _ _ b sender with h' | h' <;> rw [h'] at hk <;> simp at hk
    · rcases hk with rfl | hk <;> assumption
    · rcases hk.2 with rfl | hk <;> assumption

theorem mem_of_mem_registerFinalitySignature {k : BlockHash}
    (hk : k ∈ (s.registerFinalitySignature fs sender).2.blockAcceptors) : k ∈ s.blockAcceptors := by
  rcases registerFinalitySignature_cases s fs sender with ⟨-, h⟩ | ⟨hm, -, h⟩ <;> rw [h] at hk
  · exact hk
  · simp [acceptFinalitySignature_state] at hk
    rcases hk with rfl | hk <;> assumption

@[simp] theorem refreshFromMatrix_block (m : ValidatorMatrix) (a : BlockAcceptor) :
    (refreshFromMatrix m a).block = a.block := by
  unfold refreshFromMatrix
  split <;> (try split) <;> rfl

@[simp] theorem refreshFromMatrix_blockHash (m : ValidatorMatrix) (a : BlockAcceptor) :
    (refreshFromMatrix m a).blockHash = a.blockHash := by
  unfold refreshFromMatrix
  split <;> (try split) <;> rfl

@[simp] theorem refreshFromMatrix_blockHeight (m : ValidatorMatrix) (a : BlockAcceptor) :
    (refreshFromMatrix m a).blockHeight = a.blockHeight := by
  simp [BlockAcceptor.blockHeight]

/-- A weight refresh only ever drops signatures. -/
theorem refreshFromMatrix_signatures_nil (m : ValidatorMatrix) {a : BlockAcceptor}
    (h : a.signatures = []) : (refreshFromMatrix m a).signatures = [] := by
  unfold refreshFromMatrix
  split <;> (try split) <;> simp [BlockAcceptor.refresh, h]

@[simp] theorem mem_registerUpdatedValidatorMatrix {k : BlockHash} :
    k ∈ s.registerUpdatedValidatorMatrix.blockAcceptors ↔ k ∈ s.blockAcceptors := by
  simp [registerUpdatedValidatorMatrix, ← AList.lookup_isSome]

end Lookup

end BlockAccumulator

/-! ## Runs -/

/-- What a caller can do to the accumulator: its `pub(crate)` methods and the component's event
    handler, through which `register_block` and `register_finality_signature` are reached. -/
inductive Op
  | handleEvent (event : Event)
  | syncInstruction (startingWith : StartingWith) (now : Nat)
  | registerLocalTip (height : Nat)
  | registerUpdatedValidatorMatrix
deriving DecidableEq, Repr

/-- The height an operation hands to `register_local_tip`, if it calls it. -/
def Op.tipHeight : Op → Option Nat
  | .registerLocalTip height => some height
  | .handleEvent (.executedBlock blockHeader) => some blockHeader.height
  | _ => none

namespace BlockAccumulator

/-- The state after one operation. -/
def step (s : BlockAccumulator) : Op → BlockAccumulator
  | .handleEvent event => (s.handleEvent event).2
  | .syncInstruction startingWith now => (s.syncInstruction startingWith now).2
  | .registerLocalTip height => s.registerLocalTip height
  | .registerUpdatedValidatorMatrix => s.registerUpdatedValidatorMatrix

/-- The state after a run of operations, applied in order. -/
def run (s : BlockAccumulator) (ops : List Op) : BlockAccumulator := ops.foldl step s

@[simp] theorem run_nil (s : BlockAccumulator) : s.run [] = s := rfl

@[simp] theorem run_cons (s : BlockAccumulator) (op : Op) (ops : List Op) :
    s.run (op :: ops) = (s.step op).run ops := rfl

/-- A property every operation keeps holds after every run. -/
theorem run_of_step {P : BlockAccumulator → Prop} (hstep : ∀ s op, P s → P (s.step op)) :
    ∀ (ops : List Op) (s : BlockAccumulator), P s → P (s.run ops)
  | [], _, h => h
  | op :: ops, s, h => run_of_step hstep ops (s.step op) (hstep s op h)

section Preservation

variable {P : BlockAccumulator → Prop}

/-- What the three writers behind `handle_event` keep, every event keeps. -/
theorem handleEvent_preserves
    (hb : ∀ {s : BlockAccumulator}, P s → ∀ b sender, P (s.registerBlock b sender).2)
    (hf : ∀ {s : BlockAccumulator}, P s → ∀ fs sender, P (s.registerFinalitySignature fs sender).2)
    (ht : ∀ {s : BlockAccumulator}, P s → ∀ n, P (s.registerLocalTip n))
    {s : BlockAccumulator} (h : P s) (event : Event) : P (s.handleEvent event).2 := by
  cases event with
  | receivedBlock b sender => exact hb h b sender
  | receivedFinalitySignature fs sender => exact hf h fs sender
  | executedBlock header => exact ht h header.height
  | getPeersForBlock _ | updatedValidatorMatrix _ | stored _ _ => exact h

/-- What every writer keeps, every operation keeps. -/
theorem step_preserves
    (hb : ∀ {s : BlockAccumulator}, P s → ∀ b sender, P (s.registerBlock b sender).2)
    (hf : ∀ {s : BlockAccumulator}, P s → ∀ fs sender, P (s.registerFinalitySignature fs sender).2)
    (ht : ∀ {s : BlockAccumulator}, P s → ∀ n, P (s.registerLocalTip n))
    (hm : ∀ {s : BlockAccumulator}, P s → P s.registerUpdatedValidatorMatrix)
    (hs : ∀ {s : BlockAccumulator}, P s → ∀ w now, P (s.syncInstruction w now).2)
    {s : BlockAccumulator} (h : P s) (op : Op) : P (s.step op) := by
  cases op with
  | handleEvent event => exact handleEvent_preserves hb hf ht h event
  | syncInstruction w now => exact hs h w now
  | registerLocalTip n => exact ht h n
  | registerUpdatedValidatorMatrix => exact hm h

end Preservation

end BlockAccumulator

end CasperAccumulator
