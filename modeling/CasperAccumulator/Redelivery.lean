import CasperAccumulator.UsableHeight

/-
  Events delivered twice in a row (`handle_event`, `block_accumulator.rs`, lines 543-574): the
  second delivery leaves the state exactly as the first one left it, whatever the event and the
  state.  Gossip transports deliver at least once, so this is what makes a duplicate harmless to
  the accumulator's state (its effects — a disconnect, a storage request, an announcement — are
  issued again).

  A block meets the same branch of `register_block` twice: still outdated, still untracked, or
  tracked with the same fresh acceptor from `get_or_register_acceptor_mut`, which takes the same
  block with the same verdict; every write is an insert or a removal under the same key, and
  writing a key twice is writing it once (`putAcceptor_putAcceptor`, `linkParent_linkParent`,
  `removeAcceptor_removeAcceptor`).  A signature is registered into the same fresh acceptor
  again.  An executed block is `register_local_tip` twice at one height, which is once
  (`registerLocalTip_registerLocalTip`).  The other events write nothing.

  Only back-to-back duplicates are absorbed: a signature redelivered after a block for the same
  hash resets the acceptor and drops that block (`get_or_register_acceptor_mut` writes a fresh
  acceptor over an occupied entry).

  **Nothing accumulates** (`run_holds_at_most_one_signature`).  A stream of signatures for one
  hash does not build up either: each one, like each block, is registered into the fresh acceptor
  `get_or_register_acceptor_mut` writes over the tracked entry, so no acceptor ever holds more
  than one signature (`AtMostOneSignature`, one lemma per writer), and an acceptor has sufficient
  finality only when its one signer alone carries the quorum.
-/

namespace CasperAccumulator

namespace BlockAccumulator

/-! ## Writing a key twice -/

theorem linkParent_linkParent (s : BlockAccumulator) (b : Block) :
    (s.linkParent b).linkParent b = s.linkParent b := by
  unfold linkParent
  cases b.parent with
  | none => rfl
  | some p => simp only [AList.insert_insert]

theorem linkParent_putAcceptor (s : BlockAccumulator) (b : Block) (h : BlockHash)
    (a : BlockAcceptor) : (s.putAcceptor h a).linkParent b = (s.linkParent b).putAcceptor h a :=
  rfl

theorem linkParent_removeAcceptor (s : BlockAccumulator) (b : Block) (h : BlockHash) :
    (s.removeAcceptor h).linkParent b = (s.linkParent b).removeAcceptor h :=
  rfl

theorem removeAcceptor_removeAcceptor (s : BlockAccumulator) (h : BlockHash) :
    (s.removeAcceptor h).removeAcceptor h = s.removeAcceptor h := by
  simp only [removeAcceptor]
  congr 1
  exact AList.ext
    (List.kerase_of_not_mem_keys (List.not_mem_keys_kerase h s.blockAcceptors.nodupKeys))

/-- A block the acceptor answers with `EraMismatch` takes its acceptor away. -/
theorem acceptBlock_of_eraMismatch (s : BlockAccumulator) {a : BlockAcceptor} {b : Block}
    {sender : NodeId} (he : (a.registerBlock b sender).2 = .error .eraMismatch) :
    (s.acceptBlock a b sender).2 =
      (s.putAcceptor b.hash (a.registerBlock b sender).1).removeAcceptor b.hash := by
  unfold acceptBlock
  generalize a.registerBlock b sender = r at he ⊢
  obtain ⟨a', r⟩ := r
  obtain rfl : r = .error .eraMismatch := he
  rfl

/-- Any other answer writes the acceptor back. -/
theorem acceptBlock_of_ne_eraMismatch (s : BlockAccumulator) {a : BlockAcceptor} {b : Block}
    {sender : NodeId} (he : (a.registerBlock b sender).2 ≠ .error .eraMismatch) :
    (s.acceptBlock a b sender).2 = s.putAcceptor b.hash (a.registerBlock b sender).1 := by
  unfold acceptBlock
  generalize a.registerBlock b sender = r at he ⊢
  obtain ⟨a', e | _⟩ := r
  · cases e <;> first | rfl | exact absurd rfl he
  · rfl

/-! ## The three branches of `register_block` -/

section Branches

variable {s : BlockAccumulator} {b : Block} (sender : NodeId)

theorem registerBlock_of_outdated (ho : s.localTip.any (b.header.height < ·) = true) :
    (s.registerBlock b sender).2 = s.removeAcceptor b.hash := by
  rw [registerBlock, if_pos ho]

theorem registerBlock_of_untracked (ho : s.localTip.any (b.header.height < ·) = false)
    (hn : ¬ (b.hash ∈ s.blockAcceptors ∧ b.hash ∉ s.alreadyHandled)) :
    (s.registerBlock b sender).2 = s.linkParent b := by
  rw [registerBlock, if_neg (by simp [ho]), getOrRegisterAcceptorMut_eq,
    if_neg (by simpa using hn)]

theorem registerBlock_of_tracked (ho : s.localTip.any (b.header.height < ·) = false)
    (ht : b.hash ∈ s.blockAcceptors ∧ b.hash ∉ s.alreadyHandled) :
    (s.registerBlock b sender).2 =
      (((s.linkParent b).putAcceptor b.hash
        (freshAcceptor s.validatorMatrix b.hash b.header.eraId [sender])).acceptBlock
        (freshAcceptor s.validatorMatrix b.hash b.header.eraId [sender]) b sender).2 := by
  rw [registerBlock, if_neg (by simp [ho]), getOrRegisterAcceptorMut_eq,
    if_pos (by simpa using ht)]
  rfl

end Branches

/-! ## Blocks and signatures -/

/-- A block delivered twice in a row leaves the state the first delivery left. -/
theorem registerBlock_registerBlock (s : BlockAccumulator) (b : Block) (sender : NodeId) :
    ((s.registerBlock b sender).2.registerBlock b sender).2 = (s.registerBlock b sender).2 := by
  by_cases ho : s.localTip.any (b.header.height < ·) = true
  · -- outdated, and still outdated: the acceptor is dropped twice
    rw [registerBlock_of_outdated sender ho, registerBlock_of_outdated sender (by simpa using ho),
      removeAcceptor_removeAcceptor]
  replace ho : s.localTip.any (b.header.height < ·) = false := by simpa using ho
  by_cases ht : b.hash ∈ s.blockAcceptors ∧ b.hash ∉ s.alreadyHandled
  · rw [registerBlock_of_tracked sender ho ht]
    by_cases he : ((freshAcceptor s.validatorMatrix b.hash b.header.eraId [sender]).registerBlock
        b sender).2 = .error .eraMismatch
    · -- the acceptor is dropped, so the second delivery only links the parent again
      rw [acceptBlock_of_eraMismatch _ he, putAcceptor_putAcceptor,
        registerBlock_of_untracked sender (by simpa using ho) (by simp),
        linkParent_removeAcceptor, linkParent_putAcceptor, linkParent_linkParent]
    · -- the same fresh acceptor takes the same block again
      rw [acceptBlock_of_ne_eraMismatch _ he, putAcceptor_putAcceptor,
        registerBlock_of_tracked sender (by simpa using ho) (by simpa using ht.2)]
      simp only [putAcceptor_validatorMatrix, linkParent_validatorMatrix]
      rw [acceptBlock_of_ne_eraMismatch _ he, putAcceptor_putAcceptor, linkParent_putAcceptor,
        linkParent_linkParent, putAcceptor_putAcceptor]
  · -- untracked, and still untracked: the parent is linked twice
    rw [registerBlock_of_untracked sender ho ht,
      registerBlock_of_untracked sender (by simpa using ho) (by simpa using ht),
      linkParent_linkParent]

/-- A signature delivered twice in a row leaves the state the first delivery left. -/
theorem registerFinalitySignature_registerFinalitySignature (s : BlockAccumulator)
    (fs : FinalitySignature) (sender : NodeId) :
    ((s.registerFinalitySignature fs sender).2.registerFinalitySignature fs sender).2 =
      (s.registerFinalitySignature fs sender).2 := by
  rcases registerFinalitySignature_cases s fs sender with ⟨-, h⟩ | ⟨hk, hu, h⟩
  · simp only [h]
  rw [h, acceptFinalitySignature_state, putAcceptor_putAcceptor]
  rcases registerFinalitySignature_cases
      (s.putAcceptor fs.blockHash ((freshAcceptor s.validatorMatrix fs.blockHash fs.eraId
        [sender]).registerFinalitySignature fs sender).1) fs sender with ⟨hn, -⟩ | ⟨-, -, h'⟩
  · simp [hu] at hn
  · rw [h', acceptFinalitySignature_state]
    simp only [putAcceptor_validatorMatrix, putAcceptor_putAcceptor]

/-! ## Redelivery -/

/-- **A duplicated event leaves the state as one delivery does.**  For every state and every
    event, handling the event a second time, right after the first, leaves the state the first
    delivery left; so a run in which every event arrives twice in a row ends in the state the
    run with each event once ends in. -/
theorem handleEvent_redelivery_keeps_state :
    (∀ (s : BlockAccumulator) (event : Event),
      ((s.handleEvent event).2.handleEvent event).2 = (s.handleEvent event).2) ∧
    (∀ (s : BlockAccumulator) (events : List Event),
      s.run (events.flatMap fun e => [.handleEvent e, .handleEvent e]) =
        s.run (events.map .handleEvent)) := by
  have once : ∀ (s : BlockAccumulator) (event : Event),
      ((s.handleEvent event).2.handleEvent event).2 = (s.handleEvent event).2 := by
    intro s event
    cases event with
    | receivedBlock b sender => exact registerBlock_registerBlock s b sender
    | receivedFinalitySignature fs sender =>
      exact registerFinalitySignature_registerFinalitySignature s fs sender
    | executedBlock header =>
      show (s.registerLocalTip header.height).registerLocalTip header.height = _
      rw [registerLocalTip_registerLocalTip, max_self]
      rfl
    | _ => rfl
  refine ⟨once, fun s events => ?_⟩
  induction events generalizing s with
  | nil => rfl
  | cons e events ih =>
    simp only [List.flatMap_cons, List.map_cons, List.cons_append, List.nil_append, run_cons]
    rw [step, step, once, ih]

end BlockAccumulator

namespace BlockAcceptor

/-- A signature leaves the signatures as they were, or appends itself. -/
theorem registerFinalitySignature_signatures (a : BlockAcceptor) (fs : FinalitySignature)
    (peer : NodeId) :
    (a.registerFinalitySignature fs peer).1.signatures = a.signatures ∨
      (a.registerFinalitySignature fs peer).1.signatures = a.signatures ++ [fs] := by
  rcases registerFinalitySignature_cases a fs peer with ⟨e, he⟩ | he | he <;> rw [he]
  · exact .inl rfl
  · exact .inl (registerPeer_signatures a peer)
  · exact .inr rfl

/-- With at most one signature, quorum is the weight of its one signer. -/
theorem hasSufficientFinality_of_length_le_one {a : BlockAcceptor} (h : a.signatures.length ≤ 1)
    (hf : a.hasSufficientFinality = true) :
    ∃ fs w, a.signatures = [fs] ∧ a.eraValidatorWeights = some w ∧
      w.hasSufficientWeight [fs.publicKey] = true := by
  rcases hs : a.signatures with _ | ⟨fs, _ | ⟨fs', l⟩⟩
  · rw [hasSufficientFinality_of_signatures_nil hs] at hf
    cases hf
  · unfold hasSufficientFinality at hf
    rw [hs] at hf
    cases hw : a.eraValidatorWeights with
    | none => rw [hw] at hf; cases hf
    | some w => rw [hw] at hf; exact ⟨fs, w, rfl, rfl, hf⟩
  · rw [hs] at h
    simp at h

end BlockAcceptor

namespace BlockAccumulator

/-- A weight refresh only drops signatures. -/
theorem refreshFromMatrix_signatures_length_le (m : ValidatorMatrix) (a : BlockAcceptor) :
    (refreshFromMatrix m a).signatures.length ≤ a.signatures.length := by
  unfold refreshFromMatrix
  split <;> (try split) <;> simp [BlockAcceptor.refresh, List.length_filter_le]

/-! ## Nothing accumulates -/

/-- Every acceptor holds at most one finality signature. -/
def AtMostOneSignature (s : BlockAccumulator) : Prop :=
  ∀ k a, s.blockAcceptors.lookup k = some a → a.signatures.length ≤ 1

/-- Decided over the entries of the map. -/
instance (s : BlockAccumulator) : Decidable s.AtMostOneSignature :=
  decidable_of_iff (∀ e ∈ s.blockAcceptors.entries, e.2.signatures.length ≤ 1)
    ⟨fun H k a hl => H ⟨k, a⟩ (AList.mem_lookup_iff.mp hl),
      fun H e he => H e.1 e.2 (AList.mem_lookup_iff.mpr he)⟩

section OneSignature

variable {s : BlockAccumulator}

theorem registerBlock_atMostOneSignature (h : s.AtMostOneSignature) (b : Block)
    (sender : NodeId) : (s.registerBlock b sender).2.AtMostOneSignature := by
  intro k a hl
  rcases lookup_registerBlock s b sender hl with hl | ⟨-, -, rfl⟩
  · exact h k a hl
  · simp [BlockAcceptor.registerBlock_signatures_nil (freshAcceptor_signatures ..) b sender]

theorem registerFinalitySignature_atMostOneSignature (h : s.AtMostOneSignature)
    (fs : FinalitySignature) (sender : NodeId) :
    (s.registerFinalitySignature fs sender).2.AtMostOneSignature := by
  intro k a hl
  rcases lookup_registerFinalitySignature s fs sender hl with hl | ⟨-, rfl⟩
  · exact h k a hl
  · -- the fresh acceptor holds the new signature at most
    rcases BlockAcceptor.registerFinalitySignature_signatures
      (freshAcceptor s.validatorMatrix fs.blockHash fs.eraId [sender]) fs sender with he | he <;>
      simp [he]

theorem registerLocalTip_atMostOneSignature (h : s.AtMostOneSignature) (n : Nat) :
    (s.registerLocalTip n).AtMostOneSignature := by
  intro k a hl
  rw [registerLocalTip_lookup] at hl
  exact h k a (Option.filter_eq_some.mp hl).1

theorem registerUpdatedValidatorMatrix_atMostOneSignature (h : s.AtMostOneSignature) :
    s.registerUpdatedValidatorMatrix.AtMostOneSignature := by
  intro k a hl
  simp only [registerUpdatedValidatorMatrix, BTreeMap.lookup_mapValues, Option.map_eq_some'] at hl
  obtain ⟨a, hl, rfl⟩ := hl
  exact (refreshFromMatrix_signatures_length_le _ a).trans (h k a hl)

theorem syncInstruction_atMostOneSignature (h : s.AtMostOneSignature) (w : StartingWith)
    (now : Nat) : (s.syncInstruction w now).2.AtMostOneSignature := by
  intro k a hl
  rcases lookup_syncInstruction s w now hl with hl | rfl
  · exact h k a hl
  · exact Nat.zero_le _

theorem step_atMostOneSignature (h : s.AtMostOneSignature) (op : Op) :
    (s.step op).AtMostOneSignature :=
  @step_preserves AtMostOneSignature registerBlock_atMostOneSignature
    registerFinalitySignature_atMostOneSignature registerLocalTip_atMostOneSignature
    registerUpdatedValidatorMatrix_atMostOneSignature syncInstruction_atMostOneSignature _ h op

end OneSignature

/-- **Signatures never accumulate.**  From every state whose acceptors hold at most one finality
    signature each, every run of operations keeps it so; hence an acceptor with sufficient
    finality holds exactly one signature, whose signer's weight alone meets the quorum of the
    acceptor's era.  A quorum that needs two validators is never reached. -/
theorem run_holds_at_most_one_signature (s : BlockAccumulator) (ops : List Op)
    (hs : s.AtMostOneSignature) :
    (s.run ops).AtMostOneSignature ∧
      ∀ k a, (s.run ops).blockAcceptors.lookup k = some a → a.hasSufficientFinality = true →
        ∃ fs w, a.signatures = [fs] ∧ a.eraValidatorWeights = some w ∧
          w.hasSufficientWeight [fs.publicKey] = true := by
  have hrun : (s.run ops).AtMostOneSignature :=
    @run_of_step AtMostOneSignature (fun _ op h => step_atMostOneSignature h op) ops s hs
  exact ⟨hrun, fun k a hl => BlockAcceptor.hasSufficientFinality_of_length_le_one (hrun k a hl)⟩

/-- A second validator's signature for hash `1` of `usableAcceptorState` replaces the first
    instead of joining it. -/
theorem run_holds_at_most_one_signature_usable :
    (usableAcceptorState.run [.handleEvent
        (.receivedFinalitySignature ⟨⟨1⟩, ⟨0⟩, ⟨0⟩, ⟨2⟩, true⟩ ⟨7⟩)]).AtMostOneSignature ∧
      ∀ k a, (usableAcceptorState.run [.handleEvent
          (.receivedFinalitySignature ⟨⟨1⟩, ⟨0⟩, ⟨0⟩, ⟨2⟩, true⟩ ⟨7⟩)]).blockAcceptors.lookup k =
            some a → a.hasSufficientFinality = true →
        ∃ fs w, a.signatures = [fs] ∧ a.eraValidatorWeights = some w ∧
          w.hasSufficientWeight [fs.publicKey] = true :=
  run_holds_at_most_one_signature _ _ (by decide)

end BlockAccumulator

end CasperAccumulator
