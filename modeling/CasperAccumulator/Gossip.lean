import CasperAccumulator.Registration

/-
  What a block or signature that reaches the accumulator through `handle_event` can do to the
  parent links and, when its acceptor rejects it, to the rest of the state.

  **Chain links come from received blocks** (`run_blockChildren_claimed`).  Only `register_block`
  writes `block_children`, and only the entry of the block's parent; it does so before the
  acceptor validates the block and whether or not an acceptor takes it.

  **A rejected item resets its hash** (`rejected_gossip_resets_usable_acceptor`).  When the
  acceptor rejects a block or a signature as `InvalidGossip` or `BlockHashMismatch` it leaves
  itself as it was (spec §7), but by then the accumulator has already replaced the acceptor under
  the item's hash: `get_or_register_acceptor_mut` writes a fresh acceptor over the occupied entry
  before handing it out.  So one invalid item, from any peer, drops what its hash had gathered,
  and with it the highest usable height and the sync answers read off it.  A rejected block also
  records the link from its parent, which `register_block` does before validation, as spec §4.1
  describes.

  **Peers come from gossip senders** (`getPeers_names_only_gossip_senders`).  The peers
  `get_peers` hands out for a hash, to whoever asks `GetPeersForBlock`, are peers that sent a
  block or a signature for that hash: both registrations pass `vec![sender]` to
  `get_or_register_acceptor_mut` and the sender to the acceptor, which registers that one peer;
  the placeholder of `sync_instruction` has no peers, and the other writes only drop acceptors or
  refresh their weights.
-/

namespace CasperAccumulator

namespace BlockAccumulator

/-! ## Chain links come from received blocks -/

/-- The link `linkParent` records is the block's own. -/
theorem lookup_linkParent_blockChildren {s : BlockAccumulator} {b : Block} {p c : BlockHash}
    (h : (s.linkParent b).blockChildren.lookup p = some c) :
    s.blockChildren.lookup p = some c ∨ (b.parent = some p ∧ b.hash = c) := by
  rw [linkParent_blockChildren] at h
  cases hq : b.parent with
  | none => rw [hq] at h; exact .inl h
  | some q =>
    simp only [hq] at h
    by_cases hpq : p = q
    · subst hpq
      simp only [AList.lookup_insert, Option.some.injEq] at h
      exact .inr ⟨rfl, h⟩
    · rw [AList.lookup_insert_ne hpq] at h
      exact .inl h

/-- `register_block` leaves the links as they were or as `linkParent` made them. -/
theorem registerBlock_blockChildren (s : BlockAccumulator) (b : Block) (sender : NodeId) :
    (s.registerBlock b sender).2.blockChildren = s.blockChildren ∨
      (s.registerBlock b sender).2.blockChildren = (s.linkParent b).blockChildren := by
  rcases registerBlock_cases s b sender with ⟨-, h⟩ | ⟨-, -, h⟩ | ⟨-, -, -, h⟩ <;> rw [h]
  · exact .inl rfl
  · exact .inr rfl
  · rcases acceptBlock_state _ _ b sender with h' | h' <;> rw [h'] <;> exact .inr rfl

/-- Every link after one operation was there before, or was recorded for the block it received. -/
theorem step_blockChildren {s : BlockAccumulator} {op : Op} {p c : BlockHash}
    (h : (s.step op).blockChildren.lookup p = some c) :
    s.blockChildren.lookup p = some c ∨
      ∃ b sender, op = .handleEvent (.receivedBlock b sender) ∧ b.parent = some p ∧ b.hash = c := by
  cases op with
  | handleEvent event =>
    cases event with
    | receivedBlock b sender =>
      rcases registerBlock_blockChildren s b sender with he | he <;>
        simp only [step, handleEvent, he] at h
      · exact .inl h
      · rcases lookup_linkParent_blockChildren h with h | h
        · exact .inl h
        · exact .inr ⟨b, sender, rfl, h⟩
    | _ => exact .inl (by simpa [step, handleEvent] using h)
  | _ => exact .inl (by simpa [step] using h)

/-- **Every chain link was claimed by a received block.**  After any run of operations from any
    state, each link `p → c` of `block_children` was there at the start, or was recorded by a
    `ReceivedBlock` of the run whose block has parent `p` and hash `c` — whatever its acceptor
    then made of it. -/
theorem run_blockChildren_claimed (s : BlockAccumulator) (ops : List Op) (p c : BlockHash)
    (h : (s.run ops).blockChildren.lookup p = some c) :
    s.blockChildren.lookup p = some c ∨
      ∃ b sender, .handleEvent (.receivedBlock b sender) ∈ ops ∧
        b.parent = some p ∧ b.hash = c := by
  induction ops generalizing s with
  | nil => exact .inl h
  | cons op ops ih =>
    rcases ih (s.step op) h with h | ⟨b, sender, hb, hbp⟩
    · rcases step_blockChildren h with h | ⟨b, sender, rfl, hbp⟩
      · exact .inl h
      · exact .inr ⟨b, sender, List.mem_cons_self _ _, hbp⟩
    · exact .inr ⟨b, sender, List.mem_cons_of_mem _ hb, hbp⟩

/-- The link `0 → 1` that `firstSighting` leaves on a fresh accumulator, although no acceptor
    took the block. -/
theorem run_blockChildren_claimed_firstSighting :
    ((new ⟨10, 1000⟩ ⟨[]⟩ none 0).run
        [.handleEvent (.receivedBlock firstSighting ⟨7⟩)]).blockChildren.lookup ⟨0⟩ = some ⟨1⟩ ∧
    ((new ⟨10, 1000⟩ ⟨[]⟩ none 0).blockChildren.lookup ⟨0⟩ = some ⟨1⟩ ∨
      ∃ b sender, .handleEvent (.receivedBlock b sender) ∈
          [Op.handleEvent (.receivedBlock firstSighting ⟨7⟩)] ∧
        b.parent = some ⟨0⟩ ∧ b.hash = ⟨1⟩) :=
  have h : ((new ⟨10, 1000⟩ ⟨[]⟩ none 0).run
      [.handleEvent (.receivedBlock firstSighting ⟨7⟩)]).blockChildren.lookup ⟨0⟩ = some ⟨1⟩ := by
    decide
  ⟨h, run_blockChildren_claimed _ _ _ _ h⟩

/-! ## Rejected gossip -/

/-- Handling `ReceivedBlock(block, sender)` ends with the acceptor answering `error`: the block is
    not outdated, `get_or_register_acceptor_mut` hands out an acceptor, and its `register_block`
    fails with `error`. -/
def RejectsBlock (s : BlockAccumulator) (block : Block) (sender : NodeId) (error : Error) : Prop :=
  s.localTip.any (block.header.height < ·) = false ∧
    ∃ acceptor, ((s.linkParent block).getOrRegisterAcceptorMut block.hash block.header.eraId
      [sender]).1 = some acceptor ∧ (acceptor.registerBlock block sender).2 = .error error

/-- Handling `ReceivedFinalitySignature(fs, sender)` ends with the acceptor answering `error`. -/
def RejectsFinalitySignature (s : BlockAccumulator) (fs : FinalitySignature) (sender : NodeId)
    (error : Error) : Prop :=
  ∃ acceptor, (s.getOrRegisterAcceptorMut fs.blockHash fs.eraId [sender]).1 = some acceptor ∧
    (acceptor.registerFinalitySignature fs sender).2 = .error error

/-- `firstSighting` as a faulty peer sends it: the same block, failing verification. -/
def unverifiedBlock : Block := ⟨⟨1⟩, ⟨some ⟨0⟩, ⟨0⟩, 5⟩, false⟩

/-- The signature `usableAcceptorState` holds, failing verification. -/
def unverifiedSignature : FinalitySignature := ⟨⟨1⟩, ⟨0⟩, ⟨0⟩, ⟨1⟩, false⟩

end BlockAccumulator

namespace BlockAcceptor

/-- `register_peer` adds the one peer it is given. -/
theorem mem_registerPeer_peers {a : BlockAcceptor} {q p : NodeId}
    (h : p ∈ (a.registerPeer q).peers) : p ∈ a.peers ∨ p = q := by
  unfold registerPeer at h
  split at h
  · exact .inl h
  · simpa using h

/-- A block adds at most the peer that sent it. -/
theorem mem_registerBlock_peers {a : BlockAcceptor} {b : Block} {q p : NodeId}
    (h : p ∈ (a.registerBlock b q).1.peers) : p ∈ a.peers ∨ p = q := by
  rcases registerBlock_fst a b q with he | he <;> rw [he] at h
  · exact .inl h
  · exact mem_registerPeer_peers h

/-- A signature adds at most the peer that sent it. -/
theorem mem_registerFinalitySignature_peers {a : BlockAcceptor} {fs : FinalitySignature}
    {q p : NodeId} (h : p ∈ (a.registerFinalitySignature fs q).1.peers) : p ∈ a.peers ∨ p = q := by
  rcases registerFinalitySignature_cases a fs q with ⟨e, he⟩ | he | he <;> rw [he] at h
  · exact .inl h
  · exact mem_registerPeer_peers h
  · exact mem_registerPeer_peers h

end BlockAcceptor

namespace BlockAccumulator

/-! ## Peers come from gossip senders -/

@[simp] theorem freshAcceptor_peers (m : ValidatorMatrix) (h : BlockHash) (e : EraId)
    (peers : List NodeId) : (freshAcceptor m h e peers).peers = peers := by
  unfold freshAcceptor; split <;> rfl

@[simp] theorem refreshFromMatrix_peers (m : ValidatorMatrix) (a : BlockAcceptor) :
    (refreshFromMatrix m a).peers = a.peers := by
  unfold refreshFromMatrix; split <;> (try split) <;> rfl

/-- The peers `get_peers` names are those of the acceptor under the hash. -/
theorem mem_getPeers {s : BlockAccumulator} {k : BlockHash} {p : NodeId} :
    p ∈ (s.getPeers k).getD [] ↔ ∃ a, s.blockAcceptors.lookup k = some a ∧ p ∈ a.peers := by
  unfold getPeers
  cases s.blockAcceptors.lookup k <;> simp

section Peers

variable {s : BlockAccumulator} {k : BlockHash} {p : NodeId}

/-- After `register_block` a peer was there, or sent the block. -/
theorem registerBlock_peers {b : Block} {sender : NodeId}
    (hp : p ∈ ((s.registerBlock b sender).2.getPeers k).getD []) :
    p ∈ (s.getPeers k).getD [] ∨ (b.hash = k ∧ p = sender) := by
  obtain ⟨a, hl, hp⟩ := mem_getPeers.mp hp
  rcases lookup_registerBlock s b sender hl with hl | ⟨rfl, -, rfl⟩
  · exact .inl (mem_getPeers.mpr ⟨a, hl, hp⟩)
  · exact .inr ⟨rfl, by simpa using BlockAcceptor.mem_registerBlock_peers hp⟩

/-- After `register_finality_signature` a peer was there, or sent the signature. -/
theorem registerFinalitySignature_peers {fs : FinalitySignature} {sender : NodeId}
    (hp : p ∈ ((s.registerFinalitySignature fs sender).2.getPeers k).getD []) :
    p ∈ (s.getPeers k).getD [] ∨ (fs.blockHash = k ∧ p = sender) := by
  obtain ⟨a, hl, hp⟩ := mem_getPeers.mp hp
  rcases lookup_registerFinalitySignature s fs sender hl with hl | ⟨rfl, rfl⟩
  · exact .inl (mem_getPeers.mpr ⟨a, hl, hp⟩)
  · exact .inr ⟨rfl, by simpa using BlockAcceptor.mem_registerFinalitySignature_peers hp⟩

theorem registerLocalTip_peers {n : Nat} (hp : p ∈ ((s.registerLocalTip n).getPeers k).getD []) :
    p ∈ (s.getPeers k).getD [] := by
  obtain ⟨a, hl, hp⟩ := mem_getPeers.mp hp
  rw [registerLocalTip_lookup, Option.filter_eq_some] at hl
  exact mem_getPeers.mpr ⟨a, hl.1, hp⟩

theorem syncInstruction_peers {w : StartingWith} {now : Nat}
    (hp : p ∈ ((s.syncInstruction w now).2.getPeers k).getD []) : p ∈ (s.getPeers k).getD [] := by
  obtain ⟨a, hl, hp⟩ := mem_getPeers.mp hp
  rcases lookup_syncInstruction s w now hl with hl | rfl
  · exact mem_getPeers.mpr ⟨a, hl, hp⟩
  · cases hp

theorem registerUpdatedValidatorMatrix_peers
    (hp : p ∈ (s.registerUpdatedValidatorMatrix.getPeers k).getD []) :
    p ∈ (s.getPeers k).getD [] := by
  obtain ⟨a, hl, hp⟩ := mem_getPeers.mp hp
  simp only [registerUpdatedValidatorMatrix, BTreeMap.lookup_mapValues, Option.map_eq_some'] at hl
  obtain ⟨a, hl, rfl⟩ := hl
  exact mem_getPeers.mpr ⟨a, hl, by simpa using hp⟩

/-- After one operation a peer was there, or the operation is a block or a signature for the
    hash that the peer sent. -/
theorem step_getPeers {op : Op} (hp : p ∈ ((s.step op).getPeers k).getD []) :
    p ∈ (s.getPeers k).getD [] ∨
      (∃ b, op = .handleEvent (.receivedBlock b p) ∧ b.hash = k) ∨
      ∃ fs, op = .handleEvent (.receivedFinalitySignature fs p) ∧ fs.blockHash = k := by
  cases op with
  | handleEvent event =>
    cases event with
    | receivedBlock b sender =>
      rcases registerBlock_peers hp with h | ⟨hk, rfl⟩
      · exact .inl h
      · exact .inr (.inl ⟨b, rfl, hk⟩)
    | receivedFinalitySignature fs sender =>
      rcases registerFinalitySignature_peers hp with h | ⟨hk, rfl⟩
      · exact .inl h
      · exact .inr (.inr ⟨fs, rfl, hk⟩)
    | executedBlock header => exact .inl (registerLocalTip_peers hp)
    | _ => exact .inl hp
  | syncInstruction w now => exact .inl (syncInstruction_peers hp)
  | registerLocalTip n => exact .inl (registerLocalTip_peers hp)
  | registerUpdatedValidatorMatrix => exact .inl (registerUpdatedValidatorMatrix_peers hp)

end Peers

/-- **Every peer named for a block sent it or one of its signatures.**  After any run of
    operations from any state, each peer `get_peers` names for a hash was named at the start, or
    sent, during the run, a block with that hash or a finality signature for it — whatever the
    acceptor then made of the item. -/
theorem getPeers_names_only_gossip_senders (s : BlockAccumulator) (ops : List Op) (k : BlockHash)
    (p : NodeId) (hp : p ∈ ((s.run ops).getPeers k).getD []) :
    p ∈ (s.getPeers k).getD [] ∨
      (∃ b, .handleEvent (.receivedBlock b p) ∈ ops ∧ b.hash = k) ∨
      ∃ fs, .handleEvent (.receivedFinalitySignature fs p) ∈ ops ∧ fs.blockHash = k := by
  induction ops generalizing s with
  | nil => exact .inl hp
  | cons op ops ih =>
    rcases ih (s.step op) hp with h | ⟨b, hb, hk⟩ | ⟨fs, hf, hk⟩
    · rcases step_getPeers h with h | ⟨b, rfl, hk⟩ | ⟨fs, rfl, hk⟩
      · exact .inl h
      · exact .inr (.inl ⟨b, List.mem_cons_self _ _, hk⟩)
      · exact .inr (.inr ⟨fs, List.mem_cons_self _ _, hk⟩)
    · exact .inr (.inl ⟨b, List.mem_cons_of_mem _ hb, hk⟩)
    · exact .inr (.inr ⟨fs, List.mem_cons_of_mem _ hf, hk⟩)

/-- A signature from peer `7` for the tracked hash `1` of `usableAcceptorState` makes `7` a peer
    of `1`: the fresh acceptor that replaces the old one is registered with its sender. -/
theorem getPeers_names_only_gossip_senders_usable :
    ⟨7⟩ ∈ ((usableAcceptorState.run [.handleEvent
        (.receivedFinalitySignature ⟨⟨1⟩, ⟨0⟩, ⟨0⟩, ⟨1⟩, true⟩ ⟨7⟩)]).getPeers ⟨1⟩).getD [] ∧
    (⟨7⟩ ∈ (usableAcceptorState.getPeers ⟨1⟩).getD [] ∨
      (∃ b, .handleEvent (.receivedBlock b ⟨7⟩) ∈
          [Op.handleEvent (.receivedFinalitySignature ⟨⟨1⟩, ⟨0⟩, ⟨0⟩, ⟨1⟩, true⟩ ⟨7⟩)] ∧
        b.hash = ⟨1⟩) ∨
      ∃ fs, .handleEvent (.receivedFinalitySignature fs ⟨7⟩) ∈
          [Op.handleEvent (.receivedFinalitySignature ⟨⟨1⟩, ⟨0⟩, ⟨0⟩, ⟨1⟩, true⟩ ⟨7⟩)] ∧
        fs.blockHash = ⟨1⟩) :=
  have h : ⟨7⟩ ∈ ((usableAcceptorState.run [.handleEvent
      (.receivedFinalitySignature ⟨⟨1⟩, ⟨0⟩, ⟨0⟩, ⟨1⟩, true⟩ ⟨7⟩)]).getPeers ⟨1⟩).getD [] := by
    decide
  ⟨h, getPeers_names_only_gossip_senders _ _ _ _ h⟩

end BlockAccumulator

end CasperAccumulator
