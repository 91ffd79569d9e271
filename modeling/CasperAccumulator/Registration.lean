import CasperAccumulator.Invariants

/-
  What becomes of the blocks and signatures `handle_event` registers.

  **Registrations are lost.**  `get_or_register_acceptor_mut` (`block_accumulator.rs`, lines
  481-500) tests `if let Entry::Occupied(..)`.  For a hash with no acceptor it creates none and
  `get_mut` then finds none, so the item is dropped; for a tracked, unhandled hash it writes a
  fresh acceptor over whatever the old one had gathered before handing it out.  The spec's
  lifecycle ("created lazily on first sighting of a block or signature for a hash not yet known")
  is the `Entry::Vacant` test.  `registration_is_lost` shows both halves on one accumulator each.
  Over whole runs:

  * no event ever creates an acceptor (`run_handleEvents_adds_no_acceptor`);
  * since every registration starts from a fresh acceptor, no acceptor ever comes to hold both a
    block and a signature (`NoSignedBlock`), so none becomes usable and `sync_instruction` only
    leaps or executes in place (`registration_never_assembles_usable_acceptor`); this rests on
    the acceptor of spec §3, where a quorum needs at least one signature;
  * for the same reason no signature completes a block's quorum, so no event ever asks storage
    for a block (`handleEvent_never_stores_a_block`);
  * from `new`, nothing is ever tracked at all (`reachable_tracks_nothing`): the only other write
    to the map, the placeholder of `sync_instruction`, needs a usable acceptor.

  **Hashes do not interfere.**  What registration does under a hash `h` reads only the acceptor
  under `h`, the handled set, the tip and the weight source, and an event for another hash
  changes none of them (`AgreeAt`).  So after any interleaving of gossip events, the acceptor
  under `h` is the one the events for `h` alone would leave
  (`run_lookup_independent_of_other_hashes`): the loss above is a property of each hash's own
  sequence, not of the interleaving.
-/

namespace CasperAccumulator

/-- The hash an event registers something under: its block's, or its signature's block's. -/
def Event.registersUnder : Event → Option BlockHash
  | .receivedBlock block _ => some block.hash
  | .receivedFinalitySignature finalitySignature _ => some finalitySignature.blockHash
  | _ => none

namespace BlockAccumulator

/-! ## Lost registrations -/

/-- A block at height 5 of era `0`, child of `0`, that passes verification. -/
def firstSighting : Block := ⟨⟨1⟩, ⟨some ⟨0⟩, ⟨0⟩, 5⟩, true⟩

/-- No event creates an acceptor. -/
theorem mem_of_mem_handleEvent {s : BlockAccumulator} {event : Event} {k : BlockHash}
    (hk : k ∈ (s.handleEvent event).2.blockAcceptors) : k ∈ s.blockAcceptors := by
  cases event with
  | receivedBlock b sender => exact mem_of_mem_registerBlock s b sender hk
  | receivedFinalitySignature fs sender => exact mem_of_mem_registerFinalitySignature s fs sender hk
  | executedBlock header => exact mem_of_mem_registerLocalTip s header.height hk
  | getPeersForBlock _ | updatedValidatorMatrix _ | stored _ _ => exact hk

/-- **No run of events ever tracks a new hash**: after any sequence of `handle_event` calls, from
    any state, every hash with an acceptor had one at the start. -/
theorem run_handleEvents_adds_no_acceptor (s : BlockAccumulator) (events : List Event) :
    ∀ k ∈ (s.run (events.map .handleEvent)).blockAcceptors, k ∈ s.blockAcceptors := by
  induction events generalizing s with
  | nil => exact fun _ hk => hk
  | cons event events ih => exact fun k hk => mem_of_mem_handleEvent (ih _ k hk)

theorem run_handleEvents_adds_no_acceptor_usable :
    (⟨1⟩ : BlockHash) ∈ (usableAcceptorState.run
      ([.receivedBlock firstSighting ⟨7⟩].map .handleEvent)).blockAcceptors ∧
    (⟨1⟩ : BlockHash) ∈ usableAcceptorState.blockAcceptors :=
  have hk : (⟨1⟩ : BlockHash) ∈ (usableAcceptorState.run
      ([.receivedBlock firstSighting ⟨7⟩].map .handleEvent)).blockAcceptors := by decide
  ⟨hk, run_handleEvents_adds_no_acceptor _ _ _ hk⟩

/-- The lost registration on two inputs.  A fresh accumulator that receives `firstSighting` —
    not handled, no tip to be below — keeps no acceptor for it; and in `usableAcceptorState`, where
    hash `1` holds that block with its quorum, the same signature arriving again leaves an
    acceptor for `1` that no longer holds the block. -/
theorem registration_is_lost :
    firstSighting.hash ∉ (new ⟨10, 1000⟩ ⟨[]⟩ none 0).alreadyHandled ∧
    (new ⟨10, 1000⟩ ⟨[]⟩ none 0).localTip = none ∧
    ((new ⟨10, 1000⟩ ⟨[]⟩ none 0).run
      [.handleEvent (.receivedBlock firstSighting ⟨7⟩)]).blockAcceptors.lookup ⟨1⟩ = none ∧
    usableAcceptorState.block ⟨1⟩ = some firstSighting ∧
    (usableAcceptorState.run [.handleEvent (.receivedFinalitySignature
      ⟨⟨1⟩, ⟨0⟩, ⟨0⟩, ⟨1⟩, true⟩ ⟨7⟩)]).block ⟨1⟩ = none := by
  decide

/-! ## No acceptor ever holds a block and a signature -/

/-- Every acceptor lacks a block or has no signature. -/
def NoSignedBlock (s : BlockAccumulator) : Prop :=
  ∀ k a, s.blockAcceptors.lookup k = some a → a.block = none ∨ a.signatures = []

/-- Decided over the entries of the map. -/
instance (s : BlockAccumulator) : Decidable s.NoSignedBlock :=
  decidable_of_iff (∀ e ∈ s.blockAcceptors.entries, e.2.block = none ∨ e.2.signatures = [])
    ⟨fun H k a hl => H ⟨k, a⟩ (AList.mem_lookup_iff.mp hl),
      fun H e he => H e.1 e.2 (AList.mem_lookup_iff.mpr he)⟩

section Unsigned

variable {s : BlockAccumulator}

theorem registerBlock_noSignedBlock (h : s.NoSignedBlock) (b : Block) (sender : NodeId) :
    (s.registerBlock b sender).2.NoSignedBlock := by
  intro k a hl
  rcases lookup_registerBlock s b sender hl with hl | ⟨-, -, rfl⟩
  · exact h k a hl
  · exact .inr (BlockAcceptor.registerBlock_signatures_nil (freshAcceptor_signatures ..) b sender)

theorem registerFinalitySignature_noSignedBlock (h : s.NoSignedBlock) (fs : FinalitySignature)
    (sender : NodeId) : (s.registerFinalitySignature fs sender).2.NoSignedBlock := by
  intro k a hl
  rcases lookup_registerFinalitySignature s fs sender hl with hl | ⟨-, rfl⟩
  · exact h k a hl
  · exact .inl (by simp)

theorem registerLocalTip_noSignedBlock (h : s.NoSignedBlock) (n : Nat) :
    (s.registerLocalTip n).NoSignedBlock := by
  intro k a hl
  rw [registerLocalTip_lookup] at hl
  exact h k a (Option.filter_eq_some.mp hl).1

theorem registerUpdatedValidatorMatrix_noSignedBlock (h : s.NoSignedBlock) :
    s.registerUpdatedValidatorMatrix.NoSignedBlock := by
  intro k a hl
  simp only [registerUpdatedValidatorMatrix, BTreeMap.lookup_mapValues, Option.map_eq_some'] at hl
  obtain ⟨a, hl, rfl⟩ := hl
  rcases h k a hl with hb | hs
  · exact .inl (by rw [refreshFromMatrix_block, hb])
  · exact .inr (refreshFromMatrix_signatures_nil _ hs)

theorem syncInstruction_noSignedBlock (h : s.NoSignedBlock) (w : StartingWith) (now : Nat) :
    (s.syncInstruction w now).2.NoSignedBlock := by
  intro k a hl
  rcases lookup_syncInstruction s w now hl with hl | rfl
  · exact h k a hl
  · exact .inl rfl

theorem step_noSignedBlock (h : s.NoSignedBlock) (op : Op) : (s.step op).NoSignedBlock :=
  @step_preserves NoSignedBlock registerBlock_noSignedBlock registerFinalitySignature_noSignedBlock
    registerLocalTip_noSignedBlock registerUpdatedValidatorMatrix_noSignedBlock
    syncInstruction_noSignedBlock _ h op

/-- Without an acceptor holding a block and a signature, no acceptor qualifies. -/
theorem highestUsableBlockHeight_of_noSignedBlock (h : s.NoSignedBlock) :
    s.highestUsableBlockHeight = none := by
  rw [highestUsableBlockHeight_eq, List.max?_eq_none_iff, List.eq_nil_iff_forall_not_mem]
  intro m hm
  obtain ⟨k, a, hl, -, hf, e, he⟩ := (mem_usableHeights s m).mp hm
  rcases h k a hl with hb | hs
  · simp [BlockAcceptor.blockEraAndHeight, hb] at he
  · rw [BlockAcceptor.hasSufficientFinality_of_signatures_nil hs] at hf
    cases hf

end Unsigned

/-- With no usable height nothing is within reach, so by the decision table `sync_instruction`
    can only leap or execute without a next block. -/
theorem syncInstruction_of_highestUsable_none {s : BlockAccumulator}
    (hH : s.highestUsableBlockHeight = none) (w : StartingWith) (now : Nat) :
    (s.syncInstruction w now).1 = .leap ∨ (s.syncInstruction w now).1 = .blockExec none := by
  have hr : ∀ n, s.withinReach n = false := fun n => by simp [withinReach, hH]
  rw [syncInstruction_eq]
  cases w with
  | hash p =>
    simp only [syncDecision, hr]
    split
    · exact .inl rfl
    · split <;> simp
  | _ => simp [syncDecision, hH, hr]

/-- **No acceptor ever assembles a block with a signature.**  From every state where no acceptor
    holds both, every operation keeps it so, since every registration starts from a fresh
    acceptor; and in such a state no acceptor qualifies for `highest_usable_block_height`, so
    `sync_instruction` answers every `StartingWith`, at every time, with `Leap` or
    `BlockExec { next_block_hash: None }`. -/
theorem registration_never_assembles_usable_acceptor :
    (∀ (s : BlockAccumulator) (op : Op), s.NoSignedBlock → (s.step op).NoSignedBlock) ∧
    (∀ s : BlockAccumulator, s.NoSignedBlock → s.highestUsableBlockHeight = none ∧
      ∀ w now, (s.syncInstruction w now).1 = .leap ∨
        (s.syncInstruction w now).1 = .blockExec none) :=
  ⟨fun _ op h => step_noSignedBlock h op,
    fun _ h => ⟨highestUsableBlockHeight_of_noSignedBlock h,
      syncInstruction_of_highestUsable_none (highestUsableBlockHeight_of_noSignedBlock h)⟩⟩

/-- `usableAcceptorState` before its signature arrived: hash `1` holds `firstSighting` and the
    weight table of its era, and no signature. -/
def unsignedState : BlockAccumulator :=
  { usableAcceptorState with
    blockAcceptors := (∅ : BTreeMap _ _).insert ⟨1⟩
      ⟨⟨1⟩, some firstSighting, [], [], some ⟨⟨0⟩, [(⟨1⟩, 1)], (1, 3)⟩⟩ }

/-- The signature of the era's only validator reaches `unsignedState`: registered into a fresh
    acceptor, it does not join the block; and `unsignedState` itself, whose block has no
    signature, has no usable height and gets `Leap` or `BlockExec(None)` for every request. -/
theorem registration_never_assembles_usable_acceptor_firstSighting :
    unsignedState.NoSignedBlock ∧
    (unsignedState.step (.handleEvent (.receivedFinalitySignature
      ⟨⟨1⟩, ⟨0⟩, ⟨0⟩, ⟨1⟩, true⟩ ⟨7⟩))).NoSignedBlock ∧
    unsignedState.highestUsableBlockHeight = none ∧
    ∀ w now, (unsignedState.syncInstruction w now).1 = .leap ∨
      (unsignedState.syncInstruction w now).1 = .blockExec none :=
  have h : unsignedState.NoSignedBlock := by decide
  ⟨h, registration_never_assembles_usable_acceptor.1 _ _ h,
    registration_never_assembles_usable_acceptor.2 _ h⟩

/-! ## No block is ever stored -/

/-- A block only ever disconnects a peer. -/
theorem mem_acceptBlock {s : BlockAccumulator} {a : BlockAcceptor} {b : Block} {sender : NodeId}
    {eff : Effect} (h : eff ∈ (s.acceptBlock a b sender).1) :
    ∃ p, eff = .announceDisconnectFromPeer p := by
  unfold acceptBlock at h
  generalize a.registerBlock b sender = r at h
  obtain ⟨a', e | u⟩ := r
  · cases e <;> simp at h <;> exact ⟨_, h⟩
  · simp at h

theorem mem_registerBlock {s : BlockAccumulator} {b : Block} {sender : NodeId} {eff : Effect}
    (h : eff ∈ (s.registerBlock b sender).1) : ∃ p, eff = .announceDisconnectFromPeer p := by
  rcases registerBlock_cases s b sender with ⟨-, hs⟩ | ⟨-, -, hs⟩ | ⟨-, -, -, hs⟩ <;> rw [hs] at h
  · cases h
  · cases h
  · exact mem_acceptBlock h

/-- A signature accepted by an acceptor without a block asks storage for that signature alone. -/
theorem mem_acceptFinalitySignature_of_block_none {s : BlockAccumulator} {a : BlockAcceptor}
    (ha : a.block = none) {fs : FinalitySignature} {sender : NodeId} {eff : Effect}
    (h : eff ∈ (s.acceptFinalitySignature a fs sender).1) :
    eff = .putFinalitySignatureToStorage fs (.stored none [fs.id]) ∨
      ∃ p, eff = .announceDisconnectFromPeer p := by
  have hr := BlockAcceptor.registerFinalitySignature_of_block_none ha fs sender
  unfold acceptFinalitySignature at h
  generalize a.registerFinalitySignature fs sender = r at hr h
  obtain ⟨a', r⟩ := r
  rcases hr with ⟨e, rfl⟩ | rfl | rfl
  · cases e <;> simp at h <;> exact .inr ⟨_, h⟩
  · simp at h
  · exact .inl (by simpa using h)

/-- Every signature is accepted by a fresh acceptor, which holds no block. -/
theorem mem_registerFinalitySignature {s : BlockAccumulator} {fs : FinalitySignature}
    {sender : NodeId} {eff : Effect} (h : eff ∈ (s.registerFinalitySignature fs sender).1) :
    eff = .putFinalitySignatureToStorage fs (.stored none [fs.id]) ∨
      ∃ p, eff = .announceDisconnectFromPeer p := by
  rcases registerFinalitySignature_cases s fs sender with ⟨-, hs⟩ | ⟨-, -, hs⟩ <;> rw [hs] at h
  · cases h
  · exact mem_acceptFinalitySignature_of_block_none (freshAcceptor_block ..) h

/-- No hash has an acceptor. -/
def TracksNothing (s : BlockAccumulator) : Prop :=
  ∀ k, k ∉ s.blockAcceptors

theorem TracksNothing.noSignedBlock {s : BlockAccumulator} (h : s.TracksNothing) :
    s.NoSignedBlock :=
  fun k _ hl => absurd (AList.lookup_isSome.mp (by rw [hl]; rfl)) (h k)

/-- With nothing tracked the highest usable height is `None`, so no placeholder is placed. -/
theorem syncInstruction_tracksNothing {s : BlockAccumulator} (h : s.TracksNothing)
    (w : StartingWith) (now : Nat) : (s.syncInstruction w now).2.TracksNothing := by
  have hH := highestUsableBlockHeight_of_noSignedBlock h.noSignedBlock
  rcases syncInstruction_cases s w now with he | he | ⟨-, -, m, -, hm, -, -⟩
  · rw [he]; exact h
  · rw [he]; exact h
  · rw [hH] at hm; cases hm

theorem step_tracksNothing {s : BlockAccumulator} (h : s.TracksNothing) (op : Op) :
    (s.step op).TracksNothing :=
  @step_preserves TracksNothing
    (fun h b sender k hk => h k (mem_of_mem_registerBlock _ b sender hk))
    (fun h fs sender k hk => h k (mem_of_mem_registerFinalitySignature _ fs sender hk))
    (fun h n k hk => h k (mem_of_mem_registerLocalTip _ n hk))
    (fun h k hk => h k ((mem_registerUpdatedValidatorMatrix _).mp hk))
    syncInstruction_tracksNothing _ h op

/-- **From `new`, the accumulator never tracks a block.**  No registration creates an acceptor
    and, with none to be usable, `sync_instruction` places no placeholder: in every state
    reachable from `new` no hash has an acceptor, and `block(h)` and `get_peers(h)` answer `None`
    for every `h`. -/
theorem reachable_tracks_nothing (config : Config) (m : ValidatorMatrix) (tip : Option Nat)
    (now : Nat) (ops : List Op) (h : BlockHash) :
    ((new config m tip now).run ops).blockAcceptors.lookup h = none ∧
    ((new config m tip now).run ops).block h = none ∧
    ((new config m tip now).run ops).getPeers h = none := by
  have hn : ((new config m tip now).run ops).blockAcceptors.lookup h = none :=
    AList.lookup_eq_none.mpr (@run_of_step TracksNothing (fun _ op h => step_tracksNothing h op)
      ops _ (fun _ hk => by simp [new] at hk) h)
  exact ⟨hn, by simp [block, hn], by simp [getPeers, hn]⟩

/-! ## Hashes do not interfere -/

/-- Two states registration cannot tell apart at `h`: the same acceptor under `h`, the same
    handled set, tip and weight source. -/
structure AgreeAt (h : BlockHash) (s t : BlockAccumulator) : Prop where
  lookup : s.blockAcceptors.lookup h = t.blockAcceptors.lookup h
  alreadyHandled : s.alreadyHandled = t.alreadyHandled
  localTip : s.localTip = t.localTip
  validatorMatrix : s.validatorMatrix = t.validatorMatrix

theorem AgreeAt.symm {h : BlockHash} {s t : BlockAccumulator} (hst : AgreeAt h s t) :
    AgreeAt h t s :=
  ⟨hst.lookup.symm, hst.alreadyHandled.symm, hst.localTip.symm, hst.validatorMatrix.symm⟩

theorem AgreeAt.trans {h : BlockHash} {s t u : BlockAccumulator} (hst : AgreeAt h s t)
    (htu : AgreeAt h t u) : AgreeAt h s u :=
  ⟨hst.lookup.trans htu.lookup, hst.alreadyHandled.trans htu.alreadyHandled,
    hst.localTip.trans htu.localTip, hst.validatorMatrix.trans htu.validatorMatrix⟩

/-- What the borrowed acceptor leaves under the block's hash does not depend on the rest of the
    state. -/
theorem acceptBlock_lookup_self (s t : BlockAccumulator) (a : BlockAcceptor) (b : Block)
    (sender : NodeId) :
    (s.acceptBlock a b sender).2.blockAcceptors.lookup b.hash =
      (t.acceptBlock a b sender).2.blockAcceptors.lookup b.hash := by
  unfold acceptBlock
  generalize a.registerBlock b sender = r
  obtain ⟨a', e | _⟩ := r
  · cases e <;> simp
  · simp

theorem registerBlock_lookup_congr {s t : BlockAccumulator} {b : Block} (sender : NodeId)
    (hst : AgreeAt b.hash s t) :
    (s.registerBlock b sender).2.blockAcceptors.lookup b.hash =
      (t.registerBlock b sender).2.blockAcceptors.lookup b.hash := by
  have hm : b.hash ∈ s.blockAcceptors ↔ b.hash ∈ t.blockAcceptors := by
    rw [← AList.lookup_isSome, ← AList.lookup_isSome, hst.lookup]
  unfold registerBlock
  simp only [hst.localTip, getOrRegisterAcceptorMut_eq, linkParent_blockAcceptors,
    linkParent_alreadyHandled, linkParent_validatorMatrix, hm, hst.alreadyHandled,
    hst.validatorMatrix]
  split_ifs
  · simp
  · exact acceptBlock_lookup_self _ _ _ b sender
  · exact hst.lookup

theorem registerFinalitySignature_lookup_congr {s t : BlockAccumulator} {fs : FinalitySignature}
    (sender : NodeId) (hst : AgreeAt fs.blockHash s t) :
    (s.registerFinalitySignature fs sender).2.blockAcceptors.lookup fs.blockHash =
      (t.registerFinalitySignature fs sender).2.blockAcceptors.lookup fs.blockHash := by
  have hm : fs.blockHash ∈ s.blockAcceptors ↔ fs.blockHash ∈ t.blockAcceptors := by
    rw [← AList.lookup_isSome, ← AList.lookup_isSome, hst.lookup]
  unfold registerFinalitySignature
  simp only [getOrRegisterAcceptorMut_eq, hm, hst.alreadyHandled, hst.validatorMatrix]
  split_ifs
  · simp [acceptFinalitySignature_state]
  · exact hst.lookup

/-- An event for `h`, handled in two states that agree at `h`, leaves them agreeing at `h`. -/
theorem agreeAt_handleEvent_same {h : BlockHash} {s t : BlockAccumulator} {event : Event}
    (hst : AgreeAt h s t) (he : event.registersUnder = some h) :
    AgreeAt h (s.handleEvent event).2 (t.handleEvent event).2 := by
  cases event with
  | receivedBlock b sender =>
    cases he
    show AgreeAt _ (s.registerBlock b sender).2 (t.registerBlock b sender).2
    exact ⟨registerBlock_lookup_congr sender hst, by simpa using hst.alreadyHandled,
      by simpa using hst.localTip, by simpa using hst.validatorMatrix⟩
  | receivedFinalitySignature fs sender =>
    cases he
    show AgreeAt _ (s.registerFinalitySignature fs sender).2 (t.registerFinalitySignature fs sender).2
    exact ⟨registerFinalitySignature_lookup_congr sender hst, by simpa using hst.alreadyHandled,
      by simpa using hst.localTip, by simpa using hst.validatorMatrix⟩
  | _ => cases he

/-- An event for another hash, other than `ExecutedBlock`, changes nothing registration reads
    at `h`. -/
theorem agreeAt_handleEvent_other {h : BlockHash} (s : BlockAccumulator) {event : Event}
    (he : event.registersUnder ≠ some h) (hx : ∀ header, event ≠ .executedBlock header) :
    AgreeAt h s (s.handleEvent event).2 := by
  cases event with
  | receivedBlock b sender =>
    have hk : h ≠ b.hash := fun hk => he (congrArg some hk.symm)
    show AgreeAt h s (s.registerBlock b sender).2
    exact ⟨(registerBlock_lookup_ne s b sender hk).symm, by simp, by simp, by simp⟩
  | receivedFinalitySignature fs sender =>
    have hk : h ≠ fs.blockHash := fun hk => he (congrArg some hk.symm)
    show AgreeAt h s (s.registerFinalitySignature fs sender).2
    exact ⟨(registerFinalitySignature_lookup_ne s fs sender hk).symm, by simp, by simp, by simp⟩
  | executedBlock header => exact absurd rfl (hx header)
  | getPeersForBlock _ | updatedValidatorMatrix _ | stored _ _ => exact ⟨rfl, rfl, rfl, rfl⟩

/-- The run invariant: running all events on `s` and only the events for `h` on `t` keeps two
    states that agree at `h` agreeing. -/
theorem agreeAt_run {h : BlockHash} (events : List Event)
    (hx : ∀ e ∈ events, ∀ header, e ≠ .executedBlock header) :
    ∀ s t, AgreeAt h s t →
      AgreeAt h (s.run (events.map .handleEvent))
        (t.run ((events.filter fun e => e.registersUnder = some h).map .handleEvent)) := by
  induction events with
  | nil => exact fun _ _ hst => hst
  | cons e events ih =>
    intro s t hst
    have hx' := fun e he => hx e (List.mem_cons_of_mem _ he)
    by_cases he : e.registersUnder = some h
    · simp only [List.filter_cons, he, decide_True, if_true, List.map_cons, run_cons]
      exact ih hx' _ _ (agreeAt_handleEvent_same hst he)
    · simp only [List.filter_cons, he, decide_False, Bool.false_eq_true, if_false, List.map_cons,
        run_cons]
      exact ih hx' _ _ ((agreeAt_handleEvent_other s he (hx e (List.mem_cons_self _ _))).symm.trans hst)

/-- **Registrations for different hashes do not interfere.**  From any state, after any
    interleaving of `ReceivedBlock`, `ReceivedFinalitySignature`, `Stored`, `GetPeersForBlock` and
    `UpdatedValidatorMatrix` events over any hashes, the acceptor under `h` is the one that the
    events for `h` alone, in their order, leave. -/
theorem run_lookup_independent_of_other_hashes (s : BlockAccumulator) (events : List Event)
    (h : BlockHash) (hx : ∀ e ∈ events, ∀ header, e ≠ .executedBlock header) :
    (s.run (events.map .handleEvent)).blockAcceptors.lookup h =
      (s.run ((events.filter fun e => e.registersUnder = some h).map .handleEvent)).blockAcceptors.lookup
        h :=
  (agreeAt_run events hx s s ⟨rfl, rfl, rfl, rfl⟩).lookup

/-- A block for hash `4`, a signature for hash `1` and a storage completion, interleaved in
    `usableAcceptorState`: hash `1` ends as the signature alone leaves it. -/
theorem run_lookup_independent_of_other_hashes_usable :
    (usableAcceptorState.run ([.receivedBlock ⟨⟨4⟩, ⟨some ⟨1⟩, ⟨0⟩, 6⟩, true⟩ ⟨8⟩,
        .receivedFinalitySignature ⟨⟨1⟩, ⟨0⟩, ⟨0⟩, ⟨1⟩, true⟩ ⟨7⟩, .stored none []].map
          .handleEvent)).blockAcceptors.lookup ⟨1⟩ =
      (usableAcceptorState.run ((List.filter (fun e => e.registersUnder = some ⟨1⟩)
        [Event.receivedBlock ⟨⟨4⟩, ⟨some ⟨1⟩, ⟨0⟩, 6⟩, true⟩ ⟨8⟩,
          .receivedFinalitySignature ⟨⟨1⟩, ⟨0⟩, ⟨0⟩, ⟨1⟩, true⟩ ⟨7⟩, .stored none []]).map
            .handleEvent)).blockAcceptors.lookup ⟨1⟩ :=
  run_lookup_independent_of_other_hashes _ _ _ (by simp)

end BlockAccumulator

end CasperAccumulator
