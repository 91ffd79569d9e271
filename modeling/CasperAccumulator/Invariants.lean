import CasperAccumulator.LocalTip

/-
  The two state invariants of spec §3 and §4.1, checked against every operation.

  **Handled hashes stay out of the map** (`HandledDisjoint`, spec §3: "`block_acceptors` keys and
  `already_handled` are disjoint at all times").  Registration never adds a key (`Steps`), and
  `register_local_tip` removes a key exactly when it marks it handled, so all of them keep the two
  apart.  The one write that can break it is the placeholder of `sync_instruction`'s
  `ExecutableBlock` branch, which inserts under the caller's hash without the `already_handled`
  test that `get_or_register_acceptor_mut` makes, although `highest_usable_block_height` reports a
  handled key in the map as an error ("should not have a block acceptor for an already handled
  block_hash").  `step_handledDisjoint` is everything else; `placeholder_readds_handled_hash` is
  the insert at work.

  **No acceptor holds a block below the tip** (`AboveLocalTip`).  `register_block` drops an
  outdated block before any acceptor sees it, the fresh acceptors of registration and the
  placeholder know no height, signatures and weight refreshes never set one, and a tip raised by
  `register_local_tip` evicts whatever it overtakes.  `no_acceptor_below_local_tip` lists every
  operation and closes over runs from `new`.
-/

namespace CasperAccumulator

namespace BlockAccumulator

/-! ## `block_acceptors` and `already_handled` are disjoint -/

/-- No tracked acceptor's hash is in `already_handled`. -/
def HandledDisjoint (s : BlockAccumulator) : Prop :=
  ∀ k ∈ s.blockAcceptors, k ∉ s.alreadyHandled

/-- Decided over the keys of the map. -/
instance (s : BlockAccumulator) : Decidable s.HandledDisjoint :=
  inferInstanceAs (Decidable (∀ k ∈ s.blockAcceptors.keys, k ∉ s.alreadyHandled))

section Disjoint

variable {s : BlockAccumulator}

theorem registerBlock_handledDisjoint (h : s.HandledDisjoint) (b : Block) (sender : NodeId) :
    (s.registerBlock b sender).2.HandledDisjoint := fun k hk => by
  rw [registerBlock_alreadyHandled]
  exact h k (mem_of_mem_registerBlock s b sender hk)

theorem registerFinalitySignature_handledDisjoint (h : s.HandledDisjoint)
    (fs : FinalitySignature) (sender : NodeId) :
    (s.registerFinalitySignature fs sender).2.HandledDisjoint := fun k hk => by
  rw [registerFinalitySignature_alreadyHandled]
  exact h k (mem_of_mem_registerFinalitySignature s fs sender hk)

/-- A key survives `register_local_tip` only if it is not evicted, and only evicted keys join the
    handled set. -/
theorem registerLocalTip_handledDisjoint (h : s.HandledDisjoint) (n : Nat) :
    (s.registerLocalTip n).HandledDisjoint := by
  intro k hk
  obtain ⟨a, ha⟩ := Option.isSome_iff_exists.mp (AList.lookup_isSome.mpr hk)
  rw [registerLocalTip_lookup, Option.filter_eq_some] at ha
  rw [mem_registerLocalTip_alreadyHandled]
  rintro (hh | ⟨a', hl', hlt⟩)
  · exact h k (mem_of_mem_registerLocalTip s n hk) hh
  · -- an evicted key: its acceptor is the surviving one, whose height is not below `n`
    rw [Option.mem_def.mp ha.1, Option.some.injEq] at hl'
    subst hl'
    simp at ha
    omega

theorem registerUpdatedValidatorMatrix_handledDisjoint (h : s.HandledDisjoint) :
    s.registerUpdatedValidatorMatrix.HandledDisjoint := fun k hk =>
  h k ((mem_registerUpdatedValidatorMatrix s).mp hk)

/-- `sync_instruction` keeps the two apart unless it is asked to place a handled hash. -/
theorem syncInstruction_handledDisjoint (h : s.HandledDisjoint) (w : StartingWith) (now : Nat)
    (hw : ∀ p n, w = .executableBlock p n → p ∉ s.alreadyHandled) :
    (s.syncInstruction w now).2.HandledDisjoint := by
  rcases syncInstruction_cases s w now with he | he | ⟨p, n, m, rfl, -, -, he⟩ <;> rw [he]
  · exact h
  · exact h
  · intro k hk
    rcases (AList.mem_insert _).mp hk with rfl | hk
    · exact hw _ n rfl
    · exact h k hk

theorem handleEvent_handledDisjoint (h : s.HandledDisjoint) (event : Event) :
    (s.handleEvent event).2.HandledDisjoint :=
  @handleEvent_preserves HandledDisjoint registerBlock_handledDisjoint
    registerFinalitySignature_handledDisjoint registerLocalTip_handledDisjoint _ h event

end Disjoint

/-- A state the registration path of spec §4.1 produces: hash `1` holds a block at height 5
    signed by the only validator of its era, and hash `2` was evicted by an earlier tip. -/
def usableAcceptorState : BlockAccumulator :=
  let block : Block := ⟨⟨1⟩, ⟨some ⟨0⟩, ⟨0⟩, 5⟩, true⟩
  let weights : EraValidatorWeights := ⟨⟨0⟩, [(⟨1⟩, 1)], (1, 3)⟩
  let signature : FinalitySignature := ⟨⟨1⟩, ⟨0⟩, ⟨0⟩, ⟨1⟩, true⟩
  { new ⟨10, 1000⟩ ⟨[weights]⟩ none 0 with
    blockAcceptors := (∅ : BTreeMap _ _).insert ⟨1⟩ ⟨⟨1⟩, some block, [signature], [], some weights⟩
    alreadyHandled := {⟨2⟩} }

/-- **Every operation keeps `block_acceptors` and `already_handled` disjoint, except
    `sync_instruction(ExecutableBlock(p, n))` for a handled `p`.** -/
theorem step_handledDisjoint (s : BlockAccumulator) (op : Op) (h : s.HandledDisjoint)
    (hop : ∀ p n now, op = .syncInstruction (.executableBlock p n) now → p ∉ s.alreadyHandled) :
    (s.step op).HandledDisjoint := by
  cases op with
  | handleEvent event => exact handleEvent_handledDisjoint h event
  | syncInstruction w now =>
    exact syncInstruction_handledDisjoint h w now fun p n hw => hop p n now (by rw [hw])
  | registerLocalTip n => exact registerLocalTip_handledDisjoint h n
  | registerUpdatedValidatorMatrix => exact registerUpdatedValidatorMatrix_handledDisjoint h

/-- Raising the tip of `usableAcceptorState` to 6 evicts hash `1` into the handled set. -/
theorem step_handledDisjoint_registerLocalTip :
    usableAcceptorState.HandledDisjoint ∧
      (usableAcceptorState.step (.registerLocalTip 6)).HandledDisjoint :=
  have h : usableAcceptorState.HandledDisjoint := by decide
  ⟨h, step_handledDisjoint _ _ h fun _ _ _ hop => by cases hop⟩

/-- The placeholder insert at work: from a state where the two are disjoint,
    `sync_instruction(ExecutableBlock(2, 10))` tracks the handled hash `2` again. -/
theorem placeholder_readds_handled_hash :
    usableAcceptorState.HandledDisjoint ∧
      ¬ (usableAcceptorState.syncInstruction (.executableBlock ⟨2⟩ 10) 0).2.HandledDisjoint := by
  refine ⟨fun k hk => ?_, fun h => h ⟨2⟩ (by decide) (by decide)⟩
  simp only [usableAcceptorState, AList.mem_insert, AList.not_mem_empty, or_false] at hk
  subst hk
  decide

/-! ## Handled hashes stay handled -/

/-- No operation takes a hash out of `already_handled`. -/
theorem alreadyHandled_subset_step (s : BlockAccumulator) (op : Op) :
    s.alreadyHandled ⊆ (s.step op).alreadyHandled :=
  @step_preserves (fun t => s.alreadyHandled ⊆ t.alreadyHandled)
    (fun h _ _ => by simpa using h) (fun h _ _ => by simpa using h)
    (fun h n k hk => (mem_registerLocalTip_alreadyHandled _ n k).mpr (.inl (h hk)))
    (fun h => h) (fun h _ _ => by simpa using h) s subset_rfl op

/-- **A handled hash stays handled**: along any run of operations, from any state,
    `already_handled` only grows — the block on re-registration that `register_local_tip` sets up
    is permanent. -/
theorem alreadyHandled_run_subset (s : BlockAccumulator) (ops : List Op) :
    s.alreadyHandled ⊆ (s.run ops).alreadyHandled := by
  induction ops generalizing s with
  | nil => exact subset_rfl
  | cons op ops ih => exact (alreadyHandled_subset_step s op).trans (ih _)

/-! ## No acceptor holds a block below the local tip -/

/-- Every acceptor whose height is known sits at or above the local tip. -/
def AboveLocalTip (s : BlockAccumulator) : Prop :=
  ∀ t ∈ s.localTip, ∀ k a, s.blockAcceptors.lookup k = some a → ∀ h ∈ a.blockHeight, t ≤ h

/-- Decided over the entries of the map. -/
instance (s : BlockAccumulator) : Decidable s.AboveLocalTip :=
  decidable_of_iff
    (∀ t ∈ s.localTip, ∀ e ∈ s.blockAcceptors.entries, ∀ h ∈ e.2.blockHeight, t ≤ h)
    ⟨fun H t ht k a hl => H t ht ⟨k, a⟩ (AList.mem_lookup_iff.mp hl),
      fun H t ht e he => H t ht e.1 e.2 (AList.mem_lookup_iff.mpr he)⟩

section Tip

variable {s : BlockAccumulator}

/-- A block `register_block` does not drop is at or above the tip. -/
theorem le_of_not_outdated {b : Block} (ho : s.localTip.any (b.header.height < ·) = false) :
    ∀ t ∈ s.localTip, t ≤ b.header.height :=
  fun t ht => by simpa [Option.mem_def.mp ht] using ho

theorem registerBlock_aboveLocalTip (h : s.AboveLocalTip) (b : Block) (sender : NodeId) :
    (s.registerBlock b sender).2.AboveLocalTip := by
  intro t ht k a hl x hx
  rw [registerBlock_localTip] at ht
  rcases lookup_registerBlock s b sender hl with hl | ⟨-, ho, rfl⟩
  · exact h t ht k a hl x hx
  · rcases BlockAcceptor.registerBlock_blockHeight _ b sender with hh | hh <;> rw [hh] at hx
    · simp at hx
    · cases hx
      exact le_of_not_outdated ho t ht

theorem registerFinalitySignature_aboveLocalTip (h : s.AboveLocalTip) (fs : FinalitySignature)
    (sender : NodeId) : (s.registerFinalitySignature fs sender).2.AboveLocalTip := by
  intro t ht k a hl x hx
  rw [registerFinalitySignature_localTip] at ht
  rcases lookup_registerFinalitySignature s fs sender hl with hl | ⟨-, rfl⟩
  · exact h t ht k a hl x hx
  · simp [BlockAcceptor.blockHeight] at hx

/-- A raised tip keeps only what is at or above both the old tip and the new height. -/
theorem registerLocalTip_aboveLocalTip (h : s.AboveLocalTip) (n : Nat) :
    (s.registerLocalTip n).AboveLocalTip := by
  intro t ht k a hl x hx
  rw [registerLocalTip_lookup, Option.filter_eq_some] at hl
  rw [registerLocalTip_localTip_elim, Option.mem_def, Option.some.injEq] at ht
  have hn : n ≤ x := by simpa [Option.mem_def.mp hx] using hl.2
  subst ht
  cases ht' : s.localTip with
  | none => exact hn
  | some t' => exact max_le (h t' ht' k a hl.1 x hx) hn

theorem registerUpdatedValidatorMatrix_aboveLocalTip (h : s.AboveLocalTip) :
    s.registerUpdatedValidatorMatrix.AboveLocalTip := by
  intro t ht k a hl
  simp only [registerUpdatedValidatorMatrix, BTreeMap.lookup_mapValues, Option.map_eq_some'] at hl
  obtain ⟨a', hl', rfl⟩ := hl
  rw [refreshFromMatrix_blockHeight]
  exact h t ht k a' hl'

theorem syncInstruction_aboveLocalTip (h : s.AboveLocalTip) (w : StartingWith) (now : Nat) :
    (s.syncInstruction w now).2.AboveLocalTip := by
  intro t ht k a hl x hx
  rw [syncInstruction_localTip] at ht
  rcases lookup_syncInstruction s w now hl with hl | rfl
  · exact h t ht k a hl x hx
  · cases hx

theorem handleEvent_aboveLocalTip (h : s.AboveLocalTip) (event : Event) :
    (s.handleEvent event).2.AboveLocalTip :=
  @handleEvent_preserves AboveLocalTip registerBlock_aboveLocalTip
    registerFinalitySignature_aboveLocalTip registerLocalTip_aboveLocalTip _ h event

theorem step_aboveLocalTip (h : s.AboveLocalTip) (op : Op) : (s.step op).AboveLocalTip :=
  @step_preserves AboveLocalTip registerBlock_aboveLocalTip registerFinalitySignature_aboveLocalTip
    registerLocalTip_aboveLocalTip registerUpdatedValidatorMatrix_aboveLocalTip
    syncInstruction_aboveLocalTip _ h op

end Tip

/-- **No acceptor holds a block below the local tip.**  Every operation keeps the invariant, from
    every state that has it — `register_local_tip` with any height, below the tip included — and
    so it holds in every state reachable from `new`. -/
theorem no_acceptor_below_local_tip :
    (∀ (s : BlockAccumulator) (b : Block) (sender : NodeId),
      s.AboveLocalTip → (s.registerBlock b sender).2.AboveLocalTip) ∧
    (∀ (s : BlockAccumulator) (fs : FinalitySignature) (sender : NodeId),
      s.AboveLocalTip → (s.registerFinalitySignature fs sender).2.AboveLocalTip) ∧
    (∀ (s : BlockAccumulator) (n : Nat), s.AboveLocalTip → (s.registerLocalTip n).AboveLocalTip) ∧
    (∀ s : BlockAccumulator, s.AboveLocalTip → s.registerUpdatedValidatorMatrix.AboveLocalTip) ∧
    (∀ (s : BlockAccumulator) (w : StartingWith) (now : Nat),
      s.AboveLocalTip → (s.syncInstruction w now).2.AboveLocalTip) ∧
    (∀ (s : BlockAccumulator) (event : Event),
      s.AboveLocalTip → (s.handleEvent event).2.AboveLocalTip) ∧
    (∀ (config : Config) (m : ValidatorMatrix) (tip : Option Nat) (now : Nat) (ops : List Op),
      ((new config m tip now).run ops).AboveLocalTip) :=
  ⟨fun _ b sender h => registerBlock_aboveLocalTip h b sender,
    fun _ fs sender h => registerFinalitySignature_aboveLocalTip h fs sender,
    fun _ n h => registerLocalTip_aboveLocalTip h n,
    fun _ h => registerUpdatedValidatorMatrix_aboveLocalTip h,
    fun _ w now h => syncInstruction_aboveLocalTip h w now,
    fun _ event h => handleEvent_aboveLocalTip h event,
    fun _ _ _ _ ops => @run_of_step AboveLocalTip (fun _ op h => step_aboveLocalTip h op) ops _
      fun _ _ _ _ hl => by simp [new] at hl⟩

/-- `usableAcceptorState` with its tip at 3, below its acceptor's height 5, raised to 4: the
    acceptor stays, above the new tip. -/
theorem no_acceptor_below_local_tip_usable :
    ({ usableAcceptorState with localTip := some 3 } : BlockAccumulator).AboveLocalTip ∧
      (({ usableAcceptorState with localTip := some 3 } : BlockAccumulator).registerLocalTip
        4).AboveLocalTip :=
  have h : ({ usableAcceptorState with localTip := some 3 } : BlockAccumulator).AboveLocalTip := by
    decide
  ⟨h, no_acceptor_below_local_tip.2.2.1 _ 4 h⟩

/-! ## Every acceptor sits under its own hash -/

/-- Every tracked acceptor is the acceptor for the hash it is stored under. -/
def KeyedByHash (s : BlockAccumulator) : Prop :=
  ∀ k a, s.blockAcceptors.lookup k = some a → a.blockHash = k

section Keyed

variable {s : BlockAccumulator}

theorem registerBlock_keyedByHash (h : s.KeyedByHash) (b : Block) (sender : NodeId) :
    (s.registerBlock b sender).2.KeyedByHash := by
  intro k a hl
  rcases lookup_registerBlock s b sender hl with hl | ⟨rfl, -, rfl⟩
  · exact h k a hl
  · simp

theorem registerFinalitySignature_keyedByHash (h : s.KeyedByHash) (fs : FinalitySignature)
    (sender : NodeId) : (s.registerFinalitySignature fs sender).2.KeyedByHash := by
  intro k a hl
  rcases lookup_registerFinalitySignature s fs sender hl with hl | ⟨rfl, rfl⟩
  · exact h k a hl
  · simp

theorem registerLocalTip_keyedByHash (h : s.KeyedByHash) (n : Nat) :
    (s.registerLocalTip n).KeyedByHash := by
  intro k a hl
  rw [registerLocalTip_lookup] at hl
  exact h k a (Option.filter_eq_some.mp hl).1

theorem registerUpdatedValidatorMatrix_keyedByHash (h : s.KeyedByHash) :
    s.registerUpdatedValidatorMatrix.KeyedByHash := by
  intro k a hl
  simp only [registerUpdatedValidatorMatrix, BTreeMap.lookup_mapValues, Option.map_eq_some'] at hl
  obtain ⟨a, hl, rfl⟩ := hl
  rw [refreshFromMatrix_blockHash]
  exact h k a hl

theorem syncInstruction_keyedByHash (h : s.KeyedByHash) (w : StartingWith) (now : Nat) :
    (s.syncInstruction w now).2.KeyedByHash := by
  intro k a hl
  rcases lookup_syncInstruction s w now hl with hl | rfl
  · exact h k a hl
  · rfl

theorem step_keyedByHash (h : s.KeyedByHash) (op : Op) : (s.step op).KeyedByHash :=
  @step_preserves KeyedByHash registerBlock_keyedByHash registerFinalitySignature_keyedByHash
    registerLocalTip_keyedByHash registerUpdatedValidatorMatrix_keyedByHash
    syncInstruction_keyedByHash _ h op

/-- In a keyed state, a `Hash(p)` query that syncs names `p` itself, although the source
    answers with the acceptor's own `block_hash()`. -/
theorem syncInstruction_hash_of_keyedByHash (h : s.KeyedByHash) (p : BlockHash) (now : Nat) :
    (s.syncInstruction (.hash p) now).1 = .leap ∨
      (s.syncInstruction (.hash p) now).1 = .blockSync p true := by
  rw [syncInstruction_eq]
  simp only [syncDecision]
  cases hl : s.blockAcceptors.lookup p with
  | none => exact .inl rfl
  | some a =>
    simp only
    cases a.blockHeight with
    | none => exact .inl rfl
    | some n =>
      simp only
      split_ifs
      · exact .inr (by rw [h p a hl])
      · exact .inl rfl

end Keyed

/-- **Every acceptor sits under its own hash.**  Every operation keeps it, from every state that
    has it, so it holds in every state reachable from `new`; and in such a state a
    `sync_instruction(Hash(p))` that syncs names `p`. -/
theorem acceptors_keyed_by_own_hash :
    (∀ (s : BlockAccumulator) (op : Op), s.KeyedByHash → (s.step op).KeyedByHash) ∧
    (∀ (config : Config) (m : ValidatorMatrix) (tip : Option Nat) (now : Nat) (ops : List Op),
      ((new config m tip now).run ops).KeyedByHash) ∧
    (∀ s : BlockAccumulator, s.KeyedByHash → ∀ p now,
      (s.syncInstruction (.hash p) now).1 = .leap ∨
        (s.syncInstruction (.hash p) now).1 = .blockSync p true) :=
  ⟨fun _ op h => step_keyedByHash h op,
    fun _ _ _ _ ops => @run_of_step KeyedByHash (fun _ op h => step_keyedByHash h op) ops _
      fun _ _ hl => by simp [new] at hl,
    fun _ h p now => syncInstruction_hash_of_keyedByHash h p now⟩

/-- `usableAcceptorState` is keyed, and stays keyed when `sync_instruction` places hash `2`. -/
theorem acceptors_keyed_by_own_hash_usable :
    (usableAcceptorState.step (.syncInstruction (.executableBlock ⟨2⟩ 10) 0)).KeyedByHash :=
  acceptors_keyed_by_own_hash.1 _ _ fun k a hl => by
    by_cases hk : k = ⟨1⟩
    · subst hk
      simp only [usableAcceptorState, AList.lookup_insert, Option.some.injEq] at hl
      rw [← hl]
    · simp only [usableAcceptorState, AList.lookup_insert_ne hk, AList.lookup_empty,
        reduceCtorEq] at hl

end BlockAccumulator

end CasperAccumulator
