import CasperAccumulator.Progress

/-
  How `highest_usable_block_height` (`block_accumulator.rs`, lines 451-479) moves under the
  operations that change acceptors.  Every answer of `sync_instruction` is read off this height,
  so these say what the accumulator can ever let a node catch up to.

  The height is the maximum of the usable heights: those of acceptors that are not handled, have
  sufficient finality and know their block.  Comparing two states through that set
  (`highestUsable_le_of_qualifies`, `max?_congr_mem`) gives both results.

  **The local tip cuts it** (`highestUsableBlockHeight_after_local_tip`): `register_local_tip(n)`
  evicts exactly the acceptors below `n`, so the usable acceptors that survive are those at
  height `n` or above (`qualifies_registerLocalTip`), and the highest usable height survives
  exactly when it is at least `n`.

  **Only a new weight table raises it** (`operations_never_raise_highest_usable_height`).  A block
  or a signature is registered into the fresh acceptor `get_or_register_acceptor_mut` writes, which
  holds no signature or no block and so does not qualify — and it replaces whatever acceptor stood
  under that hash; an executed block or `register_local_tip` only evicts; `sync_instruction`
  writes the clock or an empty placeholder; the other events write nothing.  So no run without
  `register_updated_validator_matrix` makes a usable height appear, while one duplicate gossip
  message can wipe the highest one.

  **The local tip is a floor** (`run_keeps_blocks_above_tip`).  No block below the tip is ever
  kept: `register_block` drops the acceptor of an outdated block, `register_local_tip(n)` evicts
  every acceptor below `n` as the tip rises to at least `n`, and every other write is an acceptor
  without a block or a weight refresh that keeps the block (`AboveLocalTip`, kept by every
  operation as `Invariants` shows).  So the highest usable height is never below the block the
  node has executed.
-/

namespace CasperAccumulator

/-- Two lists with the same values have the same maximum. -/
theorem max?_congr_mem {l₁ l₂ : List Nat} (h : ∀ x, x ∈ l₁ ↔ x ∈ l₂) : l₁.max? = l₂.max? :=
  Option.ext fun m => by simp only [Option.mem_def, List.max?_eq_some_iff', h]

/-- The maximum of the values at least `n` is the maximum, if it is at least `n`. -/
theorem max?_filter_le (l : List Nat) (n : Nat) :
    (l.filter (n ≤ ·)).max? = l.max?.filter (n ≤ ·) := by
  cases hm : l.max? with
  | none => rw [List.max?_eq_none_iff] at hm; simp [hm]
  | some m =>
    have hl := List.max?_eq_some_iff'.mp hm
    by_cases hn : n ≤ m
    · rw [Option.filter_some, if_pos (decide_eq_true hn), List.max?_eq_some_iff']
      exact ⟨List.mem_filter.mpr ⟨hl.1, decide_eq_true hn⟩,
        fun b hb => hl.2 b (List.mem_filter.mp hb).1⟩
    · rw [Option.filter_some, if_neg (by simpa using hn), List.max?_eq_none_iff,
        List.filter_eq_nil_iff]
      exact fun x hx => by simpa using (hl.2 x hx).trans_lt (not_le.mp hn)

namespace BlockAcceptor

theorem blockHeight_of_blockEraAndHeight {a : BlockAcceptor} {e : EraId} {h : Nat}
    (he : a.blockEraAndHeight = some (e, h)) : a.blockHeight = some h := by
  simpa [blockEraAndHeight, blockHeight, Option.map_map, Function.comp_def] using
    congrArg (Option.map Prod.snd) he

end BlockAcceptor

namespace BlockAccumulator

/-- An acceptor qualifies after `register_local_tip(n)` exactly when it qualified before, at a
    height of `n` or above. -/
theorem qualifies_registerLocalTip (s : BlockAccumulator) (n : Nat) (k : BlockHash)
    (a : BlockAcceptor) (x : Nat) :
    ((s.registerLocalTip n).blockAcceptors.lookup k = some a ∧
        Qualifies (s.registerLocalTip n).alreadyHandled k a x) ↔
      (s.blockAcceptors.lookup k = some a ∧ Qualifies s.alreadyHandled k a x) ∧ n ≤ x := by
  constructor
  · rintro ⟨hl, hk, hf, e, he⟩
    rw [registerLocalTip_lookup, Option.filter_eq_some] at hl
    rw [mem_registerLocalTip_alreadyHandled, not_or] at hk
    have hx := BlockAcceptor.blockHeight_of_blockEraAndHeight he
    exact ⟨⟨hl.1, hk.1, hf, e, he⟩, by simpa [hx] using hl.2⟩
  · rintro ⟨⟨hl, hk, hf, e, he⟩, hn⟩
    have hx := BlockAcceptor.blockHeight_of_blockEraAndHeight he
    refine ⟨?_, ?_, hf, e, he⟩
    · rw [registerLocalTip_lookup, hl, Option.filter_some, if_pos (by simpa [hx] using hn)]
    · rw [mem_registerLocalTip_alreadyHandled, not_or]
      refine ⟨hk, fun ⟨a', hl', hlt⟩ => ?_⟩
      cases hl.symm.trans hl'
      rw [hx, Option.getD_some] at hlt
      omega

/-- The usable heights after `register_local_tip(n)` are those before at `n` or above. -/
theorem mem_usableHeights_registerLocalTip (s : BlockAccumulator) (n x : Nat) :
    x ∈ (s.registerLocalTip n).blockAcceptors.entries.filterMap
        (usableHeight (s.registerLocalTip n).alreadyHandled) ↔
      x ∈ s.blockAcceptors.entries.filterMap (usableHeight s.alreadyHandled) ∧ n ≤ x := by
  simp only [mem_usableHeights, qualifies_registerLocalTip, exists_and_right]

/-- **The local tip cuts the highest usable height.**  For every state and every height `n`,
    after `register_local_tip(n)` an acceptor qualifies exactly when it qualified before at a
    height of `n` or above; so the highest usable height is the one before when that is at least
    `n`, and there is none otherwise. -/
theorem highestUsableBlockHeight_after_local_tip (s : BlockAccumulator) (n : Nat) :
    (∀ k a x, ((s.registerLocalTip n).blockAcceptors.lookup k = some a ∧
        Qualifies (s.registerLocalTip n).alreadyHandled k a x) ↔
      (s.blockAcceptors.lookup k = some a ∧ Qualifies s.alreadyHandled k a x) ∧ n ≤ x) ∧
    (s.registerLocalTip n).highestUsableBlockHeight =
      s.highestUsableBlockHeight.filter (n ≤ ·) := by
  refine ⟨qualifies_registerLocalTip s n, ?_⟩
  rw [highestUsableBlockHeight_eq, highestUsableBlockHeight_eq, ← max?_filter_le]
  apply max?_congr_mem
  intro x
  rw [mem_usableHeights_registerLocalTip, List.mem_filter, decide_eq_true_eq]

/-- A block registers into a fresh acceptor, which holds no signature: it qualifies nowhere. -/
theorem qualifies_of_registerBlock {s : BlockAccumulator} {b : Block} {sender : NodeId}
    {k : BlockHash} {a : BlockAcceptor} {x : Nat}
    (hl : (s.registerBlock b sender).2.blockAcceptors.lookup k = some a)
    (hq : Qualifies (s.registerBlock b sender).2.alreadyHandled k a x) :
    s.blockAcceptors.lookup k = some a ∧ Qualifies s.alreadyHandled k a x := by
  rw [registerBlock_alreadyHandled] at hq
  rcases lookup_registerBlock s b sender hl with hl | ⟨-, -, rfl⟩
  · exact ⟨hl, hq⟩
  · have hf := hq.2.1
    rw [BlockAcceptor.hasSufficientFinality_of_signatures_nil
      (BlockAcceptor.registerBlock_signatures_nil (freshAcceptor_signatures ..) b sender)] at hf
    cases hf

/-- A signature registers into a fresh acceptor, which holds no block: it qualifies nowhere. -/
theorem qualifies_of_registerFinalitySignature {s : BlockAccumulator} {fs : FinalitySignature}
    {sender : NodeId} {k : BlockHash} {a : BlockAcceptor} {x : Nat}
    (hl : (s.registerFinalitySignature fs sender).2.blockAcceptors.lookup k = some a)
    (hq : Qualifies (s.registerFinalitySignature fs sender).2.alreadyHandled k a x) :
    s.blockAcceptors.lookup k = some a ∧ Qualifies s.alreadyHandled k a x := by
  rw [registerFinalitySignature_alreadyHandled] at hq
  rcases lookup_registerFinalitySignature s fs sender hl with hl | ⟨-, rfl⟩
  · exact ⟨hl, hq⟩
  · obtain ⟨e, he⟩ := hq.2.2
    simp [BlockAcceptor.blockEraAndHeight] at he

/-- `register_local_tip` only evicts: it raises no usable height. -/
theorem registerLocalTip_highestUsable_le (s : BlockAccumulator) (n : Nat) {m' : Nat}
    (hm : (s.registerLocalTip n).highestUsableBlockHeight = some m') :
    ∃ m, s.highestUsableBlockHeight = some m ∧ m' ≤ m := by
  rw [highestUsableBlockHeight_eq] at hm ⊢
  exact max?_le_of_subset (fun x hx => ((mem_usableHeights_registerLocalTip s n x).mp hx).1) hm

/-- No event raises the highest usable height. -/
theorem handleEvent_highestUsable_le (s : BlockAccumulator) (event : Event) {m' : Nat}
    (hm : (s.handleEvent event).2.highestUsableBlockHeight = some m') :
    ∃ m, s.highestUsableBlockHeight = some m ∧ m' ≤ m := by
  cases event with
  | receivedBlock b sender =>
    exact highestUsable_le_of_qualifies
      (fun k a x hl hq => ⟨k, a, qualifies_of_registerBlock hl hq⟩) hm
  | receivedFinalitySignature fs sender =>
    exact highestUsable_le_of_qualifies
      (fun k a x hl hq => ⟨k, a, qualifies_of_registerFinalitySignature hl hq⟩) hm
  | executedBlock header => exact registerLocalTip_highestUsable_le s header.height hm
  | _ => exact ⟨m', hm, le_rfl⟩

/-- `sync_instruction` writes the clock, which no usable height reads, or the empty placeholder. -/
theorem syncInstruction_highestUsable_le (s : BlockAccumulator) (w : StartingWith) (now : Nat)
    {m' : Nat} (hm : (s.syncInstruction w now).2.highestUsableBlockHeight = some m') :
    ∃ m, s.highestUsableBlockHeight = some m ∧ m' ≤ m := by
  rcases syncInstruction_cases s w now with h | h | ⟨p, -, -, -, -, -, h⟩ <;> rw [h] at hm
  · exact ⟨m', hm, le_rfl⟩
  · exact ⟨m', hm, le_rfl⟩
  · exact highestUsableBlockHeight_putAcceptor_le s p
      (BlockAcceptor.new_hasSufficientFinality p []) hm

/-- Every operation but `register_updated_validator_matrix` keeps the highest usable height or
    lowers it. -/
theorem step_highestUsable_le (s : BlockAccumulator) {op : Op}
    (hop : op ≠ .registerUpdatedValidatorMatrix) {m' : Nat}
    (hm : (s.step op).highestUsableBlockHeight = some m') :
    ∃ m, s.highestUsableBlockHeight = some m ∧ m' ≤ m := by
  cases op with
  | handleEvent event => exact handleEvent_highestUsable_le s event hm
  | syncInstruction w now => exact syncInstruction_highestUsable_le s w now hm
  | registerLocalTip n => exact registerLocalTip_highestUsable_le s n hm
  | registerUpdatedValidatorMatrix => exact absurd rfl hop

/-- **Only a new weight table can raise the highest usable height.**  From any state, after any
    run of operations without `register_updated_validator_matrix` — events of every kind,
    `sync_instruction` with any request and clock, `register_local_tip` with any height — every
    usable height is at most the highest usable height the state started with; in particular
    none appears where there was none. -/
theorem operations_never_raise_highest_usable_height (s : BlockAccumulator) (ops : List Op)
    (m' : Nat) (hops : ∀ op ∈ ops, op ≠ .registerUpdatedValidatorMatrix)
    (hm : (s.run ops).highestUsableBlockHeight = some m') :
    ∃ m, s.highestUsableBlockHeight = some m ∧ m' ≤ m := by
  induction ops generalizing s with
  | nil => exact ⟨m', hm, le_rfl⟩
  | cons op ops ih =>
    obtain ⟨m₁, h₁, hle₁⟩ := ih _ (fun o ho => hops o (List.mem_cons_of_mem _ ho)) hm
    obtain ⟨m, h, hle⟩ := step_highestUsable_le s (hops op (List.mem_cons_self _ _)) h₁
    exact ⟨m, h, hle₁.trans hle⟩

/-- A duplicate of the signature `usableAcceptorState` already holds wipes its usable block. -/
example : (usableAcceptorState.handleEvent
    (.receivedFinalitySignature ⟨⟨1⟩, ⟨0⟩, ⟨0⟩, ⟨1⟩, true⟩ ⟨7⟩)).2.highestUsableBlockHeight =
      none := by
  decide

/-- The exception is real: an acceptor holding a block and its validator's signature but no
    weight table becomes usable once `register_updated_validator_matrix` attaches the table. -/
example :
    let block : Block := ⟨⟨1⟩, ⟨some ⟨0⟩, ⟨0⟩, 5⟩, true⟩
    let weights : EraValidatorWeights := ⟨⟨0⟩, [(⟨1⟩, 1)], (1, 3)⟩
    let s : BlockAccumulator := { new ⟨10, 1000⟩ ⟨[weights]⟩ none 0 with
      blockAcceptors := (∅ : BTreeMap _ _).insert ⟨1⟩
        ⟨⟨1⟩, some block, [⟨⟨1⟩, ⟨0⟩, ⟨0⟩, ⟨1⟩, true⟩], [], none⟩ }
    s.highestUsableBlockHeight = none ∧
      s.registerUpdatedValidatorMatrix.highestUsableBlockHeight = some 5 := by
  decide

/-- An executed block at height 3 and a sync request leave `usableAcceptorState`'s usable
    height 5 in place. -/
theorem operations_never_raise_highest_usable_height_usable :
    ∃ m, usableAcceptorState.highestUsableBlockHeight = some m ∧ 5 ≤ m :=
  operations_never_raise_highest_usable_height usableAcceptorState
    [.handleEvent (.executedBlock ⟨none, ⟨0⟩, 3⟩), .syncInstruction (.blockIdentifier ⟨1⟩ 5) 900]
    5 (by decide) (by decide)

/-! ## The tip is a floor -/

/-- The highest usable height is the height of a block held, so it is at or above the tip. -/
theorem tip_le_highestUsable {s : BlockAccumulator} (h : s.AboveLocalTip) :
    ∀ t ∈ s.localTip, ∀ m ∈ s.highestUsableBlockHeight, t ≤ m := by
  intro t ht m hm
  rw [Option.mem_def, highestUsableBlockHeight_eq] at hm
  obtain ⟨k, a, hl, -, -, e, he⟩ := (mem_usableHeights s m).mp (List.max?_eq_some_iff'.mp hm).1
  exact h t ht k a hl m (BlockAcceptor.blockHeight_of_blockEraAndHeight he)

/-- **Nothing below the local tip is kept.**  From every state whose acceptors hold no block
    below the local tip, every run of operations keeps it so; and in every such state the highest
    usable height, when there is one and a tip, is at or above the tip: the height
    `sync_instruction` measures reach against is never below the block the node has executed. -/
theorem run_keeps_blocks_above_tip (s : BlockAccumulator) (ops : List Op)
    (hs : s.AboveLocalTip) :
    (s.run ops).AboveLocalTip ∧
      ∀ t ∈ (s.run ops).localTip, ∀ m ∈ (s.run ops).highestUsableBlockHeight, t ≤ m := by
  have hrun : (s.run ops).AboveLocalTip :=
    @run_of_step AboveLocalTip (fun _ op h => step_aboveLocalTip h op) ops s hs
  exact ⟨hrun, tip_le_highestUsable hrun⟩

/-- `usableAcceptorState` with a tip at `3` keeps its block at height `5` through an executed
    block at height `4`. -/
theorem run_keeps_blocks_above_tip_usable :
    ((usableAcceptorState.registerLocalTip 3).run
        [.handleEvent (.executedBlock ⟨none, ⟨0⟩, 4⟩)]).AboveLocalTip ∧
      ∀ t ∈ ((usableAcceptorState.registerLocalTip 3).run
          [.handleEvent (.executedBlock ⟨none, ⟨0⟩, 4⟩)]).localTip,
        ∀ m ∈ ((usableAcceptorState.registerLocalTip 3).run
            [.handleEvent (.executedBlock ⟨none, ⟨0⟩, 4⟩)]).highestUsableBlockHeight, t ≤ m :=
  run_keeps_blocks_above_tip _ _ (by decide)

end BlockAccumulator

end CasperAccumulator
