import CasperAccumulator.Steps

/-
  `sync_instruction` (`block_accumulator.rs`, lines 150-271) against spec §4.3, for every state,
  every `StartingWith` and every clock reading: the instruction it returns and what it writes.

  `syncDecision` is the decision table as the spec states it, over the unbounded naturals: "`H` is
  within reach of `n`" is `m ≤ n + T` for `H = Some m`, and the syncable child of `p` is the child
  that `block_children` records for `p` when that child's acceptor exists and has sufficient
  finality.  `syncWrites` is what the spec lets the query write: the empty placeholder for an
  `ExecutableBlock` above `H`, and `last_progress` on every `BlockSync`.  Neither shares code with
  the model of `sync_instruction`; `syncInstruction_eq` proves that the function is the pair of
  the two, and everything else in this file follows from that one case analysis.

  The source reaches the window twice, both times through `saturating_sub`: the keep-up branch asks
  `H.saturating_sub(T) <= n`, and `should_sync` asks `H.saturating_sub(n) == 0 || ... <= T`.  Both
  are `m ≤ n + T` (`keepUp_window`, `shouldSync_some`): truncated subtraction at `0` is exactly what
  keeps the comparison from wrapping near the top of the `u64` range.
-/

namespace CasperAccumulator

namespace BlockAccumulator

variable (s : BlockAccumulator)

/-! ## The table -/

/-- `H` is within reach of `n`: `H = Some m` and `m ≤ n + T`. -/
def withinReach (n : Nat) : Bool :=
  match s.highestUsableBlockHeight with
  | some m => decide (m ≤ n + s.attemptExecutionThreshold)
  | none => false

/-- `syncable(p)`: the child recorded for `p`, when its acceptor exists and has sufficient
    finality. -/
def syncableChild (p : BlockHash) : Option BlockHash :=
  (s.blockChildren.lookup p).filter fun c =>
    (s.blockAcceptors.lookup c).any (·.hasSufficientFinality)

/-- The decision table of spec §4.3, in its own words. -/
def syncDecision (now : Nat) : StartingWith → SyncInstruction
  | .nothing => .leap
  | .executableBlock p n =>
    match s.highestUsableBlockHeight with
    | none => .blockExec none
    | some m =>
      if m ≤ n then .blockExec none
      else if s.withinReach n then .blockExec (s.syncableChild p)
      else .leap
  | .hash p =>
    match s.blockAcceptors.lookup p with
    | none => .leap
    | some a =>
      match a.blockHeight with
      | some h => if s.withinReach h then .blockSync a.blockHash true else .leap
      | none => .leap
  | .blockIdentifier p n => if s.withinReach n then .blockSync p false else .leap
  | .syncedBlockIdentifier p n =>
    if s.withinReach n then
      match s.syncableChild p with
      | some c => .blockSync c false
      | none => if elapsed now s.lastProgress < s.deadAirInterval then .caughtUp else .leap
    else .leap

/-- What spec §4.3 lets `sync_instruction` write once it has answered `instruction`: an
    `ExecutableBlock(p, n)` above the highest usable height registers the empty placeholder for
    `p`, and a `BlockSync` records `now` as the last progress. -/
def syncWrites (startingWith : StartingWith) (instruction : SyncInstruction) (now : Nat) :
    BlockAccumulator :=
  match startingWith, instruction, s.highestUsableBlockHeight with
  | .executableBlock blockHash blockHeight, _, some highestPerceived =>
    if highestPerceived < blockHeight then s.putAcceptor blockHash (BlockAcceptor.new blockHash [])
    else s
  | _, .blockSync _ _, _ => { s with lastProgress := now }
  | _, _, _ => s

/-! ## The source's pieces, read against it -/

/-- The keep-up window: `H.saturating_sub(T) <= n` is `H ≤ n + T`. -/
theorem keepUp_window (m n T : Nat) : m - T ≤ n ↔ m ≤ n + T := by
  omega

@[simp] theorem shouldSync_none (H : Option Nat) : s.shouldSync none H = false := by
  cases H <;> rfl

/-- `should_sync(Some(n), H)` is "`H` within reach of `n`". -/
theorem shouldSync_some (n : Nat) :
    s.shouldSync (some n) s.highestUsableBlockHeight = s.withinReach n := by
  unfold shouldSync withinReach
  cases s.highestUsableBlockHeight with
  | none => rfl
  | some m =>
    simp only
    split_ifs with h <;> simp <;> omega

theorem nextSyncableBlockHash_eq (p : BlockHash) :
    s.nextSyncableBlockHash p = s.syncableChild p := by
  unfold nextSyncableBlockHash syncableChild
  cases s.blockChildren.lookup p with
  | none => rfl
  | some c =>
    show (s.blockAcceptors.lookup c).bind
        (fun a => if a.hasSufficientFinality then some c else none) =
      if (s.blockAcceptors.lookup c).any (·.hasSufficientFinality) then some c else none
    cases s.blockAcceptors.lookup c with
    | none => rfl
    | some a => cases a.hasSufficientFinality <;> rfl

/-! ## Agreement -/

/-- `sync_instruction` is the table's answer together with the table's writes. -/
theorem syncInstruction_eq (w : StartingWith) (now : Nat) :
    s.syncInstruction w now =
      (s.syncDecision now w, s.syncWrites w (s.syncDecision now w) now) := by
  unfold syncInstruction syncDecision
  cases w with
  | nothing => rfl
  | executableBlock p n =>
    rcases hH : s.highestUsableBlockHeight with _ | m
    · simp [syncWrites, hH]
    · simp only [withinReach, hH, syncWrites, nextSyncableBlockHash_eq, gt_iff_lt, keepUp_window,
        decide_eq_true_eq]
      -- the source's three guards against the table's two and the placeholder's one: every
      -- combination is the same branch on both sides or contradicts itself
      split_ifs <;> first | rfl | omega
  | hash p =>
    simp only
    cases s.blockAcceptors.lookup p with
    | none => rfl
    | some a =>
      simp only
      cases a.blockHeight with
      | none => simp [syncWrites]
      | some h => simp only [shouldSync_some]; split_ifs <;> rfl
  | blockIdentifier p n => simp only [shouldSync_some]; split_ifs <;> rfl
  | syncedBlockIdentifier p n =>
    simp only [shouldSync_some, nextSyncableBlockHash_eq]
    rcases s.syncableChild p with _ | c <;> split_ifs <;>
      simp [syncWrites, StartingWith.haveBlock, *]

/-- **`sync_instruction` follows the decision table exactly**: for every state, every
    `StartingWith` and every clock reading, the instruction it returns is the table's. -/
theorem syncInstruction_follows_decision_table (w : StartingWith) (now : Nat) :
    (s.syncInstruction w now).1 = s.syncDecision now w := by
  rw [syncInstruction_eq]

/-- **`sync_instruction` writes what it answers, and nothing else**: the state it leaves is the
    placeholder for an `ExecutableBlock` above the highest usable height, the call's time as
    `last_progress` after a `BlockSync`, and otherwise the state it was given. -/
theorem syncInstruction_writes (w : StartingWith) (now : Nat) :
    (s.syncInstruction w now).2 = s.syncWrites w (s.syncInstruction w now).1 now := by
  rw [syncInstruction_eq]

/-! ## What `sync_instruction` can do to the state -/

/-- The three shapes of the state after `sync_instruction`: unchanged, progress recorded, or the
    placeholder of the `ExecutableBlock` branch inserted above the highest usable height. -/
theorem syncInstruction_cases (w : StartingWith) (now : Nat) :
    (s.syncInstruction w now).2 = s ∨
    (s.syncInstruction w now).2 = { s with lastProgress := now } ∨
    ∃ p n m, w = .executableBlock p n ∧ s.highestUsableBlockHeight = some m ∧ m < n ∧
      (s.syncInstruction w now).2 = s.putAcceptor p (BlockAcceptor.new p []) := by
  rw [syncInstruction_eq]
  unfold syncWrites
  split
  · split_ifs with h
    · exact .inr (.inr ⟨_, _, _, rfl, by assumption, h, rfl⟩)
    · exact .inl rfl
  · exact .inr (.inl rfl)
  · exact .inl rfl

/-- `sync_instruction` writes only the acceptor map and `last_progress`. -/
theorem syncInstruction_frame (w : StartingWith) (now : Nat) :
    (s.syncInstruction w now).2 = { s with
      blockAcceptors := (s.syncInstruction w now).2.blockAcceptors
      lastProgress := (s.syncInstruction w now).2.lastProgress } := by
  rcases syncInstruction_cases s w now with h | h | ⟨p, n, m, -, -, -, h⟩ <;> rw [h]
  rfl

@[simp] theorem syncInstruction_alreadyHandled (w : StartingWith) (now : Nat) :
    (s.syncInstruction w now).2.alreadyHandled = s.alreadyHandled :=
  (congrArg alreadyHandled (syncInstruction_frame s w now) :)

@[simp] theorem syncInstruction_localTip (w : StartingWith) (now : Nat) :
    (s.syncInstruction w now).2.localTip = s.localTip :=
  (congrArg localTip (syncInstruction_frame s w now) :)

@[simp] theorem syncInstruction_blockChildren (w : StartingWith) (now : Nat) :
    (s.syncInstruction w now).2.blockChildren = s.blockChildren :=
  (congrArg blockChildren (syncInstruction_frame s w now) :)

/-- Where an acceptor after `sync_instruction` comes from: it was there before, or it is the
    placeholder under the queried hash. -/
theorem lookup_syncInstruction (w : StartingWith) (now : Nat) {k : BlockHash} {a : BlockAcceptor}
    (hl : (s.syncInstruction w now).2.blockAcceptors.lookup k = some a) :
    s.blockAcceptors.lookup k = some a ∨ a = BlockAcceptor.new k [] := by
  rcases syncInstruction_cases s w now with he | he | ⟨p, -, -, -, -, -, he⟩ <;> rw [he] at hl
  · exact .inl hl
  · exact .inl hl
  · by_cases hk : k = p
    · subst hk
      simp only [putAcceptor_blockAcceptors, AList.lookup_insert, Option.some.injEq] at hl
      exact .inr hl.symm
    · rw [putAcceptor_blockAcceptors, AList.lookup_insert_ne hk] at hl
      exact .inl hl

end BlockAccumulator

end CasperAccumulator
