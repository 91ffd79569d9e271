import CasperAccumulator.Invariants

/-
  `last_progress` and the dead-air timer of `sync_instruction` (`block_accumulator.rs`, lines
  150-242), over whole runs.

  `last_progress` is set by `new` and then written in one place: every `BlockSync` answer of
  `sync_instruction` records the clock it was asked at (`syncInstruction_lastProgress`); no other
  operation touches it, and none touches `dead_air_interval`.  The `SyncedBlockIdentifier` branch
  answers `CaughtUp` only while `last_progress.elapsed() < dead_air_interval`
  (`elapsed_lt_of_caughtUp`).  Together, by induction from the end of the run
  (`run_lastProgress`): a `CaughtUp` answer after any run comes less than `dead_air_interval`
  after the initial `last_progress` — the creation time, for `new` — or after the clock of a
  `BlockSync` answer given during the run (`caughtUp_within_dead_air_of_progress`).  Without
  progress, a node cannot stay caught up for longer than the dead-air interval.

  The same facts make a repeated query harmless (`syncInstruction_twice_at_one_instant`): asked
  again at the same clock on the state it left, `sync_instruction` answers the same and writes
  nothing new.  Its only writes are the clock of a `BlockSync`, which no `BlockSync` answer reads
  (`syncDecision_lastProgress`), and the empty placeholder of `ExecutableBlock`, which has no
  quorum and so raises no usable height (`highestUsableBlockHeight_putAcceptor_le`).
-/

namespace CasperAccumulator

namespace BlockAccumulator

/-! ## One operation -/

/-- `sync_instruction` moves `last_progress` only to the clock of a `BlockSync` answer. -/
theorem syncInstruction_lastProgress (s : BlockAccumulator) (w : StartingWith) (now : Nat) :
    (s.syncInstruction w now).2.lastProgress = s.lastProgress ∨
      (∃ h b, (s.syncInstruction w now).1 = .blockSync h b) ∧
        (s.syncInstruction w now).2.lastProgress = now := by
  rw [syncInstruction_eq]
  unfold syncWrites
  split
  · split_ifs <;> exact .inl rfl
  · exact .inr ⟨⟨_, _, ‹_›⟩, rfl⟩
  · exact .inl rfl

/-- `CaughtUp` is answered only while dead air has not elapsed since the last progress. -/
theorem elapsed_lt_of_caughtUp {s : BlockAccumulator} {w : StartingWith} {now : Nat}
    (h : (s.syncInstruction w now).1 = .caughtUp) :
    elapsed now s.lastProgress < s.deadAirInterval := by
  rw [syncInstruction_eq] at h
  change s.syncDecision now w = .caughtUp at h
  -- `CaughtUp` stands only in the `SyncedBlockIdentifier` branch, under the dead-air guard
  cases w <;> rw [syncDecision] at h <;> (repeat' first | split_ifs at h | split at h) <;>
    first | assumption | cases h

/-- Every operation keeps `last_progress`, except a `sync_instruction` answering `BlockSync`,
    which sets it to its clock. -/
theorem step_lastProgress (s : BlockAccumulator) (op : Op) :
    (s.step op).lastProgress = s.lastProgress ∨
      ∃ w now h b, op = .syncInstruction w now ∧ (s.syncInstruction w now).1 = .blockSync h b ∧
        (s.step op).lastProgress = now := by
  cases op with
  | handleEvent event => exact .inl (by cases event <;> simp [step, handleEvent])
  | syncInstruction w now =>
    rcases syncInstruction_lastProgress s w now with h | ⟨⟨h', b, hb⟩, h⟩
    · exact .inl h
    · exact .inr ⟨w, now, h', b, rfl, hb, h⟩
  | registerLocalTip n => exact .inl (registerLocalTip_lastProgress s n)
  | registerUpdatedValidatorMatrix => exact .inl rfl

/-- No operation changes the dead-air interval. -/
@[simp] theorem step_deadAirInterval (s : BlockAccumulator) (op : Op) :
    (s.step op).deadAirInterval = s.deadAirInterval := by
  cases op with
  | handleEvent event =>
    cases event with
    | receivedBlock b sender => exact (congrArg deadAirInterval (registerBlock_frame s b sender) :)
    | receivedFinalitySignature fs sender =>
      exact (congrArg deadAirInterval (registerFinalitySignature_frame s fs sender) :)
    | executedBlock header => exact registerLocalTip_deadAirInterval s _
    | _ => rfl
  | syncInstruction w now => exact (congrArg deadAirInterval (syncInstruction_frame s w now) :)
  | registerLocalTip n => exact registerLocalTip_deadAirInterval s n
  | registerUpdatedValidatorMatrix => rfl

/-! ## Whole runs -/

theorem run_deadAirInterval (s : BlockAccumulator) (ops : List Op) :
    (s.run ops).deadAirInterval = s.deadAirInterval := by
  induction ops generalizing s with
  | nil => rfl
  | cons op ops ih => rw [run_cons, ih, step_deadAirInterval]

theorem run_append_singleton (s : BlockAccumulator) (ops : List Op) (op : Op) :
    s.run (ops ++ [op]) = (s.run ops).step op :=
  List.foldl_concat ..

/-- After any run, `last_progress` is the initial one or the clock of a `BlockSync` answer the
    run gave. -/
theorem run_lastProgress (s : BlockAccumulator) (ops : List Op) :
    (s.run ops).lastProgress = s.lastProgress ∨
      ∃ pre w t post h b, ops = pre ++ .syncInstruction w t :: post ∧
        ((s.run pre).syncInstruction w t).1 = .blockSync h b ∧ (s.run ops).lastProgress = t := by
  induction ops using List.reverseRecOn with
  | nil => exact .inl rfl
  | append_singleton ops op ih =>
    rw [run_append_singleton]
    rcases step_lastProgress (s.run ops) op with hp | ⟨w, t, h, b, rfl, hb, ht⟩
    · -- the last operation kept it: it comes from the run before
      rw [hp]
      rcases ih with ih | ⟨pre, w, t, post, h, b, rfl, hb, ht⟩
      · exact .inl ih
      · exact .inr ⟨pre, w, t, post ++ [op], h, b, by simp, hb, ht⟩
    · -- the last operation answered `BlockSync` at `t`
      exact .inr ⟨ops, w, t, [], h, b, rfl, hb, ht⟩

/-- **`CaughtUp` only within dead air of progress.**  From any state, after any run of
    operations, a `sync_instruction` that answers `CaughtUp` at clock `now` is less than
    `dead_air_interval` after the initial `last_progress` (the creation time, for `new`), or after
    the clock `t` of a `sync_instruction` of the run that answered `BlockSync`. -/
theorem caughtUp_within_dead_air_of_progress (s : BlockAccumulator) (ops : List Op)
    (w : StartingWith) (now : Nat) (h : ((s.run ops).syncInstruction w now).1 = .caughtUp) :
    elapsed now s.lastProgress < s.deadAirInterval ∨
      ∃ pre w' t post b c, ops = pre ++ .syncInstruction w' t :: post ∧
        ((s.run pre).syncInstruction w' t).1 = .blockSync b c ∧
        elapsed now t < s.deadAirInterval := by
  have hlt := elapsed_lt_of_caughtUp h
  rw [run_deadAirInterval] at hlt
  rcases run_lastProgress s ops with hp | ⟨pre, w', t, post, b, c, hops, hb, hp⟩
  · exact .inl (hp ▸ hlt)
  · exact .inr ⟨pre, w', t, post, b, c, hops, hb, hp ▸ hlt⟩

/-- `usableAcceptorState` was created at `0` with a dead-air interval of `1000`; a `BlockSync`
    at `900` lets it answer `CaughtUp` at `1500`. -/
theorem caughtUp_within_dead_air_of_progress_usable :
    elapsed 1500 usableAcceptorState.lastProgress < usableAcceptorState.deadAirInterval ∨
      ∃ pre w' t post b c,
        [Op.syncInstruction (.blockIdentifier ⟨1⟩ 5) 900] = pre ++ .syncInstruction w' t :: post ∧
        ((usableAcceptorState.run pre).syncInstruction w' t).1 = .blockSync b c ∧
        elapsed 1500 t < usableAcceptorState.deadAirInterval :=
  caughtUp_within_dead_air_of_progress usableAcceptorState
    [.syncInstruction (.blockIdentifier ⟨1⟩ 5) 900] (.syncedBlockIdentifier ⟨1⟩ 5) 1500
    (by decide)

/-! ## Asking twice at one instant -/

/-- A list whose values all lie in another has no larger maximum. -/
theorem max?_le_of_subset {l₁ l₂ : List Nat} (h : ∀ x ∈ l₁, x ∈ l₂) {m' : Nat}
    (hm' : l₁.max? = some m') : ∃ m, l₂.max? = some m ∧ m' ≤ m := by
  have hmem : m' ∈ l₂ := h m' (List.max?_eq_some_iff'.mp hm').1
  cases h₂ : l₂.max? with
  | none => rw [List.max?_eq_none_iff] at h₂; simp [h₂] at hmem
  | some m => exact ⟨m, rfl, (List.max?_eq_some_iff'.mp h₂).2 m' hmem⟩

/-- A state whose every qualifying acceptor qualified, at the same height, in `s` has no higher
    usable height than `s`. -/
theorem highestUsable_le_of_qualifies {s t : BlockAccumulator}
    (h : ∀ k a x, t.blockAcceptors.lookup k = some a → Qualifies t.alreadyHandled k a x →
      ∃ k' a', s.blockAcceptors.lookup k' = some a' ∧ Qualifies s.alreadyHandled k' a' x)
    {m' : Nat} (hm : t.highestUsableBlockHeight = some m') :
    ∃ m, s.highestUsableBlockHeight = some m ∧ m' ≤ m := by
  rw [highestUsableBlockHeight_eq] at hm ⊢
  refine max?_le_of_subset (fun x hx => ?_) hm
  rw [mem_usableHeights] at hx ⊢
  obtain ⟨k, a, hl, hq⟩ := hx
  exact h k a x hl hq

/-- An acceptor without quorum, written anywhere, raises no usable height. -/
theorem highestUsableBlockHeight_putAcceptor_le (s : BlockAccumulator) (p : BlockHash)
    {a : BlockAcceptor} (ha : a.hasSufficientFinality = false) {m' : Nat}
    (h : (s.putAcceptor p a).highestUsableBlockHeight = some m') :
    ∃ m, s.highestUsableBlockHeight = some m ∧ m' ≤ m := by
  refine highestUsable_le_of_qualifies (fun k b x hl hq => ?_) h
  by_cases hk : k = p
  · subst hk
    simp only [putAcceptor_blockAcceptors, AList.lookup_insert, Option.some.injEq] at hl
    subst hl
    rw [hq.2.1] at ha
    cases ha
  · rw [putAcceptor_blockAcceptors, AList.lookup_insert_ne hk] at hl
    exact ⟨k, b, hl, hq⟩

/-- Only `Hash`, `BlockIdentifier` and `SyncedBlockIdentifier` can be answered by `BlockSync`. -/
theorem syncDecision_blockSync_cases {s : BlockAccumulator} {now : Nat} {w : StartingWith}
    {c : BlockHash} {b : Bool} (h : s.syncDecision now w = .blockSync c b) :
    (∃ p, w = .hash p) ∨ (∃ p n, w = .blockIdentifier p n) ∨
      ∃ p n, w = .syncedBlockIdentifier p n := by
  cases w with
  | nothing => cases h
  | executableBlock p n =>
    rw [syncDecision] at h
    split at h
    · cases h
    · split_ifs at h
  | hash p => exact .inl ⟨p, rfl⟩
  | blockIdentifier p n => exact .inr (.inl ⟨p, n, rfl⟩)
  | syncedBlockIdentifier p n => exact .inr (.inr ⟨p, n, rfl⟩)

/-- A `BlockSync` answer does not read `last_progress`. -/
theorem syncDecision_lastProgress {s : BlockAccumulator} {now t : Nat} {w : StartingWith}
    {c : BlockHash} {b : Bool} (h : s.syncDecision now w = .blockSync c b) :
    ({ s with lastProgress := t }).syncDecision now w = .blockSync c b := by
  rcases syncDecision_blockSync_cases h with ⟨p, rfl⟩ | ⟨p, n, rfl⟩ | ⟨p, n, rfl⟩
  · exact h
  · exact h
  · rw [syncDecision] at h ⊢
    rw [show ({ s with lastProgress := t } : BlockAccumulator).withinReach n = s.withinReach n
        from rfl,
      show ({ s with lastProgress := t } : BlockAccumulator).syncableChild p = s.syncableChild p
        from rfl]
    cases hr : s.withinReach n <;> simp only [hr, if_true, if_false] at h ⊢
    · cases h
    · cases hc : s.syncableChild p <;> simp only [hc] at h ⊢
      · split_ifs at h
      · exact h

/-- After a `BlockSync` answer the table writes only the clock. -/
theorem syncWrites_of_blockSync {s : BlockAccumulator} {now : Nat} {w : StartingWith}
    {c : BlockHash} {b : Bool} (h : s.syncDecision now w = .blockSync c b) (t : Nat) :
    s.syncWrites w (.blockSync c b) t = { s with lastProgress := t } := by
  rcases syncDecision_blockSync_cases h with ⟨p, rfl⟩ | ⟨p, n, rfl⟩ | ⟨p, n, rfl⟩ <;> rfl

theorem putAcceptor_putAcceptor (s : BlockAccumulator) (p : BlockHash) (a a' : BlockAcceptor) :
    (s.putAcceptor p a).putAcceptor p a' = s.putAcceptor p a' := by
  simp only [putAcceptor, AList.insert_insert]

/-- **Asking twice at one instant changes nothing more.**  For every state, every `StartingWith`
    and every clock reading, a second `sync_instruction` with the same arguments, on the state the
    first one left, answers the same instruction and leaves that state as it is: the placeholder
    of the `ExecutableBlock` branch raises no usable height, so it is answered and written again
    over itself, and a `BlockSync` answer does not read the `last_progress` it records. -/
theorem syncInstruction_twice_at_one_instant (s : BlockAccumulator) (w : StartingWith)
    (now : Nat) :
    (s.syncInstruction w now).2.syncInstruction w now = s.syncInstruction w now := by
  rcases syncInstruction_cases s w now with h | h | ⟨p, n, m, rfl, hH, hmn, h⟩
  · -- nothing written
    rw [h]
  · rcases syncInstruction_lastProgress s w now with hp | ⟨⟨c, b, hb⟩, -⟩
    · -- the clock was already `now`: nothing written after all
      rw [h] at hp ⊢
      obtain rfl : now = s.lastProgress := hp
      rfl
    · -- a `BlockSync`, which reads no `last_progress`, is answered and recorded again
      have hd : s.syncDecision now w = .blockSync c b := by rwa [syncInstruction_eq] at hb
      rw [h, syncInstruction_eq, syncInstruction_eq, syncDecision_lastProgress hd, hd,
        syncWrites_of_blockSync (syncDecision_lastProgress hd), syncWrites_of_blockSync hd]
  · -- the placeholder raises no usable height, so it is answered and written again
    have hd : s.syncDecision now (.executableBlock p n) = .blockExec none := by
      simp [syncDecision, hH, hmn.le]
    have hw : s.syncWrites (.executableBlock p n) (.blockExec none) now =
        s.putAcceptor p (BlockAcceptor.new p []) := by
      rw [syncInstruction_eq, hd] at h
      exact h
    rw [h, syncInstruction_eq, syncInstruction_eq, hd, hw]
    rcases hW : (s.putAcceptor p (BlockAcceptor.new p [])).highestUsableBlockHeight with _ | m'
    · simp [syncDecision, syncWrites, hW]
    · obtain ⟨m0, hm0, hle⟩ := highestUsableBlockHeight_putAcceptor_le s p
        (BlockAcceptor.new_hasSufficientFinality p []) hW
      rw [hH, Option.some.injEq] at hm0
      subst hm0
      simp [syncDecision, syncWrites, hW, putAcceptor_putAcceptor, show m' ≤ n by omega,
        show m' < n by omega]

end BlockAccumulator

end CasperAccumulator
