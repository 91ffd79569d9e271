import CasperAccumulator.HighestUsable
import CasperAccumulator.Sync

/-
  `register_local_tip` (`block_accumulator.rs`, lines 428-441): what the collect-then-remove loop
  removes, what it marks as handled, and what the tip becomes — for every acceptor map and every
  height, including heights below the current tip and acceptors whose height is unknown.

  The loop is `evicted.foldl markHandled`, over the keys collected by the filter.  Its two
  invariants (`foldl_markHandled_lookup`, `foldl_markHandled_alreadyHandled`) say that after the
  loop exactly the listed keys are gone from the map and added to the handled set; `mem_evicted`
  says which keys the filter lists.  The tip is `max?` over the old tip and the new height.

  Over whole runs (`run_localTip`): the tip after any sequence of operations is `max?` of the
  initial tip and every height handed to `register_local_tip` on the way — by `ExecutedBlock`
  events or by direct calls — so it never decreases.

  Tip notices compose as their maximum (`registerLocalTip_composes_as_max`).  The loop keeps the
  map's entries of height at least `n`, in order (`registerLocalTip_entries`), so two calls keep
  those at least both heights, and mark as handled those below either; the whole state after
  `register_local_tip(a)` then `register_local_tip(b)` is the one `register_local_tip(max(a, b))`
  leaves.  Hence a run of executed-block notices, in any order, ends where the highest alone
  would.
-/

namespace CasperAccumulator

/-- In a list with distinct keys, erasing a key filters out its one entry. -/
theorem kerase_eq_filter {α : Type} [DecidableEq α] {β : α → Type} (k : α) :
    ∀ {l : List (Sigma β)}, l.NodupKeys → l.kerase k = l.filter (·.1 ≠ k)
  | [], _ => rfl
  | e :: l, h => by
    rw [List.nodupKeys_cons] at h
    by_cases hk : k = e.1
    · subst hk
      rw [List.kerase_cons_eq rfl, List.filter_cons_of_neg (by simp), eq_comm,
        List.filter_eq_self]
      intro x hx
      exact decide_eq_true fun hxe => h.1 (hxe ▸ List.mem_keys_of_mem hx)
    · rw [List.kerase_cons_ne hk, kerase_eq_filter k h.2]
      simp [List.filter_cons, Ne.symm hk]

theorem BTreeMap.entries_erase {κ ν : Type} [DecidableEq κ] (m : BTreeMap κ ν) (k : κ) :
    (m.erase k).entries = m.entries.filter (·.1 ≠ k) :=
  kerase_eq_filter k m.nodupKeys

attribute [ext] BlockAccumulator

namespace BlockAccumulator

/-! ## The eviction loop -/

theorem foldl_markHandled_lookup (l : List BlockHash) (s : BlockAccumulator) (k : BlockHash) :
    (l.foldl markHandled s).blockAcceptors.lookup k =
      if k ∈ l then none else s.blockAcceptors.lookup k := by
  induction l generalizing s with
  | nil => simp
  | cons x l ih =>
    by_cases hk : k = x
    · subst hk; simp [ih]
    · simp [ih, hk, AList.lookup_erase_ne hk]

theorem foldl_markHandled_alreadyHandled (l : List BlockHash) (s : BlockAccumulator) :
    (l.foldl markHandled s).alreadyHandled = s.alreadyHandled ∪ l.toFinset := by
  induction l generalizing s with
  | nil => simp
  | cons x l ih => simp [ih, Finset.insert_union, Finset.union_insert]

@[simp] theorem foldl_markHandled_localTip (l : List BlockHash) (s : BlockAccumulator) :
    (l.foldl markHandled s).localTip = s.localTip := by
  induction l generalizing s <;> simp [*]

@[simp] theorem foldl_markHandled_blockChildren (l : List BlockHash) (s : BlockAccumulator) :
    (l.foldl markHandled s).blockChildren = s.blockChildren := by
  induction l generalizing s <;> simp [*]

theorem foldl_markHandled_entries (l : List BlockHash) (s : BlockAccumulator) :
    (l.foldl markHandled s).blockAcceptors.entries =
      s.blockAcceptors.entries.filter (·.1 ∉ l) := by
  induction l generalizing s with
  | nil => simp
  | cons x l ih =>
    rw [List.foldl_cons, ih, markHandled_blockAcceptors, BTreeMap.entries_erase, List.filter_filter]
    congr 1
    funext e
    simp [Bool.and_comm]

/-- The loop writes only the acceptor map and the handled set. -/
theorem foldl_markHandled_frame (l : List BlockHash) (s : BlockAccumulator) :
    l.foldl markHandled s = { s with
      blockAcceptors := (l.foldl markHandled s).blockAcceptors
      alreadyHandled := (l.foldl markHandled s).alreadyHandled } := by
  induction l generalizing s with
  | nil => rfl
  | cons x l ih => exact ih (s.markHandled x)

/-- The filter of `register_local_tip` lists exactly the tracked keys whose height, `0` when
    unknown, is below `n`. -/
theorem mem_evicted (s : BlockAccumulator) (n : Nat) (k : BlockHash) :
    k ∈ (s.blockAcceptors.entries.filter fun e => e.2.blockHeight.getD 0 < n).map (·.1) ↔
      ∃ a, s.blockAcceptors.lookup k = some a ∧ a.blockHeight.getD 0 < n := by
  simp only [List.mem_map, List.mem_filter, decide_eq_true_eq]
  constructor
  · rintro ⟨⟨k, a⟩, ⟨hmem, hlt⟩, rfl⟩
    exact ⟨a, AList.mem_lookup_iff.mpr hmem, hlt⟩
  · rintro ⟨a, hl, hlt⟩
    exact ⟨⟨k, a⟩, ⟨AList.mem_lookup_iff.mp hl, hlt⟩, rfl⟩

/-! ## One call -/

section OneCall

variable (s : BlockAccumulator) (n : Nat)

theorem registerLocalTip_localTip :
    (s.registerLocalTip n).localTip = (s.localTip.toList ++ [n]).max? := by
  simp [registerLocalTip]

/-- The tip becomes `max(old, n)`, or `n` when there was none. -/
theorem registerLocalTip_localTip_elim :
    (s.registerLocalTip n).localTip = some (s.localTip.elim n fun t => max t n) := by
  rw [registerLocalTip_localTip]
  cases s.localTip <;> rfl

theorem registerLocalTip_lookup (k : BlockHash) :
    (s.registerLocalTip n).blockAcceptors.lookup k =
      (s.blockAcceptors.lookup k).filter fun a => n ≤ a.blockHeight.getD 0 := by
  simp only [registerLocalTip, foldl_markHandled_lookup, mem_evicted]
  cases s.blockAcceptors.lookup k with
  | none => simp
  | some a =>
    by_cases h : a.blockHeight.getD 0 < n
    · simp [Option.filter, h, Nat.not_le.mpr h]
    · simp [Option.filter, h, Nat.not_lt.mp h]

theorem mem_registerLocalTip_alreadyHandled (k : BlockHash) :
    k ∈ (s.registerLocalTip n).alreadyHandled ↔
      k ∈ s.alreadyHandled ∨
        ∃ a, s.blockAcceptors.lookup k = some a ∧ a.blockHeight.getD 0 < n := by
  simp only [registerLocalTip, foldl_markHandled_alreadyHandled, Finset.mem_union,
    List.mem_toFinset, mem_evicted]

theorem mem_of_mem_registerLocalTip {k : BlockHash}
    (hk : k ∈ (s.registerLocalTip n).blockAcceptors) : k ∈ s.blockAcceptors := by
  rw [← AList.lookup_isSome, registerLocalTip_lookup] at hk
  exact AList.lookup_isSome.mp (Option.isSome_filter_of_isSome _ _ hk)

@[simp] theorem registerLocalTip_blockChildren :
    (s.registerLocalTip n).blockChildren = s.blockChildren := by
  simp [registerLocalTip]

/-- `register_local_tip` writes only the acceptor map, the handled set and the tip. -/
theorem registerLocalTip_frame :
    s.registerLocalTip n = { s with
      blockAcceptors := (s.registerLocalTip n).blockAcceptors
      alreadyHandled := (s.registerLocalTip n).alreadyHandled
      localTip := (s.registerLocalTip n).localTip } := by
  dsimp only [registerLocalTip]
  rw [foldl_markHandled_frame]

@[simp] theorem registerLocalTip_validatorMatrix :
    (s.registerLocalTip n).validatorMatrix = s.validatorMatrix :=
  (congrArg validatorMatrix (registerLocalTip_frame s n) :)

@[simp] theorem registerLocalTip_attemptExecutionThreshold :
    (s.registerLocalTip n).attemptExecutionThreshold = s.attemptExecutionThreshold :=
  (congrArg attemptExecutionThreshold (registerLocalTip_frame s n) :)

@[simp] theorem registerLocalTip_deadAirInterval :
    (s.registerLocalTip n).deadAirInterval = s.deadAirInterval :=
  (congrArg deadAirInterval (registerLocalTip_frame s n) :)

@[simp] theorem registerLocalTip_lastProgress :
    (s.registerLocalTip n).lastProgress = s.lastProgress :=
  (congrArg lastProgress (registerLocalTip_frame s n) :)

/-- The map after `register_local_tip(n)` keeps, in order, the entries of height at least `n`. -/
theorem registerLocalTip_entries :
    (s.registerLocalTip n).blockAcceptors.entries =
      s.blockAcceptors.entries.filter fun e => n ≤ e.2.blockHeight.getD 0 := by
  simp only [registerLocalTip, foldl_markHandled_entries]
  apply List.filter_congr
  intro e he
  have hl : s.blockAcceptors.lookup e.1 = some e.2 := AList.mem_lookup_iff.mpr he
  rw [decide_eq_decide, mem_evicted, hl]
  simp

end OneCall

/-! ## Whole runs -/

/-- Every operation passes its height, if any, to the tip; nothing else moves it. -/
theorem step_localTip (s : BlockAccumulator) (op : Op) :
    (s.step op).localTip = (s.localTip.toList ++ op.tipHeight.toList).max? := by
  cases op with
  | handleEvent event =>
    cases event <;> simp [step, handleEvent, Op.tipHeight, registerLocalTip_localTip]
  | syncInstruction w now => simp [step, Op.tipHeight]
  | registerLocalTip height => simp [step, Op.tipHeight, registerLocalTip_localTip]
  | registerUpdatedValidatorMatrix => simp [step, Op.tipHeight, registerUpdatedValidatorMatrix]

theorem run_localTip (s : BlockAccumulator) (ops : List Op) :
    (s.run ops).localTip = (s.localTip.toList ++ ops.filterMap Op.tipHeight).max? := by
  induction ops generalizing s with
  | nil => simp
  | cons op ops ih =>
    rw [run_cons, ih, step_localTip, max?_filterMap_cons]

/-- Along a run the tip only grows: the initial tip is below the final one. -/
theorem le_run_localTip (s : BlockAccumulator) (ops : List Op) :
    ∀ t ∈ s.localTip, ∃ t' ∈ (s.run ops).localTip, t ≤ t' := by
  intro t ht
  rw [Option.mem_def] at ht
  rw [run_localTip, ht]
  cases h : (ops.filterMap Op.tipHeight).max? <;> simp [h]

/-! ## The contract of `register_local_tip` -/

/-- **`register_local_tip(n)` evicts exactly the acceptors below `n` and raises the tip.**  For
    every state and height: the tip becomes `max(old, n)` (`n` when there was none); an acceptor
    survives, unchanged, exactly when its height (`0` when unknown) is at least `n`; the handled
    set gains exactly the evicted keys; the parent links are untouched.  Over any run of
    operations the tip is the maximum of the initial tip and every height handed in, so it never
    decreases. -/
theorem registerLocalTip_evicts_exactly_and_raises_tip :
    (∀ (s : BlockAccumulator) (n : Nat),
      (s.registerLocalTip n).localTip = some (s.localTip.elim n fun t => max t n) ∧
      (∀ k, (s.registerLocalTip n).blockAcceptors.lookup k =
        (s.blockAcceptors.lookup k).filter fun a => n ≤ a.blockHeight.getD 0) ∧
      (∀ k, k ∈ (s.registerLocalTip n).alreadyHandled ↔
        k ∈ s.alreadyHandled ∨
          ∃ a, s.blockAcceptors.lookup k = some a ∧ a.blockHeight.getD 0 < n) ∧
      (s.registerLocalTip n).blockChildren = s.blockChildren) ∧
    (∀ (s : BlockAccumulator) (ops : List Op),
      (s.run ops).localTip = (s.localTip.toList ++ ops.filterMap Op.tipHeight).max? ∧
      ∀ t ∈ s.localTip, ∃ t' ∈ (s.run ops).localTip, t ≤ t') :=
  ⟨fun s n => ⟨registerLocalTip_localTip_elim s n, registerLocalTip_lookup s n,
    mem_registerLocalTip_alreadyHandled s n, registerLocalTip_blockChildren s n⟩,
    fun s ops => ⟨run_localTip s ops, le_run_localTip s ops⟩⟩

/-! ## Tip notices compose as their maximum -/

/-- Two tips in a row are the higher one: the map keeps the entries at least both heights, the
    handled set gains those below either, and the tip rises to the larger. -/
theorem registerLocalTip_registerLocalTip (s : BlockAccumulator) (a b : Nat) :
    (s.registerLocalTip a).registerLocalTip b = s.registerLocalTip (max a b) := by
  apply BlockAccumulator.ext
  case blockAcceptors =>
    apply AList.ext
    rw [registerLocalTip_entries, registerLocalTip_entries, registerLocalTip_entries,
      List.filter_filter]
    apply List.filter_congr
    intro e _
    simp [Bool.and_comm]
  case alreadyHandled =>
    ext k
    simp only [mem_registerLocalTip_alreadyHandled, registerLocalTip_lookup]
    cases s.blockAcceptors.lookup k with
    | none => simp
    | some a0 =>
      by_cases hx : a0.blockHeight.getD 0 < a
      · simp [hx]
      · simp [hx, Nat.not_lt.mp hx, and_assoc]
  case localTip =>
    rw [registerLocalTip_localTip_elim, registerLocalTip_localTip_elim,
      registerLocalTip_localTip_elim]
    cases s.localTip with
    | none => rfl
    | some t => exact congrArg some (max_assoc t a b)
  all_goals simp

/-- An operation that hands a height to the tip does nothing else. -/
theorem step_of_tipHeight {op : Op} {n : Nat} (h : op.tipHeight = some n) (s : BlockAccumulator) :
    s.step op = s.registerLocalTip n := by
  cases op with
  | handleEvent event => cases event <;> cases h; rfl
  | registerLocalTip height => cases h; rfl
  | _ => cases h

theorem run_tipHeights (ops : List Op) (s : BlockAccumulator) (op : Op) (n : Nat)
    (hn : op.tipHeight = some n) (h : ∀ o ∈ ops, o.tipHeight.isSome) :
    s.run (op :: ops) = s.registerLocalTip ((ops.filterMap Op.tipHeight).foldl max n) := by
  induction ops generalizing s op n with
  | nil => exact step_of_tipHeight hn s
  | cons o ops ih =>
    obtain ⟨m, hm⟩ := Option.isSome_iff_exists.mp (h o (List.mem_cons_self _ _))
    rw [run_cons, step_of_tipHeight hn,
      ih _ o m hm fun o' ho' => h o' (List.mem_cons_of_mem _ ho'),
      registerLocalTip_registerLocalTip, List.filterMap_cons_some hm, List.foldl_cons,
      List.foldl_assoc]

/-- **Executed-block notices compose as their maximum.**  For every state, `register_local_tip(a)`
    followed by `register_local_tip(b)` leaves exactly the state `register_local_tip(max(a, b))`
    leaves: the same acceptors in the same order, the same handled set, the same tip.  So a run
    made only of such notices — `ExecutedBlock` events or direct calls, in any order — ends in
    the state the highest of their heights alone produces; a lower notice after a higher one
    changes nothing. -/
theorem registerLocalTip_composes_as_max :
    (∀ (s : BlockAccumulator) (a b : Nat),
      (s.registerLocalTip a).registerLocalTip b = s.registerLocalTip (max a b)) ∧
    (∀ (s : BlockAccumulator) (ops : List Op) (m : Nat), (∀ op ∈ ops, op.tipHeight.isSome) →
      (ops.filterMap Op.tipHeight).max? = some m → s.run ops = s.registerLocalTip m) := by
  refine ⟨registerLocalTip_registerLocalTip, fun s ops m h hm => ?_⟩
  cases ops with
  | nil => cases hm
  | cons op ops =>
    obtain ⟨n, hn⟩ := Option.isSome_iff_exists.mp (h op (List.mem_cons_self _ _))
    rw [List.filterMap_cons_some hn] at hm
    obtain rfl : (ops.filterMap Op.tipHeight).foldl max n = m := Option.some.inj hm
    exact run_tipHeights ops s op n hn fun o ho => h o (List.mem_cons_of_mem _ ho)

/-- A fresh accumulator tracking one block, at height 5 under hash `1`. -/
def trackedAtFive : BlockAccumulator :=
  (new ⟨10, 1000⟩ ⟨[]⟩ none 0).putAcceptor ⟨1⟩
    ⟨⟨1⟩, some ⟨⟨1⟩, ⟨some ⟨0⟩, ⟨0⟩, 5⟩, true⟩, [], [], none⟩

/-- Tips 4, 6 and 2, in that order, leave `trackedAtFive` as tip 6 alone does: the block at 5
    is evicted and the later, lower tip changes nothing. -/
theorem registerLocalTip_composes_as_max_trackedAtFive :
    trackedAtFive.run [.registerLocalTip 4, .handleEvent (.executedBlock ⟨none, ⟨0⟩, 6⟩),
      .registerLocalTip 2] = trackedAtFive.registerLocalTip 6 :=
  registerLocalTip_composes_as_max.2 _ _ 6 (by decide) (by decide)

end BlockAccumulator

end CasperAccumulator
