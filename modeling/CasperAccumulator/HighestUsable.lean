import CasperAccumulator.Steps

/-
  `highest_usable_block_height` (`block_accumulator.rs`, lines 451-479) computes a maximum.

  The loop keeps `ret`, skips a handled key, an acceptor without sufficient finality and one that
  does not know its era and height, and otherwise replaces `ret` unless the new height is `<=` it.
  `highestUsableStep_eq` reads one iteration as "`max?` of the running value and this entry's
  usable height", so the loop invariant (`foldl_highestUsableStep`) is: the running value is
  `max?` of the usable heights seen so far, together with the starting value.  The characterisation
  of the result (`highestUsableBlockHeight_is_max`) then needs only what `max?` means, and since
  that meaning is a statement about membership, the result does not depend on the order in which
  the map's entries are visited.

  `max?_filterMap_cons` is the list fact both this loop and the tip of `LocalTip` reuse.
-/

namespace CasperAccumulator

/-! ## `max?` of optional heights -/

@[simp] theorem max?_toList (o : Option Nat) : o.toList.max? = o := by
  cases o <;> rfl

/-- `max?` of a list's `max?` and more values is `max?` of all of them. -/
theorem max?_toList_append (l r : List Nat) : (l.max?.toList ++ r).max? = (l ++ r).max? := by
  cases l with
  | nil => rfl
  | cons a l => exact congrArg some (List.foldl_append _ _ _ _).symm

/-- Merging one more optional value into a running `max?`. -/
theorem max?_filterMap_cons {α : Type} (f : α → Option Nat) (o : Option Nat) (x : α)
    (l : List α) :
    ((o.toList ++ (f x).toList).max?.toList ++ l.filterMap f).max? =
      (o.toList ++ (x :: l).filterMap f).max? := by
  rw [max?_toList_append, List.append_assoc]
  cases h : f x <;> simp [List.filterMap_cons, h]

/-- `max?` of natural numbers depends only on which numbers are listed. -/
theorem max?_eq_of_perm {l₁ l₂ : List Nat} (h : l₁.Perm l₂) : l₁.max? = l₂.max? := by
  apply Option.ext
  intro m
  simp only [Option.mem_def, List.max?_eq_some_iff', h.mem_iff]

namespace BlockAccumulator

/-! ## The loop -/

/-- The height the entry `(k, v)` offers the loop: its block's height when `k` is not handled,
    `v` has sufficient finality and `v` knows its era and height. -/
def usableHeight (alreadyHandled : Finset BlockHash) (entry : Σ _ : BlockHash, BlockAcceptor) :
    Option Nat :=
  if entry.1 ∉ alreadyHandled ∧ entry.2.hasSufficientFinality = true then
    entry.2.blockEraAndHeight.map (·.2)
  else none

/-- One iteration: the running value becomes `max?` of itself and the entry's usable height. -/
theorem highestUsableStep_eq (alreadyHandled : Finset BlockHash) (ret : Option Nat)
    (entry : Σ _ : BlockHash, BlockAcceptor) :
    highestUsableStep alreadyHandled ret entry =
      (ret.toList ++ (usableHeight alreadyHandled entry).toList).max? := by
  unfold highestUsableStep usableHeight
  by_cases hk : entry.1 ∈ alreadyHandled
  · simp [hk]
  by_cases hf : entry.2.hasSufficientFinality = true
  · rcases entry.2.blockEraAndHeight with _ | ⟨e, h⟩ <;> rcases ret with _ | c <;>
      simp [hk, hf, max_def]
    -- a qualifying entry against a running value: the larger of the two is kept
    split_ifs <;> simp <;> omega
  · simp [hk, hf]

/-- **The loop invariant**: after any list of entries, the running value is `max?` of where it
    started and the usable heights of those entries. -/
theorem foldl_highestUsableStep (alreadyHandled : Finset BlockHash)
    (l : List (Σ _ : BlockHash, BlockAcceptor)) (ret : Option Nat) :
    l.foldl (highestUsableStep alreadyHandled) ret =
      (ret.toList ++ l.filterMap (usableHeight alreadyHandled)).max? := by
  induction l generalizing ret with
  | nil => simp
  | cons e l ih => rw [List.foldl_cons, ih, highestUsableStep_eq, max?_filterMap_cons]

/-- An acceptor `a` under key `k` qualifies at height `h`: `k` is not in `already_handled`, `a`
    has sufficient finality and `block_era_and_height()` is `Some((_, h))`. -/
def Qualifies (alreadyHandled : Finset BlockHash) (k : BlockHash) (a : BlockAcceptor)
    (h : Nat) : Prop :=
  k ∉ alreadyHandled ∧ a.hasSufficientFinality = true ∧ ∃ e, a.blockEraAndHeight = some (e, h)

theorem mem_filterMap_usableHeight (alreadyHandled : Finset BlockHash)
    (l : List (Σ _ : BlockHash, BlockAcceptor)) (h : Nat) :
    h ∈ l.filterMap (usableHeight alreadyHandled) ↔
      ∃ e ∈ l, Qualifies alreadyHandled e.1 e.2 h := by
  simp only [List.mem_filterMap, usableHeight, Qualifies]
  refine exists_congr fun e => and_congr_right fun _ => ?_
  split_ifs with hq
  · simp [hq]
  · simp only [reduceCtorEq, false_iff]
    tauto

theorem highestUsableBlockHeight_eq (s : BlockAccumulator) :
    s.highestUsableBlockHeight =
      (s.blockAcceptors.entries.filterMap (usableHeight s.alreadyHandled)).max? := by
  rw [highestUsableBlockHeight, foldl_highestUsableStep]
  rfl

/-- The usable heights of the map are the heights its acceptors qualify at. -/
theorem mem_usableHeights (s : BlockAccumulator) (h : Nat) :
    h ∈ s.blockAcceptors.entries.filterMap (usableHeight s.alreadyHandled) ↔
      ∃ k a, s.blockAcceptors.lookup k = some a ∧ Qualifies s.alreadyHandled k a h := by
  rw [mem_filterMap_usableHeight]
  constructor
  · rintro ⟨⟨k, a⟩, he, hq⟩
    exact ⟨k, a, AList.mem_lookup_iff.mpr he, hq⟩
  · rintro ⟨k, a, hl, hq⟩
    exact ⟨⟨k, a⟩, AList.mem_lookup_iff.mp hl, hq⟩

/-- A bound on every usable height is a bound on every qualifying acceptor's height. -/
theorem forall_usableHeights (s : BlockAccumulator) (P : Nat → Prop) :
    (∀ h ∈ s.blockAcceptors.entries.filterMap (usableHeight s.alreadyHandled), P h) ↔
      ∀ k a h, s.blockAcceptors.lookup k = some a → Qualifies s.alreadyHandled k a h → P h := by
  simp only [mem_usableHeights]
  exact ⟨fun H k a h hl hq => H h ⟨k, a, hl, hq⟩, fun H h ⟨k, a, hl, hq⟩ => H k a h hl hq⟩

/-! ## The maximum -/

/-- **`highest_usable_block_height` is the maximum height of the qualifying acceptors.**  For
    every acceptor map and handled set it is `None` exactly when no acceptor qualifies, and
    otherwise `Some m` for the `m` that some acceptor qualifies at and that bounds every
    qualifying height.  Visiting the entries in any other order gives the same result. -/
theorem highestUsableBlockHeight_is_max (s : BlockAccumulator) :
    (s.highestUsableBlockHeight = none ↔
      ∀ k a h, s.blockAcceptors.lookup k = some a → ¬ Qualifies s.alreadyHandled k a h) ∧
    (∀ m, s.highestUsableBlockHeight = some m ↔
      (∃ k a, s.blockAcceptors.lookup k = some a ∧ Qualifies s.alreadyHandled k a m) ∧
      ∀ k a h, s.blockAcceptors.lookup k = some a → Qualifies s.alreadyHandled k a h → h ≤ m) ∧
    (∀ l : List (Σ _ : BlockHash, BlockAcceptor), l.Perm s.blockAcceptors.entries →
      l.foldl (highestUsableStep s.alreadyHandled) none = s.highestUsableBlockHeight) := by
  rw [highestUsableBlockHeight_eq]
  refine ⟨?_, fun m => ?_, fun l hl => ?_⟩
  · rw [List.max?_eq_none_iff, List.eq_nil_iff_forall_not_mem]
    exact forall_usableHeights s fun _ => False
  · rw [List.max?_eq_some_iff', mem_usableHeights, forall_usableHeights]
  · rw [foldl_highestUsableStep]
    exact max?_eq_of_perm (hl.filterMap _)

end BlockAccumulator

end CasperAccumulator
