import CasperAccumulator.Invariants

/-
  How `register_updated_validator_matrix` (`block_accumulator.rs`, lines 418-426) interleaves
  with the tip notices.  The loop rewrites every acceptor in place, refreshing it with its era's
  table when the matrix has one; neither the keys nor any acceptor's height change.

  **Refreshes and tip notices commute** (`tip_notices_and_refreshes_commute`).  A refresh keeps
  every acceptor's height, so evicting below a tip before or after it is the same
  (`registerLocalTip_registerUpdatedValidatorMatrix`); and two tip notices compose as their
  maximum.  So any reordering of a run made of executed blocks, `register_local_tip` calls and
  refreshes ends in the same state: the order in which they reach the accumulator does not matter.
-/

namespace CasperAccumulator

namespace BlockAccumulator

/-! ## Refreshes and tip notices commute -/

/-- A weight refresh keeps every height, so evicting below `n` before or after it is the same. -/
theorem registerLocalTip_registerUpdatedValidatorMatrix (s : BlockAccumulator) (n : Nat) :
    s.registerUpdatedValidatorMatrix.registerLocalTip n =
      (s.registerLocalTip n).registerUpdatedValidatorMatrix := by
  apply BlockAccumulator.ext
  case blockAcceptors =>
    apply AList.ext
    simp only [registerLocalTip_entries, registerUpdatedValidatorMatrix, BTreeMap.mapValues,
      List.filter_map, registerLocalTip_validatorMatrix]
    congr 1
    apply List.filter_congr
    intro e _
    simp
  case alreadyHandled =>
    ext k
    simp [mem_registerLocalTip_alreadyHandled, registerUpdatedValidatorMatrix]
  case localTip =>
    exact (registerLocalTip_localTip _ n).trans (registerLocalTip_localTip s n).symm
  all_goals simp [registerUpdatedValidatorMatrix]

/-- Two tip notices, or a tip notice and a weight refresh, give the same state in either order. -/
theorem step_step_comm {x y : Op} (hx : x.tipHeight.isSome ∨ x = .registerUpdatedValidatorMatrix)
    (hy : y.tipHeight.isSome ∨ y = .registerUpdatedValidatorMatrix) (s : BlockAccumulator) :
    (s.step x).step y = (s.step y).step x := by
  rcases hx with hx | rfl <;> rcases hy with hy | rfl
  · obtain ⟨n, hn⟩ := Option.isSome_iff_exists.mp hx
    obtain ⟨m, hm⟩ := Option.isSome_iff_exists.mp hy
    simp only [step_of_tipHeight hn, step_of_tipHeight hm]
    rw [registerLocalTip_registerLocalTip, registerLocalTip_registerLocalTip, max_comm]
  · obtain ⟨n, hn⟩ := Option.isSome_iff_exists.mp hx
    simp only [step_of_tipHeight hn]
    exact (registerLocalTip_registerUpdatedValidatorMatrix s n).symm
  · obtain ⟨m, hm⟩ := Option.isSome_iff_exists.mp hy
    simp only [step_of_tipHeight hm]
    exact registerLocalTip_registerUpdatedValidatorMatrix s m
  · rfl

/-- **Tip notices and weight refreshes commute.**  For every state, two runs made of the same
    `register_local_tip` calls, `ExecutedBlock` events and `register_updated_validator_matrix`
    calls, in any two orders, end in the same state. -/
theorem tip_notices_and_refreshes_commute (s : BlockAccumulator) (ops ops' : List Op)
    (hperm : ops.Perm ops')
    (hops : ∀ op ∈ ops, op.tipHeight.isSome ∨ op = .registerUpdatedValidatorMatrix) :
    s.run ops = s.run ops' := by
  induction hperm generalizing s with
  | nil => rfl
  | cons op _ ih =>
    rw [run_cons, run_cons, ih _ fun o ho => hops o (List.mem_cons_of_mem _ ho)]
  | swap x y l =>
    rw [run_cons, run_cons, run_cons, run_cons,
      step_step_comm (hops y (List.mem_cons_self _ _))
        (hops x (List.mem_cons_of_mem _ (List.mem_cons_self _ _)))]
  | trans h₁₂ _ ih₁₂ ih₂₃ =>
    rw [ih₁₂ s hops, ih₂₃ s fun o ho => hops o (h₁₂.mem_iff.mpr ho)]

/-- A refresh and two tip notices reach `usableAcceptorState` in two orders. -/
theorem tip_notices_and_refreshes_commute_usable :
    usableAcceptorState.run [.registerUpdatedValidatorMatrix,
        .handleEvent (.executedBlock ⟨none, ⟨0⟩, 3⟩), .registerLocalTip 7] =
      usableAcceptorState.run [.registerLocalTip 7, .registerUpdatedValidatorMatrix,
        .handleEvent (.executedBlock ⟨none, ⟨0⟩, 3⟩)] :=
  tip_notices_and_refreshes_commute _ _ _ (by decide) (by decide)

end BlockAccumulator

end CasperAccumulator
