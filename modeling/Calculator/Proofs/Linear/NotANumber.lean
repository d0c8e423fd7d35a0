import Calculator.Proofs.Linear.Outcomes
import Calculator.Proofs.Number.Laws
import Mathlib.Logic.Equiv.Basic

/-!
What is not a number does not get lost.

A solver that reads an entry that is not a number fails, or its answer has one too. In an
elimination such an entry never moves to the left (`invalid_reducedAt`): when its column comes
up, either it is the pivot and fails the test, or its row takes it along to the last column.
An expansion by cofactors reads every entry (`invalid_determinant`), and the length of a column
reads all of it (`invalid_norm_leftover`). Main statement: `solvers_keep_invalid`.
-/

namespace Calculator.Linear

/-- A property that every round of a loop keeps holds at the end if it holds at the start or if
some round brings it about. -/
theorem foldl_of_reached {β : Type} {n : Nat} {p : β → Prop} {round : β → Fin n → β}
    (keeps : ∀ x i, p x → p (round x i)) {start : β}
    (reached : p start ∨ ∃ i, ∀ x, p (round x i)) : p (Fin.foldl n round start) := by
  induction n generalizing start with
  | zero =>
      obtain atStart | ⟨i, -⟩ := reached
      · exact atStart
      · exact i.elim0
  | succ n ih =>
      rw [Fin.foldl_succ]
      apply ih fun x i => keeps x i.succ
      obtain atStart | ⟨i, atRound⟩ := reached
      · exact .inl (keeps start 0 atStart)
      · induction i using Fin.cases with
        | zero => exact .inl (atRound start)
        | succ i => exact .inr ⟨i, atRound⟩

/-- The entries after an exchange of rows. -/
theorem entry_swapRows_swap {α : Type} {n : Nat} (a : DenseMatrix α n (n + 1)) (i j r : Fin n)
    (c : Fin (n + 1)) : (swapRows a i j).entry (Equiv.swap i j r) c = a.entry r c := by
  rw [entry_swapRows, ← Equiv.swap_apply_def, Equiv.swap_apply_self]

end Calculator.Linear

namespace Calculator.IsAbsorbing

open Arithmetic Linear

variable {α : Type} [Arithmetic α] {m n k : Nat} {invalid : α → Prop}

/-! ### Tests and sums -/

theorem not_invalid_of_atMost (absorbing : IsAbsorbing invalid) {x y : α}
    (holds : Arithmetic.atMost x (Arithmetic.abs y) = true) : ¬ invalid y := by
  intro bad
  rw [absorbing.atMost (.inr (absorbing.abs bad))] at holds
  cases holds

theorem invalid_sumTerms (absorbing : IsAbsorbing invalid) {term : Fin n → α} {i : Fin n}
    (bad : invalid (term i)) : invalid (sumTerms term) := by
  cases n with
  | zero => exact i.elim0
  | succ n =>
      apply foldl_of_reached fun sum i reached => absorbing.add (.inl reached)
      induction i using Fin.cases with
      | zero => exact .inl bad
      | succ i => exact .inr ⟨i, fun sum => absorbing.add (.inr bad)⟩

theorem invalid_norm (absorbing : IsAbsorbing invalid) {v : Vector α n} {i : Fin n}
    (bad : invalid (v.get i)) : invalid (norm v) :=
  absorbing.sqrt (foldl_of_reached (fun _ _ reached => absorbing.add (.inl reached))
    (.inr ⟨i, fun _ => absorbing.add (.inr (absorbing.mul (.inr bad)))⟩))

/-! ### Elimination -/

section Elimination

variable {a : DenseMatrix α n (n + 1)} {i r : Fin n} {c : Fin (n + 1)}

theorem invalid_normalizeRow (absorbing : IsAbsorbing invalid) (bad : invalid (a.entry r c)) :
    invalid ((normalizeRow a i).entry r c) := by
  rw [normalizeRow, DenseMatrix.entry_ofFn]
  split
  · exact absorbing.div (.inl bad)
  · exact bad

theorem invalid_clearColumn (absorbing : IsAbsorbing invalid) (bad : invalid (a.entry r c)) :
    invalid ((clearColumn a i).entry r c) := by
  rw [clearColumn, DenseMatrix.entry_ofFn]
  split
  · exact bad
  · split
    · exact bad
    · exact absorbing.sub (.inl bad)

/-- A row with an invalid factor is invalid from the pivot column on. -/
theorem invalid_clearColumn_of_factor (absorbing : IsAbsorbing invalid) (other : r ≠ i)
    (bad : invalid (a.entry r i.castSucc)) (behind : i.castSucc ≤ c) :
    invalid ((clearColumn a i).entry r c) := by
  have cleared : ¬ (r = i ∨ c < i.castSucc) := not_or.mpr ⟨other, behind.not_gt⟩
  have nonzero : ¬ (a.entry r i.castSucc == 0) = true := by
    rw [absorbing.beq_zero bad]
    exact Bool.false_ne_true
  rw [clearColumn, DenseMatrix.entry_ofFn, if_neg cleared, if_neg nonzero]
  exact absorbing.sub (.inr (absorbing.mul (.inl bad)))

/-- An invalid entry in the column to be reduced or behind it leaves one behind that column. -/
theorem invalid_reducedAt (absorbing : IsAbsorbing invalid) (valid : ¬ invalid (pivot a i))
    (ahead : i.castSucc ≤ c) (bad : invalid (a.entry r c)) :
    ∃ r c, i.castSucc < c ∧ invalid ((reducedAt a i).entry r c) := by
  let row := Equiv.swap i (pivotRow a i) r
  have moved : invalid ((swapRows a i (pivotRow a i)).entry row c) := by
    rwa [entry_swapRows_swap]
  have normalized := absorbing.invalid_normalizeRow (i := i) moved
  rcases ahead.lt_or_eq with behind | rfl
  · exact ⟨row, c, behind, absorbing.invalid_clearColumn normalized⟩
  · have other : row ≠ i := by
      intro same
      rw [same, entry_swapRows, if_pos rfl] at moved
      exact valid moved
    exact ⟨row, Fin.last n, i.castSucc_lt_last,
      absorbing.invalid_clearColumn_of_factor other normalized (Fin.le_last _)⟩

/-- When columns have been reduced, an invalid entry is found behind them. -/
theorem invalid_reduceColumns (absorbing : IsAbsorbing invalid) {tolerance : α}
    (bad : invalid (a.entry r c)) : ∀ {count : Nat} {bound : count ≤ n}
    {reduced : DenseMatrix α n (n + 1)}, reduceColumns tolerance a count bound = .ok reduced →
      ∃ r c, count ≤ c.val ∧ invalid (reduced.entry r c)
  | 0, _, _, done => by
      cases done
      exact ⟨r, c, Nat.zero_le _, bad⟩
  | count + 1, bound, _, done => by
      obtain ⟨before, front, passes, rfl⟩ := reduceColumns_succ_eq_ok done
      obtain ⟨r, c, ahead, bad⟩ := invalid_reduceColumns absorbing bad front
      obtain ⟨r, c, behind, bad⟩ := absorbing.invalid_reducedAt (i := ⟨count, bound⟩)
        (absorbing.not_invalid_of_atMost passes) ahead bad
      exact ⟨r, c, behind, bad⟩

end Elimination

/-- An invalid entry of a system that is solved by elimination leaves one in the answer. -/
theorem invalid_eliminate (absorbing : IsAbsorbing invalid) {a : DenseMatrix α n n}
    {b x : Vector α n} {tolerance : α}
    (bad : (∃ i j, invalid (a.entry i j)) ∨ ∃ i, invalid (b.get i))
    (done : eliminate a b tolerance = .ok x) : ∃ i, invalid (x.get i) := by
  obtain ⟨r, c, bad⟩ : ∃ r c, invalid ((a.appendColumn b).entry r c) := by
    obtain ⟨i, j, bad⟩ | ⟨i, bad⟩ := bad
    · exact ⟨i, j.castSucc, by rwa [DenseMatrix.entry_appendColumn_castSucc]⟩
    · exact ⟨i, Fin.last n, by rwa [DenseMatrix.entry_appendColumn_last]⟩
  obtain ⟨reduced, run, rfl⟩ := eliminate_eq_ok done
  obtain ⟨r, c, behind, bad⟩ := absorbing.invalid_reduceColumns bad run
  obtain rfl : c = Fin.last n := Fin.ext (Nat.le_antisymm (Fin.le_last c) behind)
  exact ⟨r, by rwa [DenseMatrix.get_column]⟩

/-! ### Determinants -/

/-- An expansion by cofactors reads every entry. -/
theorem invalid_determinant (absorbing : IsAbsorbing invalid) : ∀ {n : Nat}
    {a : DenseMatrix α n n} {r c : Fin n}, invalid (a.entry r c) → invalid (determinant a)
  | 0, _, r, _, _ => r.elim0
  | 1, a, r, c, bad => by
      obtain rfl : r = 0 := Subsingleton.elim _ _
      obtain rfl : c = 0 := Subsingleton.elim _ _
      exact bad
  | n + 2, a, r, c, bad => by
      rw [determinant]
      induction r using Fin.cases with
      | zero =>
          exact absorbing.invalid_sumTerms (i := c)
            (absorbing.mul (.inl (absorbing.mul (.inr bad))))
      | succ r =>
          -- The entry is in the minor of every other column.
          obtain ⟨j, other⟩ := exists_ne c
          obtain ⟨c', rfl⟩ := Fin.exists_succAbove_eq other.symm
          have kept : invalid ((a.minor 0 j).entry r c') := by
            rw [DenseMatrix.minor, DenseMatrix.entry_ofFn]
            exact bad
          exact absorbing.invalid_sumTerms (i := j)
            (absorbing.mul (.inr (invalid_determinant absorbing kept)))

/-- With an invalid number on the right, all quotients of Cramer's rule are invalid. -/
theorem invalid_quotient (absorbing : IsAbsorbing invalid) (a : DenseMatrix α n n)
    {b : Vector α n} {i : Fin n} (bad : invalid (b.get i)) (j : Fin n) :
    invalid (determinant (a.replaceColumn j b) / determinant a) := by
  have replaced : invalid ((a.replaceColumn j b).entry i j) := by
    rwa [DenseMatrix.replaceColumn, DenseMatrix.entry_ofFn, if_pos rfl]
  exact absorbing.div (.inl (absorbing.invalid_determinant replaced))

/-! ### Orthogonalisation -/

theorem invalid_norm_leftover (absorbing : IsAbsorbing invalid) (q : DenseMatrix α m k)
    {v : Vector α m} {i : Fin m} (bad : invalid (v.get i)) : invalid (norm (leftover q v)) := by
  refine absorbing.invalid_norm (i := i) ?_
  refine foldl_of_reached (p := fun rest : Vector α m => invalid (rest.get i))
    (fun rest j bad => ?_) (.inl bad)
  rw [get_ofFn]
  exact absorbing.sub (.inl bad)

/-- A matrix with an invalid entry is not decomposed. -/
theorem orthogonalize_of_invalid (absorbing : IsAbsorbing invalid) {tolerance : α}
    {column : Fin k → Vector α m} {i : Fin m} {j : Fin k} (bad : invalid ((column j).get i)) :
    orthogonalize tolerance column = .error .noUniqueSolution := by
  induction k with
  | zero => exact j.elim0
  | succ k ih =>
      rw [orthogonalize]
      rcases orthogonalize_ok_or tolerance fun j => column j.castSucc with ⟨factors, front⟩ | failed
      · induction j using Fin.lastCases with
        | cast j => cases front.symm.trans (ih bad)
        | last =>
            have fails := absorbing.below (x := tolerance)
              (.inr (absorbing.invalid_norm_leftover factors.q bad))
            rw [front, Except.bind, Factors.extend_eq, if_neg (Bool.eq_false_iff.mp fails)]
      · rw [failed]
        rfl

end Calculator.IsAbsorbing

namespace Calculator.Linear

/-! ### All solvers -/

/-- An entry that is not a number does not get lost. Elimination fails, or such an entry is in
its answer too. Cramer's rule fails if the matrix has such an entry, and otherwise, with one on
the right, it fails or its answer has no others. A matrix with such an entry is not decomposed. -/
theorem solvers_keep_invalid {α : Type} [Arithmetic α] {invalid : α → Prop}
    (absorbing : IsAbsorbing invalid) :
    (∀ {n : Nat}, 0 < n → ∀ (a : DenseMatrix α n n) (b : Vector α n) (tolerance : α),
      ((∃ i j, invalid (a.entry i j)) ∨ ∃ i, invalid (b.get i)) →
        gaussJordan a b tolerance = .error .noUniqueSolution ∨
          ∃ x, gaussJordan a b tolerance = .ok x ∧ ∃ i, invalid (x.get i)) ∧
    (∀ {n : Nat}, 0 < n → ∀ (a : DenseMatrix α n n) (b : Vector α n) (tolerance : α),
      ((∃ i j, invalid (a.entry i j)) →
        cramersRule a b tolerance = .error .noUniqueSolution) ∧
      ((∃ i, invalid (b.get i)) →
        cramersRule a b tolerance = .error .noUniqueSolution ∨
          ∃ x, cramersRule a b tolerance = .ok x ∧ ∀ i, invalid (x.get i))) ∧
    ∀ {m n : Nat}, 0 < n → n ≤ m → ∀ (a : DenseMatrix α m n) (tolerance : α),
      (∃ i j, invalid (a.entry i j)) → gramSchmidt a tolerance = .error .noUniqueSolution := by
  refine ⟨fun positive a b tolerance bad => ?_, fun positive a b tolerance => ⟨?_, ?_⟩, ?_⟩
  · rw [gaussJordan_of_pos positive]
    rcases eliminate_ok_or a b tolerance with ⟨x, done⟩ | failed
    · exact .inr ⟨x, done, absorbing.invalid_eliminate bad done⟩
    · exact .inl failed
  · rintro ⟨i, j, bad⟩
    have fails := absorbing.atMost (x := tolerance)
      (.inr (absorbing.abs (absorbing.invalid_determinant bad)))
    rw [cramersRule_eq positive, if_neg (Bool.eq_false_iff.mp fails)]
  · rintro ⟨i, bad⟩
    rw [cramersRule_eq positive]
    split
    · refine .inr ⟨_, rfl, fun j => ?_⟩
      rw [get_ofFn]
      exact absorbing.invalid_quotient a bad j
    · exact .inl rfl
  · rintro m n positive tall a tolerance ⟨i, j, bad⟩
    rw [gramSchmidt_eq positive tall]
    exact absorbing.orthogonalize_of_invalid (i := i) (j := j)
      (by rwa [DenseMatrix.get_column])

/-- A matrix with an entry above the diagonal that is not a number is read by all solvers, and
one on the right by Cramer's rule. -/
theorem solvers_keep_invalid_above_diagonal :
    let a : DenseMatrix Float 2 2 := ⟨#v[#v[2, Double.notANumber], #v[0, 1]]⟩
    let regular : DenseMatrix Float 2 2 := ⟨#v[#v[2, 1], #v[1, 1]]⟩
    a.entry 0 1 = Double.notANumber ∧
    (∃ x, gaussJordan a #v[1, 1] 1 = .ok x ∧ ∃ i, x.get i = Double.notANumber) ∧
    cramersRule a #v[1, 1] 1 = .error .noUniqueSolution ∧
    (∃ x, cramersRule regular #v[Double.notANumber, 1] 1 = .ok x ∧
      ∀ i, x.get i = Double.notANumber) ∧
    gramSchmidt a 1 = .error .noUniqueSolution := by
  intro a regular
  obtain ⟨gauss, cramer, gram⟩ := solvers_keep_invalid Double.isAbsorbing_notANumber
  have bad : ∃ i j, a.entry i j = Double.notANumber := ⟨0, 1, rfl⟩
  have onRight : ∃ i, (#v[Double.notANumber, 1] : Vector Float 2).get i = Double.notANumber :=
    ⟨0, rfl⟩
  exact ⟨rfl, (gauss Nat.two_pos a #v[1, 1] 1 (.inl bad)).resolve_left (by decide +kernel),
    (cramer Nat.two_pos a #v[1, 1] 1).1 bad,
    ((cramer Nat.two_pos regular #v[Double.notANumber, 1] 1).2 onRight).resolve_left
      (by decide +kernel),
    gram Nat.two_pos Nat.le.refl a 1 bad⟩

end Calculator.Linear
