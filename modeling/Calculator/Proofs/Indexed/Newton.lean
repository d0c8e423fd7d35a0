import Calculator.Nonlinear
import Calculator.Proofs.Indexed.Elimination

/-!
Newton's method under row and column numbers.

The number of equations and the number of unknowns are two numbers here: the residuals are
written into a vector of the one length, the matrix of difference quotients has that many rows
and as many columns as the point has coordinates, and a step adds the two vectors. That the
numbers are the same is tested once, before the first round (`solveRun_eq`).
-/

namespace Calculator.Indexed

open Arithmetic Expression Linear Nonlinear

variable {α : Type} [Arithmetic α] {m n : Nat}

/-! ### The loops -/

/-- Evaluate equations in postfix order one after the other. -/
def residualsRun (registry : Registry α) (context : Context α)
    (equations : Vector (List (Token α)) m) (x : Vector α n) : Run (Vector α m) :=
  (List.range m).foldlM (fun values i =>
    (fetchAt equations i).bind fun tokens =>
      (report .algebraic (runPostfix registry (bindUnknowns x context) tokens)).bind fun value =>
        storeAt values i value) (.replicate m 0)

/-- Move one coordinate, write the difference quotients into a column, and move the coordinate
back. -/
def nudgeColumn (residuals : Vector α n → Run (Vector α m)) (step : α) (x : Vector α n)
    (fx : Vector α m) (state : DenseMatrix α m n × Vector α n) (column : Nat) :
    Run (DenseMatrix α m n × Vector α n) :=
  (fetchAt state.2 column).bind fun coordinate =>
    (storeAt state.2 column (coordinate + step)).bind fun nudged =>
      (residuals nudged).bind fun moved =>
        (fetchAt x column).bind fun original =>
          (storeAt nudged column original).bind fun restored =>
            (storeColumn state.1 column
              (Vector.ofFn fun i => (moved.get i - fx.get i) / step)).map fun slopes =>
                (slopes, restored)

def jacobianRun (residuals : Vector α n → Run (Vector α m)) (step : α) (x : Vector α n)
    (fx : Vector α m) : Run (DenseMatrix α m n) :=
  ((List.range n).foldlM (nudgeColumn residuals step x fx) (.ofFn fun _ _ => 0, x)).map
    Prod.fst

/-- The sum of two vectors, which have to be of one length. -/
def addRun (u : Vector α m) (v : Vector α n) : Run (Vector α n) :=
  if same : n = m then .ok (.ofFn fun i => u.get (i.cast same) + v.get i)
  else .error .outOfRange

def advanceRun (residuals : Vector α n → Run (Vector α m)) (config : Config α)
    (x : Vector α n) (fx : Vector α m) : Run (Vector α n) :=
  (jacobianRun residuals config.differenceStep x fx).bind fun slopes =>
    (gaussJordanRun slopes (fx.map (-·)) config.pivotTolerance).bind fun change =>
      addRun change x

def newtonRun (residuals : Vector α n → Run (Vector α m)) (config : Config α) :
    (rounds : Nat) → Vector α n → Run (Vector α n)
  | 0, x => .ok x
  | rounds + 1, x =>
      (residuals x).bind fun fx =>
        if below (norm fx) config.residualTolerance then .ok x
        else
          (advanceRun residuals config x fx).bind fun next =>
            if Newton.isStationary next x then .ok next
            else newtonRun residuals config rounds next

def solveRun [Numeral α] (registry : Registry α) (config : Config α) (context : Context α)
    (equations : List (List Char)) (guess : Vector α n) : Run (Vector α n) :=
  if equations.length = n ∧ 0 < n ∧ n ≤ unknownNames.length then
    (report .algebraic (Vector.ofFnM fun i : Fin equations.length =>
      postfixOrder registry (residualText (equations.get i)))).bind fun compiled =>
        newtonRun (residualsRun registry context compiled) config config.newtonRounds guess
  else .error (.failed (.algebraic .operandMismatch))

/-! ### Filling from left to right -/

/-- A loop that computes one value after the other and puts it behind those it has. -/
theorem foldlM_fill {β σ : Type} {value : Fin n → Except EvalError β}
    {body : σ → Nat → Run σ} (view : (k : Nat) → Vector β k → σ)
    (each : ∀ (k : Fin n) (front : Vector β k), body (view k front) k =
      (report .algebraic (value k)).map fun x => view (k + 1) (front.push x)) :
    (k : Nat) → (bound : k ≤ n) → (List.range k).foldlM body (view 0 #v[]) =
      (report .algebraic (Vector.ofFnM fun i : Fin k => value (i.castLE bound))).map (view k)
  | 0, _ => by
      rw [Vector.ofFnM_zero]
      rfl
  | k + 1, bound => by
      have before : (List.range k).foldlM body (view 0 #v[]) =
          (report .algebraic (Vector.ofFnM fun i : Fin k => value (i.castSucc.castLE bound))).map
            (view k) :=
        foldlM_fill view each k (Nat.le_of_succ_le bound)
      rw [List.range_succ, List.foldlM_append, before, Vector.ofFnM_succ]
      cases Vector.ofFnM fun i : Fin k => value (i.castSucc.castLE bound) with
      | error cause => rfl
      | ok front =>
          -- The two ways to number the last entry are the same, but not in their form.
          refine (bind_pure _).trans ((each ⟨k, bound⟩ front).trans ?_)
          have last : value ((Fin.last k).castLE bound) = value ⟨k, bound⟩ := rfl
          rw [last]
          cases value ⟨k, bound⟩ with
          | error cause => rfl
          | ok x => rfl

/-- The vector that is filled from left to right with the entries of another one. -/
def filled (n : Nat) (k : Nat) (front : Vector α k) : Vector α n :=
  .ofFn fun i => if done : i.val < k then front[i.val] else 0

theorem storeAt_filled {k : Fin n} (front : Vector α k) (x : α) :
    storeAt (filled n k front) k x = .ok (filled n (k + 1) (front.push x)) := by
  rw [storeAt_val]
  refine congrArg Except.ok (ext_get fun i => ?_)
  simp only [filled, get_ofFn, Vector.getElem_push, Fin.ext_iff]
  grind

theorem filled_all (front : Vector α n) : filled n n front = front := by
  refine ext_get fun i => ?_
  simp [filled]

/-! ### What the loops compute -/

theorem residualsRun_eq (registry : Registry α) (context : Context α)
    (equations : Vector (List (Token α)) m) (x : Vector α n) :
    residualsRun registry context equations x = report .algebraic (Vector.ofFnM fun i : Fin m =>
      runPostfix registry (bindUnknowns x context) (equations.get i)) := by
  have start : (.replicate m 0 : Vector α m) = filled m 0 #v[] := by
    refine ext_get fun i => ?_
    simp [filled, Vector.get]
  have each (k : Fin m) (front : Vector α k) :
      ((fetchAt equations k).bind fun tokens =>
        (report .algebraic (runPostfix registry (bindUnknowns x context) tokens)).bind fun value =>
          storeAt (filled m k front) k value) =
      (report .algebraic (runPostfix registry (bindUnknowns x context) (equations.get k))).map
        fun value => filled m (k + 1) (front.push value) := by
    rw [fetchAt_val]
    simp only [storeAt_filled]
    -- What is read stands below a binder until the first `bind` is computed.
    change Except.bind (report .algebraic (runPostfix _ _ (equations.get k))) _ = _
    cases runPostfix registry (bindUnknowns x context) (equations.get k) with
    | error cause => rfl
    | ok value => rfl
  rw [residualsRun, start, foldlM_fill (filled m) each m (Nat.le_refl m),
    funext filled_all]
  exact congrFun Except.map_id _

/-- The difference quotients of the columns on the left, and zeros. -/
def filledColumns (m n : Nat) (k : Nat) (front : Vector (Vector α m) k) : DenseMatrix α m n :=
  .ofFn fun r c => if done : c.val < k then front[c.val].get r else 0

theorem storeColumn_filledColumns {k : Fin n} (front : Vector (Vector α m) k)
    (v : Vector α m) :
    storeColumn (filledColumns m n k front) k v =
      .ok (filledColumns m n (k + 1) (front.push v)) := by
  rw [storeColumn_val]
  refine congrArg Except.ok (DenseMatrix.ext_entry fun r c => ?_)
  rw [entry_replaceColumn]
  simp only [filledColumns, DenseMatrix.entry_ofFn, Vector.getElem_push, Fin.ext_iff]
  grind

/-- A column moves the point back to where it was. -/
theorem nudgeColumn_eq {residuals : Newton.Residuals α n} {step : α} {x fx : Vector α n}
    {k : Fin n} (slopes : DenseMatrix α n n) :
    nudgeColumn (fun x => report .algebraic (residuals x)) step x fx (slopes, x) k =
      (report .algebraic (residuals (Newton.moveOne x k step))).bind fun moved =>
        (storeColumn slopes k (.ofFn fun i => (moved.get i - fx.get i) / step)).map
          fun slopes => (slopes, x) := by
  have nudged : storeAt x k (x.get k + step) = .ok (Newton.moveOne x k step) := by
    rw [storeAt_val]
    refine congrArg Except.ok (ext_get fun i => ?_)
    simp only [Newton.moveOne, get_ofFn]
    grind
  have restored : storeAt (Newton.moveOne x k step) k (x.get k) = .ok x := by
    rw [storeAt_val]
    refine congrArg Except.ok (ext_get fun i => ?_)
    simp only [Newton.moveOne, get_ofFn]
    grind
  simp only [nudgeColumn, fetchAt_val, nudged, restored, Except.bind]

theorem jacobianRun_eq (residuals : Newton.Residuals α n) (step : α) (x fx : Vector α n) :
    jacobianRun (fun x => report .algebraic (residuals x)) step x fx =
      report .algebraic (Newton.jacobian residuals step x fx) := by
  have start : (.ofFn fun _ _ => 0 : DenseMatrix α n n) = filledColumns n n 0 #v[] := by
    refine DenseMatrix.ext_entry fun r c => ?_
    simp [filledColumns]
  have each (k : Fin n) (front : Vector (Vector α n) k) :
      nudgeColumn (fun x => report .algebraic (residuals x)) step x fx
        (filledColumns n n k front, x) k =
      (report .algebraic ((residuals (Newton.moveOne x k step)).map fun moved =>
        Vector.ofFn fun i : Fin n => (moved.get i - fx.get i) / step)).map
          fun column => (filledColumns n n (k + 1) (front.push column), x) := by
    rw [nudgeColumn_eq]
    simp only [storeColumn_filledColumns]
    cases residuals (Newton.moveOne x k step) with
    | error cause => rfl
    | ok moved => rfl
  have final (columns : Except EvalError (Vector (Vector α n) n)) :
      ((report .algebraic columns).map fun front => (filledColumns n n n front, x)).map Prod.fst =
        report .algebraic (columns.map fun columns => .ofFn fun i j => (columns.get j).get i) := by
    cases columns with
    | error cause => rfl
    | ok front =>
        refine congrArg Except.ok (DenseMatrix.ext_entry fun r c => ?_)
        simp only [filledColumns, DenseMatrix.entry_ofFn, c.isLt, dite_true]
        rfl
  rw [jacobianRun, start,
    foldlM_fill (fun k front => (filledColumns n n k front, x)) each n (Nat.le_refl n)]
  exact final _

theorem addRun_eq (u v : Vector α n) :
    addRun u v = .ok (.ofFn fun i => u.get i + v.get i) :=
  dif_pos rfl

theorem advanceRun_eq (residuals : Newton.Residuals α n) (config : Config α)
    (x fx : Vector α n) :
    advanceRun (fun x => report .algebraic (residuals x)) config x fx =
      report id (Newton.advance residuals config x fx) := by
  rw [advanceRun, jacobianRun_eq, Newton.advance, report_bind, report_mapError]
  refine congrArg (Except.bind _) (funext fun slopes => ?_)
  rw [gaussJordanRun_eq]
  simp only [addRun_eq]
  cases gaussJordan slopes (fx.map (-·)) config.pivotTolerance with
  | error cause => rfl
  | ok change => rfl

theorem newtonRun_eq (residuals : Newton.Residuals α n) (config : Config α) :
    (rounds : Nat) → (x : Vector α n) →
    newtonRun (fun x => report .algebraic (residuals x)) config rounds x =
      report id (Newton.iterate residuals config rounds x)
  | 0, _ => rfl
  | rounds + 1, x => by
      rw [newtonRun, Newton.iterate, report_bind, report_mapError]
      refine congrArg (Except.bind _) (funext fun fx => ?_)
      split
      · rfl
      · rw [advanceRun_eq, report_bind]
        refine congrArg (Except.bind _) (funext fun next => ?_)
        split
        · rfl
        · exact newtonRun_eq residuals config rounds next

theorem solveRun_eq [Numeral α] (registry : Registry α) (config : Config α)
    (context : Context α) (equations : List (List Char)) (guess : Vector α n) :
    solveRun registry config context equations guess =
      report id (Nonlinear.solve registry config context equations guess) := by
  rw [solveRun, Nonlinear.solve]
  split
  · rename_i square
    obtain ⟨rfl, positive, few⟩ := square
    rw [report_bind, report_mapError]
    refine congrArg (Except.bind _) (funext fun compiled => ?_)
    rw [funext (residualsRun_eq registry context compiled)]
    exact newtonRun_eq (residuals registry context compiled) config config.newtonRounds guess
  · rfl

end Calculator.Indexed
