import Calculator.Proofs.Indexed.Access
import Calculator.Proofs.Linear.SystemGrammar

/-!
Reading a system under row and column numbers.

The letters are numbered while the equations are read: a new letter gets the next number. The
terms of an equation then become cells of a row, whose coefficients are added to a matrix of
zeros. No number exceeds the count of all letters, since the list of numbered letters only
grows (`prefix_numberTerms`).
-/

namespace Calculator.Indexed

open Linear

variable {α : Type} [Arithmetic α] {m n : Nat}

/-! ### The loops -/

/-- The number of a letter, which is new if the letter is not in the list. -/
def columnOf (known : List Char) (letter : Char) : List Char × Nat :=
  if letter ∈ known then (known, known.idxOf letter)
  else (known ++ [letter], known.length)

/-- The letters after an equation, and the cells of its terms. -/
def numberTerms (known : List Char) :
    List (Term α) → List Char × List (Nat × α)
  | [] => (known, [])
  | term :: terms =>
      match term.letter with
      | none => numberTerms known terms
      | some letter =>
          let column := columnOf known letter
          let rest := numberTerms column.1 terms
          (rest.1, (column.2, term.coefficient) :: rest.2)

/-- The letters after some equations, and the cells of each. -/
def numberEquations (known : List Char) :
    List (Equation α) → List Char × List (List (Nat × α))
  | [] => (known, [])
  | equation :: equations =>
      let row := numberTerms known equation.terms
      let rest := numberEquations row.1 equations
      (rest.1, row.2 :: rest.2)

def addCell (row : Nat) (a : DenseMatrix α m n) (cell : Nat × α) : Run (DenseMatrix α m n) :=
  (fetch a row cell.1).bind fun x => store a row cell.1 (x + cell.2)

def addRows (rows : List (List (Nat × α))) (a : DenseMatrix α m n) :
    Run (DenseMatrix α m n) :=
  rows.zipIdx.foldlM (fun a row => row.1.foldlM (addCell row.2) a) a

/-- The system of some equations, whose letters and cells are given. -/
def collect (equations : List (Equation α)) (known : List Char)
    (rows : List (List (Nat × α))) : Run (System α) :=
  if square : known.length = equations.length then
    (addRows rows (.ofFn fun _ _ => 0)).map fun coefficients => {
      size := equations.length
      coefficients
      constants := .ofFn fun i => (equations.get i).constant
      unknowns := .ofFn fun j => known.get (j.cast square.symm) }
  else .error (.failed (.linear .unreadable))

def readSystemRun [Numeral α] (text : List Char) : Run (System α) :=
  match Text.nonemptyPieces (· == ';') (Text.removeBlanks text) with
  | [] => .error (.failed (.linear .unreadable))
  | pieces =>
      match pieces.mapM readEquation? with
      | none => .error (.failed (.linear .unreadable))
      | some equations =>
          let numbered := numberEquations [] equations
          collect equations numbered.1 numbered.2

/-! ### Numbers of letters -/

omit [Arithmetic α] in
theorem prefix_columnOf (known : List Char) (letter : Char) :
    known <+: (columnOf known letter).1 := by
  rw [columnOf]
  split
  · exact List.prefix_rfl
  · exact List.prefix_append _ _

omit [Arithmetic α] in
/-- The list of letters grows at its end. -/
theorem prefix_numberTerms (known : List Char) (terms : List (Term α)) :
    known <+: (numberTerms known terms).1 := by
  fun_induction numberTerms known terms with
  | case1 => exact List.prefix_rfl
  | case2 known term terms noLetter ih => exact ih
  | case3 known term terms letter hasLetter column rest ih =>
      exact (prefix_columnOf known letter).trans ih

omit [Arithmetic α] in
theorem prefix_numberEquations (known : List Char) (equations : List (Equation α)) :
    known <+: (numberEquations known equations).1 := by
  fun_induction numberEquations known equations with
  | case1 => exact List.prefix_rfl
  | case2 known equation equations row rest ih =>
      exact (prefix_numberTerms known equation.terms).trans ih

/-- The number of a letter is its place in the list of letters, however that list grows. -/
theorem columnOf_snd {known final : List Char} {letter : Char}
    (grown : (columnOf known letter).1 <+: final) :
    (columnOf known letter).2 = final.idxOf letter := by
  obtain ⟨later, rfl⟩ := grown
  rw [columnOf]
  split
  · rename_i known
    rw [List.idxOf_append_of_mem known]
  · rename_i new
    rw [List.append_assoc, List.idxOf_append_of_notMem new]
    simp

/-- The cells of terms whose letters have places in a list. -/
def cellsOf (final : List Char) (terms : List (Term α)) : List (Nat × α) :=
  terms.filterMap fun term => term.letter.map fun letter =>
    (final.idxOf letter, term.coefficient)

omit [Arithmetic α] in
theorem numberTerms_cells {known final : List Char} {terms : List (Term α)}
    (grown : (numberTerms known terms).1 <+: final) :
    (numberTerms known terms).2 = cellsOf final terms := by
  fun_induction numberTerms known terms with
  | case1 => rfl
  | case2 known term terms noLetter ih => simp [ih grown, cellsOf, noLetter]
  | case3 known term terms letter hasLetter column rest ih =>
      have place : column.2 = final.idxOf letter :=
        columnOf_snd ((prefix_numberTerms column.1 terms).trans grown)
      simp [rest, ih grown, cellsOf, hasLetter, place]

omit [Arithmetic α] in
theorem numberEquations_cells {known final : List Char} {equations : List (Equation α)}
    (grown : (numberEquations known equations).1 <+: final) :
    (numberEquations known equations).2 =
      equations.map fun equation => cellsOf final equation.terms := by
  fun_induction numberEquations known equations with
  | case1 => rfl
  | case2 known equation equations row rest ih =>
      have cells : row.2 = cellsOf final equation.terms :=
        numberTerms_cells ((prefix_numberEquations row.1 equations).trans grown)
      rw [List.map_cons, ← cells, ← ih grown]

/-! ### The letters are those of the equations -/

theorem columnOf_eraseDups (letters : List Char) (letter : Char) :
    (columnOf letters.eraseDups letter).1 = (letters ++ [letter]).eraseDups := by
  rw [columnOf, List.eraseDups_append]
  by_cases old : letter ∈ letters
  · simp [old, List.removeAll]
  · simp [old, List.removeAll, List.eraseDups_cons]

omit [Arithmetic α] in
theorem numberTerms_eraseDups (letters : List Char) (terms : List (Term α)) :
    (numberTerms letters.eraseDups terms).1 =
      (letters ++ terms.filterMap Term.letter).eraseDups := by
  induction terms generalizing letters with
  | nil => simp [numberTerms]
  | cons term terms ih =>
      rw [numberTerms]
      split
      · rename_i noLetter
        simp [ih, noLetter]
      · rename_i letter hasLetter
        simp [columnOf_eraseDups, ih, hasLetter]

omit [Arithmetic α] in
theorem numberEquations_eraseDups (letters : List Char) (equations : List (Equation α)) :
    (numberEquations letters.eraseDups equations).1 =
      (letters ++ equations.flatMap Equation.letters).eraseDups := by
  induction equations generalizing letters with
  | nil => simp [numberEquations]
  | cons equation equations ih =>
      rw [numberEquations]
      simp [numberTerms_eraseDups, ih, Equation.letters]

/-! ### Adding cells -/

/-- What the cells of a row add to an entry. -/
def addAll (cells : List (Nat × α)) (j : Nat) (x : α) : α :=
  cells.foldl (fun sum cell => if cell.1 = j then sum + cell.2 else sum) x

theorem addCells_withRow (a : DenseMatrix α m n) (i : Fin m) {cells : List (Nat × α)}
    (inside : ∀ cell ∈ cells, cell.1 < n) (u : Fin n → α) :
    cells.foldlM (addCell i) (withRow a i u) =
      .ok (withRow a i fun j => addAll cells j (u j)) := by
  -- A letter may stand in several terms, so an entry may be changed more than once.
  induction cells generalizing u with
  | nil => rfl
  | cons cell cells ih =>
      obtain ⟨column, x⟩ := cell
      obtain ⟨insideFirst, insideOthers⟩ := List.forall_mem_cons.mp inside
      let j : Fin n := ⟨column, insideFirst⟩
      have read : fetch (withRow a i u) i column = .ok (u j) := by
        rw [fetch_val _ i j, entry_withRow, if_pos rfl]
      have write (y : α) : store (withRow a i u) i column y =
          .ok (withRow a i (Function.update u j y)) := by
        rw [store_val _ i j, setEntry_withRow]
      have first : addCell i.val (withRow a i u) (column, x) =
          .ok (withRow a i (Function.update u j (u j + x))) := by
        simp only [addCell, read, write, Except.bind]
      rw [List.foldlM_cons, first]
      refine (ih insideOthers _).trans (congrArg (fun u => Except.ok (withRow a i u)) ?_)
      funext c
      rw [addAll, addAll, List.foldl_cons, Function.update_apply]
      congr 1
      simp only [Fin.ext_iff, eq_comm]
      grind

theorem addRows_eq {rows : Fin m → List (Nat × α)} {pairs : List (List (Nat × α) × Nat)}
    (numbered : pairs = (List.finRange m).map fun i => (rows i, i.val))
    (inside : ∀ i, ∀ cell ∈ rows i, cell.1 < n) (entries : Fin m → Fin n → α) :
    pairs.foldlM (fun a row => row.1.foldlM (addCell row.2) a) (DenseMatrix.ofFn entries) =
      .ok (DenseMatrix.ofFn fun i j => addAll (rows i) j (entries i j)) := by
  have each (entries : Fin m → Fin n → α) (i : Fin m) (_ : i ∈ List.finRange m) :
      (rows i).foldlM (addCell i) (DenseMatrix.ofFn entries) =
        .ok (DenseMatrix.ofFn (Function.update entries i fun j =>
          addAll (rows i) j (entries i j))) := by
    have row : withRow (.ofFn entries) i (entries i) = .ofFn entries := by
      rw [← funext (DenseMatrix.entry_ofFn entries i), withRow_self]
    rw [← row, addCells_withRow _ i (inside i), withRow_ofFn]
  rw [numbered, List.foldlM_map, foldlM_eq_ok_foldl DenseMatrix.ofFn each entries]
  refine congrArg (fun f => Except.ok (DenseMatrix.ofFn f)) (funext fun i => ?_)
  rw [foldl_update (List.nodup_finRange m) fun i u (j : Fin n) => addAll (rows i) j (u j),
    if_pos (List.mem_finRange i)]

/-! ### The run gives the result -/

theorem addAll_cellsOf {final : List Char} (nodup : final.Nodup) (equation : Equation α)
    (j : Fin final.length) :
    addAll (cellsOf final equation.terms) j 0 = equation.coefficientOf (final.get j) := by
  have place (letter : Char) : final.idxOf letter = j.val ↔ letter = final.get j := by
    constructor
    · intro same
      have found := List.getElem_idxOf (same.trans_lt j.isLt)
      simpa only [same, List.get_eq_getElem] using found.symm
    · rintro rfl
      exact List.get_idxOf nodup j
  rw [addAll, cellsOf, List.foldl_filterMap, Equation.coefficientOf]
  congr 1
  funext sum term
  cases term.letter with
  | none => simp
  | some letter => simp [place]

omit [Arithmetic α] in
theorem cellsOf_inside {final : List Char} {equation : Equation α}
    (known : ∀ letter ∈ equation.letters, letter ∈ final) :
    ∀ cell ∈ cellsOf final equation.terms, cell.1 < final.length := by
  intro cell mem
  obtain ⟨term, termMem, hasCell⟩ := List.mem_filterMap.mp mem
  obtain ⟨letter, hasLetter, rfl⟩ := Option.map_eq_some_iff.mp hasCell
  exact List.idxOf_lt_length_iff.mpr
    (known letter (List.mem_filterMap.mpr ⟨term, termMem, hasLetter⟩))

theorem collect_eq (equations : List (Equation α)) :
    collect equations (equations.flatMap Equation.letters).eraseDups
        (equations.map fun equation =>
          cellsOf (equations.flatMap Equation.letters).eraseDups equation.terms) =
      match System.ofEquations? equations with
      | some system => .ok system
      | none => .error (.failed (.linear .unreadable)) := by
  rw [collect, System.ofEquations?]
  split
  · rename_i square
    have numbered (cells : Equation α → List (Nat × α)) : (equations.map cells).zipIdx =
        (List.finRange equations.length).map fun i => (cells (equations.get i), i.val) := by
      apply List.ext_getElem
      · simp
      · simp
    have inside (i : Fin equations.length) : ∀ cell ∈ cellsOf
        (equations.flatMap Equation.letters).eraseDups (equations.get i).terms,
        cell.1 < equations.length := by
      rw [← square]
      exact cellsOf_inside fun letter mem => List.mem_eraseDups.mpr
        (List.mem_flatMap.mpr ⟨equations.get i, List.get_mem equations i, mem⟩)
    rw [addRows, addRows_eq (numbered _) inside]
    refine congrArg Except.ok ?_
    congr 2
    funext i j
    exact addAll_cellsOf (isFirstSeen_eraseDups _).nodup (equations.get i) (j.cast square.symm)
  · rfl

theorem readSystemRun_eq [Numeral α] (text : List Char) :
    readSystemRun text = report .linear (readSystem (α := α) text) := by
  rw [readSystemRun, readSystem]
  cases Text.nonemptyPieces (· == ';') (Text.removeBlanks text) with
  | nil => rfl
  | cons piece pieces =>
      simp only
      cases (piece :: pieces).mapM (readEquation? (α := α)) with
      | none => rfl
      | some equations =>
          have letters : (numberEquations [] equations).1 =
              (equations.flatMap Equation.letters).eraseDups :=
            numberEquations_eraseDups [] equations
          simp only [Option.bind]
          rw [numberEquations_cells List.prefix_rfl, letters, collect_eq]
          cases System.ofEquations? equations with
          | none => rfl
          | some system => rfl

end Calculator.Indexed
