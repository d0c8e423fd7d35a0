import Calculator.Proofs.Decimal.PlainNumber
import Calculator.Proofs.Linear.CommandWords
import Calculator.Proofs.Linear.MatrixGrammar

/-!
Reading the text of a matrix.

The brackets around the rows and around the whole are row breaks to the reader, and so are the
pairs of them that enclose no number. What is read back is the rows with an entry
(`readRows?_matrixText`); the main statement, `printed_matrices_read_back`, says this of
matrices and vectors of finite numbers, and of the commands that a printed matrix is given to.
-/

namespace Calculator.Linear

variable {α : Type} [Numeral α]

/-- The text of the number is a plain number, and is read as the number. -/
def WrittenPlainly (x : α) : Prop :=
  Decimal.IsPlainNumber (Numeral.write x) ∧ ReadsAs (Numeral.write x) x

/-! ### Items in brackets -/

/-- A comma and a blank between items are passed over. -/
theorem readCells?_comma (rest : List Char) :
    readCells? (α := α) ([',', ' '] ++ rest) = readCells? rest := by
  have separators : isSeparator ',' = true ∧ isSeparator ' ' = true := by decide
  rw [List.cons_append, readCells?_separator separators.1, List.cons_append,
    readCells?_separator separators.2, List.nil_append]

theorem readRows?_comma (rest : List Char) :
    readRows? (α := α) ([',', ' '] ++ rest) = readRows? rest := by
  rw [readRows?, readRows?, readCells?_comma]

theorem readRows?_nil : readRows? (α := α) [] = some [] := by
  rw [readRows?, readCells?]
  rfl

/-- The rows of a text in brackets stand in front of those of what follows. -/
theorem readRows?_enclosed (inside rest : List Char) :
    readRows? (α := α) ('[' :: inside ++ ']' :: rest) =
      (readRows? inside).bind fun rows => (readRows? rest).map (rows ++ ·) := by
  have opening := readRows?_append_cons (α := α) (c := '[') rfl [] (inside ++ ']' :: rest)
  rw [readRows?_nil, Option.bind_some] at opening
  rw [← readRows?_append_cons (c := ']') rfl]
  simpa using opening

/-- Numbers with a comma and a blank between them are read in their order. -/
theorem readCells?_intercalate {row : List α} (plain : ∀ x ∈ row, WrittenPlainly x) :
    readCells? (List.intercalate [',', ' '] (row.map Numeral.write)) = some (row.map some) := by
  induction row with
  | nil =>
      rw [List.map_nil, List.intercalate_nil, readCells?]
      rfl
  | cons x row ih =>
      obtain ⟨⟨isNumber, reads⟩, plain⟩ := List.forall_mem_cons.mp plain
      cases row with
      | nil =>
          have longest : IsLongestNumber (Numeral.write x) [] :=
            isLongestNumber_of_stop isNumber (by simp)
          have alone := readCells?_number (α := α) longest
          rw [List.append_nil, reads, readCells?] at alone
          simpa using alone
      | cons y row =>
          have longest (rest : List Char) :
              IsLongestNumber (Numeral.write x) ([',', ' '] ++ rest) :=
            isLongestNumber_of_stop isNumber (by simp)
          rw [List.map_cons, List.map_cons, List.intercalate_cons_cons, ← List.map_cons,
            List.append_assoc, readCells?_number (longest _), reads, readCells?_comma, ih plain]
          rfl

theorem readRows?_vectorText {row : List α} (plain : ∀ x ∈ row, WrittenPlainly x)
    (rest : List Char) :
    readRows? (Value.vectorText Numeral.write row ++ rest) =
      (readRows? rest).map (asRow row ++ ·) := by
  rw [Value.vectorText, Value.bracketed, List.append_assoc, List.singleton_append,
    readRows?_enclosed, readRows?, readCells?_intercalate plain, Option.map_some,
    rowsOfCells_map_some, Option.bind_some]

/-- What is read back from the text of a matrix is its rows with an entry. -/
theorem readRows?_matrixText {rows : List (List α)}
    (plain : ∀ row ∈ rows, ∀ x ∈ row, WrittenPlainly x) :
    readRows? (Value.matrixText Numeral.write rows) = some (rows.flatMap asRow) := by
  have inside : readRows? (List.intercalate [',', ' ']
      (rows.map (Value.vectorText Numeral.write))) = some (rows.flatMap asRow) := by
    induction rows with
    | nil => exact readRows?_nil
    | cons row rows ih =>
        obtain ⟨first, plain⟩ := List.forall_mem_cons.mp plain
        cases rows with
        | nil =>
            have alone := readRows?_vectorText first []
            rw [List.append_nil, readRows?_nil] at alone
            simpa using alone
        | cons next rows =>
            rw [List.map_cons, List.map_cons, List.intercalate_cons_cons, ← List.map_cons,
              List.append_assoc, readRows?_vectorText first, readRows?_comma, ih plain]
            rfl
  rw [Value.matrixText, Value.bracketed, readRows?_enclosed, inside, readRows?_nil]
  simp

/-! ### Matrices and vectors -/

theorem asRow_of_ne_nil {β : Type} {row : List β} (nonempty : row ≠ []) : asRow row = [row] := by
  simp [asRow, nonempty]

theorem flatMap_asRow {β : Type} {rows : List (List β)} (nonempty : ∀ row ∈ rows, row ≠ []) :
    rows.flatMap asRow = rows := by
  rw [List.flatMap_congr fun row mem => asRow_of_ne_nil (nonempty row mem)]
  exact List.flatMap_singleton' rows

/-- A matrix is read back from its text, if it has an entry and its entries are written
plainly. -/
theorem readMatrix_matrix {m n : Nat} {a : DenseMatrix α m n} (rows : 0 < m) (columns : 0 < n)
    (plain : ∀ i j, WrittenPlainly (a.entry i j)) :
    readMatrix (Value.matrix a).text = .ok ⟨m, n, a⟩ := by
  have nonempty : ∀ row ∈ a.toRows, row ≠ [] := fun row mem =>
    List.ne_nil_of_length_pos ((length_of_mem_toRows row mem).symm ▸ columns)
  have eachPlain : ∀ row ∈ a.toRows, ∀ x ∈ row, WrittenPlainly x := by
    simpa [DenseMatrix.toRows, List.forall_mem_ofFn_iff] using plain
  refine readMatrix_eq_ok_iff.mpr ⟨?_, ?_⟩
  · refine List.ne_nil_of_length_pos ?_
    rwa [DenseMatrix.toRows, List.length_ofFn]
  · rw [Value.text, readRows?_matrixText eachPlain, flatMap_asRow nonempty]

/-- A vector is read back from its text as a matrix of one row. -/
theorem readMatrix_vector {n : Nat} {v : Vector α n} (entries : 0 < n)
    (plain : ∀ j, WrittenPlainly (v.get j)) :
    readMatrix (Value.vector v).text = .ok ⟨1, n, .ofFn fun _ j => v.get j⟩ := by
  have asList : (DenseMatrix.ofFn fun (_ : Fin 1) j => v.get j).toRows = [v.toList] := by
    simp [DenseMatrix.toRows, System.toList_eq_ofFn]
  have nonempty : v.toList ≠ [] := List.ne_nil_of_length_pos (by rwa [Vector.length_toList])
  have eachPlain : ∀ x ∈ v.toList, WrittenPlainly x := by
    rw [System.toList_eq_ofFn]
    exact (List.forall_mem_ofFn_iff).mpr plain
  have read := readRows?_vectorText eachPlain []
  rw [List.append_nil, readRows?_nil, Option.map_some, asRow_of_ne_nil nonempty] at read
  refine readMatrix_eq_ok_iff.mpr ⟨?_, ?_⟩
  · rw [asList]
    exact List.cons_ne_nil _ _
  · rw [asList, Value.text, read]
    rfl

/-! ### Commands on a printed matrix -/

/-- A text in brackets has no blank at either end. -/
theorem trim_bracketed (items : List (List Char)) :
    Text.trim (Value.bracketed items) = Value.bracketed items := by
  have visible : Text.isBlank '[' = false ∧ Text.isBlank ']' = false := by decide
  refine Text.trim_of_ends (by simpa [Value.bracketed] using visible.1) fun c last => ?_
  rw [Value.bracketed, List.getLast?_concat] at last
  exact Option.some.inj last ▸ visible.2

theorem respond_matrix [Arithmetic α] (config : Config α) (text : List Char) :
    respond config ("qr ".toList ++ text) = orthogonalFactor config (Text.trim text) ∧
    respond config ("ortho ".toList ++ text) = orthogonalFactor config (Text.trim text) ∧
    respond config ("eigen ".toList ++ text) = eigenvalueEstimates config (Text.trim text) := by
  have qr : "qr".toList ∈ commandWords := by simp [commandWords]
  have ortho : "ortho".toList ∈ commandWords := by simp [commandWords]
  have eigen : "eigen".toList ∈ commandWords := by simp [commandWords]
  refine ⟨?_, ?_, ?_⟩
  · change respond config ("qr".toList ++ ' ' :: text) = _
    rw [respond, commandArgument?_commandWord qr qr, if_pos rfl, Option.some_or]
  · change respond config ("ortho".toList ++ ' ' :: text) = _
    rw [respond, commandArgument?_commandWord qr ortho, if_neg (by simp), Option.none_or,
      commandArgument?_commandWord ortho ortho, if_pos rfl]
  · change respond config ("eigen".toList ++ ' ' :: text) = _
    rw [respond, commandArgument?_commandWord qr eigen, if_neg (by simp), Option.none_or,
      commandArgument?_commandWord ortho eigen, if_neg (by simp),
      commandArgument?_commandWord eigen eigen, if_pos rfl]

theorem writtenPlainly_of_isFinite {x : Float} (finite : Arithmetic.isFinite x = true) :
    WrittenPlainly x :=
  ⟨Double.isPlainNumber_write finite, Double.read?_write x⟩

/-- A matrix of finite numbers that has an entry is read back from its text, and a vector as a
matrix of one row. So the text of a matrix may be given to a command in place of the matrix. -/
theorem printed_matrices_read_back :
    (∀ (m n : Nat) (a : DenseMatrix Float m n), 0 < m → 0 < n →
      (∀ i j, Arithmetic.isFinite (a.entry i j) = true) →
        readMatrix (Value.matrix a).text = .ok ⟨m, n, a⟩ ∧
        ∀ config : Config Float,
          respond config ("qr ".toList ++ (Value.matrix a).text) =
            (gramSchmidt a config.pivotTolerance).map (fun factors => .matrix factors.q) ∧
          respond config ("ortho ".toList ++ (Value.matrix a).text) =
            (gramSchmidt a config.pivotTolerance).map (fun factors => .matrix factors.q) ∧
          respond config ("eigen ".toList ++ (Value.matrix a).text) =
            (eigenvalues a config.eigenvalueRounds config.pivotTolerance).map .vector) ∧
    ∀ (n : Nat) (v : Vector Float n), 0 < n → (∀ j, Arithmetic.isFinite (v.get j) = true) →
      readMatrix (Value.vector v).text = .ok ⟨1, n, .ofFn fun _ j => v.get j⟩ := by
  refine ⟨fun m n a rows columns finite => ?_, fun n v entries finite =>
    readMatrix_vector entries fun j => writtenPlainly_of_isFinite (finite j)⟩
  have read := readMatrix_matrix rows columns fun i j => writtenPlainly_of_isFinite (finite i j)
  have trimmed : Text.trim (Value.matrix a).text = (Value.matrix a).text := trim_bracketed _
  refine ⟨read, fun config => ?_⟩
  have answers := respond_matrix config (Value.matrix a).text
  rw [trimmed, orthogonalFactor, eigenvalueEstimates, read] at answers
  exact answers

/-- Signs and fractions are read back, in a matrix of two rows and in a vector. -/
theorem printed_matrices_read_back_signed :
    let a : DenseMatrix Float 2 2 := .ofFn fun i j => if i = j then 2 else -1 / 4
    let v : Vector Float 2 := #v[-0, 3]
    (Value.matrix a).text = "[[2, -0.25], [-0.25, 2]]".toList ∧
    (∀ i j, Arithmetic.isFinite (a.entry i j) = true) ∧
    readMatrix (Value.matrix a).text = .ok ⟨2, 2, a⟩ ∧
    (∀ j, Arithmetic.isFinite (v.get j) = true) ∧
    readMatrix (Value.vector v).text = .ok ⟨1, 2, .ofFn fun _ j => v.get j⟩ := by
  intro a v
  have finite : ∀ i j, Arithmetic.isFinite (a.entry i j) = true := by decide +kernel
  have finite' : ∀ j, Arithmetic.isFinite (v.get j) = true := by decide +kernel
  exact ⟨by decide +kernel, finite,
    (printed_matrices_read_back.1 2 2 a (by decide) (by decide) finite).1, finite',
    printed_matrices_read_back.2 2 v (by decide) finite'⟩

end Calculator.Linear
