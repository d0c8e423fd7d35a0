import Calculator.Proofs.Linear.SystemGrammar

/-!
The order in which the columns of a system are met.

The text of a system shows the entries that are not zero, row by row and from left to right,
and a reader numbers the unknowns as they come. `isFirstSeen_iff` says when that gives the
columns of the system: exactly if every column is met, and no column is met after one that
stands further to the right.
-/

namespace Calculator.Linear

variable {α : Type} [Arithmetic α]

/-! ### The columns as they are met -/

namespace System

/-- The entry is not zero, and all above it in its column are. -/
structure IsFirst (system : System α) (i j : Fin system.size) : Prop where
  nonzero : (system.coefficients.entry i j == 0) = false
  above : ∀ k < i, (system.coefficients.entry k j == 0) = true

/-- Reading the entries row by row and from left to right, every column is met, and the
columns are met in their order: a column further to the left begins in a row above, or in the
same row. -/
structure MetInOrder (system : System α) : Prop where
  exists_first : ∀ j, ∃ i, system.IsFirst i j
  ordered : ∀ {i i' j j'}, system.IsFirst i j → system.IsFirst i' j' → j < j' → i ≤ i'

instance (system : System α) (i j : Fin system.size) : Decidable (system.IsFirst i j) :=
  decidable_of_iff ((system.coefficients.entry i j == 0) = false ∧
    ∀ k < i, (system.coefficients.entry k j == 0) = true)
    ⟨fun ⟨nonzero, above⟩ => ⟨nonzero, above⟩, fun ⟨nonzero, above⟩ => ⟨nonzero, above⟩⟩

instance (system : System α) : Decidable system.MetInOrder :=
  decidable_of_iff ((∀ j, ∃ i, system.IsFirst i j) ∧
    ∀ i i' j j', system.IsFirst i j → system.IsFirst i' j' → j < j' → i ≤ i')
    ⟨fun ⟨exists_first, ordered⟩ => ⟨exists_first, ordered _ _ _ _⟩,
      fun ⟨exists_first, ordered⟩ => ⟨exists_first, fun _ _ _ _ => ordered⟩⟩

/-- No unknown stands for two columns. -/
def HasDistinctUnknowns (system : System α) : Prop :=
  Function.Injective system.unknowns.get

variable {system : System α}

/-- The letters that are written for some columns of a row. -/
def lettersAt (system : System α) (i : Fin system.size) (columns : List (Fin system.size)) :
    List Char :=
  (columns.filter fun j => !(system.coefficients.entry i j == 0)).map system.unknowns.get

/-- The letters of a system's text, in the order in which they are written. -/
def writtenLetters (system : System α) : List Char :=
  (List.finRange system.size).flatMap fun i => system.lettersAt i (List.finRange system.size)

theorem mem_lettersAt {i : Fin system.size} {columns : List (Fin system.size)} {c : Char} :
    c ∈ system.lettersAt i columns ↔ ∃ j ∈ columns,
      (system.coefficients.entry i j == 0) = false ∧ system.unknowns.get j = c := by
  simp [lettersAt, and_assoc]

theorem mem_writtenLetters {c : Char} : c ∈ system.writtenLetters ↔
    ∃ i j, (system.coefficients.entry i j == 0) = false ∧ system.unknowns.get j = c := by
  simp [writtenLetters, mem_lettersAt]

/-- What stands in front of a number of a range is smaller. -/
theorem finRange_split {n : Nat} (i : Fin n) : ∃ before behind,
    List.finRange n = before ++ i :: behind ∧ ∀ k ∈ before, k < i := by
  obtain ⟨before, behind, split⟩ := List.append_of_mem (List.mem_finRange i)
  have sorted := List.pairwise_lt_finRange n
  rw [split, List.pairwise_append] at sorted
  exact ⟨before, behind, split, fun k mem => sorted.2.2 k mem i List.mem_cons_self⟩

/-- In front of the letter of an entry stand letters of entries that come before it. -/
theorem writtenLetters_split {i j : Fin system.size}
    (nonzero : (system.coefficients.entry i j == 0) = false) : ∃ before behind,
    system.writtenLetters = before ++ system.unknowns.get j :: behind ∧
      ∀ c ∈ before, ∃ i' j', (system.coefficients.entry i' j' == 0) = false ∧
        system.unknowns.get j' = c ∧ (i' < i ∨ i' = i ∧ j' < j) := by
  obtain ⟨rows, rowsBehind, splitRows, above⟩ := finRange_split i
  obtain ⟨columns, columnsBehind, splitColumns, left⟩ := finRange_split j
  have row : system.lettersAt i (List.finRange system.size) =
      system.lettersAt i columns ++
        system.unknowns.get j :: system.lettersAt i columnsBehind := by
    simp [lettersAt, splitColumns, nonzero]
  refine ⟨rows.flatMap (fun i => system.lettersAt i (List.finRange system.size)) ++
    system.lettersAt i columns, system.lettersAt i columnsBehind ++
      rowsBehind.flatMap fun i => system.lettersAt i (List.finRange system.size), ?_, ?_⟩
  · have whole : ∀ letters : Fin system.size → List Char,
        (List.finRange system.size).flatMap letters =
          rows.flatMap letters ++ (letters i ++ rowsBehind.flatMap letters) := by
      intro letters
      rw [splitRows, List.flatMap_append, List.flatMap_cons]
    rw [writtenLetters, whole, row]
    simp
  · intro c mem
    rcases List.mem_append.mp mem with inRows | inRow
    · obtain ⟨i', inRows, mem⟩ := List.mem_flatMap.mp inRows
      obtain ⟨j', -, nonzero', same⟩ := mem_lettersAt.mp mem
      exact ⟨i', j', nonzero', same, .inl (above i' inRows)⟩
    · obtain ⟨j', inColumns, nonzero', same⟩ := mem_lettersAt.mp inRow
      exact ⟨i, j', nonzero', same, .inr ⟨rfl, left j' inColumns⟩⟩

/-- Of two letters, the one that is met first is the one with the smaller index. -/
theorem idxOf_lt_of_append {letters before behind : List Char} {c d : Char}
    (split : letters = before ++ c :: behind) (other : c ≠ d) (firstC : c ∉ before)
    (firstD : d ∉ before) : letters.idxOf c < letters.idxOf d := by
  rw [split, List.idxOf_append_of_notMem firstC, List.idxOf_append_of_notMem firstD,
    List.idxOf_cons_self, List.idxOf_cons_ne _ other]
  omega

/-- The first entry that is not zero stands above all others of its column. -/
theorem IsFirst.le {i k j : Fin system.size} (first : system.IsFirst i j)
    (nonzero : (system.coefficients.entry k j == 0) = false) : i ≤ k := by
  refine not_lt.mp fun above => ?_
  rw [first.above k above] at nonzero
  cases nonzero

/-- The column that is met first has the letter that is written first. -/
theorem IsFirst.idxOf_lt {i i' j j' : Fin system.size} (distinct : system.HasDistinctUnknowns)
    (first : system.IsFirst i j) (first' : system.IsFirst i' j')
    (before : i < i' ∨ i = i' ∧ j < j') :
    system.writtenLetters.idxOf (system.unknowns.get j) <
      system.writtenLetters.idxOf (system.unknowns.get j') := by
  obtain ⟨front, behind, split, inFront⟩ := writtenLetters_split first.nonzero
  apply idxOf_lt_of_append split
  · intro same
    obtain rfl := distinct same
    have least := first'.le first.nonzero
    omega
  · intro mem
    obtain ⟨r, k, nonzero, same, earlier⟩ := inFront _ mem
    obtain rfl := distinct same
    have least := first.le nonzero
    omega
  · intro mem
    obtain ⟨r, k, nonzero, same, earlier⟩ := inFront _ mem
    obtain rfl := distinct same
    have least := first'.le nonzero
    omega

omit [Arithmetic α] in
theorem toList_eq_ofFn {β : Type} {n : Nat} (v : Vector β n) : v.toList = List.ofFn v.get := by
  apply List.ext_getElem
  · simp
  · intro k inside inside'
    simp [Vector.get]

omit [Arithmetic α] in
theorem toList_unknowns (system : System α) :
    system.unknowns.toList = (List.finRange system.size).map system.unknowns.get := by
  rw [toList_eq_ofFn, List.ofFn_eq_map]

omit [Arithmetic α] in
theorem get_mem_unknowns (j : Fin system.size) :
    system.unknowns.get j ∈ system.unknowns.toList := by
  rw [toList_unknowns]
  exact List.mem_map_of_mem (List.mem_finRange j)

/-- A column with an entry that is not zero has a first one. -/
theorem exists_isFirst {i j : Fin system.size}
    (nonzero : (system.coefficients.entry i j == 0) = false) : ∃ i, system.IsFirst i j := by
  obtain ⟨least, leastNonzero, below⟩ := WellFounded.has_min (wellFounded_lt (α := Fin _))
    {i | (system.coefficients.entry i j == 0) = false} ⟨i, nonzero⟩
  exact ⟨least, leastNonzero, fun k above => Bool.of_not_eq_false fun nonzero =>
    below k nonzero above⟩

/-- In the letters of the text, a column further to the left comes first. -/
theorem MetInOrder.idxOf_lt (inOrder : system.MetInOrder)
    (distinct : system.HasDistinctUnknowns) {j j' : Fin system.size} (left : j < j') :
    system.writtenLetters.idxOf (system.unknowns.get j) <
      system.writtenLetters.idxOf (system.unknowns.get j') := by
  obtain ⟨i, first⟩ := inOrder.exists_first j
  obtain ⟨i', first'⟩ := inOrder.exists_first j'
  apply first.idxOf_lt distinct first'
  rcases lt_or_eq_of_le (inOrder.ordered first first' left) with above | same
  · exact .inl above
  · exact .inr ⟨same, left⟩

theorem MetInOrder.isFirstSeen (inOrder : system.MetInOrder)
    (distinct : system.HasDistinctUnknowns) :
    IsFirstSeen system.writtenLetters system.unknowns.toList := by
  constructor
  · intro c
    rw [mem_writtenLetters]
    constructor
    · intro mem
      rw [toList_unknowns] at mem
      obtain ⟨j, -, rfl⟩ := List.mem_map.mp mem
      obtain ⟨i, first⟩ := inOrder.exists_first j
      exact ⟨i, j, first.nonzero, rfl⟩
    · rintro ⟨i, j, -, rfl⟩
      exact get_mem_unknowns j
  · rw [toList_unknowns, List.pairwise_map]
    exact (List.pairwise_lt_finRange _).imp fun left => inOrder.idxOf_lt distinct left

theorem metInOrder_of_isFirstSeen (distinct : system.HasDistinctUnknowns)
    (firstSeen : IsFirstSeen system.writtenLetters system.unknowns.toList) :
    system.MetInOrder := by
  obtain ⟨mem_iff, ordered⟩ := firstSeen
  constructor
  · intro j
    obtain ⟨i, j', nonzero, same⟩ :=
      mem_writtenLetters.mp ((mem_iff _).mp (get_mem_unknowns j))
    obtain rfl := distinct same
    exact exists_isFirst nonzero
  · intro i i' j j' first first' left
    rw [toList_unknowns, List.pairwise_map] at ordered
    have earlier := List.pairwise_iff_getElem.mp ordered j j' (by simp) (by simp) left
    simp only [List.getElem_finRange, Fin.cast_mk, Fin.eta] at earlier
    refine not_lt.mp fun below => ?_
    exact Nat.lt_asymm earlier (first'.idxOf_lt distinct first (.inl below))

/-- The letters of the text come in the order of the columns exactly if the columns are met
in their order. -/
theorem isFirstSeen_iff (distinct : system.HasDistinctUnknowns) :
    IsFirstSeen system.writtenLetters system.unknowns.toList ↔ system.MetInOrder :=
  ⟨metInOrder_of_isFirstSeen distinct, fun inOrder => inOrder.isFirstSeen distinct⟩

end System

end Calculator.Linear
