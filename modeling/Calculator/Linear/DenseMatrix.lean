import Calculator.Number.Arithmetic

/-!
Matrices of a fixed shape.

A matrix is given by its entries: every operation says by a formula what the entry in a
row and a column is, and `entry_ofFn` reads that formula back. The entries are stored, so
a matrix is computed once.
-/

namespace Calculator.Linear

@[simp] theorem get_ofFn {β : Type} {n : Nat} (f : Fin n → β) (i : Fin n) :
    (Vector.ofFn f).get i = f i :=
  Vector.getElem_ofFn i.isLt

/-- The sum of the terms from left to right; it starts with the first term. -/
def sumTerms {α : Type} [Arithmetic α] : {n : Nat} → (Fin n → α) → α
  | 0, _ => 0
  | n + 1, term => Fin.foldl n (fun sum i => sum + term i.succ) (term 0)

/-- A matrix of `rows` rows and `columns` columns, stored by rows. -/
structure DenseMatrix (α : Type) (rows columns : Nat) where
  cells : Vector (Vector α columns) rows

namespace DenseMatrix

variable {α : Type} {m n k : Nat}

def entry (a : DenseMatrix α m n) (i : Fin m) (j : Fin n) : α :=
  (a.cells.get i).get j

def ofFn (f : Fin m → Fin n → α) : DenseMatrix α m n :=
  ⟨Vector.ofFn fun i => Vector.ofFn fun j => f i j⟩

@[simp] theorem entry_ofFn (f : Fin m → Fin n → α) (i : Fin m) (j : Fin n) :
    (ofFn f).entry i j = f i j := by
  simp [entry, ofFn]

/-- Matrices with the same entries are equal. -/
theorem ext_entry {a b : DenseMatrix α m n} (same : ∀ i j, a.entry i j = b.entry i j) :
    a = b := by
  cases a; cases b
  congr 1
  refine Vector.ext fun i hi => Vector.ext fun j hj => ?_
  exact same ⟨i, hi⟩ ⟨j, hj⟩

@[simp] theorem ofFn_entry (a : DenseMatrix α m n) : ofFn a.entry = a :=
  ext_entry fun i j => by simp

/-! ### Parts of a matrix -/

def column (a : DenseMatrix α m n) (j : Fin n) : Vector α m :=
  Vector.ofFn fun i => a.entry i j

def diagonal (a : DenseMatrix α n n) : Vector α n :=
  Vector.ofFn fun i => a.entry i i

/-- The index among `n + 1` of the one numbered `k` when `removed` is left out. -/
def skip (removed : Fin (n + 1)) (k : Fin n) : Fin (n + 1) :=
  if k.castSucc < removed then k.castSucc else k.succ

/-- The matrix without one row and one column. -/
def minor (a : DenseMatrix α (m + 1) (n + 1)) (i : Fin (m + 1)) (j : Fin (n + 1)) :
    DenseMatrix α m n :=
  ofFn fun r c => a.entry (skip i r) (skip j c)

def replaceColumn (a : DenseMatrix α m n) (j : Fin n) (replacement : Vector α m) :
    DenseMatrix α m n :=
  ofFn fun r c => if c = j then replacement.get r else a.entry r c

def appendColumn (a : DenseMatrix α m n) (b : Vector α m) : DenseMatrix α m (n + 1) :=
  ofFn fun r c => if inside : c.val < n then a.entry r ⟨c.val, inside⟩ else b.get r

def toRows (a : DenseMatrix α m n) : List (List α) :=
  List.ofFn fun i => List.ofFn fun j => a.entry i j

/-- The matrix of a list of rows that has the right shape. -/
def ofRows (rows : List (List α)) (rowCount : rows.length = m)
    (columnCount : ∀ row ∈ rows, row.length = n) : DenseMatrix α m n :=
  ofFn fun i j =>
    let row := rows.get (i.cast rowCount.symm)
    row.get (j.cast (columnCount row (List.get_mem ..)).symm)

/-- The product of two matrices; the products of an entry are added from left to right. A
numerical library may group a longer sum differently, so its last digit is not promised. -/
def mul [Arithmetic α] (a : DenseMatrix α m n) (b : DenseMatrix α n k) : DenseMatrix α m k :=
  ofFn fun i j => sumTerms fun l => a.entry i l * b.entry l j

end DenseMatrix

structure AnyMatrix (α : Type) where
  rows : Nat
  columns : Nat
  matrix : DenseMatrix α rows columns

/-- The matrix of a list of rows, if they have one length. No rows make the matrix without
rows and columns. -/
def AnyMatrix.ofRows? {α : Type} (rows : List (List α)) : Option (AnyMatrix α) :=
  let columns := (rows.head?.map List.length).getD 0
  if sameLength : ∀ row ∈ rows, row.length = columns then
    some ⟨rows.length, columns, .ofRows rows rfl sameLength⟩
  else none

/-! ### Vectors -/

section Vectors

variable {α : Type} [Arithmetic α] {n : Nat}

/-- The inner product of two vectors; the products are added to zero from left to right. A
numerical library may group a longer sum differently, so its last digit is not promised. -/
def dot (u v : Vector α n) : α :=
  Fin.foldl n (fun sum i => sum + u.get i * v.get i) 0

def norm (v : Vector α n) : α :=
  Arithmetic.sqrt (dot v v)

end Vectors

end Calculator.Linear
