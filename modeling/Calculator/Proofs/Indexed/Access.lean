import Calculator.Failure
import Calculator.Proofs.Linear.Matrix
import Mathlib.Data.List.FinRange
import Mathlib.Logic.Function.Basic

/-!
Matrices under row and column numbers.

The solvers of the library compute with positions that exist. The modules beside this one
write them once more as loops over plain numbers that read and write cells in place; there a
number may lie outside, and then the run stops (`Stop.outOfRange`). Every such run is proved
to give what the solver gives, so none of its numbers lies outside.

Here are the accesses, what they do at a position that exists, and how a loop over numbers
becomes a loop over positions (`foldlM_span`).
-/

namespace Calculator.Indexed

open Linear

/-! ### Runs -/

/-- What ends a run without a result: a number outside of a matrix or a vector, or inside a
character of a text, or a failure that is reported. -/
inductive Stop where
  | outOfRange
  | failed (cause : Failure)
  deriving DecidableEq, Repr

abbrev Run (β : Type) := Except Stop β

section Results

variable {ε β γ : Type}

/-- The run of a computation that uses no number; its failures are reported. -/
def report (cause : ε → Failure) (result : Except ε β) : Run β :=
  result.mapError fun e => .failed (cause e)

theorem report_bind (cause : ε → Failure) (result : Except ε β) (next : β → Except ε γ) :
    report cause (result.bind next) =
      (report cause result).bind fun x => report cause (next x) := by
  cases result with
  | error e => rfl
  | ok x => rfl

theorem report_map (cause : ε → Failure) (result : Except ε β) (f : β → γ) :
    report cause (result.map f) = (report cause result).map f := by
  cases result with
  | error e => rfl
  | ok x => rfl

theorem report_mapError (cause : ε → Failure) (result : Except ε β) :
    report id (result.mapError cause) = report cause result := by
  cases result with
  | error e => rfl
  | ok x => rfl

theorem report_ne_outOfRange (cause : ε → Failure) (result : Except ε β) :
    report cause result ≠ .error .outOfRange := by
  cases result with
  | error e => exact fun same => nomatch same
  | ok x => exact fun same => nomatch same

end Results

/-! ### Accesses -/

section Accesses

variable {α : Type} {m n k : Nat}

def setEntry (a : DenseMatrix α m n) (i : Fin m) (j : Fin n) (x : α) : DenseMatrix α m n :=
  .ofFn fun r c => if r = i ∧ c = j then x else a.entry r c

def fetch (a : DenseMatrix α m n) (row column : Nat) : Run α :=
  if inside : row < m ∧ column < n then
    .ok (a.entry ⟨row, inside.1⟩ ⟨column, inside.2⟩)
  else .error .outOfRange

def store (a : DenseMatrix α m n) (row column : Nat) (x : α) : Run (DenseMatrix α m n) :=
  if inside : row < m ∧ column < n then
    .ok (setEntry a ⟨row, inside.1⟩ ⟨column, inside.2⟩ x)
  else .error .outOfRange

def fetchColumn (a : DenseMatrix α m n) (column : Nat) : Run (Vector α m) :=
  if inside : column < n then .ok (a.column ⟨column, inside⟩) else .error .outOfRange

/-- Write a column, which has to have the length of the others. -/
def storeColumn (a : DenseMatrix α m n) (column : Nat) (v : Vector α k) :
    Run (DenseMatrix α m n) :=
  if inside : column < n ∧ k = m then
    .ok (a.replaceColumn ⟨column, inside.1⟩ (v.cast inside.2))
  else .error .outOfRange

def fetchAt (v : Vector α n) (index : Nat) : Run α :=
  if inside : index < n then .ok (v.get ⟨index, inside⟩) else .error .outOfRange

def storeAt (v : Vector α n) (index : Nat) (x : α) : Run (Vector α n) :=
  if inside : index < n then .ok (.ofFn fun i => if i = ⟨index, inside⟩ then x else v.get i)
  else .error .outOfRange

@[simp] theorem fetch_val (a : DenseMatrix α m n) (i : Fin m) (j : Fin n) :
    fetch a i j = .ok (a.entry i j) :=
  dif_pos ⟨i.isLt, j.isLt⟩

@[simp] theorem store_val (a : DenseMatrix α m n) (i : Fin m) (j : Fin n) (x : α) :
    store a i j x = .ok (setEntry a i j x) :=
  dif_pos ⟨i.isLt, j.isLt⟩

@[simp] theorem fetchColumn_val (a : DenseMatrix α m n) (j : Fin n) :
    fetchColumn a j = .ok (a.column j) :=
  dif_pos j.isLt

@[simp] theorem storeColumn_val (a : DenseMatrix α m n) (j : Fin n) (v : Vector α m) :
    storeColumn a j v = .ok (a.replaceColumn j v) :=
  dif_pos ⟨j.isLt, rfl⟩

@[simp] theorem fetchAt_val (v : Vector α n) (i : Fin n) : fetchAt v i = .ok (v.get i) :=
  dif_pos i.isLt

@[simp] theorem storeAt_val (v : Vector α n) (i : Fin n) (x : α) :
    storeAt v i x = .ok (.ofFn fun l => if l = i then x else v.get l) :=
  dif_pos i.isLt

@[simp] theorem entry_setEntry (a : DenseMatrix α m n) (i r : Fin m) (j c : Fin n) (x : α) :
    (setEntry a i j x).entry r c = if r = i ∧ c = j then x else a.entry r c := by
  simp [setEntry]

@[simp] theorem entry_replaceColumn (a : DenseMatrix α m n) (j c : Fin n) (v : Vector α m)
    (r : Fin m) : (a.replaceColumn j v).entry r c = if c = j then v.get r else a.entry r c := by
  simp [DenseMatrix.replaceColumn]

end Accesses

/-! ### Loops -/

section Loops

variable {ε ι σ τ : Type}

/-- The numbers from `start` up to `stop`, without `stop`. -/
def span (start stop : Nat) : List Nat :=
  List.range' start (stop - start)

def positionsFrom (start n : Nat) : List (Fin n) :=
  (List.finRange n).filter fun i => start ≤ i.val

theorem mem_positionsFrom {start n : Nat} {i : Fin n} :
    i ∈ positionsFrom start n ↔ start ≤ i.val := by
  simp [positionsFrom]

theorem nodup_positionsFrom (start n : Nat) : (positionsFrom start n).Nodup :=
  (List.nodup_finRange n).filter _

theorem span_eq_filter (start n : Nat) :
    span start n = (List.range n).filter fun i => start ≤ i := by
  rw [span]
  induction n with
  | zero => simp
  | succ n ih =>
      rw [List.range_succ, List.filter_append, ← ih]
      by_cases reached : start ≤ n
      · have last : n + 1 - start = n - start + 1 := Nat.succ_sub reached
        rw [last, List.range'_concat, Nat.one_mul, Nat.add_sub_cancel' reached]
        simp [reached]
      · have nothing : n + 1 - start = 0 ∧ n - start = 0 := by omega
        simp [reached, nothing]

theorem span_eq_map (start n : Nat) : span start n = (positionsFrom start n).map Fin.val := by
  rw [span_eq_filter, positionsFrom, ← List.map_coe_finRange_eq_range, List.filter_map]
  rfl

/-- A loop over numbers below `n` is a loop over positions. -/
theorem foldlM_span (body : σ → Nat → Except ε σ) (start n : Nat) (s : σ) :
    (span start n).foldlM body s =
      (positionsFrom start n).foldlM (fun s i => body s i.val) s := by
  rw [span_eq_map, List.foldlM_map]

theorem foldlM_range (body : σ → Nat → Except ε σ) (n : Nat) (s : σ) :
    (List.range n).foldlM body s = (List.finRange n).foldlM (fun s i => body s i.val) s := by
  rw [← List.map_coe_finRange_eq_range, List.foldlM_map]

/-- A loop in which no round stops. Its states are images of simpler ones under `view`, and
every round is the image of a simpler one. -/
theorem foldlM_eq_ok_foldl (view : σ → τ) {body : τ → ι → Except ε τ} {next : σ → ι → σ}
    {items : List ι} (each : ∀ s, ∀ i ∈ items, body (view s) i = .ok (view (next s i)))
    (s : σ) : items.foldlM body (view s) = .ok (view (items.foldl next s)) := by
  induction items generalizing s with
  | nil => rfl
  | cons i items ih =>
      obtain ⟨atFirst, atOthers⟩ : (∀ s, body (view s) i = .ok (view (next s i))) ∧
          ∀ s, ∀ j ∈ items, body (view s) j = .ok (view (next s j)) :=
        ⟨fun s => each s i List.mem_cons_self,
          fun s j mem => each s j (List.mem_cons_of_mem _ mem)⟩
      rw [List.foldlM_cons, atFirst]
      exact ih atOthers (next s i)

/-- Entries that are changed one after the other, each once. -/
theorem foldl_update {α : Type} [DecidableEq ι] {items : List ι} (nodup : items.Nodup)
    (new : ι → α → α) (u : ι → α) (i : ι) :
    items.foldl (fun u j => Function.update u j (new j (u j))) u i =
      if i ∈ items then new i (u i) else u i := by
  induction items generalizing u with
  | nil => simp
  | cons j items ih =>
      obtain ⟨absent, nodup⟩ := List.nodup_cons.mp nodup
      rw [List.foldl_cons, ih nodup]
      by_cases same : i = j
      · subst same
        simp [absent]
      · simp [same]

end Loops

/-! ### Rows and columns in place -/

section InPlace

variable {α : Type} {m n : Nat}

def withRow (a : DenseMatrix α m n) (i : Fin m) (u : Fin n → α) : DenseMatrix α m n :=
  .ofFn fun r c => if r = i then u c else a.entry r c

@[simp] theorem entry_withRow (a : DenseMatrix α m n) (i r : Fin m) (u : Fin n → α)
    (c : Fin n) : (withRow a i u).entry r c = if r = i then u c else a.entry r c := by
  simp [withRow]

theorem withRow_self (a : DenseMatrix α m n) (i : Fin m) : withRow a i (a.entry i) = a := by
  apply DenseMatrix.ext_entry
  intro r c
  rw [entry_withRow]
  split
  · rename_i same
    rw [same]
  · rfl

theorem withRow_ofFn (f : Fin m → Fin n → α) (i : Fin m) (u : Fin n → α) :
    withRow (.ofFn f) i u = .ofFn (Function.update f i u) := by
  apply DenseMatrix.ext_entry
  intro r c
  rw [entry_withRow, DenseMatrix.entry_ofFn, DenseMatrix.entry_ofFn, Function.update_apply]
  split <;> rfl

theorem setEntry_withRow (a : DenseMatrix α m n) (i : Fin m) (u : Fin n → α) (j : Fin n)
    (x : α) : setEntry (withRow a i u) i j x = withRow a i (Function.update u j x) := by
  apply DenseMatrix.ext_entry
  intro r c
  rw [entry_setEntry, entry_withRow, entry_withRow, Function.update_apply]
  by_cases atRow : r = i
  · simp [atRow]
  · simp [atRow]

/-- A loop that changes entries of one row, each once. -/
theorem foldlM_changeRow {a : DenseMatrix α m n} (i : Fin m)
    {body : DenseMatrix α m n → Fin n → Run (DenseMatrix α m n)} (new : Fin n → α → α)
    (each : ∀ u j, body (withRow a i u) j =
      .ok (withRow a i (Function.update u j (new j (u j)))))
    {columns : List (Fin n)} (nodup : columns.Nodup) :
    columns.foldlM body a = .ok (withRow a i fun c =>
      if c ∈ columns then new c (a.entry i c) else a.entry i c) := by
  have run := foldlM_eq_ok_foldl (withRow a i) (fun u j (_ : j ∈ columns) => each u j) (a.entry i)
  rw [withRow_self] at run
  rw [run]
  exact congrArg (fun u => Except.ok (withRow a i u)) (funext fun c => foldl_update nodup new _ c)

end InPlace

end Calculator.Indexed
