import Calculator.Expression.Builtin
import Calculator.Number.Double
import Calculator.Proofs.Expression.Rendering
import Mathlib.Data.List.Nodup

/-!
What registrations leave behind.

A look-up finds the operator registered last for its symbol and arity
(`get?_registerAll`). A registry is determined by its look-ups (`Registry.ext_get?`),
because a table is strictly sorted and a strictly sorted list is determined by its members
(`eq_of_mem_iff_of_sorted`). For the same reason the order in which symbols are tried
comes out of every enumeration of them (`sortSymbols_eq`). Main statement:
`registerAll_of_lastRegistered`.
-/

namespace Calculator.Expression

variable {α : Type}

/-! ### The order of symbols -/

theorem ComesBefore.ne {a b : List Char} (before : ComesBefore a b) : a ≠ b := by
  rintro rfl
  exact ComesBefore.irrefl a before

/-- A strictly sorted list is determined by its members. -/
theorem eq_of_mem_iff_of_sorted {β : Type} {symbol : β → List Char} {first second : List β}
    (firstSorted : first.Pairwise fun a b => ComesBefore (symbol a) (symbol b))
    (secondSorted : second.Pairwise fun a b => ComesBefore (symbol a) (symbol b))
    (same : ∀ a, a ∈ first ↔ a ∈ second) : first = second := by
  have different : ∀ {a b : β}, ComesBefore (symbol a) (symbol b) → a ≠ b :=
    fun before equal => before.ne (congrArg symbol equal)
  have perm : first.Perm second :=
    (List.perm_ext_iff_of_nodup (firstSorted.imp different) (secondSorted.imp different)).mpr same
  exact perm.eq_of_pairwise
    (fun a b _ _ before behind => absurd (before.trans behind) (ComesBefore.irrefl _))
    firstSorted secondSorted

theorem not_comesBefore_iff {a b : List Char} :
    ¬ ComesBefore b a ↔ a = b ∨ ComesBefore a b := by
  constructor
  · intro notBefore
    rcases eq_or_ne a b with same | other
    · exact .inl same
    · exact .inr (comesBefore_of_not notBefore other)
  · rintro (rfl | before) behind
    · exact ComesBefore.irrefl a behind
    · exact ComesBefore.irrefl a (before.trans behind)

/-- Symbols sorted into the order in which they are tried. -/
def sortSymbols (symbols : List (List Char)) : List (List Char) :=
  symbols.mergeSort fun a b => !decide (ComesBefore b a)

/-- Different symbols come out strictly sorted. -/
theorem sortSymbols_sorted {symbols : List (List Char)} (nodup : symbols.Nodup) :
    (sortSymbols symbols).Pairwise ComesBefore := by
  have ordered : (sortSymbols symbols).Pairwise
      fun a b => (!decide (ComesBefore b a)) = true := by
    apply List.pairwise_mergeSort
    · intro a b c
      simp only [Bool.not_eq_true', decide_eq_false_iff_not, not_comesBefore_iff]
      rintro (rfl | ab) (rfl | bc)
      · exact .inl rfl
      · exact .inr bc
      · exact .inr ab
      · exact .inr (ab.trans bc)
    · intro a b
      simp only [Bool.or_eq_true, Bool.not_eq_true', decide_eq_false_iff_not,
        not_comesBefore_iff]
      rcases eq_or_ne a b with same | other
      · exact .inl (.inl same)
      · by_cases before : ComesBefore a b
        · exact .inl (.inr before)
        · exact .inr (.inr (comesBefore_of_not before other.symm))
  have distinct : (sortSymbols symbols).Pairwise (· ≠ ·) :=
    (List.mergeSort_perm symbols _).nodup_iff.mpr nodup
  refine (ordered.and distinct).imp ?_
  rintro a b ⟨notBehind, other⟩
  simp only [Bool.not_eq_true', decide_eq_false_iff_not, not_comesBefore_iff] at notBehind
  exact notBehind.resolve_left other

/-! ### Tables -/

namespace OperatorTable

theorem symbols_sorted (table : OperatorTable α) : table.symbols.Pairwise ComesBefore :=
  List.pairwise_map.mpr table.sorted

theorem symbols_nodup (table : OperatorTable α) : table.symbols.Nodup :=
  table.symbols_sorted.imp ComesBefore.ne

/-- The symbols of a table come out of every enumeration of them. -/
theorem sortSymbols_eq (table : OperatorTable α) {symbols : List (List Char)}
    (nodup : symbols.Nodup) (same : ∀ symbol, symbol ∈ symbols ↔ symbol ∈ table.symbols) :
    sortSymbols symbols = table.symbols := by
  apply @eq_of_mem_iff_of_sorted _ id _ _ (sortSymbols_sorted nodup) table.symbols_sorted
  intro symbol
  rw [← same, sortSymbols]
  exact (List.mergeSort_perm symbols _).mem_iff

theorem symbol_of_find? {table : OperatorTable α} {operator : Operator α} {symbol : List Char}
    (found : table.find? symbol = some operator) : operator.symbol = symbol := by
  rw [find?] at found
  simpa using List.find?_some found

/-- The operators of a table are those that are found under their own symbols. -/
theorem mem_operators_iff {table : OperatorTable α} {operator : Operator α} :
    operator ∈ table.operators ↔ table.find? operator.symbol = some operator := by
  constructor
  · intro mem
    obtain ⟨other, found⟩ : ∃ other, table.find? operator.symbol = some other :=
      Option.isSome_iff_exists.mp (List.find?_isSome.mpr ⟨operator, mem, beq_self_eq_true _⟩)
    rw [found, List.inj_on_of_nodup_map table.symbols_nodup (List.mem_of_find?_eq_some found) mem
      (symbol_of_find? found)]
  · exact List.mem_of_find?_eq_some

/-- A table is determined by its look-ups. -/
theorem ext_find? {first second : OperatorTable α}
    (same : ∀ symbol, first.find? symbol = second.find? symbol) : first = second := by
  have operators : first.operators = second.operators := by
    apply eq_of_mem_iff_of_sorted first.sorted second.sorted
    intro operator
    rw [mem_operators_iff, mem_operators_iff, same]
  cases first
  cases second
  cases operators
  rfl

/-- An added operator is found under its symbol, and nothing else changes. -/
theorem find?_insert (table : OperatorTable α) (operator : Operator α) (symbol : List Char) :
    (table.insert operator).find? symbol =
      if operator.symbol = symbol then some operator else table.find? symbol := by
  simp only [find?, insert]
  induction table.operators with
  | nil => by_cases own : operator.symbol = symbol <;> simp [insertOperator, own]
  | cons other rest ih =>
      rw [insertOperator]
      split
      · by_cases own : operator.symbol = symbol <;> simp [own]
      · split
        · rename_i replaced
          by_cases own : operator.symbol = symbol <;> simp [own, replaced]
        · rename_i kept
          by_cases atOther : other.symbol = symbol
          · have notOwn : operator.symbol ≠ symbol := fun own => kept (atOther.trans own.symm)
            simp [atOther, notOwn]
          · rw [List.find?_cons_of_neg (by simpa using atOther),
              List.find?_cons_of_neg (by simpa using atOther), ih]

end OperatorTable

/-! ### Registries -/

namespace Registry

variable {registry : Registry α}

/-- A registration changes the look-up of its own symbol and arity. -/
theorem get?_register (registry : Registry α) (operator : Operator α) (symbol : List Char)
    (arity : Arity) : (registry.register operator).get? symbol arity =
      if operator.symbol = symbol ∧ operator.arity = arity then some operator
      else registry.get? symbol arity := by
  cases own : operator.arity <;> cases arity <;>
    simp [register, get?, table, own, OperatorTable.find?_insert]

/-- A registry is determined by its look-ups. -/
theorem ext_get? {first second : Registry α}
    (same : ∀ symbol arity, first.get? symbol arity = second.get? symbol arity) :
    first = second := by
  obtain ⟨binary, unary⟩ := first
  obtain ⟨binary', unary'⟩ := second
  obtain rfl : binary = binary' := OperatorTable.ext_find? fun symbol => same symbol .binary
  obtain rfl : unary = unary' := OperatorTable.ext_find? fun symbol => same symbol .unary
  rfl

/-- The operator that is registered last for a symbol and an arity. -/
def lastRegistered? (operators : List (Operator α)) (symbol : List Char) (arity : Arity) :
    Option (Operator α) :=
  (operators.filter fun operator => operator.symbol = symbol ∧ operator.arity = arity).getLast?

theorem lastRegistered?_concat (operators : List (Operator α)) (operator : Operator α)
    (symbol : List Char) (arity : Arity) :
    lastRegistered? (operators ++ [operator]) symbol arity =
      if operator.symbol = symbol ∧ operator.arity = arity then some operator
      else lastRegistered? operators symbol arity := by
  rw [lastRegistered?, List.filter_append]
  split <;> simp_all [lastRegistered?]

/-- A look-up finds the operator registered last, or what was there before. -/
theorem get?_registerAll (registry : Registry α) (operators : List (Operator α))
    (symbol : List Char) (arity : Arity) : (registry.registerAll operators).get? symbol arity =
      (lastRegistered? operators symbol arity).or (registry.get? symbol arity) := by
  induction operators using List.reverseRec with
  | nil => rfl
  | append_singleton operators operator ih =>
      rw [lastRegistered?_concat, registerAll, List.foldl_append, List.foldl_cons, List.foldl_nil,
        get?_register]
      split
      · rfl
      · exact ih

theorem lastRegistered?_eq_some {operators : List (Operator α)} {operator : Operator α}
    {symbol : List Char} {arity : Arity}
    (last : lastRegistered? operators symbol arity = some operator) :
    operator ∈ operators ∧ operator.symbol = symbol ∧ operator.arity = arity := by
  simpa using List.mem_of_getLast? last

theorem isSome_lastRegistered?_iff {operators : List (Operator α)} {symbol : List Char}
    {arity : Arity} : (lastRegistered? operators symbol arity).isSome = true ↔
      ∃ operator ∈ operators, operator.symbol = symbol ∧ operator.arity = arity := by
  constructor
  · intro registered
    obtain ⟨operator, last⟩ := Option.isSome_iff_exists.mp registered
    exact ⟨operator, lastRegistered?_eq_some last⟩
  · rintro ⟨operator, mem, sameSymbol, sameArity⟩
    have kept : operator ∈ operators.filter
        fun operator => operator.symbol = symbol ∧ operator.arity = arity := by
      simp [mem, sameSymbol, sameArity]
    rw [lastRegistered?, List.getLast?_isSome]
    exact List.ne_nil_of_mem kept

/-- What was registered before is all there is in a registry that was empty. -/
theorem get?_registerAll_empty (operators : List (Operator α)) (symbol : List Char)
    (arity : Arity) : (empty.registerAll operators).get? symbol arity =
      lastRegistered? operators symbol arity := by
  have nothing : (empty : Registry α).get? symbol arity = none := by
    cases arity <;> rfl
  rw [get?_registerAll, nothing, Option.or_none]

/-! ### The built-in operators -/

/-- The symbols that stand between operands from the start. -/
def builtinSymbols : List (List Char) :=
  [['+'], ['-'], ['*'], ['/'], ['%'], ['^']]

theorem mem_scanOrder_builtin [Elementary α] {config : Config α} {symbol : List Char} :
    symbol ∈ (Builtin.registry config).scanOrder ↔ symbol ∈ builtinSymbols := by
  have binary : ((Builtin.operators config).filter (·.arity = .binary)).map Operator.symbol =
      builtinSymbols := rfl
  change symbol ∈ (Builtin.registry config).binary.symbols ↔ _
  rw [← isBinary_iff, isBinary, Builtin.registry, get?_registerAll_empty,
    isSome_lastRegistered?_iff, ← binary]
  simp only [List.mem_map, List.mem_filter, decide_eq_true_eq]
  constructor
  · rintro ⟨operator, mem, own, between⟩
    exact ⟨operator, ⟨mem, between⟩, own⟩
  · rintro ⟨operator, ⟨mem, between⟩, own⟩
    exact ⟨operator, mem, own, between⟩

theorem hasPlainSymbols_builtin [Elementary α] (config : Config α) :
    (Builtin.registry config).HasPlainSymbols := by
  have plain : ∀ symbol ∈ builtinSymbols, ∀ c ∈ symbol,
      Text.isBlank c = false ∧ isParenthesis c = false := by decide
  exact fun symbol mem => plain symbol (mem_scanOrder_builtin.mp mem)

/-! ### Histories -/

/-- Only the last registration of each symbol and arity counts. Two histories that agree on
these lead from one registry to one registry, so to the same look-ups and the same reading
and value of every text. In a registry built up from nothing, every operator is found under
its own symbol and arity and no other; and the symbols tried between operands are those
registered so, each once and strictly ordered, in whatever order they are enumerated before
they are sorted. -/
theorem registerAll_of_lastRegistered :
    (∀ (registry : Registry α) (first second : List (Operator α)),
      (∀ symbol arity, lastRegistered? first symbol arity = lastRegistered? second symbol arity) →
        registry.registerAll first = registry.registerAll second) ∧
    ∀ operators : List (Operator α),
      let registry := empty.registerAll operators
      (∀ symbol arity operator, registry.get? symbol arity = some operator →
        operator.symbol = symbol ∧ operator.arity = arity) ∧
      (∀ arity, ∀ operator ∈ (registry.table arity).operators,
        registry.get? operator.symbol arity = some operator) ∧
      registry.scanOrder.Nodup ∧
      (∀ symbol, symbol ∈ registry.scanOrder ↔
        ∃ operator ∈ operators, operator.symbol = symbol ∧ operator.arity = .binary) ∧
      registry.scanOrder.Pairwise ComesBefore ∧
      ∀ symbols, symbols.Perm registry.scanOrder → sortSymbols symbols = registry.scanOrder := by
  constructor
  · intro registry first second agree
    apply ext_get?
    intro symbol arity
    rw [get?_registerAll, get?_registerAll, agree]
  · intro operators registry
    refine ⟨?_, ?_, registry.binary.symbols_nodup, ?_, registry.binary.symbols_sorted, ?_⟩
    · intro symbol arity operator found
      rw [get?_registerAll_empty] at found
      exact (lastRegistered?_eq_some found).2
    · intro arity operator mem
      exact OperatorTable.mem_operators_iff.mp mem
    · intro symbol
      change symbol ∈ registry.binary.symbols ↔ _
      rw [← isBinary_iff, isBinary, get?_registerAll_empty, isSome_lastRegistered?_iff]
    · intro symbols enumerated
      exact registry.binary.sortSymbols_eq (enumerated.nodup_iff.mpr registry.binary.symbols_nodup)
        fun symbol => enumerated.mem_iff

/-- A sum that is registered twice, around a power: the first time does not count, and the
longer symbol is tried first. -/
theorem registerAll_of_lastRegistered_sum :
    let power : Operator Float := Builtin.between "**" .exponential Builtin.raise
    let sum (precedence : Precedence) : Operator Float :=
      Builtin.between "+" precedence fun x y => .ok (x + y)
    (Builtin.registry Config.standard).registerAll [sum .loosest, power, sum .unary] =
        (Builtin.registry Config.standard).registerAll [sum .unary, power] ∧
      ['*', '*'] ∈ (empty.registerAll [sum .loosest, power]).scanOrder ∧
      sortSymbols [['+'], ['*', '*']] = (empty.registerAll [sum .loosest, power]).scanOrder := by
  intro power sum
  have agree : ∀ symbol arity,
      lastRegistered? [sum .loosest, power, sum .unary] symbol arity =
        lastRegistered? [sum .unary, power] symbol arity := by
    intro symbol arity
    by_cases atSum : ['+'] = symbol ∧ Arity.binary = arity
    · obtain ⟨rfl, rfl⟩ := atSum
      rfl
    · by_cases atPower : ['*', '*'] = symbol ∧ Arity.binary = arity
      · obtain ⟨rfl, rfl⟩ := atPower
        rfl
      · simp [lastRegistered?, sum, power, Builtin.between, Operator.infixed, atSum, atPower]
  obtain ⟨determined, reachable⟩ := registerAll_of_lastRegistered (α := Float)
  obtain ⟨-, -, -, mem_iff, -, enumerated⟩ := reachable [sum .loosest, power]
  exact ⟨determined _ _ _ agree, (mem_iff _).mpr ⟨power, by simp, rfl, rfl⟩,
    enumerated _ (.swap _ _ _)⟩

end Registry

end Calculator.Expression
