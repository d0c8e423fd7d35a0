import Calculator.Proofs.Expression.Spacing
import Calculator.Proofs.Text.Trim

/-!
Setting operators apart takes the longest symbol everywhere.

`Munches` cuts a text without a list and its order: at every place that is reached it takes a
parenthesis, the longest registered symbol that starts there, or a single character, and goes on
right behind. The scan makes these cuts and no others, for every list in which the registered
symbols stand with longer ones first (`munches_iff`); so equally long symbols may stand in any
order. The blanks around what is set apart are all that is added (`removeBlanks_spaced`).
-/

namespace Calculator.Expression

variable {symbols : List (List Char)} {registered : List Char → Prop}

/-! ### Cutting without a list -/

/-- The longest registered symbol that has a character and starts the text. -/
structure IsLongestSymbol (registered : List Char → Prop) (text symbol : List Char) : Prop where
  isRegistered : registered symbol
  nonempty : symbol ≠ []
  start : symbol <+: text
  longest : ∀ other, registered other → other <+: text → other.length ≤ symbol.length

/-- What is taken at the start of a text: a parenthesis; else the longest registered symbol that
starts there; and a single character if there is none. -/
inductive Takes (registered : List Char → Prop) : List Char → Stretch → Prop where
  | parenthesis {c : Char} {rest : List Char} : isParenthesis c = true →
      Takes registered (c :: rest) (.apart [c])
  | symbol {c : Char} {rest symbol : List Char} : isParenthesis c = false →
      IsLongestSymbol registered (c :: rest) symbol → Takes registered (c :: rest) (.apart symbol)
  | character {c : Char} {rest : List Char} : isParenthesis c = false →
      (∀ symbol, registered symbol → symbol ≠ [] → ¬ symbol <+: c :: rest) →
      Takes registered (c :: rest) (.kept c)

/-- A text and its stretches: what is taken at the start, and then the stretches of the text
right behind it. -/
inductive Munches (registered : List Char → Prop) : List Char → List Stretch → Prop where
  | done : Munches registered [] []
  | take {stretch : Stretch} {behind : List Char} {stretches : List Stretch} :
      Takes registered (stretch.text ++ behind) stretch → Munches registered behind stretches →
      Munches registered (stretch.text ++ behind) (stretch :: stretches)

/-! ### One stretch of the scan -/

/-- With longer symbols first, the scan finds the longest registered symbol. -/
theorem LongestFirst.symbolAt?_eq_some_iff (sorted : LongestFirst symbols)
    (members : ∀ symbol, symbol ∈ symbols ↔ registered symbol) {text symbol : List Char} :
    symbolAt? symbols text = some symbol ↔ IsLongestSymbol registered text symbol := by
  have sound {found : List Char} (first : symbolAt? symbols text = some found) :
      IsLongestSymbol registered text found := by
    obtain ⟨nonempty, split⟩ := eq_append_of_symbolAt? first
    refine ⟨(members found).mp (List.mem_of_find?_eq_some first), nonempty, ⟨_, split.symm⟩, ?_⟩
    intro other isRegistered start
    rcases eq_or_ne other [] with rfl | visible
    · exact Nat.zero_le _
    · exact (sorted.prefix_of_symbolAt? first ((members other).mpr isRegistered) visible
        start).length_le
  refine ⟨sound, fun longest => ?_⟩
  cases first : symbolAt? symbols text with
  | none =>
      exact absurd longest.start (symbolAt?_eq_none_iff.mp first symbol
        ((members symbol).mpr longest.isRegistered) longest.nonempty)
  | some found =>
      -- two longest symbols at one place are equally long, so they are the same text
      have other := sound first
      have shorter := List.prefix_of_prefix_length_le other.start longest.start
        (longest.longest found other.isRegistered other.start)
      rw [shorter.eq_of_length_le (other.longest symbol longest.isRegistered longest.start)]

/-- The stretch that the scan takes at a character. -/
def stretchAt (symbols : List (List Char)) (c : Char) (rest : List Char) : Stretch :=
  if isParenthesis c then .apart [c]
  else
    match symbolAt? symbols (c :: rest) with
    | some symbol => .apart symbol
    | none => .kept c

/-- The scan takes a stretch that starts the text, and goes on right behind it. -/
theorem exists_scan_cons (symbols : List (List Char)) (c : Char) (rest : List Char) :
    ∃ behind, c :: rest = (stretchAt symbols c rest).text ++ behind ∧
      behind.length ≤ rest.length ∧
      scan symbols (c :: rest) = stretchAt symbols c rest :: scan symbols behind := by
  rw [scan, stretchAt]
  split
  · exact ⟨rest, rfl, Nat.le_refl _, rfl⟩
  · cases found : symbolAt? symbols (c :: rest) with
    | none => exact ⟨rest, rfl, Nat.le_refl _, rfl⟩
    | some symbol =>
        obtain ⟨nonempty, split⟩ := eq_append_of_symbolAt? found
        obtain ⟨d, tail, rfl⟩ := List.exists_cons_of_ne_nil nonempty
        exact ⟨rest.drop tail.length, split, by simp, rfl⟩

theorem LongestFirst.takes_iff (sorted : LongestFirst symbols)
    (members : ∀ symbol, symbol ∈ symbols ↔ registered symbol) {c : Char} {rest : List Char}
    {stretch : Stretch} :
    Takes registered (c :: rest) stretch ↔ stretchAt symbols c rest = stretch := by
  constructor
  · intro takes
    cases takes with
    | parenthesis isParenthesis => exact if_pos isParenthesis
    | symbol plain longest =>
        rw [stretchAt, if_neg (Bool.eq_false_iff.mp plain),
          (sorted.symbolAt?_eq_some_iff members).mpr longest]
    | character plain absent =>
        have nothing : symbolAt? symbols (c :: rest) = none :=
          symbolAt?_eq_none_iff.mpr fun symbol mem => absent symbol ((members symbol).mp mem)
        rw [stretchAt, if_neg (Bool.eq_false_iff.mp plain), nothing]
  · rintro rfl
    rw [stretchAt]
    split
    · rename_i isParenthesis
      exact .parenthesis isParenthesis
    · rename_i other
      have plain : isParenthesis c = false := Bool.eq_false_iff.mpr other
      cases found : symbolAt? symbols (c :: rest) with
      | none =>
          refine .character plain fun symbol isRegistered => ?_
          exact symbolAt?_eq_none_iff.mp found symbol ((members symbol).mpr isRegistered)
      | some symbol => exact .symbol plain ((sorted.symbolAt?_eq_some_iff members).mp found)

/-! ### The whole scan -/

theorem munches_scan (sorted : LongestFirst symbols)
    (members : ∀ symbol, symbol ∈ symbols ↔ registered symbol) :
    ∀ text : List Char, Munches registered text (scan symbols text)
  | [] => by
      rw [scan]
      exact .done
  | c :: rest => by
      obtain ⟨behind, split, shorter, step⟩ := exists_scan_cons symbols c rest
      have takes : Takes registered (c :: rest) (stretchAt symbols c rest) :=
        (sorted.takes_iff members).mpr rfl
      rw [step]
      rw [split] at takes ⊢
      exact .take takes (munches_scan sorted members behind)
termination_by text => text.length
decreasing_by exact Nat.lt_succ_of_le shorter

/-- The scan is the only way to cut a text by taking the longest symbol everywhere. -/
theorem munches_iff (sorted : LongestFirst symbols)
    (members : ∀ symbol, symbol ∈ symbols ↔ registered symbol) {text : List Char}
    {stretches : List Stretch} :
    Munches registered text stretches ↔ scan symbols text = stretches := by
  constructor
  · intro munches
    induction munches with
    | done => rw [scan]
    | @take stretch behind stretches takes _ ih =>
        obtain ⟨c, rest, whole⟩ : ∃ c rest, stretch.text ++ behind = c :: rest := by
          generalize stretch.text ++ behind = text at takes
          cases takes with
          | parenthesis => exact ⟨_, _, rfl⟩
          | symbol => exact ⟨_, _, rfl⟩
          | character => exact ⟨_, _, rfl⟩
        obtain ⟨tail, split, -, step⟩ := exists_scan_cons symbols c rest
        rw [whole, sorted.takes_iff members] at takes
        rw [takes, ← whole] at split
        rw [whole, step, takes, ← List.append_cancel_left split, ih]
  · rintro rfl
    exact munches_scan sorted members text

/-- Equally long symbols may stand in any order. -/
theorem scan_congr_of_members {others : List (List Char)} (sorted : LongestFirst symbols)
    (sortedOthers : LongestFirst others) (same : ∀ symbol, symbol ∈ symbols ↔ symbol ∈ others)
    (text : List Char) : scan symbols text = scan others text :=
  (munches_iff sorted same).mp (munches_scan sortedOthers (fun _ => Iff.rfl) text)

/-! ### Blanks -/

theorem Stretch.removeBlanks_spaced (stretch : Stretch) :
    Text.removeBlanks stretch.spaced = Text.removeBlanks stretch.text := by
  cases stretch with
  | kept c => rfl
  | apart piece =>
      have blank := Text.removeBlanks_of_isBlankText Text.isBlankText_space
      rw [Stretch.spaced, ← List.singleton_append, Text.removeBlanks_append,
        Text.removeBlanks_append, blank, List.nil_append, List.append_nil, Stretch.text]

/-- Nothing but blanks is added to a text. -/
theorem removeBlanks_spaced (symbols : List (List Char)) (text : List Char) :
    Text.removeBlanks (spaced symbols text) = Text.removeBlanks text := by
  calc Text.removeBlanks (spaced symbols text)
      = (scan symbols text).flatMap fun stretch => Text.removeBlanks stretch.spaced :=
        List.filter_flatMap
    _ = (scan symbols text).flatMap fun stretch => Text.removeBlanks stretch.text := by
        simp only [Stretch.removeBlanks_spaced]
    _ = Text.removeBlanks ((scan symbols text).flatMap Stretch.text) := List.filter_flatMap.symm
    _ = Text.removeBlanks text := by rw [flatMap_text_scan]

end Calculator.Expression
