import Calculator.Proofs.Expression.MaximalMunch
import Calculator.Proofs.Expression.Rendering
import Calculator.Proofs.Indexed.Access

/-!
Setting operators apart in the bytes of a text.

The loop keeps the bytes that are left. It compares the bytes of the symbols with them and cuts
by a number of bytes; where no character starts there is no cut, and the run stops. A text starts
with the bytes of another one only if it starts with that text (`utf8_prefix_iff`), so the cut
behind a symbol always falls on the start of a character (`sliceFrom_utf8`), and each round takes
the stretch that the scan takes (`stretchTaken_utf8`). As every round takes a character or more,
there are no more rounds than characters. Main statement: `padding_is_maximal_munch`.
-/

namespace Calculator.Indexed

open Expression

/-! ### The loop -/

def firstCharacter? (bytes : List UInt8) : Option Char :=
  bytes.toByteArray.utf8DecodeChar? 0

/-- Does a character start at a number, or is it the end of the text? -/
def IsBoundary (bytes : List UInt8) (start : Nat) : Prop :=
  start = bytes.length ∨ ∃ byte ∈ bytes[start]?, byte.IsUTF8FirstByte

instance (bytes : List UInt8) (start : Nat) : Decidable (IsBoundary bytes start) := by
  unfold IsBoundary; infer_instance

/-- The text from a number on. -/
def sliceFrom (bytes : List UInt8) (start : Nat) : Run (List UInt8) :=
  if IsBoundary bytes start then .ok (bytes.drop start) else .error .outOfRange

/-- The text with blanks as far as it is written, and the text that is left. -/
structure Padding where
  padded : List UInt8
  rest : List UInt8

/-- The stretch that a round takes: a parenthesis, the first symbol whose bytes start what is
left, or the first character. -/
def stretchTaken (symbols : List (List Char)) (c : Char) (rest : List UInt8) : Stretch :=
  if isParenthesis c then .apart [c]
  else
    match symbols.find? fun symbol => !symbol.isEmpty && (utf8 symbol).isPrefixOf rest with
    | some symbol => .apart symbol
    | none => .kept c

/-- Write a stretch and cut it off. -/
def padRound (symbols : List (List Char)) (c : Char) (state : Padding) : Run Padding :=
  let stretch := stretchTaken symbols c state.rest
  (sliceFrom state.rest (utf8 stretch.text).length).map fun rest =>
    ⟨state.padded ++ utf8 stretch.spaced, rest⟩

/-- Rounds as long as a character is left, at most a given number of them. -/
def padLoop (symbols : List (List Char)) : (rounds : Nat) → Padding → Run Padding
  | 0, state => .ok state
  | rounds + 1, state =>
      match firstCharacter? state.rest with
      | none => .ok state
      | some c => (padRound symbols c state).bind (padLoop symbols rounds)

/-! ### Bytes and characters -/

theorem firstCharacter?_utf8_cons (c : Char) (rest : List Char) :
    firstCharacter? (utf8 (c :: rest)) = some c :=
  List.utf8DecodeChar?_utf8Encode_cons

/-- A text starts with another one if its bytes do. -/
theorem utf8_prefix_iff {a b : List Char} : utf8 a <+: utf8 b ↔ a <+: b := by
  constructor
  · rintro ⟨bytes, split⟩
    refine List.isPrefix_of_utf8Encode_append_eq_utf8Encode bytes.toByteArray ?_
    exact List.toByteArray_append.symm.trans (congrArg List.toByteArray split)
  · rintro ⟨rest, rfl⟩
    exact ⟨utf8 rest, (utf8_append a rest).symm⟩

/-- The byte behind a text is the first one of a character. -/
theorem isBoundary_utf8 (a b : List Char) : IsBoundary (utf8 (a ++ b)) (utf8 a).length := by
  rw [utf8_append]
  cases b with
  | nil => exact .inl (congrArg List.length (List.append_nil (utf8 a))).symm
  | cons c rest =>
      have first := UInt8.isUTF8FirstByte_getElem_zero_utf8EncodeChar (c := c)
      obtain ⟨byte, others, encoded⟩ : ∃ byte others, String.utf8EncodeChar c = byte :: others :=
        List.exists_cons_of_ne_nil String.utf8EncodeChar_ne_nil
      have whole : utf8 (c :: rest) = byte :: (others ++ utf8 rest) := by
        rw [utf8, List.flatMap_cons, encoded, List.cons_append, utf8]
      simp only [encoded, List.getElem_cons_zero] at first
      exact .inr ⟨byte, by simp [whole], first⟩

theorem sliceFrom_utf8 (a b : List Char) :
    sliceFrom (utf8 (a ++ b)) (utf8 a).length = .ok (utf8 b) := by
  rw [sliceFrom, if_pos (isBoundary_utf8 a b), utf8_append, List.drop_left]

/-! ### The rounds -/

theorem stretchTaken_utf8 (symbols : List (List Char)) (c : Char) (rest : List Char) :
    stretchTaken symbols c (utf8 (c :: rest)) = stretchAt symbols c rest := by
  have same : (symbols.find? fun symbol => !symbol.isEmpty &&
      (utf8 symbol).isPrefixOf (utf8 (c :: rest))) = symbolAt? symbols (c :: rest) := by
    refine List.find?_congr fun symbol _ => ?_
    congr 1
    rw [Bool.eq_iff_iff, List.isPrefixOf_iff_prefix, List.isPrefixOf_iff_prefix, utf8_prefix_iff]
  rw [stretchTaken, same]
  rfl

theorem padRound_utf8 {symbols : List (List Char)} {c : Char} {rest behind : List Char}
    (split : c :: rest = (stretchAt symbols c rest).text ++ behind) (padded : List Char) :
    padRound symbols c ⟨utf8 padded, utf8 (c :: rest)⟩ =
      .ok ⟨utf8 (padded ++ (stretchAt symbols c rest).spaced), utf8 behind⟩ := by
  have cut : sliceFrom (utf8 (c :: rest)) (utf8 (stretchAt symbols c rest).text).length =
      .ok (utf8 behind) := by
    conv_lhs => rw [split]
    exact sliceFrom_utf8 _ _
  rw [padRound, stretchTaken_utf8, cut, utf8_append]
  rfl

/-- The loop comes to the end of the text and has written the text with blanks. -/
theorem padLoop_utf8 (symbols : List (List Char)) {text : List Char} (padded : List Char)
    {rounds : Nat} (enough : text.length ≤ rounds) :
    padLoop symbols rounds ⟨utf8 padded, utf8 text⟩ =
      .ok ⟨utf8 (padded ++ spaced symbols text), []⟩ := by
  induction rounds generalizing text padded with
  | zero =>
      obtain rfl := List.length_eq_zero_iff.mp (Nat.le_zero.mp enough)
      rw [spaced_nil, List.append_nil]
      rfl
  | succ rounds ih =>
      cases text with
      | nil =>
          rw [spaced_nil, List.append_nil]
          rfl
      | cons c rest =>
          obtain ⟨behind, split, shorter, step⟩ := exists_scan_cons symbols c rest
          have fewer : behind.length ≤ rounds := shorter.trans (Nat.le_of_succ_le_succ enough)
          rw [padLoop]
          simp only [firstCharacter?_utf8_cons]
          rw [padRound_utf8 split, spaced, step, List.flatMap_cons, ← List.append_assoc]
          exact ih _ fewer

/-! ### Maximal munch -/

/-- Setting operators apart is maximal munch without loss, whatever symbols are registered and in
whatever order equally long ones are tried. The loop over the bytes ends after no more rounds
than the text has characters, and none of its cuts falls inside a character. Without blanks, the
text that it writes is the text that it reads. The stretches of the text are the ones found by
taking, wherever there is no parenthesis, the longest registered symbol that starts there and
going on right behind it; they are those of the list that the registry keeps. -/
theorem padding_is_maximal_munch {α : Type} (registry : Registry α) {symbols : List (List Char)}
    (members : ∀ symbol, symbol ∈ symbols ↔ registry.isBinary symbol = true)
    (sorted : LongestFirst symbols) (text : List Char) :
    (∀ rounds, text.length ≤ rounds → padLoop symbols rounds ⟨[], utf8 text⟩ =
      .ok ⟨utf8 (spaced symbols text), []⟩) ∧
    Text.removeBlanks (spaced symbols text) = Text.removeBlanks text ∧
    (∀ stretches, Munches (fun symbol => registry.isBinary symbol = true) text stretches ↔
      scan symbols text = stretches) ∧
    scan symbols text = scan registry.scanOrder text := by
  refine ⟨fun rounds enough => padLoop_utf8 symbols [] enough, removeBlanks_spaced symbols text,
    fun stretches => munches_iff sorted members, ?_⟩
  have same (symbol : List Char) : symbol ∈ symbols ↔ symbol ∈ registry.scanOrder :=
    (members symbol).trans Registry.isBinary_iff
  exact scan_congr_of_members sorted registry.binary.longestFirst same text

/-- Symbols that overlap or start each other, one without a character, and two of the same length
in bytes that are tried the other way round. -/
theorem padding_is_maximal_munch_overlapping :
    let sign (symbol : String) : Operator Float := Builtin.between symbol .exponential Builtin.raise
    let registry := Registry.empty.registerAll
      [sign "*", sign "", sign "**", sign "⊕", sign "é", sign "⊕⊕"]
    let symbols := ["⊕⊕", "⊕", "é", "**", "*", ""].map String.toList
    let text := "2***3é(⊕⊕⊕".toList
    symbols ≠ registry.scanOrder ∧
    (∀ symbol, symbol ∈ symbols ↔ registry.isBinary symbol = true) ∧
    LongestFirst symbols ∧
    padLoop symbols 10 ⟨[], utf8 text⟩ = .ok ⟨utf8 "2 **  * 3 é  (  ⊕⊕  ⊕ ".toList, []⟩ ∧
    scan registry.scanOrder text = [.kept '2', .apart "**".toList, .apart ['*'], .kept '3',
      .apart ['é'], .apart ['('], .apart "⊕⊕".toList, .apart ['⊕']] := by
  intro sign registry symbols text
  have members : ∀ symbol, symbol ∈ symbols ↔ registry.isBinary symbol = true := by
    have rearranged : symbols.Perm registry.scanOrder := by decide +kernel
    exact fun symbol => rearranged.mem_iff.trans Registry.isBinary_iff.symm
  have sorted : LongestFirst symbols := by decide +kernel
  obtain ⟨ends, -, -, same⟩ := padding_is_maximal_munch registry members sorted text
  have padded : spaced symbols text = "2 **  * 3 é  (  ⊕⊕  ⊕ ".toList := by decide +kernel
  have run := ends 10 (by decide +kernel)
  rw [padded] at run
  rw [← same]
  exact ⟨by decide +kernel, members, sorted, run, by decide +kernel⟩

end Calculator.Indexed
