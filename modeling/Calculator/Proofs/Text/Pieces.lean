import Calculator.Text.Pieces
import Mathlib.Data.List.Forall2

/-!
Cutting a text says how the text is composed: `cut?` finds the first mark, and the pieces
of a text are the only texts without a cut that give it when they are joined.
-/

namespace Calculator.Text

variable {β : Type}

/-! ### One cut -/

/-- A text is cut at its first mark. -/
theorem cut?_eq_some_iff {mark : Char} {text left right : List Char} :
    cut? mark text = some (left, right) ↔ text = left ++ mark :: right ∧ mark ∉ left := by
  induction text generalizing left with
  | nil => simp [cut?]
  | cons c rest ih =>
      rw [cut?]
      split
      · rename_i atMark
        subst atMark
        constructor
        · rintro ⟨⟩
          exact ⟨rfl, List.not_mem_nil⟩
        · rintro ⟨split, absent⟩
          cases left with
          | nil => simpa using split
          | cons d left =>
              obtain ⟨rfl, -⟩ := List.cons.inj split
              exact absurd List.mem_cons_self absent
      · rename_i other
        constructor
        · intro found
          obtain ⟨⟨inner, behind⟩, before, parts⟩ := Option.map_eq_some_iff.mp found
          cases parts
          obtain ⟨rfl, absent⟩ := ih.mp before
          exact ⟨rfl, List.not_mem_cons_of_ne_of_not_mem (Ne.symm other) absent⟩
        · rintro ⟨split, absent⟩
          cases left with
          | nil => exact absurd (List.cons.inj split).1 other
          | cons d left =>
              obtain ⟨rfl, rfl⟩ := List.cons.inj split
              rw [ih.mpr ⟨rfl, List.not_mem_of_not_mem_cons absent⟩]
              rfl

/-- What the first marks enclose, if the first closing mark behind the first opening one is
where it should be. -/
theorem enclosed?_eq_some {opening closing : Char} {before inside : List Char}
    (noOpening : opening ∉ before) (noClosing : closing ∉ inside) (behind : List Char) :
    enclosed? opening closing (before ++ opening :: inside ++ closing :: behind) =
      some (inside, behind) := by
  rw [enclosed?, List.append_assoc, List.cons_append,
    cut?_eq_some_iff.mpr ⟨rfl, noOpening⟩, Option.bind_some]
  exact cut?_eq_some_iff.mpr ⟨rfl, noClosing⟩

/-! ### All cuts -/

theorem pieces_ne_nil (isCut : β → Bool) (sequence : List β) : pieces isCut sequence ≠ [] := by
  cases sequence with
  | nil => exact List.cons_ne_nil _ _
  | cons item rest =>
      rw [pieces]
      split
      · exact List.cons_ne_nil _ _
      · exact fun empty => pieces_ne_nil isCut rest (by simpa using congrArg List.length empty)

/-- A sequence without a cut is one piece. -/
theorem pieces_of_not_cut {isCut : β → Bool} {sequence : List β}
    (whole : ∀ item ∈ sequence, isCut item = false) : pieces isCut sequence = [sequence] := by
  induction sequence with
  | nil => rfl
  | cons item rest ih =>
      obtain ⟨atItem, atRest⟩ := List.forall_mem_cons.mp whole
      rw [pieces, if_neg (by simp [atItem]), ih atRest]
      rfl

/-- The pieces on either side of a cut. -/
theorem pieces_append_cons {isCut : β → Bool} {cut : β} (atCut : isCut cut = true)
    (before behind : List β) :
    pieces isCut (before ++ cut :: behind) = pieces isCut before ++ pieces isCut behind := by
  induction before with
  | nil => simp [pieces, atCut]
  | cons item before ih =>
      rw [List.cons_append, pieces, pieces, ih]
      split
      · rfl
      · obtain ⟨first, others, split⟩ :=
          List.exists_cons_of_ne_nil (pieces_ne_nil isCut before)
        rw [split]
        rfl

/-- What holds of sequences without a cut, and is kept when such a sequence and a cut are put
in front, holds of all sequences. -/
@[elab_as_elim]
theorem pieces_induction (isCut : β → Bool) {motive : List β → Prop}
    (whole : ∀ piece, (∀ item ∈ piece, isCut item = false) → motive piece)
    (cut : ∀ before item behind, (∀ item ∈ before, isCut item = false) → isCut item = true →
      motive behind → motive (before ++ item :: behind)) (sequence : List β) :
    motive sequence := by
  by_cases none : ∀ item ∈ sequence, isCut item = false
  · exact whole sequence none
  · -- the first cut
    obtain ⟨item, found⟩ : ∃ item, sequence.find? isCut = some item := by
      rw [← Option.isSome_iff_exists, List.find?_isSome]
      simpa using none
    obtain ⟨atItem, before, behind, rfl, inFront⟩ := List.find?_eq_some_iff_append.mp found
    exact cut before item behind (by simpa using inFront) atItem
      (pieces_induction isCut whole cut behind)
termination_by sequence.length

theorem nonemptyPieces_append_cons {isCut : β → Bool} {cut : β} (atCut : isCut cut = true)
    (before behind : List β) :
    nonemptyPieces isCut (before ++ cut :: behind) =
      nonemptyPieces isCut before ++ nonemptyPieces isCut behind := by
  rw [nonemptyPieces, pieces_append_cons atCut, List.filter_append]
  rfl

/-- What stands in front of the first cut belongs to the first piece. -/
theorem pieces_append_left {isCut : β → Bool} {front : List β}
    (whole : ∀ item ∈ front, isCut item = false) (sequence : List β) :
    pieces isCut (front ++ sequence) = (pieces isCut sequence).modifyHead (front ++ ·) := by
  induction front with
  | nil =>
      rw [List.nil_append]
      cases pieces isCut sequence <;> rfl
  | cons item front ih =>
      obtain ⟨atItem, atFront⟩ := List.forall_mem_cons.mp whole
      rw [List.cons_append, pieces, if_neg (by simp [atItem]), ih atFront, List.modifyHead_modifyHead]
      rfl

/-- Pieces joined by cuts are found again. -/
theorem pieces_intercalate {isCut : β → Bool} {cut : β} (atCut : isCut cut = true)
    {parts : List (List β)} (nonempty : parts ≠ [])
    (whole : ∀ part ∈ parts, ∀ item ∈ part, isCut item = false) :
    pieces isCut (List.intercalate [cut] parts) = parts := by
  induction parts with
  | nil => exact absurd rfl nonempty
  | cons part parts ih =>
      obtain ⟨atPart, atParts⟩ := List.forall_mem_cons.mp whole
      cases parts with
      | nil => rw [List.intercalate_singleton, pieces_of_not_cut atPart]
      | cons next others =>
          rw [List.intercalate_cons_cons, List.append_assoc, List.singleton_append,
            pieces_append_cons atCut, pieces_of_not_cut atPart,
            ih (List.cons_ne_nil _ _) atParts, List.singleton_append]

theorem nonemptyPieces_intercalate {isCut : β → Bool} {cut : β} (atCut : isCut cut = true)
    {parts : List (List β)} (whole : ∀ part ∈ parts, ∀ item ∈ part, isCut item = false) :
    nonemptyPieces isCut (List.intercalate [cut] parts) =
      parts.filter fun part => !part.isEmpty := by
  cases parts with
  | nil => rfl
  | cons part parts =>
      rw [nonemptyPieces, pieces_intercalate atCut (List.cons_ne_nil _ _) whole]

/-- No piece has a cut. -/
theorem not_cut_of_mem_pieces {isCut : β → Bool} {sequence : List β} :
    ∀ piece ∈ pieces isCut sequence, ∀ item ∈ piece, isCut item = false := by
  induction sequence with
  | nil => simp [pieces]
  | cons item rest ih =>
      rw [pieces]
      split
      · exact List.forall_mem_cons.mpr ⟨by simp, ih⟩
      · rename_i atItem
        obtain ⟨first, others, split⟩ := List.exists_cons_of_ne_nil (pieces_ne_nil isCut rest)
        rw [split] at ih ⊢
        obtain ⟨atFirst, atOthers⟩ := List.forall_mem_cons.mp ih
        exact List.forall_mem_cons.mpr
          ⟨List.forall_mem_cons.mpr ⟨Bool.eq_false_iff.mpr atItem, atFirst⟩, atOthers⟩

/-- The pieces between the occurrences of one item, joined by it again. -/
theorem intercalate_pieces [BEq β] [LawfulBEq β] (cut : β) (sequence : List β) :
    List.intercalate [cut] (pieces (· == cut) sequence) = sequence := by
  induction sequence with
  | nil => rfl
  | cons item rest ih =>
      obtain ⟨first, others, split⟩ := List.exists_cons_of_ne_nil (pieces_ne_nil (· == cut) rest)
      rw [pieces]
      split
      · rename_i atCut
        rw [split, List.intercalate_cons_cons, ← split, ih, eq_of_beq atCut]
        rfl
      · rw [split] at ih ⊢
        rw [← ih]
        cases others with
        | nil => rfl
        | cons next others => rfl

/-! ### Words -/

/-- Words do not go on over a blank. -/
theorem words_append_cons {blank : Char} (atBlank : isBlank blank = true)
    (before behind : List Char) :
    words (before ++ blank :: behind) = words before ++ words behind :=
  nonemptyPieces_append_cons atBlank before behind

/-- A text without a blank is one word. -/
theorem words_of_not_blank {text : List Char} (nonempty : text ≠ [])
    (whole : ∀ c ∈ text, isBlank c = false) : words text = [text] := by
  rw [words, nonemptyPieces, pieces_of_not_cut whole]
  cases text with
  | nil => exact absurd rfl nonempty
  | cons c text => rfl

theorem mem_words {text word : List Char} (mem : word ∈ words text) :
    word ≠ [] ∧ ∀ c ∈ word, isBlank c = false := by
  obtain ⟨inPieces, nonempty⟩ := List.mem_filter.mp mem
  refine ⟨?_, not_cut_of_mem_pieces word inPieces⟩
  rintro rfl
  cases nonempty

/-! ### Reading every piece -/

/-- Reading all items succeeds exactly if every item is read. -/
theorem mapM_eq_some_iff {γ : Type} {read : β → Option γ} {items : List β} {values : List γ} :
    items.mapM read = some values ↔
      List.Forall₂ (fun item value => read item = some value) items values := by
  induction items generalizing values with
  | nil =>
      rw [List.mapM_nil, List.forall₂_nil_left_iff]
      exact ⟨fun same => (Option.some.inj same).symm, fun same => same ▸ rfl⟩
  | cons item items ih =>
      rw [List.mapM_cons]
      constructor
      · intro read
        obtain ⟨value, readItem, read⟩ := Option.bind_eq_some_iff.mp read
        obtain ⟨others, readOthers, same⟩ := Option.bind_eq_some_iff.mp read
        cases same
        exact .cons readItem (ih.mp readOthers)
      · rintro (_ | ⟨readItem, readOthers⟩)
        rw [readItem, ih.mpr readOthers]
        rfl

end Calculator.Text
