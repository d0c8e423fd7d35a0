import Calculator.Proofs.Text.Pieces
import Calculator.Proofs.Text.Trim

/-!
Lists of items in a text, with separators or with nothing but blanks between them.

Where blanks may stand is said by the text (`ListText`, `SpacedText`); the items are found again
in every such text.
-/

namespace Calculator.Text

/-! ### Separators between the items -/

/-- An item with blanks around it. -/
def Padded (item text : List Char) : Prop :=
  ∃ front behind, IsBlankText front ∧ IsBlankText behind ∧ text = front ++ item ++ behind

/-- Items with a separator between them, and blanks wherever they like. -/
def ListText (separator : Char) (items : List (List Char)) (text : List Char) : Prop :=
  ∃ front padded, IsBlankText front ∧ List.Forall₂ Padded items padded ∧
    text = front ++ List.intercalate [separator] padded

theorem Padded.trim_eq {item text : List Char} (padded : Padded item text) :
    trim text = trim item := by
  obtain ⟨front, behind, blankFront, blankBehind, rfl⟩ := padded
  exact trim_surround blankFront blankBehind item

/-- A visible character around an item is one of the item. -/
theorem Padded.mem {item text : List Char} {c : Char} (padded : Padded item text)
    (visible : isBlank c = false) (mem : c ∈ text) : c ∈ item := by
  obtain ⟨front, behind, blankFront, blankBehind, rfl⟩ := padded
  have notBlank {part : List Char} (blank : IsBlankText part) : c ∉ part := fun inPart => by
    rw [blank c inPart] at visible
    cases visible
  simpa [notBlank blankFront, notBlank blankBehind] using mem

/-- A visible character of a list that is not the separator stands in an item. -/
theorem ListText.not_mem {separator c : Char} {items : List (List Char)} {text : List Char}
    (isList : ListText separator items text) (visible : isBlank c = false) (other : c ≠ separator)
    (absent : ∀ item ∈ items, c ∉ item) : c ∉ text := by
  obtain ⟨front, padded, blank, each, rfl⟩ := isList
  have notFront : c ∉ front := fun inFront => by
    rw [blank c inFront] at visible
    cases visible
  rw [List.mem_append, not_or]
  refine ⟨notFront, ?_⟩
  clear blank notFront
  induction each with
  | nil => exact List.not_mem_nil
  | @cons item part items padded isPadded each ih =>
      obtain ⟨notItem, absent⟩ := List.forall_mem_cons.mp absent
      have notPart : c ∉ part := fun inPart => notItem (isPadded.mem visible inPart)
      cases padded with
      | nil => rwa [List.intercalate_singleton]
      | cons next padded =>
          rw [List.intercalate_cons_cons, List.mem_append, List.mem_append, List.mem_singleton]
          rintro ((inPart | atSeparator) | inRest)
          · exact notPart inPart
          · exact other atSeparator
          · exact ih absent inRest

/-- The items of a list are its trimmed pieces, but for those that are blank. -/
theorem ListText.filter_pieces {separator : Char} {items : List (List Char)} {text : List Char}
    (isList : ListText separator items text) (visible : isBlank separator = false)
    (absent : ∀ item ∈ items, separator ∉ item) :
    ((pieces (· == separator) text).map trim).filter (fun item => !item.isEmpty) =
      (items.map trim).filter fun item => !item.isEmpty := by
  obtain ⟨front, padded, blank, each, rfl⟩ := isList
  have whole : ∀ c ∈ front, (c == separator) = false := fun c mem => by
    rw [beq_eq_false_iff_ne]
    rintro rfl
    rw [blank c mem] at visible
    cases visible
  have trimmed : padded.map trim = items.map trim := by
    rw [← List.forall₂_eq_eq_eq, List.forall₂_map_left_iff, List.forall₂_map_right_iff]
    exact each.flip.imp fun _ _ => Padded.trim_eq
  have noSeparator : ∀ part ∈ padded, ∀ c ∈ part, (c == separator) = false := by
    intro part mem c inPart
    obtain ⟨i, inside, rfl⟩ := List.getElem_of_mem mem
    rw [beq_eq_false_iff_ne]
    rintro rfl
    have inside' : i < items.length := each.length_eq ▸ inside
    exact absent _ (List.getElem_mem inside') ((each.get inside' inside).mem visible inPart)
  rw [pieces_append_left whole, ← trimmed]
  cases padded with
  | nil =>
      simp [pieces, trim_of_isBlankText blank]
  | cons part padded =>
      have cut : pieces (· == separator) (List.intercalate [separator] (part :: padded)) =
          part :: padded :=
        pieces_intercalate (by simp) (List.cons_ne_nil _ _) noSeparator
      rw [cut, List.modifyHead_cons, List.map_cons, trim_append blank, List.map_cons]

/-- A separator and one blank between the items make a list. -/
theorem listText_intercalate (separator : Char) (items : List (List Char)) :
    ListText separator items (List.intercalate [separator, ' '] items) := by
  have asIs (item : List Char) : Padded item item :=
    ⟨[], [], isBlankText_nil, isBlankText_nil, (List.append_nil item).symm⟩
  have behindBlank (item : List Char) : Padded item (' ' :: item) :=
    ⟨[' '], [], isBlankText_space, isBlankText_nil, (List.append_nil (' ' :: item)).symm⟩
  have moved (next : List Char) (others : List (List Char)) :
      List.intercalate [separator] ((' ' :: next) :: others) =
        ' ' :: List.intercalate [separator] (next :: others) := by
    cases others <;> simp [List.intercalate_cons_cons]
  cases items with
  | nil => exact ⟨[], [], isBlankText_nil, .nil, rfl⟩
  | cons first items =>
      refine ⟨[], first :: items.map (' ' :: ·), isBlankText_nil, .cons (asIs first) ?_, ?_⟩
      · rw [List.forall₂_map_right_iff, List.forall₂_same]
        exact fun item _ => behindBlank item
      · rw [List.nil_append]
        induction items generalizing first with
        | nil => rfl
        | cons next items ih =>
            rw [List.intercalate_cons_cons, ih next, List.map_cons, List.intercalate_cons_cons,
              moved, List.append_assoc, List.append_assoc]
            rfl

/-! ### Blanks between the items -/

/-- Items with a blank or more in front of each, and blanks behind the last. -/
inductive SpacedText : List (List Char) → List Char → Prop where
  | nil {text : List Char} : IsBlankText text → SpacedText [] text
  | cons {gap item text : List Char} {items : List (List Char)} : gap ≠ [] → IsBlankText gap →
      SpacedText items text → SpacedText (item :: items) (gap ++ item ++ text)

/-- A text with blanks between its items is empty or starts with a blank. -/
theorem SpacedText.isBlank_head {items : List (List Char)} {text : List Char}
    (spaced : SpacedText items text) : ∀ c, text.head? = some c → isBlank c = true := by
  intro c atHead
  cases spaced with
  | nil blank => exact blank c (List.mem_of_mem_head? atHead)
  | @cons gap item text items nonempty blank _ =>
      obtain ⟨d, gap, rfl⟩ := List.exists_cons_of_ne_nil nonempty
      cases atHead
      exact blank c List.mem_cons_self

theorem words_append_left {front : List Char} (blank : IsBlankText front) (text : List Char) :
    words (front ++ text) = words text := by
  induction front with
  | nil => rfl
  | cons c front ih =>
      obtain ⟨atHead, blank⟩ := List.forall_mem_cons.mp blank
      have split := words_append_cons atHead [] (front ++ text)
      rw [ih blank] at split
      exact split

theorem words_of_isBlankText {text : List Char} (blank : IsBlankText text) : words text = [] := by
  have nothing := words_append_left blank []
  rwa [List.append_nil] at nothing

/-- Words end where a blank follows. -/
theorem words_append_of_head (before : List Char) {behind : List Char}
    (atHead : ∀ c, behind.head? = some c → isBlank c = true) :
    words (before ++ behind) = words before ++ words behind := by
  cases behind with
  | nil =>
      rw [List.append_nil]
      exact (List.append_nil _).symm
  | cons c behind =>
      have blank := atHead c rfl
      have alone := words_append_cons blank [] behind
      rw [words_append_cons blank, ← List.nil_append (c :: behind), alone]
      rfl

theorem words_trim (text : List Char) : words (trim text) = words text := by
  obtain ⟨front, behind, blankFront, blankBehind, split⟩ := eq_append_trim text
  have atHead : ∀ c, behind.head? = some c → isBlank c = true :=
    fun c atHead => blankBehind c (List.mem_of_mem_head? atHead)
  conv_rhs => rw [split]
  rw [List.append_assoc, words_append_left blankFront, words_append_of_head _ atHead,
    words_of_isBlankText blankBehind, List.append_nil]

/-- The words of a text are the items between its blanks. -/
theorem SpacedText.words_eq {items : List (List Char)} {text : List Char}
    (spaced : SpacedText items text)
    (proper : ∀ item ∈ items, item ≠ [] ∧ ∀ c ∈ item, isBlank c = false) :
    words text = items := by
  induction spaced with
  | nil blank => exact words_of_isBlankText blank
  | cons _ blank spaced ih =>
      obtain ⟨⟨nonempty, visible⟩, proper⟩ := List.forall_mem_cons.mp proper
      rw [List.append_assoc, words_append_left blank, words_append_of_head _ spaced.isBlank_head,
        words_of_not_blank nonempty visible, ih proper]
      rfl

end Calculator.Text
