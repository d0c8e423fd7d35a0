import Calculator.Text.Blank
import Mathlib.Data.List.Basic
import Mathlib.Data.List.TakeWhile

/-!
Blanks around a text.

Trimming takes blanks away from both ends and nothing else (`eq_append_trim`), so texts that
differ only in the blanks around them are trimmed to the same (`trim_surround`).
-/

namespace Calculator.Text

/-- The characters from the exclamation mark to the tilde are no blanks. -/
theorem isBlank_eq_false_of_bounds {c : Char} (bounds : 32 < c.toNat ∧ c.toNat < 127) :
    isBlank c = false := by
  simp only [isBlank, inRanges, blankRanges, List.any_cons, List.any_nil, Bool.or_false,
    Bool.or_eq_false_iff, Bool.and_eq_false_iff, decide_eq_false_iff_not]
  omega

def IsBlankText (text : List Char) : Prop :=
  ∀ c ∈ text, isBlank c = true

theorem isBlankText_nil : IsBlankText [] :=
  List.forall_mem_nil _

theorem isBlankText_space : IsBlankText [' '] := by
  simp only [IsBlankText, List.mem_singleton, forall_eq]
  decide

theorem trimStart_append {front : List Char} (blank : IsBlankText front) (text : List Char) :
    trimStart (front ++ text) = trimStart text :=
  List.dropWhile_append_of_pos blank

theorem trim_append {front : List Char} (blank : IsBlankText front) (text : List Char) :
    trim (front ++ text) = trim text := by
  rw [trim, trimStart_append blank, trim]

theorem trim_of_isBlankText {text : List Char} (blank : IsBlankText text) : trim text = [] := by
  have nothing := trim_append blank []
  rwa [List.append_nil] at nothing

theorem trimStart_of_head {text : List Char}
    (visible : ∀ c, text.head? = some c → isBlank c = false) : trimStart text = text := by
  cases text with
  | nil => rfl
  | cons c text => exact List.dropWhile_cons_of_neg (by simp [visible c rfl])

/-- A text is its trimmed text with blanks on both sides. -/
theorem eq_append_trim (text : List Char) :
    ∃ front behind, IsBlankText front ∧ IsBlankText behind ∧ text = front ++ trim text ++ behind := by
  refine ⟨text.takeWhile isBlank, ((trimStart text).reverse.takeWhile isBlank).reverse,
    fun c mem => List.mem_takeWhile_imp mem,
    fun c mem => List.mem_takeWhile_imp (List.mem_reverse.mp mem), ?_⟩
  rw [trim, List.append_assoc, ← List.reverse_append, List.takeWhile_append_dropWhile,
    List.reverse_reverse, trimStart, List.takeWhile_append_dropWhile]

/-- Blanks around a text do not matter for what is left when it is trimmed. -/
theorem trim_surround {front behind : List Char} (blankFront : IsBlankText front)
    (blankBehind : IsBlankText behind) (text : List Char) :
    trim (front ++ text ++ behind) = trim text := by
  have reversed : IsBlankText behind.reverse := fun c mem => blankBehind c (List.mem_reverse.mp mem)
  rw [List.append_assoc, trim_append blankFront, trim, trim, trimStart, trimStart,
    List.dropWhile_append]
  split
  · rename_i allBlank
    rw [List.isEmpty_iff.mp allBlank, List.dropWhile_eq_nil_iff.mpr blankBehind]
  · rw [List.reverse_append, List.dropWhile_append_of_pos reversed]

/-- A text without a blank at either end is trimmed already. -/
theorem trim_of_ends {text : List Char} (head : ∀ c, text.head? = some c → isBlank c = false)
    (last : ∀ c, text.getLast? = some c → isBlank c = false) : trim text = text := by
  have reversed : trimStart text.reverse = text.reverse :=
    trimStart_of_head fun c atHead => last c (List.head?_reverse ▸ atHead)
  rw [trim, trimStart_of_head head]
  exact (congrArg List.reverse reversed).trans (List.reverse_reverse text)

theorem removeBlanks_append (first second : List Char) :
    removeBlanks (first ++ second) = removeBlanks first ++ removeBlanks second :=
  List.filter_append ..

theorem removeBlanks_of_isBlankText {text : List Char} (blank : IsBlankText text) :
    removeBlanks text = [] :=
  List.filter_eq_nil_iff.mpr fun c mem => by simp [blank c mem]

theorem removeBlanks_trim (text : List Char) : removeBlanks (trim text) = removeBlanks text := by
  obtain ⟨front, behind, blankFront, blankBehind, split⟩ := eq_append_trim text
  conv_rhs => rw [split]
  rw [removeBlanks_append, removeBlanks_append, removeBlanks_of_isBlankText blankFront,
    removeBlanks_of_isBlankText blankBehind, List.nil_append, List.append_nil]

end Calculator.Text
