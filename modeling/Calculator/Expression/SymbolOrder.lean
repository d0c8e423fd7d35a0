/-!
The order in which operator symbols are tried and listed: longer symbols first, by their
length in UTF-8, and symbols of one length by their bytes. It is a strict total order
(`ComesBefore.trans`, `ComesBefore.irrefl`, `comesBefore_of_not`), because a symbol is
determined by its bytes (`utf8_inj`).
-/

namespace Calculator.Expression

def utf8 (symbol : List Char) : List UInt8 :=
  symbol.flatMap String.utf8EncodeChar

theorem utf8_inj {a b : List Char} (same : utf8 a = utf8 b) : a = b := by
  have encoded : a.utf8Encode = b.utf8Encode := congrArg List.toByteArray same
  have decoded := List.utf8Decode?_utf8Encode (l := a)
  rw [encoded, List.utf8Decode?_utf8Encode] at decoded
  simpa using decoded.symm

/-- Is `a` tried before `b`? -/
def ComesBefore (a b : List Char) : Prop :=
  (utf8 b).length < (utf8 a).length ∨
    ((utf8 a).length = (utf8 b).length ∧ utf8 a < utf8 b)

instance (a b : List Char) : Decidable (ComesBefore a b) := by
  unfold ComesBefore; infer_instance

theorem ComesBefore.trans {a b c : List Char} (ab : ComesBefore a b) (bc : ComesBefore b c) :
    ComesBefore a c := by
  unfold ComesBefore at *
  rcases ab with ab | ⟨ab, below⟩ <;> rcases bc with bc | ⟨bc, below'⟩
  · exact .inl (by omega)
  · exact .inl (by omega)
  · exact .inl (by omega)
  · exact .inr ⟨by omega, List.lt_trans below below'⟩

theorem ComesBefore.irrefl (a : List Char) : ¬ ComesBefore a a := by
  unfold ComesBefore
  rintro (h | ⟨_, h⟩)
  · omega
  · exact List.lt_irrefl _ h

/-- Of two different symbols one comes before the other. -/
theorem comesBefore_of_not {a b : List Char} (notBefore : ¬ ComesBefore a b) (ne : b ≠ a) :
    ComesBefore b a := by
  unfold ComesBefore at *
  by_cases shorter : (utf8 a).length < (utf8 b).length
  · exact .inl shorter
  · have sameLength : (utf8 a).length = (utf8 b).length := by
      by_cases longer : (utf8 b).length < (utf8 a).length
      · exact absurd (.inl longer) notBefore
      · omega
    have notLess : utf8 b ≤ utf8 a := fun less => notBefore (.inr ⟨sameLength, less⟩)
    refine .inr ⟨sameLength.symm, ?_⟩
    by_cases less : utf8 b < utf8 a
    · exact less
    · exact absurd (utf8_inj (List.le_antisymm notLess less)) ne

/-- Symbols in the order of their bytes alone. -/
def sortByBytes (symbols : List (List Char)) : List (List Char) :=
  symbols.mergeSort fun a b => decide (utf8 a ≤ utf8 b)

end Calculator.Expression
