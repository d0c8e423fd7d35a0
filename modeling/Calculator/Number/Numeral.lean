/-!
Numbers as text.
-/

namespace Calculator

/-- A number type with a written form. `read?` takes a text that is a number from end to
end; `write` gives the text under which a number is shown. -/
class Numeral (α : Type) where
  read? : List Char → Option α
  write : α → List Char

end Calculator
