import GuardedPatch.Yaml.Source

set_option autoImplicit false

/-! # Folding of blanks and line breaks

Between two words of a plain or quoted scalar stand blanks and line breaks. Blanks alone are kept. As soon as there
is a break the blanks go; one line feed becomes a space, and of several breaks all but the first are kept. A first
break that is a separator is kept as well, and one that was escaped leaves nothing. -/

namespace GuardedPatch.Yaml

/-- What stands between two words, the latest character first. -/
inductive Gap
  | blanks (cs : List Char)
  /-- The first break, if it was not escaped, and the breaks after it. -/
  | breaks (first : Option Char) (more : List Char)

/-- Nothing between two words. -/
def Gap.none : Gap := .blanks []

/-- Holds of gaps with a line break. -/
def Gap.hasBreak : Gap → Bool
  | .blanks _ => false
  | .breaks _ _ => true

/-- Holds of gaps with anything in them. -/
def Gap.isSome : Gap → Bool
  | .blanks [] => false
  | _ => true

/-- The gap with one more blank or break in it. -/
def Gap.add (g : Gap) (c : Char) : Gap :=
  match g with
  | .blanks cs => if isBreak c then .breaks (some c) [] else .blanks (c :: cs)
  | .breaks first more => if isBreak c then .breaks first (c :: more) else g

/-- What is left of a gap when a word follows, the latest character first. -/
def Gap.folded : Gap → List Char
  | .blanks cs => cs
  | .breaks (some '\n') [] => [' ']
  | .breaks (some '\n') more => more
  | .breaks (some c) more => more ++ [c]
  | .breaks Option.none more => more

end GuardedPatch.Yaml
