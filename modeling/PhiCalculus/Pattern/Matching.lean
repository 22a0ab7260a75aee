import PhiCalculus.Pattern.Automaton
import PhiCalculus.Pattern.Reader
import PhiCalculus.Pattern.Space

/-!
# Patterns and their matches

A pattern is a text that reads as a regular expression within the limits on nesting and space.  Two
patterns are equal when their texts are.
-/

set_option autoImplicit false

namespace PhiCalculus

namespace Pattern

/-- The deepest nesting of a pattern. -/
def nestLimit : Nat := 10

/-- What a text asks to search for as a regular expression, if it is one within the limits. -/
def meaning? (text : String) : Option Regular :=
  match Written.read? text.toList with
  | none => none
  | some w =>
    if nestLimit < w.depth then none
    else
      match w.regular? {} with
      | none => none
      | some (r, _) => r.search?

end Pattern

/-- A text that is a regular expression, with its meaning. -/
structure Pattern where
  text : String
  meaning : Pattern.Regular
  reads : Pattern.meaning? text = some meaning

namespace Pattern

/-- The pattern with that text. -/
def ofText? (text : String) : Option Pattern :=
  match h : meaning? text with
  | some r => some ⟨text, r, h⟩
  | none => none

/-- Patterns with the same text are the same. -/
theorem ext_text {a b : Pattern} (h : a.text = b.text) : a = b := by
  obtain ⟨s, r, hr⟩ := a
  obtain ⟨t, q, hq⟩ := b
  cases h
  cases Option.some.inj (hr.symm.trans hq)
  rfl

theorem text_ofText? {text : String} {p : Pattern} (h : ofText? text = some p) :
    p.text = text := by
  unfold ofText? at h
  split at h
  · cases h; rfl
  · cases h

instance : DecidableEq Pattern := fun a b =>
  if h : a.text = b.text then isTrue (ext_text h)
  else isFalse fun same => h (congrArg Pattern.text same)

/-- The pieces of the text that match, from left to right, none overlapping another. -/
def findIn (p : Pattern) (s : String) : List String :=
  let text := s.toList.toArray
  let (start, states) := p.meaning.build 0 #[.done]
  (findAll states start text (2 * text.size + 3) 0 none).map fun (first, finish) =>
    String.ofList (text.extract first finish).toList

end Pattern

end PhiCalculus
