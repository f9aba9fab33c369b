/-
ChaosDemo/Regex.lean

Regular expressions as functions.  A matcher takes a place in a text to all the
places at which a match can end, the preferred one first, so that a repetition takes
as many characters as it can and an alternative its left side when both lead to a
match: the search of a backtracking engine, as a list.

A place keeps what stands before it, the nearest character first, since a word
boundary looks at both sides.
-/
import Mathlib.Data.List.Basic

namespace ChaosDemo

/-- A place in a text. -/
structure Cursor where
  before : List Char
  after : List Char
deriving DecidableEq

namespace Cursor

/-- The beginning of a text. -/
def start (text : String) : Cursor := ⟨[], text.toList⟩

/-- `n` characters further on. -/
def move (c : Cursor) (n : ℕ) : Cursor := ⟨(c.after.take n).reverse ++ c.before, c.after.drop n⟩

/-- The text from `c` to a later place `d`. -/
def upTo (c d : Cursor) : String :=
  String.ofList (d.before.take (d.before.length - c.before.length)).reverse

end Cursor

/-- Where a match that begins at a place can end, in order of preference. -/
def Matcher := Cursor → List Cursor

namespace Matcher

/-- Exactly this text. -/
def text (s : String) : Matcher := fun c =>
  if s.toList.isPrefixOf c.after then [c.move s.length] else []

/-- One after the other. -/
def andThen (m n : Matcher) : Matcher := fun c => (m c).flatMap n

/-- One of several, an earlier one rather than a later one. -/
def oneOf (ms : List Matcher) : Matcher := fun c => ms.flatMap fun m => m c

/-- The matcher or nothing. -/
def optional (m : Matcher) : Matcher := fun c => m c ++ [c]

/-- All lengths from `lo` to `hi` of a run of characters of a class. -/
def runs (p : Char → Bool) (lo : ℕ) (hi : Option ℕ) (c : Cursor) : List ℕ :=
  let longest := (c.after.takeWhile p).length
  (List.range (min longest (hi.getD longest) + 1)).filter (lo ≤ ·)

/-- From `lo` to `hi` characters of a class, as many as possible. -/
def many (p : Char → Bool) (lo : ℕ) (hi : Option ℕ) : Matcher := fun c =>
  (runs p lo hi c).reverse.map c.move

/-- At least `lo` characters of a class, as few as possible. -/
def few (p : Char → Bool) (lo : ℕ) : Matcher := fun c => (runs p lo none c).map c.move

/-- A place with a word character on exactly one side. -/
def boundary (word : Char → Bool) : Matcher := fun c =>
  if c.before.head?.any word = c.after.head?.any word then [] else [c]

/-- The end of the text, or before a line break that ends it. -/
def ending : Matcher := fun c => if c.after = [] ∨ c.after = ['\n'] then [c] else []

/-- Several in a row. -/
def inOrder (ms : List Matcher) : Matcher := ms.foldr andThen fun c => [c]

/-- The matches of `m` from a place on that do not overlap, each the preferred one at
the first place that has one. -/
def findFrom (m : Matcher) : ℕ → Cursor → List String
  | 0, _ => []
  | fuel + 1, c =>
      match (m c).head? with
      | some d => c.upTo d :: findFrom m fuel (if d = c then c.move 1 else d)
      | none => if c.after = [] then [] else findFrom m fuel (c.move 1)

/-- The texts of all matches of `m`, none of which is empty. -/
def findAll (m : Matcher) (s : String) : List String := findFrom m (s.length + 1) (.start s)

end Matcher

end ChaosDemo
