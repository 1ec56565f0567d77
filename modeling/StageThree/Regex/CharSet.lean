import StageThree.Text.Blank
import StageThree.Text.Folding
import StageThree.Text.Word

/-!
Sets of characters, as the classes of a regular expression build them.
-/

namespace StageThree

inductive CharSet where
  | range (first last : Char)
  | digit
  | blank
  | word
  /-- The characters that are `c` up to case. -/
  | caseless (c : Char)
  /-- The characters that are a member up to case. -/
  | folded (set : CharSet)
  | negated (set : CharSet)
  | union (a b : CharSet)
  | inter (a b : CharSet)
  deriving DecidableEq, Inhabited

namespace CharSet

def contains : CharSet → Char → Bool
  | range first last, c => first ≤ c && c ≤ last
  | digit, c => Text.isDigit c
  | blank, c => Text.isBlank c
  | word, c => Text.isWord c
  | caseless d, c => Text.sameFold c d
  | folded set, c => (Text.foldMates c).any set.contains
  | negated set, c => !set.contains c
  | union a b, c => a.contains c || b.contains c
  | inter a b, c => a.contains c && b.contains c

def single (c : Char) : CharSet := range c c

def all : CharSet := range (Char.ofNat 0) (Char.ofNat 0x10FFFF)

def none : CharSet := negated all

def diff (a b : CharSet) : CharSet := inter a (negated b)

def symmDiff (a b : CharSet) : CharSet := union (diff a b) (diff b a)

/-- The characters of a list. -/
def ofChars (chars : List Char) : CharSet := (chars.map single).foldr union none

theorem contains_single {c d : Char} : (single c).contains d = true ↔ d = c := by
  simp only [single, contains, Bool.and_eq_true, decide_eq_true_eq]
  exact ⟨fun h => Char.le_antisymm h.2 h.1, fun h => h ▸ ⟨Char.le_refl _, Char.le_refl _⟩⟩

/-! ### Named classes -/

def asciiLower : CharSet := range 'a' 'z'

def asciiUpper : CharSet := range 'A' 'Z'

def asciiDigit : CharSet := range '0' '9'

def asciiAlpha : CharSet := union asciiLower asciiUpper

def asciiAlnum : CharSet := union asciiAlpha asciiDigit

def asciiWord : CharSet := union asciiAlnum (single '_')

def asciiBlank : CharSet := union (range '\t' '\r') (single ' ')

/-- The classes that go by a name inside brackets. -/
def named? : String → Option CharSet
  | "alnum" => some asciiAlnum
  | "alpha" => some asciiAlpha
  | "ascii" => some (range (Char.ofNat 0) (Char.ofNat 0x7F))
  | "blank" => some (ofChars ['\t', ' '])
  | "cntrl" => some (union (range (Char.ofNat 0) (Char.ofNat 0x1F)) (single (Char.ofNat 0x7F)))
  | "digit" => some asciiDigit
  | "graph" => some (range '!' '~')
  | "lower" => some asciiLower
  | "print" => some (range ' ' '~')
  | "punct" => some (union (union (range '!' '/') (range ':' '@'))
      (union (range '[' (Char.ofNat 0x60)) (range '{' '~')))
  | "space" => some asciiBlank
  | "upper" => some asciiUpper
  | "word" => some asciiWord
  | "xdigit" => some (union asciiDigit (union (range 'a' 'f') (range 'A' 'F')))
  | _ => Option.none

end CharSet

end StageThree
