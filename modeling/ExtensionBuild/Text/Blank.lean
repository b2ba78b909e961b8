import ExtensionBuild.Text.Pieces

/-! Blank characters: the Unicode property White_Space. Trimming removes blanks at both ends; the
words of a text are its maximal runs without a blank. -/
namespace ExtensionBuild.Text

def isBlank (c : Char) : Bool :=
  let n := c.toNat
  (0x9 ≤ n && n ≤ 0xD) || n == 0x20 || n == 0x85 || n == 0xA0 || n == 0x1680 ||
    (0x2000 ≤ n && n ≤ 0x200A) || n == 0x2028 || n == 0x2029 || n == 0x202F || n == 0x205F ||
    n == 0x3000

def trimStart (s : List Char) : List Char := s.dropWhile isBlank

def trimEnd (s : List Char) : List Char := (s.reverse.dropWhile isBlank).reverse

def trim (s : List Char) : List Char := trimEnd (trimStart s)

/-- The maximal runs of characters that are not blank, in order. -/
def words (s : List Char) : List (List Char) := (pieces isBlank s).filter (! ·.isEmpty)

def trimmed (s : String) : String := String.ofList (trim s.toList)

def isBlankText (s : String) : Bool := (trim s.toList).isEmpty

theorem words_blank_cons {c : Char} (blank : isBlank c = true) (s : List Char) :
    words (c :: s) = words s := by
  simp [words, pieces, blank]

end ExtensionBuild.Text
