/-!
# White space

White space is what Unicode calls a space, a line or paragraph boundary, or one of the four
information separators; the zero-width space is not.

## Main definitions

* `isBlank c`: the character is white space
* `isSpacing c`: the character is white space and no information separator
* `trimStart p`, `trimEnd p`, `trim p`: a text without the characters satisfying `p` at its ends
* `strip s`: a text without the white space at its ends

## Main results

* `isBlank_of_isWhitespace`: the ASCII white space is white space
* `trimStart_idem`, `trimEnd_idem`: trimming twice is trimming once
-/

namespace SearchIndex.Text

/-- The character is white space. -/
def isBlank (c : Char) : Bool :=
  let n := c.toNat
  (9 ≤ n && n ≤ 13) || (28 ≤ n && n ≤ 32) || n == 0x85 || n == 0xa0 || n == 0x1680 ||
    (0x2000 ≤ n && n ≤ 0x200a) || n == 0x2028 || n == 0x2029 || n == 0x202f || n == 0x205f ||
    n == 0x3000

/-- The character is white space and no information separator. -/
def isSpacing (c : Char) : Bool := isBlank c && !(28 ≤ c.toNat && c.toNat ≤ 31)

theorem isBlank_of_isWhitespace {c : Char} (h : c.isWhitespace) : isBlank c := by
  simp only [Char.isWhitespace, Bool.or_eq_true, decide_eq_true_eq] at h
  rcases h with ((h | h) | h) | h <;> subst h <;> decide

/-- A text without the characters satisfying `p` at its start. -/
def trimStart (p : Char → Bool) (cs : List Char) : List Char := cs.dropWhile p

/-- A text without the characters satisfying `p` at its end. -/
def trimEnd (p : Char → Bool) (cs : List Char) : List Char := (cs.reverse.dropWhile p).reverse

/-- A text without the characters satisfying `p` at its ends. -/
def trim (p : Char → Bool) (cs : List Char) : List Char := trimEnd p (trimStart p cs)

/-- A text without the white space at its ends. -/
def strip (s : String) : String := String.ofList (trim isBlank s.toList)

theorem dropWhile_idem (p : Char → Bool) (cs : List Char) :
    (cs.dropWhile p).dropWhile p = cs.dropWhile p := by
  induction cs with
  | nil => rfl
  | cons c rest ih => by_cases h : p c <;> simp [h, ih]

theorem trimStart_idem (p : Char → Bool) (cs : List Char) :
    trimStart p (trimStart p cs) = trimStart p cs :=
  dropWhile_idem p cs

theorem trimEnd_idem (p : Char → Bool) (cs : List Char) :
    trimEnd p (trimEnd p cs) = trimEnd p cs := by
  simp [trimEnd, dropWhile_idem]

end SearchIndex.Text
