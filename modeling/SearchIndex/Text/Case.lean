import SearchIndex.Text.CaseTable

/-!
# Lower and upper case

The full case mappings of Unicode: a character may become several, and a capital sigma becomes the
final form when a character with case stands before it and none after it, case rules skipping
apostrophes, marks and the like.

## Main definitions

* `lower s`, `upper s`: a text in lower case and in upper case
* `capitalize s`: a text with an upper-case first character and the rest in lower case
-/

namespace SearchIndex.Text

/-- The code point lies in one of the ranges. -/
def inRanges (ranges : List (Nat × Nat)) (n : Nat) : Bool :=
  ranges.any fun (first, last) => first ≤ n && n ≤ last

/-- Where a mapping sends a code point. -/
def shifted (shifts : List Shift) (n : Nat) : Nat :=
  match shifts.find? fun s => s.first ≤ n && n ≤ s.last && (n - s.first) % s.step == 0 with
  | some s => ((n : Int) + s.distance).toNat
  | none => n

/-- The character has case, and case rules do not skip it. -/
def isCased (c : Char) : Bool := inRanges casedRanges c.toNat

/-- Case rules skip the character. -/
def isCaseIgnorable (c : Char) : Bool := inRanges ignorableRanges c.toNat

/-- The next character that case rules do not skip has case. -/
def meetsCased (cs : List Char) : Bool :=
  match cs.find? (fun c => !isCaseIgnorable c) with
  | some c => isCased c
  | none => false

/-- The lower case of one character, the final sigma apart. -/
def lowerChar (c : Char) : List Char :=
  if c.toNat = 0x130 then ['i', Char.ofNat 0x307] else [Char.ofNat (shifted lowerShifts c.toNat)]

/-- The upper case of one character. -/
def upperChar (c : Char) : List Char :=
  match upperExpansions.find? fun (n, _) => n == c.toNat with
  | some (_, expansion) => expansion.map Char.ofNat
  | none => [Char.ofNat (shifted upperShifts c.toNat)]

/-- The lower case of a text that follows the characters `before`, the nearest first. -/
def lowerAfter (before : List Char) : List Char → List Char
  | [] => []
  | c :: cs =>
    let mapped :=
      -- A capital sigma is the only letter whose lower case depends on its place.
      if c.toNat = 0x3a3 then
        [Char.ofNat (if meetsCased before && !meetsCased cs then 0x3c2 else 0x3c3)]
      else lowerChar c
    mapped ++ lowerAfter (c :: before) cs

/-- **A text in lower case.** -/
def lower (s : String) : String := String.ofList (lowerAfter [] s.toList)

/-- **A text in upper case.** -/
def upper (s : String) : String := String.ofList (s.toList.flatMap upperChar)

/-- A text with an upper-case first character and the rest in lower case. -/
def capitalize (s : String) : String :=
  match s.toList with
  | [] => ""
  | c :: cs => String.ofList (upperChar c ++ lowerAfter [c] cs)

end SearchIndex.Text
