/-!
# Lines

A line ends at a line feed. The feed after the last line does not start another one. Texts from
elsewhere may end lines with carriage returns, alone or before a line feed.

## Main definitions

* `lines s`: the lines of a text
* `feeds cs`: a text with a line feed at the end of every line

## Main results

* `linesFrom_append_of_no_feed`: characters that are no feeds stay in their line
* `feeds_of_no_return`: without carriage returns nothing changes
-/

namespace SearchIndex.Text

/-- The lines after the start of one. -/
def linesFrom : List Char → List Char → List (List Char)
  | [], [] => []
  | c :: line, [] => [c :: line]
  | line, c :: cs => if c = '\n' then line :: linesFrom [] cs else linesFrom (line ++ [c]) cs

theorem linesFrom_append_of_no_feed {line cs : List Char} (rest : List Char)
    (h : ∀ c ∈ cs, c ≠ '\n') : linesFrom line (cs ++ rest) = linesFrom (line ++ cs) rest := by
  induction cs generalizing line with
  | nil => simp
  | cons c cs ih =>
    rw [List.cons_append, linesFrom, if_neg (h c (by simp))]
    simpa using @ih (line ++ [c]) fun d hd => h d (by simp [hd])

/-- **The lines of a text.** -/
def lines (s : String) : List String := (linesFrom [] s.toList).map String.ofList

/-- **A text with a line feed at the end of every line**, where a carriage return, and a line feed
after it, end one too. -/
def feeds : List Char → List Char
  | [] => []
  | '\r' :: '\n' :: cs => '\n' :: feeds cs
  | '\r' :: cs => '\n' :: feeds cs
  | c :: cs => c :: feeds cs

theorem feeds_of_no_return {cs : List Char} (h : '\r' ∉ cs) : feeds cs = cs := by
  fun_induction feeds cs with
  | case1 => rfl
  | case2 => simp at h
  | case3 => simp at h
  | case4 c cs _ _ ih => simp_all

end SearchIndex.Text
