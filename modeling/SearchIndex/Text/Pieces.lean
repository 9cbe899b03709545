/-!
# Taking texts apart

Cutting a text at a mark, and splitting it at every separator.

## Main definitions

* `cutAt? mark cs`: the text before and after the first occurrence of a mark
* `splitBy p cs`: the pieces between the separators, empty pieces included
* `replaceChar c with cs`: a text with every occurrence of one character replaced

## Main results

* `afterStart?_append`: what follows a prefix is found
* `cutAt?_eq_some`: the two sides and the mark between them are the text
* `cutAt?_eq_some_iff`: a text is cut at the first occurrence of a mark
* `splitBy_ne_nil`: there is always a piece
* `splitOn_intercalate`: texts put together with a character are the pieces again
* `intercalate_splitOn`: the pieces of a text put together are the text
* `replaceChar_append`: replacing distributes over concatenation
* `replaceChar_eq_intercalate`: replacing puts the pieces together with something else between them
-/

namespace SearchIndex.Text

/-- The text after a prefix, if it starts with it. -/
def afterStart? : List Char → List Char → Option (List Char)
  | [], cs => some cs
  | _ :: _, [] => none
  | m :: mark, c :: cs => if m = c then afterStart? mark cs else none

theorem eq_append_of_afterStart? {mark cs rest : List Char} (h : afterStart? mark cs = some rest) :
    cs = mark ++ rest := by
  induction mark generalizing cs with
  | nil => simpa [afterStart?] using h
  | cons m mark ih =>
    cases cs with
    | nil => simp [afterStart?] at h
    | cons c cs =>
      by_cases hc : m = c
      · subst hc
        simp only [afterStart?, ↓reduceIte] at h
        simp [ih h]
      · simp [afterStart?, hc] at h

theorem afterStart?_append (mark rest : List Char) :
    afterStart? mark (mark ++ rest) = some rest := by
  induction mark with
  | nil => rfl
  | cons m mark ih => simpa [afterStart?] using ih

theorem afterStart?_eq_some_iff {mark cs rest : List Char} :
    afterStart? mark cs = some rest ↔ cs = mark ++ rest :=
  ⟨eq_append_of_afterStart?, fun h => h ▸ afterStart?_append mark rest⟩

theorem afterStart?_eq_none_iff {mark cs : List Char} :
    afterStart? mark cs = none ↔ ¬mark <+: cs := by
  rw [Option.eq_none_iff_forall_ne_some]
  simp only [ne_eq, afterStart?_eq_some_iff]
  exact ⟨fun h ⟨rest, hrest⟩ => h rest hrest.symm, fun h rest hrest => h ⟨rest, hrest.symm⟩⟩

/-- The text before and after the first occurrence of a mark. -/
def cutAt? (mark : List Char) : List Char → Option (List Char × List Char)
  | [] => (afterStart? mark []).map ([], ·)
  | c :: cs =>
    match afterStart? mark (c :: cs) with
    | some rest => some ([], rest)
    | none => (cutAt? mark cs).map fun (before, after) => (c :: before, after)

theorem cutAt?_eq_some {mark cs before after : List Char}
    (h : cutAt? mark cs = some (before, after)) : cs = before ++ mark ++ after := by
  induction cs generalizing before with
  | nil =>
    simp only [cutAt?, Option.map_eq_some_iff, Prod.mk.injEq] at h
    obtain ⟨rest, hrest, rfl, rfl⟩ := h
    simpa using eq_append_of_afterStart? hrest
  | cons c cs ih =>
    simp only [cutAt?] at h
    split at h
    · next rest hrest =>
      obtain ⟨rfl, rfl⟩ := Prod.mk.inj (Option.some.inj h)
      simpa using eq_append_of_afterStart? hrest
    · simp only [Option.map_eq_some_iff, Prod.mk.injEq, Prod.exists] at h
      obtain ⟨b, a, hcut, rfl, rfl⟩ := h
      simp [ih hcut]

theorem cutAt?_eq_none_iff {mark cs : List Char} : cutAt? mark cs = none ↔ ¬mark <:+: cs := by
  induction cs with
  | nil =>
    rw [cutAt?, Option.map_eq_none_iff, afterStart?_eq_none_iff, List.infix_nil, List.prefix_nil]
  | cons c cs ih =>
    rw [cutAt?, List.infix_cons_iff, not_or, ← ih, ← afterStart?_eq_none_iff]
    cases afterStart? mark (c :: cs) <;> simp

theorem prefix_of_dropLast (before mark after : List Char) :
    before ++ mark.dropLast <+: before ++ mark ++ after := by
  rw [List.append_assoc, List.prefix_append_right_inj]
  exact (List.dropLast_prefix mark).trans (List.prefix_append ..)

/-- The mark does not stand earlier, not even in part where it was found. -/
theorem not_infix_of_cutAt? {mark cs before after : List Char} (hmark : mark ≠ [])
    (h : cutAt? mark cs = some (before, after)) : ¬mark <:+: before ++ mark.dropLast := by
  have hshort : ¬mark <:+: [] ++ mark.dropLast := fun h => by
    have hle := h.length_le
    have hpos := List.length_pos_iff.2 hmark
    rw [List.nil_append, List.length_dropLast] at hle
    omega
  induction cs generalizing before with
  | nil =>
    simp only [cutAt?, Option.map_eq_some_iff, Prod.mk.injEq] at h
    obtain ⟨-, -, rfl, -⟩ := h
    exact hshort
  | cons c cs ih =>
    rw [cutAt?] at h
    split at h
    · obtain ⟨rfl, -⟩ := Prod.mk.inj (Option.some.inj h)
      exact hshort
    · next hnone =>
      simp only [Option.map_eq_some_iff, Prod.mk.injEq, Prod.exists] at h
      obtain ⟨before, after, hcut, rfl, rfl⟩ := h
      rw [List.cons_append, List.infix_cons_iff, not_or]
      refine ⟨fun hstart => afterStart?_eq_none_iff.1 hnone ?_, ih hcut⟩
      rw [cutAt?_eq_some hcut]
      exact hstart.trans (prefix_of_dropLast (c :: before) mark after)

/-- **A text is cut at the first occurrence of a mark.** -/
theorem cutAt?_eq_some_iff {mark cs before after : List Char} (hmark : mark ≠ []) :
    cutAt? mark cs = some (before, after) ↔
      cs = before ++ mark ++ after ∧ ¬mark <:+: before ++ mark.dropLast := by
  refine ⟨fun h => ⟨cutAt?_eq_some h, not_infix_of_cutAt? hmark h⟩, ?_⟩
  rintro ⟨rfl, hfirst⟩
  induction before with
  | nil =>
    obtain ⟨m, mark, rfl⟩ := List.exists_cons_of_ne_nil hmark
    rw [List.nil_append, List.cons_append, cutAt?, ← List.cons_append, afterStart?_append]
  | cons c before ih =>
    rw [List.cons_append, List.infix_cons_iff, not_or] at hfirst
    have hnone : afterStart? mark (c :: before ++ mark ++ after) = none := by
      refine afterStart?_eq_none_iff.2 fun hstart => hfirst.1 ?_
      refine List.prefix_of_prefix_length_le hstart
        (prefix_of_dropLast (c :: before) mark after) ?_
      simp only [List.length_cons, List.length_append, List.length_dropLast]
      omega
    rw [List.cons_append, List.cons_append] at hnone ⊢
    rw [cutAt?, hnone, ih hfirst.2]
    rfl

/-- A text is cut at a character where that stands first. -/
theorem cutAt?_singleton_eq_some_iff {m : Char} {cs before after : List Char} :
    cutAt? [m] cs = some (before, after) ↔ cs = before ++ m :: after ∧ m ∉ before := by
  have hmem : [m] <:+: before ↔ m ∈ before := by
    refine ⟨fun h => h.subset List.mem_cons_self, fun h => ?_⟩
    obtain ⟨first, rest, rfl⟩ := List.append_of_mem h
    exact ⟨first, rest, by simp⟩
  rw [cutAt?_eq_some_iff (List.cons_ne_nil m []), List.dropLast_singleton, List.append_nil, hmem,
    List.append_assoc, List.singleton_append]

theorem cutAt?_singleton_append {m : Char} {before : List Char} (h : m ∉ before)
    (after : List Char) : cutAt? [m] (before ++ m :: after) = some (before, after) :=
  cutAt?_singleton_eq_some_iff.2 ⟨rfl, h⟩

/-! ## Separators -/

/-- The pieces between the separators, empty pieces included. -/
def splitBy (p : Char → Bool) : List Char → List (List Char)
  | [] => [[]]
  | c :: cs =>
    if p c then [] :: splitBy p cs
    else
      match splitBy p cs with
      | [] => [[c]]
      | piece :: pieces => (c :: piece) :: pieces

theorem splitBy_ne_nil (p : Char → Bool) (cs : List Char) : splitBy p cs ≠ [] := by
  cases cs with
  | nil => simp [splitBy]
  | cons c cs =>
    simp only [splitBy]
    split
    · simp
    · split <;> simp

theorem splitBy_of_forall_not {p : Char → Bool} {cs : List Char} (h : ∀ c ∈ cs, p c = false) :
    splitBy p cs = [cs] := by
  induction cs with
  | nil => rfl
  | cons c cs ih =>
    obtain ⟨hc, hcs⟩ := List.forall_mem_cons.1 h
    simp only [splitBy, hc, ih hcs, Bool.false_eq_true, ↓reduceIte]

theorem splitBy_append {p : Char → Bool} {cs : List Char} (h : ∀ c ∈ cs, p c = false)
    {separator : Char} (hs : p separator = true) (rest : List Char) :
    splitBy p (cs ++ separator :: rest) = cs :: splitBy p rest := by
  induction cs with
  | nil => simp only [List.nil_append, splitBy, hs, ↓reduceIte]
  | cons c cs ih =>
    obtain ⟨hc, hcs⟩ := List.forall_mem_cons.1 h
    simp only [List.cons_append, splitBy, hc, ih hcs, Bool.false_eq_true, ↓reduceIte]

theorem not_mem_of_mem_splitBy {p : Char → Bool} {cs piece : List Char}
    (h : piece ∈ splitBy p cs) : ∀ c ∈ piece, p c = false := by
  induction cs generalizing piece with
  | nil =>
    rw [splitBy, List.mem_singleton] at h
    rw [h]
    exact List.forall_mem_nil _
  | cons c cs ih =>
    rw [splitBy] at h
    split at h
    · rcases List.mem_cons.1 h with rfl | h
      · exact List.forall_mem_nil _
      · exact ih h
    · next hc =>
      rcases hpieces : splitBy p cs with _ | ⟨first, pieces⟩
      · exact absurd hpieces (splitBy_ne_nil p cs)
      · rw [hpieces] at h ih
        rcases List.mem_cons.1 h with rfl | h
        · exact List.forall_mem_cons.2 ⟨Bool.not_eq_true _ ▸ hc, ih List.mem_cons_self⟩
        · exact ih (List.mem_cons_of_mem _ h)

/-- The pieces put together with a text have that text in place of every separator. -/
theorem intercalate_splitBy_eq_flatMap (separator : Char) (replacement cs : List Char) :
    replacement.intercalate (splitBy (· == separator) cs) =
      cs.flatMap fun c => if c = separator then replacement else [c] := by
  induction cs with
  | nil => rfl
  | cons c cs ih =>
    rcases hpieces : splitBy (· == separator) cs with _ | ⟨first, pieces⟩
    · exact absurd hpieces (splitBy_ne_nil _ cs)
    · rw [hpieces] at ih
      rw [splitBy, hpieces, List.flatMap_cons, ← ih]
      by_cases hc : c = separator
      · rw [if_pos (beq_iff_eq.2 hc), if_pos hc, List.intercalate_cons_cons, List.nil_append]
      · rw [if_neg (by simpa using hc), if_neg hc]
        cases pieces with
        | nil => rw [List.intercalate_singleton, List.intercalate_singleton, List.singleton_append]
        | cons second pieces =>
          rw [List.intercalate_cons_cons, List.intercalate_cons_cons]
          rfl

theorem intercalate_splitBy (separator : Char) (cs : List Char) :
    [separator].intercalate (splitBy (· == separator) cs) = cs := by
  rw [intercalate_splitBy_eq_flatMap]
  induction cs with
  | nil => rfl
  | cons c cs ih =>
    rw [List.flatMap_cons, ih]
    split
    · next hc => rw [hc, List.singleton_append]
    · rw [List.singleton_append]

/-- The pieces of a text between the occurrences of one character. -/
def splitOn (separator : Char) (s : String) : List String :=
  (splitBy (· == separator) s.toList).map String.ofList

/-- **Texts that are put together with a character are the pieces again.** -/
theorem splitOn_intercalate {separator : Char} {parts : List String} (hne : parts ≠ [])
    (h : ∀ part ∈ parts, separator ∉ part.toList) :
    splitOn separator ((String.singleton separator).intercalate parts) = parts := by
  have hpart : ∀ part ∈ parts, ∀ c ∈ part.toList, (c == separator) = false := by
    intro part hp c hc
    exact beq_eq_false_iff_ne.2 fun heq => h part hp (heq ▸ hc)
  clear h
  rw [splitOn]
  induction parts with
  | nil => contradiction
  | cons part parts ih =>
    obtain ⟨hfirst, hrest⟩ := List.forall_mem_cons.1 hpart
    cases parts with
    | nil =>
      rw [String.intercalate_singleton, splitBy_of_forall_not hfirst]
      simp only [List.map_cons, List.map_nil, String.ofList_toList]
    | cons next parts =>
      have hcut := splitBy_append hfirst (beq_self_eq_true separator)
        ((String.singleton separator).intercalate (next :: parts)).toList
      have htext : ((String.singleton separator).intercalate (part :: next :: parts)).toList =
          part.toList ++ separator ::
            ((String.singleton separator).intercalate (next :: parts)).toList := by
        rw [String.intercalate_cons_cons]
        simp only [String.toList_append, String.toList_singleton, List.append_assoc,
          List.singleton_append]
      rw [htext, hcut, List.map_cons, String.ofList_toList, ih (List.cons_ne_nil _ _) hrest]

theorem toList_intercalate_splitOn (separator : Char) (replacement s : String) :
    (replacement.intercalate (splitOn separator s)).toList =
      replacement.toList.intercalate (splitBy (· == separator) s.toList) := by
  have hid : String.toList ∘ String.ofList = id := by
    funext cs
    exact String.toList_ofList
  rw [String.toList_intercalate, splitOn, List.map_map, hid, List.map_id]

/-- **The pieces of a text put together are the text.** -/
theorem intercalate_splitOn (separator : Char) (s : String) :
    (String.singleton separator).intercalate (splitOn separator s) = s := by
  rw [← String.toList_inj, toList_intercalate_splitOn, String.toList_singleton, intercalate_splitBy]

/-- A text with every occurrence of `c` replaced. -/
def replaceChar (c : Char) (replacement : List Char) (cs : List Char) : List Char :=
  cs.flatMap fun d => if d = c then replacement else [d]

theorem replaceChar_append (c : Char) (r cs ds : List Char) :
    replaceChar c r (cs ++ ds) = replaceChar c r cs ++ replaceChar c r ds := by
  simp [replaceChar]

/-- **Replacing a character** puts the pieces between its occurrences together. -/
theorem replaceChar_eq_intercalate (c : Char) (replacement s : String) :
    replaceChar c replacement.toList s.toList =
      (replacement.intercalate (splitOn c s)).toList := by
  rw [toList_intercalate_splitOn, intercalate_splitBy_eq_flatMap, replaceChar]

end SearchIndex.Text
