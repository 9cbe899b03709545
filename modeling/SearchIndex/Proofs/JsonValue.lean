import Mathlib.Data.List.Nodup
import SearchIndex.Proofs.JsonScalar

/-!
# Values in JSON

What is written for a value without floats, whose maps have texts as keys, is read back in every
style whose marks are a comma and a colon, however large its integers are. The recursion is that of
the values. The fuel stays twice the length of what is to be read, as every value takes a character
and two steps, one for itself and one as an item.

## Main definitions

* `Style.Lawful`: the marks of a style are a comma and a colon, but for white space
* `Legible depth v`: the values that can be read back, with so many lists and maps in each other

## Main results

* `readValue_write`: a value is read back, whatever follows that does not go on with a number
* `readEntries_write`: the entries of a map are read back, with keys that are there twice
* `read_write`: the text of a value is read back
-/

namespace SearchIndex.Json

open Decimal

/-- The marks of a style: a comma and a colon, each with nothing but white space after it. -/
structure Style.Lawful (style : Style) : Prop where
  itemMark : ∃ blanks, style.itemMark.toList = ',' :: blanks ∧ ∀ c ∈ blanks, isBlank c = true
  keyMark : ∃ blanks, style.keyMark.toList = ':' :: blanks ∧ ∀ c ∈ blanks, isBlank c = true

theorem lawful_compact : compact.Lawful := ⟨⟨[], by decide, by simp⟩, ⟨[], by decide, by simp⟩⟩

theorem lawful_compactAscii : compactAscii.Lawful :=
  ⟨⟨[], by decide, by simp⟩, ⟨[], by decide, by simp⟩⟩

theorem lawful_spaced : spaced.Lawful :=
  ⟨⟨[' '], by decide, by simp [isBlank]⟩, ⟨[' '], by decide, by simp [isBlank]⟩⟩

/-! ## What can be read back -/

mutual

/-- **The values that can be read back**, with `depth` lists and maps in each other: without
floats, the keys of maps being texts of which none is there twice. -/
def Legible (depth : Nat) : Value → Prop
  | .null | .bool _ | .int _ | .text _ => True
  | .float _ => False
  | .list items => ∃ inner, depth = inner + 1 ∧ ItemsLegible inner items
  | .map entries =>
    (∃ inner, depth = inner + 1 ∧ EntriesLegible inner entries) ∧ (entries.map Prod.fst).Nodup
termination_by structural v => v

def ItemsLegible (depth : Nat) : List Value → Prop
  | [] => True
  | v :: vs => Legible depth v ∧ ItemsLegible depth vs
termination_by structural vs => vs

def EntryLegible (depth : Nat) : Value.Key × Value → Prop
  | (key, v) => (∃ s, key = .text s) ∧ Legible depth v
termination_by structural e => e

def EntriesLegible (depth : Nat) : List (Value.Key × Value) → Prop
  | [] => True
  | e :: es => EntryLegible depth e ∧ EntriesLegible depth es
termination_by structural es => es

end

theorem itemsLegible_iff {depth : Nat} {vs : List Value} :
    ItemsLegible depth vs ↔ ∀ v ∈ vs, Legible depth v := by
  induction vs with
  | nil => exact ⟨fun _ _ h => absurd h List.not_mem_nil, fun _ => trivial⟩
  | cons v vs ih => rw [ItemsLegible, ih, List.forall_mem_cons]

theorem entriesLegible_iff {depth : Nat} {es : Fields} :
    EntriesLegible depth es ↔ ∀ e ∈ es, (∃ s, e.1 = .text s) ∧ Legible depth e.2 := by
  induction es with
  | nil => exact ⟨fun _ _ h => absurd h List.not_mem_nil, fun _ => trivial⟩
  | cons e es ih => rw [EntriesLegible, ih, List.forall_mem_cons, EntryLegible]

/-! ## How texts begin -/

theorem skipBlank_append {bs : List Char} (hb : ∀ b ∈ bs, isBlank b = true) {c : Char}
    (hc : isBlank c = false) (cs : List Char) : skipBlank (bs ++ c :: cs) = c :: cs := by
  rw [skipBlank, List.dropWhile_append_of_pos hb, List.dropWhile_cons_of_neg (by simp [hc])]

theorem skipBlank_cons {c : Char} (hc : isBlank c = false) (cs : List Char) :
    skipBlank (c :: cs) = c :: cs := skipBlank_append (List.forall_mem_nil _) hc cs

/-- The texts between the marks of a style. -/
def joined (style : Style) (texts : List String) : List Char :=
  style.itemMark.toList.intercalate (texts.map String.toList)

theorem joined_singleton (style : Style) (t : String) : joined style [t] = t.toList := by
  simp [joined]

theorem joined_cons_cons (style : Style) (t u : String) (ts : List String) :
    joined style (t :: u :: ts) =
      t.toList ++ (style.itemMark.toList ++ joined style (u :: ts)) := by
  simp [joined, List.intercalate_cons_cons]

theorem exists_joined_eq_cons (style : Style) {c : Char} {cs : List Char} (t : String)
    (ts : List String) (h : t.toList = c :: cs) : ∃ tail, joined style (t :: ts) = c :: tail := by
  cases ts with
  | nil => exact ⟨cs, by rw [joined_singleton, h]⟩
  | cons u ts => exact ⟨_, by rw [joined_cons_cons, h, List.cons_append]⟩

theorem toList_write_list (style : Style) (items : List Value) :
    (write style (.list items)).toList =
      '[' :: (joined style (writeItems style items) ++ [']']) := by
  simp [write, joined, String.toList_intercalate]

theorem toList_write_map (style : Style) (entries : Fields) :
    (write style (.map entries)).toList =
      '\x7b' :: (joined style (writeEntries style entries) ++ ['\x7d']) := by
  simp [write, joined, String.toList_intercalate]

theorem toList_writeText (ascii : Bool) (s : String) :
    (writeText ascii s).toList = '"' :: (s.toList.flatMap (escapedChar ascii) ++ ['"']) := by
  simp [writeText]

theorem toList_writeEntry (style : Style) (s : String) (v : Value) :
    (writeEntry style (.text s, v)).toList =
      (writeText style.ascii s).toList ++ (style.keyMark.toList ++ (write style v).toList) := by
  simp [writeEntry, keyText]

theorem exists_intText_eq_cons (n : Int) :
    ∃ c cs, (intText n).toList = c :: cs ∧ (c.isDigit = true ∨ c = '-') := by
  by_cases h : n < 0
  · exact ⟨'-', digitChars n.natAbs, by simp [intText, natText, h], .inr rfl⟩
  · rcases hd : digitChars n.natAbs with _ | ⟨d, ds⟩
    · exact absurd hd Nat.toDigits_ne_nil
    · refine ⟨d, ds, by simp [intText, natText, h, hd], .inl ?_⟩
      exact isDigit_of_mem_digitChars (n := n.natAbs) (by simp [hd])

theorem exists_write_eq_cons (style : Style) {depth : Nat} {v : Value} (hv : Legible depth v) :
    ∃ c cs, (write style v).toList = c :: cs ∧ isBlank c = false ∧ c ≠ ']' ∧ c ≠ '\ufeff' := by
  cases v with
  | null => exact ⟨'n', "ull".toList, by simp [write], by decide, by decide, by decide⟩
  | bool b =>
    cases b with
    | true => exact ⟨'t', "rue".toList, by simp [write], by decide, by decide, by decide⟩
    | false => exact ⟨'f', "alse".toList, by simp [write], by decide, by decide, by decide⟩
  | float x => exact hv.elim
  | text s => exact ⟨'"', _, toList_writeText .., by decide, by decide, by decide⟩
  | list items => exact ⟨'[', _, toList_write_list .., by decide, by decide, by decide⟩
  | map entries => exact ⟨'\x7b', _, toList_write_map .., by decide, by decide, by decide⟩
  | int n =>
    obtain ⟨c, cs, hc, hd⟩ := exists_intText_eq_cons n
    refine ⟨c, cs, hc, ?_, ?_, ?_⟩
    · simp only [isBlank, Bool.or_eq_false_iff, beq_eq_false_iff_ne]
      refine ⟨⟨⟨?_, ?_⟩, ?_⟩, ?_⟩ <;> rintro rfl <;> exact absurd hd (by decide)
    · rintro rfl
      exact absurd hd (by decide)
    · rintro rfl
      exact absurd hd (by decide)

theorem exists_joined_writeEntries_eq_cons (style : Style) {depth : Nat} {e : Value.Key × Value}
    (es : Fields) (he : EntryLegible depth e) :
    ∃ tail, joined style (writeEntries style (e :: es)) = '"' :: tail := by
  obtain ⟨key, v⟩ := e
  obtain ⟨s, rfl⟩ := he.1
  exact exists_joined_eq_cons style _ _ (by rw [toList_writeEntry, toList_writeText]; rfl)

/-! ## One step of the reader -/

section Plain

variable (fuel depth : Nat) (style : Style) {rest : List Char}

theorem readValue_plain {c : Char} (cs : List Char) (h : c ≠ '"' ∧ c ≠ '[' ∧ c ≠ '\x7b') :
    readValue (fuel + 1) depth (c :: cs) = readPlain (c :: cs) := by
  simp [readValue, h]

theorem readValue_null :
    readValue (fuel + 1) depth ((write style .null).toList ++ rest) = .ok (.null, rest) := by
  have h : (write style .null).toList ++ rest = 'n' :: 'u' :: 'l' :: 'l' :: rest := by simp [write]
  rw [h, readValue_plain _ _ _ (by decide)]
  simp [readPlain]
  rfl

theorem readValue_bool (b : Bool) :
    readValue (fuel + 1) depth ((write style (.bool b)).toList ++ rest) = .ok (.bool b, rest) := by
  cases b with
  | true =>
    have h : (write style (.bool true)).toList ++ rest = 't' :: 'r' :: 'u' :: 'e' :: rest := by
      simp [write]
    rw [h, readValue_plain _ _ _ (by decide)]
    simp [readPlain]
    rfl
  | false =>
    have h : (write style (.bool false)).toList ++ rest =
        'f' :: 'a' :: 'l' :: 's' :: 'e' :: rest := by
      simp [write]
    rw [h, readValue_plain _ _ _ (by decide)]
    simp [readPlain]
    rfl

theorem readValue_int (n : Int) (hr : NoNumber rest) :
    readValue (fuel + 1) depth ((write style (.int n)).toList ++ rest) = .ok (.int n, rest) := by
  obtain ⟨c, cs, hc, hne⟩ := exists_intText_eq_cons n
  have hplain := readPlain_intText n hr
  rw [write, hc, List.cons_append, readValue_plain, ← List.cons_append, ← hc, hplain]
  refine ⟨?_, ?_, ?_⟩ <;> rintro rfl <;> exact absurd hne (by decide)

theorem readValue_text (s : String) :
    readValue (fuel + 1) depth ((write style (.text s)).toList ++ rest) = .ok (.text s, rest) := by
  rw [write, toList_writeText, List.cons_append, List.append_assoc]
  simp only [readValue]
  rw [List.cons_append, List.nil_append, readText_escaped]
  rfl

end Plain

section Step

variable {fuel depth : Nat} {c : Char} {cs rest : List Char} {v : Value}

theorem readValue_list (hb : isBlank c = false) (hc : c ≠ ']') :
    readValue (fuel + 1) (depth + 1) ('[' :: c :: cs) =
      (readItems fuel depth (c :: cs)).map fun (items, rest) => (.list items, rest) := by
  simp only [readValue, skipBlank_cons hb]
  split
  · next h => exact absurd (List.cons.inj h).1 hc
  · rfl

theorem readValue_map (hb : isBlank c = false) (hc : c ≠ '\x7d') :
    readValue (fuel + 1) (depth + 1) ('\x7b' :: c :: cs) =
      (readEntries fuel depth (c :: cs)).map fun (entries, rest) =>
        (.map ((Keyed.ofList entries).map fun (key, v) => (.text key, v)), rest) := by
  simp only [readValue, skipBlank_cons hb]
  split
  · next h => exact absurd (List.cons.inj h).1 hc
  · rfl

theorem readItems_error {f : Fault} (h : readValue fuel depth cs = .error f) :
    readItems (fuel + 1) depth cs = .error f := by
  rw [readItems, h]
  rfl

theorem readItems_last (h : readValue fuel depth cs = .ok (v, ']' :: rest)) :
    readItems (fuel + 1) depth cs = .ok ([v], rest) := by
  rw [readItems, h]
  rfl

theorem readItems_more (h : readValue fuel depth cs = .ok (v, ',' :: rest)) :
    readItems (fuel + 1) depth cs =
      (readItems fuel depth (skipBlank rest)).map fun (vs, rest) => (v :: vs, rest) := by
  rw [readItems, h]
  rfl

/-- An entry is read as its key, the mark of the style and its value. -/
theorem readEntries_entry {style : Style} (hs : style.Lawful) (s : String)
    (hc : isBlank c = false) (h : readValue fuel depth (c :: cs) = .ok (v, rest)) :
    readEntries (fuel + 1) depth
        ((writeText style.ascii s).toList ++ (style.keyMark.toList ++ c :: cs)) =
      match skipBlank rest with
      | '\x7d' :: rest => .ok ([(s, v)], rest)
      | ',' :: rest =>
        (readEntries fuel depth (skipBlank rest)).map fun (es, rest) => ((s, v) :: es, rest)
      | rest => expected "Expecting ',' delimiter" rest := by
  obtain ⟨blanks, hk, hb⟩ := hs.keyMark
  rw [toList_writeText, List.cons_append, List.append_assoc, hk]
  simp only [readEntries, List.cons_append, List.nil_append, readText_escaped, bind, Except.bind,
    skipBlank_cons (show isBlank ':' = false by decide), skipBlank_append hb hc, h]
  rfl

/-- The text of a map is read as soon as its entries are, with repeated keys assigned one after the
other. -/
theorem readValue_entries (style : Style) {es : Fields} (hes : EntriesLegible depth es)
    (h : es ≠ [] → readEntries fuel depth (joined style (writeEntries style es) ++ '\x7d' :: rest) =
      .ok (es.map fun e => (keyText e.1, e.2), rest)) :
    readValue (fuel + 1) (depth + 1) ((write style (.map es)).toList ++ rest) =
      .ok (.map ((Keyed.ofList (es.map fun e => (keyText e.1, e.2))).map fun (key, v) =>
        (.text key, v)), rest) := by
  rw [toList_write_map]
  rcases es with _ | ⟨e, es⟩
  · simp only [writeEntries, joined, List.map_nil, List.intercalate_nil, List.nil_append,
      List.cons_append, readValue, skipBlank_cons (show isBlank '\x7d' = false by decide)]
    rfl
  · obtain ⟨tail, ht⟩ := exists_joined_writeEntries_eq_cons style es hes.1
    replace h := h (List.cons_ne_nil _ _)
    rw [ht, List.cons_append] at h ⊢
    simp only [List.cons_append, List.append_assoc, List.nil_append]
    rw [readValue_map (by decide) (by decide), h]
    rfl

end Step

/-! ## Whole values -/

theorem map_keyText {depth : Nat} {es : Fields} (hes : EntriesLegible depth es) :
    es.map (fun e => (Value.Key.text (keyText e.1), e.2)) = es := by
  refine (List.map_congr_left fun e he => ?_).trans (List.map_id es)
  obtain ⟨⟨s, hs⟩, -⟩ := entriesLegible_iff.1 hes e he
  obtain ⟨key, v⟩ := e
  obtain rfl : key = .text s := hs
  rfl

theorem ofList_keyText {depth : Nat} {es : Fields} (hes : EntriesLegible depth es)
    (hn : (es.map Prod.fst).Nodup) :
    (Keyed.ofList (es.map fun e => (keyText e.1, e.2))).map
      (fun (key, v) => (Value.Key.text key, v)) = es := by
  rw [Keyed.ofList_of_nodup (fun _ _ => Keyed.exact_of_lawful _)]
  · rw [List.map_map]
    exact map_keyText hes
  · rw [← map_keyText hes, List.map_map] at hn
    rw [List.map_map]
    exact List.Nodup.of_map Value.Key.text (by simpa [Function.comp_def] using hn)

section ReadBack

variable {style : Style}

mutual

/-- **A value is read back**, whatever follows that does not go on with a number. -/
theorem readValue_write (hs : style.Lawful) : ∀ (v : Value) (depth : Nat), Legible depth v →
    ∀ (fuel : Nat) (rest : List Char), 2 * (write style v).toList.length ≤ fuel → NoNumber rest →
      readValue fuel depth ((write style v).toList ++ rest) = .ok (v, rest)
  | v, depth, hv, fuel, rest, hfuel, hrest => by
    obtain ⟨c, cs, hc, -⟩ := exists_write_eq_cons style hv
    obtain ⟨fuel, rfl⟩ : ∃ n, fuel = n + 1 := by
      rw [hc, List.length_cons] at hfuel
      exact ⟨fuel - 1, by omega⟩
    cases v with
    | null => exact readValue_null fuel depth style
    | bool b => exact readValue_bool fuel depth style b
    | float x => exact hv.elim
    | text s => exact readValue_text fuel depth style s
    | int n => exact readValue_int fuel depth style n hrest
    | list items =>
      obtain ⟨inner, rfl, hitems⟩ := hv
      rw [toList_write_list] at hfuel ⊢
      rcases items with _ | ⟨v, vs⟩
      · simp [writeItems, joined, readValue, skipBlank_cons (show isBlank ']' = false by decide)]
      · obtain ⟨d, ds, hd, hblank, hne, -⟩ := exists_write_eq_cons style hitems.1
        obtain ⟨tail, ht⟩ := exists_joined_eq_cons style _ (writeItems style vs) hd
        simp only [List.length_cons, List.length_append, List.length_nil] at hfuel
        have h := readItems_write hs (v :: vs) inner hitems (List.cons_ne_nil _ _) fuel rest
          (by omega)
        rw [writeItems, ht, List.cons_append] at h ⊢
        simp only [List.cons_append, List.append_assoc, List.nil_append]
        rw [readValue_list hblank hne, h]
        rfl
    | map entries =>
      obtain ⟨⟨inner, rfl, hentries⟩, hn⟩ := hv
      rw [toList_write_map, List.length_cons, List.length_append, List.length_singleton] at hfuel
      have h := readValue_entries style hentries fun hne =>
        readEntries_write hs entries inner hentries hne fuel rest (by omega)
      rwa [ofList_keyText hentries hn] at h

theorem readItems_write (hs : style.Lawful) : ∀ (vs : List Value) (depth : Nat),
    ItemsLegible depth vs → vs ≠ [] → ∀ (fuel : Nat) (rest : List Char),
      2 * (joined style (writeItems style vs)).length + 1 ≤ fuel →
        readItems fuel depth (joined style (writeItems style vs) ++ ']' :: rest) = .ok (vs, rest)
  | [v], depth, hvs, _, fuel + 1, rest, hfuel => by
    simp only [writeItems, joined_singleton] at hfuel ⊢
    exact readItems_last (readValue_write hs v depth hvs.1 fuel (']' :: rest) (by omega)
      (noNumber_cons (by decide)))
  | v :: w :: vs, depth, hvs, _, fuel + 1, rest, hfuel => by
    obtain ⟨blanks, hm, hb⟩ := hs.itemMark
    obtain ⟨c, cs, hc, hblank, -⟩ := exists_write_eq_cons style hvs.2.1
    obtain ⟨tail, ht⟩ := exists_joined_eq_cons style _ (writeItems style vs) hc
    simp only [writeItems, joined_cons_cons, hm, List.length_append, List.length_cons] at hfuel
    have hrest := readItems_write hs (w :: vs) depth hvs.2 (List.cons_ne_nil _ _) fuel rest
      (by rw [writeItems]; omega)
    have hv := readValue_write hs v depth hvs.1 fuel
      (',' :: (blanks ++ (joined style (writeItems style (w :: vs)) ++ ']' :: rest))) (by omega)
      (noNumber_cons (by decide))
    simp only [writeItems, ht, List.cons_append] at hrest hv
    simp only [writeItems, joined_cons_cons, hm, ht, List.append_assoc, List.cons_append]
    rw [readItems_more hv, skipBlank_append hb hblank, hrest]
    rfl

/-- **The entries of a map are read back**, with keys that are there twice. -/
theorem readEntries_write (hs : style.Lawful) : ∀ (es : Fields) (depth : Nat),
    EntriesLegible depth es → es ≠ [] → ∀ (fuel : Nat) (rest : List Char),
      2 * (joined style (writeEntries style es)).length + 1 ≤ fuel →
        readEntries fuel depth (joined style (writeEntries style es) ++ '\x7d' :: rest) =
          .ok (es.map fun e => (keyText e.1, e.2), rest)
  | [], _, _, hne, _, _, _ => absurd rfl hne
  | (key, v) :: es, depth, hes, _, fuel, rest, hfuel => by
    obtain ⟨fuel, rfl⟩ : ∃ n, fuel = n + 1 := ⟨fuel - 1, by omega⟩
    obtain ⟨⟨s, rfl⟩, hv⟩ := hes.1
    obtain ⟨c, cs, hc, hblank, -⟩ := exists_write_eq_cons style hv
    rcases es with _ | ⟨e, es⟩
    · simp only [writeEntries, joined_singleton, toList_writeEntry, List.length_append] at hfuel
      have hread := readValue_write hs v depth hv fuel ('\x7d' :: rest) (by omega)
        (noNumber_cons (by decide))
      rw [hc, List.cons_append] at hread
      simp only [writeEntries, joined_singleton, toList_writeEntry, hc, List.append_assoc,
        List.cons_append]
      rw [readEntries_entry hs s hblank hread]
      rfl
    · obtain ⟨blanks, hm, hb⟩ := hs.itemMark
      obtain ⟨tail, ht⟩ := exists_joined_writeEntries_eq_cons style es hes.2.1
      simp only [writeEntries, joined_cons_cons, toList_writeEntry, hm, List.length_append,
        List.length_cons] at hfuel
      have hrest := readEntries_write hs (e :: es) depth hes.2 (List.cons_ne_nil _ _) fuel rest
        (by rw [writeEntries]; omega)
      have hread := readValue_write hs v depth hv fuel
        (',' :: (blanks ++ (joined style (writeEntries style (e :: es)) ++ '\x7d' :: rest)))
        (by omega) (noNumber_cons (by decide))
      simp only [hc, ht, List.cons_append] at hrest hread
      simp only [writeEntries] at ht ⊢
      simp only [joined_cons_cons, toList_writeEntry, hm, ht, hc, List.append_assoc,
        List.cons_append]
      rw [readEntries_entry hs s hblank hread]
      simp only [skipBlank_cons (show isBlank ',' = false by decide),
        skipBlank_append hb (show isBlank '"' = false by decide), hrest]
      rfl

end

/-! ## Whole texts -/

variable [Limits]

theorem read_eq_of_readValue {s : String} {c : Char} {cs : List Char} (hs : s.toList = c :: cs)
    (hb : isBlank c = false) (hc : c ≠ '\ufeff') {r : Except Fault Value}
    (h : readValue (2 * s.toList.length + 2) Limits.depth s.toList = r.map (·, [])) :
    read s = r := by
  rw [read, hs, skipBlank_cons hb, ← hs, h]
  have hstart : checkStart s.toList = .ok () := by
    rw [hs, checkStart.eq_def]
    split
    · next h => exact absurd (List.cons.inj h).1 hc
    · rfl
  rw [hstart]
  cases r <;> rfl

/-- **The text of a value is read back.** -/
theorem read_write (hs : style.Lawful) {v : Value} (hv : Legible Limits.depth v) :
    read (write style v) = .ok v := by
  obtain ⟨c, cs, hc, hblank, -, hmark⟩ := exists_write_eq_cons style hv
  have h := readValue_write hs v Limits.depth hv (2 * (write style v).toList.length + 2) []
    (by omega) noNumber_nil
  rw [List.append_nil] at h
  exact read_eq_of_readValue hc hblank hmark h

/-- **The text of a map is read back** with its repeated keys assigned one after the other. -/
theorem read_write_map (hs : style.Lawful) {es : Fields} {depth : Nat}
    (hd : Limits.depth = depth + 1) (hes : EntriesLegible depth es) :
    read (write style (.map es)) =
      .ok (.map ((Keyed.ofList (es.map fun e => (keyText e.1, e.2))).map fun (key, v) =>
        (.text key, v))) := by
  have hfuel : 2 * (joined style (writeEntries style es)).length + 1 ≤
      2 * (write style (.map es)).toList.length + 1 := by
    rw [toList_write_map, List.length_cons, List.length_append]
    omega
  have h := readValue_entries style hes fun hne =>
    readEntries_write hs es depth hes hne _ [] hfuel
  rw [List.append_nil, ← hd] at h
  exact read_eq_of_readValue (toList_write_map style es) (by decide) (by decide) h

end ReadBack

end SearchIndex.Json
