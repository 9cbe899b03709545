import Mathlib.Data.List.Infix
import SearchIndex.Json.Reader
import SearchIndex.Proofs.Outcome

/-!
# Keys that are read

What reading takes from a text is spelt in it: the key of a map stands between two quotes, character
by character, or with a backslash before every quote of its own. So a key that is not written as it
is takes more characters than it has, and a quote after anything but a backslash ends it.

Counting leaves out the characters that may stand between two keys. A text that is put together from
keys without escaping them then gives each of them back only if none had to be escaped.

## Main definitions

* `Spells raw key`: characters between two quotes that stand for a key
* `Leaves P cs r`: reading leaves an end of a text, and what is read is as `P` says
* `SpeltIn cs s`: a text is spelt somewhere in the characters

## Main results

* `Spells.weight_lt`, `Spells.eq_of_not_mem`: a spelling with an escape, and one without
* `Spells.eq_backslash_of_infix`: what stands before a quote
* `spelt_readString`, `leavesAll`: what is read up to a quote, and any value
* `entries_of_read`: the keys of a map are spelt in its text
-/

namespace SearchIndex.Json

/-! ## Spellings -/

/-- The characters between the name of a field and the next one, where each field has an empty
map. -/
def isMark (c : Char) : Bool := c = '"' || c = ':' || c = '\x7b' || c = '\x7d' || c = ','

/-- The number of characters that are no marks. -/
def weight (cs : List Char) : Nat := cs.countP fun c => !isMark c

theorem weight_cons (c : Char) (cs : List Char) : weight (c :: cs) = weight [c] + weight cs := by
  simp [weight, List.countP_cons, Nat.add_comm]

theorem weight_append (cs ds : List Char) : weight (cs ++ ds) = weight cs + weight ds :=
  List.countP_append ..

theorem weight_singleton_le (c : Char) : weight [c] ≤ 1 := List.countP_le_length

/-- The character stands for itself in a string. -/
def Plain (c : Char) : Prop := c ≠ '"' ∧ c ≠ '\\' ∧ 32 ≤ c.toNat

/-- **The characters between two quotes spell a string**: they stand for themselves, or a backslash
begins an escape, which weighs more than the character it stands for. -/
inductive Spells : List Char → List Char → Prop
  | nil : Spells [] []
  | plain {c : Char} {raw key : List Char} (hc : Plain c) (h : Spells raw key) :
      Spells (c :: raw) (c :: key)
  | escape {c e : Char} {more raw key : List Char} (hm : '"' ∉ more)
      (hw : weight [c] ≤ weight (e :: more)) (h : Spells raw key) :
      Spells ('\\' :: e :: (more ++ raw)) (c :: key)

namespace Spells

variable {raw key : List Char}

theorem weight_le (h : Spells raw key) : weight key ≤ weight raw := by
  induction h with
  | nil => exact Nat.le_refl _
  | @plain c raw key _ _ ih =>
    rw [weight_cons, weight_cons c raw]
    omega
  | @escape c e more raw key _ hw _ ih =>
    rw [weight_cons c, weight_cons '\\', ← List.cons_append, weight_append]
    omega

/-- A spelling with an escape weighs more than the string. -/
theorem weight_lt (h : Spells raw key) (hs : '\\' ∈ raw) : weight key < weight raw := by
  induction h with
  | nil => exact absurd hs List.not_mem_nil
  | @plain c raw key hc _ ih =>
    have := ih ((List.mem_cons.1 hs).resolve_left (Ne.symm hc.2.1))
    rw [weight_cons, weight_cons c raw]
    omega
  | @escape c e more raw key _ hw h ih =>
    have := h.weight_le
    have hslash : weight ['\\'] = 1 := by decide
    rw [weight_cons c, weight_cons '\\', ← List.cons_append, weight_append]
    omega

/-- A spelling without escapes is the string. -/
theorem eq_of_not_mem (h : Spells raw key) (hs : '\\' ∉ raw) : key = raw ∧ ∀ c ∈ key, Plain c := by
  induction h with
  | nil => exact ⟨rfl, List.forall_mem_nil _⟩
  | plain hc _ ih =>
    obtain ⟨rfl, hall⟩ := ih fun hm => hs (List.mem_cons_of_mem _ hm)
    exact ⟨rfl, List.forall_mem_cons.2 ⟨hc, hall⟩⟩
  | escape => exact absurd List.mem_cons_self hs

/-- A quote in a spelling follows a backslash. -/
theorem eq_backslash_of_infix (h : Spells raw key) {a b : Char}
    (hi : [a, '"'] <:+: b :: raw) : a = '\\' := by
  induction h generalizing b with
  | nil => exact absurd hi.length_le (by simp)
  | plain hc _ ih =>
    rcases List.infix_cons_iff.1 hi with hp | hi
    · simp only [List.cons_prefix_cons] at hp
      exact absurd hp.2.1.symm hc.1
    · exact ih hi
  | @escape c e more raw key hm _ h ih =>
    have htail : ∀ (more : List Char) (e : Char), '"' ∉ more → [a, '"'] <:+: e :: (more ++ raw) →
        a = '\\' := by
      intro more
      induction more with
      | nil => exact fun e _ hi => ih hi
      | cons m more ihm =>
        intro e hm hi
        rw [List.mem_cons, not_or] at hm
        rcases List.infix_cons_iff.1 hi with hp | hi
        · simp only [List.cons_append, List.cons_prefix_cons] at hp
          exact absurd hp.2.1 hm.1
        · exact ihm m hm.2 hi
    rcases List.infix_cons_iff.1 hi with hp | hi
    · simp [List.cons_prefix_cons] at hp
    · rcases List.infix_cons_iff.1 hi with hp | hi
      · exact (List.cons_prefix_cons.1 hp).1
      · exact htail more e hm hi

end Spells

theorem hexValue?_quote : hexValue? '"' = none := by decide

theorem readUnit?_eq_some {cs rest : List Char} {n : Nat} (h : readUnit? cs = some (n, rest)) :
    ∃ digits, cs = digits ++ rest ∧ '"' ∉ digits := by
  match cs, h with
  | a :: b :: c :: d :: cs, h =>
    simp only [readUnit?, Option.bind_eq_bind, Option.bind_eq_some_iff, Option.pure_def,
      Option.some.injEq, Prod.mk.injEq] at h
    obtain ⟨x, ha, y, hb, z, hc, w, hd, -, rfl⟩ := h
    refine ⟨[a, b, c, d], rfl, ?_⟩
    simp only [List.mem_cons, List.not_mem_nil, or_false]
    rintro (rfl | rfl | rfl | rfl) <;> simp [hexValue?_quote] at *

theorem lowHalf?_eq_some {cs rest : List Char} {n : Nat} (h : lowHalf? cs = some (n, rest)) :
    ∃ unit, cs = unit ++ rest ∧ '"' ∉ unit := by
  unfold lowHalf? at h
  split at h
  · next cs =>
    obtain ⟨digits, rfl, hd⟩ := readUnit?_eq_some (Option.filter_eq_some_iff.1 h).1
    exact ⟨'\\' :: 'u' :: digits, rfl, by simpa using hd⟩
  · nomatch h

theorem weight_shortEscape? {e c : Char} (h : shortEscape? e = some c) :
    weight [c] ≤ weight [e] := by
  unfold shortEscape? at h
  split at h <;> first | (obtain rfl := Option.some.inj h; decide) | nomatch h

theorem weight_singleton_le_unit (c : Char) (more : List Char) :
    weight [c] ≤ weight ('u' :: more) := by
  have hc := weight_singleton_le c
  have hu : weight ['u'] = 1 := by decide
  rw [weight_cons 'u']
  omega

/-- What is read is spelt by the characters before a quote. -/
def Spelt (r : Except Fault (List Char × List Char)) (cs : List Char) : Prop :=
  ∀ key rest, r = .ok (key, rest) → ∃ raw, cs = raw ++ '"' :: rest ∧ Spells raw key

section Spelt

variable {r : Except Fault (List Char × List Char)} {cs : List Char} {c : Char}

theorem Spelt.plain (h : Spelt r cs) (hc : Plain c) :
    Spelt (do let (tail, rest) ← r; return (c :: tail, rest)) (c :: cs) := by
  intro key rest hr
  obtain ⟨⟨tail, rest'⟩, htail, hr⟩ := bind_eq_ok_iff.1 hr
  obtain ⟨rfl, rfl⟩ := Prod.mk.inj (Except.ok.inj hr)
  obtain ⟨raw, rfl, hraw⟩ := h _ _ htail
  exact ⟨c :: raw, rfl, .plain hc hraw⟩

theorem Spelt.escape (h : Spelt r cs) {e : Char} {more : List Char} (hm : '"' ∉ more)
    (hw : weight [c] ≤ weight (e :: more)) :
    Spelt (do let (tail, rest) ← r; return (c :: tail, rest)) ('\\' :: e :: (more ++ cs)) := by
  intro key rest hr
  obtain ⟨⟨tail, rest'⟩, htail, hr⟩ := bind_eq_ok_iff.1 hr
  obtain ⟨rfl, rfl⟩ := Prod.mk.inj (Except.ok.inj hr)
  obtain ⟨raw, rfl, hraw⟩ := h _ _ htail
  exact ⟨'\\' :: e :: (more ++ raw), by simp, .escape hm hw hraw⟩

end Spelt

/-- **What is read up to a quote is spelt before it.** -/
theorem spelt_readString (opening fuel : Nat) (cs : List Char) :
    Spelt (readString opening fuel cs) cs := by
  induction fuel generalizing cs with
  | zero => exact fun _ _ h => nomatch h
  | succ fuel ih =>
    rw [readString.eq_def]
    dsimp only
    split
    · exact fun _ _ h => nomatch h
    · rintro _ _ ⟨⟩
      exact ⟨[], rfl, .nil⟩
    · exact fun _ _ h => nomatch h
    · split
      · exact fun _ _ h => nomatch h
      · next high after hread =>
        obtain ⟨digits, rfl, hd⟩ := readUnit?_eq_some hread
        split
        · split
          · next low after' hlow =>
            obtain ⟨unit, rfl, hu⟩ := lowHalf?_eq_some hlow
            rw [← List.append_assoc]
            exact (ih after').escape (by simp [hd, hu]) (weight_singleton_le_unit ..)
          · exact (ih after).escape hd (weight_singleton_le_unit ..)
        · split
          · exact (ih after).escape hd (weight_singleton_le_unit ..)
          · exact (ih after).escape hd (weight_singleton_le_unit ..)
    · next e after _ =>
      split
      · next c hc =>
        have hnone : '"' ∉ ([] : List Char) := List.not_mem_nil
        exact (ih after).escape hnone (weight_shortEscape? hc)
      · exact fun _ _ h => nomatch h
    · next c after hq hlast _ hs =>
      split
      · exact fun _ _ h => nomatch h
      · next hc =>
        refine (ih after).plain ⟨hq, fun hslash => ?_, Nat.not_lt.1 hc⟩
        cases after with
        | nil => exact hlast hslash rfl
        | cons e after => exact hs e after hslash rfl

/-! ## What reading leaves -/

section Leaves

variable {α β : Type} {P : α → Prop} {Q : β → Prop} {cs ds : List Char}

/-- **Reading leaves an end of a text**, and what is read is as `P` says. -/
def Leaves (P : α → Prop) (cs : List Char) (r : Except Fault (α × List Char)) : Prop :=
  ∀ x rest, r = .ok (x, rest) → rest <:+ cs ∧ P x

theorem leaves_ok {x : α} {rest : List Char} (h : rest <:+ cs) (hx : P x) :
    Leaves P cs (.ok (x, rest)) := by
  rintro _ _ ⟨⟩
  exact ⟨h, hx⟩

theorem leaves_error (f : Fault) : Leaves P cs (.error f) := fun _ _ h => nomatch h

theorem Leaves.bind {r : Except Fault (α × List Char)}
    {k : α × List Char → Except Fault (β × List Char)} (h : Leaves P cs r)
    (hk : ∀ x rest, rest <:+ cs → P x → Leaves Q cs (k (x, rest))) : Leaves Q cs (r >>= k) := by
  intro y rest hy
  obtain ⟨⟨x, rest'⟩, hx, hy⟩ := bind_eq_ok_iff.1 hy
  obtain ⟨hrest, hP⟩ := h x rest' hx
  exact hk x rest' hrest hP y rest hy

/-- What leaves an end of an end of a text leaves an end of the text. -/
theorem Leaves.of_suffix {R : α → Prop} {r : Except Fault (α × List Char)} (h : Leaves P ds r)
    (hs : ds <:+ cs) (hP : ∀ x, P x → R x) : Leaves R cs r := by
  intro x rest hx
  obtain ⟨hrest, hx⟩ := h x rest hx
  exact ⟨hrest.trans hs, hP x hx⟩

end Leaves

theorem skipBlank_suffix (cs : List Char) : skipBlank cs <:+ cs := List.dropWhile_suffix _

theorem suffix_of_skipBlank_eq_cons {c : Char} {cs ds rest : List Char} (h : ds <:+ cs)
    (he : skipBlank ds = c :: rest) : rest <:+ cs := by
  have hblank := (skipBlank_suffix ds).trans h
  rw [he] at hblank
  exact (List.suffix_cons c rest).trans hblank

/-- The text is spelt somewhere in the characters. -/
def SpeltIn (cs : List Char) (s : String) : Prop := ∃ raw, raw <:+: cs ∧ Spells raw s.toList

theorem SpeltIn.of_suffix {cs ds : List Char} {s : String} (h : SpeltIn ds s) (hs : ds <:+ cs) :
    SpeltIn cs s := by
  obtain ⟨raw, hraw, hspells⟩ := h
  exact ⟨raw, hraw.trans hs.isInfix, hspells⟩

theorem leaves_readText (cs : List Char) : Leaves (SpeltIn cs) cs (readText cs) := by
  intro s rest h
  obtain ⟨⟨key, rest'⟩, hread, h⟩ := bind_eq_ok_iff.1 h
  obtain ⟨rfl, rfl⟩ := Prod.mk.inj (Except.ok.inj h)
  obtain ⟨raw, rfl, hspells⟩ := spelt_readString _ _ _ _ _ hread
  refine ⟨⟨raw ++ ['"'], by simp⟩, raw, (List.prefix_append _ _).isInfix, ?_⟩
  rwa [String.toList_ofList]

/-! ### Numbers and words -/

theorem suffix_of_readFraction? {cs ds rest : List Char} (h : readFraction? cs = some (ds, rest)) :
    rest <:+ cs := by
  unfold readFraction? at h
  split at h
  · split at h
    · nomatch h
    · obtain ⟨-, rfl⟩ := Prod.mk.inj (Option.some.inj h)
      exact (List.drop_suffix _ _).trans (List.suffix_cons _ _)
  · nomatch h

theorem suffix_of_readExponent? {cs rest : List Char} {n : Int}
    (h : readExponent? cs = some (n, rest)) : rest <:+ cs := by
  unfold readExponent? at h
  split at h
  · next e cs =>
    split at h
    · dsimp only at h
      split at h
      · nomatch h
      · obtain ⟨-, rfl⟩ := Prod.mk.inj (Option.some.inj h)
        refine (List.drop_suffix _ _).trans (List.IsSuffix.trans ?_ (List.suffix_cons e cs))
        split
        · exact List.suffix_cons _ _
        · exact List.suffix_cons _ _
        · exact List.suffix_refl _
    · nomatch h
  · nomatch h

theorem suffix_of_readNumber? {negative : Bool} {cs rest : List Char} {v : Value}
    (h : readNumber? negative cs = some (v, rest)) : rest <:+ cs := by
  unfold readNumber? at h
  extract_lets whole at h
  clear_value whole
  split at h
  · nomatch h
  · dsimp only at h
    generalize hf : (readFraction? (cs.drop whole.length)).getD ([], cs.drop whole.length) = f at h
    generalize hx : (readExponent? f.2).getD (0, f.2) = x at h
    have hfraction : f.2 <:+ cs := by
      rw [← hf]
      cases hr : readFraction? (cs.drop whole.length) with
      | none => exact List.drop_suffix _ _
      | some f => exact (suffix_of_readFraction? hr).trans (List.drop_suffix _ _)
    have hexponent : x.2 <:+ cs := by
      rw [← hx]
      cases hr : readExponent? f.2 with
      | none => exact hfraction
      | some x => exact (suffix_of_readExponent? hr).trans hfraction
    split at h <;> obtain ⟨-, rfl⟩ := Prod.mk.inj (Option.some.inj h)
    · exact hexponent
    · exact hexponent

/-- What is found leaves an end of the text. -/
def FoundIn (cs : List Char) (found : Option (Value × List Char)) : Prop :=
  ∀ v rest, found = some (v, rest) → rest <:+ cs

theorem FoundIn.orElse {cs : List Char} {found other : Option (Value × List Char)}
    (h : FoundIn cs found) (ho : FoundIn cs other) : FoundIn cs (found <|> other) := by
  cases found with
  | none => exact ho
  | some _ => exact h

theorem foundIn_word (cs : List Char) (w : String) (v : Value) :
    FoundIn cs (if w.toList.isPrefixOf cs then some (v, cs.drop w.length) else none) := by
  intro _ rest h
  split at h
  · obtain ⟨-, rfl⟩ := Prod.mk.inj (Option.some.inj h)
    exact List.drop_suffix _ _
  · nomatch h

theorem leaves_readPlain (cs : List Char) : Leaves (fun _ => True) cs (readPlain cs) := by
  unfold readPlain
  extract_lets word found
  have hfound : FoundIn cs found := by
    have hword : ∀ w v, FoundIn cs (word w v) := foundIn_word cs
    refine (hword _ _).orElse <| (hword _ _).orElse <| (hword _ _).orElse <| (hword _ _).orElse <|
      (hword _ _).orElse <| (hword _ _).orElse ?_
    split
    · exact fun v rest h => (suffix_of_readNumber? h).trans (List.suffix_cons _ _)
    · exact fun v rest h => suffix_of_readNumber? h
  clear_value found
  split
  · exact leaves_ok (hfound _ _ rfl) trivial
  · exact leaves_error _

/-! ### Values -/

/-- The entries have keys that are spelt in the characters. -/
def KeysIn (cs : List Char) (es : List (String × Value)) : Prop := ∀ e ∈ es, SpeltIn cs e.1

/-- With some fuel, reading leaves an end of any text, and the keys of a map are spelt in it. -/
structure LeavesAll (fuel : Nat) : Prop where
  value : ∀ depth cs, Leaves (fun _ => True) cs (readValue fuel depth cs)
  items : ∀ depth cs, Leaves (fun _ => True) cs (readItems fuel depth cs)
  entries : ∀ depth cs, Leaves (KeysIn cs) cs (readEntries fuel depth cs)

namespace LeavesAll

variable {fuel : Nat} (h : LeavesAll fuel) (depth : Nat) (cs : List Char)

include h

theorem readValue : Leaves (fun _ => True) cs (readValue (fuel + 1) depth cs) := by
  rw [readValue.eq_def]
  dsimp only
  split
  · next cs =>
    refine ((leaves_readText cs).of_suffix (List.suffix_cons _ _) fun _ h => h).bind ?_
    exact fun s rest hrest _ => leaves_ok hrest trivial
  · exact leaves_error _
  · next cs depth =>
    split
    · next he => exact leaves_ok (suffix_of_skipBlank_eq_cons (List.suffix_cons _ _) he) trivial
    · refine ((h.items depth _).of_suffix ((skipBlank_suffix cs).trans (List.suffix_cons _ _))
        fun _ h => h).bind ?_
      exact fun items rest hrest _ => leaves_ok hrest trivial
  · exact leaves_error _
  · next cs depth =>
    split
    · next he => exact leaves_ok (suffix_of_skipBlank_eq_cons (List.suffix_cons _ _) he) trivial
    · refine ((h.entries depth _).of_suffix ((skipBlank_suffix cs).trans (List.suffix_cons _ _))
        fun _ h => h).bind ?_
      exact fun items rest hrest _ => leaves_ok hrest trivial
  · exact leaves_readPlain _

theorem readItems : Leaves (fun _ => True) cs (readItems (fuel + 1) depth cs) := by
  rw [Json.readItems]
  refine (h.value depth cs).bind fun v rest hrest _ => ?_
  dsimp only
  split
  · next he => exact leaves_ok (suffix_of_skipBlank_eq_cons hrest he) trivial
  · next rest he =>
    have hsuffix := (skipBlank_suffix _).trans (suffix_of_skipBlank_eq_cons hrest he)
    refine ((h.items depth _).of_suffix hsuffix fun _ h => h).bind ?_
    exact fun vs rest hrest _ => leaves_ok hrest trivial
  · exact leaves_error _

theorem readEntries : Leaves (KeysIn cs) cs (readEntries (fuel + 1) depth cs) := by
  rw [readEntries.eq_def]
  dsimp only
  split
  · next cs =>
    refine ((leaves_readText cs).of_suffix (List.suffix_cons _ _) fun _ h =>
      h.of_suffix (List.suffix_cons '"' cs)).bind fun key rest hrest hkey => ?_
    dsimp only
    split
    · next rest he =>
      have hvalue := (skipBlank_suffix _).trans (suffix_of_skipBlank_eq_cons hrest he)
      refine ((h.value depth _).of_suffix hvalue fun _ h => h).bind fun v rest hrest _ => ?_
      dsimp only
      split
      · next he =>
        exact leaves_ok (suffix_of_skipBlank_eq_cons hrest he) (List.forall_mem_singleton.2 hkey)
      · next rest he =>
        have hmore := (skipBlank_suffix _).trans (suffix_of_skipBlank_eq_cons hrest he)
        refine ((h.entries depth _).of_suffix (R := KeysIn ('"' :: cs)) hmore
          fun es hes e he => (hes e he).of_suffix hmore).bind fun es rest hrest hes => ?_
        exact leaves_ok hrest (List.forall_mem_cons.2 ⟨hkey, hes⟩)
      · exact leaves_error _
    · exact leaves_error _
  · exact leaves_error _

end LeavesAll

theorem leavesAll (fuel : Nat) : LeavesAll fuel := by
  induction fuel with
  | zero => exact ⟨fun _ _ => leaves_error _, fun _ _ => leaves_error _, fun _ _ => leaves_error _⟩
  | succ fuel ih => exact ⟨ih.readValue, ih.readItems, ih.readEntries⟩

/-! ### Texts of maps -/

theorem keysIn_ofList {cs : List Char} {es : List (String × Value)} (h : KeysIn cs es) :
    KeysIn cs (Keyed.ofList es) :=
  Keyed.forall_mem_ofList (fun e _ => Keyed.exact_of_lawful e.1) h

theorem entries_of_readValue {fuel depth : Nat} {cs rest : List Char} {v : Value}
    (h : readValue fuel depth ('\x7b' :: cs) = .ok (v, rest)) :
    ∃ es, KeysIn cs es ∧ v = .map (es.map fun (key, v) => (.text key, v)) := by
  cases fuel with
  | zero => nomatch h
  | succ fuel =>
    cases depth with
    | zero => nomatch h
    | succ depth =>
      simp only [readValue] at h
      split at h
      · obtain ⟨rfl, -⟩ := Prod.mk.inj (Except.ok.inj h)
        exact ⟨[], List.forall_mem_nil _, rfl⟩
      · obtain ⟨⟨es, rest'⟩, hes, h⟩ := bind_eq_ok_iff.1 h
        obtain ⟨rfl, -⟩ := Prod.mk.inj (Except.ok.inj h)
        obtain ⟨-, hkeys⟩ := (leavesAll fuel).entries depth _ es rest' hes
        refine ⟨Keyed.ofList es, keysIn_ofList fun e he => ?_, rfl⟩
        exact (hkeys e he).of_suffix (skipBlank_suffix cs)

/-- **A text that begins with a brace is read as a map whose keys are spelt in it.** -/
theorem entries_of_read [Limits] {s : String} {cs : List Char} {v : Value}
    (hs : s.toList = '\x7b' :: cs)
    (h : read s = .ok v) :
    ∃ es, KeysIn cs es ∧ v = .map (es.map fun (key, v) => (.text key, v)) := by
  unfold read at h
  rw [hs] at h
  obtain ⟨-, -, h⟩ := bind_eq_ok_iff.1 h
  obtain ⟨⟨v', rest⟩, hread, h⟩ := bind_eq_ok_iff.1 h
  obtain ⟨es, hes, rfl⟩ := entries_of_readValue hread
  dsimp only at h
  split at h
  · obtain rfl := Except.ok.inj h
    exact ⟨es, hes, rfl⟩
  · nomatch h

end SearchIndex.Json
