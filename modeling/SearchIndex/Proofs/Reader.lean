import SearchIndex.Proofs.NormalForm

/-!
# Reading queries

A reader of the query language: literals between single quotes with backslashes that escape, nodes
in prefix form, children one after the other. It reads a written query back up to its normal form
and stops where the query ends, whatever stands after it. So two queries have one text only if they
have one normal form, and no text inside a query changes its shape.

## Main definitions

* `readAttribute`, `readBound`, `readLeaf`, `readRange`: the parts of a node
* `readNode`, `readNodes`: a node, and nodes up to the closing parenthesis
* `Form.read`: the query at the start of a text, and the rest

## Main results

* `readAttribute_attributeChars`, `readBound_boundText`: an attribute and a bound are read back
* `readNode_text`: a node is read back
* `Form.reads_back`: whole queries and clauses, and what follows for equal texts
-/

namespace SearchIndex.Query

/-! ## The reader -/

/-- An attribute of a name, if it stands here, up to the blank after it. -/
def readAttribute (name : String) (cs : List Char) : Option (Option String × List Char) :=
  match Text.afterStart? (name ++ "='").toList cs with
  | none => some (none, cs)
  | some cs =>
    match readLiteral cs with
    | some (literal, ' ' :: rest) => some (some (String.ofList literal), rest)
    | _ => none

/-- A bound up to a mark: a literal, or a bare text. -/
def readBound (mark : Char) (cs : List Char) : Option (Form.Bound × List Char) :=
  match cs with
  | '\'' :: cs => do
    let (literal, cs) ← readLiteral cs
    let rest ← Text.afterStart? [mark] cs
    return (.quoted (String.ofList literal), rest)
  | cs => do
    let (bare, rest) ← Text.cutAt? [mark] cs
    return (.bare (String.ofList bare), rest)

/-- The lower side of a range, up to the comma. -/
def readLower (cs : List Char) : Option (Option Form.Bound × List Char) :=
  match cs with
  | '\x7b' :: ',' :: rest => some (none, rest)
  | '[' :: cs => (readBound ',' cs).map fun (bound, rest) => (some bound, rest)
  | _ => none

/-- The upper side of a range, with its bracket. -/
def readUpper (cs : List Char) : Option (Option Form.Bound × List Char) :=
  match cs with
  | '\x7d' :: rest => some (none, rest)
  | cs => (readBound ']' cs).map fun (bound, rest) => (some bound, rest)

/-- What follows the kind of a leaf that asks for a value. -/
def readLeaf (kind : Kind) (cs : List Char) : Option (Form × List Char) := do
  let (field, cs) ← readAttribute "field" cs
  let (distance, cs) ← readAttribute "distance" cs
  let (boost, cs) ← readAttribute "boost" cs
  let cs ← Text.afterStart? ['\''] cs
  let (value, cs) ← readLiteral cs
  let rest ← Text.afterStart? [')'] cs
  return (.leaf kind field distance boost (String.ofList value), rest)

/-- What follows the kind of a range. -/
def readRange (cs : List Char) : Option (Form × List Char) := do
  let cs ← Text.afterStart? "field=".toList cs
  let (field, cs) ← Text.cutAt? [' '] cs
  let (lower, cs) ← readLower cs
  let (upper, cs) ← readUpper cs
  let rest ← Text.afterStart? [')'] cs
  return (.range (String.ofList field) lower upper, rest)

mutual

/-- The node at the start of a text; the fuel bounds how far nodes are nested or follow one
another. -/
def readNode : Nat → List Char → Option (Form × List Char)
  | 0, _ => none
  | _ + 1, [] => none
  | fuel + 1, c :: cs =>
    if c = '\'' then
      (readLiteral cs).map fun (literal, rest) => (.literal (String.ofList literal), rest)
    else if c = '(' then
      match Text.afterStart? "matchall)".toList cs with
      | some rest => some (.everything, rest)
      | none => do
        let (name, cs) ← Text.cutAt? [' '] cs
        let kind ← Kind.ofName? (String.ofList name)
        match kind with
        | .and | .or | .not =>
          (readNodes fuel cs).map fun (children, rest) => (.combined kind children, rest)
        | .range => readRange cs
        | .term | .phrase | .leading | .near => readLeaf kind cs
        | .everything | .raw => none
    else none
termination_by structural fuel => fuel

/-- The nodes up to a closing parenthesis. -/
def readNodes : Nat → List Char → Option (List Form × List Char)
  | 0, _ => none
  | _ + 1, [] => none
  | fuel + 1, c :: cs =>
    if c = ')' then some ([], cs)
    else do
      let (form, cs) ← readNode fuel (c :: cs)
      let (forms, rest) ← readNodes fuel cs
      return (form :: forms, rest)
termination_by structural fuel => fuel

end

/-- **The query at the start of a text**, and the rest of the text. -/
def Form.read (s : String) : Option (Form × String) :=
  (readNode s.length s.toList).map fun (form, rest) => (form, String.ofList rest)

/-! ## Attributes and bounds -/

open Expression

section Parts

variable {name : String} {v : Value}

/-- An attribute as it is written out, a blank after it. -/
def attributeChars (name : String) (given : Option String) : List Char :=
  match given with
  | none => []
  | some s => (name ++ "='").toList ++ (escapeChars s.toList ++ ['\'', ' '])

theorem toList_attributeText_escape (hv : v = .null ∨ ∃ s, v = .text s) :
    (attributeText name (escape v)).toList = attributeChars name (attribute? v) := by
  rcases hv with rfl | ⟨s, rfl⟩
  · rfl
  · by_cases hs : s = ""
    · subst hs
      rfl
    · have he : escapeText s ≠ "" := escapeText_ne_empty_iff.2 hs
      simp [attributeText, attribute?, attributeChars, escape, Value.truthy, Value.plain, hs, he]

theorem toList_attributeText (hv : v = .null ∨ v.number?.isSome) :
    (attributeText name v).toList = attributeChars name (attribute? v) := by
  by_cases ht : v.truthy
  · have hn : v.number?.isSome := hv.resolve_left fun h => by
      rw [h] at ht
      cases ht
    simp [attributeText, attribute?, attributeChars, ht, (bare_plain hn).escapeChars_eq]
  · simp [attributeText, attribute?, attributeChars, ht]

/-- **An attribute is read back**, where nothing else looks like it. -/
theorem readAttribute_attributeChars {given : Option String} {rest : List Char}
    (hrest : given = none → Text.afterStart? (name ++ "='").toList rest = none) :
    readAttribute name (attributeChars name given ++ rest) = some (given, rest) := by
  rcases given with _ | s
  · simp only [readAttribute, attributeChars, List.nil_append, hrest]
  · simp only [readAttribute, attributeChars, List.append_assoc, Text.afterStart?_append,
      List.cons_append, List.nil_append, readLiteral_escapeChars, String.ofList_toList]

theorem toList_scalarText_escape (hv : IsScalar v) :
    (scalarText (escape v)).toList = escapeChars (scalarText v).toList := by
  rcases hv with ⟨s, rfl⟩ | hn
  · exact toList_escapeText s
  · have he : escape v = v := escape_of_not_text fun s hs => by
      rw [hs] at hn
      cases hn
    rw [he, (bare_scalarText hn).escapeChars_eq]

theorem boundText_of_number (hn : v.number?.isSome) :
    boundText v = scalarText v ∧ bound? v = some (.bare (scalarText v)) := by
  cases v with
  | bool | int | float => exact ⟨rfl, rfl⟩
  | null | text | list | map => cases hn

/-- **A bound is read back** up to the mark after it. -/
theorem readBound_boundText (hv : IsScalar v) {mark : Char} (hm : mark = ',' ∨ mark = ']')
    (rest : List Char) :
    (readBound mark ((boundText v).toList ++ mark :: rest)).map (fun p => (some p.1, p.2)) =
      some (bound? v, rest) := by
  rcases hv with ⟨s, rfl⟩ | hn
  · simp [boundText, bound?, readBound, readLiteral_escapeChars, Text.afterStart?]
  · have hb := bare_scalarText hn
    have hq : mark ≠ '\'' ∧ mark ∈ marks := by
      rcases hm with rfl | rfl <;> decide
    rw [(boundText_of_number hn).1, (boundText_of_number hn).2, readBound,
      Text.cutAt?_singleton_append (hb.not_mem hq.2)]
    · simp
    · exact fun cs => hb.append_cons_ne (by decide) hq.1

theorem isNothing_of_isScalar (hv : IsScalar v) : isNothing v = false := by
  rcases hv with ⟨s, rfl⟩ | hn
  · rfl
  · cases v with
    | null => cases hn
    | _ => rfl

theorem readLower_lowerSide (hv : v = .null ∨ IsScalar v) (rest : List Char) :
    readLower ((lowerSide v).toList ++ ',' :: rest) = some (bound? v, rest) := by
  rcases hv with rfl | hv
  · rfl
  · have h := readBound_boundText hv (.inl rfl) rest
    simpa [lowerSide, isNothing_of_isScalar hv, readLower] using h

theorem readUpper_upperSide (hv : v = .null ∨ IsScalar v) (rest : List Char) :
    readUpper ((upperSide v).toList ++ rest) = some (bound? v, rest) := by
  rcases hv with rfl | hv
  · rfl
  · have h := readBound_boundText hv (.inr rfl) rest
    have hne : ∀ cs, (boundText v).toList ++ ']' :: rest ≠ '\x7d' :: cs := by
      rcases hv with ⟨s, rfl⟩ | hn
      · simp [boundText]
      · rw [(boundText_of_number hn).1]
        exact fun cs => (bare_scalarText hn).append_cons_ne (by decide) (by decide)
    simp only [upperSide, isNothing_of_isScalar hv, Bool.false_eq_true, if_false,
      String.toList_append, List.append_assoc]
    rw [readUpper]
    · exact h
    · exact hne

end Parts

/-! ## The texts of nodes -/

section Texts

variable {kind : Kind} {field value boost distance lower upper : Value}
  {children : List (Option Expression)}

theorem toList_text_everything :
    (text ⟨.everything, field, value, boost, distance, lower, upper, children⟩).toList =
      '(' :: "matchall)".toList := by
  have h : text ⟨.everything, field, value, boost, distance, lower, upper, children⟩ =
      "(matchall)" := rfl
  rw [h]
  simp

theorem toList_text_raw :
    (text ⟨.raw, field, value, boost, distance, lower, upper, children⟩).toList =
      '\'' :: ((scalarText value).toList ++ ['\'']) := by
  have h : text ⟨.raw, field, value, boost, distance, lower, upper, children⟩ =
      "'" ++ scalarText value ++ "'" := rfl
  rw [h]
  simp

theorem toList_text_combined (hk : kind.isComposite = true) :
    (text ⟨kind, field, value, boost, distance, lower, upper, children⟩).toList =
      '(' :: (kind.name.toList ++ ' ' :: ((childrenText children).toList ++ [')'])) := by
  have h : text ⟨kind, field, value, boost, distance, lower, upper, children⟩ =
      "(" ++ kind.name ++ " " ++ childrenText children ++ ")" := by
    cases kind with
    | and | or | not => rfl
    | _ => cases hk
  rw [h]
  simp

theorem toList_text_range :
    (text ⟨.range, field, value, boost, distance, lower, upper, children⟩).toList =
      '(' :: (Kind.range.name.toList ++ ' ' :: ("field=".toList ++ ((escape field).plain.toList ++
        ' ' :: ((lowerSide lower).toList ++ ',' :: ((upperSide upper).toList ++ [')']))))) := by
  have h : text ⟨.range, field, value, boost, distance, lower, upper, children⟩ =
      "(range field=" ++ (escape field).plain ++ " " ++ lowerSide lower ++ "," ++
        upperSide upper ++ ")" := rfl
  rw [h]
  simp [Kind.name]

/-- The kinds of leaves that ask for a value. -/
def Kind.asks : Kind → Bool
  | .term | .phrase | .leading | .near => true
  | _ => false

theorem toList_text_leaf (hk : kind.asks = true) :
    (text ⟨kind, field, value, boost, distance, lower, upper, children⟩).toList =
      '(' :: (kind.name.toList ++ ' ' :: ((attributeText "field" (escape field)).toList ++
        ((attributeText "distance" distance).toList ++ ((attributeText "boost" boost).toList ++
          '\'' :: ((scalarText (escape value)).toList ++ ['\'', ')']))))) := by
  have h : text ⟨kind, field, value, boost, distance, lower, upper, children⟩ =
      leafText ⟨kind, field, value, boost, distance, lower, upper, []⟩ := by
    cases kind with
    | term | phrase | leading | near => rfl
    | _ => cases hk
  rw [h]
  simp [leafText]

end Texts

/-! ## Nodes -/

section Nodes

variable {kind : Kind} {field value boost distance lower upper : Value} {rest : List Char}

/-- A leaf is read back: what follows an attribute starts with another letter, or with a quote. -/
theorem readLeaf_leafText (hf : field = .null ∨ ∃ s, field = .text s)
    (hd : distance = .null ∨ distance.number?.isSome) (hb : boost = .null ∨ boost.number?.isSome)
    (hv : IsScalar value) :
    readLeaf kind ((attributeText "field" (escape field)).toList ++
        ((attributeText "distance" distance).toList ++ ((attributeText "boost" boost).toList ++
          '\'' :: ((scalarText (escape value)).toList ++ '\'' :: ')' :: rest)))) =
      some (.leaf kind (attribute? field) (attribute? distance) (attribute? boost)
        (scalarText value), rest) := by
  rw [toList_attributeText_escape hf, toList_attributeText hd, toList_attributeText hb,
    toList_scalarText_escape hv, readLeaf]
  rw [readAttribute_attributeChars fun _ => ?_]
  · simp only [Option.bind_eq_bind, Option.bind_some]
    rw [readAttribute_attributeChars fun _ => ?_]
    · simp only [Option.bind_some]
      rw [readAttribute_attributeChars fun _ => ?_]
      · simp [Text.afterStart?, readLiteral_escapeChars]
      · simp [Text.afterStart?]
    · rcases attribute? boost with _ | b <;> simp [attributeChars, Text.afterStart?]
  · rcases attribute? distance with _ | d <;> rcases attribute? boost with _ | b <;>
      simp [attributeChars, Text.afterStart?]

theorem readRange_text (hf : ∃ s, field = .text s ∧ IsName s) (hl : lower = .null ∨ IsScalar lower)
    (hu : upper = .null ∨ IsScalar upper) :
    readRange ("field=".toList ++ ((escape field).plain.toList ++
        ' ' :: ((lowerSide lower).toList ++ ',' :: ((upperSide upper).toList ++ ')' :: rest)))) =
      some (.range field.plain (bound? lower) (bound? upper), rest) := by
  obtain ⟨s, rfl, -, hs⟩ := hf
  have hplain := escapeChars_eq_self fun c hc => (hs c hc).2
  have hblank : ' ' ∉ s.toList := fun h => (hs _ h).1 rfl
  rw [readRange, Text.afterStart?_append]
  simp only [Option.bind_eq_bind, Option.bind_some, escape, Value.plain, toList_escapeText, hplain,
    Text.cutAt?_singleton_append hblank, readLower_lowerSide hl, readUpper_upperSide hu]
  simp [Text.afterStart?]

/-- What is done after a parenthesis goes by the kind. -/
theorem readNode_open (fuel : Nat) (kind : Kind) (cs : List Char) :
    readNode (fuel + 1) ('(' :: (kind.name.toList ++ ' ' :: cs)) =
      match kind with
      | .and | .or | .not =>
        (readNodes fuel cs).map fun (children, rest) => (.combined kind children, rest)
      | .range => readRange cs
      | .term | .phrase | .leading | .near => readLeaf kind cs
      | .everything | .raw => none := by
  have hm : Text.afterStart? "matchall)".toList (kind.name.toList ++ ' ' :: cs) = none := by
    cases kind <;> simp [Kind.name, Text.afterStart?]
  have hb : ' ' ∉ kind.name.toList := by
    cases kind <;> simp [Kind.name]
  rw [readNode]
  simp only [Char.reduceEq, if_false, if_true, hm, Text.cutAt?_singleton_append hb,
    Option.bind_eq_bind, Option.bind_some, String.ofList_toList, Kind.ofName?_name]

/-- The text of a node does not start like the end of a list of nodes. -/
theorem exists_text_eq_cons : ∀ e : Expression, ∃ c cs, e.text.toList = c :: cs ∧ c ≠ ')'
  | ⟨kind, field, value, boost, distance, lower, upper, children⟩ => by
    cases kind with
    | raw => exact ⟨'\'', _, toList_text_raw, by decide⟩
    | everything => exact ⟨'(', _, toList_text_everything, by decide⟩
    | range => exact ⟨'(', _, toList_text_range, by decide⟩
    | and | or | not => exact ⟨'(', _, toList_text_combined rfl, by decide⟩
    | term | phrase | leading | near => exact ⟨'(', _, toList_text_leaf rfl, by decide⟩

mutual

/-- **A node is read back**, whatever stands after it. -/
theorem readNode_text : ∀ e : Expression, e.Readable → ∀ (fuel : Nat) (rest : List Char),
    e.text.toList.length ≤ fuel →
      readNode fuel (e.text.toList ++ rest) = some (e.normal, rest)
  | ⟨kind, field, value, boost, distance, lower, upper, children⟩, he, fuel, rest, hfuel => by
    obtain ⟨fuel, rfl⟩ : ∃ n, fuel = n + 1 := by
      obtain ⟨c, cs, hc, -⟩ := exists_text_eq_cons
        ⟨kind, field, value, boost, distance, lower, upper, children⟩
      rw [hc, List.length_cons] at hfuel
      exact ⟨fuel - 1, by omega⟩
    cases kind with
    | everything =>
      rw [toList_text_everything]
      rfl
    | raw =>
      obtain ⟨-, s, rfl⟩ := he
      rw [toList_text_raw]
      simp [readNode, scalarText, Value.plain, readLiteral_escapeChars, normal,
        unescapeText_escapeText]
    | and | or | not =>
      rw [toList_text_combined rfl] at hfuel ⊢
      simp only [List.length_cons, List.length_append, List.length_nil] at hfuel
      have h := readNodes_childrenText children he fuel rest (by omega)
      simp only [List.cons_append, List.append_assoc, List.nil_append, readNode_open, h]
      rfl
    | range =>
      obtain ⟨-, hf, hl, hu⟩ := he
      rw [toList_text_range]
      simp only [List.cons_append, List.append_assoc, List.nil_append, readNode_open,
        readRange_text hf hl hu]
      rfl
    | term | phrase | leading | near =>
      obtain ⟨-, hf, hd, hb, hv⟩ := he
      rw [toList_text_leaf rfl]
      simp only [List.cons_append, List.append_assoc, List.nil_append, readNode_open,
        readLeaf_leafText hf hd hb hv]
      rfl

/-- Children are read back, up to the parenthesis that closes their node. -/
theorem readNodes_childrenText : ∀ cs : List (Option Expression), AllReadable cs →
    ∀ (fuel : Nat) (rest : List Char), (childrenText cs).toList.length + 1 ≤ fuel →
      readNodes fuel ((childrenText cs).toList ++ ')' :: rest) = some (normalChildren cs, rest)
  | [], _, fuel + 1, rest, _ => rfl
  | none :: _, hcs, _, _, _ => hcs.1.elim
  | some e :: cs, hcs, fuel + 1, rest, hfuel => by
    obtain ⟨c, tail, hc, hne⟩ := exists_text_eq_cons e
    simp only [childrenText, childText, String.toList_append, List.length_append] at hfuel
    have hlen : 1 ≤ e.text.toList.length := by
      rw [hc, List.length_cons]
      omega
    have hnode := readNode_text e hcs.1 fuel ((childrenText cs).toList ++ ')' :: rest) (by omega)
    have hnodes := readNodes_childrenText cs hcs.2 fuel rest (by omega)
    rw [hc, List.cons_append] at hnode
    simp only [childrenText, childText, String.toList_append, List.append_assoc, hc,
      List.cons_append, readNodes, if_neg hne, hnode, Option.bind_eq_bind, Option.bind_some, hnodes]
    rfl

end

end Nodes

/-! ## Whole queries -/

theorem read_text_append {e : Expression} (he : e.Readable) (t : String) :
    Form.read (e.text ++ t) = some (e.normal, t) := by
  have hlen : e.text.toList.length ≤ (e.text ++ t).length := by
    rw [String.length_append, String.length_toList]
    omega
  have h := readNode_text e he (e.text ++ t).length t.toList hlen
  simp only [Form.read, String.toList_append, h, Option.map_some, String.ofList_toList]

theorem render_of_readable {e : Expression} (he : e.Readable) : e.render = .ok e.text :=
  render_eq_ok_iff.2 ⟨Readable.isWhole e he, rfl⟩

/-- Two texts that are equal are read alike. -/
theorem normal_eq_of_text_eq {e e' : Expression} (he : e.Readable) (he' : e'.Readable)
    (h : e.text = e'.text) : e.normal = e'.normal := by
  have hr := read_text_append he ""
  rw [h, read_text_append he'] at hr
  exact (Prod.mk.inj (Option.some.inj hr)).1.symm

/-- The conjunction of the nodes of a clause. -/
def Clause.conjunction (c : Clause) : Expression := { kind := .and, children := c.nodes.map some }

section Clauses

variable {c c' : Clause}

theorem Clause.Readable.conjunction (hc : c.Readable) : c.conjunction.Readable :=
  allReadable_map_some.2 hc

theorem Clause.normal_conjunction : c.conjunction.normal = .combined .and c.normal :=
  congrArg _ (normalChildren_map_some c.nodes)

theorem Clause.render_of_readable (hc : c.Readable) :
    c.render = .ok (if c.nodes = [] then "" else c.conjunction.text) := by
  rw [Clause.render_eq_ok_iff]
  refine ⟨List.all_eq_true.2 fun e he => Readable.isWhole e (hc e he), ?_⟩
  rcases hn : c.nodes with _ | ⟨e, es⟩
  · simp [Clause.text, hn]
  · have ht : c.conjunction.text = "(" ++ Kind.and.name ++ " " ++
      childrenText (c.nodes.map some) ++ ")" := rfl
    rw [Clause.text, ht, hn]
    rfl

theorem Clause.normal_eq_of_render_eq (hc : c.Readable) (hc' : c'.Readable)
    (h : c.render = c'.render) : c.normal = c'.normal := by
  rw [Clause.render_of_readable hc, Clause.render_of_readable hc', Except.ok.injEq] at h
  have hne (d : Clause) : d.conjunction.text ≠ "" := by
    obtain ⟨x, xs, hx, -⟩ := exists_text_eq_cons d.conjunction
    intro h'
    rw [h'] at hx
    cases hx
  split at h
  · next hn =>
    split at h
    · next hn' => rw [Clause.normal, Clause.normal, hn, hn']
    · exact absurd h.symm (hne c')
  · split at h
    · exact absurd h (hne c)
    · have hf := normal_eq_of_text_eq hc.conjunction hc'.conjunction h
      rw [Clause.normal_conjunction, Clause.normal_conjunction] at hf
      exact (Form.combined.inj hf).2

end Clauses

/-- **Reading undoes writing.** What can be read back can be written; it is read back as its normal
form, whatever stands after it, and so are the nodes of a clause. Equal texts have equal normal
forms, and what is read has the kinds and the nesting of what was written. -/
theorem Form.reads_back :
    (∀ e : Expression, e.Readable → ∃ s, e.render = .ok s ∧
      ∀ t, Form.read (s ++ t) = some (e.normal, t)) ∧
    (∀ e e' : Expression, e.Readable → e'.Readable → e.render = e'.render →
      e.normal = e'.normal) ∧
    (∀ c : Clause, c.Readable → c.nodes ≠ [] → ∃ s, c.render = .ok s ∧
      ∀ t, Form.read (s ++ t) = some (.combined .and c.normal, t)) ∧
    (∀ c c' : Clause, c.Readable → c'.Readable → c.render = c'.render →
      c.normal = c'.normal) ∧
    (∀ e : Expression, e.Readable → ∀ s, e.render = .ok s → ∀ t f rest,
      Form.read (s ++ t) = some (f, rest) → f.shape = e.shape ∧ rest = t) := by
  refine ⟨fun e he => ⟨e.text, render_of_readable he, read_text_append he⟩, ?_, ?_, ?_, ?_⟩
  · intro e e' he he' h
    rw [render_of_readable he, render_of_readable he'] at h
    exact normal_eq_of_text_eq he he' (Except.ok.inj h)
  · intro c hc hn
    refine ⟨_, Clause.render_of_readable hc, fun t => ?_⟩
    rw [if_neg hn, read_text_append hc.conjunction, Clause.normal_conjunction]
  · intro c c' hc hc' h
    exact Clause.normal_eq_of_render_eq hc hc' h
  · intro e he s hs t f rest h
    rw [render_of_readable he] at hs
    cases hs
    rw [read_text_append he] at h
    cases h
    exact ⟨shape_normal e he, rfl⟩

/-- A conjunction of a value with a quote, a range and a literal. -/
theorem Form.reads_back_conjunction :
    let e : Expression :=
      { kind := .and
        children := [
          some { kind := .term, field := .text "title", value := .text "it's", boost := .int 2 },
          some { kind := .range, field := .text "year", lower := .int 1990, upper := .text "2000" },
          some { kind := .raw, value := .text "a\\\\b" }] }
    let c : Clause := ⟨[{ kind := .near, value := .int 5, distance := .int 0 }]⟩
    let c' : Clause := ⟨[{ kind := .near, value := .text "5", lower := .text "ignored" }]⟩
    let s := "(and (term field='title' boost='2' 'it\\'s')(range field=year [1990,'2000'])'a\\\\b')"
    (e.Readable ∧ ∀ t, Form.read (s ++ t) =
        some (.combined .and [.leaf .term (some "title") none (some "2") "it's",
          .range "year" (some (.bare "1990")) (some (.quoted "2000")), .literal "a\\b"], t)) ∧
      (c.Readable ∧ c'.Readable ∧ c.render = c'.render ∧ c.normal = c'.normal) := by
  intro e c c' s
  have hname : IsName "year" := ⟨by simp, by simp⟩
  have he : e.Readable :=
    ⟨⟨rfl, .inr ⟨_, rfl⟩, .inl rfl, .inr rfl, .inl ⟨_, rfl⟩⟩,
      ⟨rfl, ⟨_, rfl, hname⟩, .inr (.inr rfl), .inr (.inl ⟨_, rfl⟩)⟩, ⟨rfl, "a\\b", rfl⟩, trivial⟩
  have hc : c.Readable :=
    List.forall_mem_singleton.2 ⟨rfl, .inl rfl, .inr rfl, .inl rfl, .inr rfl⟩
  have hc' : c'.Readable :=
    List.forall_mem_singleton.2 ⟨rfl, .inl rfl, .inl rfl, .inl rfl, .inl ⟨_, rfl⟩⟩
  obtain ⟨hread, -, -, hclause, -⟩ := Form.reads_back
  obtain ⟨s', hs, hr⟩ := hread e he
  have hrender : c.render = c'.render := rfl
  refine ⟨⟨he, fun t => ?_⟩, hc, hc', hrender, hclause c c' hc hc' hrender⟩
  cases hs
  exact hr t

end SearchIndex.Query
