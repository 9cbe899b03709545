import SearchIndex.Proofs.JsonKey
import SearchIndex.Proofs.Parts
import SearchIndex.Proofs.SentParameters

/-!
# Statistics that are asked for

The fields with statistics are compiled into one JSON text, which is put together from them as they
are, and spread out again when the parameters are sent. Whatever the fields are, and whatever else
the request holds, each of them is sent under its own name exactly if none holds a quote, a
backslash or a control character.

That nothing else can work rests on counting. A field that has to be escaped takes more characters
in the text than it has, and these lie within the part of another field, which has more of them and
has to be escaped as well. There is no end to such fields, so one of them is lost.

## Main definitions

* `askedStats steps`: the fields that steps ask statistics of
* `isStatsName key`: the name is that of a parameter for statistics
* `SendsStats r fields`: a request is sent with statistics of the fields, and of no others

## Main results

* `Json.unescaped_of_speltIn`: fields that are all spelt in the text of them need no escape
* `names_of_spread_statsText`: what the text is spread out into is named after what is spelt in it
* `SendsStats.unescaped`, `sendsStats_of_unescaped`: what sending the statistics takes, and what is
  enough for it
* `sendsStats_iff_of_steps`: the requests, however they are built, that send their statistics
-/

namespace SearchIndex

namespace Json

open Query.Request (Unescaped)

/-! ## Texts of fields -/

/-- Two neighbours that a list does not hold do not both lie in it, wherever it lies. -/
theorem infix_or_of_not_infix {α : Type} {a b : α} {l before after : List α}
    (h : l <:+: before ++ a :: b :: after) (hn : ¬ [a, b] <:+: l) :
    l <:+: before ++ [a] ∨ l <:+: b :: after := by
  have hsplit : before ++ a :: b :: after = (before ++ [a]) ++ b :: after := by simp
  rw [hsplit, List.infix_append_iff] at h
  rcases h with h | h | ⟨first, second, rfl, hfirst, hsecond⟩
  · exact .inl h
  · exact .inr h
  · rcases List.suffix_concat_iff.1 hfirst with rfl | ⟨first, rfl, -⟩
    · exact .inr hsecond.isInfix
    rcases List.prefix_cons_iff.1 hsecond with rfl | ⟨second, rfl, -⟩
    · rw [List.append_nil]
      exact .inl hfirst.isInfix
    exact absurd ⟨first, second, by simp⟩ hn

/-- The part of a field in the text of the fields with statistics. -/
def partOf (f : String) : String := "\"" ++ f ++ "\":\x7b\x7d"

theorem toList_partOf (f : String) :
    (partOf f).toList = '"' :: (f.toList ++ ['"', ':', '\x7b', '\x7d']) := by
  simp [partOf]

/-- The text of the fields with statistics, after the brace it begins with. -/
def partsOf (fs : List String) : List Char := joined compact (fs.map partOf) ++ ['\x7d']

theorem partsOf_singleton (f : String) :
    partsOf [f] = ['"'] ++ (f.toList ++ ['"', ':', '\x7b', '\x7d', '\x7d']) := by
  simp [partsOf, joined_singleton, toList_partOf]

theorem exists_partsOf_eq (f g : String) (fs : List String) : ∃ cs, partsOf (g :: fs) = '"' :: cs ∧
    partsOf (f :: g :: fs) = (partOf f).toList ++ ',' :: '"' :: cs := by
  obtain ⟨cs, hcs⟩ := exists_joined_eq_cons compact (partOf g) (fs.map partOf) (toList_partOf g)
  refine ⟨cs ++ ['\x7d'], by rw [partsOf, List.map_cons, hcs, List.cons_append], ?_⟩
  rw [partsOf, List.map_cons, List.map_cons, joined_cons_cons, hcs]
  simp [compact]

theorem weight_of_marks {cs : List Char} (h : ∀ c ∈ cs, isMark c = true) : weight cs = 0 := by
  rw [weight, List.countP_eq_zero]
  simpa using h

/-- The characters are some of the field, and marks besides. -/
structure Within (raw : List Char) (f : String) : Prop where
  weight_le : weight raw ≤ weight f.toList
  slash_mem : '\\' ∈ raw → '\\' ∈ f.toList

theorem within_of_infix {raw first last : List Char} {f : String}
    (h : raw <:+: first ++ (f.toList ++ last)) (hfirst : ∀ c ∈ first, isMark c = true)
    (hlast : ∀ c ∈ last, isMark c = true) : Within raw f where
  weight_le := by
    have hle : weight raw ≤ weight (first ++ (f.toList ++ last)) := h.sublist.countP_le
    rwa [weight_append, weight_append, weight_of_marks hfirst, weight_of_marks hlast, Nat.zero_add]
      at hle
  slash_mem := by
    intro hs
    have hslash : ¬ isMark '\\' = true := by decide
    rcases List.mem_append.1 (h.subset hs) with hs | hs
    · exact absurd (hfirst _ hs) hslash
    rcases List.mem_append.1 hs with hs | hs
    · exact hs
    · exact absurd (hlast _ hs) hslash

/-- **A spelling in the text of some fields lies within the part of one**: no spelling holds the
quote that begins the next part, as it comes after a comma. -/
theorem Spells.exists_within {raw key : List Char} (h : Spells raw key) {f : String}
    {fs : List String} (hi : raw <:+: partsOf (f :: fs)) : ∃ g ∈ f :: fs, Within raw g := by
  have hcomma : ¬ [',', '"'] <:+: raw := fun hc =>
    absurd (h.eq_backslash_of_infix (b := ',') (List.infix_cons hc)) (by decide)
  induction fs generalizing f with
  | nil =>
    rw [partsOf_singleton] at hi
    exact ⟨f, List.mem_cons_self, within_of_infix hi (by simp [isMark]) (by simp [isMark])⟩
  | cons g fs ih =>
    obtain ⟨cs, hcs, hparts⟩ := exists_partsOf_eq f g fs
    rw [hparts] at hi
    rcases infix_or_of_not_infix hi hcomma with hi | hi
    · have hpart : raw <:+: ['"'] ++ (f.toList ++ ['"', ':', '\x7b', '\x7d', ',']) := by
        simpa [toList_partOf] using hi
      exact ⟨f, List.mem_cons_self, within_of_infix hpart (by simp [isMark]) (by simp [isMark])⟩
    · rw [← hcs] at hi
      obtain ⟨g', hg', hwithin⟩ := ih hi
      exact ⟨g', List.mem_cons_of_mem _ hg', hwithin⟩

/-- A field that needs an escape is spelt with more characters than it has, within the part of a
field that needs an escape itself. -/
theorem exists_heavier_of_speltIn {f : String} {fs : List String} (hf : f ∈ fs)
    (h : SpeltIn (partsOf fs) f) (hescaped : ¬ Unescaped f) :
    ∃ g ∈ fs, ¬ Unescaped g ∧ weight f.toList < weight g.toList := by
  obtain ⟨raw, hraw, hspells⟩ := h
  have hslash : '\\' ∈ raw := by
    by_contra hs
    exact hescaped (hspells.eq_of_not_mem hs).2
  obtain ⟨f₀, fs, rfl⟩ := List.exists_cons_of_ne_nil (List.ne_nil_of_mem hf)
  obtain ⟨g, hg, hwithin⟩ := hspells.exists_within hraw
  refine ⟨g, hg, fun hplain => ?_, (hspells.weight_lt hslash).trans_le hwithin.weight_le⟩
  exact (hplain _ (hwithin.slash_mem hslash)).2.1 rfl

/-- **Fields that are all spelt in the text of them need no escape**: those that do would get
heavier and heavier. -/
theorem unescaped_of_speltIn {fs : List String} (h : ∀ f ∈ fs, SpeltIn (partsOf fs) f) :
    ∀ f ∈ fs, Unescaped f := by
  intro f hf
  by_contra hescaped
  have hheavy : ∀ n, ∃ g ∈ fs, ¬ Unescaped g ∧ n ≤ weight g.toList := by
    intro n
    induction n with
    | zero => exact ⟨f, hf, hescaped, Nat.zero_le _⟩
    | succ n ih =>
      obtain ⟨g, hg, hgescaped, hn⟩ := ih
      obtain ⟨g', hg', hescaped', hlt⟩ := exists_heavier_of_speltIn hg (h g hg) hgescaped
      exact ⟨g', hg', hescaped', by omega⟩
  obtain ⟨g, hg, -, hn⟩ := hheavy (weight (partsOf fs) + 1)
  obtain ⟨raw, hraw, hspells⟩ := h g hg
  have hle := hspells.weight_le
  have hbound : weight raw ≤ weight (partsOf fs) := hraw.sublist.countP_le
  omega

end Json

namespace Wire.Parameters

/-! ## Parameters by their names -/

/-- **What is sent is what every parameter is spread out into, assigned one after the other.** -/
theorem ofRequest_eq_ok_iff [Json.Limits] {compiled params : Fields} :
    ofRequest compiled = .ok params ↔
      ∃ sent, Spreads compiled sent ∧ Keyed.ofList sent = params := by
  suffices hfold : ∀ start : Fields,
      compiled.foldlM (fun params e => do return assign params (← spreadKey e.1 e.2)) start =
        .ok params ↔ ∃ sent, Spreads compiled sent ∧ assign start sent = params from hfold []
  induction compiled with
  | nil =>
    intro start
    constructor
    · intro h
      exact ⟨[], .nil, Except.ok.inj h⟩
    · rintro ⟨_, ⟨⟩, h⟩
      exact congrArg Except.ok h
  | cons e compiled ih =>
    intro start
    obtain ⟨key, v⟩ := e
    rw [List.foldlM_cons, bind_eq_ok_iff]
    constructor
    · rintro ⟨_, hstep, hmore⟩
      obtain ⟨first, hfirst, hassign⟩ := bind_eq_ok_iff.1 hstep
      obtain rfl := Except.ok.inj hassign
      obtain ⟨sent, hsent, rfl⟩ := (ih _).1 hmore
      exact ⟨first ++ sent, .cons hfirst hsent, List.foldl_append⟩
    · rintro ⟨_, hsent, rfl⟩
      cases hsent with
      | @cons _ _ first _ sent hfirst hsent =>
        refine ⟨assign start first, by simp only [hfirst]; rfl, (ih _).2 ⟨sent, hsent, ?_⟩⟩
        exact List.foldl_append.symm

theorem spreads_append_iff [Json.Limits] {compiled more sent : Fields} :
    Spreads (compiled ++ more) sent ↔
      ∃ first last, Spreads compiled first ∧ Spreads more last ∧ first ++ last = sent := by
  constructor
  · intro h
    induction compiled generalizing sent with
    | nil => exact ⟨[], sent, .nil, h, rfl⟩
    | cons e compiled ih =>
      cases h with
      | @cons _ _ start _ sent hstart h =>
        obtain ⟨first, last, hfirst, hlast, rfl⟩ := ih h
        exact ⟨start ++ first, last, .cons hstart hfirst, hlast, List.append_assoc ..⟩
  · rintro ⟨first, last, hfirst, hlast, rfl⟩
    exact hfirst.append hlast

theorem spreads_singleton_iff [Json.Limits] {key : Value.Key} {v : Value} {sent : Fields} :
    Spreads [(key, v)] sent ↔ spreadKey key v = .ok sent := by
  constructor
  · rintro (_ | ⟨hf, ⟨⟩⟩)
    rwa [List.append_nil]
  · intro h
    have hone : Spreads [(key, v)] (sent ++ []) := .cons h .nil
    rwa [List.append_nil] at hone

/-- The name is that of a parameter for statistics. -/
def isStatsName : Value.Key → Bool
  | .text s => "stats.".toList.isPrefixOf s.toList
  | _ => false

/-- The name is a text, and neither that of the statistics nor that of a parameter for them. -/
def Apart (key : Value.Key) : Prop :=
  ∃ name, key = .text name ∧ name ≠ "stats" ∧ isStatsName key = false

theorem isStatsName_stats (s : String) : isStatsName (.text ("stats." ++ s)) = true := by
  simp [isStatsName]

theorem sentName?_apart {name sent : String} (h : sentName? name = some sent) :
    isStatsName (.text sent) = false := by
  unfold sentName? at h
  split at h <;> first | (obtain rfl := Option.some.inj h; rfl) | nomatch h

/-- A part that is no statistics is not spread out into parameters for statistics. -/
theorem spread_apart [Json.Limits] {name : String} {v : Value} {sent : Fields}
    (hn : Apart (.text name)) (h : spread name v = .ok sent) :
    ∀ e ∈ sent, ∃ s, e.1 = .text s ∧ isStatsName e.1 = false := by
  obtain ⟨name, ⟨⟩, hstats, hname⟩ := hn
  unfold spread at h
  split at h
  · next hsent =>
    obtain rfl := Except.ok.inj h
    exact List.forall_mem_singleton.2 ⟨_, rfl, sentName?_apart hsent⟩
  · obtain ⟨facets, -, h⟩ := bind_eq_ok_iff.1 h
    obtain rfl := Except.ok.inj h
    refine List.forall_mem_map.2 fun e _ => ⟨_, rfl, ?_⟩
    simp [partName, isStatsName, List.isPrefixOf]
  · obtain ⟨facets, -, h⟩ := bind_eq_ok_iff.1 h
    obtain rfl := Except.ok.inj h
    refine List.forall_mem_map.2 fun e _ => ⟨_, rfl, ?_⟩
    simp [partName, isStatsName, List.isPrefixOf]
  · exact absurd rfl hstats
  · obtain rfl := Except.ok.inj h
    exact List.forall_mem_singleton.2 ⟨_, rfl, hname⟩

theorem spreads_apart [Json.Limits] {compiled sent : Fields} (h : Spreads compiled sent)
    (hc : ∀ e ∈ compiled, Apart e.1) :
    ∀ e ∈ sent, ∃ s, e.1 = .text s ∧ isStatsName e.1 = false := by
  induction h with
  | nil => exact List.forall_mem_nil _
  | cons hf _ ih =>
    obtain ⟨hkey, hc⟩ := List.forall_mem_cons.1 hc
    refine List.forall_mem_append.2 ⟨?_, ih hc⟩
    obtain ⟨name, rfl, -⟩ := id hkey
    exact spread_apart hkey hf

end Wire.Parameters

namespace Query.Request

open Wire.Parameters

/-! ## Steps that ask for statistics -/

/-- The fields that steps ask statistics of. -/
def askedStats (steps : List Step) : List Value :=
  steps.filterMap fun
    | .addStats field => some field
    | _ => none

/-- Only a step that asks for statistics, which is never refused, changes them. -/
theorem stats_attempt (r : Request) (step : Step) :
    (r.attempt step).stats = r.stats ++ askedStats [step] := by
  cases step with
  | addStats => rfl
  | _ =>
    refine Eq.trans ?_ (List.append_nil _).symm
    exact agree_attempt r (p := .stats) (by simp [Step.touches])

theorem stats_of_steps (r : Request) (steps : List Step) :
    (steps.foldl attempt r).stats = r.stats ++ askedStats steps := by
  induction steps generalizing r with
  | nil => exact (List.append_nil _).symm
  | cons step steps ih =>
    rw [List.foldl_cons, ih, stats_attempt, List.append_assoc, askedStats, askedStats, askedStats,
      ← List.filterMap_append]
    rfl

/-! ## Sending the statistics -/

/-- The request without its statistics. -/
def withoutStats (r : Request) : Request := { r with stats := [] }

/-- **The request is sent with statistics of the fields**: what it compiles to holds valid JSON for
them, and each field is sent once, in the order they are first met, and no other. -/
def SendsStats [Json.Limits] (r : Request) (fields : List String) : Prop :=
  ∃ compiled params, r.compile = .ok compiled ∧
    (fields ≠ [] → ∃ s v, Keyed.find? (.text "stats") compiled = some (.text s) ∧
      Json.read s = .ok v) ∧
    ofRequest compiled = .ok params ∧
    params.filter (fun e => isStatsName e.1) =
      fields.eraseDups.map fun f => (.text ("stats." ++ f), .text "\x7b\x7d")

section SendsStats

variable {r : Request} {fields : List String}

theorem parameters_eq_append : r.parameters =
    r.withoutStats.parameters ++ given (!r.stats.isEmpty) "stats" (.text r.statsText) := by
  show _ = (_ ++ []) ++ _
  rw [List.append_nil]
  rfl

theorem apart_parameters : ∀ e ∈ r.withoutStats.parameters, Apart e.1 := by
  have hgiven : ∀ (present : Bool) (name : String) (v : Value), name ≠ "stats" →
      isStatsName (.text name) = false → ∀ e ∈ given present name v, Apart e.1 := by
    intro present name v hne hname e he
    cases present with
    | false => exact absurd he List.not_mem_nil
    | true =>
      obtain rfl := List.mem_singleton.1 he
      exact ⟨name, rfl, hne, hname⟩
  unfold parameters
  simp only [List.forall_mem_append]
  refine ⟨⟨⟨⟨⟨⟨⟨⟨⟨⟨⟨?_, ?_⟩, ?_⟩, ?_⟩, ?_⟩, ?_⟩, ?_⟩, ?_⟩, ?_⟩, ?_⟩, ?_⟩, List.forall_mem_nil _⟩
  all_goals exact hgiven _ _ _ (by decide) (by decide)

theorem find?_stats_withoutStats :
    Keyed.find? (.text "stats") r.withoutStats.parameters = none := by
  rw [← Option.not_isSome_iff_eq_none, Keyed.find?_isSome_iff (Value.Key.exact_text _)]
  intro hmem
  obtain ⟨e, he, hkey⟩ := List.mem_map.1 hmem
  obtain ⟨name, hname, hne, -⟩ := apart_parameters e he
  exact hne (Value.Key.text.inj (hname.symm.trans hkey))

theorem toList_statsText (h : r.stats = fields.map .text) :
    r.statsText.toList = '\x7b' :: Json.partsOf fields := by
  have hparts : r.stats.map (fun field => "\"" ++ field.plain ++ "\":\x7b\x7d") =
      fields.map Json.partOf := by
    rw [h, List.map_map]
    rfl
  rw [statsText, hparts]
  simp [Json.partsOf, Json.joined, Json.compact, String.toList_intercalate]

theorem toParameters_eq_ok_iff [Json.Limits] {params : Fields} : r.toParameters = .ok params ↔
    r.isWhole = true ∧ ∃ sent, Spreads r.parameters sent ∧ Keyed.ofList sent = params := by
  cases hw : r.isWhole with
  | false =>
    rw [toParameters_of_not_isWhole hw]
    simp
  | true => simp [toParameters_of_isWhole hw, ofRequest_eq_ok_iff]

theorem readJson_text_eq_ok_iff [Json.Limits] {s : String} {v : Value} :
    readJson (.text s) = .ok v ↔ Json.read s = .ok v := by
  show (Json.read s).mapError _ = _ ↔ _
  cases Json.read s <;> simp [Except.mapError]

theorem spread_stats_eq_ok_iff [Json.Limits] {s : String} {sent : Fields} :
    spread "stats" (.text s) = .ok sent ↔ ∃ v names, Json.read s = .ok v ∧
      Value.itemsOf v = .ok names ∧
      names.map (fun name => (partName "stats" name, .text "\x7b\x7d")) = sent := by
  constructor
  · intro h
    obtain ⟨names, hnames, h⟩ := bind_eq_ok_iff.1 h
    obtain ⟨v, hv, hnames⟩ := bind_eq_ok_iff.1 hnames
    exact ⟨v, names, readJson_text_eq_ok_iff.1 hv, hnames, Except.ok.inj h⟩
  · rintro ⟨v, names, hv, hnames, rfl⟩
    exact bind_eq_ok_iff.2
      ⟨names, bind_eq_ok_iff.2 ⟨v, readJson_text_eq_ok_iff.2 hv, hnames⟩, rfl⟩

/-- What is read from the text of the statistics is spread out under the names that are read. -/
theorem names_of_spread_statsText [Json.Limits] (h : r.stats = fields.map .text) {sent : Fields}
    (hs : spread "stats" (.text r.statsText) = .ok sent) :
    ∀ e ∈ sent, ∃ f, e.1 = .text ("stats." ++ f) ∧ Json.SpeltIn (Json.partsOf fields) f := by
  obtain ⟨v, names, hv, hnames, rfl⟩ := spread_stats_eq_ok_iff.1 hs
  obtain ⟨es, hes, rfl⟩ := Json.entries_of_read (toList_statsText h) hv
  obtain rfl := Except.ok.inj hnames
  simp only [List.map_map, List.forall_mem_map]
  exact fun e he => ⟨e.1, rfl, hes e he⟩

theorem filter_ofList_append {first last : Fields}
    (hfirst : ∀ e ∈ first, ∃ s, e.1 = .text s ∧ isStatsName e.1 = false)
    (hlast : ∀ e ∈ last, ∃ f, e.1 = .text ("stats." ++ f)) :
    (Keyed.ofList (first ++ last)).filter (fun e => isStatsName e.1) = Keyed.ofList last := by
  have hexact : ∀ e ∈ first ++ last, Keyed.Exact e.1 := by
    refine List.forall_mem_append.2 ⟨fun e he => ?_, fun e he => ?_⟩
    · obtain ⟨s, hs, -⟩ := hfirst e he
      exact hs ▸ Value.Key.exact_text s
    · obtain ⟨f, hf⟩ := hlast e he
      exact hf ▸ Value.Key.exact_text _
  have hnone : first.filter (fun e => isStatsName e.1) = [] := by
    refine List.filter_eq_nil_iff.2 fun e he => ?_
    obtain ⟨s, -, hs⟩ := hfirst e he
    simp [hs]
  have hall : last.filter (fun e => isStatsName e.1) = last := by
    refine List.filter_eq_self.2 fun e he => ?_
    obtain ⟨f, hf⟩ := hlast e he
    rw [hf, isStatsName_stats]
  rw [Keyed.filter_ofList hexact, List.filter_append, hnone, hall, List.nil_append]

/-- A request that is sent with its statistics is sent without them. -/
theorem SendsStats.withoutStats [Json.Limits] (h : SendsStats r fields) :
    ∃ rest, r.withoutStats.toParameters = .ok rest := by
  obtain ⟨compiled, params, hcompile, -, hparams, -⟩ := h
  obtain ⟨hwhole, rfl⟩ := compile_eq_ok_iff.1 hcompile
  obtain ⟨sent, hsent, -⟩ := ofRequest_eq_ok_iff.1 hparams
  rw [parameters_eq_append] at hsent
  obtain ⟨first, last, hfirst, -, -⟩ := spreads_append_iff.1 hsent
  exact ⟨_, toParameters_eq_ok_iff.2 ⟨hwhole, first, hfirst, rfl⟩⟩

/-- **Fields whose statistics are all sent need no escape.** -/
theorem SendsStats.unescaped [Json.Limits] (h : SendsStats r fields)
    (hr : r.stats = fields.map .text) : ∀ f ∈ fields, Unescaped f := by
  refine Json.unescaped_of_speltIn fun f hf => ?_
  obtain ⟨compiled, params, hcompile, -, hparams, hfilter⟩ := h
  obtain ⟨-, rfl⟩ := compile_eq_ok_iff.1 hcompile
  obtain ⟨sent, hsent, rfl⟩ := ofRequest_eq_ok_iff.1 hparams
  have hgiven : (!r.stats.isEmpty) = true := by
    rw [hr]
    simpa using List.ne_nil_of_mem hf
  rw [parameters_eq_append, hgiven] at hsent
  obtain ⟨first, last, hfirst, hlast, rfl⟩ := spreads_append_iff.1 hsent
  have hnames := names_of_spread_statsText hr (spreads_singleton_iff.1 hlast)
  rw [filter_ofList_append (spreads_apart hfirst apart_parameters)
    fun e he => (hnames e he).imp fun _ h => h.1] at hfilter
  have hmem : (.text ("stats." ++ f), .text "\x7b\x7d") ∈ Keyed.ofList last := by
    rw [hfilter]
    exact List.mem_map.2 ⟨f, List.mem_eraseDups.2 hf, rfl⟩
  obtain ⟨f', hf', hspelt⟩ := Keyed.forall_mem_ofList (fun e he => by
    obtain ⟨f, hf, -⟩ := hnames e he
    exact hf ▸ Value.Key.exact_text _) hnames _ hmem
  obtain rfl := append_left_cancel (Value.Key.text.inj hf')
  exact hspelt

/-- **Fields that need no escape have their statistics sent**, if the rest of the request is. Their
text is that of a request with nothing else. -/
theorem sendsStats_of_unescaped [Json.Limits] (hr : r.stats = fields.map .text)
    (hf : ∀ f ∈ fields, Unescaped f) {rest : Fields}
    (hrest : r.withoutStats.toParameters = .ok rest) :
    SendsStats r fields := by
  obtain ⟨hwhole, first, hfirst, -⟩ := toParameters_eq_ok_iff.1 hrest
  have hbare : Textual { stats := r.stats } := by
    constructor <;> simp [hr]
    exact hf
  have hspread : spread "stats" (.text r.statsText) = .ok r.sentStats := hbare.spread_stats
  obtain ⟨v, -, hread, -⟩ := spread_stats_eq_ok_iff.1 hspread
  have hlast : Spreads (given (!r.stats.isEmpty) "stats" (.text r.statsText)) r.sentStats := by
    cases hstats : r.stats.isEmpty with
    | false => exact spreads_singleton_iff.2 hspread
    | true =>
      rw [sentStats, statsFields, List.isEmpty_iff.1 hstats]
      exact .nil
  have hsent : Spreads r.parameters (first ++ r.sentStats) := by
    rw [parameters_eq_append]
    exact hfirst.append hlast
  have hnames : ∀ e ∈ r.sentStats, ∃ f, e.1 = .text ("stats." ++ f) :=
    List.forall_mem_map.2 fun f _ => ⟨f, rfl⟩
  refine ⟨r.parameters, _, compile_eq_ok_iff.2 ⟨hwhole, rfl⟩, fun hne => ?_,
    ofRequest_eq_ok_iff.2 ⟨_, hsent, rfl⟩, ?_⟩
  · refine ⟨r.statsText, v, ?_, hread⟩
    have hgiven : (!r.stats.isEmpty) = true := by simpa [hr] using hne
    rw [parameters_eq_append, hgiven, Keyed.find?_append, find?_stats_withoutStats]
    rfl
  · rw [filter_ofList_append (spreads_apart hfirst apart_parameters) hnames,
      Keyed.ofList_of_nodup (fun e he => ?_) nodup_names_sentStats, sentStats, statsFields, hr,
      List.map_map]
    · exact congrArg (fun fs : List String => fs.eraseDups.map _) (List.map_id fields)
    · obtain ⟨f, hf⟩ := hnames e he
      exact hf ▸ Value.Key.exact_text _

end SendsStats

/-- **The requests that send their statistics**: after any steps, whatever else they build, exactly
those whose other parts are sent and whose fields need no escape. -/
theorem sendsStats_iff_of_steps [Json.Limits] (size : Value) (steps : List Step)
    (fields : List String) (h : askedStats steps = fields.map .text) :
    let r := steps.foldl attempt { size := size }
    SendsStats r fields ↔
      (∃ rest, r.withoutStats.toParameters = .ok rest) ∧ ∀ f ∈ fields, Unescaped f := by
  intro r
  have hr : r.stats = fields.map .text := (stats_of_steps _ steps).trans h
  constructor
  · intro hsends
    exact ⟨hsends.withoutStats, hsends.unescaped hr⟩
  · rintro ⟨⟨rest, hrest⟩, hf⟩
    exact sendsStats_of_unescaped hr hf hrest

attribute [local instance] Json.Limits.usual

/-- Statistics of a field that is asked for twice, and of one outside ASCII. -/
theorem sendsStats_of_priceAndYear :
    SendsStats ([.addStats (.text "price"), .addSort (.text "price") (.text "asc"),
      .addStats (.text "année"), .addStats (.text "price")].foldl attempt { size := .int 5 })
      ["price", "année", "price"] := by
  refine (sendsStats_iff_of_steps (.int 5) _ _ rfl).2 ⟨⟨[(.text "q.parser", .text "structured"),
    (.text "size", .text "5"), (.text "sort", .text "price asc"), (.text "start", .text "0")],
    toParameters_of_isWhole rfl⟩, ?_⟩
  simp [Unescaped]

/-- A field with quotes is taken for two others, and its own statistics are not sent. -/
theorem not_sendsStats_of_quotes :
    let r := [Step.addStats (.text "a\":\x7b\x7d,\"b")].foldl attempt {}
    r.toParameters = .ok
      [(.text "q.parser", .text "structured"), (.text "size", .text "10"),
        (.text "start", .text "0"), (.text "stats.a", .text "\x7b\x7d"),
        (.text "stats.b", .text "\x7b\x7d")] ∧
    ¬ SendsStats r ["a\":\x7b\x7d,\"b"] := by
  intro r
  have hcompile : r.compile = .ok [(.text "queryParser", .text "structured"),
      (.text "size", .int 10), (.text "start", .int 0),
      (.text "stats", .text "\x7b\"a\":\x7b\x7d,\"b\":\x7b\x7d\x7d")] := rfl
  constructor
  · rw [toParameters, hcompile]
    cbv
  · intro h
    have hquote := h.unescaped rfl _ List.mem_cons_self '"' (by decide)
    exact hquote.1 rfl

end Query.Request

end SearchIndex
