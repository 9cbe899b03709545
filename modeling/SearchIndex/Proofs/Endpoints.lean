import Mathlib.Data.List.DropRight
import SearchIndex.Wire.Endpoint

/-!
# The form of endpoints

An endpoint in its one form has a scheme, no white space around it and no slash at its end, so that
bringing it into this form again changes nothing, and the endpoint for documents beside it has the
same form. This is so for the addresses that name a host. Of an address without a host the slashes
of the mark are dropped with those at its end, and white space before the slashes at its end stays.

## Main definitions

* `Endpoint.Normal cs`: a text is in the one form
* `Endpoint.parts url`: the scheme and the host part of an address
* `Endpoint.NamesHost url`: an address names a host, which ends in no white space
* `Endpoint.HostBeside host host'`, `Endpoint.Beside cs cs'`: a host and an endpoint for documents
  beside those for searches
* `Endpoint.Settles url r`: both endpoints of an address are in the one form

## Main results

* `Endpoint.normalize_of_normal`: the one form is kept
* `Endpoint.toList_normalize_of_parts`: what is left of the parts of an address
* `Endpoint.normal_iff`: an address is brought into the one form exactly if it names a host
* `Endpoint.Normal.beside`: the endpoint for documents has this form, too
* `Endpoint.settles_iff`: which addresses settle
-/

namespace SearchIndex

/-! ## Trimmed texts -/

namespace Text

variable {p : Char → Bool} {c : Char} {cs ds : List Char}

theorem trimEnd_append (p : Char → Bool) (cs ds : List Char) :
    trimEnd p (cs ++ ds) = if trimEnd p ds = [] then trimEnd p cs else cs ++ trimEnd p ds := by
  simp only [trimEnd, List.reverse_append, List.dropWhile_append, List.isEmpty_iff,
    List.reverse_eq_nil_iff]
  split
  · rfl
  · rw [List.reverse_append, List.reverse_reverse]

/-- What is left ends in a character that is not trimmed. -/
theorem not_of_mem_getLast?_trimEnd (h : c ∈ (trimEnd p cs).getLast?) : p c = false := by
  obtain ⟨hne, rfl⟩ := List.mem_getLast?_eq_getLast h
  exact Bool.eq_false_iff.2 (List.rdropWhile_last_not p cs hne)

theorem trimEnd_eq_self (h : ∀ c ∈ cs.getLast?, p c = false) : trimEnd p cs = cs :=
  List.rdropWhile_eq_self_iff.2 fun hne =>
    Bool.eq_false_iff.1 (h _ (List.getLast_mem_getLast? hne))

theorem mem_head?_of_mem_head?_trimEnd (h : c ∈ (trimEnd p cs).head?) : c ∈ cs.head? := by
  have hprefix : trimEnd p cs <+: cs := List.rdropWhile_prefix p cs
  obtain ⟨rest, hrest⟩ := hprefix
  rw [← hrest, List.head?_append, Option.mem_def.1 h]
  rfl

theorem not_of_mem_head?_trim (h : c ∈ (trim p cs).head?) : p c = false := by
  have hfirst := List.head?_dropWhile_not p cs
  have hc : (cs.dropWhile p).head? = some c := mem_head?_of_mem_head?_trimEnd h
  rw [hc] at hfirst
  exact hfirst

theorem trim_eq_self (hfirst : ∀ c ∈ cs.head?, p c = false)
    (hlast : ∀ c ∈ cs.getLast?, p c = false) : trim p cs = cs := by
  have hstart : trimStart p cs = cs := by
    cases cs with
    | nil => rfl
    | cons c cs => exact List.dropWhile_cons_of_neg (Bool.eq_false_iff.1 (hfirst c rfl))
  rw [trim, hstart, trimEnd_eq_self hlast]

end Text

namespace Wire.Endpoint

variable {cs cs' scheme host host' : List Char} {url r : String}

/-- **A text is in the one form**: it has a scheme, no white space around it and no slash at its
end. -/
structure Normal (cs : List Char) : Prop where
  mark : schemeMark <:+: cs
  start : ∀ c ∈ cs.head?, Text.isBlank c = false
  finish : ∀ c ∈ cs.getLast?, Text.isBlank c = false
  noSlash : '/' ∉ cs.getLast?

/-- **The one form is kept.** -/
theorem normalize_of_normal (h : Normal r.toList) : normalize r = .ok r := by
  have hcut : (Text.cutAt? schemeMark r.toList).isSome := by
    rw [Option.isSome_iff_ne_none, ne_eq, Text.cutAt?_eq_none_iff, not_not]
    exact h.mark
  have hne : r.toList ≠ [] := fun hnil => by
    have hmark := h.mark
    rw [hnil, List.infix_nil] at hmark
    exact absurd hmark (by decide)
  have hslash : ∀ c ∈ r.toList.getLast?, (c == '/') = false := fun c hc =>
    beq_eq_false_iff_ne.2 fun heq => h.noSlash (heq ▸ hc)
  rw [normalize, Text.trim_eq_self h.start h.finish]
  split
  · next hnil => exact absurd hnil hne
  · rw [withScheme, if_pos hcut, Text.trimEnd_eq_self hslash, String.ofList_toList]

theorem toList_normalize (h : normalize url = .ok r) :
    r.toList = Text.trimEnd (· == '/') (withScheme (Text.trim Text.isBlank url.toList)) := by
  rw [normalize] at h
  split at h
  · cases h
  · rw [← Except.ok.inj h, String.toList_ofList]

/-! ## The parts of an address -/

/-- **The scheme and the host part of an address** without the white space around it: the texts
before and after the first mark, or the default scheme and the whole text. -/
def parts (url : String) : List Char × List Char :=
  let cs := Text.trim Text.isBlank url.toList
  (Text.cutAt? schemeMark cs).getD (defaultScheme, cs)

theorem cutAt?_withScheme (url : String) :
    Text.cutAt? schemeMark (withScheme (Text.trim Text.isBlank url.toList)) = some (parts url) := by
  rw [withScheme, parts]
  cases h : Text.cutAt? schemeMark (Text.trim Text.isBlank url.toList) with
  | some p => exact h
  | none => exact (Text.cutAt?_eq_some_iff (by decide)).2 ⟨rfl, by decide⟩

/-- **The address names a host.** Its host part has a character that is neither a slash nor white
space, and nothing but slashes after it. -/
def NamesHost (url : String) : Prop :=
  ∃ front c slashes, (parts url).2 = front ++ c :: slashes ∧ c ≠ '/' ∧ Text.isBlank c = false ∧
    ∀ s ∈ slashes, s = '/'

theorem namesHost_iff :
    NamesHost url ↔
      ∃ c ∈ (Text.trimEnd (· == '/') (parts url).2).getLast?, Text.isBlank c = false := by
  rw [NamesHost]
  generalize (parts url).2 = host
  constructor
  · rintro ⟨front, c, slashes, rfl, hslash, hblank, hslashes⟩
    have hc : Text.trimEnd (· == '/') (c :: slashes) = [c] := by
      rw [← List.singleton_append, Text.trimEnd_append, if_pos, Text.trimEnd_eq_self]
      · simpa using hslash
      · exact List.rdropWhile_eq_nil_iff.2 (by simpa using hslashes)
    rw [Text.trimEnd_append, hc, if_neg (List.cons_ne_nil c [])]
    exact ⟨c, by simp, hblank⟩
  · rintro ⟨c, hc, hblank⟩
    obtain ⟨front, hfront⟩ := List.getLast?_eq_some_iff.1 hc
    refine ⟨front, c, host.rtakeWhile (· == '/'), ?_, ?_, hblank, ?_⟩
    · rw [← List.singleton_append, ← List.append_assoc, ← hfront]
      exact (List.rdropWhile_append_rtakeWhile ..).symm
    · exact beq_eq_false_iff_ne.1 (Text.not_of_mem_getLast?_trimEnd (p := (· == '/')) hc)
    · exact fun s hs => beq_iff_eq.1 (List.mem_rtakeWhile_imp (p := (· == '/')) hs)

theorem trimEnd_mark (scheme : List Char) :
    Text.trimEnd (· == '/') (scheme ++ schemeMark) = scheme ++ [':'] := by
  have hmark : scheme ++ schemeMark = (scheme ++ [':']) ++ ['/', '/'] := by simp [schemeMark]
  rw [hmark, Text.trimEnd_append, if_pos (by decide), Text.trimEnd_eq_self (by simp)]

/-- **What is left of the parts of an address**: a host without slashes at its end, or, if nothing
is left of it, no whole mark. -/
theorem toList_normalize_of_parts (h : normalize url = .ok r)
    (hparts : parts url = (scheme, host)) :
    ¬schemeMark <:+: scheme ++ schemeMark.dropLast ∧
      r.toList = if Text.trimEnd (· == '/') host = [] then scheme ++ [':']
        else scheme ++ schemeMark ++ Text.trimEnd (· == '/') host := by
  have hcut := cutAt?_withScheme url
  rw [hparts, Text.cutAt?_eq_some_iff (by decide)] at hcut
  obtain ⟨htext, hfirst⟩ := hcut
  refine ⟨hfirst, ?_⟩
  rw [toList_normalize h, htext, Text.trimEnd_append, trimEnd_mark]

/-- Of the mark of an address without a host, only the colon is left. -/
example : normalize "http://" = .ok "http:" ∧ forDocuments "http://" = .ok "http:://" := by
  constructor <;> cbv

/-- The endpoint starts as the address does, or as the default scheme. -/
theorem not_blank_of_mem_head? {c : Char} (h : normalize url = .ok r) (hc : c ∈ r.toList.head?) :
    Text.isBlank c = false := by
  rw [toList_normalize h] at hc
  have hfirst := Text.mem_head?_of_mem_head?_trimEnd hc
  rw [withScheme] at hfirst
  split at hfirst
  · exact Text.not_of_mem_head?_trim hfirst
  · obtain rfl : 'h' = c := Option.some.inj hfirst
    decide

theorem slash_not_mem_getLast? (h : normalize url = .ok r) : '/' ∉ r.toList.getLast? := by
  rw [toList_normalize h]
  intro hslash
  cases Text.not_of_mem_getLast?_trimEnd hslash

/-- **An address is brought into the one form** exactly if it names a host. -/
theorem normal_iff (h : normalize url = .ok r) : Normal r.toList ↔ NamesHost url := by
  rcases hparts : parts url with ⟨scheme, host⟩
  obtain ⟨hfirst, htext⟩ := toList_normalize_of_parts h hparts
  rw [namesHost_iff, hparts]
  split at htext
  · next hnone =>
    rw [hnone]
    refine ⟨fun hn => (hfirst ?_).elim, fun ⟨c, hc, _⟩ => by cases hc⟩
    have hmark := hn.mark
    rw [htext] at hmark
    exact hmark.trans ⟨[], ['/'], by simp [schemeMark]⟩
  · next hsome =>
    have hlast : r.toList.getLast? = (Text.trimEnd (· == '/') host).getLast? := by
      rw [htext, List.getLast?_append_of_ne_nil _ hsome]
    constructor
    · intro hn
      obtain ⟨c, hc⟩ := Option.ne_none_iff_exists'.1 (mt List.getLast?_eq_none_iff.1 hsome)
      exact ⟨c, hc, hn.finish c (hlast ▸ hc)⟩
    · rintro ⟨c, hc, hblank⟩
      refine ⟨⟨scheme, _, htext.symm⟩, fun c => not_blank_of_mem_head? h, fun d hd => ?_,
        slash_not_mem_getLast? h⟩
      rw [hlast] at hd
      exact Option.mem_unique hd hc ▸ hblank

/-! ## The endpoint for documents -/

/-- **A host for documents beside a host for searches**: it has another first word, and any other
host is for both. -/
inductive HostBeside : List Char → List Char → Prop
  | search (rest : List Char) : HostBeside (searchWord ++ rest) (documentWord ++ rest)
  | other {host : List Char} (h : ¬searchWord <+: host) : HostBeside host host

/-- **An endpoint for documents beside one for searches**: the scheme, which ends where the mark
first stands, is the same, and the host is beside the other. -/
def Beside (cs cs' : List Char) : Prop :=
  ∃ scheme host host', ¬schemeMark <:+: scheme ++ schemeMark.dropLast ∧
    cs = scheme ++ schemeMark ++ host ∧ cs' = scheme ++ schemeMark ++ host' ∧ HostBeside host host'

theorem hostBeside_documentHost (host : List Char) : HostBeside host (documentHost host) := by
  rw [documentHost]
  split
  · next rest h =>
    rw [Text.eq_append_of_afterStart? h]
    exact .search rest
  · next h => exact .other (Text.afterStart?_eq_none_iff.1 h)

/-- Both hosts end in the same character, and so do the words. -/
theorem HostBeside.getLast?_eq (h : HostBeside host host') : host'.getLast? = host.getLast? := by
  cases h with
  | search rest =>
    rw [List.getLast?_append, List.getLast?_append]
    rfl
  | other => rfl

theorem Normal.beside (hn : Normal cs) (h : Beside cs cs') : Normal cs' := by
  obtain ⟨scheme, host, host', -, rfl, rfl, hhost⟩ := h
  have hlast : (scheme ++ schemeMark ++ host').getLast? =
      (scheme ++ schemeMark ++ host).getLast? := by
    rw [List.getLast?_append, hhost.getLast?_eq, ← List.getLast?_append]
  have hhead : (scheme ++ schemeMark ++ host').head? = (scheme ++ schemeMark ++ host).head? := by
    have hne : scheme ++ schemeMark ≠ [] := by simp [schemeMark]
    rw [List.head?_append_of_ne_nil _ hne, List.head?_append_of_ne_nil _ hne]
  exact ⟨⟨scheme, host', rfl⟩, hhead ▸ hn.start, hlast ▸ hn.finish, hlast ▸ hn.noSlash⟩

theorem exists_forDocuments (h : normalize url = .ok r) (hmark : schemeMark <:+: r.toList) :
    ∃ d, forDocuments url = .ok d ∧ Beside r.toList d.toList := by
  cases hcut : Text.cutAt? schemeMark r.toList with
  | none => exact absurd hmark (Text.cutAt?_eq_none_iff.1 hcut)
  | some cut =>
    obtain ⟨scheme, host⟩ := cut
    obtain ⟨htext, hfirst⟩ := (Text.cutAt?_eq_some_iff (by decide)).1 hcut
    refine ⟨String.ofList (scheme ++ schemeMark ++ documentHost host), ?_, ?_⟩
    · rw [forDocuments, h]
      simp only [bind, Except.bind, hcut, Option.getD_some]
      rfl
    · rw [String.toList_ofList]
      exact ⟨scheme, host, _, hfirst, htext, rfl, hostBeside_documentHost host⟩

/-- **An address settles**: its endpoint is in the one form, and so is the endpoint for documents
beside it. Bringing them into this form changes neither, and the address and its endpoint have the
same endpoint for documents. -/
structure Settles (url r : String) : Prop where
  normal : Normal r.toList
  fixed : normalize r = .ok r
  documents : ∃ d, forDocuments url = .ok d ∧ forDocuments r = .ok d ∧ normalize d = .ok d ∧
    Beside r.toList d.toList

theorem settles_of_normal (h : normalize url = .ok r) (hn : Normal r.toList) : Settles url r := by
  have hfixed := normalize_of_normal hn
  obtain ⟨d, hd, hbeside⟩ := exists_forDocuments h hn.mark
  refine ⟨hn, hfixed, d, hd, ?_, normalize_of_normal (hn.beside hbeside), hbeside⟩
  rw [← hd, forDocuments, forDocuments, h, hfixed]

/-- **An address settles exactly if it names a host.** In any case its endpoint does not start with
white space or end in a slash. -/
theorem settles_iff (h : normalize url = .ok r) :
    (∀ c ∈ r.toList.head?, Text.isBlank c = false) ∧ '/' ∉ r.toList.getLast? ∧
      (Settles url r ↔ NamesHost url) :=
  ⟨fun _ => not_blank_of_mem_head? h, slash_not_mem_getLast? h,
    fun hs => (normal_iff h).1 hs.normal, fun hn => settles_of_normal h ((normal_iff h).2 hn)⟩

theorem settles_of_searchHost :
    normalize " a://search-b// " = .ok "a://search-b" ∧ NamesHost " a://search-b// " ∧
      Settles " a://search-b// " "a://search-b" := by
  have h : normalize " a://search-b// " = .ok "a://search-b" := by cbv
  have hn : NamesHost " a://search-b// " :=
    ⟨"search-".toList, 'b', ['/', '/'], by decide, by decide, by decide, by simp⟩
  exact ⟨h, hn, (settles_iff h).2.2.2 hn⟩

/-- White space before the last slash stays. -/
theorem not_settles_of_blank_before_slash :
    normalize "search-x /" = .ok "https://search-x " ∧
      ¬Settles "search-x /" "https://search-x " := by
  refine ⟨by cbv, fun hs => ?_⟩
  exact absurd (hs.normal.finish ' ' (by decide)) (by decide)

end Wire.Endpoint

end SearchIndex
