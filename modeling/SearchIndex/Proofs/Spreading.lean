import Mathlib.Data.List.Nodup
import SearchIndex.Query.Request
import SearchIndex.Wire.Parameters

/-!
# Spreading parameters out

Compiled parameters are spread out one after the other. When all names that come of them are new,
what is sent is what they are spread out into, and nothing is overwritten. The names of the parts of
a request are told apart by their first characters.

## Main definitions

* `Spreads compiled sent`: what compiled parameters are spread out into
* `placeOf`: the part of a request that a name belongs to
* `Sends place compiled sent`: the names are those of the parts before a place, each once

## Main results

* `Spreads.ofRequest_eq`: parameters whose names are all new are sent as they are spread out
* `Sends.given`, `Sends.part`: one more part, sent as it is or under names that begin alike
-/

namespace SearchIndex.Wire.Parameters

variable [Json.Limits]

/-- What compiled parameters are sent as, one after the other. -/
inductive Spreads : Fields → Fields → Prop
  | nil : Spreads [] []
  | cons {key : Value.Key} {v : Value} {first compiled sent : Fields}
      (hf : spreadKey key v = .ok first) (hr : Spreads compiled sent) :
      Spreads ((key, v) :: compiled) (first ++ sent)

theorem Spreads.append {compiled more sent sent' : Fields} (h : Spreads compiled sent)
    (h' : Spreads more sent') : Spreads (compiled ++ more) (sent ++ sent') := by
  induction h with
  | nil => exact h'
  | cons hf _ ih =>
    rw [List.append_assoc]
    exact .cons hf ih

theorem Spreads.given {present : Bool} {name : String} {v : Value} {sent : Fields}
    (h : present = true → spread name v = .ok sent) :
    Spreads (Query.Request.given present name v) (if present then sent else []) := by
  cases present with
  | false => exact .nil
  | true =>
    have hone : Spreads [(.text name, v)] (sent ++ []) := .cons (h rfl) .nil
    rwa [List.append_nil] at hone

/-- **Parameters whose names are all new are sent as they are spread.** -/
theorem Spreads.ofRequest_eq {compiled sent : Fields} (h : Spreads compiled sent)
    (hx : ∀ e ∈ sent, Keyed.Exact e.1) (hn : (sent.map Prod.fst).Nodup) :
    ofRequest compiled = .ok sent := by
  suffices hfold : ∀ (params : Fields), ((params ++ sent).map Prod.fst).Nodup →
      compiled.foldlM (fun params e => do return assign params (← spreadKey e.1 e.2)) params =
        .ok (params ++ sent) from hfold [] hn
  clear hn
  induction h with
  | nil =>
    intro params _
    rw [List.append_nil]
    rfl
  | @cons key v first compiled sent hf _ ih =>
    intro params hnew
    obtain ⟨hfirst, hsent⟩ := List.forall_mem_append.1 hx
    rw [← List.append_assoc] at hnew ⊢
    have hassign : assign params first = params ++ first := by
      refine Keyed.foldl_put_of_nodup hfirst ?_
      rw [List.map_append] at hnew
      exact (List.nodup_append.1 hnew).1
    rw [List.foldlM_cons, ← ih hsent _ hnew, ← hassign]
    simp only [hf]
    rfl

/-! ## The names of the parameters -/

/-- The part of a request that a name belongs to, as its first characters tell. -/
def placeOf : List Char → Nat
  | 'c' :: _ => 0
  | 'e' :: _ => 1
  | 'f' :: 'a' :: _ => 2
  | 'f' :: _ => 3
  | ['q'] => 4
  | 'q' :: '.' :: 'o' :: _ => 5
  | 'q' :: _ => 6
  | 'r' :: _ => 7
  | 's' :: 'i' :: _ => 8
  | 's' :: 'o' :: _ => 9
  | 's' :: 't' :: 'a' :: 'r' :: _ => 10
  | _ => 11

/-- The parameters that compiled ones are sent as have the names of the parts before a place, each
once. -/
structure Sends (place : Nat) (compiled sent : Fields) : Prop where
  spreads : Spreads compiled sent
  places : ∀ e ∈ sent, ∃ s, e.1 = .text s ∧ placeOf s.toList < place
  names : (sent.map Prod.fst).Nodup

section Places

variable {place : Nat} {compiled sent more more' : Fields}

theorem sends_nil : Sends 0 [] [] := ⟨.nil, List.forall_mem_nil _, List.nodup_nil⟩

theorem Sends.append (h : Sends place compiled sent) (hs : Spreads more more')
    (hp : ∀ e ∈ more', ∃ s, e.1 = .text s ∧ placeOf s.toList = place)
    (hn : (more'.map Prod.fst).Nodup) : Sends (place + 1) (compiled ++ more) (sent ++ more') where
  spreads := h.spreads.append hs
  places := by
    refine List.forall_mem_append.2 ⟨fun e he => ?_, fun e he => ?_⟩
    · obtain ⟨s, hs, hplace⟩ := h.places e he
      exact ⟨s, hs, Nat.lt_succ_of_lt hplace⟩
    · obtain ⟨s, hs, rfl⟩ := hp e he
      exact ⟨s, hs, Nat.lt_succ_self _⟩
  names := by
    rw [List.map_append, List.nodup_append]
    refine ⟨h.names, hn, ?_⟩
    rintro k hk k' hk' rfl
    obtain ⟨e, he, rfl⟩ := List.mem_map.1 hk
    obtain ⟨e', he', hee'⟩ := List.mem_map.1 hk'
    obtain ⟨s, hs, hlt⟩ := h.places e he
    obtain ⟨s', hs', heq⟩ := hp e' he'
    obtain rfl : s' = s := Value.Key.text.inj ((hs'.symm.trans hee').trans hs)
    omega

/-- A part that is sent as it is. -/
theorem Sends.given (h : Sends place compiled sent) {present : Bool} {name sentName : String}
    {v : Value} (hs : spread name v = .ok [(.text sentName, .text v.plain)])
    (hp : placeOf sentName.toList = place) :
    Sends (place + 1) (compiled ++ Query.Request.given present name v)
      (sent ++ Query.Request.given present sentName (.text v.plain)) := by
  refine h.append (.given fun _ => hs) ?_ ?_
  · intro e he
    cases present with
    | false => exact absurd he List.not_mem_nil
    | true =>
      obtain rfl := List.mem_singleton.1 he
      exact ⟨sentName, rfl, hp⟩
  · cases present with
    | false => exact List.nodup_nil
    | true => exact List.nodup_singleton _

/-- A part that is spread out into parameters whose names begin alike. -/
theorem Sends.part (h : Sends place compiled sent) (start : String) {present : Bool} {name : String}
    {v : Value} (hp : ∀ s : String, placeOf (start ++ s).toList = place)
    (hs : spread name v = .ok more) (hempty : present = false → more = [])
    (hstart : ∀ e ∈ more, ∃ s, e.1 = .text (start ++ s)) (hn : (more.map Prod.fst).Nodup) :
    Sends (place + 1) (compiled ++ Query.Request.given present name v) (sent ++ more) := by
  have hspread : Spreads (Query.Request.given present name v) more := by
    have hgiven : Spreads (Query.Request.given present name v) (if present then more else []) :=
      .given fun _ => hs
    cases present with
    | true => exact hgiven
    | false => rwa [hempty rfl] at hgiven ⊢
  refine h.append hspread (fun e he => ?_) hn
  obtain ⟨s, hs⟩ := hstart e he
  exact ⟨_, hs, hp s⟩

theorem Sends.ofRequest_eq {place : Nat} {compiled sent : Fields} (h : Sends place compiled sent) :
    ofRequest compiled = .ok sent := by
  refine h.spreads.ofRequest_eq (fun e he => ?_) h.names
  obtain ⟨s, hs, -⟩ := h.places e he
  rw [hs]
  exact Value.Key.exact_text s

end Places

end SearchIndex.Wire.Parameters
