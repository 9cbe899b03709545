/-!
# Association lists in insertion order

A list of keys and values in which a key appears once: assigning to a key that is there keeps its
position, and a new key goes to the end. Keys are told apart by a test of equality, which may take
two forms of a key for the same; of these the one that was there first stays.

## Main definitions

* `Keyed.Exact key`: no other key equals the key
* `Keyed.find? key l`: the value of a key
* `Keyed.put key value l`: the list with a key assigned
* `Keyed.erase key l`: the list without a key
* `Keyed.ofList l`: the assignments of a list made one after the other
* `Keyed.group key l`: the items of a list by their keys, in the order keys are first met

## Main results

* `Keyed.exact_of_lawful`: keys are exact when the test tells all of them apart
* `Keyed.find?_isSome_iff`: the keys that are found
* `Keyed.find?_put_self`, `Keyed.find?_put_of_ne`: looking up after an assignment
* `Keyed.find?_erase_self`, `Keyed.find?_erase_of_ne`: looking up after a key was erased
* `Keyed.keys_put_of_mem`, `Keyed.put_of_not_mem`: the keys after an assignment
* `Keyed.nodup_keys_put`, `Keyed.forall_mem_put`: what an assignment keeps
* `Keyed.forall_mem_ofList`, `Keyed.filter_ofList`: what assignments make of a list
* `Keyed.length_le_put`, `Keyed.length_put_le`: an assignment adds at most one key
* `Keyed.foldl_put_of_nodup`, `Keyed.ofList_of_nodup`: new keys are assigned in their order
* `Keyed.nodup_keys_ofList`: assignments give every key one value
* `Keyed.eraseDups_snoc`: the distinct keys of a list that one more key is added to
-/

namespace SearchIndex.Keyed

variable {κ β : Type} [BEq κ]

/-- No other key equals the key, and the key equals itself. -/
def Exact (key : κ) : Prop := ∀ k, (k == key) = true ↔ k = key

theorem exact_of_lawful [LawfulBEq κ] (key : κ) : Exact key := fun _ => beq_iff_eq

theorem Exact.beq_self {key : κ} (h : Exact key) : (key == key) = true := (h key).2 rfl

theorem Exact.beq_eq_false {key k : κ} (h : Exact key) (hk : k ≠ key) : (k == key) = false :=
  Bool.eq_false_iff.2 fun he => hk ((h k).1 he)

/-- The value of a key. -/
def find? (key : κ) : List (κ × β) → Option β
  | [] => none
  | (k, v) :: l => if k == key then some v else find? key l

/-- The list with a key assigned: in its place if it is there, else at the end. -/
def put (key : κ) (value : β) : List (κ × β) → List (κ × β)
  | [] => [(key, value)]
  | (k, v) :: l => if k == key then (k, value) :: l else (k, v) :: put key value l

/-- The list without a key. -/
def erase (key : κ) (l : List (κ × β)) : List (κ × β) := l.filter fun (k, _) => !(k == key)

/-- The assignments of a list made one after the other. -/
def ofList (l : List (κ × β)) : List (κ × β) := l.foldl (fun m (k, v) => put k v m) []

/-- The list with an item added to the group of a key. -/
def addTo {α : Type} (key : κ) (item : α) (groups : List (κ × List α)) : List (κ × List α) :=
  put key ((find? key groups).getD [] ++ [item]) groups

/-- **The items of a list by their keys**, in the order the keys are first met. -/
def group {α : Type} (key : α → κ) (l : List α) : List (κ × List α) :=
  l.foldl (fun groups item => addTo (key item) item groups) []

/-! ## Looking up after a change -/

@[simp] theorem find?_nil (key : κ) : find? key ([] : List (κ × β)) = none := rfl

theorem find?_append (key : κ) (l m : List (κ × β)) :
    find? key (l ++ m) = (find? key l).or (find? key m) := by
  induction l with
  | nil => rfl
  | cons e l ih =>
    obtain ⟨k, v⟩ := e
    cases h : k == key <;> simp [find?, h, ih]

theorem find?_isSome_iff {key : κ} (hx : Exact key) {l : List (κ × β)} :
    (find? key l).isSome ↔ key ∈ l.map Prod.fst := by
  induction l with
  | nil => simp
  | cons e l ih =>
    obtain ⟨k, v⟩ := e
    by_cases h : k = key
    · simp [find?, h, hx.beq_self]
    · simp [find?, hx.beq_eq_false h, ih, Ne.symm h]

theorem find?_put_self {key : κ} (h : (key == key) = true) (value : β) (l : List (κ × β)) :
    find? key (put key value l) = some value := by
  induction l with
  | nil => simp [put, find?, h]
  | cons e l ih =>
    obtain ⟨k, v⟩ := e
    by_cases hk : (k == key) = true <;> simp [put, find?, hk, ih]

theorem find?_put_of_ne {key other : κ} (hx : Exact key) (ho : Exact other) (h : other ≠ key)
    (value : β) (l : List (κ × β)) : find? other (put key value l) = find? other l := by
  have hne : (key == other) = false := ho.beq_eq_false (Ne.symm h)
  induction l with
  | nil => simp [put, find?, hne]
  | cons e l ih =>
    obtain ⟨k, v⟩ := e
    by_cases hk : k = key
    · subst hk
      simp [put, find?, hx.beq_self, hne]
    · simp [put, find?, hx.beq_eq_false hk, ih]

theorem find?_erase_self {key : κ} (l : List (κ × β)) : find? key (erase key l) = none := by
  induction l with
  | nil => rfl
  | cons e l ih =>
    obtain ⟨k, v⟩ := e
    simp only [erase] at ih
    by_cases hk : (k == key) = true <;> simp [erase, find?, hk, ih]

theorem find?_erase_of_ne {key other : κ} (hx : Exact key) (ho : Exact other) (h : other ≠ key)
    (l : List (κ × β)) : find? other (erase key l) = find? other l := by
  have hne : (key == other) = false := ho.beq_eq_false (Ne.symm h)
  induction l with
  | nil => rfl
  | cons e l ih =>
    obtain ⟨k, v⟩ := e
    simp only [erase] at ih
    by_cases hk : k = key
    · subst hk
      simp [erase, find?, hx.beq_self, hne, ih]
    · simp [erase, find?, hx.beq_eq_false hk, ih]

theorem keys_put_of_mem {key : κ} (hx : Exact key) (value : β) {l : List (κ × β)}
    (h : key ∈ l.map Prod.fst) : (put key value l).map Prod.fst = l.map Prod.fst := by
  induction l with
  | nil => simp at h
  | cons e l ih =>
    obtain ⟨k, v⟩ := e
    by_cases hk : k = key
    · simp [put, hk, hx.beq_self]
    · simp only [List.map_cons, List.mem_cons] at h
      simp [put, hx.beq_eq_false hk, ih (h.resolve_left (Ne.symm hk))]

theorem put_of_not_mem {key : κ} (hx : Exact key) (value : β) {l : List (κ × β)}
    (h : key ∉ l.map Prod.fst) : put key value l = l ++ [(key, value)] := by
  induction l with
  | nil => rfl
  | cons e l ih =>
    obtain ⟨k, v⟩ := e
    simp only [List.map_cons, List.mem_cons, not_or] at h
    simp [put, hx.beq_eq_false (Ne.symm h.1), ih h.2]

theorem nodup_keys_put {key : κ} (hx : Exact key) {value : β} {l : List (κ × β)}
    (hl : (l.map Prod.fst).Nodup) : ((put key value l).map Prod.fst).Nodup := by
  by_cases h : key ∈ l.map Prod.fst
  · rwa [keys_put_of_mem hx value h]
  · rw [put_of_not_mem hx value h, List.map_append, List.nodup_append]
    refine ⟨hl, by simp, ?_⟩
    rintro k hk k' hk' rfl
    obtain rfl : k = key := List.mem_singleton.1 hk'
    exact h hk

/-- What holds of the entries and of the assigned one holds after the assignment. -/
theorem forall_mem_put {p : κ × β → Prop} {key : κ} (hx : Exact key) {value : β}
    {l : List (κ × β)} (hl : ∀ e ∈ l, p e) (hp : p (key, value)) : ∀ e ∈ put key value l, p e := by
  induction l with
  | nil => exact List.forall_mem_singleton.2 hp
  | cons e l ih =>
    obtain ⟨k, v⟩ := e
    obtain ⟨he, hl⟩ := List.forall_mem_cons.1 hl
    by_cases hk : k = key
    · subst hk
      rw [put, if_pos hx.beq_self]
      exact List.forall_mem_cons.2 ⟨hp, hl⟩
    · rw [put, if_neg (Bool.eq_false_iff.1 (hx.beq_eq_false hk))]
      exact List.forall_mem_cons.2 ⟨he, ih hl⟩

theorem filter_put {key : κ} (hx : Exact key) (p : κ → Bool) (value : β) (l : List (κ × β)) :
    (put key value l).filter (fun e => p e.1) =
      if p key then put key value (l.filter fun e => p e.1) else l.filter fun e => p e.1 := by
  induction l with
  | nil => cases h : p key <;> simp [put, h]
  | cons e l ih =>
    obtain ⟨k, v⟩ := e
    by_cases hk : k = key
    · subst hk
      cases h : p k <;> simp [put, hx.beq_self, h]
    · have hbeq := hx.beq_eq_false hk
      cases h : p key <;> cases h' : p k <;> simp_all [put]

theorem length_le_put (key : κ) (value : β) (l : List (κ × β)) :
    l.length ≤ (put key value l).length := by
  induction l with
  | nil => simp
  | cons e l ih =>
    obtain ⟨k, v⟩ := e
    by_cases hk : (k == key) = true <;> simp [put, hk, ih]

theorem length_put_le (key : κ) (value : β) (l : List (κ × β)) :
    (put key value l).length ≤ l.length + 1 := by
  induction l with
  | nil => simp [put]
  | cons e l ih =>
    obtain ⟨k, v⟩ := e
    by_cases hk : (k == key) = true <;> simp [put, hk, ih]

/-- Assigning new keys one after the other adds them in their order. -/
theorem foldl_put_of_nodup {l m : List (κ × β)} (hx : ∀ e ∈ l, Exact e.1)
    (hn : ((m ++ l).map Prod.fst).Nodup) : l.foldl (fun m (k, v) => put k v m) m = m ++ l := by
  induction l generalizing m with
  | nil => simp
  | cons e l ih =>
    obtain ⟨k, v⟩ := e
    obtain ⟨hk, hl⟩ := List.forall_mem_cons.1 hx
    have hm : k ∉ m.map Prod.fst := by
      intro hm
      rw [List.map_append, List.nodup_append] at hn
      exact hn.2.2 k hm k (by simp) rfl
    rw [List.foldl_cons]
    show l.foldl _ (put k v m) = _
    rw [put_of_not_mem hk v hm, ih hl (by simpa using hn), List.append_assoc]
    rfl

theorem ofList_of_nodup {l : List (κ × β)} (hx : ∀ e ∈ l, Exact e.1)
    (hn : (l.map Prod.fst).Nodup) : ofList l = l := foldl_put_of_nodup hx (by simpa using hn)

theorem nodup_keys_ofList {l : List (κ × β)} (hx : ∀ e ∈ l, Exact e.1) :
    ((ofList l).map Prod.fst).Nodup := by
  suffices hfold : ∀ m : List (κ × β), (m.map Prod.fst).Nodup →
      ((l.foldl (fun m (k, v) => put k v m) m).map Prod.fst).Nodup from hfold [] List.nodup_nil
  induction l with
  | nil => exact fun m hm => hm
  | cons e l ih =>
    obtain ⟨hk, hl⟩ := List.forall_mem_cons.1 hx
    exact fun m hm => ih hl _ (nodup_keys_put hk hm)

/-- What holds of all assignments holds of the entries they make. -/
theorem forall_mem_ofList {p : κ × β → Prop} {l : List (κ × β)} (hx : ∀ e ∈ l, Exact e.1)
    (hl : ∀ e ∈ l, p e) : ∀ e ∈ ofList l, p e := by
  suffices hfold : ∀ m : List (κ × β), (∀ e ∈ m, p e) →
      ∀ e ∈ l.foldl (fun m (k, v) => put k v m) m, p e from hfold [] (List.forall_mem_nil _)
  induction l with
  | nil => exact fun m hm => hm
  | cons e l ih =>
    intro m hm
    obtain ⟨hxe, hx⟩ := List.forall_mem_cons.1 hx
    obtain ⟨he, hl⟩ := List.forall_mem_cons.1 hl
    exact ih hx hl _ (forall_mem_put hxe hm he)

/-- The assignments whose keys pass a test can be made on their own. -/
theorem filter_ofList {l : List (κ × β)} (hx : ∀ e ∈ l, Exact e.1) (p : κ → Bool) :
    (ofList l).filter (fun e => p e.1) = ofList (l.filter fun e => p e.1) := by
  suffices hfold : ∀ m : List (κ × β),
      (l.foldl (fun m (k, v) => put k v m) m).filter (fun e => p e.1) =
        (l.filter fun e => p e.1).foldl (fun m (k, v) => put k v m) (m.filter fun e => p e.1) from
    hfold []
  induction l with
  | nil => exact fun m => rfl
  | cons e l ih =>
    intro m
    obtain ⟨he, hl⟩ := List.forall_mem_cons.1 hx
    rw [List.foldl_cons, ih hl, filter_put he]
    cases h : p e.1 <;> simp [h]

/-- The distinct keys of a list that one more key is added to. -/
theorem eraseDups_snoc [LawfulBEq κ] (l : List κ) (key : κ) :
    (l ++ [key]).eraseDups = if key ∈ l then l.eraseDups else l.eraseDups ++ [key] := by
  rw [List.eraseDups_append]
  by_cases h : key ∈ l
  · simp [List.cons_removeAll, h]
  · simp [List.cons_removeAll, h, List.eraseDups_cons]

end SearchIndex.Keyed
