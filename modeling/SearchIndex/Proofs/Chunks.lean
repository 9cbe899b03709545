import Mathlib.Algebra.Order.Floor.Div
import SearchIndex.Entity.Repository

/-!
# Chunks

A list falls into the same chunks whether it is cut at every multiple of a size or gone through item
by item. The chunks hold the items of the list, and a map of the list falls into the maps of its
chunks.

## Main definitions

* `Tiles n l chunks`: the chunks join up to a list, all but the last having `n` items

## Main results

* `slices_append`, `slices_of_length_le`: the first slice, and a single one
* `mem_slices`: a slice has items, and they are in the list
* `tiles_slices`: the slices tile the list
* `slices_eq_map_range`, `length_slices`: the slices start at the multiples of their size
* `slices_map`: the slices of a map
* `chunked_int`: a positive integer is a size
* `walk_eq_slices`: going through a list item by item
* `Repository.chunks_int`: the chunks of all records
* `Repository.chunks_eq_chunked`: records fall into the same chunks either way
-/

namespace SearchIndex.Entity

variable {α β : Type} {n : Nat} {chunk l : List α}

/-- A full chunk in front is the first slice. -/
theorem slices_append (hc : chunk.length = n + 1) (l : List α) :
    slices n (chunk ++ l) = chunk :: slices n l := by
  obtain ⟨a, chunk, rfl⟩ := List.exists_cons_of_length_eq_add_one hc
  have hlen : chunk.length = n := by simpa using hc
  rw [List.cons_append, slices, List.take_left' hlen, List.drop_left' hlen]

/-- What is not longer than a chunk is a single slice. -/
theorem slices_of_length_le (hl : l ≠ []) (h : l.length ≤ n + 1) : slices n l = [l] := by
  obtain ⟨a, l, rfl⟩ := List.exists_cons_of_ne_nil hl
  have hlen : l.length ≤ n := by simpa using h
  rw [slices, List.take_of_length_le hlen, List.drop_eq_nil_of_le hlen, slices_nil]

/-- **A slice has items, and they are in the list.** -/
theorem mem_slices (h : chunk ∈ slices n l) : chunk ≠ [] ∧ chunk ⊆ l := by
  fun_induction slices n l with
  | case1 => exact (List.not_mem_nil h).elim
  | case2 a l ih =>
    rcases List.mem_cons.1 h with rfl | h
    · exact ⟨List.cons_ne_nil _ _, List.cons_subset_cons a (List.take_subset n l)⟩
    · obtain ⟨hne, hsub⟩ := ih h
      exact ⟨hne, fun x hx => List.mem_cons_of_mem a (List.drop_subset n l (hsub hx))⟩

theorem length_le_of_mem_slices (h : chunk ∈ slices n l) : chunk.length ≤ n + 1 := by
  fun_induction slices n l with
  | case1 => exact (List.not_mem_nil h).elim
  | case2 a l ih =>
    rcases List.mem_cons.1 h with rfl | h
    · exact Nat.succ_le_succ (List.length_take_le n l)
    · exact ih h

/-- **Chunks tile a list**: they join up to it, and every one has `n` items but the last, which has
1 to `n`. -/
structure Tiles (n : Nat) (l : List α) (chunks : List (List α)) : Prop where
  flatten : chunks.flatten = l
  full : ∀ chunk ∈ chunks.dropLast, chunk.length = n
  last : ∀ chunk ∈ chunks.getLast?, 1 ≤ chunk.length ∧ chunk.length ≤ n

/-- A full chunk goes in front of chunks. -/
theorem Tiles.cons {chunks : List (List α)} (ht : Tiles n l chunks) (hc : chunk.length = n)
    (hl : l ≠ []) : Tiles n (chunk ++ l) (chunk :: chunks) := by
  have hne : chunks ≠ [] := by
    rintro rfl
    exact hl ht.flatten.symm
  refine ⟨?_, ?_, ?_⟩
  · rw [List.flatten_cons, ht.flatten]
  · rw [List.dropLast_cons_of_ne_nil hne]
    exact List.forall_mem_cons.2 ⟨hc, ht.full⟩
  · rw [List.getLast?_cons_of_ne_nil hne]
    exact ht.last

/-- **The slices tile the list.** -/
theorem tiles_slices (n : Nat) (l : List α) : Tiles (n + 1) l (slices n l) := by
  fun_induction slices n l with
  | case1 => exact ⟨rfl, by simp, by simp⟩
  | case2 a l ih =>
    by_cases hrest : l.drop n = []
    · have hlen : l.length ≤ n := List.drop_eq_nil_iff.1 hrest
      rw [hrest, slices_nil, List.take_of_length_le hlen]
      refine ⟨by simp, by simp, ?_⟩
      intro chunk hchunk
      obtain rfl : a :: l = chunk := by simpa using hchunk
      simp [hlen]
    · have hlen : n < l.length := Nat.lt_of_not_le fun h => hrest (List.drop_eq_nil_iff.2 h)
      have hfull : (a :: l.take n).length = n + 1 := by
        rw [List.length_cons, List.length_take_of_le (Nat.le_of_lt hlen)]
      have ht := ih.cons hfull hrest
      rwa [List.cons_append, List.take_append_drop] at ht

/-- What is left after the first slice needs one slice less. -/
theorem length_ceilDiv_drop (n : Nat) (a : α) (l : List α) :
    (a :: l).length ⌈/⌉ (n + 1) = (l.drop n).length ⌈/⌉ (n + 1) + 1 := by
  rw [Nat.ceilDiv_eq_add_pred_div, Nat.ceilDiv_eq_add_pred_div, List.length_cons, List.length_drop,
    ← Nat.add_div_right _ (Nat.succ_pos n)]
  rcases Nat.le_total n l.length with h | h
  · congr 1
    omega
  · have hone {m : Nat} (hle : n + 1 ≤ m) (hlt : m < 2 * (n + 1)) : m / (n + 1) = 1 :=
      Nat.div_eq_of_lt_le (by omega) (by omega)
    rw [hone (by omega) (by omega), hone (by omega) (by omega)]

/-- **The slices start at the multiples of their size.** -/
theorem slices_eq_map_range (n : Nat) (l : List α) :
    slices n l =
      (List.range (l.length ⌈/⌉ (n + 1))).map fun i => (l.drop (i * (n + 1))).take (n + 1) := by
  fun_induction slices n l with
  | case1 => simp
  | case2 a l ih =>
    rw [length_ceilDiv_drop, List.range_succ_eq_map, List.map_cons, List.map_map, ih]
    refine congrArg₂ List.cons (by simp) (List.map_congr_left fun i _ => ?_)
    rw [Function.comp_apply, List.drop_drop, Nat.succ_mul, ← Nat.add_assoc, List.drop_succ_cons,
      Nat.add_comm n (i * (n + 1))]

theorem length_slices (n : Nat) (l : List α) : (slices n l).length = l.length ⌈/⌉ (n + 1) := by
  rw [slices_eq_map_range, List.length_map, List.length_range]

/-- **The slices of a map** are the maps of the slices. -/
theorem slices_map (f : α → β) (n : Nat) (l : List α) :
    slices n (l.map f) = (slices n l).map (List.map f) := by
  fun_induction slices n l with
  | case1 => rw [List.map_nil, slices_nil, List.map_nil]
  | case2 a l ih =>
    rw [List.map_cons, slices, ← List.map_take, ← List.map_drop, ih, List.map_cons, List.map_cons]

/-- **A positive integer is a size of chunks.** -/
theorem chunked_int (l : List α) : chunked l (.int (n + 1 : Nat)) = .ok (slices n l) := by
  have hpos : (0 : Int) < (n + 1 : Nat) := by omega
  rw [chunked, pieceSize_int hpos]
  rfl

theorem atMost_int (m n : Int) : (Number.int m).atMost (.int n) = decide (m ≤ n) := by
  rcases Int.lt_trichotomy m n with h | rfl | h
  · simp [Number.atMost, Number.less_int, h, Int.le_of_lt h]
  · simp [Number.atMost, Number.same]
  · simp [Number.atMost, Number.less_int, Number.same, Int.not_lt.2 (Int.le_of_lt h),
      Int.not_le.2 h, (Int.ne_of_lt h).symm]

theorem walkFrom_eq_slices {collected : List α} (h : collected.length ≤ n) (l : List α) :
    walkFrom (.int (n + 1 : Nat)) collected l = slices n (collected ++ l) := by
  fun_induction walkFrom (.int (n + 1 : Nat)) collected l with
  | case1 => exact (slices_nil n).symm
  | case2 a collected =>
    rw [List.append_nil, slices_of_length_le (List.cons_ne_nil _ _) (Nat.le_succ_of_le h)]
  | case3 collected a l chunk hfull ih =>
    rw [atMost_int, decide_eq_true_eq, Int.ofNat_le] at hfull
    have hlen : chunk.length = n + 1 := by
      simp only [chunk, List.length_append, List.length_singleton] at hfull ⊢
      omega
    rw [ih (Nat.zero_le n), List.append_cons, ← slices_append hlen]
    rfl
  | case4 collected a l chunk hfull ih =>
    rw [atMost_int, decide_eq_true_eq, Int.ofNat_le] at hfull
    rw [ih (by omega), List.append_cons]

/-- **Going through a list item by item** gives its slices. -/
theorem walk_eq_slices (n : Nat) (l : List α) : walk (.int (n + 1 : Nat)) l = slices n l :=
  walkFrom_eq_slices (Nat.zero_le n) l

/-- **The chunks of all records.** -/
theorem Repository.chunks_int {r : Repository} {records : List Record} (h : r.all = .ok records)
    (n : Nat) : r.chunks (.int (n + 1 : Nat)) = .ok (slices n records) := by
  rw [Repository.chunks, h]
  cases records with
  | nil => rw [slices_nil]; rfl
  | cons record records => rw [← walk_eq_slices]; rfl

/-- **Records fall into the same chunks** whether a repository walks them or their list is cut. Both
give the slices of the list at every multiple of the size, one for each `n` records begun. They join
up to the list, none is empty, and all but the last have `n` records. -/
theorem Repository.chunks_eq_chunked {r : Repository} {records : List Record}
    (h : r.all = .ok records) {n : Nat} (hn : 1 ≤ n) :
    ∃ chunks, r.chunks (.int n) = .ok chunks ∧ chunked records (.int n) = .ok chunks ∧
      chunks = (List.range (records.length ⌈/⌉ n)).map
        (fun i => (records.drop (i * n)).take n) ∧
      Tiles n records chunks ∧ (∀ chunk ∈ chunks, chunk ≠ []) ∧
      chunks.length = records.length ⌈/⌉ n ∧ (chunks = [] ↔ records = []) := by
  obtain ⟨m, rfl⟩ : ∃ m, n = m + 1 := ⟨n - 1, by omega⟩
  have ht := tiles_slices m records
  refine ⟨slices m records, chunks_int h m, chunked_int records, slices_eq_map_range m records, ht,
    fun chunk hchunk => (mem_slices hchunk).1, length_slices m records, ?_, ?_⟩
  · intro hnone
    rw [← ht.flatten, hnone, List.flatten_nil]
  · rintro rfl
    exact slices_nil m

/-- Records that are their own keys. -/
def numbered (records : List Record) : Repository where
  fetch _ := .ok []
  all := .ok records
  key := .ok
  document _ := .ok (.map [])

theorem Repository.chunks_eq_chunked_of_pairs :
    let records := [.int 1, .int 2, .int 3, .int 4]
    let pairs := [[.int 1, .int 2], [.int 3, .int 4]]
    (numbered records).chunks (.int 2) = .ok pairs ∧ chunked records (.int 2) = .ok pairs := by
  intro records pairs
  obtain ⟨chunks, hwalk, hcut, hchunks, -⟩ :=
    chunks_eq_chunked (r := numbered records) rfl (by decide : 1 ≤ 2)
  have htwo : records.length ⌈/⌉ 2 = 2 := by simp [records, Nat.ceilDiv_eq_add_pred_div]
  obtain rfl : chunks = pairs := by
    rw [hchunks, htwo]
    rfl
  exact ⟨hwalk, hcut⟩

end SearchIndex.Entity
