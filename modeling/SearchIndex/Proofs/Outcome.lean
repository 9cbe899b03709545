import SearchIndex.Act

/-!
# Outcomes of actions

A successful sequence of actions succeeded step by step. What holds of every outcome of an action
is put together from its steps in the same way.

## Main definitions

* `Act.Ensures P a Q E`: from a world with `P`, a result comes with `Q`, and a failure leaves `E`

## Main results

* `bind_eq_ok_iff`, `Act.attempt_bind_eq_ok_iff`: the steps of a success
* `bind_eq_error_iff`: the step that failed
* `Act.Ensures.pure`, `Act.Ensures.bind`, `Act.Ensures.mono`: the rules for outcomes
-/

namespace SearchIndex

/-- A successful sequence of two calculations succeeded in both. -/
theorem bind_eq_ok_iff {ε α β : Type} {x : Except ε α} {f : α → Except ε β} {b : β} :
    (x >>= f) = .ok b ↔ ∃ a, x = .ok a ∧ f a = .ok b := by
  cases x with
  | error e =>
    constructor
    · exact fun h => nomatch h
    · rintro ⟨_, h, -⟩
      nomatch h
  | ok a =>
    constructor
    · exact fun h => ⟨a, rfl, h⟩
    · rintro ⟨_, ⟨⟩, h⟩
      exact h

/-- A failed sequence of two calculations failed in one of them. -/
theorem bind_eq_error_iff {ε α β : Type} {x : Except ε α} {f : α → Except ε β} {e : ε} :
    (x >>= f) = .error e ↔ x = .error e ∨ ∃ a, x = .ok a ∧ f a = .error e := by
  cases x with
  | error e' =>
    constructor
    · rintro ⟨⟩
      exact .inl rfl
    · rintro (⟨⟨⟩⟩ | ⟨_, h, -⟩)
      · rfl
      · nomatch h
  | ok a =>
    constructor
    · exact fun h => .inr ⟨a, rfl, h⟩
    · rintro (h | ⟨_, ⟨⟩, h⟩)
      · nomatch h
      · exact h

/-- What comes of going through a list comes of its items. -/
theorem exists_of_mem_mapM {ε α β : Type} {f : α → Except ε β} {l : List α} {bs : List β}
    (h : l.mapM f = .ok bs) {b : β} (hb : b ∈ bs) : ∃ a ∈ l, f a = .ok b := by
  induction l generalizing bs with
  | nil =>
    cases h
    cases hb
  | cons a l ih =>
    rw [List.mapM_cons, bind_eq_ok_iff] at h
    obtain ⟨first, hfirst, h⟩ := h
    obtain ⟨rest, hrest, h⟩ := bind_eq_ok_iff.1 h
    cases h
    rcases List.mem_cons.1 hb with rfl | hb
    · exact ⟨a, List.mem_cons_self, hfirst⟩
    · obtain ⟨a', ha', hf⟩ := ih hrest hb
      exact ⟨a', List.mem_cons_of_mem _ ha', hf⟩

/-- Going through a list gives what its items give. -/
theorem mapM_eq_ok_map {ε α β : Type} {f : α → Except ε β} {g : α → β} {l : List α}
    (h : ∀ a ∈ l, f a = .ok (g a)) : l.mapM f = .ok (l.map g) := by
  induction l with
  | nil => rfl
  | cons a l ih =>
    obtain ⟨ha, hl⟩ := List.forall_mem_cons.1 h
    rw [List.mapM_cons, ha, ih hl]
    rfl

/-- Going through a list failed at an item. -/
theorem exists_of_mapM_eq_error {ε α β : Type} {f : α → Except ε β} {l : List α} {e : ε}
    (h : l.mapM f = .error e) : ∃ a ∈ l, f a = .error e := by
  induction l with
  | nil => cases h
  | cons a l ih =>
    rw [List.mapM_cons, bind_eq_error_iff] at h
    rcases h with ha | ⟨b, -, h⟩
    · exact ⟨a, List.mem_cons_self, ha⟩
    · obtain hl | ⟨bs, -, h⟩ := bind_eq_error_iff.1 h
      · obtain ⟨a', ha', he⟩ := ih hl
        exact ⟨a', List.mem_cons_of_mem _ ha', he⟩
      · cases h

namespace Act

variable {σ α β : Type}

theorem attempt_bind_eq_ok_iff {a : Act σ α} {k : α → Act σ β} {s s'' : σ} {y : β} :
    attempt (a >>= k) s = (.ok y, s'') ↔
      ∃ x s', attempt a s = (.ok x, s') ∧ attempt (k x) s' = (.ok y, s'') := by
  rw [attempt_bind]
  rcases h : attempt a s with ⟨_ | x, s'⟩
  · simp
  · simp only [Prod.mk.injEq, Except.ok.injEq]
    constructor
    · intro hk
      exact ⟨x, s', ⟨rfl, rfl⟩, hk⟩
    · rintro ⟨_, _, ⟨rfl, rfl⟩, hk⟩
      exact hk

theorem ofExcept_bind_of_eq_ok {x : Except Failure α} {y : α} (h : x = .ok y)
    (k : α → Act σ β) : (ofExcept x >>= k) = k y := by
  subst h
  rfl

theorem exists_attempt_eq_ok {a : Act σ α} {s : σ} (h : (attempt a s).1.isOk = true) :
    ∃ x, attempt a s = (.ok x, (attempt a s).2) := by
  rcases ha : attempt a s with ⟨_ | x, s'⟩
  · rw [ha] at h
    cases h
  · exact ⟨x, rfl⟩

theorem attempt_discard_eq_ok_iff {a : Act σ α} {s s' : σ} :
    attempt (discard a) s = (.ok (), s') ↔ ∃ x, attempt a s = (.ok x, s') := by
  have h : (discard a : Act σ Unit) = a >>= fun _ => pure () := rfl
  rw [h, attempt_bind_eq_ok_iff]
  constructor
  · rintro ⟨x, s₁, hx, hp⟩
    cases hp
    exact ⟨x, hx⟩
  · rintro ⟨x, hx⟩
    exact ⟨x, s', hx, rfl⟩

/-- What is done after an action leaves the world that it made, if it only says something else. -/
theorem snd_attempt_bind_of_pure {a : Act σ α} {k : α → Act σ β} {f : α → β}
    (hk : ∀ x s, (k x).attempt s = (.ok (f x), s)) (s : σ) :
    (attempt (a >>= k) s).2 = (attempt a s).2 := by
  rw [attempt_bind]
  rcases attempt a s with ⟨_ | x, s'⟩
  · rfl
  · exact congrArg Prod.snd (hk x s')

/-! ## What holds of every outcome -/

/-- **From a world with `P`, a result comes with `Q`, and a failure leaves `E`.** -/
def Ensures (P : σ → Prop) (a : Act σ α) (Q : α → σ → Prop) (E : σ → Prop) : Prop :=
  ∀ s, P s → match attempt a s with
    | (.ok x, s') => Q x s'
    | (.error _, s') => E s'

variable {P P' E E' : σ → Prop} {Q Q' : α → σ → Prop}

/-- What holds after every outcome alike holds of the world an attempt leaves. -/
theorem Ensures.snd {a : Act σ α} (h : Ensures P a (fun _ => E) E) {s : σ} (hs : P s) :
    E (attempt a s).2 := by
  have := h s hs
  rcases ha : attempt a s with ⟨_ | _, s'⟩ <;> rwa [ha] at this

theorem Ensures.pure {x : α} (h : ∀ s, P s → Q x s) : Ensures P (Pure.pure x) Q E :=
  fun s hs => h s hs

theorem Ensures.mono {a : Act σ α} (h : Ensures P a Q E) (hP : ∀ s, P' s → P s)
    (hQ : ∀ x s, Q x s → Q' x s) (hE : ∀ s, E s → E' s) : Ensures P' a Q' E' := by
  intro s hs
  have := h s (hP s hs)
  rcases ha : attempt a s with ⟨_ | x, s'⟩ <;> rw [ha] at this
  · exact hE s' this
  · exact hQ x s' this

theorem Ensures.mono_ok {a : Act σ α} (h : Ensures P a Q E) (hQ : ∀ x s, Q x s → Q' x s) :
    Ensures P a Q' E :=
  h.mono (fun _ hs => hs) hQ fun _ hs => hs

theorem Ensures.mono_error {a : Act σ α} (h : Ensures P a Q E) (hE : ∀ s, E s → E' s) :
    Ensures P a Q E' :=
  h.mono (fun _ hs => hs) (fun _ _ hs => hs) hE

theorem Ensures.of_ok {a : Act σ α} (h : Ensures P a Q E) {s s' : σ} {x : α} (hs : P s)
    (ha : attempt a s = (.ok x, s')) : Q x s' := by
  have := h s hs
  rwa [ha] at this

theorem Ensures.of_error {a : Act σ α} (h : Ensures P a Q E) {s s' : σ} {f : Failure} (hs : P s)
    (ha : attempt a s = (.error f, s')) : E s' := by
  have := h s hs
  rwa [ha] at this

/-- A condition on nothing that the action changes can be taken out of the precondition. -/
theorem Ensures.of_and {p : Prop} {a : Act σ α} (h : p → Ensures P a Q E) :
    Ensures (fun s => p ∧ P s) a Q E :=
  fun s hs => h hs.1 s hs.2

theorem Ensures.bind {R : α → σ → Prop} {Q : β → σ → Prop} {a : Act σ α} {k : α → Act σ β}
    (ha : Ensures P a R E) (hk : ∀ x, Ensures (R x) (k x) Q E) : Ensures P (a >>= k) Q E := by
  intro s hs
  have h := ha s hs
  rw [attempt_bind]
  rcases hx : attempt a s with ⟨_ | x, s'⟩ <;> rw [hx] at h
  · exact h
  · exact hk x s' h

theorem Ensures.ofExcept {x : Except Failure α} (hQ : ∀ y s, x = .ok y → P s → Q y s)
    (hE : ∀ s, P s → E s) : Ensures P (Act.ofExcept x) Q E := by
  intro s hs
  rw [attempt_ofExcept]
  rcases x with _ | y
  · exact hE s hs
  · exact hQ y s rfl hs

end Act

end SearchIndex
