import Mathlib.Data.List.Forall2

/-!
# Steps that may fail

A computation by steps succeeds if each of its steps does, and then its result is made of theirs. It fails as the
first of its steps that fails.

* `exists_of_bind_eq_ok`, `exists_of_map_eq_ok`: two steps that succeed.
* `mapM_eq_ok_iff`, `mapM_eq_error_iff`: many steps, one after another.
-/

namespace ExtensionProbe

/-! ## A step and what follows it -/

theorem exists_of_bind_eq_ok {ε α β : Type} {x : Except ε α} {f : α → Except ε β} {b : β}
    (h : x >>= f = .ok b) : ∃ a, x = .ok a ∧ f a = .ok b := by
  cases x with
  | error e => cases h
  | ok a => exact ⟨a, rfl, h⟩

theorem exists_of_map_eq_ok {ε α β : Type} {x : Except ε α} {f : α → β} {b : β}
    (h : f <$> x = .ok b) : ∃ a, x = .ok a ∧ f a = b := by
  cases x with
  | error e => cases h
  | ok a => exact ⟨a, rfl, Except.ok.inj h⟩

theorem eq_ok_of_mapError {ε ε' α : Type} {f : ε → ε'} {x : Except ε α} {a : α}
    (h : x.mapError f = .ok a) : x = .ok a := by
  cases x with
  | error e => cases h
  | ok b => exact congrArg Except.ok (Except.ok.inj h)

theorem eq_ok_of_toOption {ε α : Type} {x : Except ε α} {a : α} (h : x.toOption = some a) : x = .ok a := by
  cases x with
  | error e => cases h
  | ok b => exact congrArg Except.ok (Option.some.inj h)

/-! ## Many steps -/

section Steps

variable {ε α β : Type} {f : α → Except ε β} {xs : List α} {ys : List β} {e : ε}

theorem exists_of_forall₂ {R : α → β → Prop} (h : List.Forall₂ R xs ys) :
    ∀ x ∈ xs, ∃ y ∈ ys, R x y := by
  induction h with
  | nil => exact nofun
  | cons h _ ih =>
    intro x hx
    rcases List.mem_cons.1 hx with rfl | hx
    · exact ⟨_, List.mem_cons_self, h⟩
    · obtain ⟨y, hy, h⟩ := ih x hx
      exact ⟨y, List.mem_cons_of_mem _ hy, h⟩

/-- Many steps succeed exactly if each of them does, and their results are those of the steps, in order. -/
theorem mapM_eq_ok_iff : xs.mapM f = .ok ys ↔ List.Forall₂ (fun x y => f x = .ok y) xs ys := by
  induction xs generalizing ys with
  | nil =>
    rw [List.forall₂_nil_left_iff]
    exact ⟨fun h => (Except.ok.inj h).symm, fun h => congrArg Except.ok h.symm⟩
  | cons x rest ih =>
    rw [List.mapM_cons, List.forall₂_cons_left_iff]
    constructor
    · intro h
      obtain ⟨y, hy, h⟩ := exists_of_bind_eq_ok h
      obtain ⟨more, hmore, h⟩ := exists_of_bind_eq_ok h
      cases h
      exact ⟨y, more, hy, ih.1 hmore, rfl⟩
    · rintro ⟨y, more, hy, hmore, rfl⟩
      rw [hy, ih.2 hmore]
      rfl

/-- Many steps fail exactly as the first of them that does. -/
theorem mapM_eq_error_iff :
    xs.mapM f = .error e ↔
      ∃ before x after, xs = before ++ x :: after ∧ (∀ b ∈ before, ∃ y, f b = .ok y) ∧ f x = .error e := by
  induction xs with
  | nil =>
    refine iff_of_false nofun ?_
    rintro ⟨before, x, after, h, -⟩
    cases before <;> cases h
  | cons x rest ih =>
    rw [List.mapM_cons]
    cases hx : f x with
    | error e' =>
      constructor
      · intro h
        cases h
        exact ⟨[], x, rest, rfl, nofun, hx⟩
      · rintro ⟨_ | ⟨b, before⟩, y, after, h, hbefore, hy⟩ <;> cases h
        · rw [hx] at hy
          cases hy
          rfl
        · obtain ⟨y', hy'⟩ := hbefore _ List.mem_cons_self
          cases hx.symm.trans hy'
    | ok y =>
      -- a first step that succeeds is before the one that fails
      have hrest : (do let more ← rest.mapM f; pure (y :: more) : Except ε (List β)) = .error e ↔
          rest.mapM f = .error e := by
        cases rest.mapM f with
        | error e' => exact Iff.of_eq (by simp [bind, Except.bind])
        | ok more => exact iff_of_false nofun nofun
      refine hrest.trans (ih.trans ⟨?_, ?_⟩)
      · rintro ⟨before, z, after, rfl, hbefore, hz⟩
        refine ⟨x :: before, z, after, rfl, fun b hb => ?_, hz⟩
        rcases List.mem_cons.1 hb with rfl | hb
        · exact ⟨y, hx⟩
        · exact hbefore b hb
      · rintro ⟨_ | ⟨b, before⟩, z, after, h, hbefore, hz⟩ <;> cases h
        · cases hx.symm.trans hz
        · exact ⟨before, z, after, rfl, fun b hb => hbefore b (List.mem_cons_of_mem _ hb), hz⟩

end Steps

end ExtensionProbe
