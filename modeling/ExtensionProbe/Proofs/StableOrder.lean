import Mathlib.Data.List.Basic
import Mathlib.Order.Lattice

/-!
# Lists in a stable order

Things that are ordered by a rank may share it. Put in order, they keep the places that they had among those
of their rank. That leaves one list: the order of the ranks and the order within each rank fix it. Its head is
the first of the things of least rank, and a search that moves on only to something strictly lower finds it.

* `stablySorted_mergeSort`, `StablySorted.unique`: merge sort gives the stable order, and there is one only.
* `StablySorted.head`: its head is the first of the least.
* `firstLeast_foldl`: the search for a thing that is strictly lower finds the first of the least.
-/

namespace ExtensionProbe

variable {α L : Type} [LinearOrder L] {rank : α → L} {xs ys zs rest : List α} {x y : α}

/-- A list is another one in a stable order: the same things by their rank, and those of one rank as they
stood. -/
structure StablySorted (rank : α → L) (xs ys : List α) : Prop where
  perm : ys.Perm xs
  ordered : ys.Pairwise fun a b => rank a ≤ rank b
  stable : ∀ k, (ys.filter fun a => rank a = k) = xs.filter fun a => rank a = k

/-- A thing is the first of the things of least rank. -/
structure FirstLeast (rank : α → L) (xs : List α) (x : α) : Prop where
  least : ∀ y ∈ xs, rank x ≤ rank y
  first : (xs.find? fun y => rank y = rank x) = some x

/-! ## The stable order -/

/-- Merge sort puts a list in the stable order. -/
theorem stablySorted_mergeSort {le : α → α → Bool} (hle : ∀ a b, le a b = true ↔ rank a ≤ rank b)
    (xs : List α) : StablySorted rank xs (xs.mergeSort le) := by
  have htrans : ∀ a b c, le a b = true → le b c = true → le a c = true := by
    intro a b c hab hbc
    rw [hle] at hab hbc ⊢
    exact le_trans hab hbc
  have htotal : ∀ a b, (le a b || le b a) = true := by
    intro a b
    rw [Bool.or_eq_true, hle, hle]
    exact le_total _ _
  have hperm := List.mergeSort_perm xs le
  refine ⟨hperm, ?_, ?_⟩
  · have hsorted := List.pairwise_mergeSort htrans htotal xs
    exact hsorted.imp fun h => (hle _ _).1 h
  · intro k
    -- the things of one rank are in order already, so sorting keeps them as a part of the list
    have hsame : (xs.filter fun a => rank a = k).Pairwise fun a b => le a b = true := by
      rw [List.pairwise_filter]
      refine List.pairwise_of_forall fun a b ha hb => (hle a b).2 ?_
      rw [of_decide_eq_true ha, of_decide_eq_true hb]
    have hsub := List.sublist_mergeSort htrans htotal hsame List.filter_sublist
    have hpart := hsub.filter fun a => rank a = k
    rw [List.filter_filter] at hpart
    simp only [Bool.and_self] at hpart
    have hlength := (hperm.filter fun a => rank a = k).length_eq
    exact (hpart.eq_of_length hlength.symm).symm

/-- Lists with the same ranks in order and the same things of each rank in order are the same. -/
theorem eq_of_ranks (hranks : ys.map rank = zs.map rank)
    (hparts : ∀ k, (ys.filter fun a => rank a = k) = zs.filter fun a => rank a = k) : ys = zs := by
  induction ys generalizing zs with
  | nil => exact (List.map_eq_nil_iff.1 hranks.symm).symm
  | cons y ys ih =>
    cases zs with
    | nil => cases hranks
    | cons z zs =>
      obtain ⟨hyz, hrest⟩ := List.cons.inj hranks
      -- the two heads stand first among the things of their rank
      have hhead := hparts (rank y)
      rw [List.filter_cons_of_pos (by simp), List.filter_cons_of_pos (by simp [hyz])] at hhead
      obtain ⟨rfl, -⟩ := List.cons.inj hhead
      refine congrArg (y :: ·) (ih hrest fun k => ?_)
      have hk := hparts k
      by_cases h : rank y = k
      · rw [List.filter_cons_of_pos (by simpa using h), List.filter_cons_of_pos (by simpa using h)] at hk
        exact (List.cons.inj hk).2
      · rwa [List.filter_cons_of_neg (by simpa using h), List.filter_cons_of_neg (by simpa using h)] at hk

/-- **There is one stable order.** -/
theorem StablySorted.unique (h : StablySorted rank xs ys) (h' : StablySorted rank xs zs) : ys = zs := by
  have hperm : (ys.map rank).Perm (zs.map rank) := (h.perm.trans h'.perm.symm).map rank
  have hordered : (ys.map rank).Pairwise (· ≤ ·) := List.pairwise_map.2 h.ordered
  have hordered' : (zs.map rank).Pairwise (· ≤ ·) := List.pairwise_map.2 h'.ordered
  have hranks : ys.map rank = zs.map rank :=
    hperm.eq_of_pairwise (fun a b _ _ hab hba => le_antisymm hab hba) hordered hordered'
  exact eq_of_ranks hranks fun k => (h.stable k).trans (h'.stable k).symm

/-! ## The first of the least -/

/-- The head of the stable order is the first of the least. -/
theorem StablySorted.head (h : StablySorted rank xs (x :: ys)) : FirstLeast rank xs x := by
  constructor
  · intro y hy
    rcases List.mem_cons.1 (h.perm.mem_iff.2 hy) with rfl | hy
    · exact le_rfl
    · exact List.rel_of_pairwise_cons h.ordered hy
  · have hstable := h.stable (rank x)
    rw [List.filter_cons_of_pos (by simp)] at hstable
    rw [← List.head?_filter, ← hstable, List.head?_cons]

theorem FirstLeast.mem (h : FirstLeast rank xs x) : x ∈ xs := List.mem_of_find?_eq_some h.first

theorem FirstLeast.unique (h : FirstLeast rank xs x) (h' : FirstLeast rank xs y) : x = y := by
  have hrank : rank x = rank y := le_antisymm (h.least y h'.mem) (h'.least x h.mem)
  have hfirst := h.first
  rw [hrank, h'.first] at hfirst
  exact (Option.some.inj hfirst).symm

theorem firstLeast_singleton (x : α) : FirstLeast rank [x] x :=
  ⟨fun y hy => by rw [List.mem_singleton.1 hy], by simp⟩

/-- One more thing is the first of the least exactly if it is strictly lower. -/
theorem FirstLeast.concat (h : FirstLeast rank xs x) (y : α) :
    FirstLeast rank (xs ++ [y]) (if rank y < rank x then y else x) := by
  by_cases hlt : rank y < rank x
  · rw [if_pos hlt]
    constructor
    · intro z hz
      rcases List.mem_append.1 hz with hz | hz
      · exact le_of_lt (lt_of_lt_of_le hlt (h.least z hz))
      · rw [List.mem_singleton.1 hz]
    · have hnone : (xs.find? fun z => rank z = rank y) = none := by
        refine List.find?_eq_none.2 fun z hz heq => ?_
        exact absurd (h.least z hz) (not_le_of_gt (by rwa [of_decide_eq_true heq]))
      rw [List.find?_append, hnone]
      simp
  · rw [if_neg hlt]
    constructor
    · intro z hz
      rcases List.mem_append.1 hz with hz | hz
      · exact h.least z hz
      · rw [List.mem_singleton.1 hz]
        exact le_of_not_gt hlt
    · rw [List.find?_append, h.first, Option.some_or]

/-- A search that moves on only to something strictly lower ends at the first of the least. -/
theorem firstLeast_foldl {better : α → α → Bool} (hbetter : ∀ a b, better a b = true ↔ rank a < rank b)
    (h : FirstLeast rank xs x) (rest : List α) :
    FirstLeast rank (xs ++ rest) (rest.foldl (fun best y => if better y best then y else best) x) := by
  induction rest generalizing xs x with
  | nil => simpa using h
  | cons y rest ih =>
    have hstep := ih (h.concat y)
    simp only [hbetter, List.foldl_cons] at hstep ⊢
    simpa using hstep

end ExtensionProbe
