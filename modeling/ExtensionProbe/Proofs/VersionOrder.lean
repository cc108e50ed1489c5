import ExtensionProbe.Proofs.StableOrder
import ExtensionProbe.Value
import ExtensionProbe.Version.Order
import Mathlib.Data.Prod.Lex

/-!
# One order of versions

Versions stand in the lexicographic order of their numbers, and each comparison of two versions is a view of
it. So comparisons that are defined on their own agree with one another, and so do the collections that are
made with them: sorting with "older", the least with "older", the greatest with "newer" and the set with the
hash and "the same numbers".

* `compared`: every comparison of two versions by the order of their keys.
* `equals_eq_true_iff`: what equals a version is a version.
* `collected`: every collection of a list of versions by the order of their keys.
* `comparisons_view_one_order`: **all of it together.**
-/

namespace ExtensionProbe.Version

variable {a b c v w : Version} {x : Value} {vs members : List Version}
  {mix : Nat × Nat → UInt64}

/-- The place of a version in the order of versions: its numbers, the major one first. -/
def key (v : Version) : ℕ ×ₗ ℕ := toLex v.numbers

theorem key_le_key_iff : a.key ≤ b.key ↔ a.major < b.major ∨ a.major = b.major ∧ a.minor ≤ b.minor :=
  Prod.Lex.toLex_le_toLex

theorem key_lt_key_iff : a.key < b.key ↔ a.major < b.major ∨ a.major = b.major ∧ a.minor < b.minor :=
  Prod.Lex.toLex_lt_toLex

theorem key_eq_key_iff : a.key = b.key ↔ a.major = b.major ∧ a.minor = b.minor :=
  toLex_inj.trans Prod.mk_inj

/-! ## Two versions -/

/-- How two versions compare: each comparison is a view of the order of their keys. -/
structure Compared (a b : Version) : Prop where
  atMost : a.atMost b = true ↔ a.key ≤ b.key
  precedes : a.precedes b = true ↔ a.key < b.key
  reaches : a.reaches b = true ↔ b.key ≤ a.key
  follows : a.follows b = true ↔ b.key < a.key
  agrees : a.agrees b = true ↔ a.key = b.key
  differs : a.differs b = true ↔ a.key ≠ b.key
  atLeast : a.atLeast b.major b.minor = true ↔ b.key ≤ a.key
  oneHolds : [a.precedes b, a.agrees b, a.follows b].count true = 1
  bothWays : a.atMost b = true ∧ b.atMost a = true ↔ a.agrees b = true
  reaches_iff_atLeast : a.reaches b = true ↔ a.atLeast b.major b.minor = true
  hash : ∀ mix, a.agrees b = true → a.hashBy mix = b.hashBy mix

theorem atMost_iff_key : a.atMost b = true ↔ a.key ≤ b.key :=
  atMost_iff.trans key_le_key_iff.symm

theorem precedes_iff_key : a.precedes b = true ↔ a.key < b.key :=
  precedes_iff.trans key_lt_key_iff.symm

theorem reaches_iff_key : a.reaches b = true ↔ b.key ≤ a.key := by
  rw [reaches_iff, key_le_key_iff, eq_comm]

theorem follows_iff_key : a.follows b = true ↔ b.key < a.key := by
  rw [follows_iff, key_lt_key_iff, eq_comm]

theorem agrees_iff_key : a.agrees b = true ↔ a.key = b.key :=
  agrees_iff.trans key_eq_key_iff.symm

theorem differs_iff_key : a.differs b = true ↔ a.key ≠ b.key := by
  rw [differs, Bool.not_eq_true', ← Bool.not_eq_true, agrees_iff_key]

theorem atLeast_iff_key : a.atLeast b.major b.minor = true ↔ b.key ≤ a.key := by
  rw [atLeast_iff, key_le_key_iff]
  omega

theorem atMost_trans (hab : a.atMost b = true) (hbc : b.atMost c = true) : a.atMost c = true := by
  rw [atMost_iff_key] at hab hbc ⊢
  exact le_trans hab hbc

/-- Of two versions, the first is older, or they have the same numbers, or the first is newer. -/
theorem count_comparisons (a b : Version) :
    [a.precedes b, a.agrees b, a.follows b].count true = 1 := by
  have hprecedes := @precedes_iff_key a b
  have hagrees := @agrees_iff_key a b
  have hfollows := @follows_iff_key a b
  rcases lt_trichotomy a.key b.key with h | h | h
  · have hne := ne_of_lt h
    have hle := not_lt_of_gt h
    simp_all
  · simp_all
  · have hne := ne_of_gt h
    have hle := not_lt_of_gt h
    simp_all

theorem hashBy_of_agrees (h : a.agrees b = true) : a.hashBy mix = b.hashBy mix :=
  congrArg (fun k => mix (ofLex k)) (agrees_iff_key.1 h)

theorem compared (a b : Version) : Compared a b where
  atMost := atMost_iff_key
  precedes := precedes_iff_key
  reaches := reaches_iff_key
  follows := follows_iff_key
  agrees := agrees_iff_key
  differs := differs_iff_key
  atLeast := atLeast_iff_key
  oneHolds := count_comparisons a b
  bothWays := by
    rw [atMost_iff_key, atMost_iff_key, agrees_iff_key]
    exact ⟨fun h => le_antisymm h.1 h.2, fun h => ⟨le_of_eq h, ge_of_eq h⟩⟩
  reaches_iff_atLeast := reaches_iff_key.trans atLeast_iff_key.symm
  hash _ := hashBy_of_agrees

/-- What equals a version is a version with its numbers. -/
theorem equals_eq_true_iff : a.equals x = true ↔ ∃ b, x = .version b ∧ a.key = b.key := by
  constructor
  · intro h
    cases x with
    | version b => exact ⟨b, rfl, agrees_iff_key.1 h⟩
    | _ => cases h
  · rintro ⟨b, rfl, h⟩
    exact agrees_iff_key.2 h

/-! ## Sorting, the least and the greatest -/

theorem sort_stable (vs : List Version) : StablySorted key vs (sort vs) := by
  refine stablySorted_mergeSort (fun a b => ?_) vs
  rw [Bool.not_eq_true', ← Bool.not_eq_true, precedes_iff_key, not_lt]

theorem sortDescending_stable (vs : List Version) :
    StablySorted (OrderDual.toDual ∘ key) vs (sortDescending vs) := by
  refine stablySorted_mergeSort (fun a b => ?_) vs
  rw [Bool.not_eq_true', ← Bool.not_eq_true, precedes_iff_key, not_lt]
  exact OrderDual.toDual_le_toDual.symm

/-- A list that has a member has one at the head of its stable order. -/
theorem exists_head_of_stable {L : Type} [LinearOrder L] {rank : Version → L} {ws : List Version}
    (h : StablySorted rank (v :: vs) ws) : ∃ w, ws.head? = some w ∧ FirstLeast rank (v :: vs) w := by
  cases ws with
  | nil => cases h.perm.symm.eq_nil
  | cons w ws => exact ⟨w, rfl, h.head⟩

theorem least?_eq_head (vs : List Version) : least? vs = (sort vs).head? := by
  cases vs with
  | nil => rw [sort, List.mergeSort_nil]; rfl
  | cons v rest =>
    obtain ⟨w, hw, hfirst⟩ := exists_head_of_stable (sort_stable (v :: rest))
    have hbetter : ∀ a b : Version, a.precedes b = true ↔ a.key < b.key := fun _ _ => precedes_iff_key
    have hleast := firstLeast_foldl hbetter (firstLeast_singleton v) rest
    rw [hw, hfirst.unique hleast]
    rfl

theorem greatest?_eq_head (vs : List Version) : greatest? vs = (sortDescending vs).head? := by
  cases vs with
  | nil => rw [sortDescending, List.mergeSort_nil]; rfl
  | cons v rest =>
    obtain ⟨w, hw, hfirst⟩ := exists_head_of_stable (sortDescending_stable (v :: rest))
    have hbetter : ∀ a b : Version, a.follows b = true ↔
        (OrderDual.toDual ∘ key) a < (OrderDual.toDual ∘ key) b :=
      fun _ _ => follows_iff_key.trans OrderDual.toDual_lt_toDual.symm
    have hleast := firstLeast_foldl hbetter (firstLeast_singleton v) rest
    rw [hw, hfirst.unique hleast]
    rfl

/-! ## Sets -/

/-- Versions are the first of each key in a list. -/
structure FirstOfEach (vs members : List Version) : Prop where
  sublist : members.Sublist vs
  first : ∀ k, (members.filter fun v => v.key = k) = ((vs.find? fun v => v.key = k)).toList

theorem isMember_iff :
    (members.any fun w => w.hashBy mix == v.hashBy mix && w.agrees v) = true ↔
      ∃ w ∈ members, w.key = v.key := by
  simp only [List.any_eq_true, Bool.and_eq_true, beq_iff_eq]
  constructor
  · rintro ⟨w, hw, -, h⟩
    exact ⟨w, hw, agrees_iff_key.1 h⟩
  · rintro ⟨w, hw, h⟩
    have hagrees := agrees_iff_key.2 h
    exact ⟨w, hw, hashBy_of_agrees hagrees, hagrees⟩

/-- A member is added only to a set without one of its key. -/
theorem FirstOfEach.addMember (h : FirstOfEach vs members) (v : Version) :
    FirstOfEach (vs ++ [v]) (addMember mix members v) := by
  unfold Version.addMember
  split
  · next hmember =>
    obtain ⟨w, hw, hwv⟩ := isMember_iff.1 hmember
    refine ⟨h.sublist.trans (List.sublist_append_left _ _), fun k => ?_⟩
    rw [h.first k, List.find?_append]
    cases hfind : vs.find? fun v => v.key = k with
    | some u => rfl
    | none =>
      -- the key of the new version has a first one already
      have hk : v.key ≠ k := by
        rintro rfl
        have hnone := List.find?_eq_none.1 hfind w (h.sublist.mem hw)
        exact hnone (decide_eq_true hwv)
      simp [hk]
  · next hmember =>
    refine ⟨h.sublist.append (List.Sublist.refl _), fun k => ?_⟩
    rw [List.filter_append, h.first k, List.find?_append]
    cases hfind : vs.find? fun v => v.key = k with
    | none => by_cases hk : v.key = k <;> simp [hk]
    | some u =>
      -- the first one of a key is in the set, so the new version has another key
      have hu : u ∈ members.filter fun v => v.key = k := by
        rw [h.first k, hfind]
        exact List.mem_singleton_self u
      have hk : v.key ≠ k := by
        intro hk
        obtain ⟨hu, huk⟩ := List.mem_filter.1 hu
        exact hmember (isMember_iff.2 ⟨u, hu, (of_decide_eq_true huk).trans hk.symm⟩)
      simp [hk]

theorem firstOfEach_foldl (h : FirstOfEach vs members) (rest : List Version) :
    FirstOfEach (vs ++ rest) (rest.foldl (Version.addMember mix) members) := by
  induction rest generalizing vs members with
  | nil => simpa using h
  | cons v rest ih =>
    have hstep : FirstOfEach (vs ++ [v] ++ rest)
        (rest.foldl (Version.addMember mix) (Version.addMember mix members v)) := ih (h.addMember v)
    simpa using hstep

theorem setOf_firstOfEach (mix : Nat × Nat → UInt64) (vs : List Version) :
    FirstOfEach vs (setOf mix vs) :=
  firstOfEach_foldl ⟨List.Sublist.refl [], fun _ => rfl⟩ vs

/-- Looking for the numbers alone finds the same members as looking for the hash first. -/
theorem distinctAfter_eq_foldl (found rest : List Version) :
    distinctAfter found rest = rest.foldl (Version.addMember mix) found.reverse := by
  induction rest generalizing found with
  | nil => rfl
  | cons v rest ih =>
    have hany : found.any (agrees v) = true ↔
        (found.reverse.any fun w => w.hashBy mix == v.hashBy mix && w.agrees v) = true := by
      rw [isMember_iff, List.any_eq_true]
      simp only [agrees_iff_key, List.mem_reverse]
      exact exists_congr fun w => and_congr_right fun _ => eq_comm
    rw [distinctAfter, List.foldl_cons, Version.addMember]
    by_cases h : found.any (agrees v) = true
    · rw [if_pos h, if_pos (hany.1 h), ih]
    · rw [if_neg h, if_neg (mt hany.2 h), ih, List.reverse_cons]

theorem distinct_eq_setOf (mix : Nat × Nat → UInt64) (vs : List Version) :
    distinct vs = setOf mix vs :=
  distinctAfter_eq_foldl [] vs

/-! ## All of it together -/

/-- What is made of a list of versions with its comparisons. There is one stable order from the oldest to the
newest and one from the newest to the oldest; the least and the greatest version are the heads of the two; and
a set has the first version of each key. -/
structure Collected (vs : List Version) : Prop where
  ascending : ∀ ws, ws = sort vs ↔ StablySorted key vs ws
  descending : ∀ ws, ws = sortDescending vs ↔ StablySorted (OrderDual.toDual ∘ key) vs ws
  least : least? vs = (sort vs).head?
  greatest : greatest? vs = (sortDescending vs).head?
  set : ∀ mix, FirstOfEach vs (setOf mix vs) ∧ distinct vs = setOf mix vs

theorem collected (vs : List Version) : Collected vs where
  ascending ws := by
    refine ⟨?_, fun h => h.unique (sort_stable vs)⟩
    rintro rfl
    exact sort_stable vs
  descending ws := by
    refine ⟨?_, fun h => h.unique (sortDescending_stable vs)⟩
    rintro rfl
    exact sortDescending_stable vs
  least := least?_eq_head vs
  greatest := greatest?_eq_head vs
  set mix := ⟨setOf_firstOfEach mix vs, distinct_eq_setOf mix vs⟩

/-- **All comparisons of versions are views of one order**, that of their keys: the comparisons of two
versions, which qualifiers play no part in; "the same or older" in a row of versions; the comparison with a
value of any kind, which only a version can equal; and the collections made of a list of versions. -/
theorem comparisons_view_one_order :
    (∀ a b : Version, Compared a b) ∧
      (∀ a b c : Version, a.atMost b = true → b.atMost c = true → a.atMost c = true) ∧
      (∀ (a : Version) (x : Value), a.equals x = true ↔ ∃ b, x = .version b ∧ a.key = b.key) ∧
      ∀ vs : List Version, Collected vs :=
  ⟨compared, fun _ _ _ => atMost_trans, fun _ _ => equals_eq_true_iff, collected⟩

/-- Two versions with the same numbers and a newer one: of the two, the one that is given first is the least,
and it is the one that a set keeps. -/
theorem comparisons_view_one_order_twins :
    let a : Version := ⟨1, 0, some "a"⟩
    let b : Version := ⟨1, 0, some "b"⟩
    let c : Version := ⟨2, 0, none⟩
    a.atMost b = true ∧ b.atMost c = true ∧ a.atMost c = true ∧ a.agrees b = true ∧ a ≠ b ∧
      (sort [c, b, a]).head? = some b ∧ (sortDescending [c, b, a]).head? = some c ∧
      distinct [c, b, a] = [c, b] := by
  intro a b c
  obtain ⟨-, htrans, -, hcollected⟩ := comparisons_view_one_order
  have hab : a.atMost b = true := by decide
  have hbc : b.atMost c = true := by decide
  have hleast := (hcollected [c, b, a]).least
  have hgreatest := (hcollected [c, b, a]).greatest
  exact ⟨hab, hbc, htrans a b c hab hbc, by decide, by decide, hleast.symm.trans (by decide),
    hgreatest.symm.trans (by decide), by decide⟩

end ExtensionProbe.Version
