import ExtensionProbe.Proofs.Numeral
import ExtensionProbe.Proofs.Reload

/-!
# What is taken for a text or a number

Data from a file seldom has the type that a field asks for, so some values are taken for texts and whole
numbers that are none: bytes for the text that they are in UTF-8, a truth value for zero or one, a double for
the whole number that it is, a text for the number that it writes.

* `text_eq_ok_iff`, `string_eq_ok_iff`: what is taken for a text.
* `integer_eq_ok_iff`, `natural_eq_ok_iff`: what is taken for a whole number.
* `closed_eq_ok_iff_keys`, `closed_congr`: a record has no keys but the names of its fields, and what is told of
  its keys does not depend on the values under them.
-/

namespace ExtensionProbe.Decode

open Checked

variable {d : Data} {t : Text} {s : String} {n : Int} {k : Nat} {names : List String}
  {es fs : List (Data × Data)} {α : Type} {parts : Checked α} {x : α}

/-! ## Texts -/

/-- A value is taken for a text: a text for itself, and bytes for the text that they are in UTF-8. -/
inductive TakenForText : Data → Text → Prop
  | text (t : Text) : TakenForText (.text t) t
  | bytes (s : String) : TakenForText (.bytes s.toUTF8.data.toList) s

theorem fromUTF8?_eq_some_iff {b : List UInt8} :
    String.fromUTF8? ⟨b.toArray⟩ = some s ↔ b = s.toUTF8.data.toList := by
  unfold String.fromUTF8?
  split
  · next hvalid =>
    constructor
    · intro h
      cases h
      rfl
    · intro h
      subst h
      rfl
  · next hvalid =>
    refine iff_of_false nofun ?_
    rintro rfl
    exact hvalid s.isValidUTF8

theorem text_eq_ok_iff : Decode.text d = .ok t ↔ TakenForText d t := by
  constructor
  · intro h
    cases d with
    | text t' =>
      cases h
      exact .text t
    | bytes b =>
      rw [Decode.text] at h
      split at h
      · next s hs =>
        cases h
        rw [fromUTF8?_eq_some_iff.1 hs]
        exact .bytes s
      · cases h
    | _ => cases h
  · rintro (_ | s)
    · rfl
    · rw [Decode.text, fromUTF8?_eq_some_iff.2 rfl]

theorem string_eq_ok_iff : string d = .ok s ↔ TakenForText d s := by
  rw [← text_eq_ok_iff]
  constructor
  · intro h
    obtain ⟨t, ht, h⟩ := exists_of_bind_eq_ok h
    split at h
    · next s' hs =>
      cases h
      rw [ht, Text.toString?_eq_some_iff.1 hs]
    · cases h
  · intro h
    simp only [string, h, bind, Except.bind, Text.toString?_ofString]

/-! ## Whole numbers -/

/-- A value is taken for a whole number: a number for itself, a truth value for zero or one, a double that is
whole and not too great for what it is, and a text for the number that it writes. -/
inductive TakenForInteger : Data → Int → Prop
  | int (n : Int) : TakenForInteger (.int n) n
  | bool (b : Bool) : TakenForInteger (.bool b) (if b then 1 else 0)
  | float {x : Binary64} {n : Int} (hwhole : x.toInt? = some n) (hsize : n.natAbs < 2 ^ 63) :
      TakenForInteger (.float x) n
  | text {d : Data} {s : String} {n : Int} (hd : TakenForText d s) (hs : WrittenInteger s.toList n) :
      TakenForInteger d n

theorem integer_float_eq_ok_iff {x : Binary64} :
    integer (.float x) = .ok n ↔ x.toInt? = some n ∧ n.natAbs < 2 ^ 63 := by
  cases x with
  | finite negative mantissa exponent =>
    rw [integer]
    cases h : (Binary64.finite negative mantissa exponent).toInt? with
    | none => exact iff_of_false nofun fun h => nomatch h.1
    | some m =>
      have hfits : fitsWord m = true ↔ m.natAbs < 2 ^ 63 := decide_eq_true_iff
      simp only [hfits, Option.some.injEq]
      split
      · next hsize =>
        rw [Except.ok.injEq]
        exact ⟨fun h => ⟨h, h ▸ hsize⟩, fun h => h.1⟩
      · next hsize =>
        refine iff_of_false nofun ?_
        rintro ⟨rfl, h⟩
        exact hsize h
  | infinite negative => exact iff_of_false nofun fun h => nomatch h.1
  | nan => exact iff_of_false nofun fun h => nomatch h.1

theorem integer_eq_ok_iff : integer d = .ok n ↔ TakenForInteger d n := by
  constructor
  · intro h
    cases d with
    | int m =>
      cases h
      exact .int n
    | bool b =>
      cases h
      exact .bool b
    | float x =>
      obtain ⟨hwhole, hsize⟩ := integer_float_eq_ok_iff.1 h
      exact .float hwhole hsize
    | text t =>
      rw [integer] at h
      split at h
      · next s hs =>
        rw [Text.toString?_eq_some_iff.1 hs]
        exact .text (.text s) (integerText_eq_ok_iff.1 h)
      · cases h
    | bytes b =>
      rw [integer] at h
      split at h
      · next s hs =>
        rw [fromUTF8?_eq_some_iff.1 hs]
        exact .text (.bytes s) (integerText_eq_ok_iff.1 h)
      · cases h
    | _ => cases h
  · rintro (_ | _ | ⟨hwhole, hsize⟩ | ⟨hd, hs⟩)
    · rfl
    · rfl
    · exact integer_float_eq_ok_iff.2 ⟨hwhole, hsize⟩
    · have hread := integerText_eq_ok_iff.2 hs
      generalize ht : Text.ofString _ = t at hd
      cases hd with
      | text =>
        simp only [integer, ← ht, Text.toString?_ofString, hread]
      | bytes s' =>
        cases Text.ofString_inj.1 ht
        simp only [integer, fromUTF8?_eq_some_iff.2 rfl, hread]

theorem natural_eq_ok_iff : natural d = .ok k ↔ TakenForInteger d k := by
  rw [← integer_eq_ok_iff, natural, map_eq_ok_iff]
  constructor
  · rintro ⟨m, hm, rfl⟩
    obtain ⟨hm, hbound⟩ := integerFrom_eq_ok_iff.1 hm
    rw [hm, Int.toNat_of_nonneg hbound]
  · intro h
    exact ⟨k, integerFrom_eq_ok_iff.2 ⟨h, Int.natCast_nonneg k⟩, Int.toNat_natCast k⟩

/-! ## Keys -/

/-- The keys of a record are among the names of its fields. -/
def KeysAmong (names : List String) (es : List (Data × Data)) : Prop :=
  ∀ e ∈ es, ∃ name ∈ names, e.1 = .text name

theorem checkKey_eq_ok_iff {key : Data} :
    checkKey names key = .ok () ↔ ∃ name ∈ names, key = .text name := by
  cases key with
  | text t =>
    rw [checkKey]
    cases ht : t.toString? with
    | none =>
      constructor
      · intro h
        cases h
      · rintro ⟨name, -, h⟩
        cases h
        cases ht.symm.trans (Text.toString?_ofString name)
    | some s =>
      obtain rfl := Text.toString?_eq_some_iff.1 ht
      by_cases hs : names.contains s = true
      · exact iff_of_true (if_pos hs) ⟨s, List.contains_iff_mem.1 hs, rfl⟩
      · simp only [hs]
        constructor
        · intro h
          cases h
        · rintro ⟨name, hname, h⟩
          rw [Data.text.injEq, Text.ofString_inj] at h
          exact absurd (List.contains_iff_mem.2 (h ▸ hname)) hs
  | _ =>
    constructor
    · intro h
      cases h
    · rintro ⟨name, -, h⟩
      cases h

theorem onlyFields_eq_ok_iff : onlyFields names es = .ok () ↔ KeysAmong names es := by
  induction es with
  | nil => exact iff_of_true rfl nofun
  | cons e es ih =>
    rw [onlyFields, map_eq_ok_iff]
    constructor
    · rintro ⟨p, hp, -⟩
      obtain ⟨hkey, hes⟩ := both_eq_ok_iff.1 hp
      exact List.forall_mem_cons.2 ⟨checkKey_eq_ok_iff.1 hkey, ih.1 hes⟩
    · intro h
      obtain ⟨hkey, hes⟩ := List.forall_mem_cons.1 h
      exact ⟨((), ()), both_eq_ok_iff.2 ⟨checkKey_eq_ok_iff.2 hkey, ih.2 hes⟩, rfl⟩

/-- A record is accepted exactly if its parts are and its keys are names of its fields. -/
theorem closed_eq_ok_iff_keys : closed names es parts = .ok x ↔ KeysAmong names es ∧ parts = .ok x := by
  rw [closed_eq_ok_iff, onlyFields_eq_ok_iff]
  constructor
  · rintro ⟨-, hparts, hkeys⟩
    exact ⟨hkeys, hparts⟩
  · rintro ⟨hkeys, hparts⟩
    refine ⟨?_, hparts, hkeys⟩
    intro e he
    obtain ⟨name, -, hname⟩ := hkeys e he
    rw [hname, isTorn, Text.toString?_ofString]
    rfl

theorem onlyFields_congr (h : es.map Prod.fst = fs.map Prod.fst) : onlyFields names es = onlyFields names fs := by
  induction es generalizing fs with
  | nil =>
    cases List.map_eq_nil_iff.1 h.symm
    rfl
  | cons e es ih =>
    obtain ⟨f, fs, rfl, hkey, hkeys⟩ := List.map_eq_cons_iff.1 h.symm
    rw [onlyFields, onlyFields, hkey, ih hkeys.symm]

/-- What is told of the keys of a record does not depend on the values under them. -/
theorem closed_congr (h : es.map Prod.fst = fs.map Prod.fst) : closed names es parts = closed names fs parts := by
  have htorn : es.any (isTorn ·.1) = fs.any (isTorn ·.1) := by
    calc es.any (isTorn ·.1)
      _ = (es.map Prod.fst).any isTorn := by rw [List.any_map]; rfl
      _ = (fs.map Prod.fst).any isTorn := by rw [h]
      _ = fs.any (isTorn ·.1) := by rw [List.any_map]; rfl
  rw [closed, closed, htorn, onlyFields_congr h]

end ExtensionProbe.Decode
