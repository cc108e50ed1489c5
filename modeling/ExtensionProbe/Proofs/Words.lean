import ExtensionProbe.Probe
import ExtensionProbe.Proofs.Fallible
import Mathlib.Algebra.Ring.Nat

/-!
# Versions, gates and skips in words

Writing a number stops at a limit of digits. A version, a gate or the reason of a skip has a text exactly
if its numbers are within the limit, and then it is the text that is written without looking at it.

* `Version.text_of_writable`, `Gate.text_of_writable`: the text of a version and of a gate.
* `skipReason_of_writable`, `writable_of_skipReason`: a skip can be explained exactly if the host and the
  gate can be written.
-/

namespace ExtensionProbe

namespace Decimal

variable {n : Nat}

/-- A number has no more digits than can be written. -/
def Writable (n : Nat) : Prop := (Nat.toDigits 10 n).length ≤ maxDigits

instance : Decidable (Writable n) := inferInstanceAs (Decidable (_ ≤ _))

theorem write_of_writable (h : Writable n) : write n = .ok (toString n) :=
  write_eq_ok_iff.2 ⟨h, Nat.toString_eq_ofList_toDigits⟩

theorem writable_of_write {s : String} (h : write n = .ok s) : Writable n ∧ s = toString n := by
  obtain ⟨hn, hs⟩ := write_eq_ok_iff.1 h
  exact ⟨hn, hs.trans Nat.toString_eq_ofList_toDigits.symm⟩

/-- A number is written in digits. -/
theorem isDigit_of_mem {c : Code} (h : c ∈ Text.ofString (toString n)) : c.is Char.isDigit = true := by
  obtain ⟨d, hd, rfl⟩ := List.mem_map.1 h
  rw [Nat.toString_eq_ofList_toDigits, String.toList_ofList] at hd
  exact Nat.isDigit_of_mem_toDigits (by decide) (by decide) hd

theorem ofDigitChars_lt {ds : List Char} (h : ∀ c ∈ ds, c.isDigit = true) :
    Nat.ofDigitChars 10 ds 0 < 10 ^ ds.length := by
  induction ds with
  | nil => simp
  | cons c rest ih =>
    have hc : c.toNat - '0'.toNat ≤ 9 := by
      have := h c List.mem_cons_self
      simp only [Char.isDigit, Bool.and_eq_true, decide_eq_true_eq] at this
      have hle : c.toNat ≤ 57 := UInt32.le_iff_toNat_le.1 this.2
      have : '0'.toNat = 48 := rfl
      omega
    have hrest := ih fun d hd => h d (List.mem_cons_of_mem _ hd)
    rw [Nat.ofDigitChars_cons, Nat.ofDigitChars_eq_ofDigitChars_zero, List.length_cons, Nat.pow_succ]
    -- the first digit is at most nine, and the rest stays below its power of ten
    have hmul : 10 ^ rest.length * (10 * 0 + (c.toNat - '0'.toNat)) ≤ 10 ^ rest.length * 9 :=
      Nat.mul_le_mul_left _ (by omega)
    omega

/-- What is read within the limit can be written. -/
theorem writable_of_read {ds : List Char} (hd : ∀ c ∈ ds, c.isDigit = true) (h : read ds = .ok n) :
    Writable n := by
  obtain ⟨hlen, rfl⟩ := read_eq_ok_iff.1 h
  unfold Writable
  rw [Nat.length_toDigits_le_iff (by decide) (by decide)]
  exact Nat.lt_of_lt_of_le (ofDigitChars_lt hd) (Nat.pow_le_pow_right (by decide) hlen)

end Decimal

/-- Both numbers of a version can be written. -/
def Version.Writable (v : Version) : Prop := Decimal.Writable v.major ∧ Decimal.Writable v.minor

/-- Both numbers of a gate can be written. -/
def Gate.Writable (g : Gate) : Prop := Decimal.Writable g.major ∧ Decimal.Writable g.minor

instance (v : Version) : Decidable v.Writable := inferInstanceAs (Decidable (_ ∧ _))

instance (g : Gate) : Decidable g.Writable := inferInstanceAs (Decidable (_ ∧ _))

/-- A version in words, however long its numbers are. -/
def Version.words (v : Version) : Text :=
  toString v.major ++ "." ++ toString v.minor ++
    match v.qualifier with
    | some (c :: q) => "-" ++ (c :: q)
    | _ => []

/-- A gate in words, however long its numbers are. -/
def Gate.words (g : Gate) : String := ">=" ++ toString g.major ++ "." ++ toString g.minor

theorem Version.text_of_writable {v : Version} (h : v.Writable) : v.text = .ok v.words := by
  unfold Version.text Version.words
  rw [Decimal.write_of_writable h.1, Decimal.write_of_writable h.2]
  rcases v.qualifier with _ | _ | ⟨c, q⟩ <;> simp [bind, Except.bind, pure, Except.pure]

theorem Version.writable_of_text {v : Version} {t : Text} (h : v.text = .ok t) : v.Writable := by
  obtain ⟨a, ha, h⟩ := exists_of_bind_eq_ok h
  obtain ⟨b, hb, -⟩ := exists_of_bind_eq_ok h
  exact ⟨(Decimal.writable_of_write ha).1, (Decimal.writable_of_write hb).1⟩

theorem Gate.text_of_writable {g : Gate} (h : g.Writable) : g.text = .ok g.words := by
  unfold Gate.text Gate.words
  rw [Decimal.write_of_writable h.1, Decimal.write_of_writable h.2]
  rfl

theorem Gate.writable_of_text {g : Gate} {s : String} (h : g.text = .ok s) : g.Writable := by
  obtain ⟨a, ha, h⟩ := exists_of_bind_eq_ok h
  obtain ⟨b, hb, -⟩ := exists_of_bind_eq_ok h
  exact ⟨(Decimal.writable_of_write ha).1, (Decimal.writable_of_write hb).1⟩

namespace Probe

/-- A host is unknown or its numbers can be written. -/
def HostWritable (host : Option Version) : Prop := ∀ v ∈ host, v.Writable

/-- The numbers of every gate among checks can be written. -/
def GatesWritable (checks : List Check) : Prop := ∀ c ∈ checks, ∀ g ∈ c.gate, g.Writable

instance (host : Option Version) : Decidable (HostWritable host) :=
  inferInstanceAs (Decidable (∀ v ∈ host, _))

instance (checks : List Check) : Decidable (GatesWritable checks) :=
  inferInstanceAs (Decidable (∀ c ∈ checks, _))

/-- A host in words. -/
def hostWords : Option Version → Text
  | none => "unknown"
  | some v => v.words

/-- The reason of a skip in words. -/
def skipWords (host : Option Version) (g : Gate) : Text :=
  "host version " ++ hostWords host ++ " does not satisfy " ++ g.words

theorem hostText_of_writable {host : Option Version} (h : HostWritable host) :
    hostText host = .ok (hostWords host) := by
  cases host with
  | none => rfl
  | some v => exact Version.text_of_writable (h v rfl)

theorem skipReason_of_writable {host : Option Version} {g : Gate} (hh : HostWritable host)
    (hg : g.Writable) : skipReason host g = .ok (skipWords host g) := by
  unfold skipReason skipWords
  rw [hostText_of_writable hh, Gate.text_of_writable hg]
  rfl

theorem writable_of_skipReason {host : Option Version} {g : Gate} {reason : Text}
    (h : skipReason host g = .ok reason) : HostWritable host ∧ g.Writable := by
  obtain ⟨t, hh, h⟩ := exists_of_bind_eq_ok h
  obtain ⟨s, hg, -⟩ := exists_of_bind_eq_ok h
  refine ⟨?_, Gate.writable_of_text hg⟩
  rintro v rfl
  exact Version.writable_of_text hh

end Probe

end ExtensionProbe
