import ExtensionProbe.Text.Newline

/-!
# Texts in UTF-8

Bytes are read in blocks. Where a block is not UTF-8, the text before it can still be read.

* `length_validStart_le`: no more bytes are valid than there are.
-/

namespace ExtensionProbe.Text

/-- Whether a byte continues a character. -/
def isContinuation (b : UInt8) : Bool := 0x80 ≤ b && b ≤ 0xBF

/-- The number of bytes of the character at the start of bytes, if one is there. -/
def encodedLength? : List UInt8 → Option Nat
  | [] => none
  | a :: rest =>
    if a < 0x80 then some 1
    else
      match rest with
      | b :: rest =>
        if 0xC2 ≤ a && a ≤ 0xDF then if isContinuation b then some 2 else none
        else
          match rest with
          | c :: rest =>
            if !isContinuation b || !isContinuation c then none
            else if 0xE0 ≤ a && a ≤ 0xEF then
              if (a == 0xE0 && b < 0xA0) || (a == 0xED && 0x9F < b) then none else some 3
            else
              match rest with
              | d :: _ =>
                if !isContinuation d || a < 0xF0 || 0xF4 < a then none
                else if (a == 0xF0 && b < 0x90) || (a == 0xF4 && 0x8F < b) then none
                else some 4
              | [] => none
          | [] => none
      | [] => none

/-- The bytes up to the first that is not UTF-8. -/
def validStart (fuel : Nat) (bytes : List UInt8) : List UInt8 :=
  match fuel with
  | 0 => []
  | fuel + 1 =>
    match encodedLength? bytes with
    | none => []
    | some n => bytes.take n ++ validStart fuel (bytes.drop n)

theorem length_validStart_le (fuel : Nat) (bytes : List UInt8) :
    (validStart fuel bytes).length ≤ bytes.length := by
  induction fuel generalizing bytes with
  | zero => simp [validStart]
  | succ fuel ih =>
    rw [validStart]
    cases encodedLength? bytes with
    | none => simp
    | some n =>
      have := ih (bytes.drop n)
      simp only [List.length_append, List.length_take, List.length_drop] at this ⊢
      omega

/-- The number of bytes that are read together. -/
def blockSize : Nat := 8192

/-- The text of the blocks before the first that is not UTF-8. -/
def readableStart (bytes : List UInt8) : List Char :=
  let valid := validStart bytes.length bytes
  let blocks := valid.take (valid.length / blockSize * blockSize)
  match String.fromUTF8? ⟨(validStart blocks.length blocks).toArray⟩ with
  | some s => unify s.toList
  | none => []

end ExtensionProbe.Text
