/-!
# Bytes in base 64

Bytes are written with 64 characters, four of them for three bytes, and with equals signs at the end for
what is missing. Any other character is passed over.
-/

namespace ExtensionProbe.Text.Base64

/-- The value of one of the 64 characters. -/
def value? (c : Char) : Option Nat :=
  let n := c.toNat
  if 65 ≤ n ∧ n ≤ 90 then some (n - 65)
  else if 97 ≤ n ∧ n ≤ 122 then some (n - 71)
  else if 48 ≤ n ∧ n ≤ 57 then some (n + 4)
  else if c = '+' then some 62
  else if c = '/' then some 63
  else none

/-- The bytes of a text after those read before, in reverse. `position` counts the characters of the
current four, `left` holds the bits of the last one that are not yet in a byte, and `signs` counts the
equals signs since it. -/
def decodeFrom (read : List UInt8) (position left signs : Nat) : List Char → Option (List UInt8)
  | [] => if position = 0 then some read.reverse else none
  | c :: rest =>
    if c = '=' then
      if 2 ≤ position then
        if 4 ≤ position + (signs + 1) then some read.reverse
        else decodeFrom read position left (signs + 1) rest
      else decodeFrom read position left signs rest
    else
      match value? c with
      | none => decodeFrom read position left signs rest
      | some n =>
        match position with
        | 0 => decodeFrom read 1 n 0 rest
        | 1 => decodeFrom (UInt8.ofNat (left * 4 + n / 16) :: read) 2 (n % 16) 0 rest
        | 2 => decodeFrom (UInt8.ofNat (left * 16 + n / 4) :: read) 3 (n % 4) 0 rest
        | _ => decodeFrom (UInt8.ofNat (left * 64 + n) :: read) 0 0 0 rest

/-- The bytes that a text writes; none if its last four characters are not complete. -/
def decode? (s : List Char) : Option (List UInt8) :=
  decodeFrom [] 0 0 0 s

end ExtensionProbe.Text.Base64
