import ExtensionProbe.Data

/-!
# Parts of values by their places
-/

namespace ExtensionProbe.Data

/-- Why a value has no part at a place. -/
inductive ItemError where
  /-- The value has no parts at all. -/
  | noParts
  /-- The place lies beyond the end of a row of this kind. -/
  | beyond (row : String)
  /-- The value is a mapping, and no entry has the place for its key. -/
  | noEntry (index : Nat)
deriving DecidableEq, Repr

/-- The wording of an error, as far as it has one of its own. -/
def ItemError.message : ItemError → String
  | .noParts => ""
  | .beyond row => (if row.isEmpty then row else row ++ " ") ++ "index out of range"
  | .noEntry index => toString index

/-- The part of a value at a place: a member, a character, a byte, or the value under that number. -/
def item (d : Data) (index : Nat) : Except ItemError Data :=
  match d with
  | .list items => items[index]?.elim (.error (.beyond "list")) .ok
  | .tuple items => items[index]?.elim (.error (.beyond "tuple")) .ok
  | .text s => s[index]?.elim (.error (.beyond "string")) fun c => .ok (.text [c])
  | .bytes b => b[index]?.elim (.error (.beyond "")) fun x => .ok (.int x.toNat)
  | .map es => (es.find? fun e => sameKey e.1 (.int index)).elim (.error (.noEntry index)) fun e => .ok e.2
  | _ => .error .noParts

end ExtensionProbe.Data
