import ExtensionProbe.Path

/-!
# Files

The directories and the files below the root, with what may be done with each of them, and the directory
where the program runs. A path is followed name by name, so that it matters for each directory on the way
whether it may be searched.

* `find_put_self`: what is put at a place is found there.
-/

namespace ExtensionProbe

/-- What may be done at a place: to read it, to change it, and, in a directory, to look for names. -/
structure Access where
  read : Bool := true
  write : Bool := true
  search : Bool := true
deriving DecidableEq, Repr

/-- What is at a place. -/
inductive Entry where
  | directory (access : Access := {})
  | file (content : ByteArray) (access : Access := {})

/-- The files below the root, each with the names on the way to it, the place where the program runs, and
what may be done in the root. -/
structure Files where
  entries : List (List Text × Entry)
  here : List Text := []
  root : Access := {}

/-- Why a file cannot be opened. -/
inductive OpenError where
  | missing
  | isDirectory
  | notDirectory
  /-- The name has a character that no name can have. -/
  | badName
  /-- A name on the way, or the path as a whole, is too long. -/
  | tooLong
  /-- The name has no form in bytes. -/
  | unencodable
  /-- A directory on the way may not be searched, or what is there may not be opened. -/
  | denied
deriving DecidableEq, Repr

/-- The wording for a name that no file can have. -/
def OpenError.badNameMessage : String := "embedded null byte"

namespace Files

/-- No files. -/
def empty : Files := { entries := [] }

/-- What is at a place; at the root there is a directory. -/
def find (fs : Files) (way : List Text) : Option Entry :=
  if way.isEmpty then some (.directory fs.root)
  else (fs.entries.find? (·.1 == way)).map Prod.snd

/-- Puts something at a place; what was there is replaced. -/
def put (fs : Files) (way : List Text) (e : Entry) : Files :=
  { fs with entries := (way, e) :: fs.entries.filter (·.1 != way) }

/-- Puts a directory at a place if nothing is there. -/
def ensure (fs : Files) (way : List Text) : Files :=
  match fs.find way with
  | none => fs.put way .directory
  | some _ => fs

/-- Puts something at a place, with the directories on the way to it. -/
def add (fs : Files) (way : List Text) (e : Entry) : Files :=
  let parents := (List.range way.length).filterMap fun n =>
    if n = 0 then none else some (way.take n)
  (parents.foldl ensure fs).put way e

/-- The bytes that a name may have. -/
def maxName : Nat := 255

/-- The bytes that a path may have. -/
def maxPath : Nat := 4095

/-- Whether a name has more bytes than it may have. -/
def isLong (name : Text) : Bool := maxName < Path.size name

/-- Where a path starts. -/
def placeOf (fs : Files) : Path.Start → List Text
  | .here => fs.here
  | .root | .doubleRoot => []

/-- Follows names from a place to what is there, unless a directory on the way may not be searched or a
name is too long. A step up from the root stays there. -/
def follow (fs : Files) (place : List Text) : List Text → Except OpenError (Option Entry)
  | [] => .ok (fs.find place)
  | name :: rest =>
    match fs.find place with
    | some (.directory access) =>
      if !access.search then .error .denied
      else if isLong name then .error .tooLong
      else if name == ".." then follow fs place.dropLast rest
      else follow fs (place ++ [name]) rest
    | _ => .ok none

/-- What a path leads to, if it can be followed. A path that no file can have leads nowhere. -/
def look (fs : Files) (p : Path) : Except OpenError (Option Entry) :=
  if !Path.isName p.text then .ok none
  else if maxPath < Path.size p.text then .error .tooLong
  else fs.follow (fs.placeOf p.start) p.names

/-- Whether a path leads anywhere, if it can be followed. -/
def exist (fs : Files) (p : Path) : Except OpenError Bool := (·.isSome) <$> fs.look p

/-- The bytes of the file that a path leads to. -/
def read (fs : Files) (p : Path) : Except OpenError ByteArray := do
  match ← fs.look p with
  | none => throw .missing
  | some (.directory access) => throw (if access.read then .isDirectory else .denied)
  | some (.file content access) => if access.read then pure content else throw .denied

/-- The place that names lead to by themselves, a step up taking back the step before. -/
def settle (way : List Text) : List Text → List Text
  | [] => way
  | name :: rest =>
    if name == ".." then settle way.dropLast rest else settle (way ++ [name]) rest

/-- What keeps names from being followed from a place to the last of them, if anything does. -/
def obstacle? (fs : Files) (way : List Text) : List Text → Option OpenError
  | [] => none
  | name :: rest =>
    match fs.find way with
    | some (.directory access) =>
      if !access.search then some .denied
      else if isLong name then some .tooLong
      else obstacle? fs (way ++ [name]) rest
    | some (.file ..) => some .notDirectory
    | none => some .missing

/-- Whether something may be made at a place. -/
def mayMake (fs : Files) (way : List Text) : Bool :=
  match fs.find way.dropLast with
  | some (.directory access) => access.write
  | _ => false

/-- Opens the file at a place for adding to its end, and makes it if it is missing. -/
def openAt (fs : Files) (way : List Text) : Except OpenError (List Text × Files) :=
  match fs.obstacle? [] way, fs.find way with
  | some e, _ => .error e
  | none, some (.directory _) => .error .isDirectory
  | none, some (.file _ access) => if access.write then .ok (way, fs) else .error .denied
  | none, none => if fs.mayMake way then .ok (way, fs.put way (.file .empty)) else .error .denied

/-- Opens a file for adding to its end by a name, which is first made a path from the root; the place of
the file, and the files then. -/
def openLog (fs : Files) (name : Text) : Except OpenError (List Text × Files) :=
  let p := Path.ofText name
  let way := settle (fs.placeOf p.start) p.names
  let start := if p.start = .doubleRoot then .doubleRoot else .root
  if !Path.isEncodable name then .error .unencodable
  else if !Path.isName name then .error .badName
  else if maxPath < Path.size (Path.text ⟨start, way⟩) then .error .tooLong
  else fs.openAt way

/-- Adds text to the end of a file. A text with halves has no bytes and is dropped. -/
def append (fs : Files) (way : List Text) (t : Text) : Files :=
  match fs.find way, t.toString? with
  | some (.file content access), some s => fs.put way (.file (content ++ s.toUTF8) access)
  | _, _ => fs

/-- The files with their bytes, in the order of their places. -/
def toList (fs : Files) : List (Text × ByteArray) :=
  let files := fs.entries.filterMap fun e =>
    match e.2 with
    | .file content _ => some (Text.join "/" e.1, content)
    | .directory _ => none
  files.mergeSort fun a b => !decide (b.1 < a.1)

theorem find_put_self (fs : Files) {way : List Text} (h : way ≠ []) (e : Entry) :
    (fs.put way e).find way = some e := by
  simp [find, put, h]

end Files

end ExtensionProbe
