import ExtensionProbe.Data.Item
import ExtensionProbe.Data.Portable
import ExtensionProbe.Schema.Report
import ExtensionProbe.Schema.Settings
import ExtensionProbe.Text.Digit

/-!
# Assigning to parts of records

A record holds parts under names, and only settings can be assigned to. A field of the settings takes what
it takes when settings are read; a field of the logging section takes anything; every other record is frozen.
A name that starts with an underscore is never a field: what is assigned to it is held beside the fields and not
told, but for some names that tell what the record is. One of these names stands for all that a record holds. With
a mapping assigned to it, a record of any kind holds the entries of the mapping, and nothing else. Two others are
names of what a record keeps of how it was made, and the next field that is assigned to is checked with that.

* `Draft.set_frozen`: a frozen record refuses an assignment to any of its fields.
* `Draft.dump_ofReport`, `Draft.dump_ofSettings`: before the first assignment a record is told as it was.
-/

namespace ExtensionProbe

/-- The records that data is checked against. -/
inductive RecordKind where
  | version | gate | descriptor | exact | contains | marker | policy | check | result | report
  | logging | settings
deriving DecidableEq, Repr

/-- The name of a kind of record in messages. -/
def RecordKind.title : RecordKind → String
  | .version => "Version"
  | .gate => "VersionGate"
  | .descriptor => "ExtensionDescriptor"
  | .exact => "ExactMatch"
  | .contains => "ContainsMatch"
  | .marker => "MarkerMatch"
  | .policy => "tagged-union[ExactMatch,ContainsMatch,MarkerMatch]"
  | .check => "Check"
  | .result => "ProbeResult"
  | .report => "ProbeReport"
  | .logging => "LoggingConfig"
  | .settings => "ProbeConfig"

/-- The names of the fields of a record. -/
def RecordKind.fieldNames : RecordKind → List String
  | .version => ["major", "minor", "qualifier"]
  | .gate => ["major", "minor"]
  | .descriptor => ["simple_name", "qualified_name", "markers"]
  | .exact => ["kind", "name"]
  | .contains => ["kind", "substring"]
  | .marker => ["kind", "marker"]
  | .policy => []
  | .check => ["label", "policy", "gate", "description"]
  | .result => ["label", "outcome", "matched", "observed", "expected", "reason"]
  | .report => ["capability", "raw_host_version", "host_version", "observed", "results"]
  | .logging => ["level", "format", "structured", "filename"]
  | .settings => ["capability", "host_version", "min_extensions", "checks", "logging"]

/-- The record that a policy of a kind is. -/
def Policy.Kind.recordKind : Policy.Kind → RecordKind
  | .exact => .exact
  | .contains => .contains
  | .marker => .marker

/-- Why an assignment fails. -/
inductive AssignError where
  /-- The record refuses the assignment. -/
  | invalid (kind : RecordKind) (issues : List Issue)
  /-- The record has no such field, and does not check fields. -/
  | noField (kind : RecordKind) (name : String)
  /-- The way leads to something that does not take the name, or through something that has no part of a
  name. -/
  | noPart
  /-- The name tells what a record is, and the value is of another kind. -/
  | nature
  /-- The way leads through something that has no part at a place. -/
  | noItem (e : Data.ItemError)
deriving DecidableEq, Repr

/-- The wording for a field that a record does not have. -/
def AssignError.noFieldMessage (kind : RecordKind) (name : String) : String :=
  "\"" ++ kind.title ++ "\" object has no field \"" ++ name ++ "\""

/-- Whether a name is one that no field has. -/
def isBeside (name : String) : Bool := name.toList.head? == some '_'

/-- Names of what a kind of records has as a whole, or of what a record only tells. -/
def fixedNames : List String :=
  ["__class_vars__", "__private_attributes__", "__signature__", "__fields_set__", "__weakref__"]

/-- What a record tells of how it was made, under names that could be those of fields. -/
def toldNames : List String := ["model_extra", "model_fields_set"]

/-- The name of all that a record holds. -/
def heldName : String := "__dict__"

/-- The name of what a record was given in addition to its fields. -/
def addedName : String := "__pydantic_extra__"

/-- The name of the set of the fields that a record was given. -/
def givenName : String := "__pydantic_fields_set__"

/-- Why nothing can be kept beside a record or an outcome under a name that no field has, if it cannot. The
class of a record is no value of data, and all that it holds is a mapping. -/
def besideError? (name : String) (value : Data) : Option AssignError :=
  if name == "__class__" then some .nature
  else if name == heldName then
    match value with
    | .map _ => none
    | _ => some .nature
  else if fixedNames.contains name then some .noPart
  else none

/-- What a record keeps of how it was made: what it was given in addition to its fields, and whether it can note
the fields that it is given, as long as these are a set. -/
structure Origin where
  added : Data := .null
  notes : Bool := true
deriving Repr

/-- What is added to a record, if it is nothing or a mapping. -/
def Origin.entries? (o : Origin) : Option (List (Data × Data)) :=
  match o.added with
  | .null => some []
  | .map es => some es
  | _ => none

/-- A value under assignment, as far as a way can lead through it: a record with what it holds, or a row,
which may be of fixed length. An outcome takes any name that it does not use itself. -/
inductive Draft where
  | record (kind : RecordKind) (origin : Origin) (held : List (Data × Draft))
  | row (fixed : Bool) (items : List Draft)
  | outcome (o : Outcome)
  | plain (d : Data)

namespace Draft

/-! ## Records before the first assignment -/

/-- A record that holds parts under names of fields. -/
def named (kind : RecordKind) (fields : List (String × Draft)) : Draft :=
  .record kind {} (fields.map fun f => (.text f.1, f.2))

/-- An optional part. -/
def ofOption (o : Option Draft) : Draft := o.getD (.plain .null)

/-- A text. -/
def ofText (s : Text) : Draft := .plain (.text s)

/-- A number. -/
def ofNat (n : Nat) : Draft := .plain (.int n)

/-- A version. -/
def ofVersion (v : Version) : Draft :=
  named .version [("major", ofNat v.major), ("minor", ofNat v.minor),
    ("qualifier", .plain (.ofOption v.qualifier))]

/-- A gate. -/
def ofGate (g : Gate) : Draft :=
  named .gate [("major", ofNat g.major), ("minor", ofNat g.minor)]

/-- A descriptor. -/
def ofDescriptor (d : Descriptor) : Draft :=
  named .descriptor [("simple_name", ofText d.simpleName), ("qualified_name", ofText d.qualifiedName),
    ("markers", .row true (d.markers.map ofText))]

/-- A policy. -/
def ofPolicy (p : Policy) : Draft :=
  named p.kind.recordKind [("kind", ofText p.kind.name), (p.kind.field, ofText p.operand)]

/-- A check. -/
def ofCheck (c : Check) : Draft :=
  named .check [("label", ofText c.label), ("policy", ofPolicy c.policy),
    ("gate", ofOption (c.gate.map ofGate)), ("description", .plain (.ofOption c.description))]

/-- A result. -/
def ofResult (r : Result) : Draft :=
  named .result [("label", ofText r.label), ("outcome", .outcome r.outcome),
    ("matched", ofOption (r.matched.map ofDescriptor)),
    ("observed", .row true (r.observed.map ofDescriptor)), ("expected", ofText r.expected),
    ("reason", .plain (.ofOption r.reason))]

/-- A report. -/
def ofReport (r : Report) : Draft :=
  named .report [("capability", ofText r.capability),
    ("raw_host_version", .plain (.ofOption r.rawHostVersion)),
    ("host_version", ofOption (r.hostVersion.map ofVersion)),
    ("observed", .row true (r.observed.map ofDescriptor)), ("results", .row true (r.results.map ofResult))]

/-- A logging section. -/
def ofLogging (l : Logging) : Draft :=
  named .logging [("level", ofText l.level), ("format", ofText l.format),
    ("structured", .plain (.bool l.structured)), ("filename", .plain (.ofOption l.filename))]

/-- Settings. -/
def ofSettings (s : Settings) : Draft :=
  named .settings [("capability", ofText s.capability), ("host_version", .plain (.ofOption s.hostVersion)),
    ("min_extensions", .plain (.int s.leastExtensions)), ("checks", .row false (s.checks.map ofCheck)),
    ("logging", ofLogging s.logging)]

/-! ## What a record is told as -/

/-- The name that a key of what a record holds is. -/
def keyName : Data → Except Data.PortableError String
  | .text s =>
    match s.toString? with
    | some name => .ok name
    | none => .error .torn
  | _ => .error .noName

mutual

/-- A draft in a form that JSON has. A record is told by its fields, as far as it holds them. -/
def dump : Draft → Except Data.PortableError Data
  | record kind _ held => .map <$> dumpHeld kind.fieldNames held
  | row _ items => .list <$> dumpAll items
  | outcome o => .ok (.text o.name)
  | plain d => d.portable

/-- The members of a row. -/
def dumpAll : List Draft → Except Data.PortableError (List Data)
  | [] => .ok []
  | item :: rest => do
    let d ← dump item
    let more ← dumpAll rest
    pure (d :: more)

/-- What is held under some names. -/
def dumpHeld (names : List String) : List (Data × Draft) → Except Data.PortableError (List (Data × Data))
  | [] => .ok []
  | (key, part) :: rest => do
    let name ← keyName key
    if names.contains name then
      let d ← dump part
      let more ← dumpHeld names rest
      pure ((key, d) :: more)
    else dumpHeld names rest

end

theorem dumpHeld_named {names : List String} {fields : List (String × Draft × Data)}
    (h : ∀ f ∈ fields, f.2.1.dump = .ok f.2.2) (hnames : ∀ f ∈ fields, f.1 ∈ names) :
    dumpHeld names (fields.map fun f => (.text f.1, f.2.1)) =
      .ok (fields.map fun f => (.text f.1, f.2.2)) := by
  induction fields with
  | nil => rfl
  | cons f rest ih =>
    obtain ⟨hdump, hrest⟩ := List.forall_mem_cons.1 h
    obtain ⟨hname, hothers⟩ := List.forall_mem_cons.1 hnames
    have hkey : keyName (.text f.1) = .ok f.1 := by simp only [keyName, Text.toString?_ofString]
    have hmem : names.contains f.1 = true := List.contains_iff_mem.2 hname
    rw [List.map_cons, dumpHeld, hkey, List.map_cons]
    simp only [bind, Except.bind, hmem, if_true, hdump, ih hrest hothers]
    rfl

/-- A record with its fields is told by what they are told as. -/
theorem dump_named {kind : RecordKind} (fields : List (String × Draft × Data))
    (h : ∀ f ∈ fields, f.2.1.dump = .ok f.2.2) (hnames : fields.map Prod.fst = kind.fieldNames) :
    (named kind (fields.map fun f => (f.1, f.2.1))).dump =
      .ok (.record (fields.map fun f => (f.1, f.2.2))) := by
  have hheld := dumpHeld_named h fun f hf => hnames ▸ List.mem_map_of_mem hf
  rw [named, dump, List.map_map, Data.record, List.map_map]
  exact congrArg (Data.map <$> ·) hheld

theorem dumpAll_map {α : Type} {of : α → Draft} {told : α → Data} {xs : List α}
    (h : ∀ x ∈ xs, (of x).dump = .ok (told x)) : dumpAll (xs.map of) = .ok (xs.map told) := by
  induction xs with
  | nil => rfl
  | cons x rest ih =>
    obtain ⟨hx, hrest⟩ := List.forall_mem_cons.1 h
    rw [List.map_cons, dumpAll, hx, ih hrest]
    rfl

theorem dump_row {α : Type} {of : α → Draft} {told : α → Data} {xs : List α} (fixed : Bool)
    (h : ∀ x ∈ xs, (of x).dump = .ok (told x)) :
    (row fixed (xs.map of)).dump = .ok (.list (xs.map told)) := by
  rw [dump, dumpAll_map h]
  rfl

@[simp] theorem dump_ofText (s : Text) : (ofText s).dump = .ok (.text s) := by
  rw [ofText, dump, Data.portable_text]

@[simp] theorem dump_ofNat (n : Nat) : (ofNat n).dump = .ok (.int n) := by
  rw [ofNat, dump, Data.portable_int]

@[simp] theorem dump_int (n : Int) : (plain (.int n)).dump = .ok (.int n) := by
  rw [dump, Data.portable_int]

@[simp] theorem dump_bool (b : Bool) : (plain (.bool b)).dump = .ok (.bool b) := by
  rw [dump, Data.portable_bool]

@[simp] theorem dump_outcome (o : Outcome) : (outcome o).dump = .ok (.text o.name) := by
  rw [dump]

@[simp] theorem dump_optionalText (s : Option Text) : (plain (.ofOption s)).dump = .ok (.ofOption s) := by
  cases s <;> rw [dump] <;> rfl

theorem dump_ofOption {α : Type} {of : α → Draft} {told : α → Data} {x : Option α}
    (h : ∀ y ∈ x, (of y).dump = .ok (told y)) :
    (ofOption (x.map of)).dump = .ok ((x.map told).getD .null) := by
  cases x with
  | none => exact dump_optionalText none
  | some y => exact h y rfl

@[simp] theorem dump_ofVersion (v : Version) : (ofVersion v).dump = .ok v.dump :=
  dump_named [("major", ofNat v.major, .int v.major), ("minor", ofNat v.minor, .int v.minor),
    ("qualifier", .plain (.ofOption v.qualifier), .ofOption v.qualifier)] (by simp) rfl

@[simp] theorem dump_ofGate (g : Gate) : (ofGate g).dump = .ok g.dump :=
  dump_named [("major", ofNat g.major, .int g.major), ("minor", ofNat g.minor, .int g.minor)] (by simp) rfl

@[simp] theorem dump_ofDescriptor (d : Descriptor) : (ofDescriptor d).dump = .ok d.dump := by
  have hmarkers := dump_row true fun s (_ : s ∈ d.markers) => dump_ofText s
  exact dump_named [("simple_name", ofText d.simpleName, .text d.simpleName),
    ("qualified_name", ofText d.qualifiedName, .text d.qualifiedName),
    ("markers", .row true (d.markers.map ofText), .list (d.markers.map .text))] (by simp [hmarkers]) rfl

@[simp] theorem dump_ofPolicy (p : Policy) : (ofPolicy p).dump = .ok p.dump :=
  dump_named [("kind", ofText p.kind.name, .text p.kind.name),
    (p.kind.field, ofText p.operand, .text p.operand)] (by simp) (by cases p <;> rfl)

@[simp] theorem dump_ofCheck (c : Check) : (ofCheck c).dump = .ok c.dump := by
  have hgate := dump_ofOption fun g (_ : g ∈ c.gate) => dump_ofGate g
  exact dump_named [("label", ofText c.label, .text c.label), ("policy", ofPolicy c.policy, c.policy.dump),
    ("gate", ofOption (c.gate.map ofGate), (c.gate.map Gate.dump).getD .null),
    ("description", .plain (.ofOption c.description), .ofOption c.description)] (by simp [hgate]) rfl

@[simp] theorem dump_ofResult (r : Result) : (ofResult r).dump = .ok r.dump := by
  have hmatched := dump_ofOption fun d (_ : d ∈ r.matched) => dump_ofDescriptor d
  have hobserved := dump_row true fun d (_ : d ∈ r.observed) => dump_ofDescriptor d
  exact dump_named [("label", ofText r.label, .text r.label),
    ("outcome", .outcome r.outcome, .text r.outcome.name),
    ("matched", ofOption (r.matched.map ofDescriptor), (r.matched.map Descriptor.dump).getD .null),
    ("observed", .row true (r.observed.map ofDescriptor), .list (r.observed.map Descriptor.dump)),
    ("expected", ofText r.expected, .text r.expected),
    ("reason", .plain (.ofOption r.reason), .ofOption r.reason)] (by simp [hmatched, hobserved]) rfl

@[simp] theorem dump_ofReport (r : Report) : (ofReport r).dump = .ok r.dump := by
  have hhost := dump_ofOption fun v (_ : v ∈ r.hostVersion) => dump_ofVersion v
  have hobserved := dump_row true fun d (_ : d ∈ r.observed) => dump_ofDescriptor d
  have hresults := dump_row true fun x (_ : x ∈ r.results) => dump_ofResult x
  exact dump_named [("capability", ofText r.capability, .text r.capability),
    ("raw_host_version", .plain (.ofOption r.rawHostVersion), .ofOption r.rawHostVersion),
    ("host_version", ofOption (r.hostVersion.map ofVersion), (r.hostVersion.map Version.dump).getD .null),
    ("observed", .row true (r.observed.map ofDescriptor), .list (r.observed.map Descriptor.dump)),
    ("results", .row true (r.results.map ofResult), .list (r.results.map Result.dump))]
    (by simp [hhost, hobserved, hresults]) rfl

@[simp] theorem dump_ofLogging (l : Logging) : (ofLogging l).dump = .ok l.dump :=
  dump_named [("level", ofText l.level, .text l.level), ("format", ofText l.format, .text l.format),
    ("structured", .plain (.bool l.structured), .bool l.structured),
    ("filename", .plain (.ofOption l.filename), .ofOption l.filename)] (by simp) rfl

@[simp] theorem dump_ofSettings (s : Settings) : (ofSettings s).dump = .ok s.dump := by
  have hchecks := dump_row false fun c (_ : c ∈ s.checks) => dump_ofCheck c
  exact dump_named [("capability", ofText s.capability, .text s.capability),
    ("host_version", .plain (.ofOption s.hostVersion), .ofOption s.hostVersion),
    ("min_extensions", .plain (.int s.leastExtensions), .int s.leastExtensions),
    ("checks", .row false (s.checks.map ofCheck), .list (s.checks.map Check.dump)),
    ("logging", ofLogging s.logging, s.logging.dump)] (by simp [hchecks]) rfl

/-! ## Ways -/

/-- The number that decimal digits write. -/
def digits? : List Char → Option (List Nat)
  | [] => some []
  | c :: rest => do pure ((← Text.digitValue? c) :: (← digits? rest))

/-- The place that a step names. -/
def index? (step : String) : Option Nat :=
  if step.isEmpty then none
  else (digits? step.toList).map fun ds => ds.foldl (fun n d => 10 * n + d) 0

/-- What is held under a name. -/
def find? (held : List (Data × Draft)) (name : String) : Option Draft :=
  (held.find? fun e => e.1.sameKey (.text name)).map (·.2)

/-- What is held, with a part put under a key. -/
def put (held : List (Data × Draft)) (key : Data) (part : Draft) : List (Data × Draft) :=
  match held with
  | [] => [(key, part)]
  | (k, d) :: rest => if k.sameKey key then (k, part) :: rest else (k, d) :: put rest key part

/-- What is held, with entries put over it. -/
def putAll (held : List (Data × Draft)) (es : List (Data × Data)) : List (Data × Draft) :=
  es.foldl (fun held e => put held e.1 (.plain e.2)) held

/-- The part of a value at a place. A record has none. -/
def item (d : Draft) (index : Nat) : Except AssignError Draft :=
  match d with
  | .record _ _ _ => .error (.noItem .noParts)
  | .row fixed items =>
    match items[index]? with
    | some part => .ok part
    | none => .error (.noItem (.beyond (if fixed then "tuple" else "list")))
  | .outcome o => plain <$> ((Data.text o.name).item index).mapError .noItem
  | .plain d => plain <$> (d.item index).mapError .noItem

/-- The part of a value under a name. -/
def part (d : Draft) (name : String) : Except AssignError Draft :=
  match d with
  | .record _ _ held =>
    match find? held name with
    | some part => .ok part
    | none => .error .noPart
  | _ => .error .noPart

/-- The part of a value that a step leads to. -/
def follow (d : Draft) (step : String) : Except AssignError Draft :=
  match index? step with
  | some index => d.item index
  | none => d.part step

/-- A value with another part where a step leads to. The parts of plain values are as they are. -/
def replace (d : Draft) (step : String) (part : Draft) : Draft :=
  match d, index? step with
  | .row fixed items, some index => .row fixed (items.set index part)
  | .record kind origin held, none => .record kind origin (put held (.text step) part)
  | d, _ => d

/-! ## Assignments -/

open Checked Decode

/-- What a field of settings holds when a value is assigned to it; the value is checked as when settings are
read. -/
def settingsField (name : String) (value : Data) : Checked Draft :=
  under (.field name) <|
    match name with
    | "capability" => (fun x => ofText (Text.ofString x)) <$> nonEmptyText value
    | "host_version" => (fun x => .plain (.ofOption x)) <$> Settings.decodeHostVersion value
    | "min_extensions" => (fun x => .plain (.int x)) <$> Settings.decodeLeast value
    | "checks" => (fun x => .row false (x.map ofCheck)) <$> Check.decodeAll value
    | "logging" => ofLogging <$> Logging.decode value
    | _ => issue .noSuchField

/-- An assignment to a field of settings: the record then, and why it is refused, if it is. What the record was
given in addition is held from then on. -/
def setSettings (origin : Origin) (held : List (Data × Draft)) (name : String) (value : Data) :
    Draft × Option AssignError :=
  let same := record .settings origin held
  if toldNames.contains name then (same, some .noPart)
  else
    match origin.entries? with
    | none => (same, some .nature)
    | some es =>
      match settingsField name value with
      | .error issues => (same, some (.invalid .settings issues))
      | .ok part =>
        if origin.notes then
          (record .settings { origin with added := .null } (put (putAll held es) (.text name) part), none)
        else (same, some .nature)

/-- An assignment to a field of a logging section. The value is held before the field is noted. -/
def setLogging (origin : Origin) (held : List (Data × Draft)) (name : String) (value : Data) :
    Draft × Option AssignError :=
  if RecordKind.logging.fieldNames.contains name then
    (record .logging origin (put held (.text name) (.plain value)), if origin.notes then none else some .noPart)
  else
    (record .logging origin held,
      some (if toldNames.contains name then .noPart else .noField .logging name))

/-- All that a mapping gives a record to hold. -/
def heldOf : Data → List (Data × Draft)
  | .map es => es.map fun e => (e.1, .plain e.2)
  | _ => []

/-- A record with a value under a name that no field has. -/
def putBeside (kind : RecordKind) (origin : Origin) (held : List (Data × Draft)) (name : String)
    (value : Data) : Draft :=
  if name == heldName then record kind origin (heldOf value)
  else if name == addedName then record kind { origin with added := value } held
  else if name == givenName then record kind { origin with notes := value.isSet } held
  else record kind origin (put held (.text name) (.plain value))

/-- An assignment to a name: the value then, and why it is refused, if it is. -/
def set (d : Draft) (name : String) (value : Data) : Draft × Option AssignError :=
  match d with
  | .record kind origin held =>
    if isBeside name then
      match besideError? name value with
      | some e => (d, some e)
      | none => (putBeside kind origin held name value, none)
    else
      match kind with
      | .settings => setSettings origin held name value
      | .logging => setLogging origin held name value
      | kind => (d, some (.invalid kind [⟨[.field name], .frozen⟩]))
  | .outcome _ => (d, if name == "name" || name == "value" then some .noPart else besideError? name value)
  | _ => (d, some (if name == "__class__" then .nature else .noPart))

/-- An assignment along a way: the value then, and why it is refused, if it is. -/
def assign (d : Draft) (value : Data) : List String → Draft × Option AssignError
  | [] => (d, some .noPart)
  | [name] => d.set name value
  | step :: rest =>
    match d.follow step with
    | .error e => (d, some e)
    | .ok part =>
      let (next, e) := part.assign value rest
      (d.replace step next, e)

theorem set_settings {origin : Origin} {held : List (Data × Draft)} {name : String} (h : isBeside name = false)
    (value : Data) : (record .settings origin held).set name value = setSettings origin held name value := by
  simp [set, h]

theorem set_logging {origin : Origin} {held : List (Data × Draft)} {name : String} (h : isBeside name = false)
    (value : Data) : (record .logging origin held).set name value = setLogging origin held name value := by
  simp [set, h]

/-- A frozen record refuses an assignment to any of its fields, and is the same then. -/
theorem set_frozen {kind : RecordKind} {origin : Origin} {held : List (Data × Draft)} {name : String}
    (hkind : kind ≠ .settings ∧ kind ≠ .logging) (h : isBeside name = false) (value : Data) :
    (record kind origin held).set name value =
      (record kind origin held, some (.invalid kind [⟨[.field name], .frozen⟩])) := by
  simp only [set, h, Bool.false_eq_true, if_false]
  split
  · exact absurd rfl hkind.1
  · exact absurd rfl hkind.2
  · rfl

theorem assign_of_follow {d part : Draft} {step name : String} {rest : List String} (value : Data)
    (h : d.follow step = .ok part) :
    d.assign value (step :: name :: rest) =
      (d.replace step (part.assign value (name :: rest)).1, (part.assign value (name :: rest)).2) := by
  rw [assign, h]
  simp

theorem assign_of_not_follow {d : Draft} {step name : String} {rest : List String} {e : AssignError}
    (value : Data) (h : d.follow step = .error e) : d.assign value (step :: name :: rest) = (d, some e) := by
  rw [assign, h]
  simp

end Draft

end ExtensionProbe
