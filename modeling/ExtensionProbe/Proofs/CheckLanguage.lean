import ExtensionProbe.Proofs.Coercion
import ExtensionProbe.Proofs.Verdict

/-!
# The language of checks

Which data is a check, and which check it is, told by the parts of the data: a record with the fields of a
check and no others, whose policy is a record that tells its kind, and whose gate is left out, a version in
writing or a record of two numbers.

* `Policy.decode_eq_ok_iff`, `Gate.decode_eq_ok_iff`, `Check.decode_eq_ok_iff`: what is taken for a policy, a
  gate and a check.
* `Check.language`: **data is accepted as a check exactly if it is taken for it; then its policy matches by a
  text that is not empty, and its gate was no float.**
-/

namespace ExtensionProbe

open Checked Decode

/-! ## Fields -/

namespace Decode

variable {α : Type} {es : List (Data × Data)} {name : String} {decode : Data → Checked α}
  {Takes : Data → α → Prop} {x : α} {o : Option α}

/-- A record has a field that is taken for a value. -/
def Given (es : List (Data × Data)) (name : String) (Takes : Data → α → Prop) (x : α) : Prop :=
  ∃ d, Data.lookup es name = some d ∧ Takes d x

/-- A record leaves a field out, has nothing in it, or has it and it is taken for a value. -/
inductive MaybeGiven (es : List (Data × Data)) (name : String) (Takes : Data → α → Prop) :
    Option α → Prop
  | absent (h : Data.lookup es name = none) : MaybeGiven es name Takes none
  | null (h : Data.lookup es name = some .null) : MaybeGiven es name Takes none
  | given {x : α} (h : Given es name Takes x) : MaybeGiven es name Takes (some x)

theorem required_eq_ok_iff_given (hdecode : ∀ d x, decode d = .ok x ↔ Takes d x) :
    required es name decode = .ok x ↔ Given es name Takes x := by
  simp only [required_eq_ok_iff, hdecode, Given]

theorem orNull_of_ne_null {d : Data} (hnull : d ≠ .null) : orNull decode d = some <$> decode d := by
  cases d with
  | null => exact absurd rfl hnull
  | _ => rfl

theorem orNull_of_decode {d : Data} (hnull : d ≠ .null) (h : decode d = .ok x) :
    orNull decode d = .ok (some x) := by
  rw [orNull_of_ne_null hnull, h]
  rfl

/-- A field that may be left out, where nothing is taken for no value. -/
theorem optional_eq_ok_iff (hdecode : ∀ d x, decode d = .ok x ↔ Takes d x) (hnull : ∀ x, ¬ Takes .null x) :
    withDefault es name none (orNull decode) = .ok o ↔ MaybeGiven es name Takes o := by
  rw [withDefault_eq_ok_iff]
  constructor
  · rintro (⟨habsent, rfl⟩ | ⟨d, hd, ho⟩)
    · exact .absent habsent
    · by_cases h : d = .null
      · subst h
        cases ho
        exact .null hd
      · rw [orNull_of_ne_null h] at ho
        obtain ⟨x, hx, rfl⟩ := map_eq_ok_iff.1 ho
        exact .given ⟨d, hd, (hdecode d x).1 hx⟩
  · rintro (habsent | hnothing | ⟨d, hd, hx⟩)
    · exact .inl ⟨habsent, rfl⟩
    · exact .inr ⟨.null, hnothing, rfl⟩
    · have h : d ≠ .null := by
        rintro rfl
        exact hnull _ hx
      exact .inr ⟨d, hd, orNull_of_decode h ((hdecode d _).2 hx)⟩

/-- A value is taken for a text that is not empty. -/
def TakenForFullText (d : Data) (s : String) : Prop :=
  TakenForText d s ∧ s ≠ ""

theorem nonEmptyText_eq_ok_iff_taken {d : Data} {s : String} :
    nonEmptyText d = .ok s ↔ TakenForFullText d s := by
  rw [nonEmptyText_eq_ok_iff, string_eq_ok_iff, TakenForFullText]

end Decode

/-! ## Policies -/

namespace Policy

variable {k : Kind} {d : Data} {es : List (Data × Data)} {p : Policy} {s : String}

/-- A value is taken for a policy: a record of a kind, told by name, and of a text that is not empty in the
field of this kind. -/
inductive TakenForPolicy : Data → Policy → Prop
  | record {es : List (Data × Data)} {k : Kind} {s : String} (hkeys : KeysAmong ["kind", k.field] es)
      (hkind : Data.lookup es "kind" = some (.text k.name)) (htext : Given es k.field TakenForFullText s) :
      TakenForPolicy (.map es) (k.policy s)

theorem ofName?_eq_some_iff : Kind.ofName? s = some k ↔ s = k.name := by
  constructor
  · intro h
    unfold Kind.ofName? at h
    split at h <;> cases h <;> rfl
  · rintro rfl
    cases k <;> rfl

/-- A record whose kind is known already is a policy of this kind exactly if its other field is a text. -/
theorem decodeAs_eq_ok_iff (hkind : Data.lookup es "kind" = some (.text k.name)) :
    decodeAs k (.map es) = .ok p ↔
      ∃ s, (KeysAmong ["kind", k.field] es ∧ Given es k.field TakenForFullText s) ∧ k.policy s = p := by
  have hname : withDefault es "kind" () (kindName k) = .ok () := by
    refine withDefault_eq_ok_iff.2 (.inr ⟨_, hkind, ?_⟩)
    simp only [kindName, beq_self_eq_true, if_true]
  have hfield : ∀ s, required es k.field nonEmptyText = .ok s ↔ Given es k.field TakenForFullText s :=
    fun s => required_eq_ok_iff_given fun _ _ => nonEmptyText_eq_ok_iff_taken
  simp only [decodeAs, entries, map_eq_ok_iff, closed_eq_ok_iff_keys, whileKeeping_eq_ok_iff, hname,
    hfield, and_true]

/-- What tells its kind is a record with the name of a kind. -/
theorem exists_kind_of_decode (h : decode d = .ok p) :
    ∃ es k, d = .map es ∧ Data.lookup es "kind" = some (.text (Kind.name k)) := by
  unfold decode at h
  split at h
  · next es =>
    split at h
    · cases h
    · next t ht =>
      split at h
      · cases h
      · next k hk =>
        obtain ⟨s, hs, hname⟩ := Option.bind_eq_some_iff.1 hk
        rw [Text.toString?_eq_some_iff.1 hs, ofName?_eq_some_iff.1 hname] at ht
        exact ⟨es, k, rfl, ht⟩
    · cases h
  · cases h

theorem decode_eq_ok_iff : decode d = .ok p ↔ TakenForPolicy d p := by
  constructor
  · intro h
    obtain ⟨es, k, rfl, hkind⟩ := exists_kind_of_decode h
    rw [decode_of_kind hkind, under_eq_ok_iff, decodeAs_eq_ok_iff hkind] at h
    obtain ⟨s, ⟨hkeys, htext⟩, rfl⟩ := h
    exact .record hkeys hkind htext
  · rintro ⟨hkeys, hkind, htext⟩
    rw [decode_of_kind hkind, under_eq_ok_iff, decodeAs_eq_ok_iff hkind]
    exact ⟨_, ⟨hkeys, htext⟩, rfl⟩

end Policy

/-! ## Gates -/

namespace Gate

variable {d : Data} {g : Gate}

/-- A value is taken for a gate: a text that is a version, or a record of two numbers and no more. -/
inductive TakenForGate : Data → Gate → Prop
  | text {s : Text} {v : Version} (h : Version.parse (some s) = .ok v) :
      TakenForGate (.text s) ⟨v.major, v.minor⟩
  | record {es : List (Data × Data)} {major minor : Nat} (hkeys : KeysAmong ["major", "minor"] es)
      (hmajor : Given es "major" TakenForInteger major) (hminor : Given es "minor" TakenForInteger minor) :
      TakenForGate (.map es) ⟨major, minor⟩

theorem required_natural_eq_ok_iff {es : List (Data × Data)} {name : String} {k : Nat} :
    required es name natural = .ok k ↔ Given es name TakenForInteger (k : Int) := by
  simp only [required_eq_ok_iff, natural_eq_ok_iff, Given]

theorem ofRecord_map_eq_ok_iff {es : List (Data × Data)} :
    ofRecord (.map es) = .ok g ↔ KeysAmong ["major", "minor"] es ∧
      Given es "major" TakenForInteger (g.major : Int) ∧ Given es "minor" TakenForInteger (g.minor : Int) := by
  simp only [ofRecord, entries, map_eq_ok_iff, closed_eq_ok_iff_keys, both_eq_ok_iff,
    required_natural_eq_ok_iff]
  constructor
  · rintro ⟨parts, h, rfl⟩
    exact h
  · intro h
    exact ⟨(g.major, g.minor), h, rfl⟩

/-- A text is a gate exactly if it is a version, and then the gate has its numbers. -/
theorem decode_text_eq_ok_iff {s : Text} :
    decode (.text s) = .ok g ↔ ∃ v, Version.parse (some s) = .ok v ∧ ofVersion v = g := by
  rw [decode]
  cases Version.parse (some s) with
  | ok v => simp only [Except.ok.injEq, exists_eq_left']
  | error e =>
    constructor
    · intro h
      cases h
    · rintro ⟨v, h, -⟩
      cases h

theorem decode_eq_ok_iff : decode d = .ok g ↔ TakenForGate d g := by
  constructor
  · intro h
    cases d with
    | text s =>
      obtain ⟨v, hv, rfl⟩ := decode_text_eq_ok_iff.1 h
      exact .text hv
    | map es =>
      obtain ⟨hkeys, hmajor, hminor⟩ := ofRecord_map_eq_ok_iff.1 h
      exact .record hkeys hmajor hminor
    | _ => cases h
  · rintro (hv | ⟨hkeys, hmajor, hminor⟩)
    · exact decode_text_eq_ok_iff.2 ⟨_, hv, rfl⟩
    · exact ofRecord_map_eq_ok_iff.2 ⟨hkeys, hmajor, hminor⟩

end Gate

/-! ## Checks -/

namespace Check

variable {d : Data} {c : Check}

/-- A value is taken for a check: a record of a label, a policy, perhaps a gate and perhaps a description. -/
inductive TakenForCheck : Data → Check → Prop
  | record {es : List (Data × Data)} {c : Check}
      (hkeys : KeysAmong ["label", "policy", "gate", "description"] es)
      (hlabel : Given es "label" TakenForFullText c.label)
      (hpolicy : Given es "policy" Policy.TakenForPolicy c.policy)
      (hgate : MaybeGiven es "gate" Gate.TakenForGate c.gate)
      (hdescription : MaybeGiven es "description" TakenForText c.description) : TakenForCheck (.map es) c

/-- A check is made of the checked parts of a record whose keys are names of its fields. -/
theorem ofParts_eq_ok_iff {es : List (Data × Data)}
    {parts : Checked (String × Policy × Option Gate × Option Text)} :
    (fun p => (⟨p.1, p.2.1, p.2.2.1, p.2.2.2⟩ : Check)) <$>
        closed ["label", "policy", "gate", "description"] es parts = .ok c ↔
      KeysAmong ["label", "policy", "gate", "description"] es ∧
        parts = .ok (c.label, c.policy, c.gate, c.description) := by
  rw [map_eq_ok_iff]
  simp only [closed_eq_ok_iff_keys]
  constructor
  · rintro ⟨p, hp, rfl⟩
    exact hp
  · intro h
    exact ⟨_, h, rfl⟩

/-- A record is accepted as a check exactly if its keys are and each field is. -/
theorem decode_map_eq_ok_iff {es : List (Data × Data)} :
    decode (.map es) = .ok c ↔ KeysAmong ["label", "policy", "gate", "description"] es ∧
      required es "label" nonEmptyText = .ok c.label ∧ required es "policy" Policy.decode = .ok c.policy ∧
      withDefault es "gate" none (orNull Gate.decode) = .ok c.gate ∧
      withDefault es "description" none (orNull Decode.text) = .ok c.description := by
  simp only [decode, entries, ofParts_eq_ok_iff, both_eq_ok_iff]

theorem decode_eq_ok_iff : decode d = .ok c ↔ TakenForCheck d c := by
  have hlabels : ∀ d s, nonEmptyText d = .ok s ↔ TakenForFullText d s :=
    fun _ _ => nonEmptyText_eq_ok_iff_taken
  have hpolicies : ∀ d p, Policy.decode d = .ok p ↔ Policy.TakenForPolicy d p :=
    fun _ _ => Policy.decode_eq_ok_iff
  have hgates : ∀ d g, Gate.decode d = .ok g ↔ Gate.TakenForGate d g := fun _ _ => Gate.decode_eq_ok_iff
  have htexts : ∀ d t, Decode.text d = .ok t ↔ TakenForText d t := fun _ _ => text_eq_ok_iff
  constructor
  · intro h
    cases d with
    | map es =>
      obtain ⟨hkeys, hlabel, hpolicy, hgate, hdescription⟩ := decode_map_eq_ok_iff.1 h
      exact .record hkeys ((required_eq_ok_iff_given hlabels).1 hlabel)
        ((required_eq_ok_iff_given hpolicies).1 hpolicy) ((optional_eq_ok_iff hgates nofun).1 hgate)
        ((optional_eq_ok_iff htexts nofun).1 hdescription)
    | _ => cases h
  · rintro ⟨hkeys, hlabel, hpolicy, hgate, hdescription⟩
    exact decode_map_eq_ok_iff.2 ⟨hkeys, (required_eq_ok_iff_given hlabels).2 hlabel,
      (required_eq_ok_iff_given hpolicies).2 hpolicy, (optional_eq_ok_iff hgates nofun).2 hgate,
      (optional_eq_ok_iff htexts nofun).2 hdescription⟩

/-- **The language of checks.** Data is accepted as a check exactly if it is taken for it, and is else
refused. The policy of a check that was accepted matches by its kind and by a text that is not empty. A double
is never a gate, be it a number or not, and a record with a double for a gate is no check. -/
theorem language :
    (∀ d c, decode d = .ok c ↔ TakenForCheck d c) ∧
    (∀ d, (∃ issues, decode d = .error issues) ↔ ∀ c, ¬ TakenForCheck d c) ∧
    (∀ d c, decode d = .ok c →
      c.policy.operand ≠ "" ∧ ∀ x, c.policy.admits x = true ↔ c.policy.Satisfied x) ∧
    (∀ x g, ¬ Gate.TakenForGate (.float x) g) ∧
    ∀ es x, Data.lookup es "gate" = some (.float x) → ∀ c, decode (.map es) ≠ .ok c := by
  refine ⟨fun _ _ => decode_eq_ok_iff, ?refused, ?matched, fun _ _ => nofun, ?float⟩
  case refused =>
    intro d
    simp only [← decode_eq_ok_iff]
    cases decode d with
    | ok c => exact iff_of_false nofun fun h => h c rfl
    | error issues => exact iff_of_true ⟨issues, rfl⟩ nofun
  case matched =>
    intro d c h
    exact ⟨(valid_of_decode h).policy, fun x => Policy.admits_eq_true_iff⟩
  case float =>
    intro es x hx c h
    have htaken := decode_eq_ok_iff.1 h
    generalize hd : Data.map es = d at htaken
    obtain ⟨-, -, -, hgate, -⟩ := htaken
    cases hd
    -- the gate is there, it is not nothing, and it is none of the two forms of a gate
    generalize c.gate = gate at hgate
    rcases hgate with habsent | hnull | ⟨g, hg, hfloat⟩
    · cases hx.symm.trans habsent
    · cases hx.symm.trans hnull
    · cases hx.symm.trans hg
      cases hfloat

/-- A label in bytes, a part that is a text, and a gate of a truth value and a double: all are taken for what
they stand for. A double in the place of the gate is refused, and so is none at all. -/
theorem language_of_coerced :
    decode (.map [(.text "label", .bytes [97]),
        (.text "policy", .record [("kind", .text "contains"), ("substring", .text "Std")]),
        (.text "gate", .record [("minor", .float (.finite false 265 1)), ("major", .bool true)])])
      = .ok ⟨"a", .contains "Std", some ⟨1, 530⟩, none⟩ ∧
    ∀ c, decode (.map [(.text "label", .text "a"),
        (.text "policy", .record [("kind", .text "exact"), ("name", .text "Std")]),
        (.text "gate", .float .nan)]) ≠ .ok c := by
  constructor
  · refine (language.1 _ _).2 (.record (onlyFields_eq_ok_iff.1 rfl) ⟨_, rfl, ?_⟩ ⟨_, rfl, ?_⟩
      (.given ⟨_, rfl, ?_⟩) (.absent rfl))
    · exact ⟨.bytes "a", by decide⟩
    · have hkeys : KeysAmong ["kind", Policy.Kind.contains.field]
          [(.text "kind", .text "contains"), (.text "substring", .text "Std")] := onlyFields_eq_ok_iff.1 rfl
      exact .record hkeys rfl ⟨_, rfl, .text _, by decide⟩
    · exact .record (onlyFields_eq_ok_iff.1 rfl) ⟨_, rfl, .bool true⟩ ⟨_, rfl, .float rfl (by decide)⟩
  · exact language.2.2.2.2 _ .nan rfl

end Check

end ExtensionProbe
