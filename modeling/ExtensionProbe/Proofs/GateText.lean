import ExtensionProbe.Proofs.CheckLanguage
import ExtensionProbe.Proofs.Probing
import ExtensionProbe.Proofs.VersionOrder

/-!
# Gates in writing

A gate may be given as the text of a version. Then the same texts go two ways: a gate is read strictly and
what is wrong with it is an issue, a host version is read leniently and what is no version is unknown. The two
ways meet in one order, that of the numbers.

* `Check.decode_gatedBy_eq_ok_iff`: the gate of a check is checked apart from the rest of it.
* `Gate.WrittenGate`: what a text that is a version is as a gate, alone and in a check.
* `Gate.RefusedGate`: what is told of any other text, again alone and in a check.
* `Gate.written_gates_cohere`: **every text is one or the other, by whether it is a version; its spelling does
  not matter, and gates are ordered as the versions that they are written as.**
-/

namespace ExtensionProbe

open Checked Decode

/-! ## Issues that are told -/

namespace Checked

variable {α β : Type} {a c : Checked α} {b : Checked β} {i : Issue} {names : List String}
  {es : List (Data × Data)}

/-- A value is refused, and an issue is told of it, perhaps among others. -/
def Tells (c : Checked α) (i : Issue) : Prop :=
  ∃ issues, c = .error issues ∧ i ∈ issues

theorem Tells.left (h : Tells a i) : Tells (both a b) i := by
  obtain ⟨issues, rfl, hi⟩ := h
  cases b with
  | ok y => exact ⟨issues, rfl, hi⟩
  | error more => exact ⟨issues ++ more, rfl, List.mem_append_left more hi⟩

theorem Tells.right (h : Tells b i) : Tells (both a b) i := by
  obtain ⟨issues, rfl, hi⟩ := h
  cases a with
  | ok x => exact ⟨issues, rfl, hi⟩
  | error before => exact ⟨before ++ issues, rfl, List.mem_append_right before hi⟩

theorem Tells.map (f : α → β) (h : Tells c i) : Tells (f <$> c) i := by
  obtain ⟨issues, rfl, hi⟩ := h
  exact ⟨issues, rfl, hi⟩

/-- An issue with a part is told of the whole, with the step to the part before its way. -/
theorem Tells.under (step : Step) (h : Tells c i) : Tells (under step c) ⟨step :: i.path, i.kind⟩ := by
  obtain ⟨issues, rfl, hi⟩ := h
  exact ⟨_, rfl, List.mem_map_of_mem hi⟩

theorem Tells.closed (h : Tells c i) (hwhole : ∀ e ∈ es, isTorn e.1 = false) :
    Tells (closed names es c) i := by
  have hnone : ¬ es.any (isTorn ·.1) = true := by
    rw [List.any_eq_true]
    rintro ⟨e, he, htorn⟩
    rw [hwhole e he] at htorn
    cases htorn
  rw [Decode.closed, if_neg hnone]
  exact h.left.map _

end Checked

/-! ## The gate of a check -/

namespace Check

variable {es : List (Data × Data)} {d d' : Data} {c : Check} {i : Issue}

/-- The data of a check with a value put in the place of its gate. -/
def gatedBy (es : List (Data × Data)) (d : Data) : Data :=
  .map (Data.put es (.text "gate") d)

theorem gatedBy_of_lookup (h : Data.lookup es "gate" = some d) : gatedBy es d = .map es :=
  congrArg Data.map (Data.put_of_lookup h)

/-- The checked fields of a check whose gate was checked apart. -/
def partsWith (es : List (Data × Data)) (gate : Checked (Option Gate)) :
    Checked (String × Policy × Option Gate × Option Text) :=
  both (required es "label" nonEmptyText)
    (both (required es "policy" Policy.decode)
      (both (under (.field "gate") gate) (withDefault es "description" none (orNull Decode.text))))

theorem partsWith_eq_ok_iff {gate : Checked (Option Gate)} :
    partsWith es gate = .ok (c.label, c.policy, c.gate, c.description) ↔
      gate = .ok c.gate ∧ partsWith es (.ok none) = .ok (c.label, c.policy, none, c.description) := by
  simp only [partsWith, both_eq_ok_iff, under_eq_ok_iff, true_and]
  constructor
  · rintro ⟨hlabel, hpolicy, hgate, hdescription⟩
    exact ⟨hgate, hlabel, hpolicy, hdescription⟩
  · rintro ⟨hgate, hlabel, hpolicy, hdescription⟩
    exact ⟨hlabel, hpolicy, hgate, hdescription⟩

/-- A check with a value in the place of its gate, in closed form: the other fields are read from the record as
it was, and its keys are those that any other value in this place leaves. -/
theorem decode_gatedBy (es : List (Data × Data)) (d : Data) :
    decode (gatedBy es d) = (fun p => ⟨p.1, p.2.1, p.2.2.1, p.2.2.2⟩) <$>
      closed ["label", "policy", "gate", "description"] (Data.put es (.text "gate") .null)
        (partsWith es (orNull Gate.decode d)) := by
  have hgate : Data.lookup (Data.put es (.text "gate") d) "gate" = some d := Data.lookup_put es "gate" d
  have hother : ∀ name : String, "gate" ≠ name →
      Data.lookup (Data.put es (.text "gate") d) name = Data.lookup es name := by
    intro name hname
    exact Data.lookup_put_of_ne fun h => hname (Text.ofString_inj.1 h)
  rw [closed_congr (Data.map_fst_put es (.text "gate") .null d)]
  simp only [decode, gatedBy, entries, partsWith, required, withDefault, hgate,
    hother "label" (by decide), hother "policy" (by decide), hother "description" (by decide)]

theorem decode_gatedBy_congr (h : orNull Gate.decode d = orNull Gate.decode d') :
    decode (gatedBy es d) = decode (gatedBy es d') := by
  rw [decode_gatedBy, decode_gatedBy, h]

/-- The gate of a check is accepted by itself, and the rest of it as if there were none. -/
theorem decode_gatedBy_eq_ok_iff : decode (gatedBy es d) = .ok c ↔
    orNull Gate.decode d = .ok c.gate ∧ decode (gatedBy es .null) = .ok { c with gate := none } := by
  rw [decode_gatedBy, decode_gatedBy, ofParts_eq_ok_iff, ofParts_eq_ok_iff, partsWith_eq_ok_iff]
  constructor
  · rintro ⟨hkeys, hgate, hrest⟩
    exact ⟨hgate, hkeys, hrest⟩
  · rintro ⟨hgate, hkeys, hrest⟩
    exact ⟨hkeys, hgate, hrest⟩

/-- What is wrong with the gate of a check keeps the check from being accepted, and is told of it unless one of
its keys is torn. -/
theorem tells_gate (h : Tells (orNull Gate.decode d) i) :
    (∃ issues, decode (gatedBy es d) = .error issues) ∧
      ((∀ e ∈ Data.put es (.text "gate") d, isTorn e.1 = false) →
        Tells (decode (gatedBy es d)) ⟨.field "gate" :: i.path, i.kind⟩) := by
  constructor
  · cases hd : decode (gatedBy es d) with
    | error issues => exact ⟨issues, rfl⟩
    | ok c =>
      obtain ⟨issues, hissues, -⟩ := h
      cases hissues.symm.trans (decode_gatedBy_eq_ok_iff.1 hd).1
  · intro hwhole
    rw [decode_gatedBy, closed_congr (Data.map_fst_put es (.text "gate") .null d)]
    have htold : Tells (partsWith es (orNull Gate.decode d)) ⟨.field "gate" :: i.path, i.kind⟩ :=
      (h.under (.field "gate")).left.right.right
    exact (htold.closed hwhole).map _

end Check

/-! ## Gates as versions -/

namespace Gate

variable {s t : Text} {v w : Version} {host : Option Version}

theorem admits_ofVersion_iff : (ofVersion v).admits host = true ↔ ∃ w, host = some w ∧ v.key ≤ w.key := by
  simp only [admits_iff, Version.key_le_key_iff, ofVersion]

/-- A gate admits a host version in writing exactly if this is a version that is not below the gate's. -/
theorem admits_parseLenient_iff {raw : Option Text} (h : (Version.parseLenient raw).outcome = .ok host) :
    (ofVersion v).admits host = true ↔ ∃ w, Version.parse raw = .ok w ∧ v.key ≤ w.key := by
  rw [admits_ofVersion_iff]
  cases hp : Version.parse raw with
  | ok w =>
    cases h.symm.trans (Version.parseLenient_of_ok hp)
    simp only [Option.some.injEq, Except.ok.injEq]
  | error e =>
    cases e with
    | tooLong e => cases h.symm.trans (Version.parseLenient_of_tooLong hp)
    | rejected r =>
      cases h.symm.trans (Version.parseLenient_of_rejected hp)
      constructor
      · rintro ⟨w, h, -⟩
        cases h
      · rintro ⟨w, h, -⟩
        cases h

/-- The numbers of a version as the record of a gate. -/
def record (v : Version) : Data :=
  .record [("major", .int v.major), ("minor", .int v.minor)]

theorem decode_record (v : Version) : decode (record v) = .ok (ofVersion v) :=
  decode_dump (ofVersion v)

/-- What a text that is a version is as a gate: the gate of its numbers, as if it were a record of them. It
admits the hosts that are known to be at least this version, among them the version itself. -/
structure WrittenGate (s : Text) (v : Version) : Prop where
  alone : decode (.text s) = .ok (ofVersion v)
  as_record : decode (.text s) = decode (record v)
  in_check : ∀ es, Data.lookup es "gate" = some (.text s) →
    Check.decode (.map es) = Check.decode (Check.gatedBy es (record v))
  beside : ∀ es c, Data.lookup es "gate" = some (.text s) → (Check.decode (.map es) = .ok c ↔
    c.gate = some (ofVersion v) ∧ Check.decode (Check.gatedBy es .null) = .ok { c with gate := none })
  admits : ∀ raw host, (Version.parseLenient raw).outcome = .ok host →
    ((ofVersion v).admits host = true ↔ ∃ w, Version.parse raw = .ok w ∧ v.key ≤ w.key)
  itself : ∃ host, (Version.parseLenient (some s)).outcome = .ok host ∧ (ofVersion v).admits host = true

/-- What is told of a text that is no version, however reading it failed: one issue with the gate. -/
structure RefusedGate (s : Text) (e : Version.Failure) : Prop where
  alone : decode (.text s) = .error [⟨[], .refused (.gateText e)⟩]
  in_check : ∀ es, Data.lookup es "gate" = some (.text s) → ∃ issues, Check.decode (.map es) = .error issues
  told_in_check : ∀ es, Data.lookup es "gate" = some (.text s) → (∀ entry ∈ es, isTorn entry.1 = false) →
    Tells (Check.decode (.map es)) ⟨[.field "gate"], .refused (.gateText e)⟩

theorem writtenGate_of_parse (h : Version.parse (some s) = .ok v) : WrittenGate s v := by
  have halone : decode (.text s) = .ok (ofVersion v) := decode_text_eq_ok_iff.2 ⟨v, h, rfl⟩
  have hrecord : orNull decode (record v) = .ok (some (ofVersion v)) :=
    orNull_of_decode (fun h => Data.noConfusion h) (decode_record v)
  have htext : orNull decode (.text s) = .ok (some (ofVersion v)) :=
    orNull_of_decode (fun h => Data.noConfusion h) halone
  refine ⟨halone, halone.trans (decode_record v).symm, ?inCheck, ?beside, ?admits, ?itself⟩
  case inCheck =>
    intro es hes
    rw [← Check.gatedBy_of_lookup hes]
    exact Check.decode_gatedBy_congr (htext.trans hrecord.symm)
  case beside =>
    intro es c hes
    rw [← Check.gatedBy_of_lookup hes, Check.decode_gatedBy_eq_ok_iff, htext, Except.ok.injEq, eq_comm]
  case admits =>
    intro raw host hhost
    exact admits_parseLenient_iff hhost
  case itself =>
    have hhost := Version.parseLenient_of_ok h
    exact ⟨some v, hhost, (admits_parseLenient_iff hhost).2 ⟨v, h, le_refl v.key⟩⟩

theorem refusedGate_of_parse {e : Version.Failure} (h : Version.parse (some s) = .error e) :
    RefusedGate s e := by
  have halone : decode (.text s) = .error [⟨[], .refused (.gateText e)⟩] := by
    simp only [decode, h, issue]
  have htold : Tells (orNull decode (.text s)) ⟨[], .refused (.gateText e)⟩ := by
    have hnull : Data.text s ≠ .null := fun h => Data.noConfusion h
    refine ⟨_, ?_, List.mem_singleton_self _⟩
    rw [orNull_of_ne_null hnull, halone]
    rfl
  refine ⟨halone, fun es hes => ?refused, fun es hes hwhole => ?told⟩
  case refused =>
    rw [← Check.gatedBy_of_lookup hes]
    exact (Check.tells_gate htold).1
  case told =>
    rw [← Check.gatedBy_of_lookup hes]
    refine (Check.tells_gate htold).2 ?_
    rwa [Data.put_of_lookup hes]

/-- **Gates in writing cohere with versions.** A text is a gate exactly if it is a version, alone and in a
check, and every other text is an issue. All spellings of two numbers are the gate of these numbers. A gate of
a version that is not greater admits all that the other gate admits. -/
theorem written_gates_cohere :
    (∀ s, (∃ g, decode (.text s) = .ok g) ↔ ∃ v, Version.parse (some s) = .ok v) ∧
    (∀ s v, Version.parse (some s) = .ok v → WrittenGate s v) ∧
    (∀ s e, Version.parse (some s) = .error e → RefusedGate s e) ∧
    (∀ s major minor, Version.Spells s major minor → decode (.text s) = .ok ⟨major, minor⟩) ∧
    ∀ s t v w, Version.parse (some s) = .ok v → Version.parse (some t) = .ok w → v.key ≤ w.key →
      ∃ g h, decode (.text s) = .ok g ∧ decode (.text t) = .ok h ∧
        ∀ host, h.admits host = true → g.admits host = true := by
  refine ⟨?accepted, fun _ _ => writtenGate_of_parse, fun _ _ => refusedGate_of_parse, ?spelled, ?ordered⟩
  case accepted =>
    intro s
    constructor
    · rintro ⟨g, hg⟩
      obtain ⟨v, hv, -⟩ := decode_text_eq_ok_iff.1 hg
      exact ⟨v, hv⟩
    · rintro ⟨v, hv⟩
      exact ⟨ofVersion v, (writtenGate_of_parse hv).alone⟩
  case spelled =>
    intro s major minor h
    obtain ⟨v, hv, rfl, rfl⟩ := Version.parse_of_spells h
    exact (writtenGate_of_parse hv).alone
  case ordered =>
    intro s t v w hs ht hle
    refine ⟨_, _, (writtenGate_of_parse hs).alone, (writtenGate_of_parse ht).alone, fun host hhost => ?_⟩
    -- the host is above the greater version, and so above the other one
    obtain ⟨u, hu, hwu⟩ := admits_ofVersion_iff.1 hhost
    exact admits_ofVersion_iff.2 ⟨u, hu, le_trans hle hwu⟩

/-- A padded spelling with a dash is the gate of its numbers and admits the plain version; one number alone is
an issue. -/
theorem written_gates_cohere_padded :
    decode (.text " 02-0530.beta ") = .ok ⟨2, 530⟩ ∧
    (∃ host, (Version.parseLenient (some "2.530")).outcome = .ok host ∧
      (⟨2, 530⟩ : Gate).admits host = true) ∧
    decode (.text "2") = .error [⟨[], .refused (.gateText (.rejected ⟨some "2", .missingSegment⟩))⟩] := by
  obtain ⟨-, hwritten, hrefused, -, -⟩ := written_gates_cohere
  have hpadded : Version.parse (some " 02-0530.beta ") = .ok ⟨2, 530, some "beta"⟩ := by decide
  have hplain : Version.parse (some "2.530") = .ok ⟨2, 530, none⟩ := by decide
  have hgate := hwritten " 02-0530.beta " _ hpadded
  have hhost := Version.parseLenient_of_ok hplain
  have hadmits := (hgate.admits _ _ hhost).2 ⟨_, hplain, Version.key_le_key_iff.2 (.inr ⟨rfl, le_refl 530⟩)⟩
  exact ⟨hgate.alone, ⟨_, hhost, hadmits⟩, (hrefused "2" _ rfl).alone⟩

end Gate

end ExtensionProbe
