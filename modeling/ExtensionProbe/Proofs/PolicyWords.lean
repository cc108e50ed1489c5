import ExtensionProbe.Proofs.Probing
import ExtensionProbe.Proofs.Quoting

/-!
# Policies in words

A policy is described by its kind in words and its text in quotes. No kind is described like another one, and
no two texts are quoted alike, so a description is that of one policy alone. A result keeps nothing of the
policy of its check but the description, which is enough to know the policy again.

* `describe_inj`: different policies are described differently.
* `identifies_verdict`: the policy of a check is the only one that is described as its result says.
* `expected_identifies_policy`: **descriptions identify policies, and so do the results of a report.**
-/

namespace ExtensionProbe

namespace Policy

variable {p q : Policy} {s t : String}

/-- The description of a policy in characters: its kind in words, and its text between quotes. -/
theorem toList_describe (p : Policy) : p.describe.toList =
    match p with
    | .exact name => "simple name == ".toList ++ (Text.quote name).toList
    | .contains part => "simple name contains ".toList ++ (Text.quote part).toList
    | .marker m => "marker ".toList ++ (Text.quote m).toList := by
  cases p <;> exact String.toList_append

theorem quote_ofString_inj : (Text.quote s).toList = (Text.quote t).toList ↔ s = t := by
  rw [String.toList_inj, Text.quote_inj, Text.ofString_inj]

/-- **Different policies are described differently.** -/
theorem describe_inj : p.describe = q.describe ↔ p = q := by
  refine ⟨fun h => ?_, congrArg describe⟩
  have hchars := congrArg String.toList h
  rw [toList_describe, toList_describe] at hchars
  cases p with
  | exact name =>
    cases q with
    | exact other => rw [quote_ofString_inj.1 (List.append_cancel_left hchars)]
    | contains part => simp at hchars
    | marker m => simp at hchars
  | contains part =>
    cases q with
    | exact name => simp at hchars
    | contains other => rw [quote_ofString_inj.1 (List.append_cancel_left hchars)]
    | marker m => simp at hchars
  | marker m =>
    cases q with
    | exact name => simp at hchars
    | contains part => simp at hchars
    | marker other => rw [quote_ofString_inj.1 (List.append_cancel_left hchars)]

end Policy

namespace Probe

/-- What a result is expected to show is said of the policy of its check alone. -/
def Identifies (c : Check) (r : Result) : Prop :=
  ∀ p : Policy, r.expected = Text.ofString p.describe ↔ p = c.policy

theorem identifies_verdict (view : List Descriptor) (host : Option Version) (c : Check) :
    Identifies c (c.verdict view host) := by
  intro p
  rw [(verdict_classified view host c).expected, Text.ofString_inj, Policy.describe_inj]
  exact eq_comm

/-- **A description identifies its policy**: policies are described alike only if their kinds and their texts
are the same. So whatever a report is made of, the policy of each check is the only one that is described as
the result of the check says. -/
theorem expected_identifies_policy :
    (∀ p q : Policy, p.describe = q.describe ↔ p = q) ∧
      ∀ {σ : Type} {least : Int} {client : Client σ} {checks : List Check} {capability : Text}
        {raw : Option Text} {state : σ} {report : Report},
        (probe least client checks capability raw state).1.outcome = .ok report →
          List.Forall₂ Identifies checks report.results := by
  refine ⟨fun p q => Policy.describe_inj, fun h => ?_⟩
  obtain ⟨host, view, -, -, hreport⟩ := report_of_probe h
  rw [hreport, List.forall₂_map_right_iff, List.forall₂_same]
  exact fun c _ => identifies_verdict view host c

/-- Checks whose policies are described nearly alike: by a quote, by a quote after a backslash, and by the text
that is written for the first of them. -/
def quotes : List Check :=
  [{ label := "a", policy := .exact "'" }, { label := "b", policy := .exact "\\'" },
    { label := "c", policy := .contains "\"'\"" }]

/-- In a report on these checks, the first of them is known by its result. -/
theorem expected_identifies_policy_quotes :
    ∃ report r,
      (probe 1 (fun _ s => (some [some ⟨"A", [], []⟩], s)) quotes "c" none ()).1.outcome = .ok report ∧
      report.results.head? = some r ∧ r.expected = Text.ofString "simple name == \"'\"" ∧
      ∀ p : Policy, r.expected = Text.ofString p.describe ↔ p = .exact "'" := by
  obtain ⟨report, hreport⟩ : ∃ report,
      (probe 1 (fun _ s => (some [some ⟨"A", [], []⟩], s)) quotes "c" none ()).1.outcome = .ok report :=
    ⟨_, rfl⟩
  have hall := expected_identifies_policy.2 hreport
  cases hresults : report.results with
  | nil =>
    rw [hresults] at hall
    cases hall
  | cons r rest =>
    rw [hresults] at hall
    cases hall with
    | cons hfirst hrest =>
      refine ⟨report, r, hreport, by rw [hresults]; rfl, ?_, hfirst⟩
      rw [(hfirst (.exact "'")).2 rfl]
      decide +kernel

end Probe

end ExtensionProbe
