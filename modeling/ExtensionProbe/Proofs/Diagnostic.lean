import ExtensionProbe.Proofs.Quoting
import ExtensionProbe.Proofs.Verdict

/-!
# The lines of a failure

A failure is told in lines: what was expected, how many extensions were there, and each of them on a line of its
own. The text of a policy never adds a line, because a line feed in it is escaped, and neither does a number. So
there are no more lines than these, unless a name holds a line feed.

* `lines_diagnostic`: the lines of a failure in closed form.
* `failure_lists_view`: **what is told of a check that failed in a run lists the whole view, one line each.**
-/

namespace ExtensionProbe

namespace Text

/-- The line feed. -/
def newline : Code := .char '\n'

/-- A text is on one line: it has no line feed. -/
def OneLine (t : Text) : Prop := newline ∉ t

instance : DecidablePred OneLine := fun t => inferInstanceAs (Decidable (newline ∉ t))

theorem OneLine.append {s t : Text} (hs : s.OneLine) (ht : t.OneLine) : (s ++ t).OneLine := fun h =>
  (List.mem_append.1 h).elim hs ht

theorem oneLine_quote (t : Text) : (ofString (quote t)).OneLine := by
  intro h
  obtain ⟨c, hc, hnewline⟩ := List.mem_map.1 h
  cases hnewline
  exact newline_not_mem_quote t hc

theorem oneLine_natural (n : Nat) : (ofString (toString n)).OneLine := fun h =>
  absurd (Decimal.isDigit_of_mem h) (by decide)

end Text

open Text

namespace Policy

/-- The description of a policy is on one line, whatever its text. -/
theorem oneLine_describe (p : Policy) : (ofString p.describe).OneLine := by
  have hquoted : ∀ (kind : String) (text : Text), (ofString kind).OneLine →
      (ofString (kind ++ quote text)).OneLine := by
    intro kind text hkind
    rw [ofString_append]
    exact hkind.append (oneLine_quote text)
  cases p with
  | exact name => exact hquoted "simple name == " name (by decide)
  | contains part => exact hquoted "simple name contains " part (by decide)
  | marker m => exact hquoted "marker " m (by decide)

end Policy

namespace Descriptor

variable {d : Descriptor}

theorem oneLine_displayName (hsimple : d.simpleName.OneLine) (hqualified : d.qualifiedName.OneLine) :
    d.displayName.OneLine := by
  unfold displayName
  split
  · exact hsimple
  · exact .append (.append (.append hsimple (by decide)) hqualified) (by decide)

end Descriptor

namespace Result

variable {r : Result}

/-- A result is told without line feeds in its label and in the names that it lists. -/
structure OneLined (r : Result) : Prop where
  label : r.label.OneLine
  simpleName : ∀ d ∈ r.observed, d.simpleName.OneLine
  qualifiedName : ∀ d ∈ r.observed, d.qualifiedName.OneLine

/-- The line that says what was expected. -/
def expectation (r : Result) : Text := r.label ++ ": expected an extension with " ++ r.expected ++ ", none found."

/-- The line that says how many extensions were there. -/
def census (n : Nat) : Text := "Available extensions (" ++ toString n ++ "):"

/-- The line for an extension that was there. -/
def entry (d : Descriptor) : Text := "  - " ++ d.displayName

theorem oneLine_expectation (hlabel : r.label.OneLine) (hexpected : r.expected.OneLine) :
    r.expectation.OneLine :=
  .append (.append (.append hlabel (by decide)) hexpected) (by decide)

theorem oneLine_census (n : Nat) : (census n).OneLine :=
  .append (.append (by decide) (oneLine_natural n)) (by decide)

theorem oneLine_entry {d : Descriptor} (h : d.displayName.OneLine) : (entry d).OneLine :=
  .append (by decide) h

/-- The lines of a failure: what was expected, how many extensions were there, and each of them. -/
theorem lines_diagnostic (hfail : r.outcome = .fail) (h : r.OneLined) (hexpected : r.expected.OneLine) :
    r.diagnostic.splitOn newline = r.expectation :: census r.observed.length :: r.observed.map entry := by
  have hjoined : r.diagnostic =
      [newline].intercalate (r.expectation :: census r.observed.length :: r.observed.map entry) := by
    rw [diagnostic, hfail]
    rfl
  rw [hjoined]
  refine List.splitOn_intercalate newline ?_ (List.cons_ne_nil _ _)
  simp only [List.forall_mem_cons, List.forall_mem_map]
  refine ⟨oneLine_expectation h.label hexpected, oneLine_census _, fun d hd => ?_⟩
  exact oneLine_entry (Descriptor.oneLine_displayName (h.simpleName d hd) (h.qualifiedName d hd))

end Result

namespace Probe

/-- Lines that list a view under what was expected of it: one that starts with the label and has the description
of the policy, one with the number of extensions, and one for each of them with its name. -/
structure ListsView (lines : List Text) (label : Text) (p : Policy) (view : List Descriptor) : Prop where
  length : lines.length = 2 + view.length
  expectation : ∃ first, lines[0]? = some first ∧ label <+: first ∧ Text.ofString p.describe <:+: first
  census : lines[1]? = some (("Available extensions (" : Text) ++ toString view.length ++ "):")
  entry : ∀ (i : Nat) (d : Descriptor), view[i]? = some d →
    lines[2 + i]? = some (("  - " : Text) ++ d.displayName)

theorem listsView_verdict {view : List Descriptor} {host : Option Version} {c : Check}
    (hfail : (c.verdict view host).outcome = .fail) (h : (c.verdict view host).OneLined) :
    ListsView ((c.verdict view host).diagnostic.splitOn newline) c.label c.policy view := by
  have hclass := verdict_classified view host c
  have hexpected : (c.verdict view host).expected.OneLine := by
    rw [hclass.expected]
    exact c.policy.oneLine_describe
  rw [Result.lines_diagnostic hfail h hexpected, (hclass.of_fail hfail).2.1]
  refine ⟨?_, ⟨_, rfl, ?_, ?_⟩, rfl, fun i d hd => ?_⟩
  · simp only [List.length_cons, List.length_map]
    omega
  · rw [Result.expectation, hclass.label, List.append_assoc, List.append_assoc]
    exact List.prefix_append _ _
  · rw [Result.expectation, hclass.expected]
    exact ⟨_, _, rfl⟩
  · rw [Nat.add_comm, List.getElem?_cons_succ, List.getElem?_cons_succ, List.getElem?_map, hd]
    rfl

/-- **A failure lists the whole view, one line each.** In a run, what is told of a check that failed has a line
for what was expected, a line for how many extensions were there, and a line for each descriptor of the listing,
in order, whatever the text of its policy, if there is no line feed in its label or in the names of extensions. -/
theorem failure_lists_view {least : Int} {checks : List Check} {l : Listing} {host : Option Version}
    {capability : Option Text} {results : List Result}
    (h : (run least checks l host capability).outcome = .ok results) :
    ∃ view, l = some (view.map some) ∧
      List.Forall₂ (fun c r => r.outcome = .fail → r.OneLined →
        r.observed = view ∧ ListsView (r.diagnostic.splitOn newline) c.label c.policy view) checks results := by
  obtain ⟨view, hu, rfl⟩ := verdicts_of_run h
  refine ⟨view, (usable_eq_ok_iff.1 hu).1, ?_⟩
  rw [List.forall₂_map_right_iff, List.forall₂_same]
  intro c _ hfail hlined
  exact ⟨((verdict_classified view host c).of_fail hfail).2.1, listsView_verdict hfail hlined⟩

/-- A policy whose text holds a line feed and both quotes, asked of two extensions: four lines, the third of which
has the name of the first extension. -/
theorem failure_lists_view_line_feed :
    ∃ r, (run 1 [⟨"a", .exact "x\n'y\"", none, none⟩]
        (some [some ⟨"A", Text.ofString "p.A", []⟩, some ⟨"B", [], []⟩]) none none).outcome = .ok [r] ∧
      r.outcome = .fail ∧ r.OneLined ∧ (r.diagnostic.splitOn newline).length = 4 ∧
      (r.diagnostic.splitOn newline)[2]? = some (Text.ofString "  - A (p.A)") := by
  obtain ⟨r, hr, hfail, hlabel, hobserved⟩ : ∃ r, (run 1 [⟨"a", .exact "x\n'y\"", none, none⟩]
      (some [some ⟨"A", Text.ofString "p.A", []⟩, some ⟨"B", [], []⟩]) none none).outcome = .ok [r] ∧
      r.outcome = .fail ∧ r.label = Text.ofString "a" ∧
      r.observed = [⟨"A", Text.ofString "p.A", []⟩, ⟨"B", [], []⟩] := ⟨_, rfl, rfl, rfl, rfl⟩
  have hlined : r.OneLined := by
    refine ⟨?_, ?_, ?_⟩
    · rw [hlabel]
      decide
    all_goals
      rw [hobserved]
      decide
  obtain ⟨view, -, hall⟩ := failure_lists_view hr
  cases hall with
  | cons hfirst hrest =>
    obtain ⟨hview, hlists⟩ := hfirst hfail hlined
    rw [hobserved] at hview
    subst hview
    exact ⟨r, hr, hfail, hlined, hlists.length, hlists.entry 0 _ rfl⟩

end Probe

end ExtensionProbe
