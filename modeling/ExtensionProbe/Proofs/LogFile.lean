import ExtensionProbe.Document
import ExtensionProbe.Log.Setup
import ExtensionProbe.Proofs.Words

/-!
# The files after a log is set up

Setting up a log may make one file, at a place where nothing was, and that file is empty. It is no document, or
one without entries. So whatever is read from the files afterwards was there before, or holds nothing.

* `Files.Touched`: files as they were, or with one more that is empty.
* `Log.Setup.touched_of_configure`: setting up a log does no more than that, whether it succeeds or fails.
* `Document.load_of_touched`: a document is loaded as before, unless it is the new file.
-/

namespace ExtensionProbe

namespace Files

variable {fs fs' : Files} {way way' : List Text} {e : Entry}

theorem find_put_of_ne (h : way' ≠ way) : (fs.put way e).find way' = fs.find way' := by
  unfold find put
  split
  · rfl
  · -- an entry at the one place is not at the other
    have hkept (x : List Text × Entry) :
        decide ((x.1 != way) = true ∧ (x.1 == way') = true) = (x.1 == way') := by
      by_cases hx : x.1 = way'
      · simp [hx, h]
      · simp [hx]
    rw [List.find?_cons_of_neg (by simpa using h.symm), List.find?_filter]
    simp only [hkept]

/-- Files as they were, or with one more that is empty. -/
inductive Touched (fs : Files) : Files → Prop
  | same : Touched fs fs
  | made {way : List Text} (hne : way ≠ []) (hnone : fs.find way = none) :
    Touched fs (fs.put way (.file .empty))

/-- At a place there is what was there before; where nothing was there may be an empty file. -/
theorem Touched.find (h : Touched fs fs') (way : List Text) :
    fs'.find way = fs.find way ∨ fs.find way = none ∧ fs'.find way = some (.file .empty) := by
  cases h with
  | same => exact .inl rfl
  | @made made hne hnone =>
    by_cases hw : way = made
    · subst hw
      exact .inr ⟨hnone, find_put_self fs hne _⟩
    · exact .inl (find_put_of_ne hw)

theorem Touched.follow (h : Touched fs fs') (place names : List Text) :
    fs'.follow place names = fs.follow place names ∨
      fs.follow place names = .ok none ∧ fs'.follow place names = .ok (some (.file .empty)) := by
  induction names generalizing place with
  | nil =>
    rcases h.find place with hfind | ⟨hnone, hfile⟩
    · exact .inl (congrArg Except.ok hfind)
    · exact .inr ⟨congrArg Except.ok hnone, congrArg Except.ok hfile⟩
  | cons name rest ih =>
    rcases h.find place with hfind | ⟨hnone, hfile⟩
    · simp only [Files.follow, hfind]
      split
      · split
        · exact .inl rfl
        · split
          · exact .inl rfl
          · split
            · exact ih _
            · exact ih _
      · exact .inl rfl
    · -- neither nothing nor a file is a directory on the way
      simp only [Files.follow, hnone, hfile]
      exact .inl trivial

theorem Touched.placeOf (h : Touched fs fs') (start : Path.Start) :
    fs'.placeOf start = fs.placeOf start := by
  cases h <;> rfl

theorem Touched.look (h : Touched fs fs') (p : Path) :
    fs'.look p = fs.look p ∨ fs.look p = .ok none ∧ fs'.look p = .ok (some (.file .empty)) := by
  unfold Files.look
  split
  · exact .inl rfl
  · split
    · exact .inl rfl
    · rw [h.placeOf]
      exact h.follow _ _

theorem touched_of_openAt {place : List Text} (h : fs.openAt place = .ok (way, fs')) :
    Touched fs fs' := by
  unfold openAt at h
  split at h
  · cases h
  · cases h
  · split at h
    · cases h
      exact .same
    · cases h
  · next hnone =>
    split at h
    · cases h
      refine .made ?_ hnone
      rintro rfl
      cases hnone
    · cases h

theorem touched_of_openLog {name : Text} (h : fs.openLog name = .ok (way, fs')) : Touched fs fs' := by
  unfold openLog at h
  extract_lets p way start at h
  split at h
  · cases h
  · split at h
    · cases h
    · split at h
      · cases h
      · exact touched_of_openAt h

end Files

namespace Log.Setup

variable {q : Request} {fs fs' : Files}

theorem touched_of_openSink {sink : Sink} (h : openSink q fs = .ok (sink, fs')) : fs.Touched fs' := by
  unfold openSink at h
  split at h
  · cases h
    exact .same
  · next name _ =>
    split at h
    · cases h
    · next hopen =>
      cases h
      exact Files.touched_of_openLog hopen

/-- Setting up a log makes one empty file at most. -/
theorem touched_of_configure {r : Except SetupError Setup} (h : configure q fs = (r, fs')) :
    fs.Touched fs' := by
  unfold configure at h
  split at h
  · cases h
    exact .same
  · split at h
    · cases h
      exact .same
    · next hopen =>
      cases h
      exact touched_of_openSink hopen

end Log.Setup

namespace Document

variable {fs fs' : Files} {levels : Levels} {path : Text} {format : Format} {es : List (Data × Data)}

/-- An empty file has no entries, if it is a document at all. -/
theorem entries_of_empty (h : parse levels path format .empty = .ok es) : es = [] := by
  have hutf : String.fromUTF8? .empty = some "" := rfl
  cases format with
  | json =>
    have hread : Json.read levels.json (Text.unify "".toList) = .error .malformed := Json.read_nothing _
    simp only [parse, hutf, hread] at h
    obtain ⟨d, hd, -⟩ := exists_of_bind_eq_ok h
    cases eq_ok_of_mapError hd
  | yaml =>
    have hread : Yaml.read levels.yaml { text := Text.unify "".toList } = .ok .null := rfl
    simp only [parse, hutf, hread] at h
    exact (Except.ok.inj h).symm

/-- A document is loaded as before, unless it is a new file, which has no entries. -/
theorem load_of_touched (h : fs.Touched fs') (p : Path) :
    load levels fs' p = load levels fs p ∨
      load levels fs p = .error (.missing p.text) ∧ ∀ es, load levels fs' p = .ok es → es = [] := by
  rcases h.look p with hlook | ⟨hnone, hfile⟩
  · refine .inl ?_
    unfold load Files.exist Files.read
    rw [hlook]
  · refine .inr ⟨load_missing hnone, ?_⟩
    intro es hes
    have hexist : fs'.exist p = .ok true := by
      unfold Files.exist
      rw [hfile]
      rfl
    have hread : fs'.read p = .ok .empty := by
      unfold Files.read
      rw [hfile]
      rfl
    unfold load at hes
    rw [hexist, hread] at hes
    cases hf : Format.ofSuffix? p.suffix with
    | none =>
      rw [hf] at hes
      cases hes
    | some format =>
      rw [hf] at hes
      exact entries_of_empty hes

end Document

end ExtensionProbe
