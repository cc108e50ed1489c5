import ExtensionProbe.Version

/-!
# Collections of versions

Versions in order of their numbers. Of versions with the same numbers, which may differ in their
qualifiers, the order in which they were given decides.

* `mem_sort`, `mem_sortDescending`: sorting keeps the versions.
* `least?_cons`: the least version of a list is one of its members.
-/

namespace ExtensionProbe.Version

/-- Versions from the oldest to the newest; those with the same numbers stay in their order. -/
def sort (vs : List Version) : List Version :=
  vs.mergeSort fun a b => !b.precedes a

/-- Versions from the newest to the oldest; those with the same numbers stay in their order. -/
def sortDescending (vs : List Version) : List Version :=
  vs.mergeSort fun a b => !a.precedes b

/-- The first of the oldest versions. -/
def least? : List Version → Option Version
  | [] => none
  | v :: rest => some (rest.foldl (fun best w => if w.precedes best then w else best) v)

/-- The first of the newest versions. -/
def greatest? : List Version → Option Version
  | [] => none
  | v :: rest => some (rest.foldl (fun best w => if w.follows best then w else best) v)

/-- The first version of each pair of numbers, added to those found before. -/
def distinctAfter (found : List Version) : List Version → List Version
  | [] => found.reverse
  | v :: rest =>
    if found.any (agrees v) then distinctAfter found rest else distinctAfter (v :: found) rest

/-- The first version of each pair of numbers. -/
def distinct (vs : List Version) : List Version := distinctAfter [] vs

/-- Adds a version to a set of versions. The set stays as it is if a member has the same hash and the same
numbers. -/
def addMember (mix : Nat × Nat → UInt64) (members : List Version) (v : Version) : List Version :=
  if members.any fun w => w.hashBy mix == v.hashBy mix && w.agrees v then members else members ++ [v]

/-- The set of the versions of a list, its members in the order in which they were added. -/
def setOf (mix : Nat × Nat → UInt64) (vs : List Version) : List Version :=
  vs.foldl (addMember mix) []

theorem mem_sort {v : Version} {vs : List Version} : v ∈ sort vs ↔ v ∈ vs := by
  simp [sort, List.mem_mergeSort]

theorem mem_sortDescending {v : Version} {vs : List Version} : v ∈ sortDescending vs ↔ v ∈ vs := by
  simp [sortDescending, List.mem_mergeSort]

theorem foldl_choice_mem {choose : Version → Version → Version}
    (h : ∀ a b, choose a b = a ∨ choose a b = b) (v : Version) (vs : List Version) :
    vs.foldl choose v ∈ v :: vs := by
  induction vs generalizing v with
  | nil => exact List.mem_singleton_self v
  | cons w rest ih =>
    rw [List.foldl_cons]
    rcases List.mem_cons.1 (ih (choose v w)) with heq | hrest
    · -- the choice stays what it is after the first two
      rw [heq]
      rcases h v w with hw | hw
      · rw [hw]
        exact List.mem_cons_self
      · rw [hw]
        exact List.mem_cons_of_mem v List.mem_cons_self
    · exact List.mem_cons_of_mem v (List.mem_cons_of_mem w hrest)

theorem least?_cons (v : Version) (vs : List Version) :
    ∃ w ∈ v :: vs, least? (v :: vs) = some w :=
  ⟨_, foldl_choice_mem (fun a b => by split <;> simp) v vs, rfl⟩

end ExtensionProbe.Version
