/-!
# Line ends

A line may end in a line feed, a carriage return, or both. `unify` makes a line feed of each.

* `unify_of_no_return`: a text without carriage returns stays as it is.
-/

namespace ExtensionProbe.Text

/-- A text with a line feed at the end of each line. -/
def unify : List Char → List Char
  | [] => []
  | '\r' :: '\n' :: rest => '\n' :: unify rest
  | c :: rest => (if c = '\r' then '\n' else c) :: unify rest

theorem unify_of_no_return {s : List Char} (h : '\r' ∉ s) : unify s = s := by
  fun_induction unify s with
  | case1 => rfl
  | case2 rest ih => simp at h
  | case3 c rest _ ih =>
    simp only [List.mem_cons, not_or] at h
    rw [ih h.2, if_neg (Ne.symm h.1)]

end ExtensionProbe.Text
