/-!
# What remains of a walk

A walk along names goes to each of some known names at most once on its trail. What bounds it is the
number of known names that are not yet on the trail.
-/

namespace Inspection

/-- The number of known names that are not on the trail. -/
def remaining (known trail : List String) : Nat :=
  known.countP fun name => name ∉ trail

/-- Fewer elements have the stronger property if some element has only the weaker one. -/
theorem countP_lt_of_imp {α : Type} {p q : α → Bool} {l : List α} (h : ∀ a, p a → q a) {a : α}
    (mem : a ∈ l) (hq : q a = true) (hp : p a = false) : l.countP p < l.countP q := by
  induction l with
  | nil => cases mem
  | cons b rest ih =>
    have le : rest.countP p ≤ rest.countP q := List.countP_mono_left fun a _ => h a
    rcases List.mem_cons.1 mem with rfl | mem
    · simp only [List.countP_cons, hq, hp, if_true]
      simp
      omega
    · have := ih mem
      simp only [List.countP_cons]
      by_cases hb : p b = true
      · simp [hb, h b hb]; omega
      · simp [hb]; split <;> omega

/-- One step to a known name that is not on the trail leaves fewer names. -/
theorem remaining_step {known trail : List String} {name : String} (mem : name ∈ known)
    (new : name ∉ trail) : remaining known (trail ++ [name]) < remaining known trail := by
  refine countP_lt_of_imp (a := name) ?_ mem ?_ ?_
  · intro a ha
    simp only [List.mem_append, not_or, decide_eq_true_eq] at ha ⊢
    exact ha.1
  · simpa using new
  · simp

end Inspection
