/-!
# Search in a text

`occursIn t s` says whether `t` is a contiguous stretch of `s`, which `occursIn_iff` states by the
infix relation on lists.
-/

namespace CallCheck

/-- Whether `t` is found somewhere in a list of characters. -/
def occursIn (t : List Char) : List Char → Bool
  | [] => t.isEmpty
  | c :: s => t.isPrefixOf (c :: s) || occursIn t s

theorem occursIn_iff {t s : List Char} : occursIn t s = true ↔ t <:+: s := by
  induction s with
  | nil => simp [occursIn]
  | cons c s ih => simp [occursIn, ih, List.infix_cons_iff]

end CallCheck
