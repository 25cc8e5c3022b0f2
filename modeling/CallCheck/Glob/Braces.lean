/-!
# Alternatives in braces

`Braces.expand` replaces the first group of a text, such as `{a,b}`, by each of its alternatives in
turn and goes on until no group is left. A brace that is not part of a group stays as it is.
-/

namespace CallCheck
namespace Glob
namespace Braces

/-- A text around its first group: what comes before, the inside of the group, what comes after. -/
structure Group where
  before : List Char
  inside : List Char
  after : List Char
  deriving DecidableEq, Inhabited

/-- The first opening brace of a text with the first closing one after it. -/
def firstGroup? (s : List Char) : Option Group :=
  match s.dropWhile (· ≠ '\x7b') with
  | [] => none
  | _ :: rest =>
    match rest.dropWhile (· ≠ '\x7d') with
    | [] => none
    | _ :: after => some ⟨s.takeWhile (· ≠ '\x7b'), rest.takeWhile (· ≠ '\x7d'), after⟩

/-- The text with one alternative in place of the group. -/
def Group.choose (g : Group) (alternative : List Char) : List Char :=
  g.before ++ alternative ++ g.after

def Group.alternatives (g : Group) : List (List Char) := g.inside.splitOn ','

/-- How many groups a text can have at most: its number of closing braces. -/
def closings (s : List Char) : Nat := s.count '\x7d'

theorem mem_of_mem_splitOn {x : Char} {s w : List Char} (hw : w ∈ s.splitOn ',') (hx : x ∈ w) :
    x ∈ s := by
  have key : ∀ ws : List (List Char), w ∈ ws → x ∈ [','].intercalate ws := by
    intro ws
    induction ws with
    | nil => simp
    | cons v ws ih =>
      intro hm
      cases ws with
      | nil =>
        simp at hm
        subst hm
        simpa using hx
      | cons u ws =>
        rcases List.mem_cons.1 hm with rfl | hm
        · simp [hx]
        · have := ih hm
          simp at this ⊢
          grind
  simpa [List.intercalate_splitOn] using key _ hw

theorem closings_choose {s : List Char} {g : Group} (h : firstGroup? s = some g)
    {a : List Char} (ha : a ∈ g.alternatives) : closings (g.choose a) < closings s := by
  unfold firstGroup? at h
  split at h
  · simp at h
  · next c rest hrest =>
    split at h
    · simp at h
    · next c' after hafter =>
      simp only [Option.some.injEq] at h
      subst h
      have chosen : closings a = 0 := by
        rw [closings, List.count_eq_zero]
        intro hm
        have := List.all_eq_true.1 (List.all_takeWhile (p := (· ≠ '\x7d')) (l := rest)) _
          (mem_of_mem_splitOn ha hm)
        simp at this
      have closing : c' = '\x7d' := by
        have := List.head?_dropWhile_not (· ≠ '\x7d') rest
        rw [hafter] at this
        simpa using this
      have whole : s = s.takeWhile (· ≠ '\x7b') ++
          c :: (rest.takeWhile (· ≠ '\x7d') ++ c' :: after) := by
        rw [← hafter, List.takeWhile_append_dropWhile, ← hrest, List.takeWhile_append_dropWhile]
      have counted := congrArg closings whole
      simp only [Group.choose, closings, List.count_append, List.count_cons, closing,
        beq_self_eq_true, if_true] at *
      omega

/-- The texts without groups that a text stands for, one for each choice of alternatives. -/
def expand (s : List Char) : List (List Char) :=
  match h : firstGroup? s with
  | none => [s]
  | some g => g.alternatives.attach.flatMap fun a =>
    have := closings_choose h a.2
    expand (g.choose a.1)
termination_by closings s

end Braces
end Glob
end CallCheck
