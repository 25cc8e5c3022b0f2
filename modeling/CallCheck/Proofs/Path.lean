import CallCheck.File.Path
import Mathlib.Data.List.Basic

/-!
# Components and order of paths

A path is compared with others, and followed on a disk, by its components. The path of an entry in a
directory has one component more than that of the directory (`Path.components_join`), and the path
that names lead to has theirs (`Path.components_descend`). Two paths are spelled alike
(`Path.SpelledAlike`) if they differ at most in the names at their ends. The order of paths is the
lexicographic one of their components (`Path.compareComponents_eq`): a linear order, in which only
paths of the same components are equal (`Path.compare_eq_eq_iff`). The path that names lead to from
the root has the path of the names before the last as its directory (`Path.parent?_ofNames`).
-/

namespace CallCheck
namespace Path

/-! ### Names of entries -/

/-- Whether a text can be the name of an entry of a directory. -/
structure IsName (s : String) : Prop where
  ne_empty : s ≠ ""
  ne_dot : s ≠ "."
  ne_dots : s ≠ ".."
  no_slash : '/' ∉ s.toList
  no_zero : '\x00' ∉ s.toList
  short : s.utf8ByteSize ≤ 255

instance (s : String) : Decidable (IsName s) :=
  decidable_of_iff
    (s ≠ "" ∧ s ≠ "." ∧ s ≠ ".." ∧ '/' ∉ s.toList ∧ '\x00' ∉ s.toList ∧ s.utf8ByteSize ≤ 255)
    ⟨fun ⟨h, hdot, hdots, hslash, hzero, hshort⟩ => ⟨h, hdot, hdots, hslash, hzero, hshort⟩,
      fun ⟨h, hdot, hdots, hslash, hzero, hshort⟩ => ⟨h, hdot, hdots, hslash, hzero, hshort⟩⟩

variable {p : Path} {n : String}

/-- A name is what it stands for as a piece of a path. -/
theorem IsName.component? (hn : IsName n) : component? n.toList = some (.name n) := by
  have hempty : n.toList ≠ [] := fun h => hn.ne_empty (String.toList_inj.mp h)
  have hdot : n.toList ≠ ['.'] := fun h => hn.ne_dot (String.toList_inj.mp h)
  have hdots : n.toList ≠ ['.', '.'] := fun h => hn.ne_dots (String.toList_inj.mp h)
  rw [Path.component?.eq_def]
  split
  · contradiction
  · contradiction
  · contradiction
  · rw [String.ofList_toList]

theorem endsWith_slash_iff (s : String) : s.endsWith "/" = true ↔ ∃ before, s.toList = before ++ ['/'] := by
  rw [String.endsWith_eq_endsWith_toSlice, String.Slice.endsWith_string_iff, String.copy_toSlice]
  exact ⟨fun ⟨before, h⟩ => ⟨before, h.symm⟩, fun ⟨before, h⟩ => ⟨before, h.symm⟩⟩

theorem IsName.not_isAbsolute (hn : IsName n) : (⟨n⟩ : Path).isAbsolute = false := by
  have hhead : n.toList.head? ≠ some '/' :=
    fun h => hn.no_slash (List.mem_of_mem_head? h)
  exact beq_eq_false_iff_ne.mpr hhead

/-- The path of an entry in the directory `p`: a slash stands between them, unless `p` ends with
one. -/
theorem text_join (hn : IsName n) (hp : p.text ≠ "") :
    (p.join ⟨n⟩).text.toList =
      if p.text.endsWith "/" then p.text.toList ++ n.toList else p.text.toList ++ '/' :: n.toList := by
  have hempty : p.text.isEmpty = false := Bool.eq_false_iff.mpr fun h => hp (String.isEmpty_iff.mp h)
  rw [join, hn.not_isAbsolute, hempty, Bool.or_self, if_neg Bool.false_ne_true]
  split
  · rw [String.toList_append]
  · simp

theorem isAbsolute_join (hn : IsName n) (hp : p.text ≠ "") :
    (p.join ⟨n⟩).isAbsolute = p.isAbsolute := by
  obtain ⟨c, rest, htext⟩ := List.exists_cons_of_ne_nil fun h => hp (String.toList_eq_nil_iff.mp h)
  rw [isAbsolute, isAbsolute, text_join hn hp, htext]
  split <;> rfl

/-- The path of an entry has the pieces of the directory, but for an empty one at the end, and then
the name. -/
theorem exists_pieces_join (hn : IsName n) (hp : p.text ≠ "") : ∃ first before idle,
    p.pieces = first :: before ++ idle ∧ (idle = [] ∨ idle = [[]]) ∧
    (p.join ⟨n⟩).pieces = first :: before ++ [n.toList] := by
  have hname : n.toList.splitOn '/' = [n.toList] := List.splitOn_eq_singleton hn.no_slash
  rw [pieces, pieces, text_join hn hp]
  split
  · next hslash =>
      obtain ⟨front, hfront⟩ := (endsWith_slash_iff p.text).mp hslash
      obtain ⟨first, before, hpieces⟩ := List.exists_cons_of_ne_nil (List.splitOn_ne_nil '/' front)
      refine ⟨first, before, [[]], ?_, .inr rfl, ?_⟩
      · rw [hfront, List.splitOn_append_cons_self, hpieces]
        rfl
      · rw [hfront, List.append_assoc, List.singleton_append, List.splitOn_append_cons_self, hname,
          hpieces]
  · obtain ⟨first, before, hpieces⟩ :=
      List.exists_cons_of_ne_nil (List.splitOn_ne_nil '/' p.text.toList)
    refine ⟨first, before, [], ?_, .inl rfl, ?_⟩
    · rw [hpieces, List.append_nil]
    · rw [List.splitOn_append_cons_self, hname, hpieces]

/-- The path of an entry has the components of the directory and the name. -/
theorem components_join (hn : IsName n) (hp : p.text ≠ "") :
    (p.join ⟨n⟩).components = p.components ++ [.name n] := by
  obtain ⟨first, before, idle, hpieces, hidle, hjoin⟩ := exists_pieces_join hn hp
  have hsteps : idle.filterMap Path.component? = [] := by
    rcases hidle with rfl | rfl
    · rfl
    · rfl
  rw [components, components, hpieces, hjoin, isAbsolute_join hn hp]
  simp only [List.cons_append, List.filterMap_append, hsteps, List.append_nil,
    List.filterMap_cons_some hn.component?, List.filterMap_nil]
  split
  · rfl
  · split
    · rfl
    · exact (List.append_assoc ..).symm

theorem fileName?_join (hn : IsName n) (hp : p.text ≠ "") : (p.join ⟨n⟩).fileName? = some n := by
  rw [fileName?, components_join hn hp, List.getLast?_concat]
  rfl

theorem text_join_ne_empty (hn : IsName n) (hp : p.text ≠ "") : (p.join ⟨n⟩).text ≠ "" := by
  intro h
  have htext := text_join hn hp
  rw [h] at htext
  split at htext
  · exact hp (String.toList_eq_nil_iff.mp (List.append_eq_nil_iff.mp htext.symm).1)
  · cases (List.append_eq_nil_iff.mp htext.symm).2

/-- The path that names lead to from a directory. -/
def descend (p : Path) (names : List String) : Path := names.foldl (fun q n => q.join ⟨n⟩) p

theorem components_descend (hp : p.text ≠ "") {names : List String} (hnames : ∀ n ∈ names, IsName n) :
    (p.descend names).components = p.components ++ names.map .name := by
  induction names generalizing p with
  | nil => exact (List.append_nil _).symm
  | cons n names ih =>
      obtain ⟨hn, hnames⟩ := List.forall_mem_cons.mp hnames
      have hrest := ih (text_join_ne_empty hn hp) hnames
      rw [components_join hn hp, List.append_assoc] at hrest
      exact hrest

/-- Whether two paths are the same up to where both go on with names alone. So are paths without
dots if both start at the root or neither does, and paths below one directory, however that is
written. -/
def SpelledAlike (p q : Path) : Prop := ∃ (front : List Component) (names names' : List String),
  p.components = front ++ names.map .name ∧ q.components = front ++ names'.map .name

/-- What lies below paths that are spelled alike is spelled alike. -/
theorem SpelledAlike.descend {q : Path} (h : p.SpelledAlike q) (hp : p.text ≠ "") (hq : q.text ≠ "")
    {names names' : List String} (hnames : ∀ n ∈ names, IsName n)
    (hnames' : ∀ n ∈ names', IsName n) : (p.descend names).SpelledAlike (q.descend names') := by
  obtain ⟨front, more, more', hcomponents, hcomponents'⟩ := h
  refine ⟨front, more ++ names, more' ++ names', ?_, ?_⟩
  · rw [components_descend hp hnames, hcomponents, List.append_assoc, List.map_append]
  · rw [components_descend hq hnames', hcomponents', List.append_assoc, List.map_append]

/-! ### Order -/

namespace Component

/-- Components are ordered by kind, and names by their texts. -/
theorem compare_eq (a b : Component) :
    a.compare b = compareLex (compareOn rank) (compareOn fun c => c.name?.getD "") a b := by
  cases a <;> cases b <;> rfl

instance : Std.TransCmp Component.compare := by
  have h : Component.compare = compareLex (compareOn rank) (compareOn fun c => c.name?.getD "") :=
    funext fun a => funext fun b => compare_eq a b
  rw [h]
  infer_instance

instance : Std.LawfulEqCmp Component.compare where
  eq_of_compare {a b} h := by
    cases a with
    | name m =>
        cases b with
        | name n => exact congrArg Component.name (Std.LawfulEqOrd.eq_of_compare h)
        | root | current | parent => cases h
    | root | current | parent =>
        cases b with
        | name n => cases h
        | root | current | parent => first | rfl | cases h

end Component

/-- Lists of components are ordered lexicographically. -/
theorem compareComponents_eq (as bs : List Component) :
    compareComponents as bs = as.compareLex Component.compare bs := by
  induction as generalizing bs with
  | nil => cases bs <;> rfl
  | cons a as ih =>
      cases bs with
      | nil => rfl
      | cons b bs => rw [compareComponents, ih, List.compareLex_cons_cons]

/-- What paths begin with in common does not count. -/
theorem compareComponents_append (front as bs : List Component) :
    compareComponents (front ++ as) (front ++ bs) = compareComponents as bs := by
  induction front with
  | nil => rfl
  | cons a front ih =>
      have hself : a.compare a = .eq := Std.ReflCmp.compare_self
      rw [List.cons_append, List.cons_append, compareComponents, ih, hself]
      rfl

theorem compare_eq_compareLex (p q : Path) :
    p.compare q = p.components.compareLex Component.compare q.components :=
  compareComponents_eq _ _

/-- Paths are equal in their order exactly if they have the same components. -/
theorem compare_eq_eq_iff {p q : Path} : p.compare q = .eq ↔ p.components = q.components := by
  rw [compare_eq_compareLex]
  exact Std.LawfulEqCmp.compare_eq_iff_eq

theorem same_iff {p q : Path} : p.same q = true ↔ p.components = q.components := beq_iff_eq

theorem le_trans (p q r : Path) (hpq : p.le q = true) (hqr : q.le r = true) : p.le r = true := by
  rw [le, compare_eq_compareLex] at *
  exact Std.TransCmp.isLE_trans hpq hqr

theorem compare_lt_of_lt_of_le {p q r : Path} (hpq : p.compare q = .lt) (hqr : q.le r = true) :
    p.compare r = .lt := by
  rw [le, compare_eq_compareLex] at hqr
  rw [compare_eq_compareLex] at *
  exact Std.TransCmp.lt_of_lt_of_isLE hpq hqr

theorem le_total (p q : Path) : (p.le q || q.le p) = true := by
  have hswap : q.components.compareLex Component.compare p.components =
      (p.components.compareLex Component.compare q.components).swap := Std.OrientedCmp.eq_swap
  rw [le, le, compare_eq_compareLex, compare_eq_compareLex q p, hswap]
  cases p.components.compareLex Component.compare q.components <;> rfl

/-- A path that comes before another of other components comes strictly before it. -/
theorem compare_eq_lt_of_le {p q : Path} (h : p.le q = true) (hne : p.same q = false) :
    p.compare q = .lt := by
  rw [le] at h
  cases hpq : p.compare q with
  | lt => rfl
  | eq => rw [same_iff.mpr (compare_eq_eq_iff.mp hpq)] at hne; cases hne
  | gt => rw [hpq] at h; cases h

/-- Paths below one directory are in the order of the names that lead to them. -/
theorem compare_descend (hp : p.text ≠ "") {names names' : List String}
    (hnames : ∀ n ∈ names, IsName n) (hnames' : ∀ n ∈ names', IsName n) :
    (p.descend names).compare (p.descend names') =
      compareComponents (names.map .name) (names'.map .name) := by
  rw [compare, components_descend hp hnames, components_descend hp hnames', compareComponents_append]

/-! ### Paths of names -/

variable {names : List String}

theorem IsName.toList_ne_nil (hn : IsName n) : n.toList ≠ [] :=
  fun h => hn.ne_empty (String.toList_eq_nil_iff.mp h)

theorem text_ofNames_append_ne_nil (hne : names ≠ []) (n : String) :
    (ofNames (names ++ [n])).text = (ofNames names).text ++ "/" ++ n := by
  rw [ofNames, ofNames, String.intercalate_append_of_ne_nil hne (List.cons_ne_nil _ _),
    String.intercalate_singleton]
  simp only [String.append_assoc]

/-- The pieces of the path of names are these, after an empty one. -/
theorem pieces_ofNames (hnames : ∀ m ∈ names, IsName m) (hne : names ≠ []) :
    (ofNames names).pieces = [] :: names.map String.toList := by
  have hmap : names.map String.toList ≠ [] := fun h => hne (List.map_eq_nil_iff.mp h)
  have htext : (ofNames names).text.toList = ['/'].intercalate ([] :: names.map String.toList) := by
    rw [ofNames, String.toList_append, String.toList_intercalate, List.intercalate_cons_of_ne_nil hmap]
    rfl
  rw [pieces, htext]
  apply List.splitOn_intercalate
  · refine List.forall_mem_cons.mpr ⟨List.not_mem_nil, ?_⟩
    rw [List.forall_mem_map]
    exact fun m hm => (hnames m hm).no_slash
  · exact List.cons_ne_nil _ _

/-- The path of an entry of the directory that names lead to is that of the names with its own. -/
theorem join_ofNames (hnames : ∀ m ∈ names, IsName m) (hn : IsName n) :
    (ofNames names).join ⟨n⟩ = ofNames (names ++ [n]) := by
  have hempty : (ofNames names).text.isEmpty = false := by
    rw [ofNames, ← Bool.not_eq_true, String.isEmpty_iff]
    intro h
    have hnil := congrArg String.toList h
    rw [String.toList_append] at hnil
    cases hnil
  rw [join, hn.not_isAbsolute, hempty, Bool.or_self, if_neg Bool.false_ne_true]
  rcases List.eq_nil_or_concat' names with rfl | ⟨front, last, rfl⟩
  · have hends : (ofNames []).text.endsWith "/" = true := (endsWith_slash_iff _).mpr ⟨[], rfl⟩
    rw [if_pos hends, List.nil_append, ofNames, ofNames, String.intercalate_nil,
      String.intercalate_singleton, String.append_empty]
  · have hne : front ++ [last] ≠ [] := by simp
    have hlast : IsName last := hnames last (by simp)
    have hends : ¬ (ofNames (front ++ [last])).text.endsWith "/" = true := by
      rw [endsWith_slash_iff]
      rintro ⟨before, hbefore⟩
      -- the last piece would be empty
      have hpieces := congrArg List.getLast? (pieces_ofNames hnames hne)
      rw [pieces, hbefore, List.splitOn_append_cons_self, List.map_append, ← List.cons_append,
        List.getLast?_append, List.getLast?_append] at hpieces
      exact hlast.toList_ne_nil (Option.some.inj hpieces).symm
    rw [if_neg hends, ← text_ofNames_append_ne_nil hne]

theorem dropIdle_cons {piece : List Char} (h : (component? piece).isSome = true)
    (rest : List (List Char)) : dropIdle (piece :: rest) = piece :: rest := by
  cases rest with
  | nil => rfl
  | cons before rest =>
      rw [dropIdle, if_neg]
      rw [Option.isNone_iff_eq_none, ← ne_eq, ← Option.isSome_iff_ne_none]
      exact h

/-- A path without its last component, if that is not the only piece. -/
theorem parent?_of_pieces {p : Path} {piece : List Char} {before : List (List Char)}
    (h : p.pieces.reverse = piece :: before) (hpiece : (component? piece).isSome = true)
    (hbefore : before ≠ []) :
    p.parent? = some ⟨if (dropIdle before).reverse = [[]] then "/"
      else String.ofList (['/'].intercalate (dropIdle before).reverse)⟩ := by
  obtain ⟨b, bs, rfl⟩ := List.exists_cons_of_ne_nil hbefore
  rw [parent?, h, dropIdle_cons hpiece]
  cases piece with
  | nil => cases hpiece
  | cons c cs => rfl

/-- The directory of an entry. -/
theorem parent?_ofNames (hnames : ∀ m ∈ names, IsName m) (hn : IsName n) :
    (ofNames (names ++ [n])).parent? = some (ofNames names) := by
  have hall : ∀ m ∈ names ++ [n], IsName m :=
    List.forall_mem_append.mpr ⟨hnames, List.forall_mem_singleton.mpr hn⟩
  have hsome : ∀ {m : String}, IsName m → (component? m.toList).isSome = true := by
    intro m hm
    rw [hm.component?]
    rfl
  have hreverse : (ofNames (names ++ [n])).pieces.reverse =
      n.toList :: ([] :: names.map String.toList).reverse := by
    rw [pieces_ofNames hall (by simp)]
    simp
  rw [parent?_of_pieces hreverse (hsome hn) (by simp)]
  rcases List.eq_nil_or_concat' names with rfl | ⟨front, last, rfl⟩
  · rfl
  · have hlast : IsName last := hnames last (by simp)
    have hkept : dropIdle ([] :: (front ++ [last]).map String.toList).reverse =
        ([] :: (front ++ [last]).map String.toList).reverse := by
      rw [List.map_append, List.map_singleton, ← List.cons_append, List.reverse_append]
      exact dropIdle_cons (hsome hlast) _
    rw [hkept, List.reverse_reverse, if_neg (by simp), ← pieces_ofNames hnames (by simp), pieces,
      List.intercalate_splitOn, String.ofList_toList]

end Path
end CallCheck
