import CallCheck.File.Disk
import CallCheck.Proofs.Path
import Mathlib.Data.List.Nodup

/-!
# What paths refer to

A path that can be followed on a disk leads where its components say (`Disk.place`), however it is
written: an empty step or a dot only asks for a directory. So two paths refer to the same file if
they have the same components (`Disk.sameFile_of_same`); and if they are spelled alike
(`Path.SpelledAlike`), they refer to the same file only then (`Disk.same_of_sameFile`). What a tree
holds is found under the path of the tree and the names that lead there (`Disk.at?_descend`), if
names are those of a file system (`Tree.WellNamed`).
-/

namespace CallCheck

namespace Path

/-- Where components lead, from the directory that names lead to. The last name comes first. -/
def walk : List String → List Component → List String
  | names, [] => names
  | names, .name n :: rest => walk (n :: names) rest
  | names, .parent :: rest => walk names.tail rest
  | names, _ :: rest => walk names rest

/-- Names lead down. -/
theorem walk_append_names (before : List String) (front : List Component) (names : List String) :
    walk before (front ++ names.map .name) = names.reverse ++ walk before front := by
  induction front generalizing before with
  | nil =>
      rw [List.nil_append, walk]
      induction names generalizing before with
      | nil => rfl
      | cons n names ih =>
          rw [List.map_cons, walk, ih, List.reverse_cons, List.append_assoc]
          rfl
  | cons c front ih => cases c <;> exact ih _

/-- What stands between slashes is a step up or a name, if anything. -/
theorem component?_eq_some {piece : List Char} {c : Component} (h : component? piece = some c) :
    c = .parent ∨ ∃ n, c = .name n := by
  rw [component?.eq_def] at h
  split at h
  · cases h
  · cases h
  · exact .inl (Option.some.inj h).symm
  · exact .inr ⟨_, (Option.some.inj h).symm⟩

theorem exists_pieces (p : Path) : ∃ first rest, p.pieces = first :: rest :=
  List.exists_cons_of_ne_nil (List.splitOn_ne_nil '/' p.text.toList)

/-- The first piece of an absolute path is empty. -/
theorem pieces_of_isAbsolute {p : Path} (h : p.isAbsolute = true) :
    p.pieces = [] :: p.pieces.tail := by
  have hhead : p.text.toList.head? = some '/' := beq_iff_eq.mp h
  obtain ⟨rest, htext⟩ := List.head?_eq_some_iff.mp hhead
  rw [pieces, htext, ← List.nil_append ('/' :: rest), List.splitOn_append_cons_self]
  rfl

/-- The components of a path are those of its pieces, after the root of an absolute path or the dot
that a relative one may start with. -/
theorem exists_components_eq (p : Path) : ∃ front,
    p.components = front ++ p.pieces.filterMap component? ∧
    (p.isAbsolute = true ∧ front = [.root] ∨
      p.isAbsolute = false ∧ (front = [] ∨ front = [.current])) := by
  obtain ⟨first, rest, hpieces⟩ := p.exists_pieces
  rw [components, hpieces]
  cases habsolute : p.isAbsolute with
  | true =>
      rw [pieces_of_isAbsolute habsolute] at hpieces
      obtain ⟨rfl, -⟩ := List.cons.inj hpieces
      exact ⟨[.root], rfl, .inl ⟨rfl, rfl⟩⟩
  | false =>
      by_cases hdot : first = ['.']
      · subst hdot
        exact ⟨[.current], by simp [component?], .inr ⟨rfl, .inr rfl⟩⟩
      · refine ⟨[], ?_, .inr ⟨rfl, .inl rfl⟩⟩
        cases hfirst : component? first <;> simp [hdot, hfirst]

/-- Pieces stand for steps up and names alone. -/
theorem mem_filterMap_component? {pieces : List (List Char)} {c : Component}
    (h : c ∈ pieces.filterMap component?) : c = .parent ∨ ∃ n, c = .name n := by
  obtain ⟨piece, -, hpiece⟩ := List.mem_filterMap.mp h
  exact component?_eq_some hpiece

/-- A path is absolute exactly if its first component is the root. -/
theorem isAbsolute_iff {p : Path} : p.isAbsolute = true ↔ p.components.head? = some .root := by
  obtain ⟨front, hcomponents, ⟨habsolute, rfl⟩ | ⟨habsolute, rfl | rfl⟩⟩ := p.exists_components_eq
  · simp [habsolute, hcomponents]
  · rw [habsolute, hcomponents, List.nil_append]
    refine ⟨fun h => (nomatch h), fun h => ?_⟩
    rcases mem_filterMap_component? (List.mem_of_mem_head? h) with hroot | ⟨n, hroot⟩
    · cases hroot
    · cases hroot
  · simp [habsolute, hcomponents]

/-- Only names and steps up lead elsewhere. -/
theorem walk_components (p : Path) (names : List String) :
    walk names p.components = walk names (p.pieces.filterMap component?) := by
  obtain ⟨front, hcomponents, ⟨-, rfl⟩ | ⟨-, rfl | rfl⟩⟩ := p.exists_components_eq
  · rw [hcomponents]; rfl
  · rw [hcomponents]; rfl
  · rw [hcomponents]; rfl

end Path

namespace File

namespace Tree

/-- A tree as a file system has it: what a directory holds has names that can be names, all of them
different. -/
inductive WellNamed : Tree → Prop where
  | file (bytes : ByteArray) : WellNamed (.file bytes)
  | directory {es : List (String × Tree)} : (es.map Prod.fst).Nodup →
    (∀ e ∈ es, Path.IsName e.1) → (∀ e ∈ es, WellNamed e.2) → WellNamed (.directory es)

theorem WellNamed.nodup {es : List (String × Tree)} (h : (Tree.directory es).WellNamed) :
    (es.map Prod.fst).Nodup := by
  cases h
  assumption

theorem WellNamed.isName {es : List (String × Tree)} (h : (Tree.directory es).WellNamed) :
    ∀ e ∈ es, Path.IsName e.1 := by
  cases h
  assumption

theorem WellNamed.entry {es : List (String × Tree)} (h : (Tree.directory es).WellNamed) :
    ∀ e ∈ es, WellNamed e.2 := by
  cases h
  assumption

theorem wellNamed_directory_iff {es : List (String × Tree)} : (Tree.directory es).WellNamed ↔
    (es.map Prod.fst).Nodup ∧ ∀ e ∈ es, Path.IsName e.1 ∧ e.2.WellNamed :=
  ⟨fun h => ⟨h.nodup, fun e he => ⟨h.isName e he, h.entry e he⟩⟩,
    fun ⟨hnodup, hes⟩ => .directory hnodup (fun e he => (hes e he).1) fun e he => (hes e he).2⟩

/-- An entry is found under its name if no other has it. -/
theorem child?_of_mem {es : List (String × Tree)} (hnodup : (es.map Prod.fst).Nodup) {n : String}
    {t : Tree} (h : (n, t) ∈ es) : (directory es).child? n = some t := by
  have hsome : (es.find? fun e => e.1 == n).isSome := by
    rw [List.find?_isSome]
    exact ⟨(n, t), h, beq_self_eq_true n⟩
  obtain ⟨⟨m, u⟩, hfound⟩ := Option.isSome_iff_exists.mp hsome
  have hname : m = n := by simpa using List.find?_some hfound
  subst hname
  have hsame : (m, u) = (m, t) :=
    List.inj_on_of_nodup_map hnodup (List.mem_of_find?_eq_some hfound) h rfl
  rw [child?, entries, hfound]
  exact congrArg (some ∘ Prod.snd) hsame

theorem mem_of_child? {es : List (String × Tree)} {n : String} {t : Tree}
    (h : (directory es).child? n = some t) : (n, t) ∈ es := by
  obtain ⟨⟨m, u⟩, hfound, rfl⟩ := Option.map_eq_some_iff.mp h
  have hname : m = n := by simpa using List.find?_some hfound
  rw [← hname]
  exact List.mem_of_find?_eq_some hfound

/-- What names lead to in a well-named tree is well named, and they are names of entries. -/
theorem WellNamed.find? {t u : Tree} (ht : t.WellNamed) {names : List String}
    (h : t.find? names = some u) : (∀ n ∈ names, Path.IsName n) ∧ u.WellNamed := by
  induction names generalizing t with
  | nil => exact ⟨fun n hn => (nomatch hn), Option.some.inj h ▸ ht⟩
  | cons m names ih =>
      obtain ⟨below, hchild, hbelow⟩ := Option.bind_eq_some_iff.mp h
      cases t with
      | file bytes => cases hchild
      | directory es =>
          have hmem := mem_of_child? hchild
          obtain ⟨hnames, hu⟩ := ih (ht.entry _ hmem) hbelow
          exact ⟨List.forall_mem_cons.mpr ⟨ht.isName _ hmem, hnames⟩, hu⟩

theorem find?_append (t : Tree) (names more : List String) :
    t.find? (names ++ more) = (t.find? names).bind fun below => below.find? more := by
  induction names generalizing t with
  | nil => rfl
  | cons n names ih =>
      rw [List.cons_append, find?, find?]
      cases t.child? n with
      | none => rfl
      | some below => exact ih below

end Tree

namespace Disk

variable {d : Disk} {p q : Path}

/-! ### Following a path -/

theorem follow_append (names : List String) (front rest : List (List Char)) :
    d.follow names (front ++ rest) = (d.follow names front).bind fun found => d.follow found rest := by
  induction front generalizing names with
  | nil => rfl
  | cons piece front ih =>
      rw [List.cons_append, follow, follow]
      split
      · split
        · exact ih names
        · split
          · rfl
          · split
            · exact ih _
            · rfl
        · exact ih _
      · rfl

/-- What is reached by following pieces is where their components lead. -/
theorem follow_eq_ok {names found : List String} {pieces : List (List Char)}
    (h : d.follow names pieces = .ok found) :
    found = Path.walk names (pieces.filterMap Path.component?) := by
  induction pieces generalizing names with
  | nil => exact (Except.ok.inj h).symm
  | cons piece rest ih =>
      rw [follow] at h
      split at h
      · cases hpiece : Path.component? piece with
        | none =>
            simp only [hpiece] at h
            rw [List.filterMap_cons_none hpiece]
            exact ih h
        | some c =>
            rw [List.filterMap_cons_some hpiece]
            rcases Path.component?_eq_some hpiece with rfl | ⟨n, rfl⟩
            · simp only [hpiece] at h
              exact ih h
            · simp only [hpiece] at h
              split at h
              · cases h
              · split at h
                · exact ih h
                · cases h
      · cases h

/-- Where a path starts: at the root or at the working directory, the last name first. -/
def start (d : Disk) (p : Path) : List String := if p.isAbsolute then [] else d.working.reverse

/-- What is followed from there: the slash that an absolute path starts with is no step. -/
def followed (p : Path) : List (List Char) := if p.isAbsolute then p.pieces.tail else p.pieces

theorem walk_followed (p : Path) (names : List String) :
    Path.walk names ((followed p).filterMap Path.component?) = Path.walk names p.components := by
  rw [Path.walk_components, followed]
  split
  · next habsolute =>
      rw [Path.pieces_of_isAbsolute habsolute]
      rfl
  · rfl

theorem locate_eq_ok_iff {names : List String} : d.locate p = .ok names ↔
    p.text ≠ "" ∧ '\x00' ∉ p.text.toList ∧
      d.follow (d.start p) (followed p) = .ok names.reverse := by
  have hfollow : ∀ result : Except Fault (List String),
      List.reverse <$> result = .ok names ↔ result = .ok names.reverse := by
    intro result
    cases result with
    | error fault => exact ⟨fun h => (nomatch h), fun h => (nomatch h)⟩
    | ok found =>
        show Except.ok found.reverse = .ok names ↔ _
        rw [Except.ok.injEq, Except.ok.injEq, List.reverse_eq_iff]
  rw [locate, start, followed]
  split
  · next hempty => simp [String.isEmpty_iff.mp hempty]
  · next hempty =>
      split
      · next hzero => simpa using fun _ h => absurd (List.contains_iff_mem.mp hzero) h
      · next hzero =>
          have htext : p.text ≠ "" := fun h => hempty (String.isEmpty_iff.mpr h)
          have hmem : '\x00' ∉ p.text.toList := fun h => hzero (List.contains_iff_mem.mpr h)
          split
          · simp [hfollow, htext, hmem]
          · simp [hfollow, htext, hmem]

/-- The names that the components of a path lead to. -/
def place (d : Disk) (p : Path) : List String := (Path.walk (d.start p) p.components).reverse

/-- A path that can be followed leads where its components say. -/
theorem eq_place_of_locate {names : List String} (h : d.locate p = .ok names) :
    names = d.place p := by
  obtain ⟨-, -, hfollow⟩ := locate_eq_ok_iff.mp h
  rw [place, ← walk_followed, ← follow_eq_ok hfollow, List.reverse_reverse]

/-! ### The same file -/

/-- Whether two paths refer to the same file or directory. -/
def SameFile (d : Disk) (p q : Path) : Prop :=
  ∃ names, d.locate p = .ok names ∧ d.locate q = .ok names

theorem text_ne_empty_of_at? {t : Tree} (h : d.at? p = some t) : p.text ≠ "" := by
  intro hempty
  rw [at?, locate, if_pos (String.isEmpty_iff.mpr hempty)] at h
  cases h

theorem text_ne_empty_of_contains (h : d.contains p = true) : p.text ≠ "" := by
  obtain ⟨t, ht⟩ := Option.isSome_iff_exists.mp h
  exact text_ne_empty_of_at? ht

/-- Whether a path can be followed to something. -/
def Leads (d : Disk) (p : Path) : Prop := ∃ names, d.locate p = .ok names

theorem leads_of_isFile (h : d.isFile p = true) : d.Leads p := by
  rw [isFile, at?] at h
  cases hlocate : d.locate p with
  | error fault => rw [hlocate] at h; cases h
  | ok names => exact ⟨names, hlocate⟩

/-- Paths of the same components refer to the same file, if to any. -/
theorem sameFile_of_same (h : p.same q = true) (hp : d.Leads p) (hq : d.Leads q) :
    d.SameFile p q := by
  obtain ⟨names, hp⟩ := hp
  obtain ⟨names', hq⟩ := hq
  have hcomponents := Path.same_iff.mp h
  have habsolute : p.isAbsolute = q.isAbsolute := by
    rw [Bool.eq_iff_iff, Path.isAbsolute_iff, Path.isAbsolute_iff, hcomponents]
  have hplace : d.place p = d.place q := by rw [place, place, start, start, hcomponents, habsolute]
  refine ⟨names, hp, ?_⟩
  rw [hq, eq_place_of_locate hq, eq_place_of_locate hp, hplace]

/-- Paths that are spelled alike refer to the same file only if they have the same components. -/
theorem same_of_sameFile (halike : p.SpelledAlike q) (h : d.SameFile p q) : p.same q = true := by
  obtain ⟨front, names, names', hp, hq⟩ := halike
  obtain ⟨found, hlocate, hlocate'⟩ := h
  have habsolute : p.isAbsolute = q.isAbsolute := by
    rw [Bool.eq_iff_iff, Path.isAbsolute_iff, Path.isAbsolute_iff, hp, hq]
    -- names alone do not start at the root
    cases front with
    | nil => cases names <;> cases names' <;> simp
    | cons c front => rfl
  have hplace : d.place p = d.place q :=
    (eq_place_of_locate hlocate).symm.trans (eq_place_of_locate hlocate')
  have hstart : d.start p = d.start q := by rw [start, start, habsolute]
  rw [place, place, hp, hq, Path.walk_append_names, Path.walk_append_names, hstart,
    List.reverse_inj] at hplace
  have hnames : names = names' := List.reverse_inj.mp (List.append_cancel_right hplace)
  rw [Path.same_iff, hp, hq, hnames]

/-! ### What a directory holds -/

/-- Below a directory the same pieces are followed, but for an empty one at the end, and then the
name. -/
theorem exists_followed_join {n : String} (hn : Path.IsName n) (hp : p.text ≠ "") :
    ∃ front idle, followed p = front ++ idle ∧ (idle = [] ∨ idle = [[]]) ∧
      followed (p.join ⟨n⟩) = front ++ [n.toList] := by
  obtain ⟨first, before, idle, hpieces, hidle, hjoin⟩ := Path.exists_pieces_join hn hp
  rw [followed, followed, Path.isAbsolute_join hn hp, hpieces, hjoin]
  split
  · exact ⟨before, idle, rfl, hidle, rfl⟩
  · exact ⟨first :: before, idle, rfl, hidle, rfl⟩

/-- An entry of a directory is found under the path of the directory and its name. -/
theorem locate_join {names : List String} {es : List (String × Tree)} {n : String} {t : Tree}
    (hn : Path.IsName n) (hp : d.locate p = .ok names)
    (hes : d.root.find? names = some (.directory es)) (ht : (n, t) ∈ es) :
    d.locate (p.join ⟨n⟩) = .ok (names ++ [n]) := by
  obtain ⟨htext, hzero, hfollow⟩ := locate_eq_ok_iff.mp hp
  obtain ⟨front, idle, hfollowed, hidle, hjoin⟩ := exists_followed_join hn htext
  refine locate_eq_ok_iff.mpr ⟨Path.text_join_ne_empty hn htext, ?zero, ?follow⟩
  case zero =>
    rw [Path.text_join hn htext]
    split
    · simp [hzero, hn.no_zero]
    · simp [hzero, hn.no_zero]
  case follow =>
    have hfront : d.follow (d.start p) front = .ok names.reverse := by
      rw [hfollowed, follow_append] at hfollow
      cases hfound : d.follow (d.start p) front with
      | error fault => rw [hfound] at hfollow; cases hfollow
      | ok found =>
          rw [hfound] at hfollow
          -- following an empty piece leads nowhere else
          rcases hidle with rfl | rfl
          · exact hfollow
          · rw [show names.reverse = found from follow_eq_ok hfollow]
    have hstart : d.start (p.join ⟨n⟩) = d.start p := by
      rw [start, start, Path.isAbsolute_join hn htext]
    have hany : (es.any fun e => e.1 == n) = true :=
      List.any_eq_true.mpr ⟨(n, t), ht, beq_self_eq_true n⟩
    have hshort : ¬ 255 < n.utf8ByteSize := Nat.not_lt.mpr hn.short
    rw [hstart, hjoin, follow_append, hfront]
    show d.follow names.reverse [n.toList] = _
    simp [follow, hes, hn.component?, hshort, hany]

theorem at?_join {es : List (String × Tree)} {n : String} {t : Tree}
    (hes : (Tree.directory es).WellNamed) (hp : d.at? p = some (.directory es))
    (ht : (n, t) ∈ es) : d.at? (p.join ⟨n⟩) = some t := by
  rw [at?] at hp
  cases hlocate : d.locate p with
  | error fault => rw [hlocate] at hp; cases hp
  | ok names =>
      rw [hlocate] at hp
      have hfind : d.root.find? names = some (.directory es) := hp
      rw [at?, locate_join (hes.isName _ ht) hlocate hfind ht]
      show d.root.find? (names ++ [n]) = some t
      rw [Tree.find?_append, hfind]
      show ((Tree.directory es).child? n).bind _ = some t
      rw [Tree.child?_of_mem hes.nodup ht]
      rfl

/-- What names lead to in a tree is found there below the path of the tree. -/
theorem at?_descend {t u : Tree} (ht : t.WellNamed) (hp : d.at? p = some t) {names : List String}
    (hu : t.find? names = some u) : d.at? (p.descend names) = some u := by
  induction names generalizing p t with
  | nil => exact hp.trans hu
  | cons n names ih =>
      obtain ⟨below, hchild, hbelow⟩ := Option.bind_eq_some_iff.mp hu
      cases t with
      | file bytes => cases hchild
      | directory es =>
          have hmem := Tree.mem_of_child? hchild
          exact ih (ht.entry _ hmem) (at?_join ht hp hmem) hbelow

/-- What a path refers to on a well-named disk is well named. -/
theorem wellNamed_of_at? {t : Tree} (hroot : d.root.WellNamed) (hp : d.at? p = some t) :
    t.WellNamed := by
  obtain ⟨names, -, hfind⟩ := Option.bind_eq_some_iff.mp hp
  exact (hroot.find? hfind).2

/-! ### Names on the way -/

/-- The names that are reached by following pieces are names of entries. -/
theorem isName_of_follow (hroot : d.root.WellNamed) {names found : List String}
    {pieces : List (List Char)} (hnil : pieces = [] → ∀ n ∈ names, Path.IsName n)
    (h : d.follow names pieces = .ok found) : ∀ n ∈ found, Path.IsName n := by
  induction pieces generalizing names with
  | nil =>
      rw [← Except.ok.inj h]
      exact hnil rfl
  | cons piece rest ih =>
      rw [follow] at h
      split at h
      · next es hes =>
          obtain ⟨hreversed, hwell⟩ := hroot.find? hes
          have hnames : ∀ n ∈ names, Path.IsName n := fun n hn => hreversed n (List.mem_reverse.mpr hn)
          split at h
          · exact ih (fun _ => hnames) h
          · next n _ =>
              split at h
              · cases h
              · split at h
                · next hany =>
                    obtain ⟨e, he, heq⟩ := List.any_eq_true.mp hany
                    have hn : Path.IsName n := beq_iff_eq.mp heq ▸ hwell.isName e he
                    exact ih (fun _ => List.forall_mem_cons.mpr ⟨hn, hnames⟩) h
                · cases h
          · exact ih (fun _ n hn => hnames n (List.mem_of_mem_tail hn)) h
      · cases h

/-- A path that can be followed leads to names of entries. -/
theorem isName_of_locate (hroot : d.root.WellNamed) {p : Path} {names : List String}
    (h : d.locate p = .ok names) : ∀ n ∈ names, Path.IsName n := by
  obtain ⟨-, -, hfollow⟩ := locate_eq_ok_iff.mp h
  have hnil : followed p = [] → ∀ n ∈ d.start p, Path.IsName n := by
    intro hfollowed
    rw [start]
    rw [followed] at hfollowed
    split
    · exact fun n hn => absurd hn List.not_mem_nil
    · next habsolute =>
        rw [if_neg habsolute] at hfollowed
        obtain ⟨first, rest, hpieces⟩ := p.exists_pieces
        rw [hpieces] at hfollowed
        cases hfollowed
  exact fun n hn => isName_of_follow hroot hnil hfollow n (List.mem_reverse.mpr hn)

end Disk
end File
end CallCheck
