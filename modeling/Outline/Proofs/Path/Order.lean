import Outline.Path
import Outline.Proofs.Text.Utf8
import Mathlib.Data.List.Basic
import Mathlib.Data.List.TakeWhile

/-! Paths of the entries below a directory, and the order of paths. Joining a name to a path adds
one component to it, whatever slashes and dots the path is written with, so a path below a directory
has the components of the directory and then the names on the way down. Paths are ordered by their
components, and names by their bytes: this is not the order of the texts, for `a-b` comes before
`a/b` as a text and after it as a path. -/
namespace Outline.Path

/-- A name that a directory can hold an entry under. -/
def IsName (s : String) : Prop := s ≠ "" ∧ s ≠ "." ∧ s ≠ ".." ∧ '/' ∉ s.toList

instance (s : String) : Decidable (IsName s) :=
  inferInstanceAs (Decidable (s ≠ "" ∧ s ≠ "." ∧ s ≠ ".." ∧ '/' ∉ s.toList))

theorem IsName.ofPiece {s : String} (h : IsName s) : Component.ofPiece s = some (.name s) := by
  obtain ⟨hempty, hdot, hdots, -⟩ := h
  simp [Component.ofPiece, hempty, hdot, hdots]

/-! ### Joining names -/

/-- The component in front of those that the pieces stand for. -/
def lead (first : String) : List Component :=
  if first = "." then [.current] else if first = "" then [.root] else []

theorem components_eq {p : Path} {first : String} {rest : List String}
    (h : p.pieces = first :: rest) (hrest : first = "" → rest ≠ []) :
    p.components = lead first ++ (first :: rest).filterMap Component.ofPiece := by
  simp only [components, h, lead]
  by_cases hdot : first = "."
  · simp [hdot]
  · by_cases hempty : first = ""
    · simp [hempty, hrest hempty]
    · simp [hdot, hempty]

theorem components_eq_append {p : Path} {first last : String} {rest : List String}
    (h : p.pieces = first :: (rest ++ [last])) :
    p.components = lead first ++ (first :: rest).filterMap Component.ofPiece ++
      (Component.ofPiece last).toList := by
  rw [components_eq h (by simp), ← List.cons_append, List.filterMap_append, List.append_assoc]
  cases hlast : Component.ofPiece last <;> simp [hlast]

theorem pieces_eq_of_toList {p : Path} {a b : List Char} (h : p.text.toList = a ++ '/' :: b) :
    p.pieces = (Text.cut '/' a).map String.ofList ++ (Text.cut '/' b).map String.ofList := by
  rw [pieces, Text.pieces, h, Text.cut_append, List.map_append]

theorem cut_of_isName {s : String} (h : IsName s) :
    (Text.cut '/' s.toList).map String.ofList = [s] := by
  rw [Text.cut_of_notMem h.2.2.2, List.map_singleton, String.ofList_toList]

theorem pieces_eq_append {p : Path} {front first : List Char} {rest : List (List Char)}
    {s : String} (h : IsName s) (hcut : Text.cut '/' front = first :: rest)
    (htext : p.text.toList = front ++ '/' :: s.toList) :
    p.pieces = String.ofList first :: (rest.map String.ofList ++ [s]) := by
  rw [pieces_eq_of_toList htext, hcut, cut_of_isName h]
  rfl

/-- A name that is joined to a path is one more component. -/
theorem components_join (p : Path) {s : String} (h : IsName s) :
    (p.join s).components = p.components ++ [.name s] := by
  have hs := h.ofPiece
  by_cases hempty : p.text = ""
  · have hp : p.components = [] := by
      simp [components, pieces, Text.pieces, hempty, Text.cut, Component.ofPiece]
    have hq : (p.join s).pieces = s :: [] := by
      rw [pieces, Text.pieces, join, if_pos (by simp [hempty]), hempty, String.empty_append]
      exact cut_of_isName h
    rw [components_eq hq fun hs => absurd hs h.1, hp]
    simp [lead, h.1, h.2.1, hs]
  · by_cases hlast : p.text.toList.getLast? = some '/'
    · -- the last piece of the path is empty, and the name takes its place
      obtain ⟨front, hfront⟩ := List.getLast?_eq_some_iff.mp hlast
      obtain ⟨first, rest, hcut⟩ := List.exists_cons_of_ne_nil (Text.cut_ne_nil '/' front)
      have hp : p.pieces = String.ofList first :: (rest.map String.ofList ++ [""]) := by
        rw [pieces_eq_of_toList hfront, hcut]
        rfl
      have hq : (p.join s).text.toList = front ++ '/' :: s.toList := by
        rw [join, if_pos (by simp [hlast]), String.toList_append, hfront, List.append_assoc]
        rfl
      rw [components_eq_append hp, components_eq_append (pieces_eq_append h hcut hq), hs]
      simp [Component.ofPiece]
    · obtain ⟨first, rest, hcut⟩ := List.exists_cons_of_ne_nil (Text.cut_ne_nil '/' p.text.toList)
      have hp : p.pieces = String.ofList first :: rest.map String.ofList := by
        rw [pieces, Text.pieces, hcut, List.map_cons]
      have hq : (p.join s).text.toList = p.text.toList ++ '/' :: s.toList := by
        rw [join, if_neg (by simp [hempty, hlast]), String.toList_append, String.toList_append,
          List.append_assoc]
        rfl
      have hrest : String.ofList first = "" → rest.map String.ofList ≠ [] := by
        intro hfirst hnil
        rw [List.map_eq_nil_iff.mp hnil, String.ofList_eq_empty_iff.mp hfirst] at hcut
        exact hempty (String.toList_eq_nil_iff.mp (Text.eq_nil_of_cut_eq hcut))
      rw [components_eq hp hrest, components_eq_append (pieces_eq_append h hcut hq), hs]
      rfl

/-- The path of what lies under a list of names below a directory. -/
def below (p : Path) (names : List String) : Path := names.foldl join p

@[simp] theorem below_nil (p : Path) : p.below [] = p := rfl

theorem below_cons (p : Path) (name : String) (names : List String) :
    p.below (name :: names) = (p.join name).below names := rfl

theorem components_below (p : Path) {names : List String} (h : ∀ name ∈ names, IsName name) :
    (p.below names).components = p.components ++ names.map .name := by
  induction names generalizing p with
  | nil => simp
  | cons name names ih =>
    rw [List.forall_mem_cons] at h
    rw [below_cons, ih _ h.2, components_join p h.1, List.map_cons, List.append_assoc]
    rfl

/-- Different ways down lead to different paths. -/
theorem below_injective (p : Path) {ns ms : List String} (hn : ∀ name ∈ ns, IsName name)
    (hm : ∀ name ∈ ms, IsName name) (h : p.below ns = p.below ms) : ns = ms := by
  have hc := congrArg components h
  rw [components_below p hn, components_below p hm] at hc
  have hinj : Function.Injective Component.name := fun _ _ => Component.name.inj
  exact List.map_injective_iff.mpr hinj (List.append_cancel_left hc)

theorem stripBase_below (p : Path) {names : List String} (h : ∀ name ∈ names, IsName name) :
    p.stripBase (p.below names) = some (names.map .name) := by
  simp [stripBase, components_below p h]

theorem fileName_below (p : Path) {names : List String} (h : ∀ name ∈ names, IsName name)
    {last : String} (hlast : names.getLast? = some last) :
    (p.below names).fileName = some last := by
  simp [fileName, components_below p h, List.getLast?_append, List.getLast?_map, hlast]

/-! ### Texts of joined paths -/

/-- A joined path is written as the path, a slash if there is none yet, and the name. -/
theorem toList_join (p : Path) (s : String) :
    (p.join s).text.toList = p.text.toList ++ s.toList ∨
      (p.join s).text.toList = p.text.toList ++ '/' :: s.toList := by
  unfold join
  split
  · exact .inl String.toList_append
  · right
    rw [String.toList_append, String.toList_append, List.append_assoc]
    rfl

theorem le_utf8ByteSize_join (p : Path) (s : String) :
    p.text.utf8ByteSize + s.utf8ByteSize ≤ (p.join s).text.utf8ByteSize := by
  unfold join
  split
  · rw [String.utf8ByteSize_append]
  · rw [String.utf8ByteSize_append, String.utf8ByteSize_append]
    omega

theorem mem_toList_below {c : Char} (hc : c ≠ '/') (p : Path) (names : List String) :
    c ∈ (p.below names).text.toList ↔
      c ∈ p.text.toList ∨ ∃ name ∈ names, c ∈ name.toList := by
  induction names generalizing p with
  | nil => simp
  | cons name names ih =>
    have hjoin : c ∈ (p.join name).text.toList ↔ c ∈ p.text.toList ∨ c ∈ name.toList := by
      rcases toList_join p name with h | h <;> simp [h, hc]
    simp only [below_cons, ih, hjoin, List.mem_cons, exists_eq_or_imp, or_assoc]

theorem head?_below {p : Path} (hp : p.text ≠ "") (names : List String) :
    (p.below names).text.toList.head? = p.text.toList.head? := by
  induction names generalizing p with
  | nil => rfl
  | cons name names ih =>
    obtain ⟨c, cs, hcs⟩ :=
      List.exists_cons_of_ne_nil fun h => hp (String.toList_eq_nil_iff.mp h)
    have hjoin : (p.join name).text.toList.head? = p.text.toList.head? ∧
        (p.join name).text.toList ≠ [] := by
      rcases toList_join p name with h | h <;> simp [h, hcs]
    rw [below_cons, ih fun h => hjoin.2 (String.toList_eq_nil_iff.mpr h), hjoin.1]

/-- A name that is joined to a path is one more piece, in place of an empty last one if there is
one. -/
theorem exists_pieces_join {p : Path} (hp : p.text ≠ "") {s : String} (h : IsName s) :
    ∃ front, (p.join s).pieces = front ++ [s] ∧ (p.pieces = front ∨ p.pieces = front ++ [""]) := by
  by_cases hlast : p.text.toList.getLast? = some '/'
  · obtain ⟨front, hfront⟩ := List.getLast?_eq_some_iff.mp hlast
    have hjoin : (p.join s).text.toList = front ++ '/' :: s.toList := by
      rw [join, if_pos (by simp [hlast]), String.toList_append, hfront, List.append_assoc]
      rfl
    refine ⟨_, by rw [pieces_eq_of_toList hjoin, cut_of_isName h], .inr ?_⟩
    rw [pieces_eq_of_toList hfront]
    rfl
  · have hjoin : (p.join s).text.toList = p.text.toList ++ '/' :: s.toList := by
      rw [join, if_neg (by simp [hp, hlast]), String.toList_append, String.toList_append,
        List.append_assoc]
      rfl
    refine ⟨p.pieces, ?_, .inl rfl⟩
    rw [pieces_eq_of_toList hjoin, cut_of_isName h]
    rfl

/-- The names below a path are its last pieces. -/
theorem exists_pieces_below {p : Path} (hp : p.text ≠ "") {names : List String}
    (h : ∀ name ∈ names, IsName name) :
    ∃ front, (p.below names).pieces = front ++ names ∧
      (p.pieces = front ∨ p.pieces = front ++ [""]) := by
  induction names generalizing p with
  | nil => exact ⟨p.pieces, by simp, .inl rfl⟩
  | cons name names ih =>
    rw [List.forall_mem_cons] at h
    obtain ⟨front, hjoin, hp'⟩ := exists_pieces_join hp h.1
    have hne : (p.join name).text ≠ "" := by
      intro hempty
      rcases toList_join p name with ht | ht <;> simp [hempty, h.1.1] at ht
    obtain ⟨more, hbelow, hmore⟩ := ih hne h.2
    refine ⟨front, ?_, hp'⟩
    -- the joined path ends in a name, so no empty piece gives way
    have hmore : more = front ++ [name] := by
      rcases hmore with hm | hm
      · rw [← hm, hjoin]
      · rw [hjoin] at hm
        have hlast : [name] = [""] := (List.append_inj' hm rfl).2
        exact absurd (List.cons.inj hlast).1 h.1.1
    rw [below_cons, hbelow, hmore, List.append_assoc, List.singleton_append]

/-! ### Extensions -/

theorem extensionOf_of_notMem {name : String} (h : '.' ∉ name.toList) :
    extensionOf name = none := by
  have htake : name.toList.reverse.takeWhile (· ≠ '.') = name.toList.reverse := by
    rw [List.takeWhile_eq_self_iff]
    intro c hc
    simpa using ne_of_mem_of_not_mem (List.mem_reverse.mp hc) h
  simp only [extensionOf, htake, List.drop_length]

/-- The last dot parts a name into its extension and what is in front. -/
theorem extensionOf_of_reverse {name : String} {ext front : List Char}
    (h : name.toList.reverse = ext ++ '.' :: front) (hext : '.' ∉ ext) :
    extensionOf name =
      if front.isEmpty || name = ".." then none else some (String.ofList ext.reverse) := by
  have htake : (ext ++ '.' :: front).takeWhile (· ≠ '.') = ext := by
    rw [List.takeWhile_append_of_pos fun c hc => by simpa using ne_of_mem_of_not_mem hc hext]
    simp
  simp only [extensionOf, h, htake, List.drop_left]

/-- A name has the extension that follows its last dot, if something is in front of that dot. -/
theorem extensionOf_eq_some_iff {name ext : String} (h : name ≠ "..") :
    extensionOf name = some ext ↔
      ∃ stem, stem ≠ "" ∧ '.' ∉ ext.toList ∧ name = stem ++ "." ++ ext := by
  constructor
  · intro hext
    by_cases hdot : '.' ∈ name.toList
    · obtain ⟨tail, front, hname, htail⟩ :=
        List.eq_append_cons_of_mem (List.mem_reverse.mpr hdot)
      rw [extensionOf_of_reverse hname htail] at hext
      split at hext
      · contradiction
      next hfront =>
        refine ⟨String.ofList front.reverse, ?_, ?_, ?_⟩
        · simpa using fun hnil => hfront (by simp [hnil])
        · rw [← Option.some.inj hext]
          simpa using htail
        · rw [← Option.some.inj hext, ← String.toList_inj, ← List.reverse_inj, hname]
          simp
    · rw [extensionOf_of_notMem hdot] at hext
      contradiction
  · rintro ⟨stem, hstem, hdot, rfl⟩
    have hname : (stem ++ "." ++ ext).toList.reverse =
        ext.toList.reverse ++ '.' :: stem.toList.reverse := by
      simp
    rw [extensionOf_of_reverse hname (by simpa using hdot), if_neg (by simp [hstem, h])]
    simp

/-! ### The order of paths -/

namespace Component

/-- The kinds of components in their order. -/
def rank : Component → Nat
  | root => 0
  | current => 1
  | parent => 2
  | name _ => 3

/-- Names come after all else, and a name with smaller bytes comes before one with larger bytes. -/
def Before : Component → Component → Prop
  | name s, name t => Text.utf8 s < Text.utf8 t
  | a, b => a.rank < b.rank

theorem not_before_self (a : Component) : ¬a.Before a := by
  cases a with
  | name s => exact List.lt_irrefl (Text.utf8 s)
  | _ => simp [Before]

end Component

/-- The order of paths by their components. -/
def Precedes (p q : Path) : Prop := List.Lex Component.Before p.components q.components

theorem Precedes.ne {p q : Path} (h : p.Precedes q) : p ≠ q := by
  rintro rfl
  exact List.lex_irrefl Component.not_before_self _ h

/-- What lies under a smaller name comes before what lies under a larger one. -/
theorem precedes_of_lt {base : List Component} {a b : String} (h : a < b) {p q : Path}
    (hp : base ++ [.name a] <+: p.components) (hq : base ++ [.name b] <+: q.components) :
    p.Precedes q := by
  obtain ⟨as, hp⟩ := hp
  obtain ⟨bs, hq⟩ := hq
  rw [Precedes, ← hp, ← hq, List.append_assoc, List.append_assoc]
  have hname : (Component.name a).Before (.name b) := Text.utf8_lt_utf8 h
  exact List.Lex.append_left _ (.rel hname) base

end Outline.Path
