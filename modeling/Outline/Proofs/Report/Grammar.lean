import Mathlib.Data.List.Basic
import Outline.Report.JsonReader

/-! The grammar of JSON texts, and reading by it. The grammar says which texts a value has: blanks
stand between tokens, a character of a string may be escaped in several ways, and of numbers there
are those without sign, fraction and exponent. The reader finds the value of every text of the
grammar, so no text has two. -/
namespace Outline.Report.Json

/-! ### The grammar -/

/-- Nothing but blanks. -/
def Blank (cs : List Char) : Prop := ∀ c ∈ cs, isSpace c = true

/-- The escapes of a letter, each with the character that it stands for. -/
def letterEscapes : List (Char × Char) :=
  [('"', '"'), ('\\', '\\'), ('/', '/'), ('b', '\x08'), ('f', '\x0c'), ('n', '\n'), ('r', '\r'),
    ('t', '\t')]

/-- A code unit has four hexadecimal digits. -/
inductive IsUnit : Nat → List Char → Prop
  | digits {a b c d p q r s} (ha : hexValue? a = some p) (hb : hexValue? b = some q)
    (hc : hexValue? c = some r) (hd : hexValue? d = some s) :
    IsUnit (16 * (16 * (16 * p + q) + r) + s) [a, b, c, d]

/-- How characters are spelled between quotes. -/
inductive Spelled : List Char → List Char → Prop
  | nil : Spelled [] []
  | plain {c s t} (hc : 32 ≤ c.toNat) (hquote : c ≠ '"') (hslash : c ≠ '\\') :
    Spelled s t → Spelled (c :: s) (c :: t)
  | letter {e c s t} (he : (e, c) ∈ letterEscapes) : Spelled s t → Spelled (c :: s) ('\\' :: e :: t)
  | unit {n ds s t} (hn : IsUnit n ds) (hplane : n < 0xd800 ∨ 0xdfff < n) :
    Spelled s t → Spelled (Char.ofNat n :: s) ('\\' :: 'u' :: ds ++ t)
  | pair {n m ds es s t} (hn : IsUnit n ds) (hhigh : 0xd800 ≤ n ∧ n < 0xdc00) (hm : IsUnit m es)
    (hlow : 0xdc00 ≤ m ∧ m ≤ 0xdfff) : Spelled s t →
      Spelled (Char.ofNat (0x10000 + 1024 * (n - 0xd800) + (m - 0xdc00)) :: s)
        ('\\' :: 'u' :: ds ++ '\\' :: 'u' :: es ++ t)

/-- The digits of a count, without zeros in front. -/
structure Numeral (n : Nat) (ds : List Char) : Prop where
  ne_nil : ds ≠ []
  digits : ∀ d ∈ ds, d.isDigit = true
  lead : ds.head? = some '0' → ds = ['0']
  value : Nat.ofDigitChars 10 ds 0 = n

mutual

/-- The texts of a value. -/
inductive Written : Json → List Char → Prop
  | null : Written .null ['n', 'u', 'l', 'l']
  | yes : Written (.boolean true) ['t', 'r', 'u', 'e']
  | no : Written (.boolean false) ['f', 'a', 'l', 's', 'e']
  | number {n ds} : Numeral n ds → Written (.number n) ds
  | string {s : String} {t} : Spelled s.toList t → Written (.string s) ('"' :: t ++ ['"'])
  | noItems {w} : Blank w → Written (.array []) ('[' :: w ++ [']'])
  | array {js t} : WrittenItems js t → Written (.array js) ('[' :: t ++ [']'])
  | noFields {w} : Blank w → Written (.object []) ('\x7b' :: w ++ ['\x7d'])
  | object {fs t} : WrittenFields fs t → Written (.object fs) ('\x7b' :: t ++ ['\x7d'])

/-- One item or more, with commas between them. -/
inductive WrittenItems : List Json → List Char → Prop
  | one {j v t w} : Blank v → Written j t → Blank w → WrittenItems [j] (v ++ t ++ w)
  | more {j js v t w u} : Blank v → Written j t → Blank w → WrittenItems js u →
    WrittenItems (j :: js) (v ++ t ++ w ++ ',' :: u)

/-- One field or more, each with a name and a value, with commas between them. -/
inductive WrittenFields : List (String × Json) → List Char → Prop
  | one {k : String} {j u s x v t w} : Blank u → Spelled k.toList s → Blank x → Blank v →
    Written j t → Blank w →
      WrittenFields [(k, j)] (u ++ '"' :: s ++ '"' :: x ++ ':' :: v ++ t ++ w)
  | more {k : String} {j fs u s x v t w y} : Blank u → Spelled k.toList s → Blank x → Blank v →
    Written j t → Blank w → WrittenFields fs y →
      WrittenFields ((k, j) :: fs) (u ++ '"' :: s ++ '"' :: x ++ ':' :: v ++ t ++ w ++ ',' :: y)

end

/-- The value of a text as a whole, with blanks around it. -/
def Document (text : String) (j : Json) : Prop :=
  ∃ v t w, text.toList = v ++ t ++ w ∧ Blank v ∧ Written j t ∧ Blank w

/-! ### Blanks -/

theorem skipSpace_append {w : List Char} (h : Blank w) (cs : List Char) :
    skipSpace (w ++ cs) = skipSpace cs := by
  rw [skipSpace, List.dropWhile_append_of_pos h]
  rfl

theorem skipSpace_cons {c : Char} (h : isSpace c = false) (cs : List Char) :
    skipSpace (c :: cs) = c :: cs := by
  simp [skipSpace, h]

/-- What follows does not go on with a numeral. -/
def NoDigit (rest : List Char) : Prop := ∀ c ∈ rest.head?, c.isDigit = false

theorem isDigit_of_isSpace {c : Char} (h : isSpace c = true) : c.isDigit = false := by
  simp only [isSpace, Bool.or_eq_true, decide_eq_true_eq] at h
  rcases h with ((rfl | rfl) | rfl) | rfl <;> decide

theorem noDigit_append {w : List Char} (h : Blank w) {c : Char} (hc : c.isDigit = false)
    (cs : List Char) : NoDigit (w ++ c :: cs) := by
  intro d hd
  cases w with
  | nil =>
    obtain rfl : c = d := Option.some.inj hd
    exact hc
  | cons b w =>
    obtain rfl : b = d := Option.some.inj hd
    exact isDigit_of_isSpace (h b List.mem_cons_self)

/-! ### Strings -/

theorem readUnit_append {n : Nat} {ds : List Char} (h : IsUnit n ds) (rest : List Char) :
    readUnit (ds ++ rest) = some (n, rest) := by
  obtain ⟨ha, hb, hc, hd⟩ := h
  simp [readUnit, ha, hb, hc, hd]

theorem readEscape_letter {e c : Char} (h : (e, c) ∈ letterEscapes) (rest : List Char) :
    readEscape (e :: rest) = some (c, rest) := by
  simp only [letterEscapes, List.mem_cons, Prod.mk.injEq, List.not_mem_nil, or_false] at h
  rcases h with ⟨rfl, rfl⟩ | ⟨rfl, rfl⟩ | ⟨rfl, rfl⟩ | ⟨rfl, rfl⟩ | ⟨rfl, rfl⟩ | ⟨rfl, rfl⟩ |
    ⟨rfl, rfl⟩ | ⟨rfl, rfl⟩ <;> rfl

theorem readEscape_unit {n : Nat} {ds : List Char} (h : IsUnit n ds)
    (hplane : n < 0xd800 ∨ 0xdfff < n) (rest : List Char) :
    readEscape ('u' :: ds ++ rest) = some (Char.ofNat n, rest) := by
  simp [readEscape, readUnit_append h, hplane]

theorem readEscape_pair {n m : Nat} {ds es : List Char} (hn : IsUnit n ds)
    (hhigh : 0xd800 ≤ n ∧ n < 0xdc00) (hm : IsUnit m es) (hlow : 0xdc00 ≤ m ∧ m ≤ 0xdfff)
    (rest : List Char) : readEscape ('u' :: ds ++ '\\' :: 'u' :: es ++ rest) =
      some (Char.ofNat (0x10000 + 1024 * (n - 0xd800) + (m - 0xdc00)), rest) := by
  have hplane : ¬(n < 0xd800 ∨ 0xdfff < n) := by omega
  simp [readEscape, readUnit_append hn, readUnit_append hm, hplane, hhigh.2, hlow]

theorem readString_escape {fuel : Nat} {r r' : List Char} {c : Char}
    (h : readEscape r = some (c, r')) :
    readString (fuel + 1) ('\\' :: r) = (readString fuel r').map fun x => (c :: x.1, x.2) := by
  simp only [readString, h, Option.bind_eq_bind, Option.bind_some]
  cases readString fuel r' <;> rfl

/-- Characters are read back from any spelling of them. -/
theorem readString_spelled {s t : List Char} (h : Spelled s t) {fuel : Nat}
    (hfuel : t.length < fuel) (rest : List Char) :
    readString fuel (t ++ '"' :: rest) = some (s, rest) := by
  obtain ⟨fuel, rfl⟩ : ∃ m, fuel = m + 1 := ⟨fuel - 1, by omega⟩
  induction h generalizing fuel with
  | nil => rfl
  | @plain c s t hc hquote hslash h ih =>
    rw [List.length_cons] at hfuel
    obtain ⟨fuel, rfl⟩ : ∃ m, fuel = m + 1 := ⟨fuel - 1, by omega⟩
    have hlt : ¬c.toNat < 32 := by omega
    rw [List.cons_append, readString]
    · simp [hlt, ih fuel (by omega)]
    · exact hquote
    · exact hslash
  | @letter e c s t he h ih =>
    rw [List.length_cons, List.length_cons] at hfuel
    obtain ⟨fuel, rfl⟩ : ∃ m, fuel = m + 1 := ⟨fuel - 1, by omega⟩
    rw [List.cons_append, List.cons_append, readString_escape (readEscape_letter he _),
      ih fuel (by omega)]
    rfl
  | @unit n ds s t hn hplane h ih =>
    simp only [List.length_cons, List.length_append] at hfuel
    obtain ⟨fuel, rfl⟩ : ∃ m, fuel = m + 1 := ⟨fuel - 1, by omega⟩
    rw [List.append_assoc, List.cons_append, readString_escape (readEscape_unit hn hplane _),
      ih fuel (by omega)]
    rfl
  | @pair n m ds es s t hn hhigh hm hlow h ih =>
    simp only [List.length_cons, List.length_append] at hfuel
    obtain ⟨fuel, rfl⟩ : ∃ m, fuel = m + 1 := ⟨fuel - 1, by omega⟩
    have hread := readEscape_pair hn hhigh hm hlow (t ++ '"' :: rest)
    rw [List.append_assoc, List.cons_append, List.cons_append, readString_escape hread,
      ih fuel (by omega)]
    rfl

/-! ### Numbers -/

theorem readNumber_numeral {n : Nat} {ds : List Char} (h : Numeral n ds) {rest : List Char}
    (hrest : NoDigit rest) : readNumber (ds ++ rest) = some (n, rest) := by
  have htake : (ds ++ rest).takeWhile Char.isDigit = ds := by
    rw [List.takeWhile_append_of_pos h.digits]
    cases rest with
    | nil => simp
    | cons c rest => simp [hrest c rfl]
  have hzero : ¬(ds.head? = some '0' ∧ 1 < ds.length) := by
    rintro ⟨hhead, hlen⟩
    rw [h.lead hhead] at hlen
    exact absurd hlen (by decide)
  have hempty : ds.isEmpty = false := by simpa using h.ne_nil
  have hvalue : ds.foldl (fun n c => 10 * n + (c.toNat - 48)) 0 = n := by
    rw [← h.value, Nat.ofDigitChars_eq_foldl]
    rfl
  simp only [readNumber, htake, hvalue, List.drop_left]
  rw [if_neg]
  simpa [hempty] using hzero

/-! ### Values -/

theorem readValue_append {w : List Char} (h : Blank w) (fuel : Nat) (cs : List Char) :
    readValue fuel (w ++ cs) = readValue fuel cs := by
  cases fuel with
  | zero => rfl
  | succ fuel => rw [readValue, readValue, skipSpace_append h]

theorem readValue_digit {d : Char} (hd : d.isDigit = true) (fuel : Nat) (r : List Char) :
    readValue (fuel + 1) (d :: r) = (readNumber (d :: r)).map fun x => (.number x.1, x.2) := by
  have hspace : isSpace d = false := by
    by_contra hspace
    rw [isDigit_of_isSpace (by simpa using hspace)] at hd
    cases hd
  rw [readValue, skipSpace_cons hspace]
  split
  -- no other value starts with a digit
  iterate 6
    next h =>
      obtain ⟨rfl, -⟩ := List.cons.inj h
      exact absurd hd (by decide)
  cases readNumber (d :: r) <;> rfl

/-- A value starts with a character that is no blank and does not close a list of items. -/
theorem Written.exists_cons {j : Json} {t : List Char} (h : Written j t) :
    ∃ c r, t = c :: r ∧ isSpace c = false ∧ c ≠ ']' := by
  cases h with
  | number h =>
    obtain ⟨d, ds, rfl⟩ := List.exists_cons_of_ne_nil h.ne_nil
    have hd := h.digits d List.mem_cons_self
    refine ⟨d, ds, rfl, ?_, ?_⟩
    · by_contra hspace
      rw [isDigit_of_isSpace (by simpa using hspace)] at hd
      cases hd
    · rintro rfl
      exact absurd hd (by decide)
  | null | yes | no | string | noItems | array | noFields | object =>
    exact ⟨_, _, rfl, by decide, by decide⟩

theorem WrittenItems.exists_skipSpace {js : List Json} {t : List Char} (h : WrittenItems js t)
    (rest : List Char) : ∃ c r, skipSpace (t ++ rest) = c :: r ∧ c ≠ ']' := by
  have hvalue {j : Json} {v t : List Char} (hv : Blank v) (ht : Written j t) (rest : List Char) :
      ∃ c r, skipSpace (v ++ t ++ rest) = c :: r ∧ c ≠ ']' := by
    obtain ⟨c, r, rfl, hspace, hne⟩ := ht.exists_cons
    exact ⟨c, r ++ rest, by rw [List.append_assoc, skipSpace_append hv, List.cons_append,
      skipSpace_cons hspace], hne⟩
  cases h with
  | one hv ht hw =>
    rw [List.append_assoc]
    exact hvalue hv ht _
  | more hv ht hw hmore =>
    rw [List.append_assoc, List.append_assoc (_ ++ _)]
    exact hvalue hv ht _

theorem readValue_quote {r s t : List Char} (h : readString (r.length + 1) r = some (s, t))
    (fuel : Nat) : readValue (fuel + 1) ('"' :: r) = some (.string (String.ofList s), t) := by
  rw [readValue, skipSpace_cons (by decide)]
  simp [h]

theorem readValue_bracket {fuel : Nat} {r t : List Char} {js : List Json}
    (hne : ∃ c s, skipSpace r = c :: s ∧ c ≠ ']') (h : readItems fuel r = some (js, t)) :
    readValue (fuel + 1) ('[' :: r) = some (.array js, t) := by
  obtain ⟨c, s, hr, hc⟩ := hne
  rw [readValue, skipSpace_cons (by decide)]
  simp [hr, hc, h]

theorem readValue_brace {fuel : Nat} {r t : List Char} {fs : List (String × Json)}
    (hne : ∃ s, skipSpace r = '"' :: s) (h : readFields fuel r = some (fs, t)) :
    readValue (fuel + 1) ('\x7b' :: r) = some (.object fs, t) := by
  obtain ⟨s, hr⟩ := hne
  rw [readValue, skipSpace_cons (by decide)]
  simp [hr, h]

theorem readItems_last {fuel : Nat} {cs w rest : List Char} {j : Json} (hw : Blank w)
    (h : readValue fuel cs = some (j, w ++ ']' :: rest)) :
    readItems (fuel + 1) cs = some ([j], rest) := by
  have hskip : skipSpace (w ++ ']' :: rest) = ']' :: rest := by
    rw [skipSpace_append hw, skipSpace_cons (by decide)]
  simp [readItems, h, hskip]

theorem readItems_comma {fuel : Nat} {cs w u rest : List Char} {j : Json} {js : List Json}
    (hw : Blank w) (h : readValue fuel cs = some (j, w ++ ',' :: u))
    (hmore : readItems fuel u = some (js, rest)) :
    readItems (fuel + 1) cs = some (j :: js, rest) := by
  have hskip : skipSpace (w ++ ',' :: u) = ',' :: u := by
    rw [skipSpace_append hw, skipSpace_cons (by decide)]
  simp [readItems, h, hskip, hmore]

section Fields

variable {fuel : Nat} {u s x cs w rest : List Char} {k : String} {j : Json}

/-- The name of a field, apart from what follows the colon. -/
theorem readString_name (hk : Spelled k.toList s) (hx : Blank x) (cs : List Char) :
    readString ((s ++ '"' :: (x ++ ':' :: cs)).length + 1) (s ++ '"' :: (x ++ ':' :: cs)) =
        some (k.toList, x ++ ':' :: cs) ∧ skipSpace (x ++ ':' :: cs) = ':' :: cs := by
  refine ⟨readString_spelled hk ?_ _, ?_⟩
  · rw [List.length_append]
    omega
  · rw [skipSpace_append hx, skipSpace_cons (by decide)]

theorem readFields_last (hu : Blank u) (hk : Spelled k.toList s) (hx : Blank x) (hw : Blank w)
    (h : readValue fuel cs = some (j, w ++ '\x7d' :: rest)) :
    readFields (fuel + 1) (u ++ '"' :: (s ++ '"' :: (x ++ ':' :: cs))) = some ([(k, j)], rest) := by
  have hskip : skipSpace (w ++ '\x7d' :: rest) = '\x7d' :: rest := by
    rw [skipSpace_append hw, skipSpace_cons (by decide)]
  obtain ⟨hname, hcolon⟩ := readString_name hk hx cs
  rw [readFields, skipSpace_append hu, skipSpace_cons (by decide)]
  simp only [hname, Option.bind_eq_bind, Option.bind_some, hcolon, h, hskip, Option.pure_def,
    String.ofList_toList]

theorem readFields_comma {y : List Char} {fs : List (String × Json)} (hu : Blank u)
    (hk : Spelled k.toList s) (hx : Blank x) (hw : Blank w)
    (h : readValue fuel cs = some (j, w ++ ',' :: y))
    (hmore : readFields fuel y = some (fs, rest)) :
    readFields (fuel + 1) (u ++ '"' :: (s ++ '"' :: (x ++ ':' :: cs))) =
      some ((k, j) :: fs, rest) := by
  have hskip : skipSpace (w ++ ',' :: y) = ',' :: y := by
    rw [skipSpace_append hw, skipSpace_cons (by decide)]
  obtain ⟨hname, hcolon⟩ := readString_name hk hx cs
  rw [readFields, skipSpace_append hu, skipSpace_cons (by decide)]
  simp only [hname, Option.bind_eq_bind, Option.bind_some, hcolon, h, hskip, hmore, Option.pure_def,
    String.ofList_toList]

end Fields

theorem WrittenFields.exists_skipSpace {fs : List (String × Json)} {t : List Char}
    (h : WrittenFields fs t) (rest : List Char) : ∃ r, skipSpace (t ++ rest) = '"' :: r := by
  have hname {u : List Char} (hu : Blank u) (r : List Char) :
      ∃ s, skipSpace (u ++ '"' :: r) = '"' :: s :=
    ⟨r, by rw [skipSpace_append hu, skipSpace_cons (by decide)]⟩
  cases h with
  | one hu =>
    simp only [List.append_assoc, List.cons_append]
    exact hname hu _
  | more hu =>
    simp only [List.append_assoc, List.cons_append]
    exact hname hu _

mutual

/-- A value is read back from any text of it, if what follows does not go on with it. -/
theorem readValue_written {j : Json} {t : List Char} (h : Written j t) {fuel : Nat}
    (hfuel : 2 * t.length ≤ fuel) {rest : List Char} (hrest : NoDigit rest) :
    readValue fuel (t ++ rest) = some (j, rest) := by
  obtain ⟨fuel, rfl⟩ : ∃ m, fuel = m + 1 := by
    obtain ⟨c, r, rfl, -⟩ := h.exists_cons
    rw [List.length_cons] at hfuel
    exact ⟨fuel - 1, by omega⟩
  cases h with
  | null => rfl
  | yes => rfl
  | no => rfl
  | number h =>
    obtain ⟨d, ds, rfl⟩ := List.exists_cons_of_ne_nil h.ne_nil
    rw [List.cons_append, readValue_digit (h.digits d List.mem_cons_self), ← List.cons_append,
      readNumber_numeral h hrest]
    rfl
  | @string s t h =>
    have hread : readString ((t ++ '"' :: rest).length + 1) (t ++ '"' :: rest) =
        some (s.toList, rest) := by
      refine readString_spelled h ?_ rest
      rw [List.length_append]
      omega
    simp only [List.cons_append, List.append_assoc, List.nil_append]
    rw [readValue_quote hread, String.ofList_toList]
  | @noItems w h =>
    have hskip : skipSpace (w ++ ']' :: rest) = ']' :: rest := by
      rw [skipSpace_append h, skipSpace_cons (by decide)]
    simp only [List.cons_append, List.append_assoc, List.nil_append]
    rw [readValue, skipSpace_cons (by decide)]
    simp [hskip]
  | @array js t h =>
    simp only [List.cons_append, List.append_assoc, List.nil_append, List.length_cons,
      List.length_append, List.length_nil] at hfuel ⊢
    exact readValue_bracket (h.exists_skipSpace _) (readItems_written h (by omega) rest)
  | @noFields w h =>
    have hskip : skipSpace (w ++ '\x7d' :: rest) = '\x7d' :: rest := by
      rw [skipSpace_append h, skipSpace_cons (by decide)]
    simp only [List.cons_append, List.append_assoc, List.nil_append]
    rw [readValue, skipSpace_cons (by decide)]
    simp [hskip]
  | @object fs t h =>
    simp only [List.cons_append, List.append_assoc, List.nil_append, List.length_cons,
      List.length_append, List.length_nil] at hfuel ⊢
    exact readValue_brace (h.exists_skipSpace _) (readFields_written h (by omega) rest)

theorem readItems_written {js : List Json} {t : List Char} (h : WrittenItems js t) {fuel : Nat}
    (hfuel : 2 * t.length + 1 ≤ fuel) (rest : List Char) :
    readItems fuel (t ++ ']' :: rest) = some (js, rest) := by
  obtain ⟨fuel, rfl⟩ : ∃ m, fuel = m + 1 := ⟨fuel - 1, by omega⟩
  cases h with
  | @one j v t w hv ht hw =>
    simp only [List.length_append] at hfuel
    refine readItems_last hw ?_
    rw [List.append_assoc, List.append_assoc, readValue_append hv]
    exact readValue_written ht (by omega) (noDigit_append hw (by decide) _)
  | @more j js v t w u hv ht hw hmore =>
    simp only [List.length_append, List.length_cons] at hfuel
    refine readItems_comma (u := u ++ ']' :: rest) hw ?_ (readItems_written hmore (by omega) rest)
    simp only [List.append_assoc, List.cons_append]
    rw [readValue_append hv]
    exact readValue_written ht (by omega) (noDigit_append hw (by decide) _)

theorem readFields_written {fs : List (String × Json)} {t : List Char} (h : WrittenFields fs t)
    {fuel : Nat} (hfuel : 2 * t.length + 1 ≤ fuel) (rest : List Char) :
    readFields fuel (t ++ '\x7d' :: rest) = some (fs, rest) := by
  obtain ⟨fuel, rfl⟩ : ∃ m, fuel = m + 1 := ⟨fuel - 1, by omega⟩
  cases h with
  | @one k j u s x v t w hu hk hx hv ht hw =>
    simp only [List.length_append, List.length_cons, List.append_assoc, List.cons_append]
      at hfuel ⊢
    refine readFields_last hu hk hx hw ?_
    rw [readValue_append hv]
    exact readValue_written ht (by omega) (noDigit_append hw (by decide) _)
  | @more k j fs u s x v t w y hu hk hx hv ht hw hmore =>
    simp only [List.length_append, List.length_cons, List.append_assoc, List.cons_append]
      at hfuel ⊢
    refine readFields_comma hu hk hx hw ?_ (readFields_written hmore (by omega) rest)
    rw [readValue_append hv]
    exact readValue_written ht (by omega) (noDigit_append hw (by decide) _)

end

/-! ### Texts as a whole -/

/-- The reader finds the value of every text that has one. -/
theorem read?_document {text : String} {j : Json} (h : Document text j) : read? text = some j := by
  obtain ⟨v, t, w, htext, hv, ht, hw⟩ := h
  have hrest : NoDigit w := by
    intro c hc
    exact isDigit_of_isSpace (hw c (List.mem_of_mem_head? hc))
  have hread : readValue (2 * (v ++ t ++ w).length + 2) (v ++ t ++ w) = some (j, w) := by
    rw [List.append_assoc, readValue_append hv]
    refine readValue_written ht ?_ hrest
    simp only [List.length_append]
    omega
  have hskip : skipSpace w = [] := by
    rw [← List.append_nil w, skipSpace_append hw]
    rfl
  simp only [read?, htext, hread, Option.bind_eq_bind, Option.bind_some, hskip, List.isEmpty_nil,
    if_true, Option.pure_def]

/-- No text has two values. -/
theorem Document.unique {text : String} {j j' : Json} (h : Document text j)
    (h' : Document text j') : j = j' :=
  Option.some.inj ((read?_document h).symm.trans (read?_document h'))

end Outline.Report.Json
