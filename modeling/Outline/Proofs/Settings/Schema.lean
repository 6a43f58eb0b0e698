import Mathlib.Data.List.Forall2
import Outline.Proofs.Settings.Validation
import Outline.Proofs.Toml.Tables

/-! Which documents hold settings. A document holds nothing but a table `scan`, and that holds
nothing but the fields of settings, each with a value of its kind; a field that is not there has its
default. An array is taken under `scan` as well. Its items are read as fields by their places, and
items beyond the last field are not looked at. -/
namespace Outline.Settings

open Toml (Flaw Form Item Key Span Table bind_eq_ok_iff bind_pure_eq_ok_iff)

/-! ### Values -/

def IsString (item : Item) (text : String) : Prop := ∃ span, item = .scalar span (.string text)

def IsBoolean (item : Item) (b : Bool) : Prop := ∃ span, item = .scalar span (.boolean b)

def IsStrings (item : Item) (texts : List String) : Prop :=
  ∃ span items, item = .array span items ∧ List.Forall₂ IsString items texts

theorem readString_eq_ok_iff {item : Item} {text : String} :
    readString item = .ok text ↔ IsString item text := by
  unfold readString IsString
  split <;> simp_all

theorem readBoolean_eq_ok_iff {item : Item} {b : Bool} :
    readBoolean item = .ok b ↔ IsBoolean item b := by
  unfold readBoolean IsBoolean
  split
  · simp
  · next hother => simpa using fun span => hother span b

theorem mapM_readString_eq_ok_iff {items : List Item} {texts : List String} :
    items.mapM readString = .ok texts ↔ List.Forall₂ IsString items texts := by
  induction items generalizing texts with
  | nil => cases texts <;> simp [pure, Except.pure]
  | cons item items ih =>
    rw [List.mapM_cons, bind_eq_ok_iff, List.forall₂_cons_left_iff]
    refine exists_congr fun text => ?_
    rw [readString_eq_ok_iff, bind_eq_ok_iff, ← exists_and_left]
    refine exists_congr fun rest => ?_
    rw [ih]
    simp [pure, Except.pure, eq_comm]

/-- The tables under headers are not an array of texts, as there is one at least. -/
theorem readStrings_eq_ok_iff {item : Item} (h : item.Sound) {texts : List String} :
    readStrings item = .ok texts ↔ IsStrings item texts := by
  unfold readStrings IsStrings
  split
  · simp [mapM_readString_eq_ok_iff]
  · next items =>
    obtain ⟨form, span, t, rest, rfl⟩ := h.exists_table_cons
    rw [mapM_readString_eq_ok_iff, List.forall₂_cons_left_iff]
    simp [IsString]
  · next hother _ => simpa using fun span items heq => absurd heq (hother span items)

/-! ### Fields -/

/-- A field that is given has the value that is given, and another keeps the one it has. -/
def Given {α : Type} (holds : Item → α → Prop) (item? : Option Item) (old new : α) : Prop :=
  match item? with
  | none => new = old
  | some item => holds item new

theorem given_none_iff {α : Type} {holds : Item → α → Prop} {item? : Option Item} {old new : α}
    (h : item? = none) : Given holds item? old new ↔ new = old := by
  rw [h, Given]

/-- The fields of a table, and no others, are put into the settings. -/
structure Sets (t : Table) (old new : Settings) : Prop where
  known : ∀ e ∈ t, e.1.name ∈ ["extensions", "exclude", "follow_links"]
  extensions : Given IsStrings (t.get? "extensions") old.extensions new.extensions
  exclude : Given IsString (t.get? "exclude") old.exclude new.exclude
  followLinks : Given IsBoolean (t.get? "follow_links") old.followLinks new.followLinks

/-- Puts the field of one entry of a table into the settings. -/
def setField (s : Settings) (e : Key × Item) : Except Flaw Settings :=
  match fields.lookup e.1.name with
  | some set => set s e.2
  | none => .error ⟨.unknownField e.1.name (fields.map (·.1)), e.1.span⟩

theorem ofTable_eq (t : Table) : ofTable t = t.foldlM setField {} := rfl

theorem lookup_fields_eq_none {name : String}
    (h : name ∉ ["extensions", "exclude", "follow_links"]) : fields.lookup name = none := by
  simp only [List.mem_cons, List.not_mem_nil, or_false, not_or] at h
  simp only [fields, List.lookup_cons, List.lookup_nil, beq_eq_false_iff_ne.mpr h.1,
    beq_eq_false_iff_ne.mpr h.2.1, beq_eq_false_iff_ne.mpr h.2.2]

theorem setExtensions_eq_ok_iff {s s' : Settings} {item : Item} (h : item.Sound) :
    setExtensions s item = .ok s' ↔
      ∃ texts, IsStrings item texts ∧ s' = { s with extensions := texts } := by
  rw [setExtensions, bind_pure_eq_ok_iff]
  simp only [readStrings_eq_ok_iff h]

theorem setExclude_eq_ok_iff {s s' : Settings} {item : Item} :
    setExclude s item = .ok s' ↔ ∃ text, IsString item text ∧ s' = { s with exclude := text } := by
  rw [setExclude, bind_pure_eq_ok_iff]
  simp only [readString_eq_ok_iff]

theorem setFollowLinks_eq_ok_iff {s s' : Settings} {item : Item} :
    setFollowLinks s item = .ok s' ↔ ∃ b, IsBoolean item b ∧ s' = { s with followLinks := b } := by
  rw [setFollowLinks, bind_pure_eq_ok_iff]
  simp only [readBoolean_eq_ok_iff]

/-- A table is read entry by entry: no key stands there twice, so what one entry sets is not set
again. -/
theorem sets_cons_iff {e : Key × Item} {t : Table} {old new : Settings} (hitem : e.2.Sound)
    (hnew : t.get? e.1.name = none) :
    Sets (e :: t) old new ↔ ∃ mid, setField old e = .ok mid ∧ Sets t mid new := by
  obtain ⟨⟨name, span⟩, item⟩ := e
  by_cases hname : name ∈ ["extensions", "exclude", "follow_links"]
  · have hknown : (∀ e ∈ (⟨name, span⟩, item) :: t, e.1.name ∈ ["extensions", "exclude",
        "follow_links"]) ↔ ∀ e ∈ t, e.1.name ∈ ["extensions", "exclude", "follow_links"] := by
      rw [List.forall_mem_cons]
      exact and_iff_right hname
    simp only [List.mem_cons, List.not_mem_nil, or_false] at hname
    rcases hname with rfl | rfl | rfl
    · constructor
      · intro h
        exact ⟨{ old with extensions := new.extensions },
          (setExtensions_eq_ok_iff hitem).mpr ⟨_, h.extensions, rfl⟩,
          hknown.mp h.known, given_none_iff hnew |>.mpr rfl, h.exclude, h.followLinks⟩
      · rintro ⟨mid, hmid, h⟩
        obtain ⟨texts, htexts, rfl⟩ := (setExtensions_eq_ok_iff hitem).mp hmid
        obtain rfl := (given_none_iff hnew).mp h.extensions
        exact ⟨hknown.mpr h.known, htexts, h.exclude, h.followLinks⟩
    · constructor
      · intro h
        exact ⟨{ old with exclude := new.exclude },
          setExclude_eq_ok_iff.mpr ⟨_, h.exclude, rfl⟩,
          hknown.mp h.known, h.extensions, given_none_iff hnew |>.mpr rfl, h.followLinks⟩
      · rintro ⟨mid, hmid, h⟩
        obtain ⟨text, htext, rfl⟩ := setExclude_eq_ok_iff.mp hmid
        obtain rfl := (given_none_iff hnew).mp h.exclude
        exact ⟨hknown.mpr h.known, h.extensions, htext, h.followLinks⟩
    · constructor
      · intro h
        exact ⟨{ old with followLinks := new.followLinks },
          setFollowLinks_eq_ok_iff.mpr ⟨_, h.followLinks, rfl⟩,
          hknown.mp h.known, h.extensions, h.exclude, given_none_iff hnew |>.mpr rfl⟩
      · rintro ⟨mid, hmid, h⟩
        obtain ⟨b, hb, rfl⟩ := setFollowLinks_eq_ok_iff.mp hmid
        obtain rfl := (given_none_iff hnew).mp h.followLinks
        exact ⟨hknown.mpr h.known, h.extensions, h.exclude, hb⟩
  · have hset : ∀ mid, setField old (⟨name, span⟩, item) ≠ .ok mid := by
      simp [setField, lookup_fields_eq_none hname]
    refine ⟨fun h => absurd (h.known _ List.mem_cons_self) hname, ?_⟩
    rintro ⟨mid, hmid, -⟩
    exact absurd hmid (hset mid)

theorem foldlM_setField_eq_ok_iff {t : Table} (ht : t.Sound) {old new : Settings} :
    t.foldlM setField old = .ok new ↔ Sets t old new := by
  induction t generalizing old with
  | nil =>
    refine ⟨fun h => ?_, fun h => ?_⟩
    · cases h
      exact ⟨by simp, rfl, rfl, rfl⟩
    · obtain ⟨extensions, exclude, followLinks⟩ := new
      obtain ⟨-, rfl, rfl, rfl⟩ := h
      rfl
  | cons e t ih =>
    obtain ⟨hnew, hrest⟩ := ht.of_cons
    rw [sets_cons_iff (ht.items e List.mem_cons_self) hnew, List.foldlM_cons, bind_eq_ok_iff]
    simp only [ih hrest]

theorem ofTable_eq_ok_iff {t : Table} (ht : t.Sound) {s : Settings} :
    ofTable t = .ok s ↔ Sets t {} s := by
  rw [ofTable_eq]
  exact foldlM_setField_eq_ok_iff ht

/-- The table of which an array is the short form: its items under the names of the fields, as far
as there are both. -/
def placed (items : List Item) : Table :=
  (["extensions", "exclude", "follow_links"].zip items).map fun e => (⟨e.1, default⟩, e.2)

theorem ofList_eq (items : List Item) : ofList items = ofTable (placed items) := by
  match items with
  | [] => rfl
  | [_] => rfl
  | [_, _] => rfl
  | _ :: _ :: _ :: _ => rfl

theorem sound_placed {items : List Item} (h : ∀ i ∈ items, i.Sound) : (placed items).Sound := by
  constructor
  · have hnames : (placed items).map (·.1.name) =
        ["extensions", "exclude", "follow_links"].take items.length := by
      match items with
      | [] => rfl
      | [_] => rfl
      | [_, _] => rfl
      | _ :: _ :: _ :: _ => simp [placed]
    rw [hnames]
    exact (List.take_sublist _ _).nodup (by decide)
  · intro e he
    obtain ⟨d, hd, rfl⟩ := List.mem_map.mp he
    exact h _ (List.of_mem_zip hd).2

theorem ofList_eq_ok_iff {items : List Item} (h : ∀ i ∈ items, i.Sound) {s : Settings} :
    ofList items = .ok s ↔ Sets (placed items) {} s := by
  rw [ofList_eq, ofTable_eq_ok_iff (sound_placed h)]

/-- Tables under headers are read by place like an array. The first is no value of a field. -/
theorem ofList_tables_ne_ok {items : List Item} (h : (Item.tables items).Sound) (s : Settings) :
    ofList items ≠ .ok s := by
  obtain ⟨form, span, t, rest, rfl⟩ := h.exists_table_cons
  intro hok
  have hsets := (ofList_eq_ok_iff h.of_tables.1).mp hok
  obtain ⟨_, _, heq, -⟩ : IsStrings (.table form span t) s.extensions := hsets.extensions
  cases heq

/-! ### Documents -/

/-- The document of some settings: it has no key but `scan`, and under that a table with no keys but
the fields that differ from the defaults. -/
def Schema (t : Table) (s : Settings) : Prop :=
  (∀ e ∈ t, e.1.name = "scan") ∧
    match t.get? "scan" with
    | none => s = {}
    | some item => ∃ form span entries, item = .table form span entries ∧ Sets entries {} s

/-- A document with an array under `scan`, of which the items are the fields by their places. -/
def Placed (t : Table) (s : Settings) : Prop :=
  (∀ e ∈ t, e.1.name = "scan") ∧
    ∃ span items, t.get? "scan" = some (.array span items) ∧ Sets (placed items) {} s

theorem ofItem_eq_ok_iff {item : Item} (h : item.Sound) {s : Settings} : ofItem item = .ok s ↔
    (∃ form span entries, item = .table form span entries ∧ Sets entries {} s) ∨
      ∃ span items, item = .array span items ∧ Sets (placed items) {} s := by
  cases h with
  | scalar span value =>
    have hne : ofItem (.scalar span value) ≠ .ok s := by cases value <;> simp [ofItem]
    simp [hne]
  | array span hitems => simp [ofItem, ofList_eq_ok_iff hitems]
  | table form span keys hitems => simp [ofItem, ofTable_eq_ok_iff ⟨keys, hitems⟩]
  | tables ne hitems isTable =>
    have hne := ofList_tables_ne_ok (.tables ne hitems isTable) s
    simp [ofItem, hne]

theorem name_eq_of_ofDocument {t : Table} {s : Settings} (h : ofDocument t = .ok s) :
    ∀ e ∈ t, e.1.name = "scan" := by
  unfold ofDocument at h
  generalize ({} : Settings) = start at h
  induction t generalizing start with
  | nil => simp
  | cons e t ih =>
    rw [List.foldlM_cons, bind_eq_ok_iff] at h
    obtain ⟨mid, hmid, h⟩ := h
    refine List.forall_mem_cons.mpr ⟨?_, ih mid h⟩
    by_contra hname
    simp [hname] at hmid

theorem eq_nil_or_singleton {t : Table} (ht : t.Sound) (h : ∀ e ∈ t, e.1.name = "scan") :
    t = [] ∨ ∃ e, t = [e] := by
  match t with
  | [] => exact .inl rfl
  | [e] => exact .inr ⟨e, rfl⟩
  | e :: d :: rest =>
    have hnew := (List.nodup_cons.mp ht.keys).1
    have hmem : e.1.name ∈ (d :: rest).map (·.1.name) := by
      rw [h e (by simp), List.map_cons, h d (by simp)]
      exact List.mem_cons_self
    exact absurd hmem hnew

theorem ofDocument_singleton {e : Key × Item} (h : e.1.name = "scan") :
    ofDocument [e] = ofItem e.2 := by
  simp [ofDocument, h]

theorem ofDocument_eq_ok_iff {t : Table} (ht : t.Sound) {s : Settings} :
    ofDocument t = .ok s ↔ Schema t s ∨ Placed t s := by
  by_cases hnames : ∀ e ∈ t, e.1.name = "scan"
  · rcases eq_nil_or_singleton ht hnames with rfl | ⟨e, rfl⟩
    · have hnil : ofDocument [] = .ok {} := rfl
      simp [hnil, Schema, Placed, Table.get?, eq_comm]
    · have hname : e.1.name = "scan" := hnames e List.mem_cons_self
      have hget : Table.get? [e] "scan" = some e.2 := by simp [Table.get?, hname]
      rw [ofDocument_singleton hname, ofItem_eq_ok_iff (ht.items e List.mem_cons_self)]
      simp [Schema, Placed, hget, hname]
  · refine ⟨fun h => absurd (name_eq_of_ofDocument h) hnames, ?_⟩
    rintro (h | h)
    · exact absurd h.1 hnames
    · exact absurd h.1 hnames

/-- The settings of a text are those its document has, if it has any. -/
theorem read_eq_ok_iff {text : String} {s : Settings} : (Toml.parse text >>= ofDocument) = .ok s ↔
    ∃ t, Toml.parse text = .ok t ∧ (Schema t s ∨ Placed t s) := by
  rw [bind_eq_ok_iff]
  refine exists_congr fun t => and_congr_right fun ht => ?_
  exact ofDocument_eq_ok_iff (Toml.sound_of_parse ht)

theorem exists_malformed_iff {text : String} {path : Option Path} :
    (∃ flaw, parse text path = .error (.malformed path text flaw)) ↔
      ∀ s, (Toml.parse text >>= ofDocument) ≠ .ok s := by
  unfold parse
  cases Toml.parse text >>= ofDocument with
  | error flaw => simp
  | ok s =>
    dsimp only
    split <;> simp

theorem parse_eq_rejected_iff {text : String} {path : Option Path} {invalid : Invalid} :
    parse text path = .error (.rejected path invalid) ↔
      ∃ s, (Toml.parse text >>= ofDocument) = .ok s ∧ s.issues ≠ [] ∧ invalid = ⟨s.issues⟩ := by
  unfold parse
  cases Toml.parse text >>= ofDocument with
  | error flaw => simp
  | ok s =>
    simp only [validate_configuration]
    by_cases hissues : s.issues = []
    · simp [validate, hissues]
    · have hinvalid : s.validate = .error ⟨s.issues⟩ := by simp [validate, hissues]
      simp only [hinvalid, Except.error.injEq, LoadError.rejected.injEq, true_and, Except.ok.injEq,
        exists_eq_left', ne_eq, hissues, not_false_eq_true]
      exact eq_comm

/-- A text is read as settings if it is a document of them and they are valid. It is malformed if it
is no such document, and else rejected for all that is wrong with the settings. -/
theorem parse_follows_schema (text : String) (path : Option Path) :
    (∀ s, parse text path = .ok s ↔
      ∃ t, Toml.parse text = .ok t ∧ (Schema t s ∨ Placed t s) ∧ s.issues = []) ∧
    ((∃ flaw, parse text path = .error (.malformed path text flaw)) ↔
      ∀ t, Toml.parse text = .ok t → ∀ s, ¬ (Schema t s ∨ Placed t s)) ∧
    (∀ invalid, parse text path = .error (.rejected path invalid) ↔
      ∃ t s, Toml.parse text = .ok t ∧ (Schema t s ∨ Placed t s) ∧ s.issues ≠ [] ∧
        invalid = ⟨s.issues⟩) := by
  refine ⟨fun s => ?_, ?_, fun invalid => ?_⟩
  · rw [parse_eq_ok_iff, read_eq_ok_iff]
    simp only [← exists_and_right, and_assoc]
  · rw [exists_malformed_iff]
    simp only [ne_eq, read_eq_ok_iff, not_exists, not_and]
    exact ⟨fun h t ht s => h s t ht, fun h s t ht => h t ht s⟩
  · rw [parse_eq_rejected_iff, exists_comm]
    simp only [read_eq_ok_iff, ← exists_and_right, and_assoc]

/-- An array under `scan` is read although the document has no table there. -/
theorem parse_array : parse "scan = []" = .ok {} ∧
    ∀ t s, Toml.parse "scan = []" = .ok t → ¬ Schema t s := by
  constructor
  · have hread : (Toml.parse "scan = []" >>= ofDocument).toOption = some {} := by decide +kernel
    refine parse_eq_ok_iff.mpr ⟨?_, issues_default⟩
    cases h : Toml.parse "scan = []" >>= ofDocument with
    | error flaw =>
      rw [h] at hread
      cases hread
    | ok s =>
      rw [h] at hread
      exact congrArg Except.ok (Option.some.inj hread)
  · rintro t s ht ⟨-, h⟩
    have hkind : (Toml.parse "scan = []").toOption.map (fun t => (t.get? "scan").map Item.kind) =
        some (some "array") := by
      decide +kernel
    rw [ht] at hkind
    obtain ⟨item, hitem, hkind⟩ := Option.map_eq_some_iff.mp (Option.some.inj hkind)
    rw [hitem] at h
    obtain ⟨form, span, entries, rfl, -⟩ := h
    cases form <;> simp [Item.kind, Form.isInBraces] at hkind

end Outline.Settings
