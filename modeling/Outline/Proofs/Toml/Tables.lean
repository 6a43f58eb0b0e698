import Mathlib.Data.List.Nodup
import Outline.Toml.Document

/-! The tables of a document. However a table is put together, from pairs, dotted keys, braces or
headers, it has no key twice, and the tables under headers in double brackets are at least one. A
header takes its table out of the document until the next header, so that the table can be put back
is known from the place where it was taken. -/
namespace Outline.Toml

theorem bind_eq_ok_iff {α β : Type} {x : Except Flaw α} {f : α → Except Flaw β} {b : β} :
    x >>= f = .ok b ↔ ∃ a, x = .ok a ∧ f a = .ok b := by
  cases x with
  | error flaw => exact ⟨fun h => (nomatch h), fun ⟨_, h, _⟩ => (nomatch h)⟩
  | ok a => simp [bind, Except.bind]

theorem bind_pure_eq_ok_iff {α β : Type} {x : Except Flaw α} {f : α → β} {b : β} :
    (x >>= fun a => pure (f a)) = .ok b ↔ ∃ a, x = .ok a ∧ b = f a := by
  rw [bind_eq_ok_iff]
  simp [pure, Except.pure, eq_comm]

/-- An item whose tables, at all depths, have each key once. -/
inductive Item.Sound : Item → Prop
  | scalar (span : Span) (value : Scalar) : Sound (.scalar span value)
  | array (span : Span) {items : List Item} (h : ∀ i ∈ items, Sound i) : Sound (.array span items)
  | table (form : Form) (span : Span) {t : Table} (keys : (t.map (·.1.name)).Nodup)
    (h : ∀ e ∈ t, Sound e.2) : Sound (.table form span t)
  | tables {items : List Item} (ne : items ≠ []) (h : ∀ i ∈ items, Sound i)
    (isTable : ∀ i ∈ items, ∃ form span t, i = .table form span t) : Sound (.tables items)

/-- A table with each key once, and sound items. -/
structure Table.Sound (t : Table) : Prop where
  keys : (t.map (·.1.name)).Nodup
  items : ∀ e ∈ t, e.2.Sound

theorem Item.Sound.entries {form : Form} {span : Span} {t : Table}
    (h : (Item.table form span t).Sound) : t.Sound := by
  cases h with
  | table _ _ keys h => exact ⟨keys, h⟩

theorem Item.Sound.of_tables {items : List Item} (h : (Item.tables items).Sound) :
    (∀ i ∈ items, i.Sound) ∧ ∀ i ∈ items, ∃ form span t, i = .table form span t := by
  cases h with
  | tables _ h isTable => exact ⟨h, isTable⟩

theorem Item.Sound.exists_table_cons {items : List Item} (h : (Item.tables items).Sound) :
    ∃ form span t rest, items = .table form span t :: rest := by
  cases h with
  | tables ne _ isTable =>
    obtain ⟨item, rest, rfl⟩ := List.exists_cons_of_ne_nil ne
    obtain ⟨form, span, t, rfl⟩ := isTable item List.mem_cons_self
    exact ⟨form, span, t, rest, rfl⟩

/-- One more table goes on with a list of tables. -/
theorem Item.Sound.snoc {items : List Item} (h : ∀ i ∈ items, i.Sound)
    (isTable : ∀ i ∈ items, ∃ form span t, i = Item.table form span t) {t : Table} (ht : t.Sound)
    (form : Form) (span : Span) : (Item.tables (items ++ [.table form span t])).Sound := by
  refine .tables (by simp) (fun i hi => ?_) (fun i hi => ?_)
  · rcases List.mem_append.mp hi with hi | hi
    · exact h i hi
    · rw [List.mem_singleton.mp hi]
      exact .table form span ht.keys ht.items
  · rcases List.mem_append.mp hi with hi | hi
    · exact isTable i hi
    · exact ⟨form, span, t, List.mem_singleton.mp hi⟩

namespace Table

theorem sound_nil : Sound [] := ⟨.nil, by simp⟩

theorem Sound.item {t : Table} (h : t.Sound) (form : Form) (span : Span) :
    (Item.table form span t).Sound :=
  .table form span h.keys h.items

/-! ### Looking up -/

theorem get?_eq_none_iff {t : Table} {name : String} :
    t.get? name = none ↔ name ∉ t.map (·.1.name) := by
  simp [get?, List.find?_eq_none]

theorem exists_mem_of_get? {t : Table} {name : String} {item : Item} (h : t.get? name = some item) :
    ∃ k, (k, item) ∈ t ∧ k.name = name := by
  obtain ⟨e, he, rfl⟩ := Option.map_eq_some_iff.mp h
  exact ⟨e.1, List.mem_of_find?_eq_some he, by simpa using List.find?_some he⟩

theorem Sound.of_get? {t : Table} (h : t.Sound) {name : String} {item : Item}
    (hget : t.get? name = some item) : item.Sound := by
  obtain ⟨k, hk, -⟩ := exists_mem_of_get? hget
  exact h.items _ hk

theorem get?_cons (e : Key × Item) (t : Table) (name : String) :
    get? (e :: t) name = if e.1.name = name then some e.2 else t.get? name := by
  unfold get?
  split <;> simp_all

theorem get?_snoc {t : Table} {k : Key} (h : t.get? k.name = none) (item : Item) :
    get? (t ++ [(k, item)]) k.name = some item := by
  have hnone : t.find? (·.1.name = k.name) = none := Option.map_eq_none_iff.mp h
  simp [get?, List.find?_append, hnone]

theorem map_name_replace (t : Table) (name : String) (item : Item) :
    (t.replace name item).map (·.1.name) = t.map (·.1.name) := by
  rw [replace, List.map_map]
  refine List.map_congr_left fun e _ => ?_
  change (if e.1.name = name then (e.1, item) else e).1.name = e.1.name
  split <;> rfl

theorem get?_replace {t : Table} {name : String} {old : Item} (h : t.get? name = some old)
    (item : Item) : (t.replace name item).get? name = some item := by
  induction t with
  | nil => cases h
  | cons e t ih =>
    rw [get?_cons] at h
    rw [replace, List.map_cons, get?_cons]
    by_cases he : e.1.name = name
    · simp [he]
    · rw [if_neg he] at h
      simpa [he, replace] using ih h

theorem get?_erase (t : Table) (name : String) : (t.erase name).get? name = none := by
  rw [get?_eq_none_iff, erase]
  simp

theorem Sound.of_cons {e : Key × Item} {t : Table} (h : Sound (e :: t)) :
    t.get? e.1.name = none ∧ t.Sound := by
  obtain ⟨hnew, hkeys⟩ := List.nodup_cons.mp h.keys
  exact ⟨get?_eq_none_iff.mpr hnew, hkeys, fun d hd => h.items d (List.mem_cons_of_mem e hd)⟩

/-! ### Changing -/

theorem Sound.snoc {t : Table} (h : t.Sound) {k : Key} (hk : t.get? k.name = none) {item : Item}
    (hitem : item.Sound) : Sound (t ++ [(k, item)]) := by
  rw [get?_eq_none_iff] at hk
  refine ⟨?_, fun e he => ?_⟩
  · rw [List.map_append, List.nodup_append]
    refine ⟨h.keys, List.nodup_singleton _, ?_⟩
    rintro a ha b hb rfl
    rw [List.map_singleton, List.mem_singleton] at hb
    exact hk (hb ▸ ha)
  · rcases List.mem_append.mp he with he | he
    · exact h.items e he
    · rw [List.mem_singleton.mp he]
      exact hitem

theorem Sound.replace {t : Table} (h : t.Sound) (name : String) {item : Item}
    (hitem : item.Sound) : (t.replace name item).Sound := by
  refine ⟨by rw [map_name_replace]; exact h.keys, fun e he => ?_⟩
  obtain ⟨d, hd, rfl⟩ := List.mem_map.mp he
  split
  · exact hitem
  · exact h.items d hd

theorem Sound.erase {t : Table} (h : t.Sound) (name : String) : (t.erase name).Sound :=
  ⟨h.keys.sublist (List.filter_sublist.map _), fun e he => h.items e (List.mem_filter.mp he).1⟩

/-- The table at the end of a path, with the form in which it is written: the one that `alter`
changes. -/
def reached (make : Form) : List Key → Form → Table → Option (Form × Table)
  | [], form, t => some (form, t)
  | k :: path, _, t =>
    match t.get? k.name with
    | none => reached make path make []
    | some (.table form _ sub) => reached make path form sub
    | some (.tables items) =>
      match items.getLast? with
      | some (.table form _ sub) => reached make path form sub
      | _ => none
    | some _ => none

variable {α : Type} {make : Form} {change : Form → Table → Except Flaw (α × Table)}

/-- The last table along a path is the one that is changed. It is reached again after the change,
and the others stay sound. -/
theorem exists_reached_of_alter {path : List Key} {form : Form} {t t' : Table} {a : α}
    (h : alter make change path form t = .ok (a, t')) :
    ∃ f u u', reached make path form t = some (f, u) ∧ change f u = .ok (a, u') ∧
      reached make path form t' = some (f, u') ∧ (t.Sound → u'.Sound → t'.Sound) := by
  induction path generalizing form t t' with
  | nil => exact ⟨form, t, t', rfl, h, rfl, fun _ hu' => hu'⟩
  | cons k path ih =>
    rw [alter] at h
    split at h
    · next hget =>
      obtain ⟨⟨a', sub⟩, hsub, heq⟩ := bind_eq_ok_iff.mp h
      cases heq
      obtain ⟨f, u, u', hu, hchange, hu', hsound⟩ := ih hsub
      refine ⟨f, u, u', ?_, hchange, ?_, fun ht h => ?_⟩
      · rw [reached, hget]
        exact hu
      · rw [reached, get?_snoc hget]
        exact hu'
      · exact ht.snoc hget ((hsound sound_nil h).item _ _)
    · next form' span sub hget =>
      split at h
      · cases h
      · split at h
        · cases h
        · obtain ⟨⟨a', sub'⟩, hsub, heq⟩ := bind_eq_ok_iff.mp h
          cases heq
          obtain ⟨f, u, u', hu, hchange, hu', hsound⟩ := ih hsub
          refine ⟨f, u, u', ?_, hchange, ?_, fun ht h => ?_⟩
          · rw [reached, hget]
            exact hu
          · rw [reached, get?_replace hget]
            exact hu'
          · exact ht.replace _ ((hsound (ht.of_get? hget).entries h).item _ _)
    · next items hget =>
      split at h
      · next form' span sub hlast =>
        obtain ⟨⟨a', sub'⟩, hsub, heq⟩ := bind_eq_ok_iff.mp h
        cases heq
        obtain ⟨f, u, u', hu, hchange, hu', hsound⟩ := ih hsub
        refine ⟨f, u, u', ?_, hchange, ?_, fun ht h => ?_⟩
        · rw [reached, hget]
          simp only [hlast]
          exact hu
        · rw [reached, get?_replace hget]
          simp only [List.getLast?_append, List.getLast?_singleton, Option.some_or]
          exact hu'
        · obtain ⟨hitems, isTable⟩ := (ht.of_get? hget).of_tables
          have hlast := (hitems _ (List.mem_of_getLast? hlast)).entries
          exact ht.replace _ (.snoc (fun i hi => hitems i (List.dropLast_subset _ hi))
            (fun i hi => isTable i (List.dropLast_subset _ hi)) (hsound hlast h) _ _)
      · cases h
    · cases h

theorem Sound.reached {path : List Key} {form f : Form} {t u : Table} (ht : t.Sound)
    (h : reached make path form t = some (f, u)) : u.Sound := by
  induction path generalizing form t with
  | nil =>
    cases h
    exact ht
  | cons k path ih =>
    rw [Table.reached] at h
    split at h
    · exact ih sound_nil h
    · next hget => exact ih (ht.of_get? hget).entries h
    · next items hget =>
      split at h
      · next hlast =>
        have hitems := (ht.of_get? hget).of_tables.1
        exact ih (hitems _ (List.mem_of_getLast? hlast)).entries h
      · cases h
    · cases h

theorem Sound.add {t t' : Table} (ht : t.Sound) {path : List Key} {k : Key} {item : Item}
    (hitem : item.Sound) {make form : Form} (h : t.add path k item make form = .ok t') :
    t'.Sound := by
  obtain ⟨⟨_, u⟩, halter, heq⟩ := bind_eq_ok_iff.mp h
  cases heq
  obtain ⟨f, v, v', hv, hchange, -, hsound⟩ := exists_reached_of_alter halter
  split at hchange
  · cases hchange
  · next hnew =>
    cases hchange
    refine hsound ht ((ht.reached hv).snoc ?_ hitem)
    simp only [Bool.or_eq_true, not_or, Option.not_isSome_iff_eq_none] at hnew
    exact hnew.2

end Table

/-! ### Values -/

mutual

theorem Item.sound_of_read {w : Written} {item : Item} (h : Item.read w = .ok item) : item.Sound := by
  cases w with
  | scalar l =>
    rw [Item.read] at h
    cases hs : Scalar.read l with
    | error flaw => rw [hs] at h; cases h
    | ok value =>
      rw [hs] at h
      cases h
      exact .scalar _ _
  | array span items =>
    rw [Item.read] at h
    obtain ⟨is, his, heq⟩ := bind_eq_ok_iff.mp h
    cases heq
    exact .array _ (Item.sound_of_readAll his)
  | table span pairs =>
    rw [Item.read] at h
    obtain ⟨t, ht, heq⟩ := bind_eq_ok_iff.mp h
    cases heq
    exact (Item.sound_of_readPairs Table.sound_nil ht).item _ _

theorem Item.sound_of_readAll {ws : List Written} {items : List Item}
    (h : Item.read.readAll ws = .ok items) : ∀ i ∈ items, i.Sound := by
  cases ws with
  | nil =>
    cases h
    simp
  | cons w ws =>
    rw [Item.read.readAll] at h
    obtain ⟨i, hi, h⟩ := bind_eq_ok_iff.mp h
    obtain ⟨is, his, heq⟩ := bind_eq_ok_iff.mp h
    cases heq
    exact List.forall_mem_cons.mpr ⟨Item.sound_of_read hi, Item.sound_of_readAll his⟩

theorem Item.sound_of_readPairs {pairs : List (List Lexeme × Written)} {t t' : Table}
    (ht : t.Sound) (h : Item.read.readPairs pairs t = .ok t') : t'.Sound := by
  cases pairs with
  | nil =>
    cases h
    exact ht
  | cons pair pairs =>
    obtain ⟨ls, w⟩ := pair
    rw [Item.read.readPairs] at h
    obtain ⟨⟨path, k⟩, -, h⟩ := bind_eq_ok_iff.mp h
    obtain ⟨i, hi, h⟩ := bind_eq_ok_iff.mp h
    obtain ⟨u, hu, h⟩ := bind_eq_ok_iff.mp h
    exact Item.sound_of_readPairs (ht.add (Item.sound_of_read hi) hu) h

end

/-! ### Sections -/

namespace Section

/-- A section can be put among the other tables: there is no table in its place, or a list of tables
that it goes on with. -/
def Free (s : Section) (root : Table) : Prop :=
  ∀ f u, Table.reached .implied s.path .header root = some (f, u) →
    ∀ item, u.get? s.key.name = some item → ∃ items, item = .tables items

theorem sound_of_start {root root' : Table} {list : Bool} {span : Span} {path : List Key} {k : Key}
    {s : Section} (hroot : root.Sound) (h : start root list span path k = .ok (s, root')) :
    s.entries.Sound ∧ root'.Sound ∧ s.Free root' := by
  obtain ⟨⟨found, u⟩, halter, heq⟩ := bind_eq_ok_iff.mp h
  cases heq
  obtain ⟨f, v, v', hv, hchange, hv', hsound⟩ := Table.exists_reached_of_alter halter
  have hvsound : v.Sound := hroot.reached hv
  -- What is found under the key, and what is left there, in each of the three cases.
  have hfound : Table.Sound found ∧ v'.Sound ∧
      ∀ item, v'.get? k.name = some item → ∃ items, item = .tables items := by
    split at hchange
    · next hget =>
      cases hchange
      exact ⟨Table.sound_nil, hvsound, fun item h => by simp [hget] at h⟩
    · next hget =>
      cases hchange
      refine ⟨(hvsound.of_get? hget).entries, hvsound.erase _, fun item h => ?_⟩
      simp [Table.get?_erase] at h
    · next items hget =>
      cases hchange
      exact ⟨Table.sound_nil, hvsound, fun item h => ⟨items, by simpa [hget] using h.symm⟩⟩
    · cases hchange
  obtain ⟨hentries, hrest, hfree⟩ := hfound
  refine ⟨hentries, hsound hroot hrest, fun f' u' hu' => ?_⟩
  cases hv'.symm.trans hu'
  exact hfree

theorem sound_of_finish {s : Section} {root t : Table} (hs : s.entries.Sound) (hroot : root.Sound)
    (hfree : s.Free root) (h : s.finish root = .ok t) : t.Sound := by
  obtain ⟨⟨_, u⟩, halter, heq⟩ := bind_eq_ok_iff.mp h
  cases heq
  obtain ⟨f, v, v', hv, hchange, -, hsound⟩ := Table.exists_reached_of_alter halter
  have hvsound : v.Sound := hroot.reached hv
  refine hsound hroot ?_
  split at hchange
  · next items hget =>
    cases hchange
    obtain ⟨hitems, isTable⟩ := (hvsound.of_get? hget).of_tables
    exact hvsound.replace _ (.snoc hitems isTable hs _ _)
  · next hother =>
    cases hchange
    have hnone : v.get? s.key.name = none := by
      cases hget : v.get? s.key.name with
      | none => rfl
      | some item =>
        obtain ⟨items, rfl⟩ := hfree f v hv item hget
        exact absurd hget (hother items)
    refine hvsound.snoc hnone ?_
    split
    · exact .tables (by simp) (by simpa using hs.item _ _) (by simp)
    · exact hs.item _ _

end Section

theorem sound_of_assemble {statements : List Statement} {current : Option Section} {root t : Table}
    (hroot : root.Sound) (hcurrent : ∀ s ∈ current, s.entries.Sound ∧ s.Free root)
    (h : assemble statements current root = .ok t) : t.Sound := by
  induction statements generalizing current root with
  | nil =>
    cases current with
    | none =>
      cases h
      exact hroot
    | some s => exact Section.sound_of_finish (hcurrent s rfl).1 hroot (hcurrent s rfl).2 h
  | cons statement rest ih =>
    cases statement with
    | pair ls w =>
      rw [assemble] at h
      obtain ⟨⟨path, k⟩, -, h⟩ := bind_eq_ok_iff.mp h
      obtain ⟨item, hitem, h⟩ := bind_eq_ok_iff.mp h
      cases current with
      | none =>
        obtain ⟨root', hroot', h⟩ := bind_eq_ok_iff.mp h
        exact ih (hroot.add (Item.sound_of_read hitem) hroot') (by simp) h
      | some s =>
        obtain ⟨entries, hentries, h⟩ := bind_eq_ok_iff.mp h
        obtain ⟨hs, hfree⟩ := hcurrent s rfl
        refine ih hroot (fun s' hs' => ?_) h
        cases hs'
        exact ⟨hs.add (Item.sound_of_read hitem) hentries, hfree⟩
    | header list span ls =>
      obtain ⟨root', hclosed, h⟩ : ∃ root' : Table, root'.Sound ∧
          (readKeys ls >>= fun key => Section.start root' list span key.1 key.2 >>= fun next =>
            assemble rest (some next.1) next.2) = .ok t := by
        cases current with
        | none => exact ⟨root, hroot, h⟩
        | some c =>
          obtain ⟨hc, hfree⟩ := hcurrent c rfl
          obtain ⟨root', hroot', h⟩ := bind_eq_ok_iff.mp h
          exact ⟨root', Section.sound_of_finish hc hroot hfree hroot', h⟩
      obtain ⟨⟨path, k⟩, -, h⟩ := bind_eq_ok_iff.mp h
      obtain ⟨⟨s, root''⟩, hstart, h⟩ := bind_eq_ok_iff.mp h
      obtain ⟨hentries, hrest, hfree⟩ := Section.sound_of_start hclosed hstart
      refine ih hrest (fun s' hs' => ?_) h
      cases hs'
      exact ⟨hentries, hfree⟩

/-- The table of a document has each key once, at all depths. -/
theorem sound_of_parse {text : String} {t : Table} (h : parse text = .ok t) : t.Sound := by
  obtain ⟨statements, -, h⟩ := bind_eq_ok_iff.mp h
  exact sound_of_assemble Table.sound_nil (by simp) h

end Outline.Toml
