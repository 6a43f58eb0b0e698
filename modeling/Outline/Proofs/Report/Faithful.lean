import Mathlib.Data.List.Forall2
import Outline.CommandLine.Run
import Outline.Proofs.Report.Grammar
import Outline.Proofs.Scan.Provenance

/-! What the JSON report of a survey says. The text is a document of the grammar, whatever
characters the names and paths in it have, so it has one value. The objects of this value mirror the
tree node by node, each with the fields of its node, and trees that the same value mirrors are
alike. -/
namespace Outline.Report

namespace Json

/-! ### What is written is in the grammar -/

theorem hexValue?_hexDigit : ∀ n < 16, hexValue? (hexDigit n) = some n := by decide

theorem Spelled.escaped (c : Char) {s t : List Char} (h : Spelled s t) :
    Spelled (c :: s) (escaped c ++ t) := by
  unfold Json.escaped
  split
  iterate 7 exact .letter (by decide) h
  next hquote hslash _ _ _ _ _ =>
    split
    next hc =>
      have hhigh := hexValue?_hexDigit (c.toNat / 16) (by omega)
      have hlow := hexValue?_hexDigit (c.toNat % 16) (by omega)
      have hunit : IsUnit c.toNat ['0', '0', hexDigit (c.toNat / 16), hexDigit (c.toNat % 16)] := by
        have hzero : hexValue? '0' = some 0 := rfl
        have hdigits := IsUnit.digits hzero hzero hhigh hlow
        rwa [show 16 * (16 * (16 * 0 + 0) + c.toNat / 16) + c.toNat % 16 = c.toNat by omega]
          at hdigits
      have hspelled := h.unit hunit (.inl (by omega))
      rwa [Char.ofNat_toNat] at hspelled
    next hc => exact .plain (by omega) hquote hslash h

theorem spelled_flatMap_escaped (s : List Char) : Spelled s (s.flatMap escaped) := by
  induction s with
  | nil => exact .nil
  | cons c s ih => exact ih.escaped c

/-- Only zero starts with a zero. -/
theorem head?_toDigits_ne {n : Nat} (hn : 0 < n) : (Nat.toDigits 10 n).head? ≠ some '0' := by
  induction n using Nat.strongRecOn with
  | ind n ih =>
    by_cases hlt : n < 10
    · have hdigit : ∀ d < 10, 0 < d → d.digitChar ≠ '0' := by decide
      rw [Nat.toDigits_of_lt_base hlt]
      simpa using hdigit n hlt hn
    · rw [Nat.toDigits_of_base_le (by decide) (by omega),
        List.head?_append_of_ne_nil _ Nat.toDigits_ne_nil]
      exact ih (n / 10) (by omega) (by omega)

theorem numeral_toDigits (n : Nat) : Numeral n (Nat.toDigits 10 n) where
  ne_nil := Nat.toDigits_ne_nil
  digits _ hd := Nat.isDigit_of_mem_toDigits (by decide) (by decide) hd
  lead hzero := by
    rcases Nat.eq_zero_or_pos n with rfl | hn
    · rfl
    · exact absurd hzero (head?_toDigits_ne hn)
  value := Nat.ofDigitChars_ten_toDigits

theorem blank_nil : Blank [] := by simp [Blank]

theorem blank_space : Blank [' '] := by simp [Blank, isSpace]

theorem blank_lineBreak (depth : Nat) : Blank (lineBreak depth) := by
  intro c hc
  rcases List.mem_cons.mp hc with rfl | hc
  · rfl
  · rw [List.eq_of_mem_replicate hc]
    rfl

/-- Every value is written as one of its texts. -/
theorem written_write : (j : Json) → (depth : Nat) → Written j (j.write depth)
  | null, _ => .null
  | boolean true, _ => .yes
  | boolean false, _ => .no
  | number n, _ => .number (numeral_toDigits n)
  | string s, _ => .string (spelled_flatMap_escaped s.toList)
  | array [], _ => .noItems blank_nil
  | array (i :: r), depth => by
    have h := Written.array (items r (written_write i (depth + 1)))
    simpa [write] using h
  | object [], _ => .noFields blank_nil
  | object ((k, v) :: r), depth => by
    have h := Written.object (fields r k (written_write v (depth + 1)))
    simpa [write, quoted] using h
where
  -- the writer puts the comma with what follows it and the grammar with what precedes it, so the
  -- induction goes over the rest and carries along what stands in front
  items {depth : Nat} {i : Json} : (r : List Json) → Written i (i.write (depth + 1)) →
      WrittenItems (i :: r)
        (lineBreak (depth + 1) ++ i.write (depth + 1) ++ write.writeItems depth r ++
          lineBreak depth)
  | [], hi => by
    have h := WrittenItems.one (blank_lineBreak (depth + 1)) hi (blank_lineBreak depth)
    simpa [write.writeItems] using h
  | j :: r, hi => by
    have h := WrittenItems.more (blank_lineBreak (depth + 1)) hi blank_nil
      (items r (written_write j (depth + 1)))
    simpa [write.writeItems] using h
  fields {depth : Nat} {v : Json} : (r : List (String × Json)) → (k : String) →
      Written v (v.write (depth + 1)) →
      WrittenFields ((k, v) :: r)
        (lineBreak (depth + 1) ++ quoted k ++ [':', ' '] ++ v.write (depth + 1) ++
          write.writeFields depth r ++ lineBreak depth)
  | [], k, hv => by
    have h := WrittenFields.one (blank_lineBreak (depth + 1)) (spelled_flatMap_escaped k.toList)
      blank_nil blank_space hv (blank_lineBreak depth)
    simpa [write.writeFields, quoted] using h
  | (l, w) :: r, k, hv => by
    have h := WrittenFields.more (blank_lineBreak (depth + 1)) (spelled_flatMap_escaped k.toList)
      blank_nil blank_space hv blank_nil (fields r l (written_write w (depth + 1)))
    simpa [write.writeFields, quoted] using h

/-- The text of a value with its end of line is a document of that value and of no other. -/
theorem document_text (j k : Json) : Document (j.text ++ "\n") k ↔ k = j := by
  have hj : Document (j.text ++ "\n") j :=
    ⟨[], j.write 0, ['\n'], by simp [text], blank_nil, written_write j 0, by simp [Blank, isSpace]⟩
  constructor
  · exact fun hk => hk.unique hj
  · rintro rfl
    exact hj

/-! ### Looking into a value -/

/-- The value of a field of an object. -/
def field? (key : String) : Json → Option Json
  | object fields => fields.lookup key
  | _ => none

def keys : Json → List String
  | object fields => fields.map (·.1)
  | _ => []

end Json

end Outline.Report

/-! ### Outlines -/

namespace Outline

theorem Kind.humanName_injective : Function.Injective Kind.humanName := by
  intro k l h
  have hk := Kind.ofHumanName?_humanName k
  rw [h, Kind.ofHumanName?_humanName] at hk
  exact (Option.some.inj hk).symm

namespace Node

/-- A declaration with nothing but declarations below it, whatever their names, lines and files. -/
inductive Declares : Node → Prop
  | declaration {kind name e cs} (hkind : kind ≠ .root) (hcs : ∀ c ∈ cs, Declares c) :
    Declares (.declaration kind name e cs)

/-- A root with nothing but declarations below it. -/
def IsOutline (n : Node) : Prop :=
  ∃ path cs, n = (root path).attach cs ∧ ∀ c ∈ cs, Declares c

/-- Two trees of one shape, with the same kinds, names, lines and displayed paths. -/
inductive Alike : Node → Node → Prop
  | intro {m n : Node} (kind : m.kind = n.kind) (name : m.name = n.name)
    (firstLine : m.firstLine = n.firstLine) (lastLine : m.lastLine = n.lastLine)
    (file : m.filePath.text = n.filePath.text) (below : List.Forall₂ Alike m.children n.children) :
    Alike m n

theorem declares_of_declaredIn : (n : Node) → (∀ m ∈ n.walk, ∃ file, m.DeclaredIn file) →
    n.Declares
  | mk kind name origin cs, h => by
    rw [walk_eq, List.forall_mem_cons] at h
    obtain ⟨⟨file, hn⟩, hcs⟩ := h
    obtain ⟨name, rfl, -⟩ := hn.named
    obtain ⟨e, he, -⟩ := hn.placed
    cases origin with
    | scanned path => cases he
    | declared e =>
      refine .declaration hn.kind_ne (inChildren cs fun c hc m hm => hcs m ?_)
      exact mem_walkFrom.mpr ⟨c, hc, hm⟩
where
  inChildren : (cs : List Node) → (∀ c ∈ cs, ∀ m ∈ c.walk, ∃ file, m.DeclaredIn file) →
      ∀ c ∈ cs, c.Declares
  | [], _ => by simp
  | c :: cs, h => by
    rw [List.forall_mem_cons] at h ⊢
    exact ⟨declares_of_declaredIn c h.1, inChildren cs h.2⟩

theorem Outlined.isOutline {n : Node} (h : n.Outlined) : n.IsOutline := by
  obtain ⟨kind, name, origin, cs⟩ := n
  obtain ⟨rfl, rfl, hextent, hcs⟩ := h
  cases origin with
  | declared e => cases hextent
  | scanned path =>
    refine ⟨path, cs, rfl, fun c hc => declares_of_declaredIn c fun m hm => ?_⟩
    obtain ⟨file, hfile⟩ := hcs c hc
    exact ⟨file, hfile m hm⟩

end Node

/-- The tree of every scan is an outline. -/
theorem Scanner.isOutline_of_scan {σ : Type} {s : Scanner} {fs : FileSystem} {path : Path}
    {w : Writer σ} {out : σ} {p : Progress σ} (h : s.scan fs path w out = .ok p) :
    p.survey.root.IsOutline :=
  (grown_of_scan h).outlined.isOutline

end Outline

namespace Outline.Report

open Json

/-! ### Nodes and objects -/

/-- What the object of a node says of the node itself. -/
structure Tells (n : Node) (j : Json) : Prop where
  keys : j.keys.Nodup
  kind : j.field? "kind" = some (.string n.kind.humanName)
  file : j.field? "file" = some (.string n.filePath.text)
  name : j.field? "name" = n.name.map .string
  firstLine : j.field? "first_line" = n.firstLine.map .number
  lastLine : j.field? "last_line" = n.lastLine.map .number
  /-- Only the root has no name and no lines. -/
  present : ∀ key ∈ ["name", "first_line", "last_line"],
    (j.field? key).isSome ↔ n.kind ≠ .root

/-- The object of a node, with the objects of its children in their order. -/
inductive Mirrors : Node → Json → Prop
  | intro {n : Node} {j : Json} {items : List Json} (told : Tells n j)
    (children : j.field? "children" = some (.array items))
    (below : List.Forall₂ Mirrors n.children items) : Mirrors n j

/-- The object of a file that was skipped. -/
structure TellsFailure (f : Failure) (j : Json) : Prop where
  keys : j.keys.Nodup
  path : j.field? "path" = some (.string f.path.text)
  error : j.field? "error" = some (.string f.error.message)

theorem ofNodes_eq_map (cs : List Node) : ofNode.ofNodes cs = cs.map ofNode := by
  induction cs with
  | nil => rfl
  | cons c cs ih => rw [ofNode.ofNodes, ih, List.map_cons]

theorem ofNode_root (path : Path) (cs : List Node) : ofNode ((Node.root path).attach cs) =
    .object [("kind", .string "root"), ("file", .string path.text),
      ("children", .array (cs.map ofNode))] := by
  rw [← ofNodes_eq_map]
  rfl

theorem ofNode_declaration (kind : Kind) (name : String) (e : Extent) (cs : List Node) :
    ofNode (.declaration kind name e cs) =
      .object [("kind", .string kind.humanName), ("name", .string name),
        ("file", .string e.file.path.text), ("first_line", .number e.firstLine),
        ("last_line", .number e.lastLine), ("children", .array (cs.map ofNode))] := by
  rw [← ofNodes_eq_map]
  rfl

theorem tells_root (path : Path) (cs : List Node) :
    Tells ((Node.root path).attach cs) (ofNode ((Node.root path).attach cs)) where
  keys := by simp [ofNode_root, Json.keys]
  kind := rfl
  file := rfl
  name := rfl
  firstLine := rfl
  lastLine := rfl
  present := by
    have hkind : ((Node.root path).attach cs).kind = .root := rfl
    simp [ofNode_root, field?, List.lookup_cons, hkind]

theorem tells_declaration {kind : Kind} (hkind : kind ≠ .root) (name : String) (e : Extent)
    (cs : List Node) :
    Tells (.declaration kind name e cs) (ofNode (.declaration kind name e cs)) where
  keys := by simp [ofNode_declaration, Json.keys]
  kind := rfl
  file := rfl
  name := rfl
  firstLine := rfl
  lastLine := rfl
  present := by
    have hkind : (Node.declaration kind name e cs).kind ≠ .root := hkind
    simp [ofNode_declaration, field?, List.lookup_cons, hkind]

/-- If the object of each child mirrors it, the objects of all of them do, in their order. -/
theorem forall₂_mirrors {cs : List Node} (h : ∀ c ∈ cs, Mirrors c (ofNode c)) :
    List.Forall₂ Mirrors cs (cs.map ofNode) := by
  rw [List.forall₂_map_right_iff]
  exact List.forall₂_same.mpr h

theorem mirrors_of_declares {n : Node} (h : n.Declares) : Mirrors n (ofNode n) := by
  induction h with
  | @declaration kind name e cs hkind hcs ih =>
    refine .intro (tells_declaration hkind name e cs) ?_ (forall₂_mirrors ih)
    rw [ofNode_declaration]
    rfl

theorem mirrors_of_isOutline {n : Node} (h : n.IsOutline) : Mirrors n (ofNode n) := by
  obtain ⟨path, cs, rfl, hcs⟩ := h
  refine .intro (tells_root path cs) ?_ (forall₂_mirrors fun c hc => mirrors_of_declares (hcs c hc))
  rw [ofNode_root]
  rfl

theorem tellsFailure_ofFailure (f : Failure) : TellsFailure f (ofFailure f) where
  keys := by simp [ofFailure, Json.keys]
  path := rfl
  error := rfl

/-! ### Trees with the same objects -/

theorem map_string_injective : Function.Injective (Option.map Json.string) :=
  Option.map_injective fun _ _ => Json.string.inj

theorem map_number_injective : Function.Injective (Option.map Json.number) :=
  Option.map_injective fun _ _ => Json.number.inj

/-- A value mirrors no two trees that differ in what a report tells. -/
theorem alike_of_mirrors : (m : Node) → ∀ {n : Node} {j : Json}, Mirrors m j → Mirrors n j →
    m.Alike n
  | .mk _ _ _ cs, _, _, .intro hm hchildren hbelow, .intro hn hchildren' hbelow' => by
    obtain rfl := Json.array.inj (Option.some.inj (hchildren.symm.trans hchildren'))
    refine .intro ?_ ?_ ?_ ?_ ?_ (alikeAll cs hbelow hbelow')
    · have hkind := Option.some.inj (hm.kind.symm.trans hn.kind)
      exact Kind.humanName_injective (Json.string.inj hkind)
    · exact map_string_injective (hm.name.symm.trans hn.name)
    · exact map_number_injective (hm.firstLine.symm.trans hn.firstLine)
    · exact map_number_injective (hm.lastLine.symm.trans hn.lastLine)
    · exact Json.string.inj (Option.some.inj (hm.file.symm.trans hn.file))
where
  alikeAll : (cs : List Node) → ∀ {ds : List Node} {items : List Json},
      List.Forall₂ Mirrors cs items → List.Forall₂ Mirrors ds items → List.Forall₂ Node.Alike cs ds
  | [], _, _, .nil, .nil => .nil
  | c :: cs, _, _, .cons hc hcs, .cons hd hds =>
    .cons (alike_of_mirrors c hc hd) (alikeAll cs hcs hds)

end Outline.Report

/-! ### The report as printed -/

namespace Outline.CommandLine

open Report Report.Json

/-- What is printed for an outline is one JSON document, whose value mirrors the tree and lists the
files that were skipped; two outlines for which the same is printed are alike. -/
theorem runTree_faithful (coloured : Bool) {p : Progress String} (hp : p.survey.root.IsOutline) :
    (∃ root failures,
      (∀ j, Document (runTree coloured true p).out j ↔
        j = .object [("root", root), ("failures", .array failures)]) ∧
      Mirrors p.survey.root root ∧ List.Forall₂ TellsFailure p.survey.failures failures) ∧
    ∀ (c : Bool) (q : Progress String), q.survey.root.IsOutline →
      (runTree c true q).out = (runTree coloured true p).out →
      q.survey.root.Alike p.survey.root := by
  have hdocument (c : Bool) (q : Progress String) (j : Json) :
      Document (runTree c true q).out j ↔ j = ofSurvey q.survey :=
    document_text (ofSurvey q.survey) j
  refine ⟨⟨ofNode p.survey.root, p.survey.failures.map ofFailure, ?_, ?_, ?_⟩, ?_⟩
  · exact hdocument coloured p
  · exact mirrors_of_isOutline hp
  · rw [List.forall₂_map_right_iff]
    exact List.forall₂_same.mpr fun f _ => tellsFailure_ofFailure f
  · intro c q hq hout
    have hvalue : ofSurvey q.survey = ofSurvey p.survey := by
      rw [← hdocument coloured, ← hout, hdocument]
    have hroot : ofNode q.survey.root = ofNode p.survey.root :=
      Option.some.inj (congrArg (field? "root") hvalue)
    have hmirrors := mirrors_of_isOutline hq
    rw [hroot] at hmirrors
    exact alike_of_mirrors _ hmirrors (mirrors_of_isOutline hp)

/-- A class with two methods, with characters in the names and paths that are escaped or are not
plain ones, and a file that was skipped. -/
def odd : Progress String where
  survey := {
    root := (Node.root ⟨"\"a\\b\""⟩).attach [
      .declaration .classDecl "\x00\x1f\x7f" ⟨⟨0, ⟨"\n.rb"⟩, ""⟩, 1, 10⟩ [
        .declaration .instanceMethod "é😀\t" ⟨⟨0, ⟨"\n.rb"⟩, ""⟩, 2, 3⟩ [],
        .declaration .classMethod "" ⟨⟨0, ⟨"\n.rb"⟩, ""⟩, 4, 4⟩ []]]
    failures := [⟨⟨"\\u0041"⟩, .faulty (.one 1 1)⟩] }
  out := ""

theorem isOutline_odd : odd.survey.root.IsOutline := by
  refine ⟨_, _, rfl, ?_⟩
  intro c hc
  obtain rfl := List.mem_singleton.mp hc
  refine .declaration (by decide) fun d hd => ?_
  simp only [List.mem_cons, List.not_mem_nil, or_false] at hd
  rcases hd with rfl | rfl
  · exact .declaration (by decide) (by simp)
  · exact .declaration (by decide) (by simp)

/-- The report of that outline, and the one of the scan of a directory. -/
theorem runTree_faithful_odd :
    odd.survey.root.IsOutline ∧
    (∃ root failures,
      Document (runTree false true odd).out
        (.object [("root", root), ("failures", .array failures)]) ∧
      root.field? "file" = some (.string "\"a\\b\"") ∧ root.field? "name" = none ∧
      failures.length = 1) ∧
    odd.survey.root.Alike odd.survey.root ∧
    ∃ p, Scanner.scan ⟨{ exclude := "" }, none⟩ Scanner.sample ⟨"p"⟩ Writer.collect "" = .ok p ∧
      ∃ root failures,
        Document (runTree true true p).out
          (.object [("root", root), ("failures", .array failures)]) ∧
        Mirrors p.survey.root root := by
  obtain ⟨⟨root, failures, hdocument, ⟨htold, -, -⟩, hfailures⟩, halike⟩ :=
    runTree_faithful false isOutline_odd
  refine ⟨isOutline_odd, ⟨root, failures, (hdocument _).mpr rfl, ?_, ?_, ?_⟩, ?_, ?_⟩
  · exact htold.file
  · exact htold.name
  · exact hfailures.length_eq.symm
  · exact halike true odd isOutline_odd rfl
  · obtain ⟨start, events, -, -, -, hscan⟩ :=
      Scanner.scan_eq_ok Scanner.candidates_sample Writer.collect ""
    obtain ⟨⟨root, failures, hdocument, hroot, -⟩, -⟩ :=
      runTree_faithful true (Scanner.isOutline_of_scan hscan)
    exact ⟨_, hscan, root, failures, (hdocument _).mpr rfl, hroot⟩

end Outline.CommandLine
