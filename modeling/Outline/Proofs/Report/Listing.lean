import Outline.Proofs.Declaration.Traversal
import Outline.Proofs.Report.Faithful

/-! The listing of a tree and its JSON report show the same nodes. The listing has one line for each
node, in preorder, indented by the length of the node's address; the objects in the report stand in
the same order, each inside as many others as its node is below the root, and each line can be made
from the fields of its object alone. -/
namespace Outline

/-! ### Depths -/

namespace Node

theorem rowsAll_eq {cs : List Node}
    (ih : ∀ c ∈ cs, ∀ d, c.rows d = c.places.map fun x => (d + x.1.length, x.2)) (d k : Nat) :
    rows.rowsAll (d + 1) cs = (places.placesFrom k cs).map fun x => (d + x.1.length, x.2) := by
  induction cs generalizing k with
  | nil => rfl
  | cons c cs ihcs =>
    rw [List.forall_mem_cons] at ih
    rw [rows.rowsAll, places.placesFrom, List.map_append, ih.1, ihcs ih.2 (k + 1), Address.under,
      List.map_map]
    refine congrArg (· ++ _) (List.map_congr_left fun x _ => ?_)
    change (d + 1 + x.1.length, x.2) = (d + (x.1.length + 1), x.2)
    rw [Nat.add_assoc, Nat.add_comm 1]

/-- How deep a node stands is how many indices lead to it. -/
theorem rows_eq_places : (n : Node) → (d : Nat) →
    n.rows d = n.places.map fun x => (d + x.1.length, x.2)
  | mk kind name origin cs, d => by
    rw [rows, places, List.map_cons, rowsAll_eq (inChildren cs) d 0]
    rfl
where
  inChildren : (cs : List Node) → ∀ c ∈ cs, ∀ d,
      c.rows d = c.places.map fun x => (d + x.1.length, x.2)
  | [] => by simp
  | c :: cs => by
    rw [List.forall_mem_cons]
    exact ⟨rows_eq_places c, inChildren cs⟩

end Node

namespace Report

/-! ### Lines -/

/-- The line of a node, without colours. -/
def nodeLine (depth : Nat) (topLevel : Bool) (n : Node) : String :=
  String.ofList (List.replicate (2 * depth) ' ') ++ n.kind.humanName ++ " " ++ n.name.getD "" ++
    " " ++ location n topLevel

theorem below_eq {cs : List Node} (ih : ∀ c ∈ cs, ∀ d, nodeLines false d false c =
      (c.rows d).map fun x => nodeLine x.1 false x.2) (d : Nat) :
    nodeLines.below false d cs =
      (Node.rows.rowsAll d cs).map fun x => nodeLine x.1 false x.2 := by
  induction cs with
  | nil => rfl
  | cons c cs ihcs =>
    rw [List.forall_mem_cons] at ih
    rw [nodeLines.below, Node.rows.rowsAll, List.map_append, ih.1, ihcs ih.2]

/-- A declaration that is not right under the root has a line for each node of its tree. -/
theorem nodeLines_eq : (n : Node) → (d : Nat) →
    nodeLines false d false n = (n.rows d).map fun x => nodeLine x.1 false x.2
  | .mk kind name origin cs, d => by
    rw [nodeLines, Node.rows, List.map_cons, below_eq (inChildren cs)]
    rfl
where
  inChildren : (cs : List Node) → ∀ c ∈ cs, ∀ d,
      nodeLines false d false c = (c.rows d).map fun x => nodeLine x.1 false x.2
  | [] => by simp
  | c :: cs => by
    rw [List.forall_mem_cons]
    exact ⟨nodeLines_eq c, inChildren cs⟩

/-- Right under the root only the first line is different. -/
theorem nodeLines_true (n : Node) (d : Nat) : nodeLines false d true n =
    nodeLine d true n ::
      (Node.rows.rowsAll (d + 1) n.children).map fun x => nodeLine x.1 false x.2 := by
  obtain ⟨kind, name, origin, cs⟩ := n
  rw [nodeLines, below_eq fun c _ => nodeLines_eq c]
  rfl

/-- The line of a place below the root. -/
def placeLine (x : Address × Node) : String := nodeLine x.1.length (x.1.length = 1) x.2

theorem flatMap_nodeLines_true (cs : List Node) (k : Nat) :
    cs.flatMap (nodeLines false 1 true) = (Node.places.placesFrom k cs).map placeLine := by
  induction cs generalizing k with
  | nil => rfl
  | cons c cs ih =>
    rw [List.flatMap_cons, Node.places.placesFrom, List.map_append, ih (k + 1), nodeLines_true,
      Node.rowsAll_eq (fun d _ => d.rows_eq_places) 1 0, Node.places_eq, Address.under,
      List.map_cons, List.map_cons, List.map_map, List.map_map]
    refine congrArg (· ++ _) (congrArg (_ :: ·) (List.map_congr_left fun x hx => ?_))
    -- an address below one of the top level has more than one index
    obtain ⟨j, a, ha, -⟩ := Node.exists_cons_of_mem_placesFrom hx
    change nodeLine (1 + x.1.length) false x.2 =
      nodeLine (x.1.length + 1) (x.1.length + 1 = 1) x.2
    rw [ha, Nat.add_comm]
    rfl

theorem treeLines_eq (v : Survey) : treeLines false v =
    v.root.display :: (Node.places.placesFrom 0 v.root.children).map placeLine := by
  rw [← flatMap_nodeLines_true]
  rfl

/-! ### Lines without line feeds -/

theorem notMem_toString {c : Char} (hc : c.isDigit = false) (n : Nat) :
    c ∉ (toString n).toList := by
  intro h
  have hdigit := Nat.isDigit_of_mem_toDigits (b := 10) (by decide) (by decide)
    (n := n) (c := c) (by simpa using h)
  rw [hc] at hdigit
  cases hdigit

theorem lineFeed_notMem_humanName (k : Kind) : '\n' ∉ k.humanName.toList := by
  cases k <;> decide

theorem lineFeed_notMem_location {n : Node} {topLevel : Bool}
    (h : topLevel = true → '\n' ∉ n.filePath.text.toList) :
    '\n' ∉ (location n topLevel).toList := by
  have hfirst := notMem_toString (c := '\n') (by decide) (n.firstLine.getD 0)
  have hlast := notMem_toString (c := '\n') (by decide) (n.lastLine.getD 0)
  cases topLevel with
  | false => simp_all [location]
  | true => simp_all [location]

theorem lineFeed_notMem_nodeLine {n : Node} {depth : Nat} {topLevel : Bool}
    (hname : '\n' ∉ (n.name.getD "").toList)
    (hpath : topLevel = true → '\n' ∉ n.filePath.text.toList) :
    '\n' ∉ (nodeLine depth topLevel n).toList := by
  have hkind := lineFeed_notMem_humanName n.kind
  have hlocation := lineFeed_notMem_location hpath
  simp [nodeLine, hkind, hname, hlocation]

/-- Lines that hold no line feed can be told apart in the text. -/
theorem splitOn_unlines {lines : List String} (h : ∀ l ∈ lines, '\n' ∉ l.toList) :
    ((unlines lines).toList.splitOn '\n').map String.ofList = lines ++ [""] := by
  induction lines with
  | nil => rfl
  | cons l lines ih =>
    rw [List.forall_mem_cons] at h
    have hcons : (unlines (l :: lines)).toList = l.toList ++ '\n' :: (unlines lines).toList := by
      simp [unlines]
    rw [hcons, List.splitOn_append_cons_self_of_not_mem h.1, List.map_cons, ih h.2,
      String.ofList_toList, List.cons_append]

end Report

/-! ### Objects -/

namespace Report.Json

/-- The objects in a value, in the order in which they are written, each with the number of objects
that it is inside. -/
def objects (depth : Nat) : Json → List (Nat × Json)
  | object fields => (depth, object fields) :: inFields (depth + 1) fields
  | array items => inItems depth items
  | _ => []
where
  inFields (depth : Nat) : List (String × Json) → List (Nat × Json)
  | [] => []
  | (_, v) :: r => objects depth v ++ inFields depth r
  inItems (depth : Nat) : List Json → List (Nat × Json)
  | [] => []
  | j :: r => objects depth j ++ inItems depth r

theorem inFields_append (d : Nat) (a b : List (String × Json)) :
    objects.inFields d (a ++ b) = objects.inFields d a ++ objects.inFields d b := by
  induction a with
  | nil => rfl
  | cons f a ih =>
    obtain ⟨k, v⟩ := f
    rw [List.cons_append, objects.inFields, objects.inFields, ih, List.append_assoc]

theorem inFields_fieldIf {α : Type} (d : Nat) (name : String) (write : α → Json) (x : Option α)
    (h : ∀ a, (write a).objects d = []) : objects.inFields d (fieldIf name write x) = [] := by
  cases x with
  | none => rfl
  | some a => simp [fieldIf, objects.inFields, h]

/-- The line of an object in a report, made from its fields. -/
def line? (depth : Nat) (j : Json) : Option String :=
  match depth, j.field? "kind", j.field? "name", j.field? "file", j.field? "first_line",
      j.field? "last_line" with
  | 0, some (.string kind), none, some (.string file), none, none =>
    some (kind ++ " (" ++ file ++ ")")
  | d + 1, some (.string kind), some (.string name), some (.string file), some (.number first),
      some (.number last) =>
    some (String.ofList (List.replicate (2 * (d + 1)) ' ') ++ kind ++ " " ++ name ++ " " ++
      (if d = 0 then file ++ ":" else "") ++ toString first ++ "-" ++ toString last)
  | _, _, _, _, _, _ => none

end Report.Json

namespace Report

open Json

theorem inItems_ofNodes {cs : List Node} (ih : ∀ c ∈ cs, ∀ d, (ofNode c).objects d =
      (c.rows d).map fun x => (x.1, ofNode x.2)) (d : Nat) :
    objects.inItems d (ofNode.ofNodes cs) =
      (Node.rows.rowsAll d cs).map fun x => (x.1, ofNode x.2) := by
  induction cs with
  | nil => rfl
  | cons c cs ihcs =>
    rw [List.forall_mem_cons] at ih
    rw [ofNode.ofNodes, objects.inItems, Node.rows.rowsAll, List.map_append, ih.1, ihcs ih.2]

/-- The objects in the object of a tree are those of its nodes, each as deep as its node. -/
theorem objects_ofNode : (n : Node) → (d : Nat) →
    (ofNode n).objects d = (n.rows d).map fun x => (x.1, ofNode x.2)
  | .mk kind name origin cs, d => by
    have hchildren := inItems_ofNodes (inChildren cs) (d + 1)
    have hname := inFields_fieldIf (d + 1) "name" .string name fun _ => rfl
    have hfirst := inFields_fieldIf (d + 1) "first_line" .number
      (Node.mk kind name origin cs).firstLine fun _ => rfl
    have hlast := inFields_fieldIf (d + 1) "last_line" .number
      (Node.mk kind name origin cs).lastLine fun _ => rfl
    rw [Node.rows, List.map_cons, ← hchildren, ofNode, objects]
    simp only [inFields_append, hname, hfirst, hlast, objects.inFields, objects, List.append_nil,
      List.nil_append]
where
  inChildren : (cs : List Node) → ∀ c ∈ cs, ∀ d,
      (ofNode c).objects d = (c.rows d).map fun x => (x.1, ofNode x.2)
  | [] => by simp
  | c :: cs => by
    rw [List.forall_mem_cons]
    exact ⟨objects_ofNode c, inChildren cs⟩

/-! ### Lines of declarations -/

/-- The line of a declaration at a depth below the root. -/
def declarationLine (depth : Nat) (kind : Kind) (name : String) (e : Extent) : String :=
  String.ofList (List.replicate (2 * depth) ' ') ++ kind.humanName ++ " " ++ name ++ " " ++
    if depth = 1 then e.describe else toString e.firstLine ++ "-" ++ toString e.lastLine

theorem placeLine_declaration (a : Address) (kind : Kind) (name : String) (e : Extent)
    (cs : List Node) :
    placeLine (a, .declaration kind name e cs) = declarationLine a.length kind name e := by
  have hlocation (topLevel : Bool) : location (.declaration kind name e cs) topLevel =
      if topLevel then e.describe else toString e.firstLine ++ "-" ++ toString e.lastLine := by
    cases topLevel with
    | false => rfl
    | true => simp [location, Extent.describe, Node.filePath, Node.firstLine, Node.lastLine,
        Node.extent, Node.origin, Node.declaration, String.append_assoc]
  simp only [placeLine, nodeLine, hlocation, decide_eq_true_eq, declarationLine]
  rfl

theorem line?_ofNode_declaration (d : Nat) (kind : Kind) (name : String) (e : Extent)
    (cs : List Node) : (ofNode (.declaration kind name e cs)).line? (d + 1) =
      some (declarationLine (d + 1) kind name e) := by
  have hline : (ofNode (.declaration kind name e cs)).line? (d + 1) =
      some (String.ofList (List.replicate (2 * (d + 1)) ' ') ++ kind.humanName ++ " " ++ name ++
        " " ++ (if d = 0 then e.file.path.text ++ ":" else "") ++ toString e.firstLine ++ "-" ++
        toString e.lastLine) := by
    rw [ofNode_declaration]
    rfl
  rw [hline, declarationLine]
  cases d <;> simp [Extent.describe, String.append_assoc]

end Report

namespace Node

theorem Declares.of_mem_walk {n : Node} (h : n.Declares) : ∀ m ∈ n.walk, m.Declares := by
  induction h with
  | @declaration kind name e cs hkind hcs ih =>
    intro m hm
    rw [walk_eq, List.mem_cons] at hm
    rcases hm with rfl | hm
    · exact .declaration hkind hcs
    · obtain ⟨c, hc, hmem⟩ := mem_walkFrom.mp hm
      exact ih c hc m hmem

/-- What is below the root of an outline is a declaration. -/
theorem IsOutline.exists_declaration {n : Node} (h : n.IsOutline) {x : Address × Node}
    (hx : x ∈ places.placesFrom 0 n.children) :
    ∃ kind name e cs, x.2 = .declaration kind name e cs := by
  obtain ⟨path, cs, rfl, hcs⟩ := h
  have hmem : x.2 ∈ walkFrom cs := by
    rw [← placesFrom_map_snd 0]
    exact List.mem_map_of_mem hx
  obtain ⟨c, hc, hwalk⟩ := mem_walkFrom.mp hmem
  cases hd : x.2 with
  | mk kind name origin ds =>
    have hdeclares := (hcs c hc).of_mem_walk x.2 hwalk
    rw [hd] at hdeclares
    cases hdeclares with
    | declaration => exact ⟨_, _, _, _, rfl⟩

/-- A node whose address is one index is a child. -/
theorem mem_children_of_length {n : Node} {x : Address × Node}
    (hx : x ∈ places.placesFrom 0 n.children) (h : x.1.length = 1) : x.2 ∈ n.children := by
  obtain ⟨i, hi⟩ := List.length_eq_one_iff.mp h
  have hplace : n.at? x.1 = some x.2 := by
    rw [← mem_places_iff, places_eq]
    exact List.mem_cons_of_mem _ hx
  rw [hi] at hplace
  obtain ⟨c, hc, hcx⟩ := Option.bind_eq_some_iff.mp hplace
  exact List.mem_of_getElem? (hc.trans hcx)

theorem mem_walk_of_mem_placesFrom {n : Node} {x : Address × Node}
    (hx : x ∈ places.placesFrom 0 n.children) : x.2 ∈ n.walk := by
  rw [walk_eq, ← placesFrom_map_snd 0]
  exact List.mem_cons_of_mem _ (List.mem_map_of_mem hx)

end Node

namespace CommandLine

open Report Report.Json

/-- Without line feeds in the names and in the paths that are shown, the listing of an outline has a
line for the root and one for each declaration, in the order of the walk. The line of a declaration
is indented by its depth, and has the path only right under the root. The report in JSON has an
object for each line, in the same order and as deep, from which the line can be made. -/
theorem runTree_lists {p : Progress String} (hp : p.survey.root.IsOutline)
    (hnames : ∀ n ∈ p.survey.root.walk, ∀ name, n.name = some name → '\n' ∉ name.toList)
    (hroot : '\n' ∉ p.survey.root.filePath.text.toList)
    (hpaths : ∀ c ∈ p.survey.root.children, '\n' ∉ c.filePath.text.toList) :
    ∃ lines : List String,
      ((runTree false false p).out.toList.splitOn '\n').map String.ofList = lines ++ [""] ∧
      lines.length = 1 + p.survey.root.descendantCount ∧
      lines[0]? = some p.survey.root.display ∧
      (∀ k a n, 1 ≤ k → p.survey.root.places[k]? = some (a, n) →
        p.survey.root.walk[k]? = some n ∧ ∃ name e, n.name = some name ∧ n.extent = some e ∧
          lines[k]? = some (declarationLine a.length n.kind name e)) ∧
      ∃ root failures,
        (∀ j, Document (runTree false true p).out j ↔
          j = .object [("root", root), ("failures", .array failures)]) ∧
        (root.objects 0).map (fun x => x.2.line? x.1) = lines.map some := by
  have hlines := treeLines_eq p.survey
  have hlength : (treeLines false p.survey).length = 1 + p.survey.root.descendantCount := by
    have hplaces := congrArg List.length (Node.placesFrom_map_snd 0 p.survey.root.children)
    rw [List.length_map] at hplaces
    rw [hlines, List.length_cons, List.length_map, hplaces, Node.descendantCount_eq, Nat.add_comm]
  refine ⟨treeLines false p.survey, splitOn_unlines ?_, hlength, by rw [hlines]; rfl, ?_,
    ofNode p.survey.root, p.survey.failures.map ofFailure, document_text (ofSurvey p.survey), ?_⟩
  · rw [hlines, List.forall_mem_cons]
    constructor
    · obtain ⟨path, cs, hn, -⟩ := hp
      rw [hn] at hroot ⊢
      have hdisplay : ((Node.root path).attach cs).display = "root (" ++ path.text ++ ")" := rfl
      have hpath : '\n' ∉ path.text.toList := hroot
      simp [hdisplay, hpath]
    · intro l hl
      obtain ⟨x, hx, rfl⟩ := List.mem_map.mp hl
      refine lineFeed_notMem_nodeLine ?_ fun htop => ?_
      · cases hname : x.2.name with
        | none => simp
        | some name => exact hnames x.2 (Node.mem_walk_of_mem_placesFrom hx) name hname
      · exact hpaths x.2 (Node.mem_children_of_length hx (of_decide_eq_true htop))
  · intro k a n hk hplace
    refine ⟨by rw [← Node.places_map_snd, List.getElem?_map, hplace]; rfl, ?_⟩
    obtain ⟨k, rfl⟩ : ∃ i, k = i + 1 := ⟨k - 1, by omega⟩
    rw [Node.places_eq, List.getElem?_cons_succ] at hplace
    obtain ⟨kind, name, e, cs, hn⟩ := hp.exists_declaration (List.mem_of_getElem? hplace)
    obtain rfl : n = .declaration kind name e cs := hn
    refine ⟨name, e, rfl, rfl, ?_⟩
    rw [hlines, List.getElem?_cons_succ, List.getElem?_map, hplace, Option.map_some,
      placeLine_declaration]
    rfl
  · rw [objects_ofNode, Node.rows_eq_places, Node.places_eq, hlines]
    simp only [List.map_cons, List.map_map, List.cons.injEq]
    constructor
    · obtain ⟨path, cs, hn, -⟩ := hp
      rw [hn, ofNode_root]
      rfl
    · refine List.map_congr_left fun x hx => ?_
      obtain ⟨kind, name, e, cs, hn⟩ := hp.exists_declaration hx
      obtain ⟨j, b, hb, -⟩ := Node.exists_cons_of_mem_placesFrom hx
      obtain ⟨a, n⟩ := x
      obtain rfl : n = .declaration kind name e cs := hn
      obtain rfl : a = j :: b := hb
      simp only [Function.comp_apply, List.length_cons, Nat.zero_add, line?_ofNode_declaration,
        placeLine_declaration]

/-- Declarations at three depths, from two files. -/
def nested : Progress String where
  survey := {
    root := (Node.root ⟨"lib"⟩).attach [
      .declaration .moduleDecl "A" ⟨⟨0, ⟨"lib/a.rb"⟩, ""⟩, 1, 10⟩ [
        .declaration .classDecl "B" ⟨⟨0, ⟨"lib/a.rb"⟩, ""⟩, 2, 9⟩ [
          .declaration .instanceMethod "==" ⟨⟨0, ⟨"lib/a.rb"⟩, ""⟩, 3, 4⟩ []]],
      .declaration .classDecl "C" ⟨⟨1, ⟨"lib/\t.rb"⟩, ""⟩, 1, 1⟩ []] }
  out := ""

theorem isOutline_nested : nested.survey.root.IsOutline := by
  refine ⟨_, _, rfl, ?_⟩
  have hmethod (name : String) (e : Extent) : (Node.declaration .instanceMethod name e []).Declares :=
    .declaration (by decide) (by simp)
  have hclass (name : String) (e : Extent) {cs : List Node} (hcs : ∀ c ∈ cs, c.Declares) :
      (Node.declaration .classDecl name e cs).Declares :=
    .declaration (by decide) hcs
  rw [List.forall_mem_cons, List.forall_mem_singleton]
  refine ⟨.declaration (by decide) ?_, hclass _ _ (by simp)⟩
  rw [List.forall_mem_singleton]
  refine hclass _ _ ?_
  rw [List.forall_mem_singleton]
  exact hmethod _ _

/-- The method is in the fourth line, at the third depth, and so is its object. -/
theorem runTree_lists_nested :
    nested.survey.root.IsOutline ∧
    ∃ lines : List String,
      ((runTree false false nested).out.toList.splitOn '\n').map String.ofList = lines ++ [""] ∧
      lines.length = 5 ∧ lines[0]? = some "root (lib)" ∧
      lines[1]? = some "  module A lib/a.rb:1-10" ∧
      lines[3]? = some "      instance method == 3-4" ∧
      ∃ root : Json, (root.objects 0).map (fun x => x.2.line? x.1) = lines.map some := by
  have hnames : ∀ n ∈ nested.survey.root.walk, ∀ name, n.name = some name → '\n' ∉ name.toList := by
    have h : ∀ n ∈ nested.survey.root.places.map (·.2), '\n' ∉ (n.name.getD "").toList := by decide
    intro n hn name hname
    rw [← Node.places_map_snd] at hn
    simpa [hname] using h n hn
  have hcount : nested.survey.root.descendantCount = 4 := by
    rw [Node.descendantCount, ← Node.places_map_snd]
    decide
  obtain ⟨lines, hsplit, hlength, hfirst, hlines, root, -, -, hobjects⟩ :=
    runTree_lists isOutline_nested hnames (by decide) (by decide)
  obtain ⟨-, name, e, hname, he, hmodule⟩ := hlines 1 [0] _ (by decide) rfl
  obtain rfl := Option.some.inj hname
  obtain rfl := Option.some.inj he
  obtain ⟨-, name, e, hname, he, hmethod⟩ := hlines 3 [0, 0, 0] _ (by decide) rfl
  obtain rfl := Option.some.inj hname
  obtain rfl := Option.some.inj he
  refine ⟨isOutline_nested, lines, hsplit, by rw [hlength, hcount], hfirst, ?_, ?_, root, hobjects⟩
  · rw [hmodule]
    decide
  · rw [hmethod]
    decide

end CommandLine

end Outline
