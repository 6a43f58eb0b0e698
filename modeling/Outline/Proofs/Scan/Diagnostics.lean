import Outline.Proofs.Report.Listing
import Outline.Proofs.Scan.Provenance

/-! The lines of diagnostics of a scan. Each failure is told in one text with a line feed after it,
and that text has no line feed but those of the path of its file; a path that cannot be read is told
twice. So there is one line for each failure exactly if no failure has a path with a line feed in it.
Then the lines can be read back: all causes are told without a colon, so the last colon of a line
stands in front of the cause, and what stands before that is the path, or the path two times. -/
namespace Outline

attribute [local irreducible] SyntaxTree.ofText

namespace Text

/-- The lines of a text that ends each of them with a line feed. -/
def endedLines (text : String) : List String := (pieces '\n' text).dropLast

theorem length_cut (sep : Char) (cs : List Char) : (cut sep cs).length = cs.count sep + 1 := by
  induction cs with
  | nil => rfl
  | cons c cs ih =>
    rw [cut]
    split
    · next hc => rw [hc, List.count_cons_self, List.length_cons, ih]
    · next hc =>
      rw [List.count_cons_of_ne hc, ← ih]
      obtain ⟨piece, more, hcut⟩ := List.exists_cons_of_ne_nil (cut_ne_nil sep cs)
      rw [hcut]
      rfl

theorem length_pieces (sep : Char) (text : String) :
    (pieces sep text).length = text.toList.count sep + 1 := by
  rw [pieces, List.length_map, length_cut]

theorem pieces_of_notMem {sep : Char} {text : String} (h : sep ∉ text.toList) :
    pieces sep text = [text] := by
  rw [pieces, cut_of_notMem h, List.map_singleton, String.ofList_toList]

/-- Lines that hold line feeds fall apart into more lines. -/
theorem endedLines_unlines (lines : List String) :
    endedLines (Report.unlines lines) = lines.flatMap (pieces '\n') := by
  have hpieces : pieces '\n' (Report.unlines lines) = lines.flatMap (pieces '\n') ++ [""] := by
    induction lines with
    | nil => rfl
    | cons line lines ih =>
      have hcons : (Report.unlines (line :: lines)).toList =
          line.toList ++ '\n' :: (Report.unlines lines).toList := by
        simp [Report.unlines]
      rw [pieces, hcons, cut_append, List.map_append, List.flatMap_cons, List.append_assoc, ← ih]
      rfl
  rw [endedLines, hpieces, List.dropLast_concat]

/-! ### The last separator -/

/-- What stands before the last separator of a text, and what stands after it. -/
def splitLast (sep : Char) (cs : List Char) : List Char × List Char :=
  (((cs.reverse.dropWhile (· ≠ sep)).drop 1).reverse, (cs.reverse.takeWhile (· ≠ sep)).reverse)

theorem splitLast_append {sep : Char} (a : List Char) {b : List Char} (hb : sep ∉ b) :
    splitLast sep (a ++ sep :: b) = (a, b) := by
  have hrev : (a ++ sep :: b).reverse = b.reverse ++ sep :: a.reverse := by simp
  have hne : ∀ c ∈ b.reverse, (decide (c ≠ sep)) = true := by
    intro c hc
    exact decide_eq_true (ne_of_mem_of_not_mem (List.mem_reverse.mp hc) hb)
  rw [splitLast, hrev, List.dropWhile_append_of_pos hne, List.takeWhile_append_of_pos hne]
  simp

end Text

/-! ### Causes -/

namespace FileSystem.Fault

/-- All faults. -/
def all : List Fault :=
  [notFound, notDirectory, isDirectory, nameTooLong, tooManyLinks, nulInName, notText]

theorem mem_all (fault : Fault) : fault ∈ all := by
  cases fault <;> decide

theorem colon_notMem_message (fault : Fault) : ':' ∉ fault.message.toList := by
  cases fault <;> decide

theorem lineFeed_notMem_message (fault : Fault) : '\n' ∉ fault.message.toList := by
  cases fault <;> decide

end FileSystem.Fault

namespace SyntaxFault

theorem message_one (line column : Nat) : (one line column).message =
    "syntax error at line " ++ toString line ++ ", column " ++ toString column := rfl

theorem message_many (count line column : Nat) : (many count line column).message =
    toString count ++ " syntax errors, first at line " ++ toString line ++ ", column " ++
      toString column := rfl

/-- The words between the numbers when a fault is told. -/
def words : List String := ["syntax error at line ", ", column ", " syntax errors, first at line "]

theorem notMem_message {c : Char} (hdigit : c.isDigit = false)
    (hwords : ∀ word ∈ words, c ∉ word.toList) (fault : SyntaxFault) :
    c ∉ fault.message.toList := by
  have hnumber := Report.notMem_toString hdigit
  have hone := hwords "syntax error at line " (by decide)
  have hcolumn := hwords ", column " (by decide)
  have hmany := hwords " syntax errors, first at line " (by decide)
  cases fault with
  | one line column =>
    simp only [message_one, String.toList_append, List.mem_append, not_or]
    exact ⟨⟨⟨hone, hnumber line⟩, hcolumn⟩, hnumber column⟩
  | many count line column =>
    simp only [message_many, String.toList_append, List.mem_append, not_or]
    exact ⟨⟨⟨⟨hnumber count, hmany⟩, hnumber line⟩, hcolumn⟩, hnumber column⟩

/-- No fault of a text is told like a fault of the system. -/
theorem message_ne (fault : SyntaxFault) (other : FileSystem.Fault) :
    fault.message ≠ other.message := by
  intro h
  cases fault with
  | one line column =>
    have hstart : other.message.toList.take 2 = ['s', 'y'] := by
      rw [← h]
      simp only [message_one, String.toList_append, List.append_assoc]
      rfl
    cases other <;> revert hstart <;> decide
  | many count line column =>
    obtain ⟨c, rest, hcs⟩ := List.exists_cons_of_ne_nil (Nat.toDigits_ne_nil (b := 10) (n := count))
    have hdigit : c.isDigit = true :=
      Nat.isDigit_of_mem_toDigits (b := 10) (by decide) (by decide) (hcs ▸ List.mem_cons_self)
    have hhead : other.message.toList.head? = some c := by
      rw [← h]
      have hcount : (toString count).toList = c :: rest := by simpa using hcs
      simp only [message_many, String.toList_append, List.append_assoc, hcount]
      rfl
    have hletter : other.message.toList.head?.any Char.isDigit = false := by
      cases other <;> rfl
    rw [hhead, Option.any_some, hdigit] at hletter
    cases hletter

end SyntaxFault

/-! ### One line -/

namespace Failure

variable {fs : FileSystem}

/-- What stands between the two paths when a file cannot be read. -/
def reading : List Char := ": I/O error reading ".toList

theorem toList_message_unreadable (p : Path) (fault : FileSystem.Fault) :
    (mk p (.unreadable p fault)).message.toList =
      (p.text.toList ++ reading ++ p.text.toList) ++ ':' :: ' ' :: fault.message.toList := by
  have hmessage : (mk p (.unreadable p fault)).message =
      p.text ++ ": " ++ ("I/O error reading " ++ p.text ++ ": " ++ fault.message) := rfl
  have hreading : reading = ": ".toList ++ "I/O error reading ".toList := by decide
  rw [hmessage, hreading]
  simp only [String.toList_append, List.append_assoc]
  rfl

theorem toList_message_faulty (p : Path) (fault : SyntaxFault) :
    (mk p (.faulty fault)).message.toList =
      p.text.toList ++ ':' :: ' ' :: fault.message.toList := by
  have hmessage : (mk p (.faulty fault)).message = p.text ++ ": " ++ fault.message := rfl
  rw [hmessage]
  simp only [String.toList_append, List.append_assoc]
  rfl

/-- How often a failure tells its path. -/
def pathsTold (f : Failure) : Nat := if f.error.isSyntaxError then 1 else 2

theorem count_message {f : Failure} (h : fs.Skips f.path f.error) :
    f.message.toList.count '\n' = f.pathsTold * f.path.text.toList.count '\n' := by
  obtain ⟨p, e⟩ := f
  change fs.Skips p e at h
  cases h with
  | @unreadable fault _ =>
    have hcause := List.count_eq_zero.mpr fault.lineFeed_notMem_message
    have hreading : reading.count '\n' = 0 := by decide
    rw [toList_message_unreadable, List.count_append, List.count_append, List.count_append,
      List.count_cons_of_ne (by decide), List.count_cons_of_ne (by decide), hcause, hreading]
    change _ = 2 * p.text.toList.count '\n'
    omega
  | @faulty _ fault _ _ =>
    have hcause := List.count_eq_zero.mpr
      (fault.notMem_message (c := '\n') (by decide) (by decide))
    rw [toList_message_faulty, List.count_append, List.count_cons_of_ne (by decide),
      List.count_cons_of_ne (by decide), hcause]
    change _ = 1 * p.text.toList.count '\n'
    omega

/-- There are as many lines as failures only if no path has a line feed. -/
theorem sum_lines_eq_iff (fs : List Failure) :
    (fs.map fun f => f.pathsTold * f.path.text.toList.count '\n' + 1).sum = fs.length ↔
      ∀ f ∈ fs, '\n' ∉ f.path.text.toList := by
  have hsum : (fs.map fun f => f.pathsTold * f.path.text.toList.count '\n' + 1).sum =
      (fs.map fun f => f.pathsTold * f.path.text.toList.count '\n').sum + fs.length := by
    rw [List.sum_map_add]
    simp
  have hpos (f : Failure) : f.pathsTold ≠ 0 := by
    unfold pathsTold
    split <;> decide
  rw [hsum, Nat.add_eq_right, List.sum_eq_zero_iff, List.forall_mem_map]
  simp only [Nat.mul_eq_zero, hpos, false_or, List.count_eq_zero]

/-- The path and the error that a line of diagnostics tells. -/
def readLine (line : String) : String × String :=
  let (front, cause) := Text.splitLast ':' line.toList
  let path :=
    if FileSystem.Fault.all.any fun fault => cause = ' ' :: fault.message.toList then
      front.take ((front.length - reading.length) / 2)
    else front
  (String.ofList path, String.ofList (line.toList.drop (path.length + 2)))

theorem readLine_eq {line : String} {front cause : List Char}
    (hline : line.toList = front ++ ':' :: ' ' :: cause) (hcause : ':' ∉ cause) :
    readLine line =
      let path := if FileSystem.Fault.all.any fun fault => cause = fault.message.toList then
        front.take ((front.length - reading.length) / 2) else front
      (String.ofList path, String.ofList (line.toList.drop (path.length + 2))) := by
  have hsplit : Text.splitLast ':' line.toList = (front, ' ' :: cause) := by
    rw [hline]
    exact Text.splitLast_append front (by simpa using hcause)
  simp only [readLine, hsplit, List.cons.injEq, true_and]

/-- What is told of a failure can be read back. -/
theorem readLine_message {f : Failure} (h : fs.Skips f.path f.error) :
    readLine f.message = (f.path.text, f.error.message) := by
  obtain ⟨p, e⟩ := f
  change fs.Skips p e at h
  have herror : (mk p e).message.toList.drop (p.text.toList.length + 2) = e.message.toList := by
    have hmessage : (mk p e).message = p.text ++ ": " ++ e.message := rfl
    rw [hmessage, String.toList_append]
    exact List.drop_left' (by simp)
  cases h with
  | @unreadable fault _ =>
    have hcause : (FileSystem.Fault.all.any fun other => fault.message.toList =
        other.message.toList) = true :=
      List.any_eq_true.mpr ⟨fault, fault.mem_all, decide_eq_true rfl⟩
    have hhalf : (p.text.toList ++ reading ++ p.text.toList).take
        (((p.text.toList ++ reading ++ p.text.toList).length - reading.length) / 2) =
          p.text.toList := by
      rw [List.append_assoc]
      exact List.take_left' (by simp; omega)
    rw [readLine_eq (toList_message_unreadable p fault) fault.colon_notMem_message]
    simp only [hcause, if_true, hhalf, herror, String.ofList_toList]
  | @faulty _ fault _ _ =>
    have hcause : (FileSystem.Fault.all.any fun other => fault.message.toList =
        other.message.toList) = false := by
      refine List.any_eq_false.mpr fun other _ hsame => ?_
      exact fault.message_ne other (String.toList_inj.mp (of_decide_eq_true hsame))
    rw [readLine_eq (toList_message_faulty p fault)
      (fault.notMem_message (by decide) (by decide))]
    simp only [hcause, Bool.false_eq_true, if_false, herror, String.ofList_toList]

end Failure

namespace Scanner

variable {σ : Type} {s : Scanner} {fs : FileSystem} {path : Path} {w : Writer σ} {out : σ}
  {p : Progress σ}

/-- Every failure of a scan has a reason. -/
theorem skips_of_scan (h : s.scan fs path w out = .ok p) :
    ∀ f ∈ p.survey.failures, fs.Skips f.path f.error := by
  obtain ⟨cs, kept, skipped, -, hdivides⟩ := exists_divides_of_scan h
  have hskips : List.Forall₂ (fun f _ => fs.Skips f.path f.error ∧ True) p.survey.failures
      skipped := by
    refine (hdivides.failure_at.imp fun i f hf => ?_).flip
    obtain ⟨c, e, -, hskips, rfl⟩ := hf
    exact ⟨hskips, trivial⟩
  exact ((List.forall₂_and_left _ _).mp hskips).1

/-- A writer that keeps what it is given has been given one text for each failure. -/
theorem diagnostics_of_scan {view : σ → String} (hw : w.Keeps view) (hout : view out = "")
    (h : s.scan fs path w out = .ok p) :
    view p.out = Report.unlines (p.survey.failures.map (·.message)) := by
  obtain ⟨cs, -, hcs, -⟩ := exists_of_scan h
  obtain ⟨start, events, hstart, -, hempty, hscan⟩ := scan_eq_ok hcs w out
  obtain rfl := Except.ok.inj (h.symm.trans hscan)
  have hbefore : view start.out = "" ++ start.survey.diagnostics := by
    rw [hempty, hout, hstart]
    rfl
  have hrun := Progress.run_diagnostics fs hw hbefore cs
  rw [String.empty_append] at hrun
  rw [Report.unlines, List.map_map]
  exact hrun

/-- Each failure of a scan gives one line and one more for each line feed in its path, as often as
the path is told. So there is one line for each failure exactly if no path of a failure has a line
feed in it, and then each line starts with the path and a colon, and the list of failures can be read
back from the lines. -/
theorem diagnostics_exact (s : Scanner) {e : Entry} (hfind : fs.find path = .ok e)
    {view : σ → String} (hw : w.Keeps view) (hout : view out = "") :
    ∃ p, s.scan fs path w out = .ok p ∧
      Text.endedLines (view p.out) = p.survey.failures.flatMap (fun f =>
        Text.pieces '\n' (f.path.text ++ ": " ++ f.error.message)) ∧
      (Text.endedLines (view p.out)).length = (p.survey.failures.map fun f =>
        f.pathsTold * f.path.text.toList.count '\n' + 1).sum ∧
      ((Text.endedLines (view p.out)).length = p.survey.failures.length ↔
        ∀ f ∈ p.survey.failures, '\n' ∉ f.path.text.toList) ∧
      ((∀ f ∈ p.survey.failures, '\n' ∉ f.path.text.toList) →
        Text.endedLines (view p.out) = p.survey.failures.map (fun f =>
          f.path.text ++ ": " ++ f.error.message) ∧
        (Text.endedLines (view p.out)).map Failure.readLine =
          p.survey.failures.map fun f => (f.path.text, f.error.message)) := by
  obtain ⟨p, hscan⟩ := (s.exists_scan_iff fs path w out).mpr ⟨e, hfind⟩
  have hskips := skips_of_scan hscan
  have hlines : Text.endedLines (view p.out) =
      p.survey.failures.flatMap fun f => Text.pieces '\n' f.message := by
    rw [diagnostics_of_scan hw hout hscan, Text.endedLines_unlines, List.flatMap_map]
  have hlength : (Text.endedLines (view p.out)).length = (p.survey.failures.map fun f =>
      f.pathsTold * f.path.text.toList.count '\n' + 1).sum := by
    rw [hlines, List.length_flatMap]
    refine congrArg List.sum (List.map_congr_left fun f hf => ?_)
    rw [Text.length_pieces, Failure.count_message (hskips f hf)]
  refine ⟨p, hscan, hlines, hlength, ?_, fun hpaths => ?_⟩
  · rw [hlength, Failure.sum_lines_eq_iff]
  · have hlone : Text.endedLines (view p.out) = p.survey.failures.map (·.message) := by
      rw [hlines, List.map_eq_flatMap]
      refine List.flatMap_congr fun f hf => Text.pieces_of_notMem ?_
      rw [← List.count_eq_zero, Failure.count_message (hskips f hf),
        List.count_eq_zero.mpr (hpaths f hf), Nat.mul_zero]
    refine ⟨hlone, ?_⟩
    rw [hlone, List.map_map]
    exact List.map_congr_left fun f hf => Failure.readLine_message (hskips f hf)

/-- Two files that are no text, one of them with a line feed in its name. -/
def broken : FileSystem :=
  { root := [("c.rb", .file ⟨#[255]⟩), ("d", .directory [("a\nb.rb", .file ⟨#[255]⟩)])] }

theorem keeps_collect : Writer.collect.Keeps id := fun _ _ => rfl

theorem diagnostics_exact_lone : ∃ p,
    scan ⟨{ exclude := "" }, none⟩ broken ⟨"c.rb"⟩ Writer.collect "" = .ok p ∧
      p.survey.failures = [⟨⟨"c.rb"⟩, .unreadable ⟨"c.rb"⟩ .notText⟩] ∧
      (Text.endedLines p.out).length = p.survey.failures.length ∧
      (Text.endedLines p.out).map Failure.readLine =
        [("c.rb", "I/O error reading c.rb: stream did not contain valid UTF-8")] := by
  have hfind : broken.find ⟨"c.rb"⟩ = .ok (.file ⟨#[255]⟩) := rfl
  have hfault : broken.readText ⟨"c.rb"⟩ = .error .notText := rfl
  have hcs : candidates ⟨{ exclude := "" }, none⟩ broken ⟨"c.rb"⟩ = .ok [⟨"c.rb"⟩] := by
    obtain ⟨location, hresolve, hentry⟩ := FileSystem.find_eq_ok hfind
    exact candidates_of_not_directory hresolve hentry (by simp)
  obtain ⟨p, hscan, -, -, hone, hread⟩ := diagnostics_exact ⟨{ exclude := "" }, none⟩ hfind
    keeps_collect (rfl : id "" = "")
  have hsurvey := survey_of_unreadable hcs hfault hscan
  have hpaths : ∀ f ∈ p.survey.failures, '\n' ∉ f.path.text.toList := by
    rw [hsurvey]
    decide
  refine ⟨p, hscan, by rw [hsurvey], hone.mpr hpaths, (hread hpaths).2.trans ?_⟩
  rw [hsurvey]
  rfl

theorem candidates_broken :
    candidates ⟨{ exclude := "" }, none⟩ broken ⟨"d"⟩ = .ok [⟨"d/a\nb.rb"⟩] := by
  have he : broken.entryAt? ["d"] = some (.directory [("a\nb.rb", .file ⟨#[255]⟩)]) := rfl
  have hnames : (Entry.directory [("a\nb.rb", .file ⟨#[255]⟩)]).names = ["a\nb.rb"] := by
    simp [Entry.names, List.eraseDups_cons]
  have hwalk : walk broken false (walkLimit broken) [⟨⟨"d"⟩, ["d"]⟩] = [.ok ⟨"d/a\nb.rb"⟩] := by
    rw [show walkLimit broken = 5 + 1 from rfl, walk_succ he, hnames]
    rfl
  rw [candidates_of_directory rfl he, hwalk]
  rfl

/-- A line feed in a name: three lines for one failure, and the first is not even its path. -/
theorem diagnostics_broken : ∃ p,
    scan ⟨{ exclude := "" }, none⟩ broken ⟨"d"⟩ Writer.collect "" = .ok p ∧
      p.survey.failures = [⟨⟨"d/a\nb.rb"⟩, .unreadable ⟨"d/a\nb.rb"⟩ .notText⟩] ∧
      Text.endedLines p.out =
        ["d/a", "b.rb: I/O error reading d/a", "b.rb: stream did not contain valid UTF-8"] ∧
      (Text.endedLines p.out).length ≠ p.survey.failures.length := by
  have hfind : broken.find ⟨"d"⟩ = .ok (.directory [("a\nb.rb", .file ⟨#[255]⟩)]) := rfl
  have hfault : broken.readText ⟨"d/a\nb.rb"⟩ = .error .notText := rfl
  obtain ⟨p, hscan⟩ := (exists_scan_iff _ broken ⟨"d"⟩ Writer.collect "").mpr ⟨_, hfind⟩
  have hsurvey := survey_of_unreadable candidates_broken hfault hscan
  have hlines : Text.endedLines p.out =
      ["d/a", "b.rb: I/O error reading d/a", "b.rb: stream did not contain valid UTF-8"] := by
    have hout := diagnostics_of_scan keeps_collect rfl hscan
    rw [hsurvey] at hout
    rw [show p.out = _ from hout]
    decide
  refine ⟨p, hscan, by rw [hsurvey], hlines, ?_⟩
  rw [hlines, hsurvey]
  decide

end Scanner

end Outline
