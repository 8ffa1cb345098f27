import ApiTools.Catalog.Source
import ApiTools.Proofs.Binding
import ApiTools.Proofs.Keyed
import ApiTools.Proofs.Text.Split

/-!
# The version of the description in the compiled module

The version stands as it is in a comment of the module, where all other texts of the description
stand in literals. A comment ends with its line, so the lines of the version behind its first one
are lines of the module. Two versions give the same code exactly when these lines are the same but
for comments, and in particular when each version is a single line.
-/

namespace ApiTools

open Binding

/-! ## Lines of a text -/

namespace Text

/-- The character ends a line, of which `rest` is behind it. A carriage return before a line feed
belongs to the same end. -/
def endsLine (c : Char) (rest : List Char) : Bool :=
  c = '\n' || (c = '\r' && rest.head? ≠ some '\n')

/-- The lines of a text, which end with a line feed, a carriage return, or both together. -/
def lines : List Char → List (List Char)
  | [] => [[]]
  | c :: rest =>
    if endsLine c rest then [] :: lines rest
    else if c = '\r' then lines rest
    else (lines rest).modifyHead (List.cons c)

/-- The line is not made a comment by a number sign in front. -/
def isCode (line : List Char) : Bool :=
  line.head? ≠ some '#'

/-- The lines that are not comments. -/
def codeLines (text : List Char) : List (List Char) :=
  (lines text).filter isCode

theorem lines_lineFeed (rest : List Char) : lines ('\n' :: rest) = [] :: lines rest :=
  rfl

theorem lines_carriageReturn {rest : List Char} (noLineFeed : rest.head? ≠ some '\n') :
    lines ('\r' :: rest) = [] :: lines rest := by
  have endsHere : endsLine '\r' rest = true := by
    simpa [endsLine] using noLineFeed
  rw [lines, if_pos endsHere]

theorem lines_of_ne {c : Char} (notFeed : c ≠ '\n') (notReturn : c ≠ '\r') (rest : List Char) :
    lines (c :: rest) = (lines rest).modifyHead (List.cons c) := by
  have goesOn : ¬ endsLine c rest = true := by
    simp [endsLine, notFeed, notReturn]
  rw [lines, if_neg goesOn, if_neg notReturn]

theorem exists_lines_eq_cons (text : List Char) : ∃ first others, lines text = first :: others := by
  induction text with
  | nil => exact ⟨[], [], rfl⟩
  | cons c rest inductionHypothesis =>
      obtain ⟨first, others, split⟩ := inductionHypothesis
      rw [lines, split]
      split
      · exact ⟨[], first :: others, rfl⟩
      · split
        · exact ⟨first, others, rfl⟩
        · exact ⟨c :: first, others, rfl⟩

/-- A text within a line makes the first line longer. -/
theorem lines_append_of_single {start : List Char} (noFeed : '\n' ∉ start) (noReturn : '\r' ∉ start)
    (rest : List Char) : lines (start ++ rest) = (lines rest).modifyHead (start ++ ·) := by
  induction start with
  | nil =>
      obtain ⟨first, others, split⟩ := exists_lines_eq_cons rest
      rw [List.nil_append, split]
      rfl
  | cons c others inductionHypothesis =>
      rw [List.mem_cons, not_or] at noFeed noReturn
      rw [List.cons_append, lines_of_ne (Ne.symm noFeed.1) (Ne.symm noReturn.1),
        inductionHypothesis noFeed.2 noReturn.2, List.modifyHead_modifyHead]
      rfl

/-- Behind a line feed a new line begins. -/
theorem lines_append_lineFeed {start : List Char} (noReturn : start.getLast? ≠ some '\r')
    (rest : List Char) : lines (start ++ '\n' :: rest) = lines start ++ lines rest := by
  induction start with
  | nil => rfl
  | cons c others inductionHypothesis =>
      have othersNoReturn : others.getLast? ≠ some '\r' := by
        intro isReturn
        apply noReturn
        rw [List.getLast?_cons, isReturn, Option.getD_some]
      have sameEnd : endsLine c (others ++ '\n' :: rest) = endsLine c others := by
        cases others with
        | nil =>
            have notReturn : c ≠ '\r' := by
              rintro rfl
              exact noReturn rfl
            simp [endsLine, notReturn]
        | cons other more => rfl
      obtain ⟨first, lasts, split⟩ := exists_lines_eq_cons others
      rw [List.cons_append, lines, lines, sameEnd, inductionHypothesis othersNoReturn, split]
      split
      · rfl
      · split
        · rfl
        · rfl

end Text

namespace Catalog

theorem unlines_append (first second : List (List Char)) :
    unlines (first ++ second) = unlines first ++ unlines second :=
  List.flatMap_append

theorem lines_unlines_append {single : List (List Char)}
    (noEnds : ∀ line ∈ single, '\n' ∉ line ∧ '\r' ∉ line) (rest : List Char) :
    Text.lines (unlines single ++ rest) = single ++ Text.lines rest := by
  induction single with
  | nil => rfl
  | cons line others inductionHypothesis =>
      rw [List.forall_mem_cons] at noEnds
      have isLine : unlines (line :: others) ++ rest =
          line ++ '\n' :: (unlines others ++ rest) := by
        simp [unlines]
      rw [isLine, Text.lines_append_of_single noEnds.1.1 noEnds.1.2, Text.lines_lineFeed,
        List.modifyHead_cons, List.append_nil, inductionHypothesis noEnds.2]
      rfl

/-! ## The header -/

/-- What stands in the module behind the version, in its line. -/
def behindVersion : List Char :=
  ") and simkl_mcp/tools_config.py.".toList

/-- The lines of the module that begin within the version and are not comments. -/
def strayLines (version : List Char) : List (List Char) :=
  ((Text.lines (version ++ behindVersion)).drop 1).filter Text.isCode

/-- The lines of the module up to the one that ends the version, and some behind it. -/
def linesFor (version : List Char) (rest : List (List Char)) : List (List Char) :=
  ["# AUTOGENERATED - DO NOT EDIT".toList,
    "# Generated by `python -m generator` from the Simkl API description".toList] ++
    ["# (version ".toList ++ version ++ behindVersion] ++ rest

theorem strayLines_eq_nil {version : List Char} (noFeed : '\n' ∉ version)
    (noReturn : '\r' ∉ version) : strayLines version = [] := by
  have isSingle : Text.lines behindVersion = [behindVersion] := by
    decide
  rw [strayLines, Text.lines_append_of_single noFeed noReturn, isSingle]
  rfl

/-- The code in the module is what comes from the version, and what is behind it. -/
theorem codeLines_linesFor (version : List Char) (rest : List (List Char)) :
    Text.codeLines (unlines (linesFor version rest)) =
      strayLines version ++ Text.codeLines (unlines rest) := by
  obtain ⟨first, others, split⟩ := Text.exists_lines_eq_cons (version ++ behindVersion)
  have noReturn : (version ++ behindVersion).getLast? ≠ some '\r' := by
    rw [List.getLast?_append_of_ne_nil version (by decide)]
    decide
  have versionLines : Text.lines (unlines ["# (version ".toList ++ version ++ behindVersion] ++
      unlines rest) = ("# (version ".toList ++ first) :: others ++ Text.lines (unlines rest) := by
    have isLine : unlines ["# (version ".toList ++ version ++ behindVersion] ++ unlines rest =
        "# (version ".toList ++ ((version ++ behindVersion) ++ '\n' :: unlines rest) := by
      simp [unlines]
    rw [isLine, Text.lines_append_of_single (by decide) (by decide),
      Text.lines_append_lineFeed noReturn, split]
    rfl
  have isComment : ¬ Text.isCode ("# (version ".toList ++ first) = true := by
    simp [Text.isCode]
  rw [linesFor, unlines_append, unlines_append, List.append_assoc, Text.codeLines,
    lines_unlines_append (by decide), versionLines, strayLines, split, Text.codeLines,
    List.filter_append, List.filter_append, List.filter_cons_of_neg isComment]
  rfl

theorem headerLines_eq (version : Json) :
    headerLines version = linesFor version.shown ((headerLines .null).drop 3) :=
  rfl

theorem linesFor_append (version : List Char) (rest more : List (List Char)) :
    linesFor version rest ++ more = linesFor version (rest ++ more) :=
  List.append_assoc _ _ _

/-! ## Descriptions with a version -/

/-- A description with the given version. -/
def versioned (fields information : List (String × Json)) (version : String) : Json :=
  .obj (Keyed.put "info" (.obj (Keyed.put "version" (.str version) information)) fields)

/-- The source of the module for a description and a whitelist. -/
def render (description : Json) (whitelist : List WhitelistEntry) : Except Fault String := do
  (← compile description whitelist).source

variable {fields information : List (String × Json)} {whitelist : List WhitelistEntry}
  {version : String}

/-- Every description that holds a version is one with a given version. -/
theorem versioned_eq_self (hasInformation : Keyed.get? "info" fields = some (.obj information))
    (hasVersion : Keyed.get? "version" information = some (.str version)) :
    versioned fields information version = .obj fields := by
  rw [versioned, Keyed.put_eq_self hasVersion, Keyed.put_eq_self hasInformation]

theorem compileEntry_versioned (entry : WhitelistEntry) (other : String) :
    compileEntry (versioned fields information version) entry =
      compileEntry (versioned fields information other) entry := by
  have samePaths : (versioned fields information version).memberOr "paths" (.obj []) =
      (versioned fields information other).memberOr "paths" (.obj []) := by
    rw [versioned, versioned, Json.memberOr, Json.memberOr, Keyed.get?_put_of_ne (by decide),
      Keyed.get?_put_of_ne (by decide)]
  rw [compileEntry, compileEntry, operation, operation, samePaths]

theorem memberOr_info_versioned :
    (versioned fields information version).memberOr "info" (.obj []) =
      .ok (.obj (Keyed.put "version" (.str version) information)) := by
  rw [versioned, Json.memberOr, Keyed.get?_put_self, Option.getD_some]

theorem memberOr_version_versioned :
    (Json.obj (Keyed.put "version" (.str version) information)).memberOr "version"
      (.str "unknown") = .ok (.str version) := by
  rw [Json.memberOr, Keyed.get?_put_self, Option.getD_some]

/-- Compiling takes nothing from the version but itself. -/
theorem compile_versioned {catalog : Catalog}
    (compiled : compile (versioned fields information version) whitelist = .ok catalog) :
    catalog.version = .str version ∧ ∀ other,
      compile (versioned fields information other) whitelist =
        .ok { catalog with version := .str other } := by
  simp only [compile, memberOr_info_versioned, memberOr_version_versioned, ok_bind, bind_eq_ok_iff,
    pure_eq_ok, Except.ok.injEq] at compiled
  obtain ⟨results, resultsDone, rfl⟩ := compiled
  refine ⟨rfl, fun other => ?_⟩
  have sameResults : whitelist.mapM (compileEntry (versioned fields information other)) =
      .ok results := by
    rw [← resultsDone]
    exact mapM_congr fun entry _ => compileEntry_versioned entry version
  rw [compile, sameResults, ok_bind, memberOr_info_versioned, ok_bind, memberOr_version_versioned,
    ok_bind]
  rfl

/-- In the module the version stands in one place. -/
theorem exists_render_versioned {source : String}
    (rendered : render (versioned fields information version) whitelist = .ok source) :
    ∃ rest, ∀ other, render (versioned fields information other) whitelist =
      .ok (String.ofList (unlines (linesFor other.toList rest))) := by
  simp only [render, bind_eq_ok_iff] at rendered
  obtain ⟨catalog, compiled, written⟩ := rendered
  obtain ⟨isVersion, otherCompiled⟩ := compile_versioned compiled
  simp only [Catalog.source, sourceLines, bind_eq_ok_iff] at written
  obtain ⟨_, ⟨formatters, formattersDone, -⟩, -⟩ := written
  refine ⟨(headerLines .null).drop 3 ++ (["FORMATTERS = \x7b".toList] ++ (formatters ++
    ([['\x7d'], []] ++ (catalog.tools.flatMap modelLines ++
    ([[], [], "TOOLS = [".toList] ++ (catalog.tools.flatMap toolLines ++ ([[']']] ++
    registrationLines))))))), fun other => ?_⟩
  rw [render, otherCompiled, ok_bind, Catalog.source, sourceLines, formattersDone, ok_bind,
    pure_eq_ok, ok_bind, pure_eq_ok, headerLines_eq, ← linesFor_append]
  simp only [List.append_assoc]
  rfl

/-- The code of the module is what comes from the version, and the same behind that for every
version. -/
theorem exists_codeLines_render {source : String}
    (rendered : render (versioned fields information version) whitelist = .ok source) :
    ∃ common, ∀ other, ∃ otherSource,
      render (versioned fields information other) whitelist = .ok otherSource ∧
        Text.codeLines otherSource.toList = strayLines other.toList ++ common := by
  obtain ⟨rest, otherRendered⟩ := exists_render_versioned rendered
  refine ⟨Text.codeLines (unlines rest), fun other => ⟨_, otherRendered other, ?_⟩⟩
  rw [String.toList_ofList, codeLines_linesFor]

/-- Where the module can be written for a description, it can be with any other version. The code in
both is the same exactly if the same lines come from the versions, so in particular if each version
is a single line. -/
theorem codeLines_eq_iff {source : String}
    (rendered : render (versioned fields information version) whitelist = .ok source)
    (other : String) :
    ∃ otherSource, render (versioned fields information other) whitelist = .ok otherSource ∧
      (Text.codeLines source.toList = Text.codeLines otherSource.toList ↔
        strayLines version.toList = strayLines other.toList) ∧
      ((∀ text ∈ [version, other], '\n' ∉ text.toList ∧ '\r' ∉ text.toList) →
        Text.codeLines source.toList = Text.codeLines otherSource.toList) := by
  obtain ⟨common, eachRendered⟩ := exists_codeLines_render rendered
  obtain ⟨same, sameRendered, code⟩ := eachRendered version
  obtain ⟨otherSource, otherRendered, otherCode⟩ := eachRendered other
  obtain rfl : source = same := Except.ok.inj (rendered.symm.trans sameRendered)
  refine ⟨otherSource, otherRendered, ?_⟩
  rw [code, otherCode, List.append_left_inj]
  refine ⟨Iff.rfl, fun single => ?_⟩
  rw [List.forall_mem_cons, List.forall_mem_singleton] at single
  rw [strayLines_eq_nil single.1.1 single.1.2, strayLines_eq_nil single.2.1 single.2.2]

/-- A description with a version and one operation. -/
def versionedSearch (version : String) : Json :=
  versioned [("paths", .obj [("/search/id", .obj [("get", .obj [])])])] [] version

/-- A second line of the version that is a comment itself makes no difference. -/
theorem codeLines_eq_of_commentedVersion :
    ∃ source otherSource,
      render (versionedSearch "1") [.json "/search/id" "get"] = .ok source ∧
      render (versionedSearch "2\n# draft") [.json "/search/id" "get"] = .ok otherSource ∧
      Text.codeLines source.toList = Text.codeLines otherSource.toList := by
  have renders : (render (versionedSearch "1") [.json "/search/id" "get"]).isOk = true := by
    decide +kernel
  cases rendered : render (versionedSearch "1") [.json "/search/id" "get"] with
  | error fault =>
      rw [rendered] at renders
      cases renders
  | ok source =>
      obtain ⟨otherSource, otherRendered, sameCode, -⟩ := codeLines_eq_iff rendered "2\n# draft"
      exact ⟨source, otherSource, rfl, otherRendered, sameCode.2 (by decide +kernel)⟩

/-- The second line of a version is code of the module. -/
theorem codeLines_ne_of_brokenVersion :
    ∃ source otherSource, render (versioned [] [] "1") [] = .ok source ∧
      render (versioned [] [] "1\nimport os  #") [] = .ok otherSource ∧
      Text.codeLines source.toList ≠ Text.codeLines otherSource.toList := by
  have renders : (render (versioned [] [] "1") []).isOk = true := by
    decide +kernel
  cases rendered : render (versioned [] [] "1") [] with
  | error fault =>
      rw [rendered] at renders
      cases renders
  | ok source =>
      obtain ⟨common, eachRendered⟩ := exists_codeLines_render rendered
      obtain ⟨same, sameRendered, code⟩ := eachRendered "1"
      obtain ⟨otherSource, otherRendered, otherCode⟩ := eachRendered "1\nimport os  #"
      obtain rfl : source = same := Except.ok.inj (rendered.symm.trans sameRendered)
      refine ⟨source, otherSource, rfl, otherRendered, ?_⟩
      rw [code, otherCode, Ne, List.append_left_inj]
      decide +kernel

end Catalog

end ApiTools
