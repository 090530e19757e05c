import PluginBuild.Proofs.Script.FieldLines
import PluginBuild.Proofs.Text.Lines
import PluginBuild.Script.Codecs

/-!
The line that an error shows. The parser counts line feeds; the line that is shown is looked up in the text
cut at every break. So what is shown is the line of the error only as long as no other break stands on that
line or above it.
-/

namespace PluginBuild

open PluginBuild.Script PluginBuild.Text

/-- The line of a number as the parser counts. -/
def parserLine (text : String) (line : Nat) : String := (split '\n' text).getD (line - 1) ""

/-- The line of a number if every break ends one. -/
def brokenLine (text : String) (line : Nat) : String :=
  String.ofList ((text.toList.splitOnP isLineBreak).getD (line - 1) [])

theorem lineAt_eq_brokenLine {text : String} (absent : '\r' ∉ text.toList) {line : Nat} (first : 1 ≤ line) :
    lineAt text line = brokenLine text line := by
  rw [lineAt, if_neg (by omega), Int.toNat_natCast, splitLines_getD absent, brokenLine]

theorem parserLine_eq (text : String) (line : Nat) :
    parserLine text line = String.ofList ((pieces '\n' text.toList).getD (line - 1) []) := by
  rw [parserLine, split, List.getD_eq_getElem?_getD, List.getD_eq_getElem?_getD, List.getElem?_map]
  cases (pieces '\n' text.toList)[line - 1]? <;> rfl

theorem brokenLine_eq_parserLine_iff (text : String) (n : Nat) :
    (∀ line, 1 ≤ line → line ≤ n → brokenLine text line = parserLine text line) ↔
      ∀ piece ∈ (split '\n' text).take n, ∀ c ∈ piece.toList, isLineBreak c = false := by
  have counted : (∀ line, 1 ≤ line → line ≤ n → brokenLine text line = parserLine text line) ↔
      ∀ i < n, (text.toList.splitOnP isLineBreak).getD i [] = (pieces '\n' text.toList).getD i [] := by
    constructor
    · intro agree i below
      have same := agree (i + 1) (by omega) below
      rw [parserLine_eq, brokenLine, String.ofList_inj] at same
      exact same
    · intro agree line first last
      rw [parserLine_eq, brokenLine, agree (line - 1) (by omega)]
  rw [counted, splitOnP_agrees_iff, split, ← List.map_take, List.forall_mem_map]
  simp only [String.toList_ofList]

theorem return_notMem_shown (source : SourceText) : '\r' ∉ source.shown.toList := by
  rw [SourceText.shown, String.toList_ofList]
  exact return_notMem_normalizeNewlines _

theorem count_endLastLine_le (source : SourceText) :
    (Lexer.endLastLine source.parsed).count '\n' ≤ (split '\n' source.shown).length := by
  rw [split, List.length_map, length_pieces, SourceText.shown, String.toList_ofList, SourceText.parsed]
  by_cases last : source.chars.getLast? = some '\r'
  · obtain ⟨front, whole⟩ := List.getLast?_eq_some_iff.mp last
    have ended : (normalizeNewlines front ++ ['\n']).getLast? = some '\n' := List.getLast?_concat
    rw [if_pos last, whole, List.dropLast_concat, normalizeNewlines_append_return, Lexer.endLastLine,
      if_pos ended, List.count_append]
    exact Nat.le_refl _
  · rw [if_neg last, Lexer.endLastLine]
    split
    · omega
    · rw [List.count_append]
      exact Nat.le_refl _

theorem error_delivers {unit : SourceUnit} (absent : '\r' ∉ unit.text.toList) (configuration : Configuration)
    (tree : Module) {pos : Pos} (first : 1 ≤ pos.line) (message : String) (f : Findings) (w : Workspace) :
    (finalState ((Analysis.error ⟨configuration, unit, tree⟩ pos message).run f w)).diagnostics =
      w.diagnostics ++
        [⟨.error, unit.path, pos.line, pos.column + 1, message, brokenLine unit.text pos.line⟩] := by
  let call : Analysis.Report := .error (some pos.line) (some pos.column) message
  have told : call.diagnostic ⟨configuration, unit, tree⟩ =
      ⟨.error, unit.path, pos.line, pos.column + 1, message, brokenLine unit.text pos.line⟩ := by
    have counted : orOne (some (pos.line : Int)) = pos.line := if_neg (by omega)
    rw [Analysis.Report.diagnostic, counted, SourceUnit.diagnostic, lineAt_eq_brokenLine absent first]
    rfl
  have delivered := configuration.sink.deliver_diagnostics (call.diagnostic ⟨configuration, unit, tree⟩) w
  rw [show (Analysis.error _ pos message).run f w = _ from call.make_run ⟨configuration, unit, tree⟩ f w,
    ← told, ← delivered]
  split <;> rename_i ended <;> rw [ended] <;> rfl

/-- An error at a node is reported with the number of a line of the text. What it shows is the line of this
number if every break ends one; up to there these are the lines of the parser if and only if none of those
has another break in it. -/
theorem error_shows_brokenLine {codec? : String → Option Codec} {path : Path} {isScript : Bool}
    {bytes : Bytes} {unit : SourceUnit} (made : SourceUnit.ofBytes codec? path isScript bytes = .ok unit)
    {tree : Module} (parsed : unit.tree = .ok tree) {n : Node} (among : n ∈ walk tree.nodes) {pos : Pos}
    (place : n.pos? = some pos) (configuration : Configuration) (message : String) (f : Findings) (w : Workspace) :
    (1 ≤ pos.line ∧ pos.line ≤ (split '\n' unit.text).length) ∧
    (finalState ((Analysis.error ⟨configuration, unit, tree⟩ pos message).run f w)).diagnostics =
      w.diagnostics ++
        [⟨.error, unit.path, pos.line, pos.column + 1, message, brokenLine unit.text pos.line⟩] ∧
    ((∀ line, 1 ≤ line → line ≤ pos.line → brokenLine unit.text line = parserLine unit.text line) ↔
      ∀ piece ∈ (split '\n' unit.text).take pos.line, ∀ c ∈ piece.toList, isLineBreak c = false) := by
  obtain ⟨source, -, text, parse⟩ := SourceUnit.decoded_of_tree made parsed
  obtain ⟨first, last⟩ := line_of_parse parse among place
  have whole : pos.line ≤ (split '\n' unit.text).length :=
    text ▸ Nat.le_trans last (count_endLastLine_le source)
  have absent : '\r' ∉ unit.text.toList := text ▸ return_notMem_shown source
  exact ⟨⟨first, whole⟩, error_delivers absent configuration tree first message f w,
    brokenLine_eq_parserLine_iff unit.text pos.line⟩

/-- A line separator in a string, and a statement on the next line that is not allowed there. -/
def separatedText : String := "x = '\u2028'\nreturn\n"

theorem exists_separated_return : ∃ unit tree n,
    SourceUnit.ofBytes (fun _ => none) (Path.ofString "a.plugin.py") true (encodeUtf8 separatedText) =
        .ok unit ∧
      unit.tree = .ok tree ∧ unit.text = separatedText ∧ n ∈ walk tree.nodes ∧ n.kind = "Return" ∧
      n.pos? = some ⟨2, 0⟩ := by
  have computed : ((SourceUnit.ofBytes (fun _ => none) (Path.ofString "a.plugin.py") true
      (encodeUtf8 separatedText)).toOption.any fun unit => unit.tree.toOption.any fun tree =>
        unit.text == separatedText && (walk tree.nodes).any fun n => n.kind == "Return" && n.pos? == some ⟨2, 0⟩) = true := by decide +kernel
  cases made : SourceUnit.ofBytes (fun _ => none) (Path.ofString "a.plugin.py") true
      (encodeUtf8 separatedText) with
  | error e =>
    rw [made] at computed
    cases computed
  | ok unit =>
    rw [made, Except.toOption, Option.any_some] at computed
    cases parsed : unit.tree with
    | error e =>
      rw [parsed] at computed
      cases computed
    | ok tree =>
      rw [parsed, Except.toOption, Option.any_some, Bool.and_eq_true, beq_iff_eq, List.any_eq_true] at computed
      obtain ⟨text, n, among, found⟩ := computed
      rw [Bool.and_eq_true, beq_iff_eq, beq_iff_eq] at found
      exact ⟨unit, tree, n, rfl, parsed, text, among, found⟩

theorem separated_lines : brokenLine separatedText 2 = "'" ∧ parserLine separatedText 2 = "return" := by decide

/-- The error for the statement shows what stands behind the separator on the line above. -/
theorem error_shows_separated : ∃ unit tree n,
    SourceUnit.ofBytes (fun _ => none) (Path.ofString "a.plugin.py") true (encodeUtf8 separatedText) =
        .ok unit ∧
      unit.tree = .ok tree ∧ n ∈ walk tree.nodes ∧ n.kind = "Return" ∧ n.pos? = some ⟨2, 0⟩ ∧
      (1 ≤ 2 ∧ 2 ≤ (split '\n' unit.text).length) ∧
      (finalState ((Analysis.error ⟨⟨[], .plugin, "m", .collecting, [], true⟩, unit, tree⟩ ⟨2, 0⟩
        "'return' is not allowed in the script body").run ⟨SymbolIndex.ofEntries [], 0⟩
          ⟨⟨[], [], .plain⟩, [], [], [], []⟩)).diagnostics =
          [⟨.error, unit.path, 2, 1, "'return' is not allowed in the script body", "'"⟩] ∧
      ¬ ∀ line, 1 ≤ line → line ≤ 2 → brokenLine unit.text line = parserLine unit.text line := by
  obtain ⟨unit, tree, n, made, parsed, text, among, kind, place⟩ := exists_separated_return
  obtain ⟨line, shown, agree⟩ := error_shows_brokenLine made parsed among place
    ⟨[], .plugin, "m", .collecting, [], true⟩ "'return' is not allowed in the script body"
    ⟨SymbolIndex.ofEntries [], 0⟩ ⟨⟨[], [], .plain⟩, [], [], [], []⟩
  refine ⟨unit, tree, n, made, parsed, among, kind, place, line, ?_, fun same => ?_⟩
  · rw [shown, text, separated_lines.1]
    rfl
  · have plain := agree.mp same
    rw [text] at plain
    exact absurd (plain "x = '\u2028'" (by decide) '\u2028' (by decide)) (by decide)

/-- For this text no sink is shown the line that the parser means. -/
theorem separated_line_differs : ∃ unit tree n pos,
    SourceUnit.ofBytes (fun _ => none) (Path.ofString "a.plugin.py") true (encodeUtf8 separatedText) =
        .ok unit ∧
      unit.tree = .ok tree ∧ n ∈ walk tree.nodes ∧ n.pos? = some pos ∧
      ∀ configuration message f w, ∃ d : Diagnostic,
        (finalState ((Analysis.error ⟨configuration, unit, tree⟩ pos message).run f w)).diagnostics =
          w.diagnostics ++ [d] ∧ d.line = pos.line ∧ d.content ≠ parserLine unit.text pos.line := by
  obtain ⟨unit, tree, n, made, parsed, text, among, -, place⟩ := exists_separated_return
  refine ⟨unit, tree, n, ⟨2, 0⟩, made, parsed, among, place, fun configuration message f w => ?_⟩
  have absent : '\r' ∉ unit.text.toList := text ▸ by decide
  refine ⟨_, error_delivers absent configuration tree (by decide) message f w, rfl, ?_⟩
  rw [text, separated_lines.1, separated_lines.2]
  exact (by decide : "'" ≠ "return")

end PluginBuild
