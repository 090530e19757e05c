import PluginBuild.Assembly
import PluginBuild.Proofs.Script.Lines
import PluginBuild.Proofs.Text.Pieces

/-!
The frame as text, and its tokens. For names that are identifiers, the text is five lines of words and
marks, and each line is scanned into the tokens that it is made of.
-/

namespace PluginBuild

open PluginBuild.Script PluginBuild.Script.Lexer PluginBuild.Text

/-- The names of a class and its template are identifiers, or identifiers with dots between them. -/
structure HasIdentifiers (c : PluginClass) (t : Template) : Prop where
  module : ∀ part ∈ split '.' t.module, isIdentifier part = true
  name : isIdentifier c.name = true
  base : ∀ part ∈ split '.' t.name, isIdentifier part = true
  receiver : isIdentifier t.receiver = true

namespace Frame

def dotted (gap : Nat) : List String → List Lexeme
  | [] => []
  | first :: further => .word gap first :: furtherParts further

def importLine (module : List String) : List Lexeme :=
  .word 0 "import" :: (dotted 1 module ++ [.word 1 "as", .word 1 templateAlias])

def classLine (name : String) (base : List String) : List Lexeme :=
  .word 0 "class" :: .word 1 name :: .mark 0 "(" :: .word 0 templateAlias ::
    (furtherParts base ++ [.mark 0 ")", .mark 0 ":"])

def methodLine : List Lexeme :=
  [.word 0 "def", .word 1 "__init__", .mark 0 "(", .word 0 "self", .mark 0 ",", .mark 1 "*",
    .word 0 "args", .mark 0 ",", .mark 1 "**", .word 0 "kwargs", .mark 0 ")", .mark 0 ":"]

def callLine : List Lexeme :=
  [.word 0 "super", .mark 0 "(", .mark 0 ")", .mark 0 ".", .word 0 "__init__", .mark 0 "(",
    .mark 0 "*", .word 0 "args", .mark 0 ",", .mark 1 "**", .word 0 "kwargs", .mark 0 ")"]

def receiverLine (receiver : String) : List Lexeme :=
  [.word 0 receiver, .mark 1 "=", .word 1 "self"]

theorem dotted_toList (gap : Nat) {parts : List String} (some : parts ≠ []) :
    lineText (dotted gap parts) = List.replicate gap ' ' ++ (join "." parts).toList := by
  obtain ⟨first, further, rfl⟩ := List.exists_cons_of_ne_nil some
  rw [← lineText_furtherParts]
  simp [dotted, lineText, Lexeme.chars, Lexeme.word]

theorem frameText_toList (c : PluginClass) (t : Template) :
    (frameText c t).toList =
      lineText (importLine (split '.' t.module)) ++ '\n' :: '\n' :: '\n' ::
        (lineText (classLine c.name (split '.' t.name)) ++ '\n' ::
          (List.replicate 4 ' ' ++ (lineText methodLine ++ '\n' ::
            (List.replicate 8 ' ' ++ (lineText callLine ++ '\n' ::
              (List.replicate 8 ' ' ++ (lineText (receiverLine t.receiver) ++ ['\n']))))))) := by
  have module := dotted_toList 1 (split_ne_nil '.' t.module)
  have base : templateAlias.toList ++ lineText (furtherParts (split '.' t.name)) =
      (templateAlias ++ "." ++ t.name).toList := by
    rw [lineText_furtherParts, ← List.singleton_append,
      join_append _ (List.cons_ne_nil templateAlias []) (split_ne_nil '.' t.name), join_split rfl]
    rfl
  have imports : lineText (importLine (split '.' t.module)) =
      ("import " ++ t.module ++ " as __script_template__").toList := by
    rw [importLine, lineText_cons, lineText_append, module, join_split rfl]
    simp [lineText, Lexeme.chars, Lexeme.word, templateAlias]
  have classes : lineText (classLine c.name (split '.' t.name)) =
      ("class " ++ c.name ++ "(__script_template__." ++ t.name ++ "):").toList := by
    simp only [classLine, lineText_cons, lineText_append]
    rw [← List.append_assoc (Lexeme.chars (.word 0 templateAlias)),
      show Lexeme.chars (.word 0 templateAlias) = templateAlias.toList from rfl, base]
    simp [lineText, Lexeme.chars, Lexeme.word, Lexeme.mark, templateAlias]
  have receives : lineText (receiverLine t.receiver) = (t.receiver ++ " = self").toList := by
    simp [receiverLine, lineText, Lexeme.chars, Lexeme.word, Lexeme.mark]
  rw [imports, classes, receives]
  simp [frameText, toString, lineText, methodLine, callLine, Lexeme.chars, Lexeme.word, Lexeme.mark]

theorem spelled_dotted {gap depth : Nat} {parts : List String} {rest : List Lexeme} (some : parts ≠ [])
    (identifiers : ∀ part ∈ parts, isIdentifier part = true) (ends : endsWord (headOf rest) = true)
    (more : Spelled depth rest) : Spelled depth (dotted gap parts ++ rest) := by
  obtain ⟨first, further, rfl⟩ := List.exists_cons_of_ne_nil some
  obtain ⟨spelled, ends⟩ := spelled_furtherParts
    (fun part member => identifiers part (List.mem_cons_of_mem first member)) ends more
  exact .word (identifiers first List.mem_cons_self) ends spelled

theorem spelled_importLine {module : List String} (some : module ≠ [])
    (identifiers : ∀ part ∈ module, isIdentifier part = true) : Spelled 0 (importLine module) := by
  have renames : Spelled 0 [.word 1 "as", .word 1 templateAlias] :=
    .word (by decide) (by decide) (.word (by decide) (by decide) .done)
  refine .word (by decide) ?_ (spelled_dotted some identifiers (by decide) renames)
  obtain ⟨first, further, rfl⟩ := List.exists_cons_of_ne_nil some
  rfl

theorem spelled_classLine {name : String} {base : List String} (identifier : isIdentifier name = true)
    (identifiers : ∀ part ∈ base, isIdentifier part = true) : Spelled 0 (classLine name base) := by
  have close : Spelled 1 [.mark 0 ")", .mark 0 ":"] :=
    .closing (.mark (c := ':') rfl (by decide) (by decide) (by decide) .done)
  obtain ⟨spelled, ends⟩ := spelled_furtherParts identifiers (by decide) close
  exact .word (by decide) rfl (.word identifier rfl
    (.opening (by decide) (.word (by decide) ends spelled)))

theorem spelled_methodLine : Spelled 0 methodLine :=
  .word (by decide) (by decide) <| .word (by decide) (by decide) <| .opening (by decide) <|
    .word (by decide) (by decide) <| .mark (c := ',') rfl (by decide) (by decide) (by decide) <|
    .mark (c := '*') rfl (by decide) (by decide) (by decide) <| .word (by decide) (by decide) <|
    .mark (c := ',') rfl (by decide) (by decide) (by decide) <| .stars (by decide) <|
    .word (by decide) (by decide) <| .closing <|
    .mark (c := ':') rfl (by decide) (by decide) (by decide) .done

theorem spelled_callLine : Spelled 0 callLine :=
  .word (by decide) (by decide) <| .opening (by decide) <| .closing <|
    .mark (c := '.') rfl (by decide) (by decide) (by decide) <| .word (by decide) (by decide) <|
    .opening (by decide) <| .mark (c := '*') rfl (by decide) (by decide) (by decide) <|
    .word (by decide) (by decide) <| .mark (c := ',') rfl (by decide) (by decide) (by decide) <|
    .stars (by decide) <| .word (by decide) (by decide) <| .closing .done

theorem spelled_receiverLine {receiver : String} (identifier : isIdentifier receiver = true) :
    Spelled 0 (receiverLine receiver) :=
  .word identifier (by decide) <| .mark (c := '=') rfl (by decide) (by decide) (by decide) <|
    .word (by decide) (by decide) .done

theorem normalizeNewlines_of_absent {text : List Char} (absent : '\r' ∉ text) :
    normalizeNewlines text = text := by
  induction text with
  | nil => rfl
  | cons c rest ih =>
    have other : c ≠ '\r' := fun same => absent (same ▸ List.mem_cons_self)
    have later := ih fun member => absent (List.mem_cons_of_mem c member)
    rw [normalizeNewlines, if_neg other, later]
    exact fun _ same => (other same).elim

section
variable {c : PluginClass} {t : Template}

theorem frameText_absent (module : ∀ part ∈ split '.' t.module, isIdentifier part = true)
    (classes : ∀ d ∈ lineText (classLine c.name (split '.' t.name)), 0x1F < d.toNat)
    (receiver : isIdentifier t.receiver = true) {d : Char} (control : d.toNat ≤ 0x1F) (other : d ≠ '\n') :
    d ∉ (frameText c t).toList := by
  have imports := above_control_of_spelled (spelled_importLine (split_ne_nil '.' t.module) module)
  have method := above_control_of_spelled spelled_methodLine
  have call := above_control_of_spelled spelled_callLine
  have receives := above_control_of_spelled (spelled_receiverLine receiver)
  have gap (c : Char) (space : c = ' ') : 0x1F < c.toNat := by
    rw [space]
    decide
  intro member
  rw [frameText_toList] at member
  simp only [List.mem_append, List.mem_cons, List.not_mem_nil, or_false, List.mem_replicate] at member
  grind

def wholeLine (line column : Nat) (ls : List Lexeme) : List Token :=
  lineTokens line column ls ++ [newlineMark line (column + byteLength (lineText ls))]

def tokens (c : PluginClass) (t : Template) : List Token :=
  let last := 8 + byteLength (lineText (receiverLine t.receiver)) + 1
  wholeLine 1 0 (importLine (split '.' t.module)) ++
    (wholeLine 4 0 (classLine c.name (split '.' t.name)) ++
      indentMark .indent 5 4 :: (wholeLine 5 4 methodLine ++
        indentMark .indent 6 8 :: (wholeLine 6 8 callLine ++ (wholeLine 7 8 (receiverLine t.receiver) ++
          [indentMark .dedent 7 last, indentMark .dedent 7 last, indentMark .finish 7 last]))))

theorem isLineLead_receiverLine {receiver : String} (identifier : isIdentifier receiver = true) :
    isLineLead (headOf (receiverLine receiver)) = false := by
  obtain ⟨c, rest, same, start, -⟩ := exists_of_isIdentifier identifier
  have head : headOf (receiverLine receiver) = c := by
    simp [headOf, receiverLine, lineText, Lexeme.chars, Lexeme.word, same]
  have above := above_slash_of_isIdentifierStart start
  have noBackslash : c ≠ '\\' := by
    rintro rfl
    exact absurd start (by decide)
  rw [head]
  simp only [isLineLead, List.contains_eq_mem, decide_eq_false_iff_not, List.mem_cons, List.not_mem_nil,
    or_false, not_or]
  exact ⟨ne_of_above_slash above (by decide), ne_of_above_slash above (by decide),
    ne_of_above_slash above (by decide), noBackslash, ne_of_above_slash above (by decide),
    ne_of_above_slash above (by decide)⟩

theorem tokenize_frameText (names : HasIdentifiers c t) :
    tokenize (frameText c t).toList = ⟨(tokens c t).toArray, .complete⟩ := by
  have ended : endLastLine (frameText c t).toList = (frameText c t).toList := by
    refine if_pos ?_
    rw [frameText_toList]
    simp [List.getLast?_append, List.getLast?_cons]
  have imports := spelled_importLine (split_ne_nil '.' t.module) names.module
  have classes := spelled_classLine names.name names.base
  have receives := spelled_receiverLine names.receiver
  -- One line after the other; two empty ones stand behind the import.
  rw [tokenize, ended, frameText_toList]
  refine (run_line (n := 0) (w := 0) imports rfl rfl (Nat.le_refl 0) (by decide)).trans ?_
  refine (run_blank _ _ _ _ _).trans ((run_blank _ _ _ _ _).trans ?_)
  refine (run_line (n := 0) (w := 0) classes rfl rfl (Nat.le_refl 0) (by decide)).trans ?_
  refine (run_line (w := 0) spelled_methodLine rfl rfl (by decide) (by decide)).trans ?_
  refine (run_line (w := 4) spelled_callLine rfl rfl (by decide) (by decide)).trans ?_
  refine (run_line (w := 8) receives (isLineLead_receiverLine names.receiver) rfl (by decide)
    (by decide)).trans ?_
  refine (run_end (by decide)).trans ?_
  simp [tokens, wholeLine, openLevel, List.replicate_succ]

end

end Frame

end PluginBuild
