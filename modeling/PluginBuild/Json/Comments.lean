import PluginBuild.Text.Blank

/-!
JSON with comments. A line comment goes up to the end of its line, a block comment up to its first
closing mark; a comma in front of a closing bracket is dropped. Strings are left as they are.
-/

namespace PluginBuild.Json

/-- A string behind its opening quote, with its closing quote, and the text behind it. A backslash
takes the character after it along; there is no string if that character must not be escaped. -/
def stringTail (mayEscape : Char → Bool) : List Char → Option (List Char × List Char)
  | [] => none
  | '"' :: rest => some (['"'], rest)
  | ['\\'] => none
  | '\\' :: c :: rest =>
    if mayEscape c then (stringTail mayEscape rest).map fun (s, rest) => ('\\' :: c :: s, rest)
    else none
  | c :: rest => (stringTail mayEscape rest).map fun (s, rest) => (c :: s, rest)

def anyEscaped (_ : Char) : Bool := true

def escapedInLine (c : Char) : Bool := c != '\n'

def blockTail : List Char → Option (List Char)
  | [] => none
  | '*' :: '/' :: rest => some rest
  | _ :: rest => blockTail rest

theorem stringTail_length {mayEscape : Char → Bool} {text s rest : List Char}
    (found : stringTail mayEscape text = some (s, rest)) : rest.length < text.length := by
  fun_induction stringTail mayEscape text generalizing s rest with
  | case1 => cases found
  | case2 rest' => cases found; simp
  | case3 => cases found
  | case4 c rest' _ ih | case6 c rest' _ _ _ ih =>
    obtain ⟨⟨s', r⟩, inner, eq⟩ := Option.map_eq_some_iff.1 found
    cases eq
    have := ih inner
    simp only [List.length_cons]
    omega
  | case5 => cases found

theorem blockTail_length {text rest : List Char} (found : blockTail text = some rest) :
    rest.length < text.length := by
  fun_induction blockTail text with
  | case1 => cases found
  | case2 rest' => cases found; simp only [List.length_cons]; omega
  | case3 c rest' _ ih => have := ih found; simp only [List.length_cons]; omega

/-- Drops comments. A mark that opens a block comment without an end stays. -/
def stripComments : List Char → List Char
  | [] => []
  | c :: rest =>
    if c = '"' then
      match _found : stringTail anyEscaped rest with
      | some (s, rest') => '"' :: s ++ stripComments rest'
      | none => '"' :: stripComments rest
    else if c = '/' ∧ rest.head? = some '/' then stripComments (rest.dropWhile (· ≠ '\n'))
    else if c = '/' ∧ rest.head? = some '*' then
      match _found : blockTail (rest.drop 1) with
      | some rest' => stripComments rest'
      | none => '/' :: stripComments rest
    else c :: stripComments rest
termination_by text => text.length
decreasing_by
  · have := stringTail_length _found
    simp only [List.length_cons]
    omega
  · simp
  · have := (List.dropWhile_suffix (· ≠ '\n') (l := rest)).length_le
    simp only [List.length_cons]
    omega
  · have := blockTail_length _found
    simp only [List.length_drop, List.length_cons] at this ⊢
    omega
  · simp
  · simp

def closesNext (text : List Char) : Bool :=
  match text.dropWhile Text.isBlank with
  | c :: _ => c == ']' || c == '\x7d'
  | [] => false

/-- Drops commas in front of closing brackets. Here no string has a backslash in front of a line
feed. -/
def stripTrailingCommas : List Char → List Char
  | [] => []
  | c :: rest =>
    if c = '"' then
      match _found : stringTail escapedInLine rest with
      | some (s, rest') => '"' :: s ++ stripTrailingCommas rest'
      | none => '"' :: stripTrailingCommas rest
    else if c = ',' ∧ closesNext rest = true then stripTrailingCommas rest
    else c :: stripTrailingCommas rest
termination_by text => text.length
decreasing_by
  · have := stringTail_length _found
    simp only [List.length_cons]
    omega
  all_goals simp

def strip (text : List Char) : List Char := stripTrailingCommas (stripComments text)

end PluginBuild.Json
