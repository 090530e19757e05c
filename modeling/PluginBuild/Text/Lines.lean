/-!
Lines of a text. Two notions live here: `splitLines` ends a line at every Unicode line break, and
`normalizeNewlines` turns carriage returns into line feeds.
-/

namespace PluginBuild.Text

/-- Characters that end a line: line feed, vertical tab, form feed, carriage return, the file, group
and record separators, next line, and the line and paragraph separators. -/
def isLineBreak (c : Char) : Bool :=
  let n := c.toNat
  (10 ≤ n && n ≤ 13) || (28 ≤ n && n ≤ 30) || n == 0x85 || n == 0x2028 || n == 0x2029

/-- The lines without their ends. A carriage return and a line feed after it are one end, and no
empty line follows the last end. -/
def splitLines : List Char → List (List Char)
  | [] => []
  | '\r' :: '\n' :: rest => [] :: splitLines rest
  | c :: rest =>
    if isLineBreak c then [] :: splitLines rest
    else match splitLines rest with
      | [] => [[c]]
      | line :: lines => (c :: line) :: lines

def lineAt (text : String) (number : Int) : String :=
  if number < 1 then ""
  else String.ofList ((splitLines text.toList).getD (number.toNat - 1) [])

/-- A carriage return, with the line feed after it if there is one, becomes a line feed. -/
def normalizeNewlines : List Char → List Char
  | [] => []
  | '\r' :: '\n' :: rest => '\n' :: normalizeNewlines rest
  | c :: rest => (if c = '\r' then '\n' else c) :: normalizeNewlines rest

end PluginBuild.Text
