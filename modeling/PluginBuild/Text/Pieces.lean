/-!
Cutting a text at every occurrence of a character, and putting pieces together again.
-/

namespace PluginBuild.Text

def pieces (sep : Char) : List Char → List (List Char)
  | [] => [[]]
  | c :: rest =>
    if c = sep then [] :: pieces sep rest
    else match pieces sep rest with
      | [] => [[c]]
      | piece :: others => (c :: piece) :: others

def split (sep : Char) (s : String) : List String := (pieces sep s.toList).map String.ofList

def splitFirst (sep : Char) (s : String) : String × Option String :=
  let before := s.toList.takeWhile (· != sep)
  match s.toList.drop before.length with
  | [] => (s, none)
  | _ :: after => (String.ofList before, some (String.ofList after))

def join (sep : String) : List String → String
  | [] => ""
  | [piece] => piece
  | piece :: rest => piece ++ sep ++ join sep rest

def replaceChar (old : Char) (new : List Char) (s : String) : String :=
  String.ofList (s.toList.flatMap fun c => if c = old then new else [c])

def endsWith (s ending : String) : Bool := ending.toList.isSuffixOf s.toList

def startsWith (s beginning : String) : Bool := beginning.toList.isPrefixOf s.toList

end PluginBuild.Text
