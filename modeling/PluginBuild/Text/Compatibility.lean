import PluginBuild.Text.CompatibilityData

/-!
The compatibility normal form of identifiers (NFKC of Unicode 14): characters are replaced by what
they stand for, marks are sorted by combining class, and what can be composed is composed.
-/

namespace PluginBuild.Text

structure KeyTable where
  entries : Array (Nat × List Nat)

def KeyTable.search (entries : Array (Nat × List Nat)) (key lo hi : Nat) : Option (List Nat) :=
  if _h : lo < hi then
    let mid := (lo + hi) / 2
    match entries[mid]? with
    | none => none
    | some (k, value) =>
      if k = key then some value
      else if k < key then search entries key (mid + 1) hi
      else search entries key lo mid
  else none
termination_by hi - lo

def KeyTable.find? (table : KeyTable) (key : Nat) : Option (List Nat) :=
  KeyTable.search table.entries key 0 table.entries.size

def hexValue (c : Char) : Nat :=
  if c.isDigit then c.toNat - 48
  else if 'a' ≤ c ∧ c ≤ 'f' then c.toNat - 87
  else if 'A' ≤ c ∧ c ≤ 'F' then c.toNat - 55
  else 0

def hexNumber (digits : List Char) : Nat :=
  digits.foldl (fun n c => 16 * n + hexValue c) 0

def cut (sep : Char) : List Char → List (List Char)
  | [] => [[]]
  | c :: rest =>
    if c = sep then [] :: cut sep rest
    else match cut sep rest with
      | [] => [[c]]
      | piece :: pieces => (c :: piece) :: pieces

/-- Reads lines of entries `key:value`, with the parts of each separated by commas. Several parts of
a key count as digits above the greatest code point. -/
def KeyTable.ofLines (lines : List String) : KeyTable :=
  let entry (word : List Char) : Nat × List Nat :=
    let key := word.takeWhile (· != ':')
    let value := (word.dropWhile (· != ':')).drop 1
    ((cut ',' key).foldl (fun n part => n * 0x110000 + hexNumber part) 0,
      (cut ',' value).map hexNumber)
  ⟨(lines.flatMap fun line => (cut ' ' line.toList).map entry).toArray⟩

def wideTable : KeyTable := .ofLines wideDecompositions

def compositionTable : KeyTable := .ofLines compositionPairs

def hangulParts (n : Nat) : List Nat :=
  let index := n - 0xAC00
  let lead := 0x1100 + index / 588
  let vowel := 0x1161 + index % 588 / 28
  let tail := 0x11A7 + index % 28
  if index % 28 = 0 then [lead, vowel] else [lead, vowel, tail]

def decompose (n : Nat) : List Nat :=
  if n < 128 then [n]
  else if 0xAC00 ≤ n ∧ n ≤ 0xD7A3 then hangulParts n
  else if n < 0x250 then (latinDecompositions.lookup n).getD [n]
  else (wideTable.find? n).getD [n]

def combiningClass (n : Nat) : Nat :=
  if n < 0x300 then 0
  else match combiningRuns.find? (fun (first, last, _) => first ≤ n && n ≤ last) with
    | some (_, _, k) => k
    | none => 0

def insertMark (n : Nat) : List Nat → List Nat
  | [] => [n]
  | m :: earlier =>
    if combiningClass n < combiningClass m then m :: insertMark n earlier else n :: m :: earlier

def orderMarks (text : List Nat) : List Nat :=
  (text.foldl (fun done n => if combiningClass n = 0 then n :: done else insertMark n done)
    []).reverse

def composePair? (a b : Nat) : Option Nat :=
  if 0x1100 ≤ a ∧ a < 0x1113 ∧ 0x1161 ≤ b ∧ b < 0x1176 then
    some (0xAC00 + ((a - 0x1100) * 21 + (b - 0x1161)) * 28)
  else if 0xAC00 ≤ a ∧ a ≤ 0xD7A3 ∧ (a - 0xAC00) % 28 = 0 ∧ 0x11A7 < b ∧ b < 0x11C3 then
    some (a + (b - 0x11A7))
  else (compositionTable.find? (a * 0x110000 + b)).bind List.head?

/-- Composition in progress: what is finished, in reverse, the last starter, and the marks after it
that did not compose, in reverse. -/
structure Composition where
  done : List Nat
  starter : Option Nat
  marks : List Nat

def Composition.text (state : Composition) : List Nat :=
  state.done.reverse ++ state.starter.toList ++ state.marks.reverse

/-- A character composes with the last starter unless a mark between them is of its class or
higher. -/
def Composition.push (state : Composition) (n : Nat) : Composition :=
  let k := combiningClass n
  let blocked := match state.marks with
    | [] => false
    | m :: _ => k ≤ combiningClass m
  let joined := if blocked then none else state.starter.bind (composePair? · n)
  match joined with
  | some c => { state with starter := some c }
  | none =>
    if k = 0 then ⟨state.text.reverse, some n, []⟩
    else { state with marks := n :: state.marks }

def compatibilityForm (s : String) : String :=
  let ordered := orderMarks (s.toList.flatMap (decompose ·.toNat))
  String.ofList ((ordered.foldl Composition.push ⟨[], none, []⟩).text.map Char.ofNat)

end PluginBuild.Text
