import Mathlib.Data.List.SplitBy
import PluginBuild.Proofs.Locations
import PluginBuild.Proofs.Text.NameCharacters
import PluginBuild.Proofs.Text.Utf8

/-!
Paths as file URLs. The bytes of a path are written with escapes; a location made of them names the path
again, whatever characters it has. A path that is given plainly names itself if no part of it can be taken
for a host.
-/

namespace PluginBuild

open PluginBuild.Files PluginBuild.Text

/-- The characters of a path that a URL has as they are: the slash and the unreserved ones. -/
def isBare (c : Char) : Bool := c == '/' || c.isAlphanum || c == '-' || c == '.' || c == '_' || c == '~'

/-- A text that writes bytes with escapes. Bare characters stand for themselves, and every other byte is
a percent sign and two digits of either case. -/
inductive PercentEncodes : Bytes → List Char → Prop
  | nil : PercentEncodes [] []
  | bare {b : UInt8} {bytes : Bytes} {q : List Char} (plain : isBare (Char.ofNat b.toNat) = true)
    (rest : PercentEncodes bytes q) : PercentEncodes (b :: bytes) (Char.ofNat b.toNat :: q)
  | escape {b : UInt8} {bytes : Bytes} {q : List Char} {high low : Char}
    (other : isBare (Char.ofNat b.toNat) = false) (first : hexDigit? high = some (b.toNat / 16))
    (second : hexDigit? low = some (b.toNat % 16)) (rest : PercentEncodes bytes q) :
    PercentEncodes (b :: bytes) ('%' :: high :: low :: q)

def escapeByte (b : UInt8) : List Char :=
  if isBare (Char.ofNat b.toNat) then [Char.ofNat b.toNat]
  else ['%', Nat.digitChar (b.toNat / 16), Nat.digitChar (b.toNat % 16)]

theorem hexDigit?_digitChar : ∀ n < 16, hexDigit? (Nat.digitChar n) = some n := by decide

theorem percentEncodes_escapeByte (bytes : Bytes) : PercentEncodes bytes (bytes.flatMap escapeByte) := by
  induction bytes with
  | nil => exact .nil
  | cons b bytes ih =>
    have below := b.toNat_lt
    rw [List.flatMap_cons, escapeByte]
    split
    · rename_i plain
      exact .bare plain ih
    · rename_i other
      exact .escape (Bool.eq_false_iff.mpr other) (hexDigit?_digitChar _ (by omega))
        (hexDigit?_digitChar _ (by omega)) ih

theorem byte_char_toNat (b : UInt8) : (Char.ofNat b.toNat).toNat = b.toNat := by
  have below := b.toNat_lt
  exact toNat_ofNat_of_valid (.inl (by omega))

theorem unescapePercent_cons {c : Char} (differ : c ≠ '%') (rest : List Char) :
    unescapePercent (c :: rest) = UInt8.ofNat c.toNat :: unescapePercent rest :=
  unescapePercent.eq_3 c rest fun _ _ _ same _ => differ same

theorem unescapePercent_of_percentEncodes {bytes : Bytes} {q : List Char} (encodes : PercentEncodes bytes q) :
    unescapePercent q = bytes := by
  induction encodes with
  | nil => rfl
  | @bare b bytes q plain rest ih =>
    have differ : Char.ofNat b.toNat ≠ '%' := by
      intro same
      rw [same] at plain
      cases plain
    rw [unescapePercent_cons differ, ih, byte_char_toNat, UInt8.ofNat_toNat]
  | @escape b bytes q high low other first second rest ih =>
    rw [unescapePercent, first, second]
    dsimp only
    rw [ih, Nat.div_add_mod', UInt8.ofNat_toNat]

theorem ascii_of_isAlphanum {c : Char} (word : c.isAlphanum = true) : c.toNat < 128 := by
  have code : c.val.toNat = c.toNat := rfl
  delta Char.isAlphanum Char.isAlpha Char.isUpper Char.isLower Char.isDigit at word
  simp only [Bool.or_eq_true, Bool.and_eq_true, decide_eq_true_eq, ge_iff_le, UInt32.le_iff_toNat_le,
    UInt32.reduceToNat, Char.reduceVal, code] at word
  omega

theorem ascii_of_isBare {c : Char} (bare : isBare c = true) : c.toNat < 128 := by
  simp only [isBare, Bool.or_eq_true, beq_iff_eq] at bare
  rcases bare with ((((rfl | word) | rfl) | rfl) | rfl) | rfl
  · decide
  · exact ascii_of_isAlphanum word
  all_goals decide

theorem ascii_of_hexDigit? {c : Char} {n : Nat} (digit : hexDigit? c = some n) : c.toNat < 128 := by
  have below {d : Char} (le : c ≤ d) : c.toNat ≤ d.toNat := le
  unfold hexDigit? at digit
  repeat' split at digit
  · rename_i decimal
    exact ascii_of_isAlphanum (by rw [Char.isAlphanum, decimal, Bool.or_true])
  · rename_i letter
    exact Nat.lt_of_le_of_lt (below letter.2) (by decide)
  · rename_i letter
    exact Nat.lt_of_le_of_lt (below letter.2) (by decide)
  · cases digit

theorem isBare_of_hexDigit? {c : Char} {n : Nat} (digit : hexDigit? c = some n) : isBare c = true := by
  have digit' : (hexDigit? c).isSome := by rw [digit, Option.isSome_some]
  revert digit'
  exact ascii_forall (p := fun c => (hexDigit? c).isSome → isBare c = true) (by decide) (ascii_of_hexDigit? digit)

theorem mem_of_percentEncodes {bytes : Bytes} {q : List Char} (encodes : PercentEncodes bytes q)
    {c : Char} (member : c ∈ q) : isBare c = true ∨ c = '%' := by
  induction encodes with
  | nil => cases member
  | bare plain rest ih =>
    rcases List.mem_cons.mp member with rfl | later
    · exact .inl plain
    · exact ih later
  | @escape b bytes q high low other first second rest ih =>
    rcases List.mem_cons.mp member with rfl | later
    · exact .inr rfl
    rcases List.mem_cons.mp later with rfl | later
    · exact .inl (isBare_of_hexDigit? first)
    rcases List.mem_cons.mp later with rfl | later
    · exact .inl (isBare_of_hexDigit? second)
    · exact ih later

theorem urlChar_facts {c : Char} (urlChar : isBare c = true ∨ c = '%') :
    c.toNat < 128 ∧ isDroppedInUrl c = false ∧ c ≠ '?' ∧ c ≠ '#' := by
  have ascii : c.toNat < 128 := by
    rcases urlChar with bare | rfl
    · exact ascii_of_isBare bare
    · decide
  refine ⟨ascii, ?_⟩
  revert urlChar
  exact ascii_forall (p := fun c => (isBare c = true ∨ c = '%') →
    isDroppedInUrl c = false ∧ c ≠ '?' ∧ c ≠ '#') (by decide) ascii

theorem startsWith_slash_of_percentEncodes {bytes : Bytes} {q : List Char}
    (encodes : PercentEncodes (0x2F :: bytes) q) : ∃ rest, q = '/' :: rest := by
  cases encodes with
  | bare plain rest => exact ⟨_, rfl⟩
  | escape other => cases other

/-- Text in which nothing is an escape of a character above ASCII is read in one go. -/
theorem unquotePercent_of_ascii {q : List Char} (nonempty : q ≠ []) (ascii : ∀ c ∈ q, c.toNat < 128) :
    unquotePercent q = decodeUtf8Lossy (unescapePercent q) := by
  have whole : q.splitBy (fun a b => decide (a.toNat < 128) == decide (b.toNat < 128)) = [q] := by
    refine List.splitBy_of_isChain nonempty (List.Pairwise.isChain ?_)
    refine List.pairwise_of_forall_mem_list fun a first b second => ?_
    simp [ascii a first, ascii b second]
  have all : (q.all fun c => decide (c.toNat < 128)) = true :=
    List.all_eq_true.mpr fun c member => decide_eq_true (ascii c member)
  unfold unquotePercent
  dsimp only
  rw [whole, List.map_singleton, if_pos all]
  simp [String.join]

theorem decodeUtf8Lossy_encodeUtf8 (s : String) : decodeUtf8Lossy (encodeUtf8 s) = s := by
  rw [decodeUtf8Lossy, encodeUtf8, utf8Pieces_encode, List.map_map]
  simp [Function.comp_def]

theorem unquotePercent_of_percentEncodes {s : String} {q : List Char}
    (encodes : PercentEncodes (encodeUtf8 s) q) (nonempty : q ≠ []) : unquotePercent q = s := by
  have ascii : ∀ c ∈ q, c.toNat < 128 := fun c member =>
    (urlChar_facts (mem_of_percentEncodes encodes member)).1
  rw [unquotePercent_of_ascii nonempty ascii, unescapePercent_of_percentEncodes encodes,
    decodeUtf8Lossy_encodeUtf8]

theorem ascii_of_toLower {c : Char} (ascii : c.toLower.toNat < 128) : c.toNat < 128 := by
  delta Char.toLower at ascii
  split at ascii
  · rename_i upper
    exact Nat.lt_of_le_of_lt upper.2 (by decide)
  · exact ascii

theorem fileChar_facts {c : Char} (lower : c.toLower ∈ "file".toList) :
    c.isAlpha = true ∧ isSchemeChar c = true ∧ c ≠ ':' ∧ ¬ c.toNat ≤ 32 ∧ isDroppedInUrl c = false := by
  have letters : ∀ d ∈ "file".toList, d.toNat < 128 := fun d member =>
    of_decide_eq_true (List.all_eq_true.mp (by decide : ("file".toList.all fun d => d.toNat < 128) = true) d member)
  have ascii : c.toNat < 128 := ascii_of_toLower (letters _ lower)
  revert lower
  exact ascii_forall (p := fun c => c.toLower ∈ "file".toList → c.isAlpha = true ∧ isSchemeChar c = true ∧ c ≠ ':' ∧
    ¬ c.toNat ≤ 32 ∧ isDroppedInUrl c = false) (by decide) ascii

section
variable {scheme host q : List Char} (lower : scheme.map Char.toLower = "file".toList)
include lower

theorem fileScheme_facts {c : Char} (member : c ∈ scheme) :
    c.isAlpha = true ∧ isSchemeChar c = true ∧ c ≠ ':' ∧ ¬ c.toNat ≤ 32 ∧ isDroppedInUrl c = false :=
  fileChar_facts (lower ▸ List.mem_map_of_mem member)

theorem exists_fileScheme : ∃ first more, scheme = first :: more := by
  cases scheme with
  | nil => cases lower
  | cons first more => exact ⟨first, more, rfl⟩

theorem splitScheme_file (rest : List Char) : splitScheme (scheme ++ ':' :: rest) = ("file", rest) := by
  have before : (scheme ++ ':' :: rest).takeWhile (· != ':') = scheme := by
    rw [List.takeWhile_append_of_pos fun c member => bne_iff_ne.mpr (fileScheme_facts lower member).2.2.1,
      List.takeWhile_cons_of_neg (by decide), List.append_nil]
  have all : scheme.all isSchemeChar = true :=
    List.all_eq_true.mpr fun c member => (fileScheme_facts lower member).2.1
  obtain ⟨first, more, rfl⟩ := exists_fileScheme lower
  have letter := (fileScheme_facts lower List.mem_cons_self).1
  unfold splitScheme
  dsimp only
  simp only [before, List.drop_left, letter, all, lower, Bool.and_self, if_true]
  rfl

theorem parts_file (hosted : ∀ c ∈ host, c.isAlphanum = true) (urlChars : ∀ c ∈ q, isBare c = true ∨ c = '%')
    (begins : ∃ rest, q = '/' :: rest) :
    Url.parts (String.ofList (scheme ++ ':' :: '/' :: '/' :: (host ++ q))) =
      ⟨"file", String.ofList host, String.ofList q⟩ := by
  have bare {c : Char} (member : c ∈ host) : isBare c = true := by
    simp [isBare, hosted c member]
  -- Nothing is dropped from the text: no character of it is a tab or a line end.
  have kept : ∀ c ∈ scheme ++ ':' :: '/' :: '/' :: (host ++ q), isDroppedInUrl c = false := by
    intro c member
    simp only [List.mem_append, List.mem_cons] at member
    rcases member with inScheme | rfl | rfl | rfl | inHost | inPath
    · exact (fileScheme_facts lower inScheme).2.2.2.2
    · rfl
    · rfl
    · rfl
    · exact (urlChar_facts (.inl (bare inHost))).2.1
    · exact (urlChar_facts (urlChars c inPath)).2.1
  have cleaned : ((scheme ++ ':' :: '/' :: '/' :: (host ++ q)).dropWhile (·.toNat ≤ 32)).filter
      (!isDroppedInUrl ·) = scheme ++ ':' :: '/' :: '/' :: (host ++ q) := by
    obtain ⟨first, more, rfl⟩ := exists_fileScheme lower
    have begins := (fileScheme_facts lower List.mem_cons_self).2.2.2.1
    rw [List.cons_append, List.dropWhile_cons_of_neg (by simpa using begins), ← List.cons_append]
    refine List.filter_eq_self.mpr fun c member => ?_
    rw [kept c member, Bool.not_false]
  -- The host ends at the slash that the path begins with.
  obtain ⟨rest, rfl⟩ := begins
  have inHost : ∀ c ∈ host, (!(c == '/' || c == '?' || c == '#')) = true := by
    intro c member
    have facts := urlChar_facts (.inl (bare member))
    have differ : c ≠ '/' := by
      rintro rfl
      cases hosted _ member
    simp [differ, facts.2.2.1, facts.2.2.2]
  have inPath : ∀ c ∈ '/' :: rest, (c != '#' && c != '?') = true := by
    intro c member
    have facts := urlChar_facts (urlChars c member)
    simp [facts.2.2.1, facts.2.2.2]
  unfold Url.parts
  simp only [String.toList_ofList, cleaned, splitScheme_file lower]
  rw [List.takeWhile_append_of_pos inHost, List.dropWhile_append_of_pos inHost,
    List.takeWhile_cons_of_neg (by decide), List.dropWhile_cons_of_neg (by decide), List.append_nil,
    List.takeWhile_eq_self_iff.mpr inPath]

end

theorem splitScheme_slash (rest : List Char) : splitScheme ('/' :: rest) = ("", '/' :: rest) := by
  unfold splitScheme
  rw [List.takeWhile_cons_of_pos (by decide)]
  dsimp only
  split
  · rename_i first more rest' same ended
    cases same
    rfl
  · rfl

theorem parts_slash {s : String} {rest : List Char} (begins : s.toList = '/' :: rest)
    (single : rest.head? ≠ some '/') (kept : ∀ c ∈ s.toList, isDroppedInUrl c = false) :
    (Url.parts s).scheme = "" ∧ (Url.parts s).host = "" := by
  have cleaned : (s.toList.dropWhile (·.toNat ≤ 32)).filter (!isDroppedInUrl ·) = '/' :: rest := by
    rw [begins] at kept ⊢
    rw [List.dropWhile_cons_of_neg (by decide)]
    refine List.filter_eq_self.mpr fun c member => ?_
    rw [kept c member, Bool.not_false]
  have split : splitScheme ('/' :: rest) = ("", '/' :: rest) := splitScheme_slash rest
  unfold Url.parts
  simp only [cleaned, split]
  cases rest with
  | nil => simp
  | cons next more =>
    have differ : next ≠ '/' := fun same => single (by rw [same, List.head?_cons])
    simp [differ]

theorem toPath_file {here : Except FileError Place} {s host : String} {path : List Char}
    (parts : Url.parts s = ⟨"file", host, String.ofList path⟩) (isLocal : host = "" ∨ host = "localhost") :
    (Location.text s).toPath here = .ok (Path.ofString (unquotePercent path)) := by
  have given : s ≠ "" := Location.nonempty_of_scheme (parts ▸ (by decide : "file" ≠ ""))
  have readable : hostFault? (Url.parts s).host.toList = none := by
    rw [parts]
    rcases isLocal with rfl | rfl
    · exact (by decide : hostFault? "".toList = none)
    · exact (by decide : hostFault? "localhost".toList = none)
  have names : (Location.text s).Names here (Path.ofString (unquotePercent (Url.parts s).path.toList)) :=
    .file given readable (by rw [parts]) (by rwa [parts])
  rw [parts, String.toList_ofList] at names
  exact Location.toPath_of_names names

/-- Every path is named by its file URL, on no host or on the local one and with the scheme in any case; a path
that begins with exactly one slash and has no tab or line end is also named by itself. -/
theorem path_named_by_url (here : Except FileError Place) (s : String) (rest : List Char)
    (begins : s.toList = '/' :: rest) :
    (∀ scheme q, scheme.toList.map Char.toLower = "file".toList → PercentEncodes (encodeUtf8 s) q →
      (Location.text (scheme ++ "://" ++ String.ofList q)).toPath here = .ok (Path.ofString s) ∧
      (Location.text (scheme ++ "://localhost" ++ String.ofList q)).toPath here = .ok (Path.ofString s)) ∧
    (rest.head? ≠ some '/' → '\t' ∉ s.toList → '\r' ∉ s.toList → '\n' ∉ s.toList →
      (Location.text s).toPath here = .ok (Path.ofString s)) := by
  constructor
  · intro scheme q lower encodes
    obtain ⟨tail, slash⟩ : ∃ tail, q = '/' :: tail := by
      rw [encodeUtf8, begins] at encodes
      exact startsWith_slash_of_percentEncodes encodes
    have named (host : List Char) (hosted : ∀ c ∈ host, c.isAlphanum = true) :=
      parts_file lower hosted (fun c member => mem_of_percentEncodes encodes member) ⟨tail, slash⟩
    have nonempty : q ≠ [] := slash ▸ List.cons_ne_nil _ _
    have read : unquotePercent q = s := unquotePercent_of_percentEncodes encodes nonempty
    have onNone : scheme ++ "://" ++ String.ofList q =
        String.ofList (scheme.toList ++ ':' :: '/' :: '/' :: ([] ++ q)) := String.toList_inj.mp (by simp)
    have onLocal : scheme ++ "://localhost" ++ String.ofList q =
        String.ofList (scheme.toList ++ ':' :: '/' :: '/' :: ("localhost".toList ++ q)) :=
      String.toList_inj.mp (by simp)
    rw [onNone, onLocal, toPath_file (named [] (List.forall_mem_nil _)) (.inl rfl),
      toPath_file (named "localhost".toList (List.all_eq_true.mp (by decide))) (.inr rfl), read]
    exact ⟨rfl, rfl⟩
  · intro single tab back feed
    have kept : ∀ c ∈ s.toList, isDroppedInUrl c = false := by
      intro c member
      have differ {d : Char} (absent : d ∉ s.toList) : c ≠ d := fun same => absent (same ▸ member)
      simp [isDroppedInUrl, differ tab, differ back, differ feed]
    have parts := parts_slash begins single kept
    refine Location.toPath_of_names (.plain ?_ ?_ ?_)
    · rintro rfl
      cases begins
    · rw [parts.2]
      decide
    · rw [parts.1]
      decide

/-- A path with delimiters, what looks like an escape, a letter of two bytes, and a line end. -/
def awkwardPath : String := "//a b%41?#;:[é]\t\n~"

theorem awkwardPath_named :
    (Location.text "FiLe:////a%20b%2541%3f%23%3b%3a%5b%c3%a9%5d%09%0a~").toPath (.ok []) =
      .ok (Path.ofString awkwardPath) ∧
    (Location.text "file://localhost//a%20b%2541%3f%23%3b%3a%5b%c3%a9%5d%09%0a~").toPath (.ok []) =
      .ok (Path.ofString awkwardPath) ∧
    (Location.text "/a b%41?#;:[é]").toPath (.ok []) = .ok (Path.ofString "/a b%41?#;:[é]") := by
  have written : String.ofList ((encodeUtf8 awkwardPath).flatMap escapeByte) =
      "//a%20b%2541%3f%23%3b%3a%5b%c3%a9%5d%09%0a~" := by decide
  have encodes := percentEncodes_escapeByte (encodeUtf8 awkwardPath)
  have onNone := ((path_named_by_url (.ok []) awkwardPath _ rfl).1 "FiLe" _ (by decide) encodes).1
  have onLocal := ((path_named_by_url (.ok []) awkwardPath _ rfl).1 "file" _ (by decide) encodes).2
  rw [written] at onNone onLocal
  exact ⟨onNone, onLocal, (path_named_by_url (.ok []) "/a b%41?#;:[é]" _ rfl).2 (by decide) (by decide) (by decide) (by decide)⟩

end PluginBuild
