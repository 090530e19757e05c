import PluginBuild.Files.Resolve
import PluginBuild.Path
import PluginBuild.Proofs.Text.Pieces

/-!
Paths against the texts that write them. The text of a normal path leads along its parts, and reading
the text gives the path back.
-/

namespace PluginBuild.Files

open PluginBuild.Text

structure IsFileName (name : String) : Prop where
  nonempty : name ≠ ""
  notHere : name ≠ "."
  notAbove : name ≠ ".."
  noSeparator : '/' ∉ name.toList
  noNull : '\x00' ∉ name.toList

instance (name : String) : Decidable (IsFileName name) :=
  decidable_of_iff (name ≠ "" ∧ name ≠ "." ∧ name ≠ ".." ∧ '/' ∉ name.toList ∧ '\x00' ∉ name.toList)
    ⟨fun ⟨a, b, c, d, e⟩ => ⟨a, b, c, d, e⟩, fun ⟨a, b, c, d, e⟩ => ⟨a, b, c, d, e⟩⟩

end PluginBuild.Files

namespace PluginBuild.Path

open PluginBuild.Files PluginBuild.Text

theorem slash_single : ("/" : String).toList = ['/'] := rfl

/-- A part of a path that its text keeps as it is. -/
structure IsNormalPart (part : String) : Prop where
  counts : isPart part = true
  noSeparator : '/' ∉ part.toList

/-- A path in which every part is kept by its text. -/
def IsNormal (p : Path) : Prop := ∀ part ∈ p.parts, IsNormalPart part

theorem isNormalPart_of_isFileName {name : String} (valid : IsFileName name) : IsNormalPart name :=
  ⟨by simp [isPart, valid.nonempty, valid.notHere], valid.noSeparator⟩

namespace IsNormalPart

variable {part : String}

theorem ne_empty (normal : IsNormalPart part) : part ≠ "" := by
  rintro rfl
  exact absurd normal.counts (by decide)

theorem ne_here (normal : IsNormalPart part) : part ≠ "." := by
  rintro rfl
  exact absurd normal.counts (by decide)

end IsNormalPart

theorem isNormal_ofString (s : String) : (ofString s).IsNormal := by
  intro part member
  obtain ⟨piece, counts⟩ := List.mem_filter.mp member
  exact ⟨counts, absent_of_mem_split piece⟩

theorem isNormal_append {anchor : Anchor} {front back : List String}
    (one : ∀ part ∈ front, IsNormalPart part) (two : ∀ part ∈ back, IsNormalPart part) :
    (⟨anchor, front ++ back⟩ : Path).IsNormal := by
  intro part member
  rcases List.mem_append.mp member with member | member
  · exact one part member
  · exact two part member

theorem IsNormal.resolve {base p : Path} (normal : base.IsNormal) (other : p.IsNormal) :
    (base.resolve p).IsNormal := by
  unfold Path.resolve
  split
  · exact other
  · exact isNormal_append normal other

theorem filter_isPart {parts : List String} (normal : ∀ part ∈ parts, IsNormalPart part) :
    parts.filter isPart = parts :=
  List.filter_eq_self.mpr fun part member => (normal part member).counts

theorem split_join_parts {parts : List String} (normal : ∀ part ∈ parts, IsNormalPart part)
    (nonempty : parts ≠ []) : split '/' (join "/" parts) = parts :=
  split_join slash_single nonempty fun part member => (normal part member).noSeparator

theorem split_slash_append (s : String) : split '/' ("/" ++ s) = "" :: split '/' s := by
  have cut := split_append slash_single "" s
  rw [String.empty_append] at cut
  exact cut

theorem split_text {p : Path} (normal : p.IsNormal) :
    ∃ front, (∀ piece ∈ front, isPart piece = false) ∧ (p.parts = [] → front ≠ []) ∧
      split '/' p.text = front ++ p.parts := by
  obtain ⟨anchor, parts⟩ := p
  by_cases bare : parts = []
  · subst bare
    cases anchor
    · exact ⟨["."], by decide, by simp, by decide⟩
    · exact ⟨["", ""], by decide, by simp, by decide⟩
    · exact ⟨["", "", ""], by decide, by simp, by decide⟩
  · have pieces := split_join_parts normal bare
    cases anchor
    · refine ⟨[], by simp, fun empty => absurd empty bare, ?_⟩
      simpa [text, Anchor.text, bare] using pieces
    · refine ⟨[""], by decide, by simp, ?_⟩
      simp [text, Anchor.text, split_slash_append, pieces]
    · refine ⟨["", ""], by decide, by simp, ?_⟩
      have spelled : (⟨.doubleRoot, parts⟩ : Path).text = "/" ++ ("/" ++ join "/" parts) :=
        String.toList_inj.mp (by simp [text, Anchor.text])
      rw [spelled, split_slash_append, split_slash_append, pieces]
      rfl

theorem route_text {p : Path} (normal : p.IsNormal) :
    Route.ofString p.text = ⟨p.parts, p.parts.isEmpty⟩ := by
  obtain ⟨front, dropped, bare, pieces⟩ := split_text normal
  have names : (front ++ p.parts).filter isPart = p.parts := by
    rw [List.filter_append, filter_isPart normal]
    have none : front.filter isPart = [] :=
      List.filter_eq_nil_iff.mpr fun piece member => by simp [dropped piece member]
    rw [none, List.nil_append]
  unfold Route.ofString
  simp only [pieces]
  congr 1
  cases found : p.parts.getLast? with
  | none =>
    have empty := List.getLast?_eq_none_iff.mp found
    obtain ⟨last, isLast⟩ := Option.isSome_iff_exists.mp
      (List.getLast?_isSome.mpr (bare empty))
    have unmarked := dropped last (List.mem_of_getLast? isLast)
    simp only [isPart, Bool.and_eq_false_iff, bne_eq_false_iff_eq] at unmarked
    simp [empty, isLast, unmarked]
  | some last =>
    have inside := normal last (List.mem_of_getLast? found)
    have nonempty : p.parts.isEmpty = false := by
      cases parts : p.parts with
      | nil => simp [parts] at found
      | cons => rfl
    simp [List.getLast?_append, found, nonempty, inside.ne_empty, inside.ne_here]

theorem names_eq_parts (s : String) : (Route.ofString s).names = (ofString s).parts := rfl

theorem isAbsolute_ofString (s : String) : (ofString s).isAbsolute = startsWith s "/" := by
  have head : ∀ chars : List Char, (anchorOf chars != .here) = ['/'].isPrefixOf chars := by
    intro chars
    cases chars with
    | nil => rfl
    | cons c rest =>
      by_cases slash : c = '/'
      · subst slash
        unfold anchorOf
        split <;> first | rfl | simp_all
      · have other : anchorOf (c :: rest) = .here := by
          unfold anchorOf
          split <;> simp_all
        simp [other, List.isPrefixOf, Ne.symm slash]
  exact head s.toList

/-- The parts of a normal path do not begin with a separator, so its anchor is all that its text
begins with. -/
theorem anchorOf_text {p : Path} (normal : p.IsNormal) : anchorOf p.text.toList = p.anchor := by
  obtain ⟨anchor, parts⟩ := p
  have start : ∀ rest, (join "/" parts).toList ≠ '/' :: rest := by
    intro rest
    cases parts with
    | nil => simp [join]
    | cons first others =>
      have normalFirst := normal first List.mem_cons_self
      rw [join_toList, List.map_cons]
      cases chars : first.toList with
      | nil => exact absurd (String.toList_eq_nil_iff.mp chars) normalFirst.ne_empty
      | cons c more =>
        have differ : c ≠ '/' := by
          rintro rfl
          exact normalFirst.noSeparator (chars ▸ List.mem_cons_self)
        cases others <;> simp [List.intercalate, differ]
  unfold text
  split
  · rename_i bare
    simp only at bare
    simp [bare, anchorOf]
  · cases found : (join "/" parts).toList with
    | nil => cases anchor <;> simp [Anchor.text, anchorOf, found]
    | cons c rest =>
      have differ : c ≠ '/' := by
        rintro rfl
        exact start rest found
      cases anchor <;> simp [Anchor.text, anchorOf, found, differ]

theorem ofString_text {p : Path} (normal : p.IsNormal) : ofString p.text = p := by
  have parts : (ofString p.text).parts = p.parts := by
    rw [← names_eq_parts, route_text normal]
  have anchor : (ofString p.text).anchor = p.anchor := anchorOf_text normal
  cases p
  simp_all [ofString]

theorem startsWith_text {p : Path} (normal : p.IsNormal) : startsWith p.text "/" = p.isAbsolute := by
  rw [← isAbsolute_ofString, ofString_text normal]

theorem text_ne_empty {p : Path} (normal : p.IsNormal) : p.text ≠ "" := by
  intro empty
  have back := ofString_text normal
  rw [empty] at back
  subst back
  exact absurd empty (by decide)

theorem mem_text {p : Path} {c : Char} (member : c ∈ p.text.toList) :
    c = '.' ∨ c = '/' ∨ ∃ part ∈ p.parts, c ∈ part.toList := by
  unfold text at member
  split at member
  · exact .inl (by simpa using member)
  · rw [String.toList_append] at member
    rcases List.mem_append.mp member with anchored | joined
    · refine .inr (.inl ?_)
      generalize p.anchor = anchor at anchored
      cases anchor <;> simp_all [Anchor.text]
    · exact .inr ((mem_join joined).imp_left fun between => by simpa using between)

theorem mem_text_of_mem_parts {p : Path} (normal : p.IsNormal) {part : String} (listed : part ∈ p.parts)
    {c : Char} (member : c ∈ part.toList) : c ∈ p.text.toList := by
  obtain ⟨front, -, -, cut⟩ := split_text normal
  exact mem_of_mem_split (cut ▸ List.mem_append_right front listed) member

/-- A path that another one goes on from, or the path itself. -/
def IsAtOrAbove (q p : Path) : Prop := q.anchor = p.anchor ∧ q.parts <+: p.parts

theorem IsAtOrAbove.refl (p : Path) : p.IsAtOrAbove p := ⟨rfl, List.prefix_rfl⟩

theorem IsAtOrAbove.trans {p q r : Path} (one : p.IsAtOrAbove q) (two : q.IsAtOrAbove r) :
    p.IsAtOrAbove r :=
  ⟨one.1.trans two.1, one.2.trans two.2⟩

theorem IsAtOrAbove.text {q p : Path} (above : q.IsAtOrAbove p) :
    q.text = "." ∨ ∃ more, p.text = q.text ++ more := by
  obtain ⟨anchor, parts⟩ := p
  obtain ⟨anchor', parts'⟩ := q
  obtain ⟨rfl, more, rfl⟩ := above
  by_cases bare : anchor' = .here ∧ parts' = []
  · exact .inl (by simp [Path.text, bare])
  · refine .inr ?_
    have longer : ¬ (anchor' = .here ∧ parts' ++ more = []) := fun ⟨here, empty⟩ =>
      bare ⟨here, (List.append_eq_nil_iff.mp empty).1⟩
    simp only [Path.text, bare, longer, if_false]
    by_cases empty : more = []
    · exact ⟨"", by simp [empty]⟩
    · by_cases first : parts' = []
      · exact ⟨join "/" more, by simp [first, join]⟩
      · exact ⟨"/" ++ join "/" more, by simp [join_append "/" first empty, String.append_assoc]⟩

theorem parts_resolve_of_relative (base : Path) {p : Path} (relative : p.anchor = .here) :
    base.resolve p = ⟨base.anchor, base.parts ++ p.parts⟩ := by
  simp [resolve, isAbsolute, relative]

theorem child_parts (base : Path) {parts : List String} (nonempty : parts ≠ [])
    (normal : ∀ part ∈ parts, IsNormalPart part) :
    base.child (join "/" parts) = ⟨base.anchor, base.parts ++ parts⟩ := by
  have spelled : (⟨.here, parts⟩ : Path).text = join "/" parts := by
    simp [text, Anchor.text, nonempty]
  have back : ofString (⟨.here, parts⟩ : Path).text = ⟨.here, parts⟩ := ofString_text normal
  rw [spelled] at back
  rw [child, back]
  exact parts_resolve_of_relative base rfl

theorem child_join (base : Path) {names : List String} (nonempty : names ≠ [])
    (valid : ∀ name ∈ names, IsFileName name) :
    base.child (join "/" names) = ⟨base.anchor, base.parts ++ names⟩ :=
  child_parts base nonempty fun name member => isNormalPart_of_isFileName (valid name member)

theorem child_of_isNormalPart (base : Path) {part : String} (normal : IsNormalPart part) :
    base.child part = ⟨base.anchor, base.parts ++ [part]⟩ := by
  have whole := child_parts base (List.cons_ne_nil part []) (by simpa using normal)
  rwa [join] at whole

theorem child_of_isFileName (base : Path) {name : String} (valid : IsFileName name) :
    base.child name = ⟨base.anchor, base.parts ++ [name]⟩ :=
  child_of_isNormalPart base (isNormalPart_of_isFileName valid)

end PluginBuild.Path
