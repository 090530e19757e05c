import PluginBuild.Proofs.Script.Origins.Stmt
import PluginBuild.Proofs.Script.Scanning
import PluginBuild.Proofs.Text.Compatibility

/-!
Names among the tokens. The only tokens that are names are words, which have no slash. So the names of
imported modules have none.
-/

namespace PluginBuild.Script

theorem Spot.Gives.slash_notMem {s : Spot} {t : Token} (gives : s.Gives t) (isName : t.kind = .name) :
    '/' ∉ t.text.toList := by
  cases gives with
  | spelled leads ahead word quoted =>
    rw [String.toList_ofList]
    intro member
    exact absurd (word isName _ member) (by decide)
  | mark leads noName noString => exact absurd isName noName

/-- Names without slashes, and tokens of which no name has one. -/
def Origin.unslashed : Origin where
  place _ := True
  name s := '/' ∉ s.toList
  tokens ts := ∀ t ∈ ts.list, t.kind = .name → '/' ∉ t.text.toList
  joined one two := by
    rw [String.toList_append, String.toList_append, List.mem_append, List.mem_append]
    rintro ((member | dot) | member)
    · exact one member
    · exact absurd dot (by decide)
    · exact two member
  placed _ _ _ := trivial
  named plain t member isName := slash_notMem_identifierOf (plain t member isName)
  inner _ _ _ _ _ _ _ _ member isName := (Lexer.gives_of_mem_run rfl member).slash_notMem isName

end PluginBuild.Script

namespace PluginBuild

open Script

theorem SourceUnit.slash_notMem_needs {template : Template} (plain : '/' ∉ template.module.toList)
    {codec? : String → Option Codec} {path : Path} {isScript : Bool} {bytes : Text.Bytes} {unit : SourceUnit}
    (made : SourceUnit.ofBytes codec? path isScript bytes = .ok unit) {tree : Module}
    (parsed : unit.tree = .ok tree) : ∀ module ∈ needs template tree, '/' ∉ module.toList := by
  obtain ⟨source, -, -, parse⟩ := SourceUnit.decoded_of_tree made parsed
  have known : Origin.unslashed.tokens (tokenize source.parsed) := fun t member isName =>
    (Lexer.gives_of_mem_run rfl member).slash_notMem isName
  intro module member
  rcases List.mem_append.mp member with walked | last
  · obtain ⟨n, among, here⟩ := List.mem_flatMap.mp walked
    obtain ⟨-, modules, -⟩ := Module.comesFrom_of_parse _ known parse n among
    exact modules module here
  · rwa [List.mem_singleton.mp last]

end PluginBuild
