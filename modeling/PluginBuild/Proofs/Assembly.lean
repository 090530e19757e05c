import PluginBuild.Proofs.Frame.Statements
import PluginBuild.Proofs.Scopes
import PluginBuild.Script.Codecs

/-!
What a script's module is put together from. Its statements are divided into future imports, which go to
the front, and the rest, which goes into the method; where the check of the body has nothing to report,
the future imports stand together in the script, and the method has none in its own scope.
-/

namespace PluginBuild

open PluginBuild.Script PluginBuild.Text

namespace Script

variable {m : Module} {s : Stmt} {n : Node}

theorem Node.scopeHeader?_of_isFutureImport (imports : n.isFutureImport = true) :
    n.scopeHeader? = none := by
  cases n with
  | stmt s => cases s <;> first | rfl | exact nomatch imports
  | _ => exact nomatch imports

theorem isFutureImport_of_mem_drop (clean : ∀ n ∈ m.checkedNodes, n.isFutureImport = false)
    (member : s ∈ m.body.drop (preambleLength m.body)) : s.isFutureImport = false := by
  refine Bool.eq_false_iff.mpr fun imports => ?_
  have visited : Node.stmt s ∈ m.checkedNodes := by
    rw [m.scriptLevel_nodes.2, mem_scriptLevel]
    refine ⟨Node.scopeHeader?_of_isFutureImport imports, .root ?_⟩
    exact List.mem_append_left _ (List.mem_map_of_mem member)
  exact Bool.false_ne_true ((clean _ visited).symm.trans imports)

theorem futureImports_block (clean : ∀ n ∈ m.checkedNodes, n.isFutureImport = false) :
    ∃ text rest, m.body = text ++ futureImports m ++ rest ∧ text.length ≤ 1 ∧
      ∀ s ∈ text, s.isText = true := by
  obtain ⟨text, imports, made, short, texts, imported⟩ := take_preambleLength m.body
  refine ⟨text, m.body.drop (preambleLength m.body), ?_, short, texts⟩
  have whole : text ++ imports ++ m.body.drop (preambleLength m.body) = m.body := by
    rw [← made, List.take_append_drop]
  -- No import is in front of those of the preamble, and none behind the preamble.
  have early : text.filter (·.isFutureImport) = [] := by
    refine List.filter_eq_nil_iff.mpr fun s member => ?_
    have isText := texts s member
    cases s <;> first | exact Bool.false_ne_true | exact nomatch isText
  have late : (m.body.drop (preambleLength m.body)).filter (·.isFutureImport) = [] :=
    List.filter_eq_nil_iff.mpr fun s member => by simp [isFutureImport_of_mem_drop clean member]
  have front : futureImports m = imports := by
    rw [futureImports, ← whole, List.filter_append, List.filter_append, early, late,
      List.filter_eq_self.mpr imported]
    simp
  rw [front, whole]

theorem reached_methodStatements (reached : Reached Node.visited ((methodStatements m).map .stmt) n) :
    (∃ s ∈ m.body.take (preambleLength m.body), s.isFutureImport = false ∧ n = .stmt s) ∨
      Reached Node.visited ((m.body.drop (preambleLength m.body)).map .stmt ++
        ((m.body.take (preambleLength m.body)).map Node.stmt).flatMap Node.children) n := by
  induction reached with
  | root member =>
    obtain ⟨s, inMethod, rfl⟩ := List.mem_map.mp member
    obtain ⟨inBody, kept⟩ := List.mem_filter.mp inMethod
    rw [Bool.and_eq_true, Bool.not_eq_true'] at kept
    rw [← List.take_append_drop (preambleLength m.body) m.body, List.mem_append] at inBody
    rcases inBody with early | late
    · exact .inl ⟨s, early, kept.1, rfl⟩
    · exact .inr (.root (List.mem_append_left _ (List.mem_map_of_mem late)))
  | step _ member ih =>
    -- Below the preamble the walk goes on behind the other statements.
    rcases ih with ⟨s, early, -, rfl⟩ | visited
    · rw [Node.visited, (of_mem_preamble early).1, Option.getD_none] at member
      refine .inr (.root (List.mem_append_right _ (List.mem_flatMap.mpr ⟨_, ?_, member⟩)))
      exact List.mem_map_of_mem early
    · exact .inr (visited.step member)

theorem methodStatements_clean (clean : ∀ n ∈ m.checkedNodes, n.isFutureImport = false)
    (reached : Reached Node.visited ((methodStatements m).map .stmt) n) : n.isFutureImport = false := by
  rcases reached_methodStatements reached with ⟨s, -, other, rfl⟩ | visited
  · exact other
  · refine Bool.eq_false_iff.mpr fun imports => ?_
    have checked : n ∈ m.checkedNodes := by
      rw [m.scriptLevel_nodes.2, mem_scriptLevel]
      exact ⟨Node.scopeHeader?_of_isFutureImport imports, visited⟩
    exact Bool.false_ne_true ((clean n checked).symm.trans imports)

end Script

/-- For names that are identifiers, a module that is put together has the future imports of the script in
front, an import of the template's module and one class with one base; its only method is the script's
other statements, without declarations of the package, behind two statements of the frame. If moreover
the check of the body reports no error, the future imports stand together in the script, at its start or
behind a text, and the statements of the method have no future import outside nested scopes. -/
theorem assembled_statements {m result : Module} {c : PluginClass} {t : Template}
    (names : HasIdentifiers c t) (assembled : assemble m c t = .ok result) :
    result.body = m.body.filter (·.isFutureImport) ++
      [importOfTemplate t.module,
        .class ⟨4, 0⟩ (identifierOf c.name) [baseOfTemplate ⟨4, 7 + c.name.utf8ByteSize⟩ t.name] []
          [.function ⟨5, 4⟩ false "__init__" initParams
            (initCall :: receiverAssignment t.receiver ::
              m.body.filter fun s => !s.isFutureImport && !s.isPackageDeclaration) [] none] []] ∧
    ∀ s f w, s.tree = m → ReportsNoError checkBody s f w →
      (∃ text rest, m.body = text ++ m.body.filter (·.isFutureImport) ++ rest ∧ text.length ≤ 1 ∧
        ∀ s ∈ text, s.isText = true) ∧
      ∀ n, Reached Node.visited
        ((m.body.filter fun s => !s.isFutureImport && !s.isPackageDeclaration).map .stmt) n →
          n.isFutureImport = false := by
  constructor
  · obtain ⟨frame, read, body⟩ := assemble_ok assembled
    rw [body, Frame.frameStatements_of_ok names read]
    rfl
  · rintro s f w rfl reports
    have clean := ((checkBody_reportsNoError s f w).mp reports).2
    exact ⟨futureImports_block clean, fun n reached => methodStatements_clean clean reached⟩

def sampleClass : PluginClass := ⟨"A_plugin", ""⟩

theorem hasIdentifiers_sample : HasIdentifiers sampleClass .plugin :=
  ⟨by decide +kernel, by decide +kernel, by decide +kernel, by decide +kernel⟩

def sampleSubject (m : Module) : Subject :=
  ⟨⟨[], .plugin, "m", .collecting, [], true⟩, ⟨Path.ofString "a.plugin.py", "", [], .ok m, some sampleClass⟩, m⟩

/-- Whether a script is put together for the default template and nothing in its body is a fault. -/
def isAssembled (m : Module) : Bool := (assemble m sampleClass .plugin).isOk && (bodyFaults m).isEmpty

theorem exists_of_isAssembled (text : String) (holds : Module → Bool)
    (computed : (match Module.parse text.toList false with
      | .ok m => isAssembled m && holds m
      | .error _ => false) = true) :
    ∃ m result, Module.parse text.toList false = .ok m ∧ assemble m sampleClass .plugin = .ok result ∧
      (∀ s f w, s.tree = m → ReportsNoError checkBody s f w) ∧ holds m = true := by
  split at computed
  · rename_i m parsed
    simp only [isAssembled, Bool.and_eq_true, List.isEmpty_iff] at computed
    obtain ⟨⟨put, faultless⟩, also⟩ := computed
    cases assembled : assemble m sampleClass .plugin with
    | error e =>
      rw [assembled] at put
      exact nomatch put
    | ok result =>
      refine ⟨m, result, parsed, assembled, ?_, also⟩
      rintro s f w rfl
      exact (checkBody_reportsNoError s f w).mpr (bodyFaults_eq_nil.mp faultless)
  · exact nomatch computed

/-- A script with a text, a future import and a statement is put together, and its method is free of future
imports. -/
theorem assembled_statements_of_sample : ∃ m result,
    Module.parse "'about'\nfrom __future__ import annotations\nx = 1\n".toList false = .ok m ∧
    assemble m sampleClass .plugin = .ok result ∧ HasIdentifiers sampleClass .plugin ∧
    result.body.take 1 = m.body.filter (·.isFutureImport) ∧
    ∀ n, Reached Node.visited
      ((m.body.filter fun s => !s.isFutureImport && !s.isPackageDeclaration).map .stmt) n →
        n.isFutureImport = false := by
  obtain ⟨m, result, parsed, assembled, reports, one⟩ := exists_of_isAssembled
    "'about'\nfrom __future__ import annotations\nx = 1\n"
    (fun m => (m.body.filter (·.isFutureImport)).length == 1) (by decide +kernel)
  obtain ⟨body, rest⟩ := assembled_statements hasIdentifiers_sample assembled
  refine ⟨m, result, parsed, assembled, hasIdentifiers_sample, ?_, ?_⟩
  · rw [body, ← eq_of_beq one, List.take_left]
  · exact (rest (sampleSubject m) ⟨SymbolIndex.ofEntries [], 0⟩ ⟨⟨[], [], .plain⟩, [], [], [], []⟩ rfl
      (reports _ _ _ rfl)).2

end PluginBuild
