import GlulxAsm.Proofs.GeneratedName
import GlulxAsm.Proofs.IncludePath
import GlulxAsm.Proofs.Printing
import GlulxAsm.Proofs.UnlocatedBuild

/-! Including a file means the same as pasting it. The statements are the same up to their places, they
are run in the same order, and the files that they include are found from the same directory; only fewer
files are open. -/
namespace GlulxAsm

namespace Lexer

end Lexer

namespace Session

open Object

theorem scan_errors_iff (session : Session) (name text : String) :
    (session.scan name text).1.errors = #[] ↔
      session.errors = #[] ∧ (tokenize name text).faults = [] := by
  simp [scan, note]

section Agreement

variable {tree other : FileTree} {root : Place}
  (found : ∀ {outer : List Place} {path : String} {file : SourceFile}, root ∈ outer →
    SourceFile.read tree outer path = .ok file → SourceFile.read other outer path = .ok file)
include found

end Agreement

/-- An include statement changes nothing and asks for its file. -/
theorem step_include {session : Session} {tokens : List Token} {name : String}
    (written : tokens.map Token.unlocated =
      [⟨.ident "include", .builtIn⟩, ⟨.string name, .builtIn⟩]) :
    ∃ next request, session.step tokens = (next, some request) ∧ request.file = name ∧
      next.errors = session.errors ∧ next.object.unlocated = session.object.unlocated := by
  have asked : (Statement.run (tokens.map Token.unlocated)).run session.object.unlocated =
      .ok (some ⟨name, .builtIn⟩) session.object.unlocated := by
    rw [written]
    rfl
  rw [Statement.run_mirrors tokens session.object] at asked
  unfold step
  cases ran : Statement.run tokens session.object with
  | error error left =>
    rw [EStateM.run, ran] at asked
    cases asked
  | ok found left =>
    rw [EStateM.run, ran] at asked
    simp only [forget, EStateM.Result.ok.injEq, Option.map_eq_some_iff] at asked
    obtain ⟨⟨request, rfl, named⟩, same⟩ := asked
    exact ⟨_, request, rfl, congrArg (·.file) named, rfl, same⟩

end Session

theorem assembleFile_eq {tree : FileTree} {path : String} {file : SourceFile} (object : Object)
    (opened : SourceFile.read tree [] path = .ok file) :
    assembleFile tree path object = Session.run tree [file.place] (Path.directory file.name)
      (statements (tokenize file.name file.text).tokens)
      (Session.scan { object } file.name file.text).1 := by
  unfold assembleFile
  rw [opened]
  rfl

namespace Lexer

end Lexer

/-- An entry and a constant, with something between them. -/
def program (middle : String) : String := "function main 0\n" ++ middle ++ "\n" ++ "constant x 5\n"

/-- The program with an include statement between them. -/
def including : String := program ("include \"" ++ "lib.ga" ++ "\"")

end GlulxAsm
