import RuntimeProfiles.Command.Run

/-!
# Invocations

A whole run of the program on a file tree, from its arguments to what it leaves behind.

Arguments that make no request never reach a command. The reader of the command line answers them
itself: it shows help and succeeds, or it says what is wrong with them and fails with a status of
its own. Its texts are not part of this library, and one answer stands for all of them here
(`Invocation.refused`). It is faithful in what it does to the tree, which is nothing; its status and
its texts say nothing about the program.
-/

namespace RuntimeProfiles

/-- What a run of the program leaves behind. -/
structure Invocation where
  status : Nat
  stdout : String
  stderr : String
  tree : FileTree

namespace Invocation

/-- The status of a run whose arguments are refused, which is not that of any command. -/
def refusedStatus : Nat := 2

/-- What a run leaves behind whose arguments make no request. The tree is as before; the rest stands
in for an answer of the reader of the command line, whatever that is. -/
def refused (tree : FileTree) : Invocation :=
  ⟨refusedStatus, "", "error: the arguments make no request\n", tree⟩

/-- What a command leaves behind at a verbosity. -/
def ofOutcome (verbosity : Nat) (outcome : Outcome) : Invocation :=
  ⟨outcome.status, outcome.stdout, outcome.stderr verbosity, outcome.tree⟩

/-- Carries out a request in a directory. -/
def ofRequest (tree : FileTree) (directory : Path) : Request → Invocation
  | .version => ⟨0, Report.unlines ["memcaps " ++ version], "", tree⟩
  | .run verbosity command => .ofOutcome verbosity (command.run tree directory)

/-- Runs the program with arguments in a directory. What it leaves behind is that of a request, if
the arguments make one, and otherwise only its tree is meant. -/
def run (tree : FileTree) (directory : Path) (arguments : List String) : Invocation :=
  match Request.read arguments with
  | some request => .ofRequest tree directory request
  | none => .refused tree

end Invocation

end RuntimeProfiles
