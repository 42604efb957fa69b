/-! Calls of external tools and what comes of them. -/

namespace Enforcement

/-- A tool started with arguments, possibly in another directory, and for a limited time. -/
structure ToolCall where
  program : String
  args : List String
  directory : Option String
  milliseconds : Nat
  deriving DecidableEq, Repr, Inhabited

/-- A tool that a signal ended has no exit code. -/
structure ToolOutput where
  exit : Option Int
  stdout : String
  stderr : String
  deriving DecidableEq, Repr, Inhabited

namespace ToolOutput

def succeeded (output : ToolOutput) : Bool := output.exit == some 0

def combined (output : ToolOutput) : String :=
  if output.stdout.isEmpty then output.stderr
  else if output.stderr.isEmpty then output.stdout
  else output.stdout ++ "\n" ++ output.stderr

end ToolOutput

end Enforcement
