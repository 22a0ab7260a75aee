import PhiCalculus.CommandLine

/-!
# The tool

Reads the arguments, the environment and the file, and writes what the command line says.
-/

set_option autoImplicit false

namespace PhiCalculus

/-- The file that arguments ask for, if they are in order. -/
def fileOf (args : List String) : Option String :=
  match readArguments none {} args with
  | .ok ⟨.run file, _⟩ => some file
  | .ok ⟨.check file, _⟩ => some file
  | _ => none

/-- The text of a file, or why it cannot be read. -/
def readSource (file : String) : IO (Except String String) := do
  try
    return .ok (← IO.FS.readFile file)
  catch e => return .error (toString e)

end PhiCalculus

open PhiCalculus

/-- Runs the tool. -/
def main (args : List String) : IO UInt32 := do
  let root ← IO.getEnv "PHIC_ROOT"
  let trace ← IO.getEnv "PHIC_TRACE"
  let log ← IO.getEnv "PHIC_LOG"
  let source ← match fileOf args with
    | some file => readSource file
    | none => pure (.error "no file")
  let environment := [("PHIC_ROOT", root), ("PHIC_TRACE", trace), ("PHIC_LOG", log)]
  match commandLine args (fun name => (List.lookup name environment).join) (fun _ => source) with
  | none => return 70
  | some exit => do
    for line in exit.err do IO.eprintln line
    for line in exit.out do IO.println line
    return exit.code.toUInt32
