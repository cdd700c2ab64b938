import RadarRelay.Check.Findings

/-!
# The command line

Reads the files that are named on the command line, checks them, prints what was
found, and ends with the code of the check.
-/

namespace RadarRelay.Main

open RadarRelay.Check

/-- The content of a file. A file that cannot be read has none. -/
def readFile (path : String) : IO File := do
  try
    return ⟨some (← IO.FS.readFile path)⟩
  catch _ =>
    return ⟨none⟩

/-- The files that a check reads, with their paths. -/
def readFiles (arguments : Arguments) : IO (List (String × File)) :=
  (arguments.node.toList ++ arguments.metadata.toList ++ arguments.files).mapM fun path => do
    return (path, ← readFile path)

/-- Does what a command line asks for. -/
def serve : CommandLine → IO UInt32
  | .misuse => do
      IO.eprintln usage
      return 2
  | .help => do
      helpLines.forM IO.println
      return 0
  | .check arguments => do
      let files ← readFiles arguments
      let firstId ← IO.rand 0 (1 <<< 122 - 1)
      let output := run firstId (fun path => (files.lookup path).getD ⟨none⟩) arguments
      output.lines.forM IO.println
      output.errors.forM IO.eprintln
      return output.code.toUInt32

end RadarRelay.Main

/-- Checks configuration files. -/
def main (words : List String) : IO UInt32 :=
  RadarRelay.Main.serve (RadarRelay.Check.CommandLine.read words)
