import GrammarLang.CommandLine.Answer

/-! # The program

Reads the grammar file that the command line names and writes what is asked for. -/

namespace GrammarLang.CommandLine

/-- What is found under a path of the system. -/
def readText (path : String) : IO (Except ReadError String) := do
  try
    let bytes ← IO.FS.readBinFile path
    match String.fromUTF8? bytes with
    | some text => return .ok text
    | none => return .error .notText
  catch failure =>
    match failure with
    | .noFileOrDirectory .. => return .error .missing
    | .inappropriateType _ 21 _ => return .error .directory
    | _ => return .error (.system (toString failure))

end GrammarLang.CommandLine

open GrammarLang.CommandLine in
/-- Runs the program on the words of a command line. -/
def main (words : List String) : IO UInt32 := do
  let answer ← answer readText words
  IO.print answer.output
  IO.eprint answer.problems
  return answer.exitCode.toUInt32
