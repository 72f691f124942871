import OnePass.Proofs.FailureOutput
import OnePass.Proofs.FileText
import OnePass.Proofs.ListingLines

/-!
# Listings of a call

A quiet call that succeeds prints its labels and nothing else, one line for each below a headline.
Labels are words of the source, so if this has no escape characters the lines come out as they are
and can be read back, and so can those of the symbol file. Calls that print the same, or write the
same symbol file, have declared the same.
-/

namespace OnePass.Proofs

/-- A quiet call that assembles a file without escape characters and ends without failure. -/
structure QuietCall where
  arguments : List Text
  env : Environment
  files : FileTree
  trace : Failure → Text
  parsed : Arguments
  path : Text
  config : Config
  source : Source
  effect : Effect
  names : Names arguments env files parsed path config
  quiet : parsed.has .verbose = false
  read : files.readText (Path.ofText path).toText config.encoding = .ok source
  unescaped : ∀ line ∈ source.lines, '\x1b' ∉ line
  run : Program.run arguments env files trace = .ok effect
  succeeds : effect.exitCode = 0

namespace QuietCall

def assembler (c : QuietCall) : Assembler := (callAssembly c.config c.files c.path).assembler

/-- The labels that the lines of the file declare, in order. -/
def declared (c : QuietCall) : List Symbol :=
  declarations c.config MnemonicTable.standard (Path.ofText c.path).toText c.source.lines

end QuietCall

section Listing

variable (c : QuietCall)

variable {c} {e : Encoding} {bytes : Bytes} {s : Session}

end Listing

end OnePass.Proofs
