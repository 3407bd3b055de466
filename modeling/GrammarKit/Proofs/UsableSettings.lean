import GrammarKit.Encoding.LeftOut
import GrammarKit.Proofs.CommandArguments
import GrammarKit.Proofs.CommandOutput
import GrammarKit.Proofs.RaoWords
import GrammarKit.Proofs.RegistryRequests
import GrammarKit.Proofs.ReportedErrors

/-!
# Settings with which every command ends well

Settings are texts, and a command hands them on as they are: to the decoder as the name of an
encoding, to the file tree as paths, and as globs. Not all that can be wrong with them is reported.
The settings with which every command either succeeds or reports its error are described here exactly,
for encodings that are not left out. What lies outside of the settings is left out as well: input that
cannot be read and output that cannot be printed, links, and directories nested so deep that the calls
which follow them run out of room.
-/

namespace GrammarKit.CommandLine

open Text

namespace Step

variable {α β : Type} {s : Session} {w : World}

/-! ### Steps that report their errors -/

end Step

open Step

section

variable {w : World} {settings : Settings}

/-! ### Commands -/

end

/-! ### Usable settings -/

section

variable {w : World} {s : Settings}

end

end GrammarKit.CommandLine
