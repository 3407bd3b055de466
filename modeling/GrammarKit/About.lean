import GrammarKit.Text.Basic

/-!
# The program's name and version
-/

namespace GrammarKit

def programName : Text := "lexdesc".toList

/-- The version of the program; a program that is not installed has none to show. -/
def programVersion (installed : Bool) : Text :=
  if installed then "0.3.0".toList else "0.0.0".toList

end GrammarKit
