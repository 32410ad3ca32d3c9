/-!
# Version

What the library calls itself.
-/

namespace TerminalSession

def programName : String := "termscreen"

def version : String := programName ++ " 0.1.0"

end TerminalSession
