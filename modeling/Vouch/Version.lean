/-!
The version of the program.
-/

namespace Vouch

def programVersion : String := "0.4.0"

end Vouch
