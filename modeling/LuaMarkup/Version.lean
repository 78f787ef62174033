/-!
The version of the program.
-/

namespace LuaMarkup

def version : String := "0.1.0"

end LuaMarkup
