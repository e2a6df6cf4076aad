/-!
# Words between ticks

Messages show the words of a program between ticks.
-/

namespace Overlay.Text

def ticked (s : String) : String := "`" ++ s ++ "`"

end Overlay.Text
