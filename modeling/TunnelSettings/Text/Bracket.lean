/-!
Brackets around a text, in the three forms in which values are shown, and the mark for what is left out.
-/
namespace TunnelSettings.Text

def inBrackets (s : String) : String := "[" ++ s ++ "]"

def inParentheses (s : String) : String := "(" ++ s ++ ")"

def inBraces (s : String) : String := .singleton '{' ++ s ++ .singleton '}'

/-- What stands in place of something that is not shown. -/
def ellipsis : String := "..."

end TunnelSettings.Text
