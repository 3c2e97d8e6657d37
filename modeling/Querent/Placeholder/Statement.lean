import Querent.Placeholder.Scanner
import Querent.Text.Blank

/-! Statements with their placeholders in the style of a backend. -/

namespace Querent

/-- A statement text with its placeholders in one style. -/
def PlaceholderStyle.translate (style : PlaceholderStyle) (sql : String) : String :=
  String.ofList (style.restyle 0 .plain sql.toList)

/-- Whether a placeholder of a statement text is rewritten. -/
def PlaceholderStyle.changes (style : PlaceholderStyle) (sql : String) : Bool :=
  style.rewrites 0 .plain sql.toList

/-- A statement text as a backend is handed it: trimmed, with placeholders in its style. -/
def PlaceholderStyle.normalize (style : PlaceholderStyle) (sql : String) : String :=
  style.translate (trim sql)

end Querent
