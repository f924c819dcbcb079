import TenantConsole.Text.Encoding
import TenantConsole.Url.Percent

/-!
# Queries

The part of a URL after the question mark as a list of names and values: pairs are parted by
ampersands, a name ends at the first equals sign, and a plus sign stands for a blank.
-/

namespace TenantConsole.Query

/-- The text that a part of a pair stands for. -/
def decodePart (part : List Char) : String :=
  let spaced := part.map fun c => if c = '+' then ' ' else c
  Text.readMended (Percent.decodeBytes (String.ofList spaced).toUTF8.toList)

def pair (text : List Char) : String × String :=
  let name := text.takeWhile (· ≠ '=')
  (decodePart name, decodePart (text.drop (name.length + 1)))

/-- The pairs of a query, in order. -/
def pairs (query : List Char) : List (String × String) :=
  ((query.splitOn '&').filter (· ≠ [])).map pair

end TenantConsole.Query
