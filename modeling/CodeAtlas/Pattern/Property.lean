import CodeAtlas.Pattern.Basic
import CodeAtlas.Text.Table.Category
import CodeAtlas.Text.Table.Script

/-!
# Character properties by name

The sets of characters that a pattern can ask for by the name of a general category, a script or a
yes-or-no property. Case, blanks, underscores and hyphens in a name do not matter.
-/

namespace CodeAtlas.Pattern

/-- A property name in lower case without separators. -/
def normalName (name : Text) : String :=
  let plain := Text.asciiLowercase (name.filter fun c => c != ' ' && c != '_' && c != '-')
  String.ofList ((Text.dropHead? plain "is".toList).getD plain)

/-- The table with the given name. -/
def tableNamed? (tables : List (List String × Text.RangeTable)) (name : String) : Option CharSet :=
  (tables.find? (·.1.contains name)).map fun entry => .table entry.2

/-- The groups of general categories, each by its names and the first letters of its members. -/
def categoryGroups : List (List String × List String) := [
  (["l", "letter"], ["ll", "lm", "lo", "lt", "lu"]),
  (["lc", "casedletter"], ["ll", "lt", "lu"]),
  (["m", "mark", "combiningmark"], ["mc", "me", "mn"]),
  (["n", "number"], ["nd", "nl", "no"]),
  (["p", "punctuation", "punct"], ["pc", "pd", "pe", "pf", "pi", "po", "ps"]),
  (["s", "symbol"], ["sc", "sk", "sm", "so"]),
  (["z", "separator"], ["zl", "zp", "zs"])]

/-- The characters of some general category. -/
def assigned : CharSet :=
  .oneOf (Text.Table.categoryTables.map fun entry => .table entry.2)

/-- The characters of a general category or a group of them. -/
def categoryNamed? (name : String) : Option CharSet :=
  if name = "any" then some .any
  else if name = "ascii" then some (.range '\x00' '\x7f')
  else if name = "assigned" then some assigned
  else if name = "cn" || name = "unassigned" then some (.complement assigned)
  else if name = "c" || name = "other" then
    some (.union (.complement assigned) (.oneOf (["cc", "cf", "co"].filterMap
      (tableNamed? Text.Table.categoryTables))))
  else match categoryGroups.find? (·.1.contains name) with
    | some (_, members) =>
      some (.oneOf (members.filterMap (tableNamed? Text.Table.categoryTables)))
    | none => tableNamed? Text.Table.categoryTables name

/-- The characters with a yes-or-no property. -/
def binaryNamed? (name : String) : Option CharSet :=
  if ["alphabetic", "alpha"].contains name then
    some (.union (.oneOf [.range 'a' 'z', .range 'A' 'Z']) (.table Text.Table.alphabetic))
  else if ["whitespace", "wspace", "space"].contains name then some .space
  else if ["uppercase", "upper"].contains name then
    tableNamed? Text.Table.categoryTables "lu"
  else if ["lowercase", "lower"].contains name then
    tableNamed? Text.Table.categoryTables "ll"
  else none

/-- The set of a bare property name. -/
def propertyNamed? (name : Text) : Option CharSet :=
  let name := normalName name
  (binaryNamed? name).or ((categoryNamed? name).or (tableNamed? Text.Table.scriptTables name))

/-- The set of a property given as a name and a value. -/
def propertyValued? (name value : Text) : Option CharSet :=
  let name := normalName name
  if ["generalcategory", "gc"].contains name then categoryNamed? (normalName value)
  else if ["script", "sc", "scriptextensions", "scx"].contains name then
    tableNamed? Text.Table.scriptTables (normalName value)
  else none

end CodeAtlas.Pattern
