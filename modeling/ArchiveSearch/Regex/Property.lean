import ArchiveSearch.Regex.CharSet
import ArchiveSearch.Regex.Syntax
import ArchiveSearch.Text.Age
import ArchiveSearch.Text.Script
import ArchiveSearch.Text.Segmentation

/-!
# Looking up properties of characters

Names of properties and of their values are compared without regard to case, blanks, dashes,
underscores and a leading `is`. One name alone may be that of a yes-or-no property, of a general
category or of a script.
-/

namespace ArchiveSearch.Regex

open Text

/-- A name in the form in which names are compared. -/
def comparableName (name : String) : String :=
  let basic (cs : List Char) : List Char :=
    (cs.filter fun c => c.toNat < 128 && c != ' ' && c != '_' && c != '-').map Char.toLower
  match name.toList with
  | i :: s :: rest =>
      if i.toLower == 'i' && s.toLower == 's' then
        let kept := basic rest
        if kept == ['c'] then "isc" else String.ofList kept
      else String.ofList (basic (i :: s :: rest))
  | cs => String.ofList (basic cs)

/-- The general categories that a name for several of them stands for. -/
def categoryGroup? (name : String) : Option (List String) :=
  match name with
  | "c" | "other" => some ["cc", "cf", "co", "cn"]
  | "l" | "letter" => some ["lu", "ll", "lt", "lm", "lo"]
  | "lc" | "casedletter" => some ["lu", "ll", "lt"]
  | "m" | "mark" | "combiningmark" => some ["mn", "mc", "me"]
  | "n" | "number" => some ["nd", "nl", "no"]
  | "p" | "punctuation" | "punct" => some ["pc", "pd", "ps", "pe", "pi", "pf", "po"]
  | "s" | "symbol" => some ["sm", "sc", "sk", "so"]
  | "z" | "separator" => some ["zs", "zl", "zp"]
  | _ => none

/-- The characters of a general category, or of one of the three sets that are asked for like
one. -/
def category? (name : String) : Option CharSet :=
  match name with
  | "any" => some .full
  | "ascii" => some (.ranges #[(0, 0x7f)])
  | "assigned" => some (.compl (.ranges ((NamedRanges.find? categories "cn").getD #[])))
  | name =>
      match categoryGroup? name with
      | some members => some (.ranges (.unite (categoryRanges members)))
      | none => (NamedRanges.find? categories name).map .ranges

/-- The characters of a script. -/
def script? (name : String) : Option CharSet :=
  (NamedRanges.find? scripts name).map .ranges

/-- The characters that a version of Unicode has. -/
def age? (name : String) : Option CharSet :=
  let upTo := ages.takeWhile fun entry => !entry.names.contains name
  if upTo.length = ages.length then none
  else
    some (.ranges (.unite ((ages.take (upTo.length + 1)).flatMap fun entry =>
      (Ranges.read entry.members).toList)))

/-- The characters that a value of a property stands for. -/
def propertyValue? (name value : String) : Option CharSet :=
  match name with
  | "gc" | "generalcategory" => category? value
  | "sc" | "script" => script? value
  | "scx" | "scriptextensions" =>
      ((NamedRanges.find? scriptExtensions value).or (NamedRanges.find? scripts value)).map .ranges
  | "age" => age? value
  | "gcb" | "graphemeclusterbreak" => (NamedRanges.find? graphemeBreaks value).map .ranges
  | "wb" | "wordbreak" => (NamedRanges.find? wordBreaks value).map .ranges
  | "sb" | "sentencebreak" => (NamedRanges.find? sentenceBreaks value).map .ranges
  | _ => none

/-- The characters that have a property. Three short names belong to categories although they
would also fit a property. -/
def PropertyName.meaning? : PropertyName → Option CharSet
  | alone name =>
      let name := comparableName name
      let property :=
        if name == "cf" || name == "sc" || name == "lc" then none
        else (NamedRanges.find? properties name).map .ranges
      property.or ((category? name).or (script? name))
  | withValue name value => propertyValue? (comparableName name) (comparableName value)

end ArchiveSearch.Regex
