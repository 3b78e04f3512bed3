import WikiDates.Locale.Identifier
import WikiDates.Locale.Known

/-!
# From identifiers to locales

    text ──Identifier.parse──▶ identifier ──resolve?──▶ locale

An identifier stands for the locale that is recorded under its text, or under its text without the
modifier. If there is none, old names in it are replaced by those in use, and the parts that it
leaves out are filled in with the likely ones: for the identifier as a whole, if it is listed with
its likely parts, and else for its language. With the likely parts a locale is looked for twice, the
second time without script and variant.

A locale that is found at once keeps the modifier in its name. One that is found through its likely
parts has no modifier.
-/

namespace WikiDates

/-- A locale that dates can be written in. -/
structure Locale where
  /-- The name of the locale, in which a modifier may be kept. -/
  name : String
  /-- Its conventions. -/
  conventions : Locale.Conventions

namespace Locale

/-! ### Names in use -/

/-- Languages under an old name or a longer code, with the name in use. -/
def languageAliases : List (String × String) :=
  [("iw", "he"), ("heb", "he"), ("eng", "en"), ("fra", "fr"), ("fre", "fr"), ("deu", "de"),
    ("ger", "de"), ("rus", "ru"), ("jpn", "ja"), ("ara", "ar"), ("fin", "fi"), ("zho", "zh"),
    ("chi", "zh")]

/-- Territories under an old name or a number, with the name in use. -/
def territoryAliases : List (String × String) :=
  [("UK", "GB"), ("FX", "FR"), ("DD", "DE"), ("SU", "RU"), ("CS", "RS"), ("YU", "RS"),
    ("840", "US"), ("826", "GB"), ("250", "FR"), ("249", "FR"), ("276", "DE"), ("278", "DE"),
    ("280", "DE"), ("643", "RU"), ("810", "RU"), ("392", "JP"), ("818", "EG"), ("246", "FI"),
    ("156", "CN"), ("158", "TW"), ("040", "AT"), ("376", "IL"), ("688", "RS"), ("891", "RS")]

/-- The name in use for a part of an identifier. -/
def nameInUse (aliases : List (String × String)) (part : List Char) : List Char :=
  ((aliases.lookup (String.ofList part)).map String.toList).getD part

/-- An identifier with the names in use. An unknown territory or script counts as left out. -/
def Identifier.inUse (i : Identifier) : Identifier :=
  { i with
    language := nameInUse languageAliases i.language
    script := i.script.filter (· ≠ "Zzzz".toList)
    territory := (i.territory.map (nameInUse territoryAliases)).filter (· ≠ "ZZ".toList) }

/-! ### Likely parts -/

/-- A language in a script and a territory. -/
def inTerritory (language script territory : String) : Identifier :=
  { language := language.toList, script := some script.toList, territory := some territory.toList }

/-- Identifiers with their likely parts. -/
def likelyParts : List (String × Identifier) :=
  [("und", inTerritory "en" "Latn" "US"), ("en", inTerritory "en" "Latn" "US"),
    ("fr", inTerritory "fr" "Latn" "FR"), ("de", inTerritory "de" "Latn" "DE"),
    ("ru", inTerritory "ru" "Cyrl" "RU"), ("ja", inTerritory "ja" "Jpan" "JP"),
    ("ar", inTerritory "ar" "Arab" "EG"), ("fi", inTerritory "fi" "Latn" "FI"),
    ("zh", inTerritory "zh" "Hans" "CN"), ("zh_TW", inTerritory "zh" "Hant" "TW"),
    ("he", inTerritory "he" "Hebr" "IL"), ("no", inTerritory "no" "Latn" "NO"),
    ("sr", inTerritory "sr" "Cyrl" "RS"), ("und_AT", inTerritory "de" "Latn" "AT"),
    ("und_CN", inTerritory "zh" "Hans" "CN"), ("und_DE", inTerritory "de" "Latn" "DE"),
    ("und_EG", inTerritory "ar" "Arab" "EG"), ("und_FI", inTerritory "fi" "Latn" "FI"),
    ("und_FR", inTerritory "fr" "Latn" "FR"), ("und_IL", inTerritory "he" "Hebr" "IL"),
    ("und_JP", inTerritory "ja" "Jpan" "JP"), ("und_RS", inTerritory "sr" "Cyrl" "RS"),
    ("und_RU", inTerritory "ru" "Cyrl" "RU"), ("und_TW", inTerritory "zh" "Hant" "TW"),
    ("und_Arab", inTerritory "ar" "Arab" "EG"), ("und_Cyrl", inTerritory "ru" "Cyrl" "RU"),
    ("und_Hans", inTerritory "zh" "Hans" "CN"), ("und_Hant", inTerritory "zh" "Hant" "TW"),
    ("und_Hebr", inTerritory "he" "Hebr" "IL"), ("und_Jpan", inTerritory "ja" "Jpan" "JP")]

/-! ### Finding a locale -/

/-- The locale that is recorded under the text of an identifier, with or without its modifier. -/
def ofIdentifier? (i : Identifier) : Option Locale :=
  ((recorded? i.toText.toList).or (recorded? i.core.toList)).map fun conventions =>
    ⟨i.toText, conventions⟩

/-- The locale of an identifier, or else of its language and territory alone. -/
def ofReduced? (i : Identifier) : Option Locale :=
  (ofIdentifier? i).or (ofIdentifier? { language := i.language, territory := i.territory })

/-- The locale that an identifier leads to through its likely parts. -/
def ofLikely? (i : Identifier) : Option Locale :=
  ((likelyParts.lookup i.toText).bind ofReduced?).or
    ((likelyParts.lookup (String.ofList i.language)).bind fun likely =>
      ofReduced? { likely with territory := i.territory })

/-- The locale that an identifier leads to. -/
def resolve? (i : Identifier) : Option Locale := (ofIdentifier? i).or (ofLikely? i.inUse)

/-- Read a locale. -/
def parse (s : String) : Except Fault Locale := do
  let i ← Identifier.parse s
  match resolve? i with
  | some locale => pure locale
  | none => throw (.unknown i.toText)

end Locale
end WikiDates
