import WikiDates.Locale.Arabic
import WikiDates.Locale.Chinese
import WikiDates.Locale.English
import WikiDates.Locale.Finnish
import WikiDates.Locale.French
import WikiDates.Locale.German
import WikiDates.Locale.Hebrew
import WikiDates.Locale.Japanese
import WikiDates.Locale.Norwegian
import WikiDates.Locale.Root
import WikiDates.Locale.Russian
import WikiDates.Locale.Serbian
import WikiDates.Text.Blank
import WikiDates.Text.Casing

/-!
# Known locales

    name ──recorded?──▶ conventions

The conventions of a locale are recorded under its name. A language without a territory counts weeks
as most of the world does.

A name is looked up letter by letter; what stands in front of its last slash does not matter then.
If that finds nothing, it is looked up as a whole, without regard to case and to blanks around it.
-/

namespace WikiDates.Locale

/-- The week where there is no territory: it starts on Monday, and a single day makes a week. -/
def worldWeek : Calendar.WeekRule := ⟨0, 1⟩

/-- The known locales by their names. -/
def known : List (String × Conventions) :=
  [("root", root),
    ("en", { american with week := worldWeek }), ("en_US", american), ("en_US_POSIX", american),
    ("en_GB", british), ("en_001", { british with week := worldWeek }),
    ("en_150", { british with week := worldWeek }), ("en_AT", british), ("en_DE", british),
    ("en_FI", british), ("en_FR", british), ("en_IL", { british with week := ⟨6, 1⟩ }),
    ("fr", { french with week := worldWeek }), ("fr_FR", french),
    ("de", { german with week := worldWeek }), ("de_DE", german), ("de_AT", austrian),
    ("ru", { russian with week := worldWeek }), ("ru_RU", russian),
    ("ja", { japanese with week := worldWeek }), ("ja_JP", japanese),
    ("ar", { arabic with week := worldWeek }), ("ar_EG", arabic),
    ("fi", { finnish with week := worldWeek }), ("fi_FI", finnish),
    ("zh", chinese), ("zh_Hans", chinese), ("zh_Hans_CN", chinese),
    ("zh_Hant", { traditionalChinese with week := worldWeek }), ("zh_Hant_TW", traditionalChinese),
    ("he", { hebrew with week := worldWeek }), ("he_IL", hebrew),
    ("no", { norwegian with week := worldWeek }),
    ("sr", serbian), ("sr_Cyrl", serbian), ("sr_Cyrl_RS", serbian),
    ("sr_Latn", serbianLatin), ("sr_Latn_RS", serbianLatin)]

/-- What stands behind the last slash of a name. -/
def behindSlash (name : List Char) : List Char := (name.reverse.takeWhile (· != '/')).reverse

/-- The conventions that are recorded under a name. -/
def recorded? (name : List Char) : Option Conventions :=
  match known.lookup (String.ofList (behindSlash name)) with
  | some conventions => some conventions
  | none =>
    let folded := Text.lowerCase (Text.trim name)
    (known.find? fun entry => entry.1.toList.map Char.toLower == folded).map Prod.snd

end WikiDates.Locale
