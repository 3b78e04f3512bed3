import WikiDates.Locale.Conventions

/-!
# Finnish conventions

Dates in Finnish. Months and days have other case forms within a date.
-/

namespace WikiDates.Locale

/-- The conventions of Finnish in Finland. -/
def finnish : Conventions :=
  { week := ⟨0, 4⟩
    periods :=
      [ { id := "midnight", span := .moment 0
          standalone := ⟨some "keskiyö", some "ky.", some "ky."⟩
          inTime := ⟨some "keskiyöllä", some "keskiyöllä", some "ky."⟩ },
        { id := "noon", span := .moment 43200
          standalone := ⟨some "keskipäivä", some "keskipäivä", some "kp."⟩
          inTime := ⟨some "keskip.", some "keskipäivällä", some "kp."⟩ },
        { id := "morning1", span := .between 18000 36000
          standalone := ⟨some "aamu", some "aamu", some "aamu"⟩
          inTime := ⟨some "aamulla", some "aamulla", some "aamulla"⟩ },
        { id := "morning2", span := .between 36000 43200
          standalone := ⟨some "aamup.", some "aamupäivä", some "ap."⟩
          inTime := ⟨some "aamup.", some "aamupäivällä", some "ap."⟩ },
        { id := "afternoon1", span := .between 43200 64800
          standalone := ⟨some "iltap.", some "iltapäivä", some "ip."⟩
          inTime := ⟨some "iltap.", some "iltapäivällä", some "ip."⟩ },
        { id := "evening1", span := .between 64800 82800
          standalone := ⟨some "ilta", some "ilta", some "ilta"⟩
          inTime := ⟨some "illalla", some "illalla", some "illalla"⟩ },
        { id := "night1", span := .between 82800 18000
          standalone := ⟨some "yö", some "yö", some "yö"⟩
          inTime := ⟨some "yöllä", some "yöllä", some "yöllä"⟩ } ]
    months :=
      { abbreviated := monthNames "tammi" "helmi" "maalis" "huhti" "touko" "kesä" "heinä" "elo"
          "syys" "loka" "marras" "joulu"
        wide := monthNames "tammikuuta" "helmikuuta" "maaliskuuta" "huhtikuuta" "toukokuuta"
          "kesäkuuta" "heinäkuuta" "elokuuta" "syyskuuta" "lokakuuta" "marraskuuta"
          "joulukuuta"
        narrow := monthNames "T" "H" "M" "H" "T" "K" "H" "E" "S" "L" "M" "J" }
    standaloneMonths :=
      { abbreviated := monthNames "tammi" "helmi" "maalis" "huhti" "touko" "kesä" "heinä" "elo"
          "syys" "loka" "marras" "joulu"
        wide := monthNames "tammikuu" "helmikuu" "maaliskuu" "huhtikuu" "toukokuu" "kesäkuu"
          "heinäkuu" "elokuu" "syyskuu" "lokakuu" "marraskuu" "joulukuu"
        narrow := monthNames "T" "H" "M" "H" "T" "K" "H" "E" "S" "L" "M" "J" }
    days :=
      { forms :=
          { abbreviated := dayNames "ma" "ti" "ke" "to" "pe" "la" "su"
            wide := dayNames "maanantaina" "tiistaina" "keskiviikkona" "torstaina" "perjantaina"
              "lauantaina" "sunnuntai"
            narrow := dayNames "M" "T" "K" "T" "P" "L" "S" }
        short := dayNames "ma" "ti" "ke" "to" "pe" "la" "su" }
    standaloneDays :=
      { forms :=
          { abbreviated := dayNames "ma" "ti" "ke" "to" "pe" "la" "su"
            wide := dayNames "maanantai" "tiistai" "keskiviikko" "torstai" "perjantai" "lauantai"
              "sunnuntai"
            narrow := dayNames "M" "T" "K" "T" "P" "L" "S" }
        short := dayNames "ma" "ti" "ke" "to" "pe" "la" "su" }
    quarters :=
      { abbreviated := quarterNames "1. nelj." "2. nelj." "3. nelj." "4. nelj."
        wide := quarterNames "1. neljännes" "2. neljännes" "3. neljännes" "4. neljännes"
        narrow := quarterNames "1" "2" "3" "4" }
    standaloneQuarters :=
      { abbreviated := quarterNames "1. nelj." "2. nelj." "3. nelj." "4. nelj."
        wide := quarterNames "1. neljännes" "2. neljännes" "3. neljännes" "4. neljännes"
        narrow := quarterNames "1" "2" "3" "4" }
    era := ⟨"jKr.", "jälkeen Kristuksen syntymän", "jKr"⟩
    halves :=
      { abbreviated := halfNames "ap." "ip."
        wide := halfNames "ap." "ip."
        narrow := halfNames "ap." "ip." }
    zone :=
      { short := "UTC"
        long := "UTC-yleisaika"
        offset := "UTC+00:00"
        region := "aikavyöhyke: tuntematon alue (UTC)" } }

end WikiDates.Locale
