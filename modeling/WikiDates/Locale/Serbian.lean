import WikiDates.Locale.Conventions

/-!
# Serbian conventions

Dates in Serbian, which is written in two scripts. Midnight and noon have no names that stand alone.
-/

namespace WikiDates.Locale

/-- The conventions of Serbian in Serbia, in Cyrillic script. -/
def serbian : Conventions :=
  { week := ⟨0, 1⟩
    periods :=
      [ { id := "midnight", span := .moment 0
          standalone := ⟨none, none, none⟩
          inTime := ⟨some "поноћ", some "поноћ", some "поноћ"⟩ },
        { id := "noon", span := .moment 43200
          standalone := ⟨none, none, none⟩
          inTime := ⟨some "подне", some "подне", some "подне"⟩ },
        { id := "morning1", span := .between 21600 43200
          standalone := ⟨some "јутро", some "јутро", some "јутро"⟩
          inTime := ⟨some "ујутру", some "ујутру", some "ујутру"⟩ },
        { id := "afternoon1", span := .between 43200 64800
          standalone := ⟨some "поподне", some "поподне", some "поподне"⟩
          inTime := ⟨some "по подне", some "по подне", some "по подне"⟩ },
        { id := "evening1", span := .between 64800 75600
          standalone := ⟨some "вече", some "вече", some "вече"⟩
          inTime := ⟨some "увече", some "увече", some "увече"⟩ },
        { id := "night1", span := .between 75600 21600
          standalone := ⟨some "ноћ", some "ноћ", some "ноћ"⟩
          inTime := ⟨some "ноћу", some "ноћу", some "ноћу"⟩ } ]
    months :=
      { abbreviated := monthNames "јан" "феб" "мар" "апр" "мај" "јун" "јул" "авг" "сеп" "окт" "нов"
          "дец"
        wide := monthNames "јануар" "фебруар" "март" "април" "мај" "јун" "јул" "август" "септембар"
          "октобар" "новембар" "децембар"
        narrow := monthNames "ј" "ф" "м" "а" "м" "ј" "ј" "а" "с" "о" "н" "д" }
    standaloneMonths :=
      { abbreviated := monthNames "јан" "феб" "мар" "апр" "мај" "јун" "јул" "авг" "сеп" "окт" "нов"
          "дец"
        wide := monthNames "јануар" "фебруар" "март" "април" "мај" "јун" "јул" "август" "септембар"
          "октобар" "новембар" "децембар"
        narrow := monthNames "ј" "ф" "м" "а" "м" "ј" "ј" "а" "с" "о" "н" "д" }
    days :=
      { forms :=
          { abbreviated := dayNames "пон" "уто" "сре" "чет" "пет" "суб" "нед"
            wide := dayNames "понедељак" "уторак" "среда" "четвртак" "петак" "субота" "недеља"
            narrow := dayNames "п" "у" "с" "ч" "п" "с" "н" }
        short := dayNames "по" "ут" "ср" "че" "пе" "су" "не" }
    standaloneDays :=
      { forms :=
          { abbreviated := dayNames "пон" "уто" "сре" "чет" "пет" "суб" "нед"
            wide := dayNames "понедељак" "уторак" "среда" "четвртак" "петак" "субота" "недеља"
            narrow := dayNames "п" "у" "с" "ч" "п" "с" "н" }
        short := dayNames "по" "ут" "ср" "че" "пе" "су" "не" }
    quarters :=
      { abbreviated := quarterNames "1. кв." "2. кв." "3. кв." "4. кв."
        wide := quarterNames "први квартал" "други квартал" "трећи квартал" "четврти квартал"
        narrow := quarterNames "1." "2." "3." "4." }
    standaloneQuarters :=
      { abbreviated := quarterNames "1. кв." "2. кв." "3. кв." "4. кв."
        wide := quarterNames "први квартал" "други квартал" "трећи квартал" "четврти квартал"
        narrow := quarterNames "1." "2." "3." "4." }
    era := ⟨"н. е.", "нове ере", "н.е."⟩
    halves :=
      { abbreviated := halfNames "AM" "PM"
        wide := halfNames "AM" "PM"
        narrow := halfNames "AM" "PM" }
    zone :=
      { short := "UTC"
        long := "Координисано универзално време"
        offset := "GMT+00:00"
        region := "непознат регион (UTC), летње време" } }

/-- The conventions of Serbian in Serbia, in Latin script. -/
def serbianLatin : Conventions :=
  { week := ⟨0, 1⟩
    periods :=
      [ { id := "midnight", span := .moment 0
          standalone := ⟨none, none, none⟩
          inTime := ⟨some "ponoć", some "ponoć", some "ponoć"⟩ },
        { id := "noon", span := .moment 43200
          standalone := ⟨none, none, none⟩
          inTime := ⟨some "podne", some "podne", some "podne"⟩ },
        { id := "morning1", span := .between 21600 43200
          standalone := ⟨some "jutro", some "jutro", some "jutro"⟩
          inTime := ⟨some "ujutru", some "ujutru", some "ujutru"⟩ },
        { id := "afternoon1", span := .between 43200 64800
          standalone := ⟨some "popodne", some "popodne", some "popodne"⟩
          inTime := ⟨some "po podne", some "po podne", some "po podne"⟩ },
        { id := "evening1", span := .between 64800 75600
          standalone := ⟨some "veče", some "veče", some "veče"⟩
          inTime := ⟨some "uveče", some "uveče", some "uveče"⟩ },
        { id := "night1", span := .between 75600 21600
          standalone := ⟨some "noć", some "noć", some "noć"⟩
          inTime := ⟨some "noću", some "noću", some "noću"⟩ } ]
    months :=
      { abbreviated := monthNames "jan" "feb" "mar" "apr" "maj" "jun" "jul" "avg" "sep" "okt" "nov"
          "dec"
        wide := monthNames "januar" "februar" "mart" "april" "maj" "jun" "jul" "avgust" "septembar"
          "oktobar" "novembar" "decembar"
        narrow := monthNames "j" "f" "m" "a" "m" "j" "j" "a" "s" "o" "n" "d" }
    standaloneMonths :=
      { abbreviated := monthNames "jan" "feb" "mar" "apr" "maj" "jun" "jul" "avg" "sep" "okt" "nov"
          "dec"
        wide := monthNames "januar" "februar" "mart" "april" "maj" "jun" "jul" "avgust" "septembar"
          "oktobar" "novembar" "decembar"
        narrow := monthNames "j" "f" "m" "a" "m" "j" "j" "a" "s" "o" "n" "d" }
    days :=
      { forms :=
          { abbreviated := dayNames "pon" "uto" "sre" "čet" "pet" "sub" "ned"
            wide := dayNames "ponedeljak" "utorak" "sreda" "četvrtak" "petak" "subota" "nedelja"
            narrow := dayNames "p" "u" "s" "č" "p" "s" "n" }
        short := dayNames "po" "ut" "sr" "če" "pe" "su" "ne" }
    standaloneDays :=
      { forms :=
          { abbreviated := dayNames "pon" "uto" "sre" "čet" "pet" "sub" "ned"
            wide := dayNames "ponedeljak" "utorak" "sreda" "četvrtak" "petak" "subota" "nedelja"
            narrow := dayNames "p" "u" "s" "č" "p" "s" "n" }
        short := dayNames "po" "ut" "sr" "če" "pe" "su" "ne" }
    quarters :=
      { abbreviated := quarterNames "1. kv." "2. kv." "3. kv." "4. kv."
        wide := quarterNames "prvi kvartal" "drugi kvartal" "treći kvartal" "četvrti kvartal"
        narrow := quarterNames "1." "2." "3." "4." }
    standaloneQuarters :=
      { abbreviated := quarterNames "1. kv." "2. kv." "3. kv." "4. kv."
        wide := quarterNames "prvi kvartal" "drugi kvartal" "treći kvartal" "četvrti kvartal"
        narrow := quarterNames "1." "2." "3." "4." }
    era := ⟨"n. e.", "nove ere", "n.e."⟩
    halves :=
      { abbreviated := halfNames "AM" "PM"
        wide := halfNames "AM" "PM"
        narrow := halfNames "AM" "PM" }
    zone :=
      { short := "UTC"
        long := "Koordinisano univerzalno vreme"
        offset := "GMT+00:00"
        region := "nepoznat region (UTC), letnje vreme" } }

end WikiDates.Locale
