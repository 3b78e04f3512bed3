import WikiDates.Locale.Conventions

/-!
# Norwegian conventions

Dates in Norwegian. The morning has two parts, and noon has no name.
-/

namespace WikiDates.Locale

/-- The conventions of Norwegian in Norway. -/
def norwegian : Conventions :=
  { week := ⟨0, 4⟩
    periods :=
      [ { id := "midnight", span := .moment 0
          standalone := ⟨some "midnatt", some "midnatt", some "mn."⟩
          inTime := ⟨some "midn.", some "midnatt", some "mn."⟩ },
        { id := "morning1", span := .between 21600 36000
          standalone := ⟨some "morgen", some "morgen", some "mg."⟩
          inTime := ⟨some "morg.", some "på morgenen", some "mg."⟩ },
        { id := "morning2", span := .between 36000 43200
          standalone := ⟨some "formiddag", some "formiddag", some "fm."⟩
          inTime := ⟨some "form.", some "på formiddagen", some "fm."⟩ },
        { id := "afternoon1", span := .between 43200 64800
          standalone := ⟨some "ettermiddag", some "ettermiddag", some "em."⟩
          inTime := ⟨some "etterm.", some "på ettermiddagen", some "em."⟩ },
        { id := "evening1", span := .between 64800 86400
          standalone := ⟨some "kveld", some "kveld", some "kv."⟩
          inTime := ⟨some "kveld", some "på kvelden", some "kv."⟩ },
        { id := "night1", span := .between 0 21600
          standalone := ⟨some "natt", some "natt", some "nt."⟩
          inTime := ⟨some "natt", some "på natten", some "nt."⟩ } ]
    months :=
      { abbreviated := monthNames "jan." "feb." "mars" "apr." "mai" "juni" "juli" "aug." "sep."
          "okt." "nov." "des."
        wide := monthNames "januar" "februar" "mars" "april" "mai" "juni" "juli" "august"
          "september" "oktober" "november" "desember"
        narrow := monthNames "J" "F" "M" "A" "M" "J" "J" "A" "S" "O" "N" "D" }
    standaloneMonths :=
      { abbreviated := monthNames "jan" "feb" "mar" "apr" "mai" "jun" "jul" "aug" "sep" "okt" "nov"
          "des"
        wide := monthNames "januar" "februar" "mars" "april" "mai" "juni" "juli" "august"
          "september" "oktober" "november" "desember"
        narrow := monthNames "J" "F" "M" "A" "M" "J" "J" "A" "S" "O" "N" "D" }
    days :=
      { forms :=
          { abbreviated := dayNames "man." "tir." "ons." "tor." "fre." "lør." "søn."
            wide := dayNames "mandag" "tirsdag" "onsdag" "torsdag" "fredag" "lørdag" "søndag"
            narrow := dayNames "M" "T" "O" "T" "F" "L" "S" }
        short := dayNames "ma." "ti." "on." "to." "fr." "lø." "sø." }
    standaloneDays :=
      { forms :=
          { abbreviated := dayNames "man." "tir." "ons." "tor." "fre." "lør." "søn."
            wide := dayNames "mandag" "tirsdag" "onsdag" "torsdag" "fredag" "lørdag" "søndag"
            narrow := dayNames "M" "T" "O" "T" "F" "L" "S" }
        short := dayNames "ma." "ti." "on." "to." "fr." "lø." "sø." }
    quarters :=
      { abbreviated := quarterNames "K1" "K2" "K3" "K4"
        wide := quarterNames "1. kvartal" "2. kvartal" "3. kvartal" "4. kvartal"
        narrow := quarterNames "1." "2." "3." "4." }
    standaloneQuarters :=
      { abbreviated := quarterNames "K1" "K2" "K3" "K4"
        wide := quarterNames "1. kvartal" "2. kvartal" "3. kvartal" "4. kvartal"
        narrow := quarterNames "1." "2." "3." "4." }
    era := ⟨"e.Kr.", "etter Kristus", "e.Kr."⟩
    halves :=
      { abbreviated := halfNames "a.m." "p.m."
        wide := halfNames "a.m." "p.m."
        narrow := halfNames "a" "p" }
    zone :=
      { short := "UTC"
        long := "koordinert universaltid"
        offset := "GMT+00:00"
        region := "tidssone for ukjent område (UTC)" } }

end WikiDates.Locale
