import WikiDates.Locale.Conventions

/-!
# German conventions

Dates in German. The morning has two parts, and so has the afternoon; noon has no name. In Austria
January has a name of its own.
-/

namespace WikiDates.Locale

/-- The conventions of German in Germany. -/
def german : Conventions :=
  { week := ⟨0, 4⟩
    periods :=
      [ { id := "midnight", span := .moment 0
          standalone := ⟨none, none, none⟩
          inTime := ⟨some "Mitternacht", some "Mitternacht", some "Mitternacht"⟩ },
        { id := "morning1", span := .between 18000 36000
          standalone := ⟨some "Morgen", some "Morgen", some "Morgen"⟩
          inTime := ⟨some "morgens", some "morgens", some "morgens"⟩ },
        { id := "morning2", span := .between 36000 43200
          standalone := ⟨some "Vorm.", some "Vormittag", some "Vormittag"⟩
          inTime := ⟨some "vorm.", some "vormittags", some "vormittags"⟩ },
        { id := "afternoon1", span := .between 43200 46800
          standalone := ⟨some "Mittag", some "Mittag", some "Mittag"⟩
          inTime := ⟨some "mittags", some "mittags", some "mittags"⟩ },
        { id := "afternoon2", span := .between 46800 64800
          standalone := ⟨some "Nachm.", some "Nachmittag", some "Nachmittag"⟩
          inTime := ⟨some "nachm.", some "nachmittags", some "nachmittags"⟩ },
        { id := "evening1", span := .between 64800 86400
          standalone := ⟨some "Abend", some "Abend", some "Abend"⟩
          inTime := ⟨some "abends", some "abends", some "abends"⟩ },
        { id := "night1", span := .between 0 18000
          standalone := ⟨some "Nacht", some "Nacht", some "Nacht"⟩
          inTime := ⟨some "nachts", some "nachts", some "nachts"⟩ } ]
    months :=
      { abbreviated := monthNames "Jan." "Feb." "März" "Apr." "Mai" "Juni" "Juli" "Aug." "Sept."
          "Okt." "Nov." "Dez."
        wide := monthNames "Januar" "Februar" "März" "April" "Mai" "Juni" "Juli" "August"
          "September" "Oktober" "November" "Dezember"
        narrow := monthNames "J" "F" "M" "A" "M" "J" "J" "A" "S" "O" "N" "D" }
    standaloneMonths :=
      { abbreviated := monthNames "Jan" "Feb" "Mär" "Apr" "Mai" "Jun" "Jul" "Aug" "Sep" "Okt"
          "Nov" "Dez"
        wide := monthNames "Januar" "Februar" "März" "April" "Mai" "Juni" "Juli" "August"
          "September" "Oktober" "November" "Dezember"
        narrow := monthNames "J" "F" "M" "A" "M" "J" "J" "A" "S" "O" "N" "D" }
    days :=
      { forms :=
          { abbreviated := dayNames "Mo." "Di." "Mi." "Do." "Fr." "Sa." "So."
            wide := dayNames "Montag" "Dienstag" "Mittwoch" "Donnerstag" "Freitag" "Samstag"
              "Sonntag"
            narrow := dayNames "M" "D" "M" "D" "F" "S" "S" }
        short := dayNames "Mo." "Di." "Mi." "Do." "Fr." "Sa." "So." }
    standaloneDays :=
      { forms :=
          { abbreviated := dayNames "Mo" "Di" "Mi" "Do" "Fr" "Sa" "So"
            wide := dayNames "Montag" "Dienstag" "Mittwoch" "Donnerstag" "Freitag" "Samstag"
              "Sonntag"
            narrow := dayNames "M" "D" "M" "D" "F" "S" "S" }
        short := dayNames "Mo." "Di." "Mi." "Do." "Fr." "Sa." "So." }
    quarters :=
      { abbreviated := quarterNames "Q1" "Q2" "Q3" "Q4"
        wide := quarterNames "1. Quartal" "2. Quartal" "3. Quartal" "4. Quartal"
        narrow := quarterNames "1" "2" "3" "4" }
    standaloneQuarters :=
      { abbreviated := quarterNames "Q1" "Q2" "Q3" "Q4"
        wide := quarterNames "1. Quartal" "2. Quartal" "3. Quartal" "4. Quartal"
        narrow := quarterNames "1" "2" "3" "4" }
    era := ⟨"n. Chr.", "unserer Zeitrechnung", "n. Chr."⟩
    halves :=
      { abbreviated := halfNames "AM" "PM"
        wide := halfNames "AM" "PM"
        narrow := halfNames "AM" "PM" }
    zone :=
      { short := "UTC"
        long := "Koordinierte Weltzeit"
        offset := "GMT+00:00"
        region := "Unbekannte Region (UTC) (Ortszeit)" } }

/-- The conventions of German in Austria. -/
def austrian : Conventions :=
  { german with
    months :=
      { abbreviated := monthNames "Jän." "Feb." "März" "Apr." "Mai" "Juni" "Juli" "Aug." "Sep."
          "Okt." "Nov." "Dez."
        wide := monthNames "Jänner" "Februar" "März" "April" "Mai" "Juni" "Juli" "August"
          "September" "Oktober" "November" "Dezember"
        narrow := monthNames "J" "F" "M" "A" "M" "J" "J" "A" "S" "O" "N" "D" }
    standaloneMonths :=
      { abbreviated := monthNames "Jän" "Feb" "Mär" "Apr" "Mai" "Jun" "Jul" "Aug" "Sep" "Okt"
          "Nov" "Dez"
        wide := monthNames "Jänner" "Februar" "März" "April" "Mai" "Juni" "Juli" "August"
          "September" "Oktober" "November" "Dezember"
        narrow := monthNames "J" "F" "M" "A" "M" "J" "J" "A" "S" "O" "N" "D" } }

end WikiDates.Locale
