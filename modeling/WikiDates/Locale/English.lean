import WikiDates.Locale.Conventions

/-!
# English conventions

Dates in English, with the week of the United States and with that of Britain.
-/

namespace WikiDates.Locale

/-- The conventions of English in the United States. -/
def american : Conventions :=
  { week := ⟨6, 1⟩
    periods :=
      [ { id := "midnight", span := .moment 0
          standalone := ⟨some "midnight", some "midnight", some "midnight"⟩
          inTime := ⟨some "midnight", some "midnight", some "mi"⟩ },
        { id := "noon", span := .moment 43200
          standalone := ⟨some "noon", some "noon", some "noon"⟩
          inTime := ⟨some "noon", some "noon", some "n"⟩ },
        { id := "morning1", span := .between 0 43200
          standalone := ⟨some "morning", some "morning", some "morning"⟩
          inTime := ⟨some "in the morning", some "in the morning", some "in the morning"⟩ },
        { id := "afternoon1", span := .between 43200 64800
          standalone := ⟨some "afternoon", some "afternoon", some "afternoon"⟩
          inTime := ⟨some "in the afternoon", some "in the afternoon", some "in the afternoon"⟩ },
        { id := "evening1", span := .between 64800 75600
          standalone := ⟨some "evening", some "evening", some "evening"⟩
          inTime := ⟨some "in the evening", some "in the evening", some "in the evening"⟩ },
        { id := "night1", span := .between 75600 86400
          standalone := ⟨some "night", some "night", some "night"⟩
          inTime := ⟨some "at night", some "at night", some "at night"⟩ } ]
    months :=
      { abbreviated := monthNames "Jan" "Feb" "Mar" "Apr" "May" "Jun" "Jul" "Aug" "Sep" "Oct"
          "Nov" "Dec"
        wide := monthNames "January" "February" "March" "April" "May" "June" "July" "August"
          "September" "October" "November" "December"
        narrow := monthNames "J" "F" "M" "A" "M" "J" "J" "A" "S" "O" "N" "D" }
    standaloneMonths :=
      { abbreviated := monthNames "Jan" "Feb" "Mar" "Apr" "May" "Jun" "Jul" "Aug" "Sep" "Oct"
          "Nov" "Dec"
        wide := monthNames "January" "February" "March" "April" "May" "June" "July" "August"
          "September" "October" "November" "December"
        narrow := monthNames "J" "F" "M" "A" "M" "J" "J" "A" "S" "O" "N" "D" }
    days :=
      { forms :=
          { abbreviated := dayNames "Mon" "Tue" "Wed" "Thu" "Fri" "Sat" "Sun"
            wide := dayNames "Monday" "Tuesday" "Wednesday" "Thursday" "Friday" "Saturday" "Sunday"
            narrow := dayNames "M" "T" "W" "T" "F" "S" "S" }
        short := dayNames "Mo" "Tu" "We" "Th" "Fr" "Sa" "Su" }
    standaloneDays :=
      { forms :=
          { abbreviated := dayNames "Mon" "Tue" "Wed" "Thu" "Fri" "Sat" "Sun"
            wide := dayNames "Monday" "Tuesday" "Wednesday" "Thursday" "Friday" "Saturday" "Sunday"
            narrow := dayNames "M" "T" "W" "T" "F" "S" "S" }
        short := dayNames "Mo" "Tu" "We" "Th" "Fr" "Sa" "Su" }
    quarters :=
      { abbreviated := quarterNames "Q1" "Q2" "Q3" "Q4"
        wide := quarterNames "1st quarter" "2nd quarter" "3rd quarter" "4th quarter"
        narrow := quarterNames "1" "2" "3" "4" }
    standaloneQuarters :=
      { abbreviated := quarterNames "Q1" "Q2" "Q3" "Q4"
        wide := quarterNames "1st quarter" "2nd quarter" "3rd quarter" "4th quarter"
        narrow := quarterNames "1" "2" "3" "4" }
    era := ⟨"AD", "Anno Domini", "A"⟩
    halves :=
      { abbreviated := halfNames "AM" "PM"
        wide := halfNames "AM" "PM"
        narrow := halfNames "a" "p" }
    zone :=
      { short := "UTC"
        long := "Coordinated Universal Time"
        offset := "GMT+00:00"
        region := "Unknown Region (UTC) Time" } }

/-- The conventions of English in Britain. -/
def british : Conventions :=
  { week := ⟨0, 4⟩
    periods :=
      [ { id := "midnight", span := .moment 0
          standalone := ⟨some "midnight", some "midnight", some "midnight"⟩
          inTime := ⟨some "midnight", some "midnight", some "mi"⟩ },
        { id := "noon", span := .moment 43200
          standalone := ⟨some "noon", some "noon", some "noon"⟩
          inTime := ⟨some "noon", some "noon", some "n"⟩ },
        { id := "morning1", span := .between 0 43200
          standalone := ⟨some "morning", some "morning", some "morning"⟩
          inTime := ⟨some "in the morning", some "in the morning", some "in the morning"⟩ },
        { id := "afternoon1", span := .between 43200 64800
          standalone := ⟨some "afternoon", some "afternoon", some "afternoon"⟩
          inTime := ⟨some "in the afternoon", some "in the afternoon", some "in the afternoon"⟩ },
        { id := "evening1", span := .between 64800 75600
          standalone := ⟨some "evening", some "evening", some "evening"⟩
          inTime := ⟨some "in the evening", some "in the evening", some "in the evening"⟩ },
        { id := "night1", span := .between 75600 86400
          standalone := ⟨some "night", some "night", some "night"⟩
          inTime := ⟨some "at night", some "at night", some "at night"⟩ } ]
    months :=
      { abbreviated := monthNames "Jan" "Feb" "Mar" "Apr" "May" "Jun" "Jul" "Aug" "Sept" "Oct"
          "Nov" "Dec"
        wide := monthNames "January" "February" "March" "April" "May" "June" "July" "August"
          "September" "October" "November" "December"
        narrow := monthNames "J" "F" "M" "A" "M" "J" "J" "A" "S" "O" "N" "D" }
    standaloneMonths :=
      { abbreviated := monthNames "Jan" "Feb" "Mar" "Apr" "May" "Jun" "Jul" "Aug" "Sept" "Oct"
          "Nov" "Dec"
        wide := monthNames "January" "February" "March" "April" "May" "June" "July" "August"
          "September" "October" "November" "December"
        narrow := monthNames "J" "F" "M" "A" "M" "J" "J" "A" "S" "O" "N" "D" }
    days :=
      { forms :=
          { abbreviated := dayNames "Mon" "Tue" "Wed" "Thu" "Fri" "Sat" "Sun"
            wide := dayNames "Monday" "Tuesday" "Wednesday" "Thursday" "Friday" "Saturday" "Sunday"
            narrow := dayNames "M" "T" "W" "T" "F" "S" "S" }
        short := dayNames "Mo" "Tu" "We" "Th" "Fr" "Sa" "Su" }
    standaloneDays :=
      { forms :=
          { abbreviated := dayNames "Mon" "Tue" "Wed" "Thu" "Fri" "Sat" "Sun"
            wide := dayNames "Monday" "Tuesday" "Wednesday" "Thursday" "Friday" "Saturday" "Sunday"
            narrow := dayNames "M" "T" "W" "T" "F" "S" "S" }
        short := dayNames "Mo" "Tu" "We" "Th" "Fr" "Sa" "Su" }
    quarters :=
      { abbreviated := quarterNames "Q1" "Q2" "Q3" "Q4"
        wide := quarterNames "1st quarter" "2nd quarter" "3rd quarter" "4th quarter"
        narrow := quarterNames "1" "2" "3" "4" }
    standaloneQuarters :=
      { abbreviated := quarterNames "Q1" "Q2" "Q3" "Q4"
        wide := quarterNames "1st quarter" "2nd quarter" "3rd quarter" "4th quarter"
        narrow := quarterNames "1" "2" "3" "4" }
    era := ⟨"AD", "Anno Domini", "A"⟩
    halves :=
      { abbreviated := halfNames "am" "pm"
        wide := halfNames "am" "pm"
        narrow := halfNames "a" "p" }
    zone :=
      { short := "UTC"
        long := "Coordinated Universal Time"
        offset := "GMT+00:00"
        region := "Unknown Region (UTC) Time" } }

end WikiDates.Locale
