import WikiDates.Locale.Conventions

/-!
# Conventions of no language

The root of all locales is no language: its months are numbered, and only the halves of the day have
names. It has no name for the universal time other than its offset, and shows an unknown region by
its code.
-/

namespace WikiDates.Locale

/-- The conventions of the root of all locales. -/
def root : Conventions :=
  { week := ⟨0, 1⟩
    periods :=
      [ { id := "am", span := .between 0 43200
          standalone := ⟨some "AM", some "AM", some "AM"⟩
          inTime := ⟨some "AM", some "AM", some "AM"⟩ },
        { id := "pm", span := .between 43200 86400
          standalone := ⟨some "PM", some "PM", some "PM"⟩
          inTime := ⟨some "PM", some "PM", some "PM"⟩ } ]
    months :=
      { abbreviated := monthNames "M01" "M02" "M03" "M04" "M05" "M06" "M07" "M08" "M09" "M10" "M11"
          "M12"
        wide := monthNames "M01" "M02" "M03" "M04" "M05" "M06" "M07" "M08" "M09" "M10" "M11" "M12"
        narrow := monthNames "1" "2" "3" "4" "5" "6" "7" "8" "9" "10" "11" "12" }
    standaloneMonths :=
      { abbreviated := monthNames "M01" "M02" "M03" "M04" "M05" "M06" "M07" "M08" "M09" "M10" "M11"
          "M12"
        wide := monthNames "M01" "M02" "M03" "M04" "M05" "M06" "M07" "M08" "M09" "M10" "M11" "M12"
        narrow := monthNames "1" "2" "3" "4" "5" "6" "7" "8" "9" "10" "11" "12" }
    days :=
      { forms :=
          { abbreviated := dayNames "Mon" "Tue" "Wed" "Thu" "Fri" "Sat" "Sun"
            wide := dayNames "Mon" "Tue" "Wed" "Thu" "Fri" "Sat" "Sun"
            narrow := dayNames "M" "T" "W" "T" "F" "S" "S" }
        short := dayNames "Mon" "Tue" "Wed" "Thu" "Fri" "Sat" "Sun" }
    standaloneDays :=
      { forms :=
          { abbreviated := dayNames "Mon" "Tue" "Wed" "Thu" "Fri" "Sat" "Sun"
            wide := dayNames "Mon" "Tue" "Wed" "Thu" "Fri" "Sat" "Sun"
            narrow := dayNames "M" "T" "W" "T" "F" "S" "S" }
        short := dayNames "Mon" "Tue" "Wed" "Thu" "Fri" "Sat" "Sun" }
    quarters :=
      { abbreviated := quarterNames "Q1" "Q2" "Q3" "Q4"
        wide := quarterNames "Q1" "Q2" "Q3" "Q4"
        narrow := quarterNames "1" "2" "3" "4" }
    standaloneQuarters :=
      { abbreviated := quarterNames "Q1" "Q2" "Q3" "Q4"
        wide := quarterNames "Q1" "Q2" "Q3" "Q4"
        narrow := quarterNames "1" "2" "3" "4" }
    era := ⟨"CE", "CE", "CE"⟩
    halves :=
      { abbreviated := halfNames "AM" "PM"
        wide := halfNames "AM" "PM"
        narrow := halfNames "AM" "PM" }
    zone :=
      { short := "UTC"
        long := "GMT+00:00"
        offset := "GMT+00:00"
        region := "ZZ (UTC)" } }

end WikiDates.Locale
