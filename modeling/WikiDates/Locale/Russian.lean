import WikiDates.Locale.Conventions

/-!
# Russian conventions

Dates in Russian. Months and periods of the day have other case forms within a date.
-/

namespace WikiDates.Locale

/-- The conventions of Russian in Russia. -/
def russian : Conventions :=
  { week := ⟨0, 4⟩
    periods :=
      [ { id := "midnight", span := .moment 0
          standalone := ⟨some "полночь", some "полночь", some "полночь"⟩
          inTime := ⟨some "полн.", some "полночь", some "полн."⟩ },
        { id := "noon", span := .moment 43200
          standalone := ⟨some "полдень", some "полдень", some "полдень"⟩
          inTime := ⟨some "полд.", some "полдень", some "полд."⟩ },
        { id := "morning1", span := .between 14400 43200
          standalone := ⟨some "утро", some "утро", some "утро"⟩
          inTime := ⟨some "утра", some "утра", some "утра"⟩ },
        { id := "afternoon1", span := .between 43200 64800
          standalone := ⟨some "день", some "день", some "день"⟩
          inTime := ⟨some "дня", some "дня", some "дня"⟩ },
        { id := "evening1", span := .between 64800 79200
          standalone := ⟨some "веч.", some "вечер", some "вечер"⟩
          inTime := ⟨some "вечера", some "вечера", some "веч."⟩ },
        { id := "night1", span := .between 79200 14400
          standalone := ⟨some "ночь", some "ночь", some "ночь"⟩
          inTime := ⟨some "ночи", some "ночи", some "ночи"⟩ } ]
    months :=
      { abbreviated := monthNames "янв." "февр." "мар." "апр." "мая" "июн." "июл." "авг." "сент."
          "окт." "нояб." "дек."
        wide := monthNames "января" "февраля" "марта" "апреля" "мая" "июня" "июля" "августа"
          "сентября" "октября" "ноября" "декабря"
        narrow := monthNames "Я" "Ф" "М" "А" "М" "И" "И" "А" "С" "О" "Н" "Д" }
    standaloneMonths :=
      { abbreviated := monthNames "янв." "февр." "март" "апр." "май" "июнь" "июль" "авг." "сент."
          "окт." "нояб." "дек."
        wide := monthNames "январь" "февраль" "март" "апрель" "май" "июнь" "июль" "август"
          "сентябрь" "октябрь" "ноябрь" "декабрь"
        narrow := monthNames "Я" "Ф" "М" "А" "М" "И" "И" "А" "С" "О" "Н" "Д" }
    days :=
      { forms :=
          { abbreviated := dayNames "пн" "вт" "ср" "чт" "пт" "сб" "вс"
            wide := dayNames "понедельник" "вторник" "среда" "четверг" "пятница" "суббота"
              "воскресенье"
            narrow := dayNames "П" "В" "С" "Ч" "П" "С" "В" }
        short := dayNames "пн" "вт" "ср" "чт" "пт" "сб" "вс" }
    standaloneDays :=
      { forms :=
          { abbreviated := dayNames "пн" "вт" "ср" "чт" "пт" "сб" "вс"
            wide := dayNames "понедельник" "вторник" "среда" "четверг" "пятница" "суббота"
              "воскресенье"
            narrow := dayNames "П" "В" "С" "Ч" "П" "С" "В" }
        short := dayNames "пн" "вт" "ср" "чт" "пт" "сб" "вс" }
    quarters :=
      { abbreviated := quarterNames "1-й кв." "2-й кв." "3-й кв." "4-й кв."
        wide := quarterNames "1-й квартал" "2-й квартал" "3-й квартал" "4-й квартал"
        narrow := quarterNames "1" "2" "3" "4" }
    standaloneQuarters :=
      { abbreviated := quarterNames "1-й кв." "2-й кв." "3-й кв." "4-й кв."
        wide := quarterNames "1-й квартал" "2-й квартал" "3-й квартал" "4-й квартал"
        narrow := quarterNames "1" "2" "3" "4" }
    era := ⟨"н. э.", "от Рождества Христова", "н.э."⟩
    halves :=
      { abbreviated := halfNames "AM" "PM"
        wide := halfNames "AM" "PM"
        narrow := halfNames "AM" "PM" }
    zone :=
      { short := "UTC"
        long := "Всемирное координированное время"
        offset := "GMT+00:00"
        region := "неизвестный регион (UTC), летнее время" } }

end WikiDates.Locale
