import WikiDates.Locale.Conventions

/-!
# Arabic conventions

Dates in Arabic, with a week that starts on Saturday. Every second of the day is in a longer period.
-/

namespace WikiDates.Locale

/-- The conventions of Arabic in Egypt. -/
def arabic : Conventions :=
  { week := ⟨5, 1⟩
    periods :=
      [ { id := "morning1", span := .between 10800 21600
          standalone := ⟨some "فجرًا", some "فجرًا", some "فجرًا"⟩
          inTime := ⟨some "فجرًا", some "في الصباح", some "فجرًا"⟩ },
        { id := "morning2", span := .between 21600 43200
          standalone := ⟨some "ص", some "صباحًا", some "صباحًا"⟩
          inTime := ⟨some "ص", some "صباحًا", some "صباحًا"⟩ },
        { id := "afternoon1", span := .between 43200 46800
          standalone := ⟨some "ظهرًا", some "ظهرًا", some "ظهرًا"⟩
          inTime := ⟨some "ظهرًا", some "ظهرًا", some "ظهرًا"⟩ },
        { id := "afternoon2", span := .between 46800 64800
          standalone := ⟨some "بعد الظهر", some "بعد الظهر", some "بعد الظهر"⟩
          inTime := ⟨some "بعد الظهر", some "بعد الظهر", some "بعد الظهر"⟩ },
        { id := "evening1", span := .between 64800 86400
          standalone := ⟨some "مساءً", some "مساءً", some "مساءً"⟩
          inTime := ⟨some "مساءً", some "مساءً", some "مساءً"⟩ },
        { id := "night1", span := .between 0 3600
          standalone := ⟨some "منتصف الليل", some "منتصف الليل", some "منتصف الليل"⟩
          inTime := ⟨some "في المساء", some "في المساء", some "منتصف الليل"⟩ },
        { id := "night2", span := .between 3600 10800
          standalone := ⟨some "ليلاً", some "ليلاً", some "ليلاً"⟩
          inTime := ⟨some "ليلاً", some "ليلاً", some "ليلاً"⟩ } ]
    months :=
      { abbreviated := monthNames "يناير" "فبراير" "مارس" "أبريل" "مايو" "يونيو" "يوليو" "أغسطس"
          "سبتمبر" "أكتوبر" "نوفمبر" "ديسمبر"
        wide := monthNames "يناير" "فبراير" "مارس" "أبريل" "مايو" "يونيو" "يوليو" "أغسطس" "سبتمبر"
          "أكتوبر" "نوفمبر" "ديسمبر"
        narrow := monthNames "ي" "ف" "م" "أ" "و" "ن" "ل" "غ" "س" "ك" "ب" "د" }
    standaloneMonths :=
      { abbreviated := monthNames "يناير" "فبراير" "مارس" "أبريل" "مايو" "يونيو" "يوليو" "أغسطس"
          "سبتمبر" "أكتوبر" "نوفمبر" "ديسمبر"
        wide := monthNames "يناير" "فبراير" "مارس" "أبريل" "مايو" "يونيو" "يوليو" "أغسطس" "سبتمبر"
          "أكتوبر" "نوفمبر" "ديسمبر"
        narrow := monthNames "ي" "ف" "م" "أ" "و" "ن" "ل" "غ" "س" "ك" "ب" "د" }
    days :=
      { forms :=
          { abbreviated := dayNames "الاثنين" "الثلاثاء" "الأربعاء" "الخميس" "الجمعة" "السبت"
              "الأحد"
            wide := dayNames "الاثنين" "الثلاثاء" "الأربعاء" "الخميس" "الجمعة" "السبت" "الأحد"
            narrow := dayNames "ن" "ث" "ر" "خ" "ج" "س" "ح" }
        short := dayNames "إثنين" "ثلاثاء" "أربعاء" "خميس" "جمعة" "سبت" "أحد" }
    standaloneDays :=
      { forms :=
          { abbreviated := dayNames "الاثنين" "الثلاثاء" "الأربعاء" "الخميس" "الجمعة" "السبت"
              "الأحد"
            wide := dayNames "الاثنين" "الثلاثاء" "الأربعاء" "الخميس" "الجمعة" "السبت" "الأحد"
            narrow := dayNames "ن" "ث" "ر" "خ" "ج" "س" "ح" }
        short := dayNames "إثنين" "ثلاثاء" "أربعاء" "خميس" "جمعة" "سبت" "أحد" }
    quarters :=
      { abbreviated := quarterNames "الربع الأول" "الربع الثاني" "الربع الثالث" "الربع الرابع"
        wide := quarterNames "الربع الأول" "الربع الثاني" "الربع الثالث" "الربع الرابع"
        narrow := quarterNames "١" "٢" "٣" "٤" }
    standaloneQuarters :=
      { abbreviated := quarterNames "الربع الأول" "الربع الثاني" "الربع الثالث" "الربع الرابع"
        wide := quarterNames "الربع الأول" "الربع الثاني" "الربع الثالث" "الربع الرابع"
        narrow := quarterNames "١" "٢" "٣" "٤" }
    era := ⟨"م", "ميلادي", "م"⟩
    halves :=
      { abbreviated := halfNames "ص" "م"
        wide := halfNames "ص" "م"
        narrow := halfNames "ص" "م" }
    zone :=
      { short := "UTC"
        long := "التوقيت العالمي المنسق"
        offset := "غرينتش+00:00"
        region := "توقيت منطقة غير معروفة (UTC)" } }

end WikiDates.Locale
