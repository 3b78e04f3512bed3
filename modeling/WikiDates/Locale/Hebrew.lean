import WikiDates.Locale.Conventions

/-!
# Hebrew conventions

Dates in Hebrew, with a week that starts on Sunday. Midnight has no name that stands alone.
-/

namespace WikiDates.Locale

/-- The conventions of Hebrew in Israel. -/
def hebrew : Conventions :=
  { week := ⟨6, 1⟩
    periods :=
      [ { id := "midnight", span := .moment 0
          standalone := ⟨none, none, none⟩
          inTime := ⟨some "חצות", some "חצות", some "חצות"⟩ },
        { id := "morning1", span := .between 21600 43200
          standalone := ⟨some "בוקר", some "בוקר", some "בוקר"⟩
          inTime := ⟨some "בוקר", some "בבוקר", some "בבוקר"⟩ },
        { id := "afternoon1", span := .between 43200 57600
          standalone := ⟨some "צהריים", some "צהריים", some "צהריים"⟩
          inTime := ⟨some "צהריים", some "בצהריים", some "בצהריים"⟩ },
        { id := "afternoon2", span := .between 57600 64800
          standalone := ⟨some "אחה״צ", some "אחר הצהריים", some "אחר הצהריים"⟩
          inTime := ⟨some "אחר הצהריים", some "אחר הצהריים", some "אחה״צ"⟩ },
        { id := "evening1", span := .between 64800 79200
          standalone := ⟨some "ערב", some "ערב", some "ערב"⟩
          inTime := ⟨some "ערב", some "בערב", some "בערב"⟩ },
        { id := "night1", span := .between 79200 10800
          standalone := ⟨some "לילה", some "לילה", some "לילה"⟩
          inTime := ⟨some "לילה", some "בלילה", some "בלילה"⟩ },
        { id := "night2", span := .between 10800 21600
          standalone := ⟨some "לפנות בוקר", some "לפנות בוקר", some "לפנות בוקר"⟩
          inTime := ⟨some "לפנות בוקר", some "לפנות בוקר", some "לפנות בוקר"⟩ } ]
    months :=
      { abbreviated := monthNames "ינו׳" "פבר׳" "מרץ" "אפר׳" "מאי" "יוני" "יולי" "אוג׳" "ספט׳"
          "אוק׳" "נוב׳" "דצמ׳"
        wide := monthNames "ינואר" "פברואר" "מרץ" "אפריל" "מאי" "יוני" "יולי" "אוגוסט" "ספטמבר"
          "אוקטובר" "נובמבר" "דצמבר"
        narrow := monthNames "1" "2" "3" "4" "5" "6" "7" "8" "9" "10" "11" "12" }
    standaloneMonths :=
      { abbreviated := monthNames "ינו׳" "פבר׳" "מרץ" "אפר׳" "מאי" "יוני" "יולי" "אוג׳" "ספט׳"
          "אוק׳" "נוב׳" "דצמ׳"
        wide := monthNames "ינואר" "פברואר" "מרץ" "אפריל" "מאי" "יוני" "יולי" "אוגוסט" "ספטמבר"
          "אוקטובר" "נובמבר" "דצמבר"
        narrow := monthNames "1" "2" "3" "4" "5" "6" "7" "8" "9" "10" "11" "12" }
    days :=
      { forms :=
          { abbreviated := dayNames "יום ב׳" "יום ג׳" "יום ד׳" "יום ה׳" "יום ו׳" "שבת" "יום א׳"
            wide := dayNames "יום שני" "יום שלישי" "יום רביעי" "יום חמישי" "יום שישי" "יום שבת"
              "יום ראשון"
            narrow := dayNames "ב׳" "ג׳" "ד׳" "ה׳" "ו׳" "ש׳" "א׳" }
        short := dayNames "ב׳" "ג׳" "ד׳" "ה׳" "ו׳" "ש׳" "א׳" }
    standaloneDays :=
      { forms :=
          { abbreviated := dayNames "יום ב׳" "יום ג׳" "יום ד׳" "יום ה׳" "יום ו׳" "שבת" "יום א׳"
            wide := dayNames "יום שני" "יום שלישי" "יום רביעי" "יום חמישי" "יום שישי" "יום שבת"
              "יום ראשון"
            narrow := dayNames "ב׳" "ג׳" "ד׳" "ה׳" "ו׳" "ש׳" "א׳" }
        short := dayNames "ב׳" "ג׳" "ד׳" "ה׳" "ו׳" "ש׳" "א׳" }
    quarters :=
      { abbreviated := quarterNames "Q1" "Q2" "Q3" "Q4"
        wide := quarterNames "רבעון 1" "רבעון 2" "רבעון 3" "רבעון 4"
        narrow := quarterNames "1" "2" "3" "4" }
    standaloneQuarters :=
      { abbreviated := quarterNames "Q1" "Q2" "Q3" "Q4"
        wide := quarterNames "רבעון 1" "רבעון 2" "רבעון 3" "רבעון 4"
        narrow := quarterNames "1" "2" "3" "4" }
    era := ⟨"לספירה", "לספירה", "אחריי"⟩
    halves :=
      { abbreviated := halfNames "AM" "PM"
        wide := halfNames "AM" "PM"
        narrow := halfNames "AM" "PM" }
    zone :=
      { short := "UTC"
        long := "זמן אוניברסלי מתואם"
        offset := "GMT+00:00\u200E"
        region := "שעון אזור לא ידוע (UTC)" } }

end WikiDates.Locale
