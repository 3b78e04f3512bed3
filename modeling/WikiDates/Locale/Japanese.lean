import WikiDates.Locale.Conventions

/-!
# Japanese conventions

Dates in Japanese. The periods of the day have no names that stand alone.
-/

namespace WikiDates.Locale

/-- The conventions of Japanese in Japan. -/
def japanese : Conventions :=
  { week := ⟨6, 1⟩
    periods :=
      [ { id := "midnight", span := .moment 0
          standalone := ⟨none, none, none⟩
          inTime := ⟨some "真夜中", some "真夜中", some "真夜中"⟩ },
        { id := "noon", span := .moment 43200
          standalone := ⟨none, none, none⟩
          inTime := ⟨some "正午", some "正午", some "正午"⟩ },
        { id := "morning1", span := .between 14400 43200
          standalone := ⟨none, none, none⟩
          inTime := ⟨some "朝", some "朝", some "朝"⟩ },
        { id := "afternoon1", span := .between 43200 57600
          standalone := ⟨none, none, none⟩
          inTime := ⟨some "昼", some "昼", some "昼"⟩ },
        { id := "evening1", span := .between 57600 68400
          standalone := ⟨none, none, none⟩
          inTime := ⟨some "夕方", some "夕方", some "夕方"⟩ },
        { id := "night1", span := .between 68400 82800
          standalone := ⟨none, none, none⟩
          inTime := ⟨some "夜", some "夜", some "夜"⟩ },
        { id := "night2", span := .between 82800 14400
          standalone := ⟨none, none, none⟩
          inTime := ⟨some "夜中", some "夜中", some "夜中"⟩ } ]
    months :=
      { abbreviated := monthNames "1月" "2月" "3月" "4月" "5月" "6月" "7月" "8月" "9月" "10月" "11月" "12月"
        wide := monthNames "1月" "2月" "3月" "4月" "5月" "6月" "7月" "8月" "9月" "10月" "11月" "12月"
        narrow := monthNames "1" "2" "3" "4" "5" "6" "7" "8" "9" "10" "11" "12" }
    standaloneMonths :=
      { abbreviated := monthNames "1月" "2月" "3月" "4月" "5月" "6月" "7月" "8月" "9月" "10月" "11月" "12月"
        wide := monthNames "1月" "2月" "3月" "4月" "5月" "6月" "7月" "8月" "9月" "10月" "11月" "12月"
        narrow := monthNames "1" "2" "3" "4" "5" "6" "7" "8" "9" "10" "11" "12" }
    days :=
      { forms :=
          { abbreviated := dayNames "月" "火" "水" "木" "金" "土" "日"
            wide := dayNames "月曜日" "火曜日" "水曜日" "木曜日" "金曜日" "土曜日" "日曜日"
            narrow := dayNames "月" "火" "水" "木" "金" "土" "日" }
        short := dayNames "月" "火" "水" "木" "金" "土" "日" }
    standaloneDays :=
      { forms :=
          { abbreviated := dayNames "月" "火" "水" "木" "金" "土" "日"
            wide := dayNames "月曜日" "火曜日" "水曜日" "木曜日" "金曜日" "土曜日" "日曜日"
            narrow := dayNames "月" "火" "水" "木" "金" "土" "日" }
        short := dayNames "月" "火" "水" "木" "金" "土" "日" }
    quarters :=
      { abbreviated := quarterNames "Q1" "Q2" "Q3" "Q4"
        wide := quarterNames "第1四半期" "第2四半期" "第3四半期" "第4四半期"
        narrow := quarterNames "1" "2" "3" "4" }
    standaloneQuarters :=
      { abbreviated := quarterNames "Q1" "Q2" "Q3" "Q4"
        wide := quarterNames "第1四半期" "第2四半期" "第3四半期" "第4四半期"
        narrow := quarterNames "1" "2" "3" "4" }
    era := ⟨"西暦", "西暦", "AD"⟩
    halves :=
      { abbreviated := halfNames "午前" "午後"
        wide := halfNames "午前" "午後"
        narrow := halfNames "午前" "午後" }
    zone :=
      { short := "UTC"
        long := "協定世界時"
        offset := "GMT+00:00"
        region := "不明な地域（UTC）時間" } }

end WikiDates.Locale
