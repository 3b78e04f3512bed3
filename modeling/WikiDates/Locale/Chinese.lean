import WikiDates.Locale.Conventions

/-!
# Chinese conventions

Dates in simplified and in traditional Chinese. The periods of the day have no names that stand alone.
-/

namespace WikiDates.Locale

/-- The conventions of simplified Chinese in China. -/
def chinese : Conventions :=
  { week := ⟨0, 1⟩
    periods :=
      [ { id := "midnight", span := .moment 0
          standalone := ⟨none, none, none⟩
          inTime := ⟨some "午夜", some "午夜", some "午夜"⟩ },
        { id := "morning1", span := .between 18000 28800
          standalone := ⟨none, none, none⟩
          inTime := ⟨some "早上", some "清晨", some "清晨"⟩ },
        { id := "morning2", span := .between 28800 43200
          standalone := ⟨none, none, none⟩
          inTime := ⟨some "上午", some "上午", some "上午"⟩ },
        { id := "afternoon1", span := .between 43200 46800
          standalone := ⟨none, none, none⟩
          inTime := ⟨some "中午", some "中午", some "中午"⟩ },
        { id := "afternoon2", span := .between 46800 68400
          standalone := ⟨none, none, none⟩
          inTime := ⟨some "下午", some "下午", some "下午"⟩ },
        { id := "evening1", span := .between 68400 86400
          standalone := ⟨none, none, none⟩
          inTime := ⟨some "晚上", some "晚上", some "晚上"⟩ },
        { id := "night1", span := .between 0 18000
          standalone := ⟨none, none, none⟩
          inTime := ⟨some "凌晨", some "凌晨", some "凌晨"⟩ } ]
    months :=
      { abbreviated := monthNames "1月" "2月" "3月" "4月" "5月" "6月" "7月" "8月" "9月" "10月" "11月" "12月"
        wide := monthNames "一月" "二月" "三月" "四月" "五月" "六月" "七月" "八月" "九月" "十月" "十一月" "十二月"
        narrow := monthNames "1" "2" "3" "4" "5" "6" "7" "8" "9" "10" "11" "12" }
    standaloneMonths :=
      { abbreviated := monthNames "1月" "2月" "3月" "4月" "5月" "6月" "7月" "8月" "9月" "10月" "11月" "12月"
        wide := monthNames "一月" "二月" "三月" "四月" "五月" "六月" "七月" "八月" "九月" "十月" "十一月" "十二月"
        narrow := monthNames "1" "2" "3" "4" "5" "6" "7" "8" "9" "10" "11" "12" }
    days :=
      { forms :=
          { abbreviated := dayNames "周一" "周二" "周三" "周四" "周五" "周六" "周日"
            wide := dayNames "星期一" "星期二" "星期三" "星期四" "星期五" "星期六" "星期日"
            narrow := dayNames "一" "二" "三" "四" "五" "六" "日" }
        short := dayNames "周一" "周二" "周三" "周四" "周五" "周六" "周日" }
    standaloneDays :=
      { forms :=
          { abbreviated := dayNames "周一" "周二" "周三" "周四" "周五" "周六" "周日"
            wide := dayNames "星期一" "星期二" "星期三" "星期四" "星期五" "星期六" "星期日"
            narrow := dayNames "一" "二" "三" "四" "五" "六" "日" }
        short := dayNames "周一" "周二" "周三" "周四" "周五" "周六" "周日" }
    quarters :=
      { abbreviated := quarterNames "1季度" "2季度" "3季度" "4季度"
        wide := quarterNames "第一季度" "第二季度" "第三季度" "第四季度"
        narrow := quarterNames "1" "2" "3" "4" }
    standaloneQuarters :=
      { abbreviated := quarterNames "1季度" "2季度" "3季度" "4季度"
        wide := quarterNames "第一季度" "第二季度" "第三季度" "第四季度"
        narrow := quarterNames "1" "2" "3" "4" }
    era := ⟨"公元", "公元", "公元"⟩
    halves :=
      { abbreviated := halfNames "上午" "下午"
        wide := halfNames "上午" "下午"
        narrow := halfNames "上午" "下午" }
    zone :=
      { short := "UTC"
        long := "协调世界时"
        offset := "GMT+00:00"
        region := "未知地区（UTC）时间" } }

/-- The conventions of traditional Chinese in Taiwan. -/
def traditionalChinese : Conventions :=
  { week := ⟨6, 1⟩
    periods :=
      [ { id := "midnight", span := .moment 0
          standalone := ⟨none, none, none⟩
          inTime := ⟨some "午夜", some "午夜", some "午夜"⟩ },
        { id := "morning1", span := .between 18000 28800
          standalone := ⟨none, none, none⟩
          inTime := ⟨some "清晨", some "清晨", some "清晨"⟩ },
        { id := "morning2", span := .between 28800 43200
          standalone := ⟨none, none, none⟩
          inTime := ⟨some "上午", some "上午", some "上午"⟩ },
        { id := "afternoon1", span := .between 43200 46800
          standalone := ⟨none, none, none⟩
          inTime := ⟨some "中午", some "中午", some "中午"⟩ },
        { id := "afternoon2", span := .between 46800 68400
          standalone := ⟨none, none, none⟩
          inTime := ⟨some "下午", some "下午", some "下午"⟩ },
        { id := "evening1", span := .between 68400 86400
          standalone := ⟨none, none, none⟩
          inTime := ⟨some "晚上", some "晚上", some "晚上"⟩ },
        { id := "night1", span := .between 0 18000
          standalone := ⟨none, none, none⟩
          inTime := ⟨some "凌晨", some "凌晨", some "凌晨"⟩ } ]
    months :=
      { abbreviated := monthNames "1月" "2月" "3月" "4月" "5月" "6月" "7月" "8月" "9月" "10月" "11月" "12月"
        wide := monthNames "1月" "2月" "3月" "4月" "5月" "6月" "7月" "8月" "9月" "10月" "11月" "12月"
        narrow := monthNames "1" "2" "3" "4" "5" "6" "7" "8" "9" "10" "11" "12" }
    standaloneMonths :=
      { abbreviated := monthNames "1月" "2月" "3月" "4月" "5月" "6月" "7月" "8月" "9月" "10月" "11月" "12月"
        wide := monthNames "1月" "2月" "3月" "4月" "5月" "6月" "7月" "8月" "9月" "10月" "11月" "12月"
        narrow := monthNames "1" "2" "3" "4" "5" "6" "7" "8" "9" "10" "11" "12" }
    days :=
      { forms :=
          { abbreviated := dayNames "週一" "週二" "週三" "週四" "週五" "週六" "週日"
            wide := dayNames "星期一" "星期二" "星期三" "星期四" "星期五" "星期六" "星期日"
            narrow := dayNames "一" "二" "三" "四" "五" "六" "日" }
        short := dayNames "一" "二" "三" "四" "五" "六" "日" }
    standaloneDays :=
      { forms :=
          { abbreviated := dayNames "週一" "週二" "週三" "週四" "週五" "週六" "週日"
            wide := dayNames "星期一" "星期二" "星期三" "星期四" "星期五" "星期六" "星期日"
            narrow := dayNames "一" "二" "三" "四" "五" "六" "日" }
        short := dayNames "一" "二" "三" "四" "五" "六" "日" }
    quarters :=
      { abbreviated := quarterNames "第1季" "第2季" "第3季" "第4季"
        wide := quarterNames "第1季" "第2季" "第3季" "第4季"
        narrow := quarterNames "1" "2" "3" "4" }
    standaloneQuarters :=
      { abbreviated := quarterNames "第1季" "第2季" "第3季" "第4季"
        wide := quarterNames "第1季" "第2季" "第3季" "第4季"
        narrow := quarterNames "1" "2" "3" "4" }
    era := ⟨"西元", "西元", "西元"⟩
    halves :=
      { abbreviated := halfNames "上午" "下午"
        wide := halfNames "上午" "下午"
        narrow := halfNames "上午" "下午" }
    zone :=
      { short := "UTC"
        long := "世界標準時間"
        offset := "GMT+00:00"
        region := "未知區域（UTC）時間" } }

end WikiDates.Locale
