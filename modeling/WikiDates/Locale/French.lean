import WikiDates.Locale.Conventions

/-!
# French conventions

Dates in French. Noon and midnight have no names that stand alone.
-/

namespace WikiDates.Locale

/-- The conventions of French in France. -/
def french : Conventions :=
  { week := ⟨0, 4⟩
    periods :=
      [ { id := "midnight", span := .moment 0
          standalone := ⟨none, none, none⟩
          inTime := ⟨some "minuit", some "minuit", some "minuit"⟩ },
        { id := "noon", span := .moment 43200
          standalone := ⟨none, none, none⟩
          inTime := ⟨some "midi", some "midi", some "midi"⟩ },
        { id := "morning1", span := .between 14400 43200
          standalone := ⟨some "mat.", some "matin", some "matin"⟩
          inTime := ⟨some "matin", some "du matin", some "mat."⟩ },
        { id := "afternoon1", span := .between 43200 64800
          standalone := ⟨some "ap.m.", some "après-midi", some "après-midi"⟩
          inTime := ⟨some "après-midi", some "de l’après-midi", some "ap.m."⟩ },
        { id := "evening1", span := .between 64800 86400
          standalone := ⟨some "soir", some "soir", some "soir"⟩
          inTime := ⟨some "soir", some "du soir", some "soir"⟩ },
        { id := "night1", span := .between 0 14400
          standalone := ⟨some "matin", some "matin", some "matin"⟩
          inTime := ⟨some "matin", some "du matin", some "matin"⟩ } ]
    months :=
      { abbreviated := monthNames "janv." "févr." "mars" "avr." "mai" "juin" "juil." "août"
          "sept." "oct." "nov." "déc."
        wide := monthNames "janvier" "février" "mars" "avril" "mai" "juin" "juillet" "août"
          "septembre" "octobre" "novembre" "décembre"
        narrow := monthNames "J" "F" "M" "A" "M" "J" "J" "A" "S" "O" "N" "D" }
    standaloneMonths :=
      { abbreviated := monthNames "janv." "févr." "mars" "avr." "mai" "juin" "juil." "août"
          "sept." "oct." "nov." "déc."
        wide := monthNames "janvier" "février" "mars" "avril" "mai" "juin" "juillet" "août"
          "septembre" "octobre" "novembre" "décembre"
        narrow := monthNames "J" "F" "M" "A" "M" "J" "J" "A" "S" "O" "N" "D" }
    days :=
      { forms :=
          { abbreviated := dayNames "lun." "mar." "mer." "jeu." "ven." "sam." "dim."
            wide := dayNames "lundi" "mardi" "mercredi" "jeudi" "vendredi" "samedi" "dimanche"
            narrow := dayNames "L" "M" "M" "J" "V" "S" "D" }
        short := dayNames "lu" "ma" "me" "je" "ve" "sa" "di" }
    standaloneDays :=
      { forms :=
          { abbreviated := dayNames "lun." "mar." "mer." "jeu." "ven." "sam." "dim."
            wide := dayNames "lundi" "mardi" "mercredi" "jeudi" "vendredi" "samedi" "dimanche"
            narrow := dayNames "L" "M" "M" "J" "V" "S" "D" }
        short := dayNames "lu" "ma" "me" "je" "ve" "sa" "di" }
    quarters :=
      { abbreviated := quarterNames "T1" "T2" "T3" "T4"
        wide := quarterNames "1er trimestre" "2e trimestre" "3e trimestre" "4e trimestre"
        narrow := quarterNames "1" "2" "3" "4" }
    standaloneQuarters :=
      { abbreviated := quarterNames "T1" "T2" "T3" "T4"
        wide := quarterNames "1er trimestre" "2e trimestre" "3e trimestre" "4e trimestre"
        narrow := quarterNames "1" "2" "3" "4" }
    era := ⟨"ap. J.-C.", "après Jésus-Christ", "ap. J.-C."⟩
    halves :=
      { abbreviated := halfNames "AM" "PM"
        wide := halfNames "AM" "PM"
        narrow := halfNames "AM" "PM" }
    zone :=
      { short := "TU"
        long := "temps universel coordonné"
        offset := "UTC+00:00"
        region := "heure : région indéterminée (UTC)" } }

end WikiDates.Locale
