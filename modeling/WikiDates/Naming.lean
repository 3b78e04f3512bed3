import WikiDates.Failure
import WikiDates.Locale.Resolution

/-!
# Things by their names

Units, anchors and locales are named from outside. A name that stands for nothing is a failure,
which says what was asked for.
-/

namespace WikiDates

/-- The unit of the given name. -/
def TimeUnit.named (name : String) : Except Failure TimeUnit :=
  match TimeUnit.ofName? name with
  | some u => .ok u
  | none => .error (.noUnit name)

/-- The anchor of the given name. -/
def Anchor.named (name : String) : Except Failure Anchor :=
  match Anchor.ofName? name with
  | some a => .ok a
  | none => .error (.unknownAnchor name)

/-- The locale that a text names. -/
def Locale.named (text : String) : Except Failure Locale :=
  (Locale.parse text).mapError (.invalidLocale text)

@[simp] theorem Anchor.named_name (a : Anchor) : Anchor.named a.name = .ok a := by
  simp [Anchor.named]

end WikiDates
