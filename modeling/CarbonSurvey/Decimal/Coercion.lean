import CarbonSurvey.Text.Blank
import CarbonSurvey.Decimal.Numeral

/-! # Texts taken as numbers

Participants type numbers as text. A blank text counts as zero, and any other text counts as the
finite number it spells, if it spells one.
-/

namespace CarbonSurvey.Decimal

def coerce? (text : String) : Option Float :=
  match Text.trim text.toList with
  | [] => some 0.0
  | trimmed => finite? trimmed

end CarbonSurvey.Decimal
