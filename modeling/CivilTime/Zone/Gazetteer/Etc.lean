import CivilTime.Zone.Gazetteer.Entry

/-!
# The general zones

* `Gazetteer.etc`: name, regimes and changes of each zone, in the order of the names.
-/

namespace CivilTime.Gazetteer

/-- The general zones. -/
def etc : List Entry :=
  [
    ⟨"Etc/GMT", [⟨0, false⟩],
      []⟩,
    ⟨"Etc/GMT+1", [⟨-60, false⟩],
      []⟩,
    ⟨"Etc/GMT+10", [⟨-600, false⟩],
      []⟩,
    ⟨"Etc/GMT+11", [⟨-660, false⟩],
      []⟩,
    ⟨"Etc/GMT+12", [⟨-720, false⟩],
      []⟩,
    ⟨"Etc/GMT+2", [⟨-120, false⟩],
      []⟩,
    ⟨"Etc/GMT+3", [⟨-180, false⟩],
      []⟩,
    ⟨"Etc/GMT+4", [⟨-240, false⟩],
      []⟩,
    ⟨"Etc/GMT+5", [⟨-300, false⟩],
      []⟩,
    ⟨"Etc/GMT+6", [⟨-360, false⟩],
      []⟩,
    ⟨"Etc/GMT+7", [⟨-420, false⟩],
      []⟩,
    ⟨"Etc/GMT+8", [⟨-480, false⟩],
      []⟩,
    ⟨"Etc/GMT+9", [⟨-540, false⟩],
      []⟩,
    ⟨"Etc/GMT-1", [⟨60, false⟩],
      []⟩,
    ⟨"Etc/GMT-10", [⟨600, false⟩],
      []⟩,
    ⟨"Etc/GMT-11", [⟨660, false⟩],
      []⟩,
    ⟨"Etc/GMT-12", [⟨720, false⟩],
      []⟩,
    ⟨"Etc/GMT-13", [⟨780, false⟩],
      []⟩,
    ⟨"Etc/GMT-14", [⟨840, false⟩],
      []⟩,
    ⟨"Etc/GMT-2", [⟨120, false⟩],
      []⟩,
    ⟨"Etc/GMT-3", [⟨180, false⟩],
      []⟩,
    ⟨"Etc/GMT-4", [⟨240, false⟩],
      []⟩,
    ⟨"Etc/GMT-5", [⟨300, false⟩],
      []⟩,
    ⟨"Etc/GMT-6", [⟨360, false⟩],
      []⟩,
    ⟨"Etc/GMT-7", [⟨420, false⟩],
      []⟩,
    ⟨"Etc/GMT-8", [⟨480, false⟩],
      []⟩,
    ⟨"Etc/GMT-9", [⟨540, false⟩],
      []⟩,
    ⟨"Etc/UTC", [⟨0, false⟩],
      []⟩]

end CivilTime.Gazetteer
