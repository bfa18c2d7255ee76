import CivilTime.Zone.Gazetteer.Entry

/-!
# The Indian Ocean zones

* `Gazetteer.indian`: name, regimes and changes of each zone, in the order of the names.
-/

namespace CivilTime.Gazetteer

/-- The Indian Ocean zones. -/
def indian : List Entry :=
  [
    ⟨"Indian/Antananarivo", [⟨190, false⟩, ⟨180, false⟩, ⟨240, true⟩],
      ["B4zbk6sCm9lccsB4oio0"]⟩,
    ⟨"Indian/Chagos", [⟨290, false⟩, ⟨300, false⟩, ⟨360, false⟩],
      ["B2muowsC1ag64usCly387j"]⟩,
    ⟨"Indian/Christmas", [⟨423, false⟩, ⟨420, false⟩],
      ["B0B1z141z3"]⟩,
    ⟨"Indian/Cocos", [⟨388, false⟩, ⟨390, false⟩],
      ["B0B1z141z3"]⟩,
    ⟨"Indian/Comoro", [⟨173, false⟩, ⟨180, false⟩],
      ["B4zbkz4"]⟩,
    ⟨"Indian/Kerguelen", [⟨0, false⟩, ⟨300, false⟩],
      ["Bp2s8zkB19ybszj"]⟩,
    ⟨"Indian/Mahe", [⟨222, false⟩, ⟨240, false⟩],
      ["B2mus1wB1we99x7"]⟩,
    ⟨"Indian/Maldives", [⟨294, false⟩, ⟨300, false⟩],
      ["A0Buamu1kB14qh7xj"]⟩,
    ⟨"Indian/Mauritius", [⟨230, false⟩, ⟨240, false⟩, ⟨300, true⟩],
      ["B2muro8C13jnu7cB8bx80Cdd0wc0B7x3w0Bf1binj"]⟩,
    ⟨"Indian/Mayotte", [⟨181, false⟩, ⟨180, false⟩],
      ["B4zbkm0"]⟩,
    ⟨"Indian/Reunion", [⟨222, false⟩, ⟨240, false⟩],
      ["B4xrypsB1u3c39b"]⟩]

end CivilTime.Gazetteer
