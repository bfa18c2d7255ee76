import CivilTime.Zone.Gazetteer.Entry

/-!
# The Atlantic zones

* `Gazetteer.atlantic`: name, regimes and changes of each zone, in the order of the names.
-/

namespace CivilTime.Gazetteer

/-- The Atlantic zones. -/
def atlantic : List Entry :=
  [
    ⟨"Atlantic/Azores",
      [⟨-103, false⟩, ⟨-115, false⟩, ⟨-120, false⟩, ⟨-60, true⟩, ⟨0, true⟩, ⟨-60, false⟩,
        ⟨0, false⟩, ⟨60, true⟩],
      ["B0C58sp7kD2bufw0C6zxg0D66800Cbq580D71s40Cbq580D71s40Cbq580D73ms0Cbq580D71s40Cbq580D1b2",
        "g00C8so00Dst1c0C8n400D9q000C902o0Da2yo0C902o0Da2yo0C8n400Dst1c0C8n400D9d1c0C9d1c0Dsg2o",
        "0C9d1c0D902o0C9q000Da2yo0C8n400D9d1c0C9d1c0D902o0C9q000Da2yo0Cb5uo0D51hc0Cbmio0D99c00C",
        "9ew00D88ao0E25p80D5reo0C3lpg0D779c0E1sqk0D6uao0C38qs0D6uao0E25p80D6hc00C38qs0D6uao0E25",
        "p80D6hc00C38qs0D8a5c0C9d1c0D9d9o0C9d1c0D9d1c0C9d1c0D9d1c0C9d1c0D9d1c0C9d1c0D9d1c0C9q00",
        "0D9d1c0C9d1c0D9d1c0C9d1c0D9d1c0C9d1c0D9d1c0C9d1c0D9d1c0C9q000D9d1c0C9d1c0D9d1c0C9d1c0D",
        "9d1c0C9d1c0D9d1c0C9d1c0D9d1c0C9d1c0D9d1c0C9q000D9d1c0C9d1c0D9d1c0C9d1c0D9d1c0C9d1c0D9d",
        "1c0F9d1c0E82xuc0F9d1c0E9d1c0F9d1c0E9d1c0F9q000E9d1c0F9d1c0E9d1c0F9d1c0E9d1c0F9d1c0E9d1",
        "c0F9d1c0E9d1c0F9d1c0E9d1c0F9q000E9d1c0F9d1c0E9d1c0F9d1c0G4olg0H4ofw0E46000F571c0E9d1c0",
        "F9d1c0E9d1c0F9d1c0E9q000Fasw00E7x6o0Fasw00E7x6o0Fasw00E7x6o0Fb5uo0E7k800Fb5uo0E7k800Fb",
        "5uo0E7x6o0Fasw00E7x6o0Fasw00E7x6o0Fb5uo0E7k800Fb5uo0E7k800Fb5uo0E7k800Fb5uo0E7x6o0Fasw",
        "00E7x6o0Fasw00E7x6o0Fb5uo0E7k800Fb5uo0E7k800Fb5uo0E7x6o0Fasw00E7x6o0Fasw00E7x6o0Fasw00",
        "E7x6o0Fb5uo0E7k800Fb5uo0E7k800Fb5uo0E7x6o0Fasw00E7x6o0Fasw00E7x6o0Fb5uo0E7k800Fb5uo0E7",
        "k800Fb5uo0E7x6o0Fasw00E7x6o0Fasw00E7x6o0Fasw00E7x6o0Fb5uo0E7k800Fb5uo0E7k800Fb5uo0E7x6",
        "o0Fasw00E7x6o0Fasw00E7x6o0Fb5uo0E7k800Fb5uo0E7k800Fb5uo0E7k800Fb5uo0E7x6o0Fasw00E7x6o0",
        "Fasw00F4ffjj"]⟩,
    ⟨"Atlantic/Bermuda", [⟨-259, false⟩, ⟨-199, true⟩, ⟨-240, false⟩, ⟨-180, true⟩],
      ["A0B7zo4zqA95jw0Ba16s0A7yyk0C5w74c0D69z5ruCeefw0D7x9g0Cbiqk0D6udg0Cc8nw0D6hes0Cc8nw0Dst",
        "440C64ak0Dcyqs0C5ed80Ddbpg0C5ed80Ddoo40C51ek0Ddoo40C51ek0Ddoo40C5ed80D1xuw40C7x3w0D94r",
        "9g0C9cyk0D9d440C9cyk0D9d440C9px80D905g0C9px80D9d440C9cyk0D9d440C9cyk0D9d440C9cyk0D9d44",
        "0C9cyk0D9d440C9px80D905g0C9px80D9d440C9cyk0D9d440C9cyk0D9d440C9cyk0D8a840Cafuk0D8a840C",
        "ast80D7x9g0Cast80D7x9g0Cast80D8a840Cafuk0D8a840Cafuk0D8a840Cast80D7x9g0Cast80D7x9g0Cas",
        "t80D8a840Cafuk0D8a840Cafuk0D8a840Cafuk0D8a840Cast80D7x9g0Cast80D7x9g0Cast80D8a840Cafuk",
        "0D8a840Cafuk0D8a840Cast80D7x9g0Cast80D7x9g0Cast80D6udg0Cc8nw0D6hes0Cc8nw0D6hes0Cc8nw0D",
        "6udg0Cc8nw0D6hes0Cc8nw0D6hes0Cc8nw0D6hes0Cc8nw0D6hes0Cc8nw0D6hes0Cc8nw0D6udg0Cc8nw0D6h",
        "es0Cc8nw0D6hes0Cc8nw0D6hes0Cc8nw0D6hes0Cc8nw0D6udg0Cc8nw0D6hes0Cc8nw0D6hes0Cc8nw0D6hes",
        "0Cc8nw0D6hes0Cc8nw0D6hes0Cc8nw0D6udg0Cc8nw0D6hes0Cc8nw0D6hes0Cc8nw0D6hes0Cc8nw0D6hes0C",
        "c8nw0D6udg0Cc8nw0D6hes0Cc8nw0D6hes0Cc8nw0D6hes0Cc8nw0D6hes0Cc8nw0D6hes0Cc8nw0"]⟩,
    ⟨"Atlantic/Canary", [⟨-62, false⟩, ⟨-60, false⟩, ⟨0, false⟩, ⟨60, true⟩],
      ["Bajqp68CctvupcDhhq7s0C905g0D9d1c0C9d1c0D9d1c0C9d1c0D9d1c0C9d1c0D9d1c0C9q000D9d1c0C9d1c",
        "0D9d1c0C9d1c0D9d1c0C9d1c0D9d1c0C9d1c0D9d1c0C9d1c0D9d1c0C9q000D9d1c0C9d1c0D9d1c0C9d1c0D",
        "9d1c0C9d1c0D9d1c0C9d1c0D9d1c0C9d1c0D9q000Casw00D7x6o0Casw00D7x6o0Casw00D7x6o0Cb5uo0D7k",
        "800Cb5uo0D7k800Cb5uo0D7x6o0Casw00D7x6o0Casw00D7x6o0Cb5uo0D7k800Cb5uo0D7k800Cb5uo0D7k80",
        "0Cb5uo0D7x6o0Casw00D7x6o0Casw00D7x6o0Cb5uo0D7k800Cb5uo0D7k800Cb5uo0D7x6o0Casw00D7x6o0C",
        "asw00D7x6o0Casw00D7x6o0Cb5uo0D7k800Cb5uo0D7k800Cb5uo0D7x6o0Casw00D7x6o0Casw00D7x6o0Cb5",
        "uo0D7k800Cb5uo0D7k800Cb5uo0D7x6o0Casw00D7x6o0Casw00D7x6o0Casw00D7x6o0Cb5uo0D7k800Cb5uo",
        "0D7k800Cb5uo0D7x6o0Casw00D7x6o0Casw00D7x6o0Cb5uo0D7k800Cb5uo0D7k800Cb5uo0D7k800Cb5uo0D",
        "7x6o0Casw00D7x6o0Casw00"]⟩,
    ⟨"Atlantic/Cape_Verde", [⟨-94, false⟩, ⟨-120, false⟩, ⟨-60, true⟩, ⟨-60, false⟩],
      ["B58sp7kCg06lc0B1mn180Dfpqwc0Dwfqtvj"]⟩,
    ⟨"Atlantic/Faroe", [⟨-27, false⟩, ⟨0, false⟩, ⟨60, true⟩],
      ["B365jkoC127keuwB9d1c0C9d1c0B9d1c0C9d1c0B9d1c0C9d1c0B9q000C9d1c0B9d1c0C9d1c0B9d1c0C9d1c",
        "0B9d1c0C9d1c0B9d1c0C9d1c0B9d1c0C9d1c0B9q000C9d1c0B9d1c0C9d1c0B9d1c0C9d1c0B9d1c0C9d1c0B",
        "9d1c0C9d1c0B9d1c0C9q000Basw00C7x6o0Basw00C7x6o0Basw00C7x6o0Bb5uo0C7k800Bb5uo0C7k800Bb5",
        "uo0C7x6o0Basw00C7x6o0Basw00C7x6o0Bb5uo0C7k800Bb5uo0C7k800Bb5uo0C7k800Bb5uo0C7x6o0Basw0",
        "0C7x6o0Basw00C7x6o0Bb5uo0C7k800Bb5uo0C7k800Bb5uo0C7x6o0Basw00C7x6o0Basw00C7x6o0Basw00C",
        "7x6o0Bb5uo0C7k800Bb5uo0C7k800Bb5uo0C7x6o0Basw00C7x6o0Basw00C7x6o0Bb5uo0C7k800Bb5uo0C7k",
        "800Bb5uo0C7x6o0Basw00C7x6o0Basw00C7x6o0Basw00C7x6o0Bb5uo0C7k800Bb5uo0C7k800Bb5uo0C7x6o",
        "0Basw00C7x6o0Basw00C7x6o0Bb5uo0C7k800Bb5uo0C7k800Bb5uo0C7k800Bb5uo0C7x6o0Basw00C7x6o0B",
        "asw00"]⟩,
    ⟨"Atlantic/Madeira", [⟨-68, false⟩, ⟨-60, false⟩, ⟨0, true⟩, ⟨60, true⟩, ⟨0, false⟩],
      ["A0B58smfkC2bufw0B6zxg0C66800Bbq580C71s40Bbq580C71s40Bbq580C73ms0Bbq580C71s40Bbq580C1b2",
        "g00B8so00Cst1c0B8n400C9q000B902o0Ca2yo0B902o0Ca2yo0B8n400Cst1c0B8n400C9d1c0B9d1c0Csg2o",
        "0B9d1c0C902o0B9q000Ca2yo0B8n400C9d1c0B9d1c0C902o0B9q000Ca2yo0Bb5uo0C51hc0Bbmio0C99c00B",
        "9ew00C88ao0D25p80C5reo0B3lpg0C779c0D1sqk0C6uao0B38qs0C6uao0D25p80C6hc00B38qs0C6uao0D25",
        "p80C6hc00B38qs0C8a5c0B9d1c0C9d9o0B9d1c0C9d1c0B9d1c0C9d1c0B9d1c0C9d1c0B9d1c0C9d1c0B9q00",
        "0C9d1c0B9d1c0C9d1c0B9d1c0C9d1c0B9d1c0C9d1c0B9d1c0C9d1c0B9q000C9d1c0B9d1c0C9d1c0B9d1c0C",
        "9d1c0B9d1c0C9d1c0B9d1c0C9d1c0B9d1c0C9d1c0B9q000C9d1c0B9d1c0C9d1c0B9d1c0C9d1c0B9d1c0C9d",
        "1c0E9d1c0D83at00E902o0D9d1c0E9d1c0D9d1c0E9q000D9d1c0E9d1c0D9d1c0E9d440D9d1c0E9d1c0D9d1",
        "c0E9d1c0D9d1c0E9d1c0D9d1c0E9q000D9d1c0E9d1c0D9d1c0E9d1c0D9d1c0E9d1c0D9d1c0E9d1c0D9d1c0",
        "E9d1c0D9q000Easw00D7x6o0Easw00D7x6o0Easw00D7x6o0Eb5uo0D7k800Eb5uo0D7k800Eb5uo0D7x6o0Ea",
        "sw00D7x6o0Easw00D7x6o0Eb5uo0D7k800Eb5uo0D7k800Eb5uo0D7k800Eb5uo0D7x6o0Easw00D7x6o0Easw",
        "00D7x6o0Eb5uo0D7k800Eb5uo0D7k800Eb5uo0D7x6o0Easw00D7x6o0Easw00D7x6o0Easw00D7x6o0Eb5uo0",
        "D7k800Eb5uo0D7k800Eb5uo0D7x6o0Easw00D7x6o0Easw00D7x6o0Eb5uo0D7k800Eb5uo0D7k800Eb5uo0D7",
        "x6o0Easw00D7x6o0Easw00D7x6o0Easw00D7x6o0Eb5uo0D7k800Eb5uo0D7k800Eb5uo0D7x6o0Easw00D7x6",
        "o0Easw00D7x6o0Eb5uo0D7k800Eb5uo0D7k800Eb5uo0D7k800Eb5uo0D7x6o0Easw00D7x6o0Easw00"]⟩,
    ⟨"Atlantic/Reykjavik", [⟨-88, false⟩, ⟨-60, false⟩, ⟨0, true⟩, ⟨0, false⟩],
      ["B35n3q8C4rpd9cBci2s0C69uk0Bdu840C4xp80Bdu840Cp7bw0B4w040C9bdzw0B9d6w0C64g40Bcyl80C64dc",
        "0Bclpc0C6hc00Bbvs00C6uao0Bbvs00C6uao0Bbvs00C6uao0Bc8qo0C6hc00Bc8qo0C8a5c0Bafxc0C8a5c0B",
        "afxc0C8a5c0Basw00C7x6o0Bafxc0C8a5c0Basw00C8a5c0Bafxc0C8a5c0Bafxc0C8a5c0Bafxc0C8a5c0Baf",
        "xc0C8a5c0Basw00C8a5c0Bafxc0C8a5c0Bafxc0C8a5c0Bafxc0C8a5c0Bafxc0C8a5c0Bafxc0C8a5c0Basw0",
        "0C8a5c0Bafxc0C8a5c0Bafxc0C8a5c0Bafxc0C8a5c0Bafxc0C8a5c0Basw00D8a5c0"]⟩,
    ⟨"Atlantic/South_Georgia", [⟨-146, false⟩, ⟨-120, false⟩],
      ["B0B1z141z3"]⟩,
    ⟨"Atlantic/St_Helena", [⟨-23, false⟩, ⟨0, false⟩],
      ["A0Bplk7dk"]⟩,
    ⟨"Atlantic/Stanley",
      [⟨-231, false⟩, ⟨-240, false⟩, ⟨-180, true⟩, ⟨-180, false⟩, ⟨-120, true⟩],
      ["A0B5cgbp8CdbvxqcB8zzw0C9q2s0B8zzw0Ca31g0B8zzw0C9q2s0B8zzw0C9q2s0B8zzw0C9q2s0B4xp80Dl1p",
        "us0E7k580Db5rw0E77c40Dbiqk0C77c40Bb5uo0C7kas0Bb5rw0C7kas0Bb5rw0C7kas0Bb5rw0C7kas0Bbiqk",
        "0C77c40Bbiqk0C7kas0Bb5rw0C7kas0Bb5rw0C7kas0Bb5rw0C7kas0Bb5rw0C7kas0Bbiqk0C7kas0Bb5rw0C",
        "7kas0Bb5rw0C7kas0Bb5rw0C7kas0Bb5rw0C7kas0Bb5xg0C77c40Bbvp80C6udg0Bbvp80C77c40Bbiqk0C77",
        "c40Bbiqk0C77c40Bbiqk0C77c40Bbiqk0C77c40Bbvp80C77c40Bbiqk0C77c40Bbiqk0D77c40Deaalnj"]⟩]

end CivilTime.Gazetteer
