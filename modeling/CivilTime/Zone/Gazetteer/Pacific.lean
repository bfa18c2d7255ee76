import CivilTime.Zone.Gazetteer.Entry

/-!
# The Pacific zones

* `Gazetteer.pacific`: name, regimes and changes of each zone, in the order of the names.
-/

namespace CivilTime.Gazetteer

/-- The Pacific zones. -/
def pacific : List Entry :=
  [
    ⟨"Pacific/Apia",
      [⟨753, false⟩, ⟨-687, false⟩, ⟨-690, false⟩, ⟨-660, false⟩, ⟨-600, true⟩, ⟨840, true⟩,
        ⟨780, false⟩],
      ["B0C4q1i4gDkcrmt4Evp3la0D9odo0E902o0F4zbk0G4qog0F9d1c0G9q000F902o0G9q000F902o0G9q000F90",
        "2o0G9q000F902o0G9q000F902o0G9q000F9d1c0G9q000F902o0G9q000F902o0G9q000G8rka3j"]⟩,
    ⟨"Pacific/Auckland",
      [⟨699, false⟩, ⟨690, false⟩, ⟨750, true⟩, ⟨720, true⟩, ⟨720, false⟩, ⟨780, true⟩],
      ["B0CdiibxkB64ak0Dbiw40B7x5a0Dasxe0B7x5a0Dasxe0B7x5a0Dasxe0B8a3y0Dafyq0B8a3y0Dafyq0Bafvy",
        "0D7x820Basum0D7x820Basum0D7x820Basum0D7x820Basum0D7x820Bb5ta0D7k9e0Bb5ta0D7x820E2qrd20",
        "Ff1tpk0E5reo0Fclpc0E6uao0Fc8qo0E6hc00Fc8qo0E6hc00Fc8qo0E6hc00Fc8qo0E6hc00Fc8qo0E6hc00F",
        "c8qo0E6uao0Fc8qo0E6hc00Fc8qo0E6hc00Fc8qo0E6hc00Fc8qo0E6hc00Fc8qo0E6hc00Fc8qo0E6uao0Fc8",
        "qo0E6hc00Fb5uo0E8a5c0Fafxc0E8a5c0Fafxc0E8a5c0Fafxc0E8n400Fa2yo0E8n400Fa2yo0E8n400Fa2yo",
        "0E8n400Fafxc0E8a5c0Fafxc0E8a5c0Fafxc0E8n400Fa2yo0E8n400Fa2yo0E8n400Fafxc0E8a5c0Fafxc0E",
        "8a5c0Fafxc0E8n400Fa2yo0E8n400Fa2yo0E8n400Fa2yo0E8n400Fa2yo0E9q000F902o0E9q000F902o0E9q",
        "000F902o0E9q000F902o0E9q000F9d1c0E9q000F902o0E9q000F902o0E9q000F902o0E9q000F902o0E9q00",
        "0F902o0E9q000F9d1c0E9q000F902o0E9q000F902o0E9q000F902o0E9q000F902o0E9q000F902o0Ea2yo0F",
        "902o0E9q000F902o0E9q000F902o0E9q000F902o0E9q000F902o0E9q000F9d1c0E9q000F902o0E9q000F90",
        "2o0E9q000F902o0E9q000F902o0E9q000F902o0E9q000F9d1c0E9q000F902o0E9q000F902o0"]⟩,
    ⟨"Pacific/Bougainville", [⟨622, false⟩, ⟨600, false⟩, ⟨540, false⟩, ⟨660, false⟩],
      ["B0Cl5rjvkB1n05g0D1071c40Dc1b0jj"]⟩,
    ⟨"Pacific/Chatham", [⟨734, false⟩, ⟨735, false⟩, ⟨765, false⟩, ⟨825, true⟩],
      ["B0CmzlqykDf1tq90C5reo0Dclpc0C6uao0Dc8qo0C6hc00Dc8qo0C6hc00Dc8qo0C6hc00Dc8qo0C6hc00Dc8q",
        "o0C6hc00Dc8qo0C6uao0Dc8qo0C6hc00Dc8qo0C6hc00Dc8qo0C6hc00Dc8qo0C6hc00Dc8qo0C6hc00Dc8qo0",
        "C6uao0Dc8qo0C6hc00Db5uo0C8a5c0Dafxc0C8a5c0Dafxc0C8a5c0Dafxc0C8n400Da2yo0C8n400Da2yo0C8",
        "n400Da2yo0C8n400Dafxc0C8a5c0Dafxc0C8a5c0Dafxc0C8n400Da2yo0C8n400Da2yo0C8n400Dafxc0C8a5",
        "c0Dafxc0C8a5c0Dafxc0C8n400Da2yo0C8n400Da2yo0C8n400Da2yo0C8n400Da2yo0C9q000D902o0C9q000",
        "D902o0C9q000D902o0C9q000D902o0C9q000D9d1c0C9q000D902o0C9q000D902o0C9q000D902o0C9q000D9",
        "02o0C9q000D902o0C9q000D9d1c0C9q000D902o0C9q000D902o0C9q000D902o0C9q000D902o0C9q000D902",
        "o0Ca2yo0D902o0C9q000D902o0C9q000D902o0C9q000D902o0C9q000D902o0C9q000D9d1c0C9q000D902o0",
        "C9q000D902o0C9q000D902o0C9q000D902o0C9q000D902o0C9q000D9d1c0C9q000D902o0C9q000D902o0D5",
        "w4rj"]⟩,
    ⟨"Pacific/Chuuk", [⟨-833, false⟩, ⟨600, false⟩, ⟨540, false⟩],
      ["B0C6of17kB29hes0Cbkenw0B29fk40B1c9ddzj"]⟩,
    ⟨"Pacific/Easter", [⟨-437, false⟩, ⟨-420, false⟩, ⟨-360, true⟩, ⟨-360, false⟩, ⟨-300, true⟩],
      ["A0Bg14qkoCivmeuwB7k580Cc8tg0B6h980Ca31g0B7x3w0Casys0B7x3w0Cb5xg0B7k580Cag040B8a2k0Cb5x",
        "g0B7k580Cb5xg0B7x3w0Casys0B7x3w0Casys0B7x3w0Cb5xg0B7k580Cb5xg0B7k580Cb5xg0B7x3w0Casys0",
        "D7x3w0Easys0D7x3w0Easys0D7x3w0Eb5xg0D7k580Eb5xg0D7k580Eb5xg0D9cyk0E9d440D7x3w0Easys0D7",
        "x3w0Eb5xg0D7k580E9q2s0D8zzw0Eb5xg0D7x3w0Easys0D7x3w0Easys0D7x3w0Easys0D7x3w0Eb5xg0D7k5",
        "80Eb5xg0D8n180Ea31g0D7x3w0Ea31g0D9px80E9q2s0D7x3w0Eb5xg0D7k580Eb5xg0D7k580Eb5xg0D7k580",
        "Eb5xg0D7x3w0Easys0D7x3w0Easys0D7x3w0Eb5xg0D7k580Eb5xg0D8n180Ea31g0D7x3w0Easys0D8zzw0E9",
        "q2s0Dast80E5eis0Dcyl80E6hes0Dc8nw0E6udg0Dbvp80E6udg0Dvonw0E4olg0De1h80E4olg0De1h80E4ol",
        "g0Dc8nw0E7x9g0Dast80E7x9g0Dast80E7x9g0Dast80E8a840Dafuk0E7x9g0Db5rw0E7x9g0Dast80E7x9g0",
        "Dast80E7x9g0Dast80E7x9g0Dast80E7x9g0Db5rw0E7kas0Db5rw0E7x9g0Dast80E7x9g0Dast80E7x9g0Da",
        "st80E7x9g0Dast80E7x9g0Db5rw0E7kas0Db5rw0E7x9g0Dast80E7x9g0E6xxvj"]⟩,
    ⟨"Pacific/Efate", [⟨673, false⟩, ⟨660, false⟩, ⟨720, true⟩],
      ["B59dwhgCwbu364B51hc0C4y8qs0B9cyk0C9d440B9cyk0C9q2s0B8zzw0C9q2s0B9cyk0C9d440B9cyk0C9d44",
        "0B9cyk0C9d440B9cyk0C9d440B9cyk0C9q2s0B64ak0Ce1ms0B4ofw0Bnh8ybj"]⟩,
    ⟨"Pacific/Fakaofo", [⟨-685, false⟩, ⟨-660, false⟩, ⟨780, false⟩],
      ["B0C1lfkkvkCdljh3j"]⟩,
    ⟨"Pacific/Fiji", [⟨716, false⟩, ⟨720, false⟩, ⟨780, true⟩],
      ["B78h3uoC17bs00wB64dc0Ccyo00B5reo0C53a5c0B64dc0Casw00B6uao0Cbvs00B4oio0Ce1k00B4oio0Ceei",
        "o0B4bh80Cerk40B3ylc0Cerhc0B3ylc0Cf4g00B3lmo0Cf4g00B3lmo0Cf4g00B3lmo0Cfheo0B38o00Chn6o0",
        "B1fuo0B8vivfj"]⟩,
    ⟨"Pacific/Funafuti", [⟨717, false⟩, ⟨720, false⟩],
      ["B0B1z141z3"]⟩,
    ⟨"Pacific/Galapagos", [⟨-358, false⟩, ⟨-300, false⟩, ⟨-360, false⟩, ⟨-300, true⟩],
      ["Bf5suwwCspdryoD3lsas0C3jp80Cnglf3j"]⟩,
    ⟨"Pacific/Gambier", [⟨-540, false⟩],
      ["A5mwnb8A1te7env"]⟩,
    ⟨"Pacific/Guadalcanal", [⟨640, false⟩, ⟨660, false⟩],
      ["B5mv4p8B1te8x9v"]⟩,
    ⟨"Pacific/Guam", [⟨-861, false⟩, ⟨600, false⟩, ⟨540, false⟩, ⟨660, true⟩],
      ["B0CkvbmjkB1dl9g0D7s1k40Btxp80D3frms0BqdrpoD7kgacB3ljw0Dc8tg0B6u7w0Dbvus0B6u7w0D16uo40B",
        "3ljw0D16aas0B4ivxoDcls2cB6h980Bc65zw0"]⟩,
    ⟨"Pacific/Honolulu", [⟨-631, false⟩, ⟨-630, false⟩, ⟨-570, true⟩, ⟨-600, false⟩],
      ["B0CgdjfpkB13l00C4jvb00C1tyvu0B2e5e0Dvotg0"]⟩,
    ⟨"Pacific/Kanton", [⟨0, false⟩, ⟨-720, false⟩, ⟨-660, false⟩, ⟨780, false⟩],
      ["BimzszkClypqo0D7yiqk0Dmgvrrj"]⟩,
    ⟨"Pacific/Kiritimati", [⟨-629, false⟩, ⟨-640, false⟩, ⟨-600, false⟩, ⟨840, false⟩],
      ["B0C14lpfy8D7yirhcDmgvujj"]⟩,
    ⟨"Pacific/Kosrae", [⟨-788, false⟩, ⟨660, false⟩, ⟨540, false⟩, ⟨600, false⟩, ⟨720, false⟩],
      ["B0C6oeyfkB29hhk0D9cmd40C27sas0B29fk40Ecm2540Bf9l3w0Bkdq4zj"]⟩,
    ⟨"Pacific/Kwajalein",
      [⟨669, false⟩, ⟨660, false⟩, ⟨600, false⟩, ⟨540, false⟩, ⟨-720, false⟩, ⟨720, false⟩],
      ["B0Ciait3kD27sas0B1hjus0Eddxug0Fcgv6k0Fn6g2bj"]⟩,
    ⟨"Pacific/Majuro", [⟨685, false⟩, ⟨660, false⟩, ⟨540, false⟩, ⟨600, false⟩, ⟨720, false⟩],
      ["B0C6oeyfkB29hhk0D9cmd40C27sas0B1h6w40Edeat40Eznb8vj"]⟩,
    ⟨"Pacific/Marquesas", [⟨-558, false⟩, ⟨-570, false⟩],
      ["B5mwo5kB1te7dtj"]⟩,
    ⟨"Pacific/Midway", [⟨-709, false⟩, ⟨-660, false⟩, ⟨-600, true⟩],
      ["B0CsffovkB4ofw0"]⟩,
    ⟨"Pacific/Nauru", [⟨668, false⟩, ⟨690, false⟩, ⟨540, false⟩, ⟨720, false⟩],
      ["B9ymi2sCba66ysB1kwca0Dhfzda0Durfndj"]⟩,
    ⟨"Pacific/Niue", [⟨-680, false⟩, ⟨-660, false⟩],
      ["Aqj85scB63yiokB12dxdi7"]⟩,
    ⟨"Pacific/Norfolk", [⟨672, false⟩, ⟨690, false⟩, ⟨750, true⟩, ⟨660, false⟩, ⟨720, true⟩],
      ["A0Bpljb7kCcfj8q0B6hc00Dl6nk00E239aq0D9d1c0E9d1c0D9d1c0E9d1c0D9d1c0E9d1c0D9d1c0E9d1c0D9",
        "q000E9d1c0D9d1c0E9d1c0D9d1c0E9d1c0D9d1c0E9d1c0D9d1c0E9d1c0D9d1c0E9q000D9d1c0E9d1c0D9d1",
        "c0E9d1c0D9d1c0E9d1c0D9d1c0E9d1c0D9d1c0E9d1c0D9d1c0E9q000D9d1c0E9d1c0D9d1c0E9d1c0E5j3bj"]⟩,
    ⟨"Pacific/Noumea", [⟨666, false⟩, ⟨660, false⟩, ⟨720, true⟩],
      ["B59dwtwCye0ixoB4dbw0Cecqs0B4f6k0C99p700B4oio0Blc6nbj"]⟩,
    ⟨"Pacific/Pago_Pago", [⟨757, false⟩, ⟨-683, false⟩, ⟨-660, false⟩],
      ["B0C4q1hxk"]⟩,
    ⟨"Pacific/Palau", [⟨-902, false⟩, ⟨540, false⟩],
      ["B0B1z141z3"]⟩,
    ⟨"Pacific/Pitcairn", [⟨-520, false⟩, ⟨-510, false⟩, ⟨-480, false⟩],
      ["B0C1eamdxkCkqho1j"]⟩,
    ⟨"Pacific/Pohnpei", [⟨-807, false⟩, ⟨660, false⟩, ⟨540, false⟩, ⟨600, false⟩],
      ["B0C6oeyfkB29hhk0D9cmd40C27sas0B29fk40B1c9ddzj"]⟩,
    ⟨"Pacific/Port_Moresby", [⟨589, false⟩, ⟨600, false⟩],
      ["B0B1z141z3"]⟩,
    ⟨"Pacific/Rarotonga",
      [⟨801, false⟩, ⟨-639, false⟩, ⟨-630, false⟩, ⟨-570, true⟩, ⟨-600, false⟩],
      ["B0Cqj83woDdlv68wE5rbw0Dc8s20E6ham0Dc8s20E6ham0Dc8s20E6u9a0Dc8s20E6ham0Dc8s20E6ham0Dc8s",
        "20E6ham0Dc8s20E6ham0Dc8s20E6ham0Dc8s20E6u9a0Dc8s20E6ham0Dc8s20E6ham0Dc8s20E6ham0Eoguml",
        "j"]⟩,
    ⟨"Pacific/Saipan", [⟨-857, false⟩, ⟨540, false⟩, ⟨600, false⟩, ⟨660, true⟩],
      ["B0Cm7s5bkD7t6as0Ctxp80D3frms0CqdrpoD7kgacC3ljw0Dc8tg0C6u7w0Dbvus0C6u7w0D16uo40C3ljw0D1",
        "6aas0C4ivxoDcls2cC6h980Cc65zw0"]⟩,
    ⟨"Pacific/Tahiti", [⟨-598, false⟩, ⟨-600, false⟩],
      ["B5mwq0oB1te7byf"]⟩,
    ⟨"Pacific/Tarawa", [⟨692, false⟩, ⟨720, false⟩],
      ["B0B1z141z3"]⟩,
    ⟨"Pacific/Tongatapu", [⟨739, false⟩, ⟨740, false⟩, ⟨780, false⟩, ⟨840, true⟩],
      ["BmtshfkC7znjyoDk8amdcC8fpc0Dbvs00C4bh80Deelg0C4bh80D7pmis0C3lmo0Cays7jj"]⟩,
    ⟨"Pacific/Wake", [⟨666, false⟩, ⟨720, false⟩],
      ["B0B1z141z3"]⟩,
    ⟨"Pacific/Wallis", [⟨735, false⟩, ⟨720, false⟩],
      ["B0B1z141z3"]⟩]

end CivilTime.Gazetteer
