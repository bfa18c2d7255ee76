import CivilTime.Zone.Gazetteer.Entry

/-!
# The Asian zones

* `Gazetteer.asia`: name, regimes and changes of each zone, in the order of the names.
-/

namespace CivilTime.Gazetteer

/-- The Asian zones. -/
def asia : List Entry :=
  [
    ⟨"Asia/Aden", [⟨180, false⟩],
      ["Ap2s0nqA19yc1bd"]⟩,
    ⟨"Asia/Almaty", [⟨308, false⟩, ⟨300, false⟩, ⟨360, false⟩, ⟨420, true⟩, ⟨360, true⟩],
      ["BboiqqkC37a0d0Dqi27w0C9et80D9d440C9et80D9d440C9et80D9eys0C9d6w0D9d1c0C9d1c0D9d1c0C9d1c",
        "0D9d1c0C9d1c0D9d1c0C9d1c0D9d1c0C9d1c0D9d1c0C9q000E9d1c0B9d440C5reo0D3ljw0C9d1c0D9d1c0C",
        "9d1c0D9d1c0C9d1c0D9d1c0C9d1c0D9q000Casw00D7x6o0Casw00D7x6o0Casw00D7x6o0Cb5uo0D7k800Cb5",
        "uo0D7k800Cb5uo0D7x6o0Casw00D7x6o0Casw00D7x6o0Cb5uo0Ba37rs0B78xazj"]⟩,
    ⟨"Asia/Amman", [⟨144, false⟩, ⟨120, false⟩, ⟨180, true⟩, ⟨180, false⟩],
      ["Bf5s7o0Cm566fkB60l80Cawo40B7v980Cawo40B7v980Cayis0B9gnw0C9b9g0B7v980Cautg0B7v980C3e684",
        "0B9et80C9io40B9cyk0C9d440B9cyk0C9d440B9px80Cayis0B7rjw0Cag040B8a2k0C9zc40B8drw0Ca31g0B",
        "8zzw0C9d440B9cyk0C9d440B8n180Cag040B8a5c0Cafxc0B8n400Ca2yo0B8n400Ca2yo0B8n400Cepmo0B4d",
        "eo0C9o5c0B9ew00C9b6o0B9ew00C9d1c0B9d1c0C9d1c0Basw00C7x6o0Bafxc0C8n400B9d1c0C9d1c0Basw0",
        "0C7x6o0Basw00C7x6o0Bb5uo0C7k800Bb5uo0C7k800Bb5uo0C7x6o0Basw00C7x6o0Bwel80C51k40Bb5uo0C",
        "7k800Bb5uo0C7x6o0Basw00C7x6o0Basw00C7x6o0Basw00C7x6o0Basw00C7x6o0Bb5uo0C7k800Bb5uo0C64",
        "dc0Dclpc0D7y4ejj"]⟩,
    ⟨"Asia/Anadyr",
      [⟨710, false⟩, ⟨720, false⟩, ⟨780, false⟩, ⟨840, true⟩, ⟨780, true⟩, ⟨720, true⟩,
        ⟨660, false⟩],
      ["Bboi84cC379zj8Dqi27w0C9et80E9d440B9ew00E9d440B9et80E9eys0B9d6w0E9d1c0B9d1c0E9d1c0B9d1c",
        "0E9d1c0B9d1c0E9d1c0B9d1c0E9d1c0B9d1c0E9d1c0B9q000F9d1c0G9d440B5reo0E3ljw0B9d1c0E9d1c0B",
        "9d1c0E9d1c0B9d1c0E9d1c0B9d1c0E9q000Basw00E7x6o0Basw00E7x6o0Basw00E7x6o0Bb5uo0E7k800Bb5",
        "uo0E7k800Bb5uo0E7x6o0Basw00E7x6o0Basw00E7x6o0Bb5uo0E7k800Bb5uo0E7k800Bb5uo0E7k800Bb5uo",
        "0E7x6o0Basw00E7x6o0Basw00F7x6o0Gb5xg0B7k800Bdzvtzj"]⟩,
    ⟨"Asia/Aqtau",
      [⟨201, false⟩, ⟨240, false⟩, ⟨300, false⟩, ⟨360, false⟩, ⟨360, true⟩, ⟨300, true⟩],
      ["BboivogC379y74Dqrh3w0E9cyk0C9ew00E9d440C9et80E9eys0C9d6w0E9d1c0C9d1c0E9d1c0C9d1c0E9d1c",
        "0C9d1c0E9d1c0C9d1c0E9d1c0C9d1c0E9d1c0C9q000F9d1c0B9d440C5reo0E3ljw0C9d1c0E9d1c0C9d1c0E",
        "9d1c0B9d1c0F9d440B9d1c0F9q000Basw00F7x6o0Basw00F7x6o0Basw00F7x6o0Bb5uo0F7k800Bb5uo0F7k",
        "800Bb5uo0F7x6o0Basw00F7x6o0Basw00F7x6o0Cb5uo0Chc4x7j"]⟩,
    ⟨"Asia/Aqtobe",
      [⟨229, false⟩, ⟨240, false⟩, ⟨300, false⟩, ⟨360, true⟩, ⟨360, false⟩, ⟨300, true⟩],
      ["BboiuegC379zh4Dqi27w0E9et80D9d1c0C9ew00D9d440C9et80D9eys0C9d6w0D9d1c0C9d1c0D9d1c0C9d1c",
        "0D9d1c0C9d1c0D9d1c0C9d1c0D9d1c0C9d1c0D9d1c0C9q000F9d1c0B9d440C5reo0D3ljw0C9d1c0D9d1c0C",
        "9d1c0D9d1c0C9d1c0D9d1c0C9d1c0D9q000Casw00D7x6o0Casw00D7x6o0Casw00D7x6o0Cb5uo0D7k800Cb5",
        "uo0D7k800Cb5uo0D7x6o0Casw00D7x6o0Casw00D7x6o0Cb5uo0Chc4zzj"]⟩,
    ⟨"Asia/Ashgabat", [⟨234, false⟩, ⟨240, false⟩, ⟨300, false⟩, ⟨360, true⟩, ⟨300, true⟩],
      ["Bboiu6cC379zp8Dqi27w0C9et80D9d440C9et80D9d440C9et80D9eys0C9d6w0D9d1c0C9d1c0D9d1c0C9d1c",
        "0D9d1c0C9d1c0D9d1c0C9d1c0D9d1c0C9d1c0D9d1c0C9q000E9d1c0B9d440C5reo0Co0b7vj"]⟩,
    ⟨"Asia/Atyrau",
      [⟨208, false⟩, ⟨180, false⟩, ⟨300, false⟩, ⟨360, false⟩, ⟨360, true⟩, ⟨300, true⟩,
        ⟨240, false⟩],
      ["BboivdcC37a1a8Dqrh140E9cyk0C9ew00E9d440C9et80E9eys0C9d6w0E9d1c0C9d1c0E9d1c0C9d1c0E9d1c",
        "0C9d1c0E9d1c0C9d1c0E9d1c0C9d1c0E9d1c0C9q000F9d1c0G9d440C5reo0E3ljw0C9d1c0E9d1c0C9d1c0E",
        "9d1c0C9d1c0E9d1c0C9d1c0E9q000Casw00E7x6o0Casw00E7x6o0Casw00F7x6o0Gb5xg0F7k800Gb5uo0F7k",
        "800Gb5uo0F7x6o0Gasw00F7x6o0Gasw00F7x6o0Cb5uo0Chc4x7j"]⟩,
    ⟨"Asia/Baghdad", [⟨178, false⟩, ⟨180, false⟩, ⟨240, true⟩],
      ["A0B8djkrkCxkn3w0B7v980C9b9g0B9gnw0C9eys0B9et80C9d440B9b9g0C9d1c0B9d1c0C9d1c0B9d1c0C9d1",
        "c0B9d1c0C9d1c0B9d1c0C9d1c0B9q000C9f1k0B9ew00C9ew00B9ew00C9d1c0B9ew00C9d1c0B9ew00C9d1c0",
        "B9ew00C9ew00B9ew00C9d1c0B9ew00C9d1c0B9ew00C9d1c0B9ew00C9ew00B9ew00C9d1c0B9ew00C9d1c0B9",
        "ew00C9d1c0B9ew00C9ew00B9ew00C9d1c0B9ew00C9d1c0B9ew00C9d1c0B9ew00Bftcjnj"]⟩,
    ⟨"Asia/Bahrain", [⟨202, false⟩, ⟨210, false⟩, ⟨240, false⟩, ⟨180, false⟩],
      ["BknzbmcC1a1eb8Detwby0Dy9703j"]⟩,
    ⟨"Asia/Baku", [⟨199, false⟩, ⟨180, false⟩, ⟨240, false⟩, ⟨300, true⟩, ⟨240, true⟩],
      ["Bboivr8Ch4tkwcDckinw0C9et80D9d440C9et80D9d440C9et80D9eys0C9d6w0D9d1c0C9d1c0D9d1c0C9d1c",
        "0D9d1c0C9d1c0D9d1c0C9d1c0D9d1c0C9d1c0D9d1c0C9q000E9d1c0B9d440E9d1c0C9d1c0D1twdk0Casw00",
        "D7x3w0Casw00D7x6o0Casw00D7x6o0Cb5uo0D7k800Cb5uo0D7k800Cb5uo0D7x6o0Casw00D7x6o0Casw00D7",
        "x6o0Cb5uo0D7k800Cb5uo0D7k800Cb5uo0D7k800Cb5uo0D7x6o0Casw00D7x6o0Casw00D7x6o0Cb5uo0D7k8",
        "00Cb5uo0D7k800Cb5uo0D7x6o0Casw00D7x6o0Casw00D7x6o0Casw00Cblsznj"]⟩,
    ⟨"Asia/Bangkok", [⟨402, false⟩, ⟨420, false⟩],
      ["A0B9jrnpgB1phce9n"]⟩,
    ⟨"Asia/Barnaul", [⟨335, false⟩, ⟨360, false⟩, ⟨420, false⟩, ⟨480, true⟩, ⟨420, true⟩],
      ["B9dyhh8C5hu6ucDqi27w0C9et80D9d440C9et80D9d440C9et80D9eys0C9d6w0D9d1c0C9d1c0D9d1c0C9d1c",
        "0D9d1c0C9d1c0D9d1c0C9d1c0D9d1c0C9d1c0D9d1c0C9q000E9d1c0B9d440C5reo0D3ljw0C9d1c0D9d1c0C",
        "9d1c0D9d1c0C9d1c0D9d1c0E38fo0B64og0E9q000Basw00E7x6o0Basw00E7x6o0Basw00E7x6o0Bb5uo0E7k",
        "800Bb5uo0E7k800Bb5uo0E7x6o0Basw00E7x6o0Basw00E7x6o0Bb5uo0E7k800Bb5uo0E7k800Bb5uo0E7k80",
        "0Bb5uo0E7x6o0Basw00E7x6o0Basw00E7x6o0Bb5uo0C7k800B1vbzw0Cqnc40Cbdw43j"]⟩,
    ⟨"Asia/Beirut", [⟨142, false⟩, ⟨120, false⟩, ⟨180, true⟩],
      ["B0C9jkm3kBaunw0C88dg0B9et80C8yas0Ba2vw0Ca31g0B7k580Chjqo40B7v980Cawo40B7v980Cawo40B7v9",
        "80Cayis0B7v980Cawo40B7v980C5lhs40B56yk0Cawo40B7v980Cawo40B7v980Cawo40B7v980Cayis0B7v98",
        "0Cawo40B7v980Cautg0B7v980C2wxus0B8n180Ca4w40B8n180Ca4w40B8n180Ca4w40B8n180Cbs5g0B71mk0",
        "Calk40B86d80Ca4w40B8n180Ca4w40B8n180Ca6qs0B80t80C905g0B9cyk0C9d440B9cyk0C9d440B9cyk0C9",
        "q2s0B9cyk0C9d440B9cyk0C9d440B9cyk0C9d440Bb5rw0C7kas0Bb5rw0C7kas0Bb5rw0C7x9g0Bast80C7x9",
        "g0Bast80C7x9g0Bb5rw0C7kas0Bb5rw0C7kas0Bb5rw0C7kas0Bb5rw0C7x9g0Bast80C7x9g0Bast80C7x9g0",
        "Bb5rw0C7kas0Bb5rw0C7kas0Bb5rw0C7x9g0Bast80C7x9g0Bast80C7x9g0Bast80C7x9g0Bb5rw0C7kas0Bb",
        "5rw0C7kas0Bb5rw0C7x9g0Bast80C7x9g0Bast80C7x9g0Bb5rw0C7kas0Bb5rw0C7kas0Bb5rw0C7x9g0Bast",
        "80C7x9g0Bast80C7x9g0Bast80C7x9g0Bb5rw0C7kas0Bb5rw0C7kas0Bb5rw0C7x9g0Bast80C7x9g0Bast80",
        "C7x9g0Bb5rw0C7kas0Bb5rw0C7kas0Bb5rw0C7kas0Bb5rw0C7x9g0Bast80C7x9g0Bast80"]⟩,
    ⟨"Asia/Bishkek", [⟨298, false⟩, ⟨300, false⟩, ⟨360, false⟩, ⟨420, true⟩, ⟨360, true⟩],
      ["Bboir68C379zxcDqi27w0C9et80D9d440C9et80D9d440C9et80D9eys0C9d6w0D9d1c0C9d1c0D9d1c0C9d1c",
        "0D9d1c0C9d1c0D9d1c0C9d1c0D9d1c0C9d1c0D9d1c0C9q000E9d1c0B7vc00Ebkl80B8n180Ea31g0B8n180E",
        "a31g0B8n180Ea31g0B8n180Ea31g0B8zzw0E9db20Bast80E7x9g0Bast80E7x9g0Bb5rw0E7kas0Bb5rw0E7k",
        "as0Bb5rw0E7x9g0Bast80E7x9g0Bast80E7x9g0Bb5rw0E7kas0C73aa0Cgxhgbj"]⟩,
    ⟨"Asia/Brunei", [⟨460, false⟩, ⟨450, false⟩, ⟨480, false⟩],
      ["Bcmvl1gC3khxs4C1itqj5j"]⟩,
    ⟨"Asia/Chita",
      [⟨454, false⟩, ⟨480, false⟩, ⟨540, false⟩, ⟨600, true⟩, ⟨540, true⟩, ⟨600, false⟩],
      ["B9e7lb4C5hkxggDqi27w0C9et80D9d440C9et80D9d440C9et80D9eys0C9d6w0D9d1c0C9d1c0D9d1c0C9d1c",
        "0D9d1c0C9d1c0D9d1c0C9d1c0D9d1c0C9d1c0D9d1c0C9q000E9d1c0B9d440C5reo0D3ljw0C9d1c0D9d1c0C",
        "9d1c0D9d1c0C9d1c0D9d1c0C9d1c0D9q000Casw00D7x6o0Casw00D7x6o0Casw00D7x6o0Cb5uo0D7k800Cb5",
        "uo0D7k800Cb5uo0D7x6o0Casw00D7x6o0Casw00D7x6o0Cb5uo0D7k800Cb5uo0D7k800Cb5uo0D7k800Cb5uo",
        "0D7x6o0Casw00D7x6o0Casw00D7x6o0Cb5uo0F7k800B1vbzw0Cqnew0Cbdw9nj"]⟩,
    ⟨"Asia/Colombo",
      [⟨319, false⟩, ⟨320, false⟩, ⟨330, false⟩, ⟨360, true⟩, ⟨390, true⟩, ⟨390, false⟩,
        ⟨360, false⟩],
      ["B0C242q70Disle6kEcajy0C1mp2u0Fqetjw0G7x5a0C4xvqq0Cgktuxj"]⟩,
    ⟨"Asia/Damascus", [⟨145, false⟩, ⟨120, false⟩, ⟨180, true⟩, ⟨180, false⟩],
      ["B9f3gxkC5k6q0B8n180Ca31g0B8n180Ca31g0B8n180Ca31g0B8zzw0Ck4hk40B7yyk0Cawo40B7tek0Cb0dg0",
        "B7v980Cawo40B7tek0Calk40B887w0Cawo40B7v980Cayis0B7v980Cawo40B7v980Cawo40B7v980Cawo40B7",
        "v980Cayis0B7v980Cawo40B7v980Cawo40B7v980Cawo40B7v980Cayis0B7v980Cawo40B6bp80Ccg840B6bp",
        "80C2eh1g0B8zzw0C9ts40B8zzw0Cpvk40Bc33w0C7cw40Bcjrw0C6zxg0Bbtuk0C7rpg0B9gnw0C9d440B9cyk",
        "0C9et80B9et80C9rxg0B91uk0C92040B9et80C9o840B9et80C9d440B9et80C9eys0B9et80C9b9g0B9gnw0C",
        "99es0B9iik0C9d440B9et80C9eys0B9et80C9d440B9et80C9d440B9et80C9d440B9et80C9eys0B9et80C9d",
        "440B9et80C9d440B8y580C9q2s0Bb5rw0C7x9g0Baunw0C7ig40Bb5rw0C7x9g0Bast80C7x9g0Bast80C7x9g",
        "0Bast80C7x9g0Bast80C7x9g0Bb5rw0C7kas0Bb5rw0C7kas0Bb5rw0C7x9g0Bast80C7x9g0Bast80C7x9g0B",
        "ast80C7x9g0Bb5rw0C7kas0Bb5rw0C7kas0Db5rw0D7y4hbj"]⟩,
    ⟨"Asia/Dhaka",
      [⟨362, false⟩, ⟨353, false⟩, ⟨390, false⟩, ⟨330, false⟩, ⟨360, false⟩, ⟨420, true⟩],
      ["B0CkrqbaoDbmgywC5lxg0E4qknw0Fu4ijy0Ea1400Een10fj"]⟩,
    ⟨"Asia/Dili", [⟨502, false⟩, ⟨480, false⟩, ⟨540, false⟩],
      ["B58rxfkCfqct80Bhufs00Ccpz440Cjhkf7j"]⟩,
    ⟨"Asia/Dubai", [⟨221, false⟩, ⟨240, false⟩],
      ["B9f3dewB1pm0ok7"]⟩,
    ⟨"Asia/Dushanbe", [⟨275, false⟩, ⟨300, false⟩, ⟨360, false⟩, ⟨420, true⟩, ⟨360, true⟩],
      ["Bbois8wC379yuoDqi27w0C9et80D9d440C9et80D9d440C9et80D9eys0C9d6w0D9d1c0C9d1c0D9d1c0C9d1c",
        "0D9d1c0C9d1c0D9d1c0C9d1c0D9d1c0C9d1c0D9d1c0C9q000E9d1c0B8c2s0Bo73qnj"]⟩,
    ⟨"Asia/Famagusta", [⟨136, false⟩, ⟨120, false⟩, ⟨180, true⟩, ⟨180, false⟩],
      ["Bae8ap8Crvhy2cB9cyk0Cb42s0B7nuk0C8yas0B8zzw0C9q2s0B9et80C9b9g0B9cyk0C9q2s0B8zzw0C9d440",
        "B9cyk0C9d440B9cyk0C9d440B9cyk0C9d440B9px80C9d440B9cyk0C9d440B9cyk0C9d440B9cyk0C9d440B9",
        "cyk0C9d440B9cyk0C9d440B9px80C9d440B9cyk0C9d440B9cyk0C9d440B9cyk0C9d440B9cyk0C9d440B9cy",
        "k0C9q2s0B9cyk0C9d440B9cyk0C9d440Bat4c0C7x6o0Bb5uo0C7k800Bb5uo0C7k800Bb5uo0C7x6o0Basw00",
        "C7x6o0Basw00C7x6o0Bb5uo0C7k800Bb5uo0C7k800Bb5uo0C7k800Bb5uo0C7x6o0Basw00C7x6o0Basw00C7",
        "x6o0Bb5uo0C7k800Bb5uo0C7k800Bb5uo0C7x6o0Basw00C7x6o0Basw00C7x6o0Basw00C7x6o0D8h8w0Bleo",
        "g0C7k800Bb5uo0C7x6o0Basw00C7x6o0Basw00C7x6o0Bb5uo0C7k800Bb5uo0C7k800Bb5uo0C7x6o0Basw00",
        "C7x6o0Basw00C7x6o0Basw00C7x6o0Bb5uo0C7k800Bb5uo0C7k800Bb5uo0C7x6o0Basw00C7x6o0Basw00C7",
        "x6o0Bb5uo0C7k800Bb5uo0C7k800Bb5uo0C7k800Bb5uo0C7x6o0Basw00C7x6o0Basw00"]⟩,
    ⟨"Asia/Gaza", [⟨138, false⟩, ⟨120, false⟩, ⟨180, true⟩],
      ["B0Ck2owzkB69xc0C2f1c0B10q800C7rmo0Bb0ao0C7thc0Bb0ao0C8jeo0Ba8io0C8jeo0Ba8io0C5hoig0B7e",
        "l80Cawo40B7v980Cawqw0B7tk40Cb07w0B7tk40Cayd80B7tk40Cayd80B7tk40Cayd80B7tk40Cb07w0B7tk4",
        "0Cayd80B7tk40Cayd80B7ves0Cawik0B1sns0C3p6is0B51ek0C9q2s0B6u7w0C2kjk40B25s00C1weyo0B5re",
        "o0Cbvs00B776k0Cdbpg0B5rbw0Cbbhg0B7rjw0Casys0B7k580Cc8tg0B6h980Cag040B7x3w0Casys0B8a2k0",
        "Casys0B8a2k0Cap9g0B80t80Cap9g0B7nuk0Cb2840B80t80B66as0C4vxc0B8n400Ca2yo0B8n400Ca2yo0B8",
        "n400Casw00B9cyk0C9q2s0B9cyk0C9d440B9cyk0C9d440B9cyk0C9d440B9cyk0C9d440B8n400Ca2yo0B8ul",
        "g0C97ek0B8y580C9ts40B8hms0Ca4qk0B7x3w0Casys0B8a5c0Cahs1oB71micCbzk5oB69uicCcg840B902o0",
        "C9q000B9cyk0C9d440Bast80C7z440Bar1c0C7z440Bb5rw0C7kas0Bb5rw0C7kas0Bb5rw0C7vc00Baunw0C7",
        "x9g0Basw00C7x6o0Bb4000C7nxc0Bb42s0C9d440B9cyk0C905g0B9px80C8n6s0Ba2vw0C7x9g0Bast80C7x9",
        "g0Bb5rw0C7kas0Bb5rw0C7kas0Bb5rw0C7x9g0Bast80C7x9g0Bast80C7x9g0Bb5rw0C7kas0Bb5rw0C7kas0",
        "Bb5rw0C7kas0Bb5rw0C7x9g0Bafuk0C8a840Ba2vw0"]⟩,
    ⟨"Asia/Hebron", [⟨140, false⟩, ⟨120, false⟩, ⟨180, true⟩],
      ["B0Ck2owzkB69xc0C2f1c0B10q800C7rmo0Bb0ao0C7thc0Bb0ao0C8jeo0Ba8io0C8jeo0Ba8io0C5hoig0B7e",
        "l80Cawo40B7v980Cawqw0B7tk40Cb07w0B7tk40Cayd80B7tk40Cayd80B7tk40Cayd80B7tk40Cb07w0B7tk4",
        "0Cayd80B7tk40Cayd80B7ves0Cawik0B1sns0C3p6is0B51ek0C9q2s0B6u7w0C2kjk40B25s00C1weyo0B5re",
        "o0Cbvs00B776k0Cdbpg0B5rbw0Cbbhg0B7rjw0Casys0B7k580Cc8tg0B6h980Cag040B7x3w0Casys0B8a2k0",
        "Casys0B8a2k0Cap9g0B80t80Cap9g0B7nuk0Cb2840B80t80B66as0C4vxc0B8n400Ca2yo0B8n400Ca2yo0B8",
        "n400Casw00B9cyk0C9q2s0B9cyk0C9d440B9cyk0C9d440B9cyk0C9d440B9cyk0C9d440B8n400Ca2yo0B8ul",
        "g0C97ek0B8y580C9ts40B8hms0Ca4qk0B82nw0Canes0B8a5c0Cafxc0B73h80Cbzk5oB69uicC1hs40B1lbw0",
        "C9d440B902o0C9q000B9cyk0C9d440Bast80C7z440Bar1c0C7z440Bb5rw0C7kas0Bb5rw0C7kas0Bb5rw0C7",
        "vc00Baunw0C7x9g0Basw00C7x6o0Bb4000C7nxc0Bb42s0C9d440B9cyk0C905g0B9px80C8n6s0Ba2vw0C7x9",
        "g0Bast80C7x9g0Bb5rw0C7kas0Bb5rw0C7kas0Bb5rw0C7x9g0Bast80C7x9g0Bast80C7x9g0Bb5rw0C7kas0",
        "Bb5rw0C7kas0Bb5rw0C7kas0Bb5rw0C7x9g0Bafuk0C8a840Ba2vw0"]⟩,
    ⟨"Asia/Ho_Chi_Minh", [⟨427, false⟩, ⟨420, false⟩, ⟨480, false⟩, ⟨540, false⟩],
      ["A2ddrwqB2isio0Cgj25iuD15ct80B8so00Ctmtk0B4azmo0C2cm7w0B8285c0Bwo9b7j"]⟩,
    ⟨"Asia/Hong_Kong", [⟨457, false⟩, ⟨480, false⟩, ⟨540, true⟩, ⟨510, true⟩, ⟨540, false⟩],
      ["B1i207kCj44dk0D5k000E4d4y0B2195i0C7x3w0Bbj320C6uao0Bbvs00C7x6o0B9d1c0C7x6o0Basw00C7x6o",
        "0Basw00C7x6o0Basw00C8a5c0Basw00C7x6o0Bast80C77c40Bbiqk0C77c40Bbvp80C6udg0Bbvp80C77c40B",
        "biqk0C77c40Bbiqk0C77c40Bbiqk0C77c40Bbvp80C6udg0Bbvp80C6udg0Bbvp80C77c40Bbiqk0C77c40Bbi",
        "qk0C8n6s0B9cyk0C9d440B9cyk0C9d440B9px80C9d440B9cyk0C9d440B9cyk0C9d440B9cyk0C9d440B9cyk",
        "0C9d440B9px80C9d440B9cyk0C3lpg0Bf4d80C9d440B9cyk0C9d440B9cyk0C1c9440B8a2k0"]⟩,
    ⟨"Asia/Hovd", [⟨367, false⟩, ⟨360, false⟩, ⟨420, false⟩, ⟨480, true⟩],
      ["B1w7c0kC11sncb0D2qk2k0C9et80D9eys0C9cyk0D9d440C9cyk0D9d440C9cyk0D9d440C9cyk0D9d440C9cy",
        "k0D9d440C9cyk0D9d440C9px80D9d440C9cyk0D9d440C9cyk0D9d440C9cyk0D9d440C9cyk0D9d440C9cyk0",
        "D9q2s0C9cyk0D9d440C9cyk0D9d440C9cyk0D1ckdo0C7x3w0D9d440C9cyk0D9d440C9cyk0D9d440C9cyk0D",
        "9d440C9cyk0D9d440C9px80D4fio40C9ct00D9d9o0C9ct00Cb4l8jj"]⟩,
    ⟨"Asia/Irkutsk",
      [⟨417, false⟩, ⟨420, false⟩, ⟨480, false⟩, ⟨540, true⟩, ⟨480, true⟩, ⟨540, false⟩],
      ["A0B9gbkcfC5fh175Dqi27w0C9et80D9d440C9et80D9d440C9et80D9eys0C9d6w0D9d1c0C9d1c0D9d1c0C9d",
        "1c0D9d1c0C9d1c0D9d1c0C9d1c0D9d1c0C9d1c0D9d1c0C9q000E9d1c0B9d440C5reo0D3ljw0C9d1c0D9d1c",
        "0C9d1c0D9d1c0C9d1c0D9d1c0C9d1c0D9q000Casw00D7x6o0Casw00D7x6o0Casw00D7x6o0Cb5uo0D7k800C",
        "b5uo0D7k800Cb5uo0D7x6o0Casw00D7x6o0Casw00D7x6o0Cb5uo0D7k800Cb5uo0D7k800Cb5uo0D7k800Cb5",
        "uo0D7x6o0Casw00D7x6o0Casw00D7x6o0Cb5uo0F7k800C1vbzw0Cc4jlrj"]⟩,
    ⟨"Asia/Jakarta",
      [⟨427, false⟩, ⟨440, false⟩, ⟨450, false⟩, ⟨540, false⟩, ⟨480, false⟩, ⟨420, false⟩],
      ["A0Bbi8na8C4lzxc0D4wdzjcC1tu960E1cx860C11jta0F74uc20"]⟩,
    ⟨"Asia/Jayapura", [⟨563, false⟩, ⟨540, false⟩, ⟨570, false⟩],
      ["Bg48exkC66bqe0Ba37vy0"]⟩,
    ⟨"Asia/Jerusalem", [⟨141, false⟩, ⟨120, false⟩, ⟨180, true⟩, ⟨240, true⟩],
      ["A0B8djmh4Cbp5aigB69xc0C2f1c0B10q800C7rmo0Bb0ao0C7thc0Bb0ao0C8jeo0Ba8io0C8jeo0Ba8io0Dt9",
        "pc0C571c0B34yo0C9b6o0B9gqo0C8jeo0B7thc0Ca6o00Bbitc0C8a5c0B9d1c0C902o0B7x6o0Ce1k00B4oio",
        "0Ce1k00B4oio0Cdolc0B64dc0Casw00B7k800C8rfeg0B51ek0C9q2s0B6u7w0C2kjk40B25s00C1weyo0B5re",
        "o0Cbvs00B776k0Cdbpg0B5rbw0Cbbhg0B7rjw0Casys0B7k580Cc8tg0B6h980Cag040B7x3w0Casys0B8a2k0",
        "Casys0B8a2k0Cap9g0B80t80Cap9g0B7nuk0Cb2840B80t80C9zc40B9iik0C9kis0B93p80C9mdg0B8qqk0Ca",
        "pf00B7x3w0Cbiw40B8zx40C9io40B8n180C9kis0B9vh80C8ulg0B9px80C9mdg0B8n180C9tuw0B9tmk0C8wg",
        "40B9gnw0C99es0B8qqk0C9zc40B9tmk0C8wg40B9gnw0C99es0B8qqk0Cacas0B9gnw0C99es0B93p80C9mdg0",
        "Bawik0C7tk40Bawik0C7tk40Bawik0C7tk40Bb9h80C7glg0Bb9h80C7glg0Bb9h80C7tk40Bawik0C7tk40Ba",
        "wik0C7tk40Bb9h80C7glg0Bb9h80C7glg0Bb9h80C7tk40Bawik0C7tk40Bawik0C7tk40Bawik0C7tk40Bb9h",
        "80C7glg0Bb9h80C7glg0Bb9h80C7tk40Bawik0C7tk40Bawik0C7tk40Bb9h80C7glg0Bb9h80C7glg0Bb9h80",
        "C7glg0Bb9h80C7tk40Bawik0C7tk40Bawik0"]⟩,
    ⟨"Asia/Kabul", [⟨277, false⟩, ⟨240, false⟩, ⟨270, false⟩],
      ["B0CmgugjkC1ck9lfj"]⟩,
    ⟨"Asia/Kamchatka", [⟨635, false⟩, ⟨660, false⟩, ⟨720, false⟩, ⟨780, true⟩, ⟨720, true⟩],
      ["Baws69wC3z045oDqi27w0C9et80D9d440C9et80D9d440C9et80D9eys0C9d6w0D9d1c0C9d1c0D9d1c0C9d1c",
        "0D9d1c0C9d1c0D9d1c0C9d1c0D9d1c0C9d1c0D9d1c0C9q000E9d1c0B9d440C5reo0D3ljw0C9d1c0D9d1c0C",
        "9d1c0D9d1c0C9d1c0D9d1c0C9d1c0D9q000Casw00D7x6o0Casw00D7x6o0Casw00D7x6o0Cb5uo0D7k800Cb5",
        "uo0D7k800Cb5uo0D7x6o0Casw00D7x6o0Casw00D7x6o0Cb5uo0D7k800Cb5uo0D7k800Cb5uo0D7k800Cb5uo",
        "0D7x6o0Casw00D7x6o0Casw00E7x6o0Bb5xg0C7k800Cdzvtzj"]⟩,
    ⟨"Asia/Karachi", [⟨268, false⟩, ⟨330, false⟩, ⟨390, true⟩, ⟨300, false⟩, ⟨360, true⟩],
      ["B2mupwkCim3zt0B1mn180D33xpg0Da63o20Eg72qo0D9cyk0E2y85g0D7v980E8hms0Daaak0"]⟩,
    ⟨"Asia/Kathmandu", [⟨341, false⟩, ⟨330, false⟩, ⟨345, false⟩],
      ["B9f37usCyg2lusCr5y89j"]⟩,
    ⟨"Asia/Khandyga",
      [⟨542, false⟩, ⟨480, false⟩, ⟨540, false⟩, ⟨600, true⟩, ⟨540, true⟩, ⟨600, false⟩,
        ⟨660, true⟩, ⟨660, false⟩],
      ["B9e7h7vC5hl1jpDqi27w0C9et80D9d440C9et80D9d440C9et80D9eys0C9d6w0D9d1c0C9d1c0D9d1c0C9d1c",
        "0D9d1c0C9d1c0D9d1c0C9d1c0D9d1c0C9d1c0D9d1c0C9q000E9d1c0B9d440C5reo0D3ljw0C9d1c0D9d1c0C",
        "9d1c0D9d1c0C9d1c0D9d1c0C9d1c0D9q000Casw00D7x6o0Casw00D7x6o0Casw00D7x6o0Cb5uo0D7k800Cb5",
        "uo0D7k800Cb5uo0D7x6o0Casw00D7x6o0Casw00F3fx40G4h6s0Fb5uo0G7k800Fb5uo0G7k800Fb5uo0G7k80",
        "0Fb5uo0G7x6o0Fasw00G7x6o0Fasw00G7x6o0Fb5uo0H7k800F8ql00C1mlho0Cc4jojj"]⟩,
    ⟨"Asia/Kolkata", [⟨353, false⟩, ⟨321, false⟩, ⟨330, false⟩, ⟨390, true⟩],
      ["B0C242q4aDinnm9aCbmfw0D5lxg0C1mn180"]⟩,
    ⟨"Asia/Krasnoyarsk",
      [⟨371, false⟩, ⟨360, false⟩, ⟨420, false⟩, ⟨480, true⟩, ⟨420, true⟩, ⟨480, false⟩],
      ["B9fcfsiC5gg8j2Dqi27w0C9et80D9d440C9et80D9d440C9et80D9eys0C9d6w0D9d1c0C9d1c0D9d1c0C9d1c",
        "0D9d1c0C9d1c0D9d1c0C9d1c0D9d1c0C9d1c0D9d1c0C9q000E9d1c0B9d440C5reo0D3ljw0C9d1c0D9d1c0C",
        "9d1c0D9d1c0C9d1c0D9d1c0C9d1c0D9q000Casw00D7x6o0Casw00D7x6o0Casw00D7x6o0Cb5uo0D7k800Cb5",
        "uo0D7k800Cb5uo0D7x6o0Casw00D7x6o0Casw00D7x6o0Cb5uo0D7k800Cb5uo0D7k800Cb5uo0D7k800Cb5uo",
        "0D7x6o0Casw00D7x6o0Casw00D7x6o0Cb5uo0F7k800C1vbzw0Cc4jizj"]⟩,
    ⟨"Asia/Kuala_Lumpur",
      [⟨407, false⟩, ⟨415, false⟩, ⟨420, false⟩, ⟨440, true⟩, ⟨440, false⟩, ⟨450, false⟩,
        ⟨540, false⟩, ⟨480, false⟩],
      ["B0C1t2b37Deeb94dE1kbr2oF2yhc00G8n3jcF1v2p60Hiy3ms0Ht93z7j"]⟩,
    ⟨"Asia/Kuching", [⟨441, false⟩, ⟨450, false⟩, ⟨480, false⟩, ⟨500, true⟩, ⟨540, false⟩],
      ["Bcmvlw0C3khwxkD1epvy0C4ohqoDe5a9cC4ohqoDe3flcC4ohqoDe3flcC4ohqoDe3flcC4ohqoDe5a9cC4ohq",
        "oDe3flcC4ohqoE3ajlcC1v2qk0C1c77lzj"]⟩,
    ⟨"Asia/Kuwait", [⟨192, false⟩, ⟨180, false⟩],
      ["Bp2s03oB19yc1vf"]⟩,
    ⟨"Asia/Macau", [⟨454, false⟩, ⟨480, false⟩, ⟨540, false⟩, ⟨600, true⟩, ⟨540, true⟩],
      ["B1i1ymmCjdvyoyD6onw0Cac580D8fs40C7v980B11luw0Eawlc0B7vc00Eac800Bbko00E7x6o0B9d1c0E7vc0",
        "0Basw00E7x6o0Basw00E7x6o0Bauqo0E88ao0Basw00E7x6o0Basw00E779c0Bbitc0E779c0Bbvs00E6uao0B",
        "bw1q0E77c40Bbiqk0E77c40Bbiqk0E77c40Bbiqk0E77c40Bbvp80E6udg0Bbvp80E6udg0Bbvp80E77c40Bbi",
        "qk0E77c40Bbiqk0E8n6s0B9cvs0E9d6w0B9cvs0E9d6w0B9px80E9d440B9cyk0E9d440B9cyk0E9d440B9cyk",
        "0E9d440B9cyk0E9d440B9px80E9d440B9cyk0E3lpg0Bf4d80E9d440B9cyk0E9d440B9cyk0E1c9440B8a2k0"]⟩,
    ⟨"Asia/Magadan",
      [⟨603, false⟩, ⟨600, false⟩, ⟨660, false⟩, ⟨720, true⟩, ⟨660, true⟩, ⟨720, false⟩],
      ["Bboid28C37a05cDqi27w0C9et80D9d440C9et80D9d440C9et80D9eys0C9d6w0D9d1c0C9d1c0D9d1c0C9d1c",
        "0D9d1c0C9d1c0D9d1c0C9d1c0D9d1c0C9d1c0D9d1c0C9q000E9d1c0B9d440C5reo0D3ljw0C9d1c0D9d1c0C",
        "9d1c0D9d1c0C9d1c0D9d1c0C9d1c0D9q000Casw00D7x6o0Casw00D7x6o0Casw00D7x6o0Cb5uo0D7k800Cb5",
        "uo0D7k800Cb5uo0D7x6o0Casw00D7x6o0Casw00D7x6o0Cb5uo0D7k800Cb5uo0D7k800Cb5uo0D7k800Cb5uo",
        "0D7x6o0Casw00D7x6o0Casw00D7x6o0Cb5uo0F7k800B1vbzw0Cs39k0Cbcgkjj"]⟩,
    ⟨"Asia/Makassar", [⟨478, false⟩, ⟨480, false⟩, ⟨540, false⟩],
      ["A9f31jkB6p5hc0C4u87w0B1w02k0"]⟩,
    ⟨"Asia/Manila", [⟨-956, false⟩, ⟨480, false⟩, ⟨540, true⟩, ⟨540, false⟩],
      ["B0Ci7e2rkB3wnw0C2kc5g0D2zbw0C1leo00Bdzpc0C4d3ms0B2rx80Cbwlpg0B95jw0C6lv1g0B3jp80"]⟩,
    ⟨"Asia/Muscat", [⟨234, false⟩, ⟨240, false⟩],
      ["B9f3cswB1pm0p67"]⟩,
    ⟨"Asia/Nicosia", [⟨133, false⟩, ⟨120, false⟩, ⟨180, true⟩],
      ["Bae8at4CrvhxygB9cyk0Cb42s0B7nuk0C8yas0B8zzw0C9q2s0B9et80C9b9g0B9cyk0C9q2s0B8zzw0C9d440",
        "B9cyk0C9d440B9cyk0C9d440B9cyk0C9d440B9px80C9d440B9cyk0C9d440B9cyk0C9d440B9cyk0C9d440B9",
        "cyk0C9d440B9cyk0C9d440B9px80C9d440B9cyk0C9d440B9cyk0C9d440B9cyk0C9d440B9cyk0C9d440B9cy",
        "k0C9q2s0B9cyk0C9d440B9cyk0C9d440Bat4c0C7x6o0Bb5uo0C7k800Bb5uo0C7k800Bb5uo0C7x6o0Basw00",
        "C7x6o0Basw00C7x6o0Bb5uo0C7k800Bb5uo0C7k800Bb5uo0C7k800Bb5uo0C7x6o0Basw00C7x6o0Basw00C7",
        "x6o0Bb5uo0C7k800Bb5uo0C7k800Bb5uo0C7x6o0Basw00C7x6o0Basw00C7x6o0Basw00C7x6o0Bb5uo0C7k8",
        "00Bb5uo0C7k800Bb5uo0C7x6o0Basw00C7x6o0Basw00C7x6o0Bb5uo0C7k800Bb5uo0C7k800Bb5uo0C7x6o0",
        "Basw00C7x6o0Basw00C7x6o0Basw00C7x6o0Bb5uo0C7k800Bb5uo0C7k800Bb5uo0C7x6o0Basw00C7x6o0Ba",
        "sw00C7x6o0Bb5uo0C7k800Bb5uo0C7k800Bb5uo0C7k800Bb5uo0C7x6o0Basw00C7x6o0Basw00"]⟩,
    ⟨"Asia/Novokuznetsk", [⟨349, false⟩, ⟨360, false⟩, ⟨420, false⟩, ⟨480, true⟩, ⟨420, true⟩],
      ["Bbogu68C37bu5cDqi27w0C9et80D9d440C9et80D9d440C9et80D9eys0C9d6w0D9d1c0C9d1c0D9d1c0C9d1c",
        "0D9d1c0C9d1c0D9d1c0C9d1c0D9d1c0C9d1c0D9d1c0C9q000E9d1c0B9d440C5reo0D3ljw0C9d1c0D9d1c0C",
        "9d1c0D9d1c0C9d1c0D9d1c0C9d1c0D9q000Casw00D7x6o0Casw00D7x6o0Casw00D7x6o0Cb5uo0D7k800Cb5",
        "uo0D7k800Cb5uo0D7x6o0Casw00D7x6o0Casw00D7x6o0Cb5uo0D7k800Cb5uo0D7k800Cb5uo0D7k800Cb5uo",
        "0D7x6o0Casw00D7x6o0Casw00E7x6o0Bb5xg0C7k800Cdzvg3j"]⟩,
    ⟨"Asia/Novosibirsk", [⟨332, false⟩, ⟨360, false⟩, ⟨420, false⟩, ⟨480, true⟩, ⟨420, true⟩],
      ["B9e6cysC5hmbcsDqi27w0C9et80D9d440C9et80D9d440C9et80D9eys0C9d6w0D9d1c0C9d1c0D9d1c0C9d1c",
        "0D9d1c0C9d1c0D9d1c0C9d1c0D9d1c0C9d1c0D9d1c0C9q000E9d1c0B9d440C5reo0D3ljw0C9d1c0D9d1c0E",
        "2vh00B6hn40E9d1c0B9d1c0E9d1c0B9d1c0E9q000Basw00E7x6o0Basw00E7x6o0Basw00E7x6o0Bb5uo0E7k",
        "800Bb5uo0E7k800Bb5uo0E7x6o0Basw00E7x6o0Basw00E7x6o0Bb5uo0E7k800Bb5uo0E7k800Bb5uo0E7k80",
        "0Bb5uo0E7x6o0Basw00E7x6o0Basw00E7x6o0Bb5uo0C7k800B1vbzw0Cwrpg0Cb7rqrj"]⟩,
    ⟨"Asia/Omsk",
      [⟨294, false⟩, ⟨300, false⟩, ⟨360, false⟩, ⟨420, true⟩, ⟨360, true⟩, ⟨420, false⟩],
      ["B9cme2eC5j6d16Dqi27w0C9et80D9d440C9et80D9d440C9et80D9eys0C9d6w0D9d1c0C9d1c0D9d1c0C9d1c",
        "0D9d1c0C9d1c0D9d1c0C9d1c0D9d1c0C9d1c0D9d1c0C9q000E9d1c0B9d440C5reo0D3ljw0C9d1c0D9d1c0C",
        "9d1c0D9d1c0C9d1c0D9d1c0C9d1c0D9q000Casw00D7x6o0Casw00D7x6o0Casw00D7x6o0Cb5uo0D7k800Cb5",
        "uo0D7k800Cb5uo0D7x6o0Casw00D7x6o0Casw00D7x6o0Cb5uo0D7k800Cb5uo0D7k800Cb5uo0D7k800Cb5uo",
        "0D7x6o0Casw00D7x6o0Casw00D7x6o0Cb5uo0F7k800C1vbzw0Cc4jg7j"]⟩,
    ⟨"Asia/Oral",
      [⟨205, false⟩, ⟨180, false⟩, ⟨300, false⟩, ⟨360, true⟩, ⟨360, false⟩, ⟨300, true⟩,
        ⟨240, false⟩],
      ["Bboivh8C37a16cDqi2540E9et80D9d1c0C9ew00D9d440C9et80D9eys0C9d6w0D9d1c0C9d1c0D9d1c0C9d1c",
        "0D9d1c0C9d1c0D9d1c0C9d1c0F9d1c0G9d440F9d1c0G9q000F9d1c0G9d1c0C5reo0F3ljw0G9d440F9d1c0G",
        "9d1c0F9d1c0G9d1c0F9d1c0G9d1c0F9q000Gasw00F7x6o0Gasw00F7x6o0Gasw00F7x6o0Gb5uo0F7k800Gb5",
        "uo0F7k800Gb5uo0F7x6o0Gasw00F7x6o0Gasw00F7x6o0Cb5uo0Chc4x7j"]⟩,
    ⟨"Asia/Phnom_Penh", [⟨420, false⟩, ⟨427, false⟩, ⟨480, false⟩, ⟨540, false⟩],
      ["B2dds84A2isicmCgj25iuD15ct80A8so00A1c7q4nj"]⟩,
    ⟨"Asia/Pontianak", [⟨437, false⟩, ⟨450, false⟩, ⟨540, false⟩, ⟨480, false⟩, ⟨420, false⟩],
      ["A3bui2oBcse2o0C4tnu2wB1wkei0D1cx860B11jta0D74uc20Ecixam0"]⟩,
    ⟨"Asia/Pyongyang", [⟨503, false⟩, ⟨510, false⟩, ⟨540, false⟩],
      ["B3aav18C1yh10cChk5da0B10ipmo0C1f4qo0"]⟩,
    ⟨"Asia/Qatar", [⟨206, false⟩, ⟨240, false⟩, ⟨180, false⟩],
      ["B9f3e40CrctnrkCy9703j"]⟩,
    ⟨"Asia/Qostanay",
      [⟨254, false⟩, ⟨240, false⟩, ⟨300, false⟩, ⟨360, true⟩, ⟨360, false⟩, ⟨300, true⟩],
      ["Bboit7gC37a0o4Dqi27w0E9et80D9d1c0C9ew00D9d440C9et80D9eys0C9d6w0D9d1c0C9d1c0D9d1c0C9d1c",
        "0D9d1c0C9d1c0D9d1c0C9d1c0D9d1c0C9d1c0D9d1c0C9q000F9d1c0B9d440C5reo0D3ljw0C9d1c0D9d1c0C",
        "9d1c0D9d1c0C9d1c0D9d1c0C9d1c0D9q000Casw00D7x6o0Casw00D7x6o0Casw00D7x6o0Cb5uo0D7k800Cb5",
        "uo0D7k800Cb5uo0D7x6o0Casw00D7x6o0Casw00D7x6o0Eb5uo0Ca37p00C78xazj"]⟩,
    ⟨"Asia/Qyzylorda", [⟨262, false⟩, ⟨240, false⟩, ⟨300, false⟩, ⟨360, true⟩, ⟨360, false⟩],
      ["Bboisv4C37a10gDqi27w0E9et80D9d1c0C9ew00D9d440C9et80D9eys0C9d6w0D9d1c0C9d1c0D9d1c0C9d1c",
        "0D9d1c0C9d1c0D9d1c0C9d1c0D9d1c0C9d1c0D9d1c0C9q000C9d1c0C9d440E5rbw0D3ljw0C9d440D9d1c0C",
        "9d1c0D9d1c0C9d1c0D9d1c0C9d1c0D9q000Casw00D7x6o0Casw00D7x6o0Casw00D7x6o0Cb5uo0D7k800Cb5",
        "uo0D7k800Cb5uo0D7x6o0Casw00D7x6o0Casw00D7x6o0Eb5uo0C7dmqc0C9yi9nj"]⟩,
    ⟨"Asia/Riyadh", [⟨187, false⟩, ⟨180, false⟩],
      ["Bnm3po4B1bf0caz"]⟩,
    ⟨"Asia/Sakhalin",
      [⟨571, false⟩, ⟨540, false⟩, ⟨660, false⟩, ⟨720, true⟩, ⟨660, true⟩, ⟨600, false⟩],
      ["B1xbt88CkvnarcDikvh40C9et80D9d440C9et80D9d440C9et80D9eys0C9d6w0D9d1c0C9d1c0D9d1c0C9d1c",
        "0D9d1c0C9d1c0D9d1c0C9d1c0D9d1c0C9d1c0D9d1c0C9q000E9d1c0F9d440C5reo0D3ljw0C9d1c0D9d1c0C",
        "9d1c0D9d1c0C9d1c0D9d1c0C9d1c0D9q000Casw00E7x6o0Fasys0E7x6o0Fasw00E7x6o0Fb5uo0E7k800Fb5",
        "uo0E7k800Fb5uo0E7x6o0Fasw00E7x6o0Fasw00E7x6o0Fb5uo0E7k800Fb5uo0E7k800Fb5uo0E7k800Fb5uo",
        "0E7x6o0Fasw00E7x6o0Fasw00E7x6o0Fb5uo0C7k800F1vbzw0Cqnc40Cbdwf7j"]⟩,
    ⟨"Asia/Samarkand", [⟨268, false⟩, ⟨240, false⟩, ⟨300, false⟩, ⟨360, true⟩, ⟨360, false⟩],
      ["Bboisl3C37a1ahDqi27w0E9et80D9d1c0C9ew00D9d440C9et80D9eys0C9d6w0D9d1c0C9d1c0D9d1c0C9d1c",
        "0D9d1c0C9d1c0D9d1c0C9d1c0D9d1c0C9d1c0D9d1c0C9q000D9d1c0C9d1c0Co62pbj"]⟩,
    ⟨"Asia/Seoul", [⟨508, false⟩, ⟨510, false⟩, ⟨540, false⟩, ⟨600, true⟩, ⟨570, true⟩],
      ["B3aaut4C1yh18gChkx5a0D1faao0C5cik0Dae5g0C8a2k0Dae5g0C8bx80Dc8tg0C6h980B1bj6s0El3aq0B6j",
        "3w0Ed2g40B6u7w0Eb5xg0B776k0Ebiw40B776k0Ebiw40B776k0Ebiw40B776k0Cgrs40Ddfqxi0C7x6o0Dasw",
        "00C7x6o0"]⟩,
    ⟨"Asia/Shanghai", [⟨486, false⟩, ⟨480, false⟩, ⟨540, true⟩],
      ["B0C91k03kB8sl80Casbpg0B6w2k0C7ves0Bbxjw0C4mqs0B1vduk0Cd4as0B75bw0Ca31g0Baaak0C9d440B7v",
        "980Cawo40B1dx80Cj9xpo0B6u7w0Casys0B7x3w0Cb5xg0B7k580Cb5xg0B7x3w0Casys0B7x3w0Casys0B7x3",
        "w0"]⟩,
    ⟨"Asia/Singapore",
      [⟨415, false⟩, ⟨420, false⟩, ⟨440, true⟩, ⟨440, false⟩, ⟨450, false⟩, ⟨540, false⟩,
        ⟨480, false⟩],
      ["A0B1t2b37Ceeb94dD1kbr2oE2yhc00F8n3jcE1v2p60Giy3ms0Gt93z7j"]⟩,
    ⟨"Asia/Srednekolymsk",
      [⟨615, false⟩, ⟨600, false⟩, ⟨660, false⟩, ⟨720, true⟩, ⟨660, true⟩, ⟨720, false⟩],
      ["BboicisC37a0osDqi27w0C9et80D9d440C9et80D9d440C9et80D9eys0C9d6w0D9d1c0C9d1c0D9d1c0C9d1c",
        "0D9d1c0C9d1c0D9d1c0C9d1c0D9d1c0C9d1c0D9d1c0C9q000E9d1c0B9d440C5reo0D3ljw0C9d1c0D9d1c0C",
        "9d1c0D9d1c0C9d1c0D9d1c0C9d1c0D9q000Casw00D7x6o0Casw00D7x6o0Casw00D7x6o0Cb5uo0D7k800Cb5",
        "uo0D7k800Cb5uo0D7x6o0Casw00D7x6o0Casw00D7x6o0Cb5uo0D7k800Cb5uo0D7k800Cb5uo0D7k800Cb5uo",
        "0D7x6o0Casw00D7x6o0Casw00D7x6o0Cb5uo0F7k800C1vbzw0Cc4ju3j"]⟩,
    ⟨"Asia/Taipei", [⟨486, false⟩, ⟨480, false⟩, ⟨540, false⟩, ⟨540, true⟩],
      ["B0CioklfkB45slc0Dc51c0B75bw0Da31g0Baaak0D9d440B7v980Dawo40B7v980Dawo40B7v980Dawo40B7v9",
        "80D7tk40Bclmk0D7rpg0Bb07w0D7rpg0Bb07w0D7rpg0B9et80D9eys0B9et80D9d440B9et80D9d440B9et80",
        "D9d440B9et80Dcjxg0B69uk0Dci2s0B69uk0D6its40B9et80D9d440B9et80D1yf9g0B4qak0"]⟩,
    ⟨"Asia/Tashkent", [⟨277, false⟩, ⟨300, false⟩, ⟨360, false⟩, ⟨420, true⟩, ⟨360, true⟩],
      ["Bbois5lC379yxzDqi27w0C9et80D9d440C9et80D9d440C9et80D9eys0C9d6w0D9d1c0C9d1c0D9d1c0C9d1c",
        "0D9d1c0C9d1c0D9d1c0C9d1c0D9d1c0C9d1c0D9d1c0C9q000E9d1c0B9d440Bo62pbj"]⟩,
    ⟨"Asia/Tbilisi", [⟨179, false⟩, ⟨180, false⟩, ⟨240, false⟩, ⟨300, true⟩, ⟨240, true⟩],
      ["A0BboiwoxCh4tjynDckinw0C9et80D9d440C9et80D9d440C9et80D9eys0C9d6w0D9d1c0C9d1c0D9d1c0C9d",
        "1c0D9d1c0C9d1c0D9d1c0C9d1c0D9d1c0C9d1c0D9d1c0C9q000E9d1c0B9d440E9cvs0B9cyk0E9d440B9cyk",
        "0E9d440C9cyk0D9d1c0C9cyk0D9q2s0Dipzw0Casw00D7x9g0Cast80D7x9g0Cb5rw0D7kas0Cb5rw0D7kas0C",
        "b5rw0D7x9g0Cast80D7x9g0Cast80D7x9g0E4ofw0B6hn40C7k800Ch4kmfj"]⟩,
    ⟨"Asia/Tehran", [⟨206, false⟩, ⟨210, false⟩, ⟨270, true⟩, ⟨240, false⟩, ⟨300, true⟩],
      ["A7bxu4oBa5dpc0Clsvh0wDayg00E7z2q0D6uao0B51hc0Ca4uq0B5wvw0C9gtg0B9kd80C5ja5g0B7avw0C9d4",
        "40B9gnw0C9b9g0B9gnw0C9b9g0B9gnw0C9b9g0B9gnw0C9b9g0B9gnw0C9d440B9gnw0C9b9g0B9gnw0C9b9g0",
        "B9gnw0C9b9g0B9gnw0C9d440B9gnw0C9b9g0B9gnw0C9b9g0B9gnw0C9b9g0B9gnw0C9d440B9gnw0C1av440B",
        "9gnw0C9d440B9gnw0C9b9g0B9gnw0C9b9g0B9gnw0C9b9g0B9gnw0C9d440B9gnw0C9b9g0B9gnw0C9b9g0B9g",
        "nw0C9b9g0B9gnw0C9d440B9gnw0C9b9g0B9gnw0C9b9g0B9gnw0C9b9g0B9gnw0C9d440B9gnw0C9b9g0B9gnw",
        "0B7zz9hj"]⟩,
    ⟨"Asia/Thimphu", [⟨359, false⟩, ⟨330, false⟩, ⟨360, false⟩],
      ["Bnu0odwCkxymnoCq94qxj"]⟩,
    ⟨"Asia/Tokyo", [⟨559, false⟩, ⟨540, false⟩, ⟨600, true⟩],
      ["B0Co7frzkB6uao0Cafxc0B8a5c0Cc8qo0B6hc00Cc8qo0B6hc00"]⟩,
    ⟨"Asia/Tomsk", [⟨340, false⟩, ⟨360, false⟩, ⟨420, false⟩, ⟨480, true⟩, ⟨420, true⟩],
      ["B9ekp95C5h7z2fDqi27w0C9et80D9d440C9et80D9d440C9et80D9eys0C9d6w0D9d1c0C9d1c0D9d1c0C9d1c",
        "0D9d1c0C9d1c0D9d1c0C9d1c0D9d1c0C9d1c0D9d1c0C9q000E9d1c0B9d440C5reo0D3ljw0C9d1c0D9d1c0C",
        "9d1c0D9d1c0C9d1c0D9d1c0C9d1c0D9q000Casw00D7x6o0Casw00D7x6o0Casw00D7x6o0Cb5uo0D7k800Cb5",
        "uo0D7k800Cb5uo0D7x6o0E1leo0B97k40E7x6o0Basw00E7x6o0Bb5uo0E7k800Bb5uo0E7k800Bb5uo0E7k80",
        "0Bb5uo0E7x6o0Basw00E7x6o0Basw00E7x6o0Bb5uo0C7k800B1vbzw0Ctw040Cbang3j"]⟩,
    ⟨"Asia/Ulaanbaatar", [⟨428, false⟩, ⟨420, false⟩, ⟨480, false⟩, ⟨540, true⟩],
      ["B1w7970C11sncckD2qk2k0C9et80D9eys0C9cyk0D9d440C9cyk0D9d440C9cyk0D9d440C9cyk0D9d440C9cy",
        "k0D9d440C9cyk0D9d440C9px80D9d440C9cyk0D9d440C9cyk0D9d440C9cyk0D9d440C9cyk0D9d440C9cyk0",
        "D9q2s0C9cyk0D9d440C9cyk0D9d440C9cyk0D1ckdo0C7x3w0D9d440C9cyk0D9d440C9cyk0D9d440C9cyk0D",
        "9d440C9cyk0D9d440C9px80D4fio40C9ct00D9d9o0C9ct00Cb4lbbj"]⟩,
    ⟨"Asia/Urumqi", [⟨350, false⟩, ⟨360, false⟩],
      ["BdlebfoB1lfpqjf"]⟩,
    ⟨"Asia/Ust-Nera",
      [⟨573, false⟩, ⟨480, false⟩, ⟨540, false⟩, ⟨720, true⟩, ⟨660, false⟩, ⟨660, true⟩,
        ⟨600, false⟩, ⟨720, false⟩],
      ["B9e7fsqC5hl2yuDqi27w0E9eno0D9d440E9et80D9d440E9et80D9eys0E9d6w0D9d1c0E9d1c0D9d1c0E9d1c",
        "0D9d1c0E9d1c0D9d1c0E9d1c0D9d1c0E9d1c0D9d1c0E9q000F9d1c0G9d440E5reo0D3ljw0E9d1c0D9d1c0E",
        "9d1c0D9d1c0E9d1c0D9d1c0E9d1c0D9q000Easw00D7x6o0Easw00D7x6o0Easw00D7x6o0Eb5uo0D7k800Eb5",
        "uo0D7k800Eb5uo0D7x6o0Easw00D7x6o0Easw00D7x6o0Eb5uo0D7k800Eb5uo0D7k800Eb5uo0D7k800Eb5uo",
        "0D7x6o0Easw00D7x6o0Easw00D7x6o0Eb5uo0H7k800E8ql00G1mlho0Gc4jrbj"]⟩,
    ⟨"Asia/Vientiane", [⟨410, false⟩, ⟨427, false⟩, ⟨420, false⟩, ⟨480, false⟩, ⟨540, false⟩],
      ["B2ddsnkC2ishx6Dgj25iuE15ct80C8so00Dtmtk0C470yk0C1772cjj"]⟩,
    ⟨"Asia/Vladivostok",
      [⟨528, false⟩, ⟨540, false⟩, ⟨600, false⟩, ⟨660, true⟩, ⟨600, true⟩, ⟨660, false⟩],
      ["Bax1kkdC3yqvf7Dqi27w0C9et80D9d440C9et80D9d440C9et80D9eys0C9d6w0D9d1c0C9d1c0D9d1c0C9d1c",
        "0D9d1c0C9d1c0D9d1c0C9d1c0D9d1c0C9d1c0D9d1c0C9q000E9d1c0B9d440C5reo0D3ljw0C9d1c0D9d1c0C",
        "9d1c0D9d1c0C9d1c0D9d1c0C9d1c0D9q000Casw00D7x6o0Casw00D7x6o0Casw00D7x6o0Cb5uo0D7k800Cb5",
        "uo0D7k800Cb5uo0D7x6o0Casw00D7x6o0Casw00D7x6o0Cb5uo0D7k800Cb5uo0D7k800Cb5uo0D7k800Cb5uo",
        "0D7x6o0Casw00D7x6o0Casw00D7x6o0Cb5uo0F7k800C1vbzw0Cc4jrbj"]⟩,
    ⟨"Asia/Yakutsk",
      [⟨519, false⟩, ⟨480, false⟩, ⟨540, false⟩, ⟨600, true⟩, ⟨540, true⟩, ⟨600, false⟩],
      ["B9e7iamC5hl0gyDqi27w0C9et80D9d440C9et80D9d440C9et80D9eys0C9d6w0D9d1c0C9d1c0D9d1c0C9d1c",
        "0D9d1c0C9d1c0D9d1c0C9d1c0D9d1c0C9d1c0D9d1c0C9q000E9d1c0B9d440C5reo0D3ljw0C9d1c0D9d1c0C",
        "9d1c0D9d1c0C9d1c0D9d1c0C9d1c0D9q000Casw00D7x6o0Casw00D7x6o0Casw00D7x6o0Cb5uo0D7k800Cb5",
        "uo0D7k800Cb5uo0D7x6o0Casw00D7x6o0Casw00D7x6o0Cb5uo0D7k800Cb5uo0D7k800Cb5uo0D7k800Cb5uo",
        "0D7x6o0Casw00D7x6o0Casw00D7x6o0Cb5uo0F7k800C1vbzw0Cc4jojj"]⟩,
    ⟨"Asia/Yangon", [⟨385, false⟩, ⟨390, false⟩, ⟨540, false⟩],
      ["A0B9f35u9Cbnjp3bB1kh520B1ce01zj"]⟩,
    ⟨"Asia/Yekaterinburg",
      [⟨243, false⟩, ⟨225, false⟩, ⟨240, false⟩, ⟨300, false⟩, ⟨360, true⟩, ⟨300, true⟩,
        ⟨360, false⟩],
      ["B7lej3bC1kybx4D5pfyv5Eqi27w0D9et80E9d440D9et80E9d440D9et80E9eys0D9d6w0E9d1c0D9d1c0E9d1",
        "c0D9d1c0E9d1c0D9d1c0E9d1c0D9d1c0E9d1c0D9d1c0E9d1c0D9q000F9d1c0C9d440D5reo0E3ljw0D9d1c0",
        "E9d1c0D9d1c0E9d1c0D9d1c0E9d1c0D9d1c0E9q000Dasw00E7x6o0Dasw00E7x6o0Dasw00E7x6o0Db5uo0E7",
        "k800Db5uo0E7k800Db5uo0E7x6o0Dasw00E7x6o0Dasw00E7x6o0Db5uo0E7k800Db5uo0E7k800Db5uo0E7k8",
        "00Db5uo0E7x6o0Dasw00E7x6o0Dasw00E7x6o0Db5uo0G7k800D1vbzw0Dc4jdfj"]⟩,
    ⟨"Asia/Yerevan", [⟨178, false⟩, ⟨180, false⟩, ⟨240, false⟩, ⟨300, true⟩, ⟨240, true⟩],
      ["BboiwqwCh4tjwoDckinw0C9et80D9d440C9et80D9d440C9et80D9eys0C9d6w0D9d1c0C9d1c0D9d1c0C9d1c",
        "0D9d1c0C9d1c0D9d1c0C9d1c0D9d1c0C9d1c0D9d1c0C9q000E9d1c0B9d440E9d1c0B9d1c0E9d1c0B9d1c0E",
        "9d1c0B9d1c0E9d1c0C9d1c0Dsfzw0Casw00D7x6o0Casw00D7x6o0Cb5uo0D7k800Cb5uo0D7k800Cb5uo0D7x",
        "6o0Casw00D7x6o0Casw00D7x6o0Cb5uo0D7k800Cb5uo0D7k800Cb5uo0D7k800Cb5uo0D7x6o0Casw00D7x6o",
        "0Casw00D7x6o0Cb5uo0D7k800Cb5uo0Cdopfvj"]⟩]

end CivilTime.Gazetteer
