import CivilTime.Zone.Gazetteer.Entry

/-!
# The African zones

* `Gazetteer.africa`: name, regimes and changes of each zone, in the order of the names.
-/

namespace CivilTime.Gazetteer

/-- The African zones. -/
def africa : List Entry :=
  [
    ⟨"Africa/Abidjan", [⟨-16, false⟩, ⟨0, false⟩],
      ["B58skeg"]⟩,
    ⟨"Africa/Accra", [⟨-1, false⟩, ⟨0, false⟩, ⟨20, true⟩, ⟨30, false⟩, ⟨30, true⟩],
      ["B78uzp0C24aamkB1yhyoCcjvlcB69weoCci0xcB69weoCci0xcB69weoCci0xcB69weoCcjvlcB69weoCci0xc",
        "B69weoCci0xcB69weoCci0xcB69weoCcjvlcB69weoCci0xcB69weoCci0xcB69weoCci0xcB69weoCcjvlcB6",
        "9weoCci0xcB69weoCci0xcB69weoCci0xcB69weoCcjvlcB69weoCci0xcB69weoCci0xcB69weoCci0xcB69w",
        "eoC683lcBcloeoC668xcBcloeoD1y8pcB21gem0E2fehm0B69vy0Eci1e0B69vy0Ecjw20B69vy0Eci1e0B69v",
        "y0Eci1e0B69vy0Eci1e0B69vy0"]⟩,
    ⟨"Africa/Addis_Ababa", [⟨155, false⟩, ⟨180, false⟩],
      ["A0Bhy55so"]⟩,
    ⟨"Africa/Algiers",
      [⟨12, false⟩, ⟨9, false⟩, ⟨0, false⟩, ⟨60, true⟩, ⟨60, false⟩, ⟨120, true⟩],
      ["B0C4tkdvzD2qx1nlC5luo0D8y800Ca4tc0D7vc00Cauqo0D7idc0Cb7pc0D6sg00Ccyo00D7ayo0C53c00D9id",
        "xc0C3i040E51mw0F253uk0E9o2k0F92040E8l3s0Cjutc0E4uy840C3rdzw0D46xc00C7x6o0D2xco40E8n180",
        "F7x9g0E9d440Ckiqg0D9d440C9q2s0E9cyk0"]⟩,
    ⟨"Africa/Asmara", [⟨156, false⟩, ⟨155, false⟩, ⟨180, false⟩],
      ["B0Chy55so"]⟩,
    ⟨"Africa/Bamako", [⟨-32, false⟩, ⟨0, false⟩, ⟨-60, false⟩],
      ["B58sl4wCbk956oBdqe840"]⟩,
    ⟨"Africa/Bangui", [⟨74, false⟩, ⟨60, false⟩],
      ["B58sg7o"]⟩,
    ⟨"Africa/Banjul", [⟨-67, false⟩, ⟨-60, false⟩, ⟨0, false⟩],
      ["A58smqkBb38800C4m1rp0"]⟩,
    ⟨"Africa/Bissau", [⟨-62, false⟩, ⟨-60, false⟩, ⟨0, false⟩],
      ["B58smfkCwvoyo0"]⟩,
    ⟨"Africa/Blantyre", [⟨140, false⟩, ⟨141, false⟩, ⟨120, false⟩],
      ["B50i7u8B1j56m2C5qqlca"]⟩,
    ⟨"Africa/Brazzaville", [⟨61, false⟩, ⟨60, false⟩],
      ["B58sgto"]⟩,
    ⟨"Africa/Bujumbura", [⟨117, false⟩, ⟨120, false⟩],
      ["B0"]⟩,
    ⟨"Africa/Cairo", [⟨125, false⟩, ⟨120, false⟩, ⟨180, true⟩],
      ["B0Ck4y8rkB40d80Ca31g0B7x3w0Ca4w40Baqyk0C80ys0Bb07w0C7tk40Bb07w0C8jhg0Ba8fw0C60go40B7el",
        "80Cawo40B7v980Cawqw0B7tk40Cb07w0B7tk40Cayd80B7tk40Cayd80B7tk40Cayd80B7tk40Cb07w0B7tk40",
        "Cayd80B7tk40Cayd80B7ves0Cawik0B7ves0Cayd80B7ves0Cawik0B7ves0Cawik0B7ves0Cawik0B7ves0Ca",
        "yd80B7ves0Cawik0B7ves0Cawik0B7ves0Cawik0B7ves0Cayd80B7ves0Cawik0B7ves0Cawik0B7ves0Cawi",
        "k0B7ves0Cayd80B7ves0Cawik0B7ves0Cf9x80B3i040Celuk0B462s0Cayd80B7ves0Cawik0B7ves0Cawik0",
        "B7ves0Cawik0B7ves0Cayd80B7ves0Cb5rw0B7m5g0Cawik0B7ves0Cawik0B7ves0Cayd80B7ves0Cawik0B7",
        "ves0Cawik0B7ves0Caqvs0B7x3w0Casys0B7x3w0Casys0B7x3w0Casys0B7x3w0Cb5xg0B7x3w0Casys0B7x3",
        "w0Casys0B7x3w0Casys0B7x3w0Casys0B7x3w0Cb5xg0B7x3w0Casys0B7x3w0Casys0B7k580Cb5xg0B6u7w0",
        "Cbvus0B6h980Cc8tg0B64ak0Ccyqs0B5anw0C1jms0B12t80C1w22s0B25p80C1sw40B2vmk0C4hbhg0B9cyk0",
        "C9d440B9px80C905g0B9px80C905g0B9px80C9d440B9cyk0C9d440B9cyk0C9d440B9cyk0C9d440B9px80C9",
        "05g0B9px80C9d440B9cyk0C9d440B9cyk0C9d440B9cyk0C9d440B9cyk0C9d440B9px80C905g0B9px80"]⟩,
    ⟨"Africa/Casablanca", [⟨-30, false⟩, ⟨0, false⟩, ⟨60, true⟩, ⟨60, false⟩, ⟨0, true⟩],
      ["B66y7q4Cdi7nxgB3huk0C51k40B2znuk0C2dp9g0B776k0C8nt2s0B657w0C3ifxg0B3jp80Cva040B4qak0Ce",
        "1ms0B7pp80Ccnms0B3afw0D2xi840Bxqqk0Cbp56s0B4qak0Ce1ms0B45x80Cd2g40B51ek0Cc8tg0B64ak0Ce",
        "1sc0B47uo0C1leo0B23xc0Casw00B3lmo0C1qyo0B40g00C7x6o0B4mo00C1stc0B4deo0C7x6o0B3ylc0C1st",
        "c0B51hc0C7x6o0B3lmo0C1stc0B5reo0C7k800B2vpc0C25s00B64dc0C7k800B2iqo0C1stc0D6uao0E9q000",
        "D1stc0Eg7c00D25s00Eg7c00D1stc0Eg7c00D25s00Eg7c00D1stc0Egkao0D1stc0Eg7c00D25s00Eg7c00D1",
        "stc0Egkao0D1stc0Eg7c00D25s00Eg7c00D1stc0Eg7c00D25s00Eg7c00D1stc0Egkao0D1stc0Eg7c00D25s",
        "00Eg7c00D1stc0Eg7c00D25s00Eg7c00D25s00Eg7c00D1stc0Eg7c00D25s00"]⟩,
    ⟨"Africa/Ceuta", [⟨-21, false⟩, ⟨0, false⟩, ⟨60, true⟩, ⟨60, false⟩, ⟨120, true⟩],
      ["B0C8k127kB7x3w0C2vt440B8sqs0Cssyk0B8n6s0C9px80B905g0Ca2yo0B902o0Ck69dc0B657w0C3ifxg0B3",
        "jp80Cva040B4qak0Ce1ms0B7pp80Ccnms0B3afw0D2xi840E129us0D9d1c0E9d1c0D9d1c0E9d1c0D9d1c0E9",
        "d1c0D9d1c0E9d1c0D9q000E9d1c0D9d1c0E9d1c0D9d1c0E9d1c0D9d1c0E9d1c0D9d1c0E9d1c0D9d1c0E9q0",
        "00Dasw00E7x6o0Dasw00E7x6o0Dasw00E7x6o0Db5uo0E7k800Db5uo0E7k800Db5uo0E7x6o0Dasw00E7x6o0",
        "Dasw00E7x6o0Db5uo0E7k800Db5uo0E7k800Db5uo0E7k800Db5uo0E7x6o0Dasw00E7x6o0Dasw00E7x6o0Db",
        "5uo0E7k800Db5uo0E7k800Db5uo0E7x6o0Dasw00E7x6o0Dasw00E7x6o0Dasw00E7x6o0Db5uo0E7k800Db5u",
        "o0E7k800Db5uo0E7x6o0Dasw00E7x6o0Dasw00E7x6o0Db5uo0E7k800Db5uo0E7k800Db5uo0E7x6o0Dasw00",
        "E7x6o0Dasw00E7x6o0Dasw00E7x6o0Db5uo0E7k800Db5uo0E7k800Db5uo0E7x6o0Dasw00E7x6o0Dasw00E7",
        "x6o0Db5uo0E7k800Db5uo0E7k800Db5uo0E7k800Db5uo0E7x6o0Dasw00E7x6o0Dasw00"]⟩,
    ⟨"Africa/Conakry", [⟨-55, false⟩, ⟨0, false⟩, ⟨-60, false⟩],
      ["B58sm70Cbk944kBdhlk40"]⟩,
    ⟨"Africa/Dakar", [⟨-70, false⟩, ⟨-60, false⟩, ⟨0, false⟩],
      ["B58smvsCfcoa7s"]⟩,
    ⟨"Africa/Dar_es_Salaam", [⟨157, false⟩, ⟨180, false⟩, ⟨165, false⟩],
      ["Bf5s71oC8ve49wB6sagp0"]⟩,
    ⟨"Africa/Djibouti", [⟨173, false⟩, ⟨180, false⟩],
      ["B4zbkzw"]⟩,
    ⟨"Africa/Douala", [⟨39, false⟩, ⟨60, false⟩],
      ["B58shuw"]⟩,
    ⟨"Africa/El_Aaiun",
      [⟨-53, false⟩, ⟨-60, false⟩, ⟨0, false⟩, ⟨60, true⟩, ⟨60, false⟩, ⟨0, true⟩],
      ["Bgq63fkCm2g0c0Dvek0C4qak0De1ms0C7pp80Dcnms0C3afw0Dfke5g0C4qak0De1ms0C45x80Dd2g40C51ek0",
        "Dc8tg0C64ak0De1sc0C47uo0D1leo0C23xc0Dasw00C3lmo0D1qyo0C40g00D7x6o0C4mo00D1stc0C4deo0D7",
        "x6o0C3ylc0D1stc0C51hc0D7x6o0C3lmo0D1stc0C5reo0D7k800C2vpc0D25s00C64dc0D7k800C2iqo0D1st",
        "c0E6uao0F9q000E1stc0Fg7c00E25s00Fg7c00E1stc0Fg7c00E25s00Fg7c00E1stc0Fgkao0E1stc0Fg7c00",
        "E25s00Fg7c00E1stc0Fgkao0E1stc0Fg7c00E25s00Fg7c00E1stc0Fg7c00E25s00Fg7c00E1stc0Fgkao0E1",
        "stc0Fg7c00E25s00Fg7c00E1stc0Fg7c00E25s00Fg7c00E25s00Fg7c00E1stc0Fg7c00E25s00"]⟩,
    ⟨"Africa/Freetown", [⟨-53, false⟩, ⟨-60, false⟩, ⟨-40, true⟩, ⟨0, false⟩],
      ["A0B60xkrwCa4v6zoB681qoC7vcxcBawkeoC7vcxcBawkeoC7vcxcBayf2oC7vcxcBawkeoC7vcxcBawkeoC7vc",
        "xcBe1j2oC4qe9cB7dqoD16dy9c"]⟩,
    ⟨"Africa/Gaborone", [⟨104, false⟩, ⟨90, false⟩, ⟨120, false⟩, ⟨180, true⟩],
      ["B0CmqnhkDl5xqu0C9cyk0"]⟩,
    ⟨"Africa/Harare", [⟨124, false⟩, ⟨120, false⟩],
      ["Bmqlwk"]⟩,
    ⟨"Africa/Johannesburg", [⟨112, false⟩, ⟨90, false⟩, ⟨120, false⟩, ⟨180, true⟩],
      ["B0CmqnhkDkn7o60C9cyk0D9d440C9cyk0"]⟩,
    ⟨"Africa/Juba", [⟨126, false⟩, ⟨120, false⟩, ⟨180, true⟩, ⟨180, false⟩],
      ["Bf5s8gsCkixuysB8l6k0Ca4w40B8n180Ca6qs0B8n180Ca31g0B8ovw0Ca16s0B8qqk0C9zc40B8sl80C9xhg0",
        "B8wak0C9ts40B8y580Ca4w40B8n180Ca31g0B8ovw0Ca16s0B8sl80C9xhg0B8ufw0C9vms0B8wak0C9ts40B8",
        "y580Ca4w40B8ovw0Ca16s0B8qqk0D7frw40Bazg180"]⟩,
    ⟨"Africa/Kampala", [⟨130, false⟩, ⟨180, false⟩, ⟨150, false⟩, ⟨165, false⟩],
      ["BdurmzgCs8lo4D9e6420B4p4vb0"]⟩,
    ⟨"Africa/Khartoum", [⟨130, false⟩, ⟨120, false⟩, ⟨180, true⟩, ⟨180, false⟩],
      ["Bf5s8aoCkixv4wB8l6k0Ca4w40B8n180Ca6qs0B8n180Ca31g0B8ovw0Ca16s0B8qqk0C9zc40B8sl80C9xhg0",
        "B8wak0C9ts40B8y580Ca4w40B8n180Ca31g0B8ovw0Ca16s0B8sl80C9xhg0B8ufw0C9vms0B8wak0C9ts40B8",
        "y580Ca4w40B8ovw0Ca16s0B8qqk0D7frw40B9ac180"]⟩,
    ⟨"Africa/Kigali", [⟨120, false⟩],
      ["Ahgpff4"]⟩,
    ⟨"Africa/Kinshasa", [⟨61, false⟩, ⟨60, false⟩],
      ["B0"]⟩,
    ⟨"Africa/Lagos", [⟨14, false⟩, ⟨0, false⟩, ⟨30, false⟩, ⟨60, false⟩],
      ["B1umdoxA1kdnanC2ve7ddD2yfgkn"]⟩,
    ⟨"Africa/Libreville", [⟨38, false⟩, ⟨60, false⟩],
      ["B58shwk"]⟩,
    ⟨"Africa/Lome", [⟨5, false⟩, ⟨0, false⟩],
      ["B0"]⟩,
    ⟨"Africa/Luanda", [⟨53, false⟩, ⟨52, false⟩, ⟨60, false⟩],
      ["B0C58sgvk"]⟩,
    ⟨"Africa/Lubumbashi", [⟨110, false⟩, ⟨60, false⟩, ⟨120, false⟩],
      ["B0C9l0jjk"]⟩,
    ⟨"Africa/Lusaka", [⟨113, false⟩, ⟨120, false⟩],
      ["Bmqmf0"]⟩,
    ⟨"Africa/Malabo", [⟨35, false⟩, ⟨0, false⟩, ⟨60, false⟩],
      ["B58si10Cr44sak"]⟩,
    ⟨"Africa/Maputo", [⟨130, false⟩, ⟨120, false⟩],
      ["B3oglme"]⟩,
    ⟨"Africa/Maseru", [⟨110, false⟩, ⟨120, false⟩, ⟨180, true⟩],
      ["Bmqmk8Cl5xrrcB9cyk0"]⟩,
    ⟨"Africa/Mbabane", [⟨124, false⟩, ⟨120, false⟩],
      ["Bmqlw8"]⟩,
    ⟨"Africa/Mogadishu", [⟨181, false⟩, ⟨180, false⟩, ⟨150, false⟩],
      ["B0Cf5s5zkBdkj2q0"]⟩,
    ⟨"Africa/Monrovia", [⟨-43, false⟩, ⟨-44, false⟩, ⟨0, false⟩],
      ["A0B8zd1ngCrl202a"]⟩,
    ⟨"Africa/Nairobi", [⟨147, false⟩, ⟨150, false⟩, ⟨180, false⟩, ⟨165, false⟩],
      ["B3buvi4CaiwqjgBsg1a0D3nbte0C2wu1z0"]⟩,
    ⟨"Africa/Ndjamena", [⟨60, false⟩, ⟨120, true⟩],
      ["A58sgv8Bzdk5ccA7iak0"]⟩,
    ⟨"Africa/Niamey", [⟨8, false⟩, ⟨-60, false⟩, ⟨0, false⟩, ⟨60, false⟩],
      ["B58sj9gCbk99u4Ddhlek0"]⟩,
    ⟨"Africa/Nouakchott", [⟨-64, false⟩, ⟨0, false⟩, ⟨-60, false⟩],
      ["B58smlwCbk93poBdyodg0"]⟩,
    ⟨"Africa/Ouagadougou", [⟨-6, false⟩, ⟨0, false⟩],
      ["B58sjxo"]⟩,
    ⟨"Africa/Porto-Novo", [⟨10, false⟩, ⟨0, false⟩, ⟨60, false⟩],
      ["B58sj64Cbk975g"]⟩,
    ⟨"Africa/Sao_Tome", [⟨27, false⟩, ⟨-37, false⟩, ⟨0, false⟩, ⟨60, false⟩],
      ["B0C58sjnkD1jbm840Cirxc0"]⟩,
    ⟨"Africa/Tripoli", [⟨53, false⟩, ⟨60, false⟩, ⟨120, true⟩, ⟨120, false⟩],
      ["B9f3l7oCgl6ajwB422c0Cxado0B4bbo0Cwrpg0B4s580D1kdpg0Bc05bw0C4mqs0B9et80C9d440B9et80C9ey",
        "s0B9et80C9mdg0B95jw0C9io40B9cyk0C99es0B9et80C9eys0B9et80C9d440B9et80Db2840B3cf3w0C9kis",
        "0D9et80B7vqyw0C75eo0Dasw00"]⟩,
    ⟨"Africa/Tunis", [⟨41, false⟩, ⟨9, false⟩, ⟨60, false⟩, ⟨120, true⟩],
      ["B0C4tkdvzDenxevlCb5uo0D53c00Cu8w00D7x9g0Cc8w80D7k800Cz3w0Dew40C8bx80D9d440C9nx00D925o0",
        "C8l100Dgi3440C7k800Db9k00C7vc00D51mw00C5ytc0D9d1c0C9d1c0Db9k00C7thc0D7m0tc0C7tk40D93us",
        "0Cb5uo0D7k800Cb5uo0D7x6o0Casw00"]⟩,
    ⟨"Africa/Windhoek", [⟨68, false⟩, ⟨90, false⟩, ⟨120, false⟩, ⟨180, true⟩, ⟨60, true⟩],
      ["B0CmqnhkDkn7o60C9cyk0Coj2nw0E235k00C8lho0East80C7x9g0Eb5rw0C7kas0Eb5rw0C7x9g0East80C7x",
        "9g0East80C7x9g0East80C7x9g0East80C7x9g0Eb5rw0C7kas0Eb5rw0C7x9g0East80C7x9g0East80C7x9g",
        "0East80C7x9g0East80C7x9g0Eb5rw0C7x9g0East80C7x9g0East80C7x9g0East80C7x9g0East80C7x9g0E",
        "b5rw0C7kas0Eb5rw0C7x9g0East80C7x9g0East80C7x9g0East80C7x9g0"]⟩]

end CivilTime.Gazetteer
