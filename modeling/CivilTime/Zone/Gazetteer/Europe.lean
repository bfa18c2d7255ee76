import CivilTime.Zone.Gazetteer.Entry

/-!
# The European zones

* `Gazetteer.europe`: name, regimes and changes of each zone, in the order of the names.
-/

namespace CivilTime.Gazetteer

/-- The European zones. -/
def europe : List Entry :=
  [
    ⟨"Europe/Amsterdam", [⟨20, false⟩, ⟨80, true⟩, ⟨120, true⟩, ⟨60, false⟩],
      ["A0B7i65f0A7v980Ba51o0A7x6o0Ba2yo0A9d1c0B9q000A902o0B9q000A902o0B9q000A902o0B9b6o0Aa2yo",
        "0Bc51c0A6l1c0B902o0A9q000Bci000A682o0Bbgyo0A79400Bbitc0A779c0Bbmio0A7gio0Bbbeo0A7eo00B",
        "bd9c0A7ctc0Bbf400A7ayo0Bbvs00A6uao0Bbko00A7idc0Bb9k00A7gio0Bbbeo0A7eo00Bbf400A7ayo0Bbt",
        "xc0B21uc0A4uaz8Bbitc0A779c0Bbko00A7idc0Cbd3s0D1aarpcC7k800D9q000C9d1c0D9d1c0C9d1c0D8l9",
        "c0Cggp1c0D902o0C9q000D9d1c0C9d1c0D9d1c0C9q000D902o0C9d1c0D9d1c0C9d1c0D9d1c0C9d1c0D9d1c",
        "0C9d1c0D9q000C9d1c0D9d1c0C9d1c0D9d1c0C9d1c0D9d1c0C9d1c0D9d1c0C9d1c0D9d1c0C9d1c0D9q000C",
        "9d1c0D9d1c0C9d1c0D9d1c0C9d1c0D9d1c0C9d1c0D9d1c0C9d1c0D9d1c0C9q000Dasw00C7x6o0Dasw00C7x",
        "6o0Dasw00C7x6o0Db5uo0C7k800Db5uo0C7k800Db5uo0C7x6o0Dasw00C7x6o0Dasw00C7x6o0Db5uo0C7k80",
        "0Db5uo0C7k800Db5uo0C7k800Db5uo0C7x6o0Dasw00C7x6o0Dasw00C7x6o0Db5uo0C7k800Db5uo0C7k800D",
        "b5uo0C7x6o0Dasw00C7x6o0Dasw00C7x6o0Dasw00C7x6o0Db5uo0C7k800Db5uo0C7k800Db5uo0C7x6o0Das",
        "w00C7x6o0Dasw00C7x6o0Db5uo0C7k800Db5uo0C7k800Db5uo0C7x6o0Dasw00C7x6o0Dasw00C7x6o0Dasw0",
        "0C7x6o0Db5uo0C7k800Db5uo0C7k800Db5uo0C7x6o0Dasw00C7x6o0Dasw00C7x6o0Db5uo0C7k800Db5uo0C",
        "7k800Db5uo0C7k800Db5uo0C7x6o0Dasw00C7x6o0Dasw00"]⟩,
    ⟨"Europe/Andorra", [⟨6, false⟩, ⟨0, false⟩, ⟨60, false⟩, ⟨120, true⟩],
      ["B0CndmebkDk3ctg0C9d1c0D9d1c0C9d1c0D9d1c0C9d1c0D9d1c0C9d1c0D9d1c0C9d1c0D9d1c0C9q000D9d1",
        "c0C9d1c0D9d1c0C9d1c0D9d1c0C9d1c0D9d1c0C9d1c0D9d1c0C9d1c0D9q000Casw00D7x6o0Casw00D7x6o0",
        "Casw00D7x6o0Cb5uo0D7k800Cb5uo0D7k800Cb5uo0D7x6o0Casw00D7x6o0Casw00D7x6o0Cb5uo0D7k800Cb",
        "5uo0D7k800Cb5uo0D7k800Cb5uo0D7x6o0Casw00D7x6o0Casw00D7x6o0Cb5uo0D7k800Cb5uo0D7k800Cb5u",
        "o0D7x6o0Casw00D7x6o0Casw00D7x6o0Casw00D7x6o0Cb5uo0D7k800Cb5uo0D7k800Cb5uo0D7x6o0Casw00",
        "D7x6o0Casw00D7x6o0Cb5uo0D7k800Cb5uo0D7k800Cb5uo0D7x6o0Casw00D7x6o0Casw00D7x6o0Casw00D7",
        "x6o0Cb5uo0D7k800Cb5uo0D7k800Cb5uo0D7x6o0Casw00D7x6o0Casw00D7x6o0Cb5uo0D7k800Cb5uo0D7k8",
        "00Cb5uo0D7k800Cb5uo0D7x6o0Casw00D7x6o0Casw00"]⟩,
    ⟨"Europe/Astrakhan", [⟨192, false⟩, ⟨180, false⟩, ⟨240, false⟩, ⟨300, true⟩, ⟨240, true⟩],
      ["Bboh1f8C37bv8cDqi27w0C9et80D9d440C9et80D9d440C9et80D9eys0C9d6w0D9d1c0C9d1c0D9d1c0C9d1c",
        "0D9d1c0C9d1c0D9d1c0C9d1c0E9d1c0B9d440E9d1c0B9q000C9d1c0Eipzw0B9d440E9d1c0B9d1c0E9d1c0B",
        "9d1c0E9d1c0B9d1c0E9q000Basw00E7x6o0Basw00E7x6o0Basw00E7x6o0Bb5uo0E7k800Bb5uo0E7k800Bb5",
        "uo0E7x6o0Basw00E7x6o0Basw00E7x6o0Bb5uo0E7k800Bb5uo0E7k800Bb5uo0E7k800Bb5uo0E7x6o0Basw0",
        "0E7x6o0Basw00E7x6o0Bb5uo0C7k800B1vbzw0Cqnc40Cbdvvrj"]⟩,
    ⟨"Europe/Athens", [⟨95, false⟩, ⟨120, false⟩, ⟨180, true⟩, ⟨120, true⟩, ⟨60, false⟩],
      ["A0B7mp0n4C8bjasgB2vmk0C4hiw40D16ik0Escog0D7lx40E9o2k0B9eys0C4atzw0B6djw0Cbplus0Bbq800C",
        "71uw0B9d1c0C902o0B91xc0C9o5c0B905g0C9qgo0B9akg0C9iik0B99980C9dcg0B9d1c0C9d1c0B9d1c0C9d",
        "1c0B9d1c0C9d1c0B9q000C9d1c0B9d1c0C9d1c0B9d1c0C9d1c0B9d1c0C9d1c0B9d1c0C9d1c0B9d1c0C9d1c",
        "0B9q000C9d1c0B9d1c0C9d1c0B9d1c0C9d1c0B9d1c0C9d1c0B9d1c0C9d1c0B9d1c0C9q000Basw00C7x6o0B",
        "asw00C7x6o0Basw00C7x6o0Bb5uo0C7k800Bb5uo0C7k800Bb5uo0C7x6o0Basw00C7x6o0Basw00C7x6o0Bb5",
        "uo0C7k800Bb5uo0C7k800Bb5uo0C7k800Bb5uo0C7x6o0Basw00C7x6o0Basw00C7x6o0Bb5uo0C7k800Bb5uo",
        "0C7k800Bb5uo0C7x6o0Basw00C7x6o0Basw00C7x6o0Basw00C7x6o0Bb5uo0C7k800Bb5uo0C7k800Bb5uo0C",
        "7x6o0Basw00C7x6o0Basw00C7x6o0Bb5uo0C7k800Bb5uo0C7k800Bb5uo0C7x6o0Basw00C7x6o0Basw00C7x",
        "6o0Basw00C7x6o0Bb5uo0C7k800Bb5uo0C7k800Bb5uo0C7x6o0Basw00C7x6o0Basw00C7x6o0Bb5uo0C7k80",
        "0Bb5uo0C7k800Bb5uo0C7k800Bb5uo0C7x6o0Basw00C7x6o0Basw00"]⟩,
    ⟨"Europe/Belgrade", [⟨82, false⟩, ⟨60, false⟩, ⟨120, true⟩],
      ["B0Ckj923kBswz00C7k800B9q000C9d1c0B9d1c0Cb7pc0B6qlc0Cjl1hc0B9d1c0C9d1c0B9q000C9d1c0B9d1",
        "c0C9d1c0B9d1c0C9d1c0B9d1c0C9d1c0B9d1c0C9d1c0B9d1c0C9d1c0B9q000C9d1c0B9d1c0C9d1c0B9d1c0",
        "C9d1c0B9d1c0C9d1c0B9d1c0C9d1c0B9d1c0C9q000Basw00C7x6o0Basw00C7x6o0Basw00C7x6o0Bb5uo0C7",
        "k800Bb5uo0C7k800Bb5uo0C7x6o0Basw00C7x6o0Basw00C7x6o0Bb5uo0C7k800Bb5uo0C7k800Bb5uo0C7k8",
        "00Bb5uo0C7x6o0Basw00C7x6o0Basw00C7x6o0Bb5uo0C7k800Bb5uo0C7k800Bb5uo0C7x6o0Basw00C7x6o0",
        "Basw00C7x6o0Basw00C7x6o0Bb5uo0C7k800Bb5uo0C7k800Bb5uo0C7x6o0Basw00C7x6o0Basw00C7x6o0Bb",
        "5uo0C7k800Bb5uo0C7k800Bb5uo0C7x6o0Basw00C7x6o0Basw00C7x6o0Basw00C7x6o0Bb5uo0C7k800Bb5u",
        "o0C7k800Bb5uo0C7x6o0Basw00C7x6o0Basw00C7x6o0Bb5uo0C7k800Bb5uo0C7k800Bb5uo0C7k800Bb5uo0",
        "C7x6o0Basw00C7x6o0Basw00"]⟩,
    ⟨"Europe/Berlin", [⟨53, false⟩, ⟨60, false⟩, ⟨120, true⟩, ⟨180, true⟩],
      ["B0C7i60rkB7ves0Ca4yw0B7x6o0Casw00B7x6o0Cb8qdc0B1cm000C7k800B9q000C9d1c0B9d1c0C9d1c0D2o",
        "7w0C6bs00B2txg0C7k800B91xc0C9b9g0D1sqk0C2inw0B51k40Ca2yo0B8n400C9q000B902o0Cfx91c0B902",
        "o0C9d1c0B9d1c0C9d1c0B9d1c0C9d1c0B9d1c0C9d1c0B9q000C9d1c0B9d1c0C9d1c0B9d1c0C9d1c0B9d1c0",
        "C9d1c0B9d1c0C9d1c0B9d1c0C9d1c0B9q000C9d1c0B9d1c0C9d1c0B9d1c0C9d1c0B9d1c0C9d1c0B9d1c0C9",
        "d1c0B9d1c0C9q000Basw00C7x6o0Basw00C7x6o0Basw00C7x6o0Bb5uo0C7k800Bb5uo0C7k800Bb5uo0C7x6",
        "o0Basw00C7x6o0Basw00C7x6o0Bb5uo0C7k800Bb5uo0C7k800Bb5uo0C7k800Bb5uo0C7x6o0Basw00C7x6o0",
        "Basw00C7x6o0Bb5uo0C7k800Bb5uo0C7k800Bb5uo0C7x6o0Basw00C7x6o0Basw00C7x6o0Basw00C7x6o0Bb",
        "5uo0C7k800Bb5uo0C7k800Bb5uo0C7x6o0Basw00C7x6o0Basw00C7x6o0Bb5uo0C7k800Bb5uo0C7k800Bb5u",
        "o0C7x6o0Basw00C7x6o0Basw00C7x6o0Basw00C7x6o0Bb5uo0C7k800Bb5uo0C7k800Bb5uo0C7x6o0Basw00",
        "C7x6o0Basw00C7x6o0Bb5uo0C7k800Bb5uo0C7k800Bb5uo0C7k800Bb5uo0C7x6o0Basw00C7x6o0Basw00"]⟩,
    ⟨"Europe/Brussels", [⟨18, false⟩, ⟨0, false⟩, ⟨60, false⟩, ⟨120, true⟩, ⟨60, true⟩],
      ["B0C6qe6bkDrrx80C7vc00Da4yw0C7x6o0Dasw00C7x6o0B2wh40E5omo0Bb5uo0E6uao0Bcyo00E7ayo0Bbko0",
        "0E7rmo0Ba2yo0Ea2yo0B8n400E902o0B9q000E9d1c0B9d1c0Ea2yo0B8n400E9q000B902o0Ea2yo0B90b00E",
        "a2yo0B8n400E9q000B902o0Ea2yo0B8n400E9d1c0B9d1c0E902o0Ba2yo0E9d1c0B9d1c0E902o0B9q000Ea2",
        "yo0B8n400E9d1c0B9d1c0E902o0B9q000Ea2yo0Bb5uo0E51hc0D4deo0C1a36k0D7k800C9q000D9d1c0C8l9",
        "c0Da4tc0C8l9c0Dclpc0C79400Dfwu800C902o0D9q000C9d1c0D9d1c0C9d1c0D9q000C902o0D9d1c0C9d1c",
        "0D9d1c0C9d1c0D9d1c0C9d1c0D9d1c0C9q000D9d1c0C9d1c0D9d1c0C9d1c0D9d1c0C9d1c0D9d1c0C9d1c0D",
        "9d1c0C9d1c0D9d1c0C9q000D9d1c0C9d1c0D9d1c0C9d1c0D9d1c0C9d1c0D9d1c0C9d1c0D9d1c0C9d1c0D9q",
        "000Casw00D7x6o0Casw00D7x6o0Casw00D7x6o0Cb5uo0D7k800Cb5uo0D7k800Cb5uo0D7x6o0Casw00D7x6o",
        "0Casw00D7x6o0Cb5uo0D7k800Cb5uo0D7k800Cb5uo0D7k800Cb5uo0D7x6o0Casw00D7x6o0Casw00D7x6o0C",
        "b5uo0D7k800Cb5uo0D7k800Cb5uo0D7x6o0Casw00D7x6o0Casw00D7x6o0Casw00D7x6o0Cb5uo0D7k800Cb5",
        "uo0D7k800Cb5uo0D7x6o0Casw00D7x6o0Casw00D7x6o0Cb5uo0D7k800Cb5uo0D7k800Cb5uo0D7x6o0Casw0",
        "0D7x6o0Casw00D7x6o0Casw00D7x6o0Cb5uo0D7k800Cb5uo0D7k800Cb5uo0D7x6o0Casw00D7x6o0Casw00D",
        "7x6o0Cb5uo0D7k800Cb5uo0D7k800Cb5uo0D7k800Cb5uo0D7x6o0Casw00D7x6o0Casw00"]⟩,
    ⟨"Europe/Bucharest", [⟨104, false⟩, ⟨120, false⟩, ⟨180, true⟩],
      ["A0Bfga1hkCfj8m0B6w5c0C9d1c0B9d1c0C9q000B9d1c0C9d1c0B9d1c0C9d1c0B9d1c0C9d1c0B9d1c0C9d1c",
        "0B9d1c0C9d1c0B9d1c0Ckp0dc0B6h980C9q000B905g0C9d6w0B9d1c0C9d1c0B9d1c0C9d1c0B9d1c0C9d1c0",
        "B9q000C9d1c0B9d1c0C9d1c0B9d1c0C9d1c0B9d1c0C9d1c0B9d1c0C9d1c0B9d1c0C9d1c0B9q000C9cvs0B9",
        "d1c0C9d1c0B9d1c0C9d1c0B9d1c0C9d1c0B9cyk0C9d440B9cyk0C9q2s0Bast80C7xhs0Basw00C7x6o0Basw",
        "00C7x6o0Bb5uo0C7k800Bb5uo0C7k800Bb5uo0C7x6o0Basw00C7x6o0Basw00C7x6o0Bb5uo0C7k800Bb5uo0",
        "C7k800Bb5uo0C7k800Bb5uo0C7x6o0Basw00C7x6o0Basw00C7x6o0Bb5uo0C7k800Bb5uo0C7k800Bb5uo0C7",
        "x6o0Basw00C7x6o0Basw00C7x6o0Basw00C7x6o0Bb5uo0C7k800Bb5uo0C7k800Bb5uo0C7x6o0Basw00C7x6",
        "o0Basw00C7x6o0Bb5uo0C7k800Bb5uo0C7k800Bb5uo0C7x6o0Basw00C7x6o0Basw00C7x6o0Basw00C7x6o0",
        "Bb5uo0C7k800Bb5uo0C7k800Bb5uo0C7x6o0Basw00C7x6o0Basw00C7x6o0Bb5uo0C7k800Bb5uo0C7k800Bb",
        "5uo0C7k800Bb5uo0C7x6o0Basw00C7x6o0Basw00"]⟩,
    ⟨"Europe/Budapest", [⟨76, false⟩, ⟨60, false⟩, ⟨120, true⟩],
      ["B0C7i60rkB7ves0Ca4yw0B7x6o0Casw00B7x6o0Cauqo0B7vc00Cafxc0B8n400Caq1x00Bthcc0C7k800B9q0",
        "00C9d1c0B9d1c0Cawd00B9eys0C7pxk0B9rrw0C9b9g0B9d1c0C9d1c0B9d1c0C9q000B902o0C2f4vs0B6u7w",
        "0Cbw0c0B6uao0Cclpc0B64dc0Cclpc0B64dc0Cbr3bs0B902o0C9d1c0B9d1c0C9d1c0B9d1c0C9d1c0B9d1c0",
        "C9d6w0B9q000C9d1c0B9d1c0C9d1c0B9d1c0C9d1c0B9d1c0C9d1c0B9d1c0C9d1c0B9d1c0C9d1c0B9q000C9",
        "d1c0B9d1c0C9d1c0B9d1c0C9d1c0B9d1c0C9d1c0B9d1c0C9d1c0B9d1c0C9q000Basw00C7x6o0Basw00C7x6",
        "o0Basw00C7x6o0Bb5uo0C7k800Bb5uo0C7k800Bb5uo0C7x6o0Basw00C7x6o0Basw00C7x6o0Bb5uo0C7k800",
        "Bb5uo0C7k800Bb5uo0C7k800Bb5uo0C7x6o0Basw00C7x6o0Basw00C7x6o0Bb5uo0C7k800Bb5uo0C7k800Bb",
        "5uo0C7x6o0Basw00C7x6o0Basw00C7x6o0Basw00C7x6o0Bb5uo0C7k800Bb5uo0C7k800Bb5uo0C7x6o0Basw",
        "00C7x6o0Basw00C7x6o0Bb5uo0C7k800Bb5uo0C7k800Bb5uo0C7x6o0Basw00C7x6o0Basw00C7x6o0Basw00",
        "C7x6o0Bb5uo0C7k800Bb5uo0C7k800Bb5uo0C7x6o0Basw00C7x6o0Basw00C7x6o0Bb5uo0C7k800Bb5uo0C7",
        "k800Bb5uo0C7k800Bb5uo0C7x6o0Basw00C7x6o0Basw00"]⟩,
    ⟨"Europe/Chisinau",
      [⟨115, false⟩, ⟨104, false⟩, ⟨120, false⟩, ⟨180, true⟩, ⟨120, true⟩, ⟨60, false⟩,
        ⟨180, false⟩, ⟨240, true⟩],
      ["A0B8fuznwC70f1toDfj8m0C6w5c0D9d1c0C9d1c0D9q000C9d1c0D9d1c0C9d1c0D9d1c0C9d1c0D9d1c0C9d1",
        "c0D9d1c0C9d1c0D9d1c0C9d1c0Dgeqo0Eha580Foc8g0E7k800F9q000E9d1c0G7cl00Hj3pbw0G9et80H9d44",
        "0G9et80H9d440G9et80H9eys0G9d6w0H9d1c0G9d1c0H9d1c0G9d1c0H9d1c0G9d1c0H9d1c0G9d1c0H9d1c0G",
        "9d1c0H9d1c0D25p80C7kdk0D9d1c0C9d1c0D9cvs0C9cyk0D9d440C9cyk0D9d440C9cyk0D9d440C9cyk0D9q",
        "2s0Cast80D7xf00Casw00D7x6o0Casw00D7x6o0Cb5uo0D7k800Cb5uo0D7k800Cb5uo0D7x6o0Casw00D7x6o",
        "0Casw00D7x6o0Cb5uo0D7k800Cb5uo0D7k800Cb5uo0D7k800Cb5uo0D7x6o0Casw00D7x6o0Casw00D7x6o0C",
        "b5uo0D7k800Cb5uo0D7k800Cb5uo0D7x6o0Casw00D7x6o0Casw00D7x6o0Casw00D7x6o0Cb5uo0D7k800Cb5",
        "uo0D7k800Cb5uo0D7x6o0Casw00D7x6o0Casw00D7x6o0Cb5uo0D7k800Cb5uo0D7k800Cb5uo0D7x6o0Casw0",
        "0D7x6o0Casw00D7x6o0Casw00D7x6o0Cb5uo0D7k800Cb5uo0D7k800Cb5uo0D7x6o0Casw00D7x6o0Casw00D",
        "7x6o0Cb5uo0D7k800Cb5uo0D7k800Cb5uo0D7k800Cb5uo0D7x6o0Casw00D7x6o0Casw00"]⟩,
    ⟨"Europe/Copenhagen", [⟨50, false⟩, ⟨60, false⟩, ⟨120, true⟩],
      ["B0C7ivy3kB75bw0Ccbs2w0B1aco80C7k800B9q000C9d1c0B9d1c0C9d1c0B6y000Cdbmo0B6bs00Cclpc0B51",
        "hc0Ce1k00B4oio0Cgiutc0B902o0C9d1c0B9d1c0C9d1c0B9d1c0C9d1c0B9d1c0C9d1c0B9q000C9d1c0B9d1",
        "c0C9d1c0B9d1c0C9d1c0B9d1c0C9d1c0B9d1c0C9d1c0B9d1c0C9d1c0B9q000C9d1c0B9d1c0C9d1c0B9d1c0",
        "C9d1c0B9d1c0C9d1c0B9d1c0C9d1c0B9d1c0C9q000Basw00C7x6o0Basw00C7x6o0Basw00C7x6o0Bb5uo0C7",
        "k800Bb5uo0C7k800Bb5uo0C7x6o0Basw00C7x6o0Basw00C7x6o0Bb5uo0C7k800Bb5uo0C7k800Bb5uo0C7k8",
        "00Bb5uo0C7x6o0Basw00C7x6o0Basw00C7x6o0Bb5uo0C7k800Bb5uo0C7k800Bb5uo0C7x6o0Basw00C7x6o0",
        "Basw00C7x6o0Basw00C7x6o0Bb5uo0C7k800Bb5uo0C7k800Bb5uo0C7x6o0Basw00C7x6o0Basw00C7x6o0Bb",
        "5uo0C7k800Bb5uo0C7k800Bb5uo0C7x6o0Basw00C7x6o0Basw00C7x6o0Basw00C7x6o0Bb5uo0C7k800Bb5u",
        "o0C7k800Bb5uo0C7x6o0Basw00C7x6o0Basw00C7x6o0Bb5uo0C7k800Bb5uo0C7k800Bb5uo0C7k800Bb5uo0",
        "C7x6o0Basw00C7x6o0Basw00"]⟩,
    ⟨"Europe/Dublin", [⟨-25, false⟩, ⟨35, true⟩, ⟨0, false⟩, ⟨60, true⟩, ⟨60, false⟩, ⟨0, true⟩],
      ["A0B7j7edtC6uao0D9pytrC8c000D9o5c0C9ruo0D9b6o0C9ew00D9b6o0Cauqo0D88ao0C9ew00D8y800Ca2yo",
        "0Da2yo0C7k800Dasw00C8a5c0Dasw00C8n400Da2yo0C8n400D9q000C902o0Dafxc0C8n400Da2yo0C8n400D",
        "9q000C902o0Da2yo0C8n400Da2yo0C8n400D9q000C9d1c0Da2yo0C8n400D9q000C902o0Da2yo0C8n400Da2",
        "yo0C8n400D9q000C902o0Da2yo0Cb5uo0D51hc0C3g8800D8a5c0Cbvs00D8n400Ca2yo0D7x6o0Casw00D8n4",
        "00C9q000D902o0C9q000D9d1c0C9q000D902o0C8n400D9q000C902o0Da2yo0C8n400Dafxc0C8n400D9q000",
        "C902o0Da2yo0C8n400Da2yo0C8n400D9q000C902o0D902o0Cb5uo0D7k800Cb5uo0D7x6o0Casw00D7k800Cb",
        "5uo0D7k800Cb5uo0D7k800Cb5uo0D7k800Cbitc0D5reo0Ecyfo0F1kjf00E779c0Fbitc0E779c0Fbitc0E77",
        "9c0Fbitc0E779c0Fbitc0E7k800Fb5uo0E7k800Fb5uo0E7k800Fbitc0E779c0Fbitc0E779c0Fbitc0E7x3w",
        "0Fasw00E7x6o0Fasw00E7x6o0Fasw00E7x6o0Fb5uo0E7x6o0Fasw00E7x6o0Fasw00E7x6o0Fasw00E7x6o0F",
        "asw00E7x6o0Fb5uo0E7k800Fb5uo0E7x6o0Fasw00E7x6o0Fasw00E7x6o0Fasw00E7x6o0Fasw00E7x6o0Fas",
        "w00E8a5c0Fasw00E7x6o0Fasw00E7x6o0Fasw00E7x6o0Fb5uo0E7k800Fb5uo0E7k800Fb5uo0E7x6o0Fasw0",
        "0E7x6o0Fasw00E7x6o0Fb5uo0E7k800Fb5uo0E7k800Fb5uo0E7k800Fb5uo0E7x6o0Fasw00E7x6o0Fasw00E",
        "7x6o0Fb5uo0E7k800Fb5uo0E7k800Fb5uo0E7x6o0Fasw00E7x6o0Fasw00E7x6o0Fasw00E7x6o0Fb5uo0E7k",
        "800Fb5uo0E7k800Fb5uo0E7x6o0Fasw00E7x6o0Fasw00E7x6o0Fb5uo0E7k800Fb5uo0E7k800Fb5uo0E7x6o",
        "0Fasw00E7x6o0Fasw00E7x6o0Fasw00E7x6o0Fb5uo0E7k800Fb5uo0E7k800Fb5uo0E7x6o0Fasw00E7x6o0F",
        "asw00E7x6o0Fb5uo0E7k800Fb5uo0E7k800Fb5uo0E7k800Fb5uo0E7x6o0Fasw00E7x6o0Fasw00"]⟩,
    ⟨"Europe/Gibraltar", [⟨-21, false⟩, ⟨0, false⟩, ⟨60, true⟩, ⟨120, true⟩, ⟨60, false⟩],
      ["B0C7j7d7kB6uao0C9q000B8c000C9o5c0B9ruo0C9b6o0B9ew00C9b6o0Bauqo0C88ao0B9ew00C8y800Ba2yo",
        "0Ca2yo0B7k800Casw00B8a5c0Casw00B8n400Ca2yo0B8n400C9q000B902o0Cafxc0B8n400Ca2yo0B8n400C",
        "9q000B902o0Ca2yo0B8n400Ca2yo0B8n400C9q000B9d1c0Ca2yo0B8n400C9q000B902o0Ca2yo0B8n400Ca2",
        "yo0B8n400C9q000B902o0Ca2yo0Bb5uo0C51hc0Dmbmk0C51hc0Dc8qo0C6hc00Dc8qo0C6uao0Dbvs00C8n40",
        "0Da4tc0C5clc0B4bms0C9q000B902o0C8a5c0D1frw0C64dc0B4bms0C6uao0Bbvs00C7x6o0Basw00C8n400B",
        "9q000C902o0B9q000C9d1c0B9q000C902o0B8n400C9q000B902o0Ca2yo0B8n400Cafxc0B8n400E9q000Dd0",
        "tp80E9d1c0D9d1c0E9d1c0D9d1c0E9q000D9d1c0E9d1c0D9d1c0E9d1c0D9d1c0E9d1c0D9d1c0E9d1c0D9d1",
        "c0E9d1c0D9d1c0E9q000D9d1c0E9d1c0D9d1c0E9d1c0D9d1c0E9d1c0D9d1c0E9d1c0D9d1c0E9d1c0D9q000",
        "Easw00D7x6o0Easw00D7x6o0Easw00D7x6o0Eb5uo0D7k800Eb5uo0D7k800Eb5uo0D7x6o0Easw00D7x6o0Ea",
        "sw00D7x6o0Eb5uo0D7k800Eb5uo0D7k800Eb5uo0D7k800Eb5uo0D7x6o0Easw00D7x6o0Easw00D7x6o0Eb5u",
        "o0D7k800Eb5uo0D7k800Eb5uo0D7x6o0Easw00D7x6o0Easw00D7x6o0Easw00D7x6o0Eb5uo0D7k800Eb5uo0",
        "D7k800Eb5uo0D7x6o0Easw00D7x6o0Easw00D7x6o0Eb5uo0D7k800Eb5uo0D7k800Eb5uo0D7x6o0Easw00D7",
        "x6o0Easw00D7x6o0Easw00D7x6o0Eb5uo0D7k800Eb5uo0D7k800Eb5uo0D7x6o0Easw00D7x6o0Easw00D7x6",
        "o0Eb5uo0D7k800Eb5uo0D7k800Eb5uo0D7k800Eb5uo0D7x6o0Easw00D7x6o0Easw00"]⟩,
    ⟨"Europe/Guernsey", [⟨-10, false⟩, ⟨0, false⟩, ⟨60, true⟩, ⟨120, true⟩, ⟨60, false⟩],
      ["B609g4hC1ixx33B6uao0C9q000B8c000C9o5c0B9ruo0C9b6o0B9ew00C9b6o0Bauqo0C88ao0B9ew00C8y800",
        "Ba2yo0Ca2yo0B7k800Casw00B8a5c0Casw00B8n400Ca2yo0B8n400C9q000B902o0Cafxc0B8n400Ca2yo0B8",
        "n400C9q000B902o0Ca2yo0B8n400Ca2yo0B8n400C9q000B9d1c0Ca2yo0B8n400C9q000B902o0Ca2yo0B8n4",
        "00Ca2yo0B8n400C9q000B902o0Ca2yo0Bb5uo0C51hc0D6kt00E17vs80D7k800E9q000D9d1c0E9d1c0D9d1c",
        "0D1ufo0C3i5o0B4bms0C9q000B902o0C8a5c0D1frw0C64dc0B4bms0C6uao0Bbvs00C7x6o0Basw00C8n400B",
        "9q000C902o0B9q000C9d1c0B9q000C902o0B8n400C9q000B902o0Ca2yo0B8n400Cafxc0B8n400C9q000B90",
        "2o0Ca2yo0B8n400Ca2yo0B8n400C9q000B902o0C902o0Bb5uo0C7k800Bb5uo0C7x6o0Basw00C7k800Bb5uo",
        "0C7k800Bb5uo0C7k800Bb5uo0C7k800Bbitc0C5reo0Ecyfo0B1kjf00C779c0Bbitc0C779c0Bbitc0C779c0",
        "Bbitc0C779c0Bbitc0C7k800Bb5uo0C7k800Bb5uo0C7k800Bbitc0C779c0Bbitc0C779c0Bbitc0C7x3w0Ba",
        "sw00C7x6o0Basw00C7x6o0Basw00C7x6o0Bb5uo0C7x6o0Basw00C7x6o0Basw00C7x6o0Basw00C7x6o0Basw",
        "00C7x6o0Bb5uo0C7k800Bb5uo0C7x6o0Basw00C7x6o0Basw00C7x6o0Basw00C7x6o0Basw00C7x6o0Basw00",
        "C8a5c0Basw00C7x6o0Basw00C7x6o0Basw00C7x6o0Bb5uo0C7k800Bb5uo0C7k800Bb5uo0C7x6o0Basw00C7",
        "x6o0Basw00C7x6o0Bb5uo0C7k800Bb5uo0C7k800Bb5uo0C7k800Bb5uo0C7x6o0Basw00C7x6o0Basw00C7x6",
        "o0Bb5uo0C7k800Bb5uo0C7k800Bb5uo0C7x6o0Basw00C7x6o0Basw00C7x6o0Basw00C7x6o0Bb5uo0C7k800",
        "Bb5uo0C7k800Bb5uo0C7x6o0Basw00C7x6o0Basw00C7x6o0Bb5uo0C7k800Bb5uo0C7k800Bb5uo0C7x6o0Ba",
        "sw00C7x6o0Basw00C7x6o0Basw00C7x6o0Bb5uo0C7k800Bb5uo0C7k800Bb5uo0C7x6o0Basw00C7x6o0Basw",
        "00C7x6o0Bb5uo0C7k800Bb5uo0C7k800Bb5uo0C7k800Bb5uo0C7x6o0Basw00C7x6o0Basw00"]⟩,
    ⟨"Europe/Helsinki", [⟨100, false⟩, ⟨120, false⟩, ⟨180, true⟩],
      ["A0Ba43j17Cax3tqdB9gqo0Ck31s80B9d1c0C9d1c0B9d1c0C9d440B9d1c0C9d1c0B9q000C9d1c0B9d1c0C9d",
        "1c0B9d1c0C9d1c0B9d1c0C9d1c0B9d1c0C9d1c0B9d1c0C9d1c0B9q000C9d1c0B9d1c0C9d1c0B9d1c0C9d1c",
        "0B9d1c0C9d1c0B9d1c0C9d1c0B9d1c0C9q000Basw00C7x6o0Basw00C7x6o0Basw00C7x6o0Bb5uo0C7k800B",
        "b5uo0C7k800Bb5uo0C7x6o0Basw00C7x6o0Basw00C7x6o0Bb5uo0C7k800Bb5uo0C7k800Bb5uo0C7k800Bb5",
        "uo0C7x6o0Basw00C7x6o0Basw00C7x6o0Bb5uo0C7k800Bb5uo0C7k800Bb5uo0C7x6o0Basw00C7x6o0Basw0",
        "0C7x6o0Basw00C7x6o0Bb5uo0C7k800Bb5uo0C7k800Bb5uo0C7x6o0Basw00C7x6o0Basw00C7x6o0Bb5uo0C",
        "7k800Bb5uo0C7k800Bb5uo0C7x6o0Basw00C7x6o0Basw00C7x6o0Basw00C7x6o0Bb5uo0C7k800Bb5uo0C7k",
        "800Bb5uo0C7x6o0Basw00C7x6o0Basw00C7x6o0Bb5uo0C7k800Bb5uo0C7k800Bb5uo0C7k800Bb5uo0C7x6o",
        "0Basw00C7x6o0Basw00"]⟩,
    ⟨"Europe/Isle_of_Man", [⟨-18, false⟩, ⟨0, false⟩, ⟨60, true⟩, ⟨120, true⟩, ⟨60, false⟩],
      ["B0C7j7d7kB6uao0C9q000B8c000C9o5c0B9ruo0C9b6o0B9ew00C9b6o0Bauqo0C88ao0B9ew00C8y800Ba2yo",
        "0Ca2yo0B7k800Casw00B8a5c0Casw00B8n400Ca2yo0B8n400C9q000B902o0Cafxc0B8n400Ca2yo0B8n400C",
        "9q000B902o0Ca2yo0B8n400Ca2yo0B8n400C9q000B9d1c0Ca2yo0B8n400C9q000B902o0Ca2yo0B8n400Ca2",
        "yo0B8n400C9q000B902o0Ca2yo0Bb5uo0C51hc0Dmbmk0C51hc0Dc8qo0C6hc00Dc8qo0C6uao0Dbvs00C8n40",
        "0Da4tc0C5clc0B4bms0C9q000B902o0C8a5c0D1frw0C64dc0B4bms0C6uao0Bbvs00C7x6o0Basw00C8n400B",
        "9q000C902o0B9q000C9d1c0B9q000C902o0B8n400C9q000B902o0Ca2yo0B8n400Cafxc0B8n400C9q000B90",
        "2o0Ca2yo0B8n400Ca2yo0B8n400C9q000B902o0C902o0Bb5uo0C7k800Bb5uo0C7x6o0Basw00C7k800Bb5uo",
        "0C7k800Bb5uo0C7k800Bb5uo0C7k800Bbitc0C5reo0Ecyfo0B1kjf00C779c0Bbitc0C779c0Bbitc0C779c0",
        "Bbitc0C779c0Bbitc0C7k800Bb5uo0C7k800Bb5uo0C7k800Bbitc0C779c0Bbitc0C779c0Bbitc0C7x3w0Ba",
        "sw00C7x6o0Basw00C7x6o0Basw00C7x6o0Bb5uo0C7x6o0Basw00C7x6o0Basw00C7x6o0Basw00C7x6o0Basw",
        "00C7x6o0Bb5uo0C7k800Bb5uo0C7x6o0Basw00C7x6o0Basw00C7x6o0Basw00C7x6o0Basw00C7x6o0Basw00",
        "C8a5c0Basw00C7x6o0Basw00C7x6o0Basw00C7x6o0Bb5uo0C7k800Bb5uo0C7k800Bb5uo0C7x6o0Basw00C7",
        "x6o0Basw00C7x6o0Bb5uo0C7k800Bb5uo0C7k800Bb5uo0C7k800Bb5uo0C7x6o0Basw00C7x6o0Basw00C7x6",
        "o0Bb5uo0C7k800Bb5uo0C7k800Bb5uo0C7x6o0Basw00C7x6o0Basw00C7x6o0Basw00C7x6o0Bb5uo0C7k800",
        "Bb5uo0C7k800Bb5uo0C7x6o0Basw00C7x6o0Basw00C7x6o0Bb5uo0C7k800Bb5uo0C7k800Bb5uo0C7x6o0Ba",
        "sw00C7x6o0Basw00C7x6o0Basw00C7x6o0Bb5uo0C7k800Bb5uo0C7k800Bb5uo0C7x6o0Basw00C7x6o0Basw",
        "00C7x6o0Bb5uo0C7k800Bb5uo0C7k800Bb5uo0C7k800Bb5uo0C7x6o0Basw00C7x6o0Basw00"]⟩,
    ⟨"Europe/Istanbul",
      [⟨116, false⟩, ⟨117, false⟩, ⟨120, false⟩, ⟨180, true⟩, ⟨180, false⟩, ⟨240, true⟩],
      ["B0C4la3koD2wvx6wC7v980D1tjc40Caunw0D88dg0C9et80D8yas0Ca2vw0Dtzpg0C79180Dawo40C7v980D7p",
        "4040C4zjw0D2vs40Cf4d80D9vms0C1u5ek0Dc5440C69uk0Dacas0C8n180Da31g0C8n180D9q2s0C8zzw0Da3",
        "1g0C8zzw0Da31g0C8n180D5md9g0Co9zw0Da6qs0C75bw0D4iwyw0C7x6o0D7kas0Cb5rw0D75hg0Cbkl80D77",
        "c40Cbiqk0D7x9g0Ca2vw0D8n6s0E4iqc0F2nkw80E38l80Ckdes0D8qtc0C8a5c0D9ew00C9d1c0D9d1c0C9d1",
        "c0D9d1c0C9d1c0D9d1c0C9d1c0D9d1c0C9q000D9d1c0C9d1c0D9d1c0C9d1c0D9d1c0C9d1c0D902o0C9q000",
        "D9d1c0C9d1c0D9q000Casw00D7x6o0Casw00D7x6o0Casw00D7x6o0Cb5uo0D7k800Cb5uo0D7k800Cb5uo0D7",
        "x6o0Casw00D7x6o0Casw00D7x6o0Cb5uo0D7k800Cb5uo0D7k800Cb5uo0D7kdk0Cb5uo0D7x6o0Casw00D7x6",
        "o0Casw00D7x6o0Cb5uo0D7m2o0Cb4000D7k800Cb5uo0D7x6o0Casw00D7z1c0Car1c0D7x6o0Cbitc0D779c0",
        "E8fe80Eb5gbzj"]⟩,
    ⟨"Europe/Jersey", [⟨-8, false⟩, ⟨0, false⟩, ⟨60, true⟩, ⟨120, true⟩, ⟨60, false⟩],
      ["B0C7j7d7kB6uao0C9q000B8c000C9o5c0B9ruo0C9b6o0B9ew00C9b6o0Bauqo0C88ao0B9ew00C8y800Ba2yo",
        "0Ca2yo0B7k800Casw00B8a5c0Casw00B8n400Ca2yo0B8n400C9q000B902o0Cafxc0B8n400Ca2yo0B8n400C",
        "9q000B902o0Ca2yo0B8n400Ca2yo0B8n400C9q000B9d1c0Ca2yo0B8n400C9q000B902o0Ca2yo0B8n400Ca2",
        "yo0B8n400C9q000B902o0Ca2yo0Bb5uo0C51hc0D6kt00E17vs80D7k800E9q000D9d1c0E9d1c0D9d1c0D1uf",
        "o0C3i5o0B4bms0C9q000B902o0C8a5c0D1frw0C64dc0B4bms0C6uao0Bbvs00C7x6o0Basw00C8n400B9q000",
        "C902o0B9q000C9d1c0B9q000C902o0B8n400C9q000B902o0Ca2yo0B8n400Cafxc0B8n400C9q000B902o0Ca",
        "2yo0B8n400Ca2yo0B8n400C9q000B902o0C902o0Bb5uo0C7k800Bb5uo0C7x6o0Basw00C7k800Bb5uo0C7k8",
        "00Bb5uo0C7k800Bb5uo0C7k800Bbitc0C5reo0Ecyfo0B1kjf00C779c0Bbitc0C779c0Bbitc0C779c0Bbitc",
        "0C779c0Bbitc0C7k800Bb5uo0C7k800Bb5uo0C7k800Bbitc0C779c0Bbitc0C779c0Bbitc0C7x3w0Basw00C",
        "7x6o0Basw00C7x6o0Basw00C7x6o0Bb5uo0C7x6o0Basw00C7x6o0Basw00C7x6o0Basw00C7x6o0Basw00C7x",
        "6o0Bb5uo0C7k800Bb5uo0C7x6o0Basw00C7x6o0Basw00C7x6o0Basw00C7x6o0Basw00C7x6o0Basw00C8a5c",
        "0Basw00C7x6o0Basw00C7x6o0Basw00C7x6o0Bb5uo0C7k800Bb5uo0C7k800Bb5uo0C7x6o0Basw00C7x6o0B",
        "asw00C7x6o0Bb5uo0C7k800Bb5uo0C7k800Bb5uo0C7k800Bb5uo0C7x6o0Basw00C7x6o0Basw00C7x6o0Bb5",
        "uo0C7k800Bb5uo0C7k800Bb5uo0C7x6o0Basw00C7x6o0Basw00C7x6o0Basw00C7x6o0Bb5uo0C7k800Bb5uo",
        "0C7k800Bb5uo0C7x6o0Basw00C7x6o0Basw00C7x6o0Bb5uo0C7k800Bb5uo0C7k800Bb5uo0C7x6o0Basw00C",
        "7x6o0Basw00C7x6o0Basw00C7x6o0Bb5uo0C7k800Bb5uo0C7k800Bb5uo0C7x6o0Basw00C7x6o0Basw00C7x",
        "6o0Bb5uo0C7k800Bb5uo0C7k800Bb5uo0C7k800Bb5uo0C7x6o0Basw00C7x6o0Basw00"]⟩,
    ⟨"Europe/Kaliningrad",
      [⟨82, false⟩, ⟨60, false⟩, ⟨120, true⟩, ⟨120, false⟩, ⟨180, true⟩, ⟨180, false⟩,
        ⟨240, true⟩],
      ["B0C7i60rkB7ves0Ca4yw0B7x6o0Casw00B7x6o0Cb8qdc0B1cm000C7k800B9q000C9d1c0B9d1c0C9d1c0Del",
        "00Ez6o0D9kd80F82tg0Gi9avw0F9et80G9d440F9et80G9d440F9et80G9eys0F9d6w0G9d1c0F9d1c0G9d1c0",
        "F9d1c0G9d1c0F9d1c0G9d1c0F9d1c0E9d1c0D9d440E9d1c0D9q000E9d1c0D9d1c0E9d1c0D9d1c0E9d1c0D9",
        "d1c0E9d1c0D9d1c0E9d1c0D9d1c0E9q000Dasw00E7x6o0Dasw00E7x6o0Dasw00E7x6o0Db5uo0E7k800Db5u",
        "o0E7k800Db5uo0E7x6o0Dasw00E7x6o0Dasw00E7x6o0Db5uo0E7k800Db5uo0E7k800Db5uo0E7k800Db5uo0",
        "E7x6o0Dasw00E7x6o0Dasw00E7x6o0Db5uo0F7k800D1vbzw0"]⟩,
    ⟨"Europe/Kirov", [⟨199, false⟩, ⟨180, false⟩, ⟨240, false⟩, ⟨300, true⟩, ⟨240, true⟩],
      ["B95mwzkC5q5zo0Dqi27w0C9et80D9d440C9et80D9d440C9et80D9eys0C9d6w0D9d1c0C9d1c0D9d1c0C9d1c",
        "0D9d1c0C9d1c0D9d1c0C9d1c0E9d1c0B9d440E9d1c0B9q000C9d1c0Eipzw0B9d440E9d1c0B9d1c0E9d1c0B",
        "9d1c0E9d1c0B9d1c0E9q000Basw00E7x6o0Basw00E7x6o0Basw00E7x6o0Bb5uo0E7k800Bb5uo0E7k800Bb5",
        "uo0E7x6o0Basw00E7x6o0Basw00E7x6o0Bb5uo0E7k800Bb5uo0E7k800Bb5uo0E7k800Bb5uo0E7x6o0Basw0",
        "0E7x6o0Basw00E7x6o0Bb5uo0C7k800B1vbzw0"]⟩,
    ⟨"Europe/Kyiv",
      [⟨122, false⟩, ⟨120, false⟩, ⟨180, false⟩, ⟨120, true⟩, ⟨60, false⟩, ⟨240, true⟩,
        ⟨180, true⟩],
      ["A0Bboizc4C37a03gD5vd6k0Ekzv40D7k800E9q000C1oyg0Fjipzs0C9et80F9d440C9et80F9d440C9et80F9",
        "eys0C9d6w0F9d1c0C9d1c0F9d1c0C9d1c0F9d1c0C9d1c0F9d1c0C9d1c0F9d1c0C9d1c0F9d1c0G51ek0Bneq",
        "w0G9d1c0B9d1c0G9d1c0B9d1c0G9d1c0B9d1c0G9d1c0B9d1c0G9q000Basys0G7x6o0Basw00G7x6o0Basw00",
        "G7x6o0Bb5uo0G7k800Bb5uo0G7k800Bb5uo0G7x6o0Basw00G7x6o0Basw00G7x6o0Bb5uo0G7k800Bb5uo0G7",
        "k800Bb5uo0G7k800Bb5uo0G7x6o0Basw00G7x6o0Basw00G7x6o0Bb5uo0G7k800Bb5uo0G7k800Bb5uo0G7x6",
        "o0Basw00G7x6o0Basw00G7x6o0Basw00G7x6o0Bb5uo0G7k800Bb5uo0G7k800Bb5uo0G7x6o0Basw00G7x6o0",
        "Basw00G7x6o0Bb5uo0G7k800Bb5uo0G7k800Bb5uo0G7x6o0Basw00G7x6o0Basw00G7x6o0Basw00G7x6o0Bb",
        "5uo0G7k800Bb5uo0G7k800Bb5uo0G7x6o0Basw00G7x6o0Basw00G7x6o0Bb5uo0G7k800Bb5uo0G7k800Bb5u",
        "o0G7k800Bb5uo0G7x6o0Basw00G7x6o0Basw00"]⟩,
    ⟨"Europe/Lisbon", [⟨-37, false⟩, ⟨0, false⟩, ⟨60, true⟩, ⟨120, true⟩, ⟨60, false⟩],
      ["B58sjnkC2bufw0B6zxg0C66800Bbq580C71s40Bbq580C71s40Bbq580C73ms0Bbq580C71s40Bbq580C1b2g0",
        "0B8so00Cst1c0B8n400C9q000B902o0Ca2yo0B902o0Ca2yo0B8n400Cst1c0B8n400C9d1c0B9d1c0Csg2o0B",
        "9d1c0C902o0B9q000Ca2yo0B8n400C9d1c0B9d1c0C902o0B9q000Ca2yo0Bb5uo0C51hc0Bbmio0C99c00B9e",
        "w00C88ao0D25p80C5reo0B3lpg0C779c0D1sqk0C6uao0B38qs0C6uao0D25p80C6hc00B38qs0C6uao0D25p8",
        "0C6hc00B38qs0C8a5c0B9d1c0C9d9o0B9d1c0C9d1c0B9d1c0C9d1c0B9d1c0C9d1c0B9d1c0C9d1c0B9q000C",
        "9d1c0B9d1c0C9d1c0B9d1c0C9d1c0B9d1c0C9d1c0B9d1c0C9d1c0B9q000C9d1c0B9d1c0C9d1c0B9d1c0C9d",
        "1c0B9d1c0C9d1c0B9d1c0C9d1c0B9d1c0C9d1c0B9q000C9d1c0B9d1c0C9d1c0B9d1c0C9d1c0B9d1c0C9d1c",
        "0E9d1c0B57ljs0C9d1c0B9d1c0C9q2s0B9d1c0C9d1c0B9d1c0C9q000B902o0C9cyk0B9d1c0C9d1c0B9d1c0",
        "C9d1c0B9d1c0C9d1c0B9q000C9d1c0B9d1c0C9d440B9d1c0C9d1c0B9d1c0C9d1c0B9d1c0C9d1c0B9d1c0C9",
        "d1c0B9q000C9d1c0B9d1c0C9d1c0E9d1c0D9d1c0E9d1c0D9d1c0E9d1c0D9d1c0E9d1c0C9q000Basw00C7x6",
        "o0Basw00C7x6o0Basw00C7x6o0Bb5uo0C7k800Bb5uo0C7k800Bb5uo0C7x6o0Basw00C7x6o0Basw00C7x6o0",
        "Bb5uo0C7k800Bb5uo0C7k800Bb5uo0C7k800Bb5uo0C7x6o0Basw00C7x6o0Basw00C7x6o0Bb5uo0C7k800Bb",
        "5uo0C7k800Bb5uo0C7x6o0Basw00C7x6o0Basw00C7x6o0Basw00C7x6o0Bb5uo0C7k800Bb5uo0C7k800Bb5u",
        "o0C7x6o0Basw00C7x6o0Basw00C7x6o0Bb5uo0C7k800Bb5uo0C7k800Bb5uo0C7x6o0Basw00C7x6o0Basw00",
        "C7x6o0Basw00C7x6o0Bb5uo0C7k800Bb5uo0C7k800Bb5uo0C7x6o0Basw00C7x6o0Basw00C7x6o0Bb5uo0C7",
        "k800Bb5uo0C7k800Bb5uo0C7k800Bb5uo0C7x6o0Basw00C7x6o0Basw00"]⟩,
    ⟨"Europe/Ljubljana", [⟨58, false⟩, ⟨60, false⟩, ⟨120, true⟩],
      ["B0Ckj923kBswz00C7k800B9q000C9d1c0B9d1c0C9d1c0B8l9c0Cjl1hc0B9d1c0C9d1c0B9q000C9d1c0B9d1",
        "c0C9d1c0B9d1c0C9d1c0B9d1c0C9d1c0B9d1c0C9d1c0B9d1c0C9d1c0B9q000C9d1c0B9d1c0C9d1c0B9d1c0",
        "C9d1c0B9d1c0C9d1c0B9d1c0C9d1c0B9d1c0C9q000Basw00C7x6o0Basw00C7x6o0Basw00C7x6o0Bb5uo0C7",
        "k800Bb5uo0C7k800Bb5uo0C7x6o0Basw00C7x6o0Basw00C7x6o0Bb5uo0C7k800Bb5uo0C7k800Bb5uo0C7k8",
        "00Bb5uo0C7x6o0Basw00C7x6o0Basw00C7x6o0Bb5uo0C7k800Bb5uo0C7k800Bb5uo0C7x6o0Basw00C7x6o0",
        "Basw00C7x6o0Basw00C7x6o0Bb5uo0C7k800Bb5uo0C7k800Bb5uo0C7x6o0Basw00C7x6o0Basw00C7x6o0Bb",
        "5uo0C7k800Bb5uo0C7k800Bb5uo0C7x6o0Basw00C7x6o0Basw00C7x6o0Basw00C7x6o0Bb5uo0C7k800Bb5u",
        "o0C7k800Bb5uo0C7x6o0Basw00C7x6o0Basw00C7x6o0Bb5uo0C7k800Bb5uo0C7k800Bb5uo0C7k800Bb5uo0",
        "C7x6o0Basw00C7x6o0Basw00"]⟩,
    ⟨"Europe/London", [⟨-1, false⟩, ⟨0, false⟩, ⟨60, true⟩, ⟨120, true⟩, ⟨60, false⟩],
      ["B0C7j7d7kB6uao0C9q000B8c000C9o5c0B9ruo0C9b6o0B9ew00C9b6o0Bauqo0C88ao0B9ew00C8y800Ba2yo",
        "0Ca2yo0B7k800Casw00B8a5c0Casw00B8n400Ca2yo0B8n400C9q000B902o0Cafxc0B8n400Ca2yo0B8n400C",
        "9q000B902o0Ca2yo0B8n400Ca2yo0B8n400C9q000B9d1c0Ca2yo0B8n400C9q000B902o0Ca2yo0B8n400Ca2",
        "yo0B8n400C9q000B902o0Ca2yo0Bb5uo0C51hc0Dmbmk0C51hc0Dc8qo0C6hc00Dc8qo0C6uao0Dbvs00C8n40",
        "0Da4tc0C5clc0B4bms0C9q000B902o0C8a5c0D1frw0C64dc0B4bms0C6uao0Bbvs00C7x6o0Basw00C8n400B",
        "9q000C902o0B9q000C9d1c0B9q000C902o0B8n400C9q000B902o0Ca2yo0B8n400Cafxc0B8n400C9q000B90",
        "2o0Ca2yo0B8n400Ca2yo0B8n400C9q000B902o0C902o0Bb5uo0C7k800Bb5uo0C7x6o0Basw00C7k800Bb5uo",
        "0C7k800Bb5uo0C7k800Bb5uo0C7k800Bbitc0C5reo0Ecyfo0B1kjf00C779c0Bbitc0C779c0Bbitc0C779c0",
        "Bbitc0C779c0Bbitc0C7k800Bb5uo0C7k800Bb5uo0C7k800Bbitc0C779c0Bbitc0C779c0Bbitc0C7x3w0Ba",
        "sw00C7x6o0Basw00C7x6o0Basw00C7x6o0Bb5uo0C7x6o0Basw00C7x6o0Basw00C7x6o0Basw00C7x6o0Basw",
        "00C7x6o0Bb5uo0C7k800Bb5uo0C7x6o0Basw00C7x6o0Basw00C7x6o0Basw00C7x6o0Basw00C7x6o0Basw00",
        "C8a5c0Basw00C7x6o0Basw00C7x6o0Basw00C7x6o0Bb5uo0C7k800Bb5uo0C7k800Bb5uo0C7x6o0Basw00C7",
        "x6o0Basw00C7x6o0Bb5uo0C7k800Bb5uo0C7k800Bb5uo0C7k800Bb5uo0C7x6o0Basw00C7x6o0Basw00C7x6",
        "o0Bb5uo0C7k800Bb5uo0C7k800Bb5uo0C7x6o0Basw00C7x6o0Basw00C7x6o0Basw00C7x6o0Bb5uo0C7k800",
        "Bb5uo0C7k800Bb5uo0C7x6o0Basw00C7x6o0Basw00C7x6o0Bb5uo0C7k800Bb5uo0C7k800Bb5uo0C7x6o0Ba",
        "sw00C7x6o0Basw00C7x6o0Basw00C7x6o0Bb5uo0C7k800Bb5uo0C7k800Bb5uo0C7x6o0Basw00C7x6o0Basw",
        "00C7x6o0Bb5uo0C7k800Bb5uo0C7k800Bb5uo0C7k800Bb5uo0C7x6o0Basw00C7x6o0Basw00"]⟩,
    ⟨"Europe/Luxembourg", [⟨25, false⟩, ⟨60, false⟩, ⟨120, true⟩, ⟨0, false⟩, ⟨60, true⟩],
      ["B1aavukC68l290B75hg0Cast80B796s0Cat1k0B7x6o0D3lh40E4zmo0Db6300E6u2c0Dcytk0E7at40Dbktk0",
        "E7rh40Da31g0Ea2vw0D8n9k0E8zx40D9q2s0E9et80D9b9g0Ea2vw0D8n6s0E9px80D905g0Ea2vw0D905g0Ea",
        "2vw0D8ncc0E9q000D902o0Ea2yo0D8n400E9d1c0D9d1c0E902o0Da2yo0E9d1c0D9d1c0E902o0D9q000Ea2y",
        "o0D8n400E9d1c0D9d1c0E902o0D9q000Ea2yo0Db5uo0E51hc0C42ao0B1aeak0C7k800B9q000C9d1c0B8n40",
        "0Ca2yo0B8l9c0Cclpc0B79400Cfwu800B902o0C9q000B9d1c0C9d1c0B9d1c0C9q000B902o0C9d1c0B9d1c0",
        "C9d1c0B9d1c0C9d1c0B9d1c0C9d1c0B9q000C9d1c0B9d1c0C9d1c0B9d1c0C9d1c0B9d1c0C9d1c0B9d1c0C9",
        "d1c0B9d1c0C9d1c0B9q000C9d1c0B9d1c0C9d1c0B9d1c0C9d1c0B9d1c0C9d1c0B9d1c0C9d1c0B9d1c0C9q0",
        "00Basw00C7x6o0Basw00C7x6o0Basw00C7x6o0Bb5uo0C7k800Bb5uo0C7k800Bb5uo0C7x6o0Basw00C7x6o0",
        "Basw00C7x6o0Bb5uo0C7k800Bb5uo0C7k800Bb5uo0C7k800Bb5uo0C7x6o0Basw00C7x6o0Basw00C7x6o0Bb",
        "5uo0C7k800Bb5uo0C7k800Bb5uo0C7x6o0Basw00C7x6o0Basw00C7x6o0Basw00C7x6o0Bb5uo0C7k800Bb5u",
        "o0C7k800Bb5uo0C7x6o0Basw00C7x6o0Basw00C7x6o0Bb5uo0C7k800Bb5uo0C7k800Bb5uo0C7x6o0Basw00",
        "C7x6o0Basw00C7x6o0Basw00C7x6o0Bb5uo0C7k800Bb5uo0C7k800Bb5uo0C7x6o0Basw00C7x6o0Basw00C7",
        "x6o0Bb5uo0C7k800Bb5uo0C7k800Bb5uo0C7k800Bb5uo0C7x6o0Basw00C7x6o0Basw00"]⟩,
    ⟨"Europe/Madrid", [⟨-15, false⟩, ⟨0, false⟩, ⟨60, true⟩, ⟨120, true⟩, ⟨60, false⟩],
      ["B0C8iy67kB8yas0C9cyk0B9eys0C2d2vw0B8sqs0Cssyk0B8n6s0C9px80B905g0Ca2yo0B902o0Ca2vw0B8n6",
        "s0C40lh80B5k2s0C9cyk0D1frw0C7z1c0Bj1c80E8a2k0D13yt80E685g0Dbrzw0E8n6s0Da2vw0E8n6s0Da2v",
        "w0E8n6s0Da2vw0E8n6s0D1clx80E7x9g0Dcswik0E905g0D9px80E905g0D8zzw0E9d440D9px80E905g0D9q5",
        "k0E9d1c0D9d1c0E9d1c0D9q000E902o0D9d1c0E9d1c0D9d1c0E9d1c0D9d1c0E9d1c0D9d1c0E9q000D9d1c0",
        "E9d1c0D9d1c0E9d1c0D9d1c0E9d1c0D9d1c0E9d1c0D9d1c0E9d1c0D9d1c0E9q000D9d1c0E9d1c0D9d1c0E9",
        "d1c0D9d1c0E9d1c0D9d1c0E9d1c0D9d1c0E9d1c0D9q000Easw00D7x6o0Easw00D7x6o0Easw00D7x6o0Eb5u",
        "o0D7k800Eb5uo0D7k800Eb5uo0D7x6o0Easw00D7x6o0Easw00D7x6o0Eb5uo0D7k800Eb5uo0D7k800Eb5uo0",
        "D7k800Eb5uo0D7x6o0Easw00D7x6o0Easw00D7x6o0Eb5uo0D7k800Eb5uo0D7k800Eb5uo0D7x6o0Easw00D7",
        "x6o0Easw00D7x6o0Easw00D7x6o0Eb5uo0D7k800Eb5uo0D7k800Eb5uo0D7x6o0Easw00D7x6o0Easw00D7x6",
        "o0Eb5uo0D7k800Eb5uo0D7k800Eb5uo0D7x6o0Easw00D7x6o0Easw00D7x6o0Easw00D7x6o0Eb5uo0D7k800",
        "Eb5uo0D7k800Eb5uo0D7x6o0Easw00D7x6o0Easw00D7x6o0Eb5uo0D7k800Eb5uo0D7k800Eb5uo0D7k800Eb",
        "5uo0D7x6o0Easw00D7x6o0Easw00"]⟩,
    ⟨"Europe/Malta", [⟨58, false⟩, ⟨60, false⟩, ⟨120, true⟩],
      ["B0C7jx27kB64ak0C9d440B9et80C88dg0Baunw0C7ig40Bb5rw0C8n6s0B9cyk0Caau2s0B18r9k0C7k800B9q",
        "000C9b6o0B8n400Ca4tc0B8j940C9f1k0Bafxc0C89zs0Bafxc0C7kdk0Bb5uo0C979rs0B6h980Ccls40B64d",
        "c0Cclpc0B64dc0Ccyo00B64dc0Cclpc0B64dc0Cc8qo0B6hc00Cclpc0B6hc00C9b6o0B9d1c0Cahs00B7m2o0",
        "Cb45k0B7x3w0Casys0B7x3w0Casys0B7x3w0Casys0B7x3w0Casys0B7x3w0Ca4w40B8y580C9q2s0B9d1c0C9",
        "d1c0B9d1c0C9d1c0B9d1c0C9d1c0B9q000C9d1c0B9d1c0C9d1c0B9d1c0C9d1c0B9d1c0C9d1c0B9d1c0C9d1",
        "c0B9d1c0C9d1c0B9q000C9d1c0B9d1c0C9d1c0B9d1c0C9d1c0B9d1c0C9d1c0B9d1c0C9d1c0B9d1c0C9q000",
        "Basw00C7x6o0Basw00C7x6o0Basw00C7x6o0Bb5uo0C7k800Bb5uo0C7k800Bb5uo0C7x6o0Basw00C7x6o0Ba",
        "sw00C7x6o0Bb5uo0C7k800Bb5uo0C7k800Bb5uo0C7k800Bb5uo0C7x6o0Basw00C7x6o0Basw00C7x6o0Bb5u",
        "o0C7k800Bb5uo0C7k800Bb5uo0C7x6o0Basw00C7x6o0Basw00C7x6o0Basw00C7x6o0Bb5uo0C7k800Bb5uo0",
        "C7k800Bb5uo0C7x6o0Basw00C7x6o0Basw00C7x6o0Bb5uo0C7k800Bb5uo0C7k800Bb5uo0C7x6o0Basw00C7",
        "x6o0Basw00C7x6o0Basw00C7x6o0Bb5uo0C7k800Bb5uo0C7k800Bb5uo0C7x6o0Basw00C7x6o0Basw00C7x6",
        "o0Bb5uo0C7k800Bb5uo0C7k800Bb5uo0C7k800Bb5uo0C7x6o0Basw00C7x6o0Basw00"]⟩,
    ⟨"Europe/Minsk",
      [⟨110, false⟩, ⟨120, false⟩, ⟨180, false⟩, ⟨120, true⟩, ⟨60, false⟩, ⟨240, true⟩,
        ⟨180, true⟩],
      ["A0Bboizw8C379zjcD5r1mk0Epbf40D7k800E9q000D9d1c0C4oac0Fj6dmk0C9et80F9d440C9et80F9d440C9",
        "et80F9eys0C9d6w0F9d1c0C9d1c0F9d1c0C9d1c0F9d1c0C9d1c0F9d1c0C9d1c0F9d1c0C9d1c0Gsg2o0B9d4",
        "40G9d1c0B9d1c0G9d1c0B9d1c0G9d1c0B9d1c0G9d1c0B9d1c0G9q000Basw00G7x6o0Basw00G7x6o0Basw00",
        "G7x6o0Bb5uo0G7k800Bb5uo0G7k800Bb5uo0G7x6o0Basw00G7x6o0Basw00G7x6o0Bb5uo0G7k800Bb5uo0G7",
        "k800Bb5uo0G7k800Bb5uo0G7x6o0Basw00G7x6o0Basw00G7x6o0Bb5uo0C7k800Cdzv4zj"]⟩,
    ⟨"Europe/Monaco",
      [⟨30, false⟩, ⟨9, false⟩, ⟨0, false⟩, ⟨60, true⟩, ⟨120, true⟩, ⟨60, false⟩],
      ["B0C4uhpvzD2pzpnlC5luo0D8y800Ca4tc0D7vc00Cauqo0D7idc0Cb7pc0D6sg00Ccyo00D7ayo0Cbko00D7rm",
        "o0Ca2yo0Dbvs00C6uao0D902o0C9q000D9d1c0C9d1c0Da2yo0C8n400D9q000C902o0Da2yo0C902o0Da2yo0",
        "C8n400D9q000C902o0Da2yo0C8n400D9d1c0C9d1c0D902o0Ca2yo0D9d1c0C9d1c0D902o0C9q000Da2yo0C8",
        "n400D9d1c0C9d1c0D902o0C9q000Da2yo0Cb5uo0D51po0Emdbo0D7x3w0E7x9g0Dc8w80E7k800D9q000E9d1",
        "c0D9nzs0E922w0F8l9c0Efxlx80F9cyk0E9q5k0F902o0E9q000F9d1c0E9d1c0F9d1c0E9q000F902o0E9d1c",
        "0F9d1c0E9d1c0F9d1c0E9d1c0F9d1c0E9d1c0F9q000E9d1c0F9d1c0E9d1c0F9d1c0E9d1c0F9d1c0E9d1c0F",
        "9d1c0E9d1c0F9d1c0E9d1c0F9q000E9d1c0F9d1c0E9d1c0F9d1c0E9d1c0F9d1c0E9d1c0F9d1c0E9d1c0F9d",
        "1c0E9q000Fasw00E7x6o0Fasw00E7x6o0Fasw00E7x6o0Fb5uo0E7k800Fb5uo0E7k800Fb5uo0E7x6o0Fasw0",
        "0E7x6o0Fasw00E7x6o0Fb5uo0E7k800Fb5uo0E7k800Fb5uo0E7k800Fb5uo0E7x6o0Fasw00E7x6o0Fasw00E",
        "7x6o0Fb5uo0E7k800Fb5uo0E7k800Fb5uo0E7x6o0Fasw00E7x6o0Fasw00E7x6o0Fasw00E7x6o0Fb5uo0E7k",
        "800Fb5uo0E7k800Fb5uo0E7x6o0Fasw00E7x6o0Fasw00E7x6o0Fb5uo0E7k800Fb5uo0E7k800Fb5uo0E7x6o",
        "0Fasw00E7x6o0Fasw00E7x6o0Fasw00E7x6o0Fb5uo0E7k800Fb5uo0E7k800Fb5uo0E7x6o0Fasw00E7x6o0F",
        "asw00E7x6o0Fb5uo0E7k800Fb5uo0E7k800Fb5uo0E7k800Fb5uo0E7x6o0Fasw00E7x6o0Fasw00"]⟩,
    ⟨"Europe/Moscow",
      [⟨150, false⟩, ⟨151, false⟩, ⟨211, true⟩, ⟨271, true⟩, ⟨240, true⟩, ⟨180, false⟩,
        ⟨300, true⟩, ⟨120, false⟩, ⟨180, true⟩, ⟨240, false⟩],
      ["A0B7lend3CipzuaB97hc0D7yyk0C5i840Dd9p80E1jwk7F2cvk0Es8o00G1qvw0E8fpc0F1jms0His040F412a",
        "s0Eqi27w0F9et80E9d440F9et80E9d440F9et80E9eys0F9d6w0E9d1c0F9d1c0E9d1c0F9d1c0E9d1c0F9d1c",
        "0E9d1c0F9d1c0E9d1c0F9d1c0E9d1c0F9q000I9d1c0H9d440F5reo0E3ljw0F9d1c0E9d1c0F9d1c0E9d1c0F",
        "9d1c0E9d1c0F9d1c0E9q000Fasw00E7x6o0Fasw00E7x6o0Fasw00E7x6o0Fb5uo0E7k800Fb5uo0E7k800Fb5",
        "uo0E7x6o0Fasw00E7x6o0Fasw00E7x6o0Fb5uo0E7k800Fb5uo0E7k800Fb5uo0E7k800Fb5uo0E7x6o0Fasw0",
        "0E7x6o0Fasw00E7x6o0Fb5uo0J7k800F1vbzw0"]⟩,
    ⟨"Europe/Oslo", [⟨43, false⟩, ⟨60, false⟩, ⟨120, true⟩],
      ["B0C7j92bkB6qfs0Ccgcqo0B15tsc0C7k800B9q000C9d1c0B9d1c0C9d1c0B9d1c0C70q5c0B9q000C9d1c0B9",
        "d1c0C9d1c0B9d1c0C9d1c0B9d1c0C9d1c0B9d1c0C9d1c0B9q000Cb5uo0B7k800C7law00B902o0C9d1c0B9d",
        "1c0C9d1c0B9d1c0C9d1c0B9d1c0C9d1c0B9q000C9d1c0B9d1c0C9d1c0B9d1c0C9d1c0B9d1c0C9d1c0B9d1c",
        "0C9d1c0B9d1c0C9d1c0B9q000C9d1c0B9d1c0C9d1c0B9d1c0C9d1c0B9d1c0C9d1c0B9d1c0C9d1c0B9d1c0C",
        "9q000Basw00C7x6o0Basw00C7x6o0Basw00C7x6o0Bb5uo0C7k800Bb5uo0C7k800Bb5uo0C7x6o0Basw00C7x",
        "6o0Basw00C7x6o0Bb5uo0C7k800Bb5uo0C7k800Bb5uo0C7k800Bb5uo0C7x6o0Basw00C7x6o0Basw00C7x6o",
        "0Bb5uo0C7k800Bb5uo0C7k800Bb5uo0C7x6o0Basw00C7x6o0Basw00C7x6o0Basw00C7x6o0Bb5uo0C7k800B",
        "b5uo0C7k800Bb5uo0C7x6o0Basw00C7x6o0Basw00C7x6o0Bb5uo0C7k800Bb5uo0C7k800Bb5uo0C7x6o0Bas",
        "w00C7x6o0Basw00C7x6o0Basw00C7x6o0Bb5uo0C7k800Bb5uo0C7k800Bb5uo0C7x6o0Basw00C7x6o0Basw0",
        "0C7x6o0Bb5uo0C7k800Bb5uo0C7k800Bb5uo0C7k800Bb5uo0C7x6o0Basw00C7x6o0Basw00"]⟩,
    ⟨"Europe/Paris", [⟨9, false⟩, ⟨0, false⟩, ⟨60, true⟩, ⟨120, true⟩, ⟨60, false⟩],
      ["A0B4tkdvzC2qx1nlB5luo0C8y800Ba4tc0C7vc00Bauqo0C7idc0Bb7pc0C6sg00Bcyo00C7ayo0Bbko00C7rm",
        "o0Ba2yo0Cbvs00B6uao0C902o0B9q000C9d1c0B9d1c0Ca2yo0B8n400C9q000B902o0Ca2yo0B902o0Ca2yo0",
        "B8n400C9q000B902o0Ca2yo0B8n400C9d1c0B9d1c0C902o0Ba2yo0C9d1c0B9d1c0C902o0B9q000Ca2yo0B8",
        "n400C9d1c0B9d1c0C902o0B9q000Ca2yo0Bb5uo0C51po0D5p8w0E18rcc0D7k800E9q000D9d1c0D7efo0E29",
        "k40D922w0E8l9c0Dfxlx80E9cyk0D9q5k0E902o0D9q000E9d1c0D9d1c0E9d1c0D9q000E902o0D9d1c0E9d1",
        "c0D9d1c0E9d1c0D9d1c0E9d1c0D9d1c0E9q000D9d1c0E9d1c0D9d1c0E9d1c0D9d1c0E9d1c0D9d1c0E9d1c0",
        "D9d1c0E9d1c0D9d1c0E9q000D9d1c0E9d1c0D9d1c0E9d1c0D9d1c0E9d1c0D9d1c0E9d1c0D9d1c0E9d1c0D9",
        "q000Easw00D7x6o0Easw00D7x6o0Easw00D7x6o0Eb5uo0D7k800Eb5uo0D7k800Eb5uo0D7x6o0Easw00D7x6",
        "o0Easw00D7x6o0Eb5uo0D7k800Eb5uo0D7k800Eb5uo0D7k800Eb5uo0D7x6o0Easw00D7x6o0Easw00D7x6o0",
        "Eb5uo0D7k800Eb5uo0D7k800Eb5uo0D7x6o0Easw00D7x6o0Easw00D7x6o0Easw00D7x6o0Eb5uo0D7k800Eb",
        "5uo0D7k800Eb5uo0D7x6o0Easw00D7x6o0Easw00D7x6o0Eb5uo0D7k800Eb5uo0D7k800Eb5uo0D7x6o0Easw",
        "00D7x6o0Easw00D7x6o0Easw00D7x6o0Eb5uo0D7k800Eb5uo0D7k800Eb5uo0D7x6o0Easw00D7x6o0Easw00",
        "D7x6o0Eb5uo0D7k800Eb5uo0D7k800Eb5uo0D7k800Eb5uo0D7x6o0Easw00D7x6o0Easw00"]⟩,
    ⟨"Europe/Prague", [⟨58, false⟩, ⟨60, false⟩, ⟨120, true⟩, ⟨0, true⟩],
      ["B0C7i60rkB7ves0Ca4yw0B7x6o0Casw00B7x6o0Cb8qdc0B1cm000C7k800B9q000C9d1c0B9d1c0C9d1c0B9d",
        "1c0Cb5uo0B7vc00D2vs40B4bk00C2vmk0B8n400Ca2yo0B8n400C9o5c0B91xc0Cfe6000B9d1c0C9q000B902",
        "o0C9d1c0B9d1c0C9d1c0B9d1c0C9d1c0B9d1c0C9d1c0B9q000C9d1c0B9d1c0C9d1c0B9d1c0C9d1c0B9d1c0",
        "C9d1c0B9d1c0C9d1c0B9d1c0C9d1c0B9q000C9d1c0B9d1c0C9d1c0B9d1c0C9d1c0B9d1c0C9d1c0B9d1c0C9",
        "d1c0B9d1c0C9q000Basw00C7x6o0Basw00C7x6o0Basw00C7x6o0Bb5uo0C7k800Bb5uo0C7k800Bb5uo0C7x6",
        "o0Basw00C7x6o0Basw00C7x6o0Bb5uo0C7k800Bb5uo0C7k800Bb5uo0C7k800Bb5uo0C7x6o0Basw00C7x6o0",
        "Basw00C7x6o0Bb5uo0C7k800Bb5uo0C7k800Bb5uo0C7x6o0Basw00C7x6o0Basw00C7x6o0Basw00C7x6o0Bb",
        "5uo0C7k800Bb5uo0C7k800Bb5uo0C7x6o0Basw00C7x6o0Basw00C7x6o0Bb5uo0C7k800Bb5uo0C7k800Bb5u",
        "o0C7x6o0Basw00C7x6o0Basw00C7x6o0Basw00C7x6o0Bb5uo0C7k800Bb5uo0C7k800Bb5uo0C7x6o0Basw00",
        "C7x6o0Basw00C7x6o0Bb5uo0C7k800Bb5uo0C7k800Bb5uo0C7k800Bb5uo0C7x6o0Basw00C7x6o0Basw00"]⟩,
    ⟨"Europe/Riga",
      [⟨97, false⟩, ⟨157, true⟩, ⟨120, false⟩, ⟨180, false⟩, ⟨120, true⟩, ⟨60, false⟩,
        ⟨240, true⟩, ⟨180, true⟩],
      ["A0B8iwfemA7x6o0Ba4tc0A2mg00C3myns0D7fhlkyEgz180Fp5v40E7k800F9q000E9d1c0F9d1c0Dk7s0Gj14",
        "ns0D9et80G9d440D9et80G9d440D9et80G9eys0D9d6w0G9d1c0D9d1c0G9d1c0D9d1c0G9d1c0D9d1c0G9d1c",
        "0D9d1c0H9d1c0C9d440H9d1c0C9q000H9d1c0C9d1c0H9d1c0C9d1c0H9d1c0C9d1c0H9d1c0C9d1c0H9d1c0C",
        "9d1c0H9q000C9d1c0H9d440Casw00H7x6o0Casw00H7x6o0Cb5uo0Hqaao0Cb5uo0H7x6o0Casw00H7x6o0Cas",
        "w00H7x6o0Cb5uo0H7k800Cb5uo0H7k800Cb5uo0H7k800Cb5uo0H7x6o0Casw00H7x6o0Casw00H7x6o0Cb5uo",
        "0H7k800Cb5uo0H7k800Cb5uo0H7x6o0Casw00H7x6o0Casw00H7x6o0Casw00H7x6o0Cb5uo0H7k800Cb5uo0H",
        "7k800Cb5uo0H7x6o0Casw00H7x6o0Casw00H7x6o0Cb5uo0H7k800Cb5uo0H7k800Cb5uo0H7x6o0Casw00H7x",
        "6o0Casw00H7x6o0Casw00H7x6o0Cb5uo0H7k800Cb5uo0H7k800Cb5uo0H7x6o0Casw00H7x6o0Casw00H7x6o",
        "0Cb5uo0H7k800Cb5uo0H7k800Cb5uo0H7k800Cb5uo0H7x6o0Casw00H7x6o0Casw00"]⟩,
    ⟨"Europe/Rome", [⟨50, false⟩, ⟨60, false⟩, ⟨120, true⟩],
      ["B0C7jx27kB64ak0C9d440B9et80C88dg0Baunw0C7ig40Bb5rw0C8n6s0B9cyk0Caau2s0B18r9k0C7k800B9q",
        "000C9d1c0B8l9c0Ca4tc0B8j940C9f1k0Bafxc0C89zs0Bafxc0C7kdk0Bb5uo0C979rs0B6h980Ccls40B64d",
        "c0Cclpc0B64dc0Ccyo00B64dc0Cclpc0B64dc0Cc8qo0B6hc00Cclpc0B6hc00Cclpc0B64dc0Cc8qo0B6hc00",
        "Cclpc0B64dc0Cclpc0B64dc0Cc8qo0B6hc00Cclpc0B6hc00Cc8qo0B6hc00C9q5k0B902o0C9d1c0B9d1c0C9",
        "d1c0B9d1c0C9d1c0B9d1c0C9d1c0B9q000C9d1c0B9d1c0C9d1c0B9d1c0C9d1c0B9d1c0C9d1c0B9d1c0C9d1",
        "c0B9d1c0C9d1c0B9q000C9d1c0B9d1c0C9d1c0B9d1c0C9d1c0B9d1c0C9d1c0B9d1c0C9d1c0B9d1c0C9q000",
        "Basw00C7x6o0Basw00C7x6o0Basw00C7x6o0Bb5uo0C7k800Bb5uo0C7k800Bb5uo0C7x6o0Basw00C7x6o0Ba",
        "sw00C7x6o0Bb5uo0C7k800Bb5uo0C7k800Bb5uo0C7k800Bb5uo0C7x6o0Basw00C7x6o0Basw00C7x6o0Bb5u",
        "o0C7k800Bb5uo0C7k800Bb5uo0C7x6o0Basw00C7x6o0Basw00C7x6o0Basw00C7x6o0Bb5uo0C7k800Bb5uo0",
        "C7k800Bb5uo0C7x6o0Basw00C7x6o0Basw00C7x6o0Bb5uo0C7k800Bb5uo0C7k800Bb5uo0C7x6o0Basw00C7",
        "x6o0Basw00C7x6o0Basw00C7x6o0Bb5uo0C7k800Bb5uo0C7k800Bb5uo0C7x6o0Basw00C7x6o0Basw00C7x6",
        "o0Bb5uo0C7k800Bb5uo0C7k800Bb5uo0C7k800Bb5uo0C7x6o0Basw00C7x6o0Basw00"]⟩,
    ⟨"Europe/Samara",
      [⟨200, false⟩, ⟨180, false⟩, ⟨240, false⟩, ⟨300, true⟩, ⟨240, true⟩, ⟨180, true⟩],
      ["B95mwzkC5q5zo0Dqi27w0C9et80D9d440C9et80D9d440C9et80D9eys0C9d6w0D9d1c0C9d1c0D9d1c0C9d1c",
        "0D9d1c0C9d1c0D9d1c0C9d1c0E9d1c0B9d440E9d1c0B9q000F9d1c0B9d440C12w00D89zs0C9d1c0D9d1c0C",
        "9d1c0D9d1c0C9d1c0D9d1c0C9d1c0D9q000Casw00D7x6o0Casw00D7x6o0Casw00D7x6o0Cb5uo0D7k800Cb5",
        "uo0D7k800Cb5uo0D7x6o0Casw00D7x6o0Casw00D7x6o0Cb5uo0D7k800Cb5uo0D7k800Cb5uo0D7k800Cb5uo",
        "0D7x6o0Casw00D7x6o0Casw00E7x6o0Bb5xg0C7k800Cdzv7rj"]⟩,
    ⟨"Europe/Sarajevo", [⟨74, false⟩, ⟨60, false⟩, ⟨120, true⟩],
      ["B0Ckj923kBswz00C7k800B9q000C9d1c0B9d1c0C9d1c0B8l9c0Cjl1hc0B9d1c0C9d1c0B9q000C9d1c0B9d1",
        "c0C9d1c0B9d1c0C9d1c0B9d1c0C9d1c0B9d1c0C9d1c0B9d1c0C9d1c0B9q000C9d1c0B9d1c0C9d1c0B9d1c0",
        "C9d1c0B9d1c0C9d1c0B9d1c0C9d1c0B9d1c0C9q000Basw00C7x6o0Basw00C7x6o0Basw00C7x6o0Bb5uo0C7",
        "k800Bb5uo0C7k800Bb5uo0C7x6o0Basw00C7x6o0Basw00C7x6o0Bb5uo0C7k800Bb5uo0C7k800Bb5uo0C7k8",
        "00Bb5uo0C7x6o0Basw00C7x6o0Basw00C7x6o0Bb5uo0C7k800Bb5uo0C7k800Bb5uo0C7x6o0Basw00C7x6o0",
        "Basw00C7x6o0Basw00C7x6o0Bb5uo0C7k800Bb5uo0C7k800Bb5uo0C7x6o0Basw00C7x6o0Basw00C7x6o0Bb",
        "5uo0C7k800Bb5uo0C7k800Bb5uo0C7x6o0Basw00C7x6o0Basw00C7x6o0Basw00C7x6o0Bb5uo0C7k800Bb5u",
        "o0C7k800Bb5uo0C7x6o0Basw00C7x6o0Basw00C7x6o0Bb5uo0C7k800Bb5uo0C7k800Bb5uo0C7k800Bb5uo0",
        "C7x6o0Basw00C7x6o0Basw00"]⟩,
    ⟨"Europe/Saratov", [⟨184, false⟩, ⟨180, false⟩, ⟨240, false⟩, ⟨300, true⟩, ⟨240, true⟩],
      ["B95mwzkC5q5zo0Dqi27w0C9et80D9d440C9et80D9d440C9et80D9eys0C9d6w0D9d1c0C9d1c0D9d1c0C9d1c",
        "0D9d1c0C9d1c0E9d1c0B9d440E9d1c0B9d1c0E9d1c0B9q000C9d1c0Eipzw0B9d440E9d1c0B9d1c0E9d1c0B",
        "9d1c0E9d1c0B9d1c0E9q000Basw00E7x6o0Basw00E7x6o0Basw00E7x6o0Bb5uo0E7k800Bb5uo0E7k800Bb5",
        "uo0E7x6o0Basw00E7x6o0Basw00E7x6o0Bb5uo0E7k800Bb5uo0E7k800Bb5uo0E7k800Bb5uo0E7x6o0Basw0",
        "0E7x6o0Basw00E7x6o0Bb5uo0C7k800B1vbzw0C13m040Cb0x7rj"]⟩,
    ⟨"Europe/Simferopol",
      [⟨136, false⟩, ⟨120, false⟩, ⟨180, false⟩, ⟨120, true⟩, ⟨60, false⟩, ⟨240, true⟩,
        ⟨180, true⟩, ⟨240, false⟩],
      ["A0BboiyowC37a0qoD5xiyk0Eiu340D7k800E9q000D9d1c0Ciac0Fjajmk0C9et80F9d440C9et80F9d440C9e",
        "t80F9eys0C9d6w0F9d1c0C9d1c0F9d1c0C9d1c0F9d1c0C9d1c0F9d1c0C9d1c0F9d1c0C9d1c0Beeio0Gwrpg",
        "0B9d1c0G9d1c0B9d1c0G9d1c0F1sl00C7kdk0F9d1c0C9d1c0F9pug0Cat4c0G7x9g0Basw00G7x6o0Basw00G",
        "7x6o0Bb5uo0G7k800Bb5uo0G7k800Bb5uo0G7x6o0Basw00G7x6o0Basw00G7x6o0Bb5uo0G7k800Bb5uo0G7k",
        "800Bb5uo0G7k800Bb5uo0G7x6o0Basw00G7x6o0Basw00G7x6o0Bb5uo0G7k800Bb5uo0G7k800Bb5uo0G7x6o",
        "0Basw00H7x3w0Casqg0"]⟩,
    ⟨"Europe/Skopje", [⟨86, false⟩, ⟨60, false⟩, ⟨120, true⟩],
      ["B0Ckj923kBswz00C7k800B9q000C9d1c0B9d1c0C9d1c0B8l9c0Cjl1hc0B9d1c0C9d1c0B9q000C9d1c0B9d1",
        "c0C9d1c0B9d1c0C9d1c0B9d1c0C9d1c0B9d1c0C9d1c0B9d1c0C9d1c0B9q000C9d1c0B9d1c0C9d1c0B9d1c0",
        "C9d1c0B9d1c0C9d1c0B9d1c0C9d1c0B9d1c0C9q000Basw00C7x6o0Basw00C7x6o0Basw00C7x6o0Bb5uo0C7",
        "k800Bb5uo0C7k800Bb5uo0C7x6o0Basw00C7x6o0Basw00C7x6o0Bb5uo0C7k800Bb5uo0C7k800Bb5uo0C7k8",
        "00Bb5uo0C7x6o0Basw00C7x6o0Basw00C7x6o0Bb5uo0C7k800Bb5uo0C7k800Bb5uo0C7x6o0Basw00C7x6o0",
        "Basw00C7x6o0Basw00C7x6o0Bb5uo0C7k800Bb5uo0C7k800Bb5uo0C7x6o0Basw00C7x6o0Basw00C7x6o0Bb",
        "5uo0C7k800Bb5uo0C7k800Bb5uo0C7x6o0Basw00C7x6o0Basw00C7x6o0Basw00C7x6o0Bb5uo0C7k800Bb5u",
        "o0C7k800Bb5uo0C7x6o0Basw00C7x6o0Basw00C7x6o0Bb5uo0C7k800Bb5uo0C7k800Bb5uo0C7k800Bb5uo0",
        "C7x6o0Basw00C7x6o0Basw00"]⟩,
    ⟨"Europe/Sofia", [⟨93, false⟩, ⟨120, false⟩, ⟨60, false⟩, ⟨120, true⟩, ⟨180, true⟩],
      ["B0Clc613kD7k800C9q000D9d1c0C9d1c0B9d440Ehqq240B9eys0E9o2k0B92040E9o2k0B90880E9pug0B90b",
        "00E9d1c0B9d1c0E9d1c0B9q000E9d1c0B9d1c0E9d1c0B9d1c0E9d1c0B9d1c0E9d1c0B9d1c0E9d1c0B9d1c0",
        "E9d1c0B9q000E9cvs0B9cyk0E9d440B9cyk0E9d440B9cyk0E9d440B9cyk0E9d440B9cyk0E9q2s0Bast80E7",
        "xhs0Basw00E7x6o0Basw00E7x6o0Bb5uo0E7k800Bb5uo0E7k800Bb5uo0E7x6o0Basw00E7x6o0Basw00E7x6",
        "o0Bb5uo0E7k800Bb5uo0E7k800Bb5uo0E7k800Bb5uo0E7x6o0Basw00E7x6o0Basw00E7x6o0Bb5uo0E7k800",
        "Bb5uo0E7k800Bb5uo0E7x6o0Basw00E7x6o0Basw00E7x6o0Basw00E7x6o0Bb5uo0E7k800Bb5uo0E7k800Bb",
        "5uo0E7x6o0Basw00E7x6o0Basw00E7x6o0Bb5uo0E7k800Bb5uo0E7k800Bb5uo0E7x6o0Basw00E7x6o0Basw",
        "00E7x6o0Basw00E7x6o0Bb5uo0E7k800Bb5uo0E7k800Bb5uo0E7x6o0Basw00E7x6o0Basw00E7x6o0Bb5uo0",
        "E7k800Bb5uo0E7k800Bb5uo0E7k800Bb5uo0E7x6o0Basw00E7x6o0Basw00"]⟩,
    ⟨"Europe/Stockholm", [⟨72, false⟩, ⟨60, false⟩, ⟨120, true⟩],
      ["B0C7ivy3kB75hg0Cx5bew0B902o0C9d1c0B9d1c0C9d1c0B9d1c0C9d1c0B9d1c0C9d1c0B9q000C9d1c0B9d1",
        "c0C9d1c0B9d1c0C9d1c0B9d1c0C9d1c0B9d1c0C9d1c0B9d1c0C9d1c0B9q000C9d1c0B9d1c0C9d1c0B9d1c0",
        "C9d1c0B9d1c0C9d1c0B9d1c0C9d1c0B9d1c0C9q000Basw00C7x6o0Basw00C7x6o0Basw00C7x6o0Bb5uo0C7",
        "k800Bb5uo0C7k800Bb5uo0C7x6o0Basw00C7x6o0Basw00C7x6o0Bb5uo0C7k800Bb5uo0C7k800Bb5uo0C7k8",
        "00Bb5uo0C7x6o0Basw00C7x6o0Basw00C7x6o0Bb5uo0C7k800Bb5uo0C7k800Bb5uo0C7x6o0Basw00C7x6o0",
        "Basw00C7x6o0Basw00C7x6o0Bb5uo0C7k800Bb5uo0C7k800Bb5uo0C7x6o0Basw00C7x6o0Basw00C7x6o0Bb",
        "5uo0C7k800Bb5uo0C7k800Bb5uo0C7x6o0Basw00C7x6o0Basw00C7x6o0Basw00C7x6o0Bb5uo0C7k800Bb5u",
        "o0C7k800Bb5uo0C7x6o0Basw00C7x6o0Basw00C7x6o0Bb5uo0C7k800Bb5uo0C7k800Bb5uo0C7k800Bb5uo0",
        "C7x6o0Basw00C7x6o0Basw00"]⟩,
    ⟨"Europe/Tallinn",
      [⟨99, false⟩, ⟨60, false⟩, ⟨120, true⟩, ⟨120, false⟩, ⟨180, false⟩, ⟨240, true⟩,
        ⟨180, true⟩],
      ["A0B8f532kC3re10B7x6o0Aet6g0Dygov0Ea1zgd0Cktx80Bl94g0C7k800B9q000C9d1c0E8uac0Fj27mk0E9e",
        "t80F9d440E9et80F9d440E9et80F9eys0E9d6w0F9d1c0E9d1c0F9d1c0E9d1c0F9d1c0E9d1c0F9d1c0E9d1c",
        "0G9d1c0D9d440G9d1c0D9q000G9d1c0D9d1c0G9d1c0D9d1c0G9d1c0D9d1c0G9d1c0D9d1c0G9d1c0D9d1c0G",
        "9q000Dasw00G7x6o0Dasw00G7x6o0Dasys0G7x6o0Db5uo0G19dc00Dasw00G7x6o0Dasw00G7x6o0Db5uo0G7",
        "k800Db5uo0G7k800Db5uo0G7k800Db5uo0G7x6o0Dasw00G7x6o0Dasw00G7x6o0Db5uo0G7k800Db5uo0G7k8",
        "00Db5uo0G7x6o0Dasw00G7x6o0Dasw00G7x6o0Dasw00G7x6o0Db5uo0G7k800Db5uo0G7k800Db5uo0G7x6o0",
        "Dasw00G7x6o0Dasw00G7x6o0Db5uo0G7k800Db5uo0G7k800Db5uo0G7x6o0Dasw00G7x6o0Dasw00G7x6o0Da",
        "sw00G7x6o0Db5uo0G7k800Db5uo0G7k800Db5uo0G7x6o0Dasw00G7x6o0Dasw00G7x6o0Db5uo0G7k800Db5u",
        "o0G7k800Db5uo0G7k800Db5uo0G7x6o0Dasw00G7x6o0Dasw00"]⟩,
    ⟨"Europe/Tirane", [⟨79, false⟩, ⟨60, false⟩, ⟨120, true⟩],
      ["B6ae5bcCdt2gw8B18pew0C7k800Bm800Cg7ot40B7rjw0Cautg0B7x3w0Cayis0B7x3w0Cb5xg0B7k580Cb42s",
        "0B7lzw0Cb42s0B7lzw0Cb42s0B7x3w0Cahus0B7x3w0Cb5xg0B7x3w0Ca4w40B8jbw0C9eys0B9d6w0C9d1c0B",
        "9d1c0C9d1c0B9d1c0C9d1c0B9d1c0C9d1c0B9d1c0C9d1c0B9d1c0C9d1c0B9q000C9d1c0B9d1c0C9d1c0B9d",
        "1c0C9d1c0B9d1c0C9d1c0B9d1c0C9d1c0B9d1c0C9q000Basw00C7x6o0Basw00C7x6o0Basw00C7x6o0Bb5uo",
        "0C7k800Bb5uo0C7k800Bb5uo0C7x6o0Basw00C7x6o0Basw00C7x6o0Bb5uo0C7k800Bb5uo0C7k800Bb5uo0C",
        "7k800Bb5uo0C7x6o0Basw00C7x6o0Basw00C7x6o0Bb5uo0C7k800Bb5uo0C7k800Bb5uo0C7x6o0Basw00C7x",
        "6o0Basw00C7x6o0Basw00C7x6o0Bb5uo0C7k800Bb5uo0C7k800Bb5uo0C7x6o0Basw00C7x6o0Basw00C7x6o",
        "0Bb5uo0C7k800Bb5uo0C7k800Bb5uo0C7x6o0Basw00C7x6o0Basw00C7x6o0Basw00C7x6o0Bb5uo0C7k800B",
        "b5uo0C7k800Bb5uo0C7x6o0Basw00C7x6o0Basw00C7x6o0Bb5uo0C7k800Bb5uo0C7k800Bb5uo0C7k800Bb5",
        "uo0C7x6o0Basw00C7x6o0Basw00"]⟩,
    ⟨"Europe/Ulyanovsk",
      [⟨194, false⟩, ⟨180, false⟩, ⟨240, false⟩, ⟨300, true⟩, ⟨240, true⟩, ⟨180, true⟩,
        ⟨120, false⟩],
      ["B95mwzkC5q5zo0Dqi27w0C9et80D9d440C9et80D9d440C9et80D9eys0C9d6w0D9d1c0C9d1c0D9d1c0C9d1c",
        "0D9d1c0C9d1c0D9d1c0C9d1c0E9d1c0B9d440E9d1c0B9q000F9d1c0G9d440B5reo0E3ljw0B9d1c0E9d1c0B",
        "9d1c0E9d1c0B9d1c0E9d1c0B9d1c0E9q000Basw00E7x6o0Basw00E7x6o0Basw00E7x6o0Bb5uo0E7k800Bb5",
        "uo0E7k800Bb5uo0E7x6o0Basw00E7x6o0Basw00E7x6o0Bb5uo0E7k800Bb5uo0E7k800Bb5uo0E7k800Bb5uo",
        "0E7x6o0Basw00E7x6o0Basw00E7x6o0Bb5uo0C7k800B1vbzw0Cqnc40Cbdvvrj"]⟩,
    ⟨"Europe/Vaduz", [⟨38, false⟩, ⟨60, false⟩, ⟨120, true⟩],
      ["B0Ckk2ubkB7x6o0Casw00B7x6o0Ck2zus0B9d1c0C9d1c0B9d1c0C9d1c0B9d1c0C9d1c0B9q000C9d1c0B9d1",
        "c0C9d1c0B9d1c0C9d1c0B9d1c0C9d1c0B9d1c0C9d1c0B9d1c0C9d1c0B9q000C9d1c0B9d1c0C9d1c0B9d1c0",
        "C9d1c0B9d1c0C9d1c0B9d1c0C9d1c0B9d1c0C9q000Basw00C7x6o0Basw00C7x6o0Basw00C7x6o0Bb5uo0C7",
        "k800Bb5uo0C7k800Bb5uo0C7x6o0Basw00C7x6o0Basw00C7x6o0Bb5uo0C7k800Bb5uo0C7k800Bb5uo0C7k8",
        "00Bb5uo0C7x6o0Basw00C7x6o0Basw00C7x6o0Bb5uo0C7k800Bb5uo0C7k800Bb5uo0C7x6o0Basw00C7x6o0",
        "Basw00C7x6o0Basw00C7x6o0Bb5uo0C7k800Bb5uo0C7k800Bb5uo0C7x6o0Basw00C7x6o0Basw00C7x6o0Bb",
        "5uo0C7k800Bb5uo0C7k800Bb5uo0C7x6o0Basw00C7x6o0Basw00C7x6o0Basw00C7x6o0Bb5uo0C7k800Bb5u",
        "o0C7k800Bb5uo0C7x6o0Basw00C7x6o0Basw00C7x6o0Bb5uo0C7k800Bb5uo0C7k800Bb5uo0C7k800Bb5uo0",
        "C7x6o0Basw00C7x6o0Basw00"]⟩,
    ⟨"Europe/Vienna", [⟨65, false⟩, ⟨60, false⟩, ⟨120, true⟩],
      ["B0C7i60rkB7ves0Ca4yw0B7x6o0Casw00B7x6o0Ct6000B8a5c0Ca7a800B1cm000C7k800B9q000C9d1c0B9d",
        "1c0C9d1c0Biio0Civmo0B91xc0C9b6o0B9d1c0Ca2yo0B8n400Cgfyyg0B8zzw0C9d9o0B9d1c0C9d1c0B9d1c",
        "0C9d1c0B9d1c0C9d1c0B9q000C9d1c0B9d1c0C9d1c0B9d1c0C9d1c0B9d1c0C9d1c0B9d1c0C9d1c0B9d1c0C",
        "9d1c0B9q000C9d1c0B9d1c0C9d1c0B9d1c0C9d1c0B9d1c0C9d1c0B9d1c0C9d1c0B9d1c0C9q000Basw00C7x",
        "6o0Basw00C7x6o0Basw00C7x6o0Bb5uo0C7k800Bb5uo0C7k800Bb5uo0C7x6o0Basw00C7x6o0Basw00C7x6o",
        "0Bb5uo0C7k800Bb5uo0C7k800Bb5uo0C7k800Bb5uo0C7x6o0Basw00C7x6o0Basw00C7x6o0Bb5uo0C7k800B",
        "b5uo0C7k800Bb5uo0C7x6o0Basw00C7x6o0Basw00C7x6o0Basw00C7x6o0Bb5uo0C7k800Bb5uo0C7k800Bb5",
        "uo0C7x6o0Basw00C7x6o0Basw00C7x6o0Bb5uo0C7k800Bb5uo0C7k800Bb5uo0C7x6o0Basw00C7x6o0Basw0",
        "0C7x6o0Basw00C7x6o0Bb5uo0C7k800Bb5uo0C7k800Bb5uo0C7x6o0Basw00C7x6o0Basw00C7x6o0Bb5uo0C",
        "7k800Bb5uo0C7k800Bb5uo0C7k800Bb5uo0C7x6o0Basw00C7x6o0Basw00"]⟩,
    ⟨"Europe/Vilnius",
      [⟨101, false⟩, ⟨84, false⟩, ⟨96, false⟩, ⟨60, false⟩, ⟨120, false⟩, ⟨180, false⟩,
        ⟨120, true⟩, ⟨240, true⟩, ⟨180, true⟩],
      ["B0C7urrrkD1g224oEe75ncD4kqk0Facbs40Ggpp40Dpits0G7k800D9q000G9d1c0F65zo0Hj4vx80F9et80H9",
        "d440F9et80H9d440F9et80H9eys0F9d6w0H9d1c0F9d1c0H9d1c0F9d1c0H9d1c0F9d1c0H9d1c0F9d1c0I9d1",
        "c0E9d440I9d1c0E9q000I9d1c0E9d1c0I9d1c0E9d1c0I9d1c0E9d1c0I9d1c0E9d1c0I9d1c0E9d1c0I9q000",
        "Easw00I7x6o0Easw00G7x9g0Dasw00G7x6o0Eb5uo0I1s3eo0Easw00I7x6o0Eb5uo0I7k800Eb5uo0I7k800E",
        "b5uo0I7k800Eb5uo0I7x6o0Easw00I7x6o0Easw00I7x6o0Eb5uo0I7k800Eb5uo0I7k800Eb5uo0I7x6o0Eas",
        "w00I7x6o0Easw00I7x6o0Easw00I7x6o0Eb5uo0I7k800Eb5uo0I7k800Eb5uo0I7x6o0Easw00I7x6o0Easw0",
        "0I7x6o0Eb5uo0I7k800Eb5uo0I7k800Eb5uo0I7x6o0Easw00I7x6o0Easw00I7x6o0Easw00I7x6o0Eb5uo0I",
        "7k800Eb5uo0I7k800Eb5uo0I7x6o0Easw00I7x6o0Easw00I7x6o0Eb5uo0I7k800Eb5uo0I7k800Eb5uo0I7k",
        "800Eb5uo0I7x6o0Easw00I7x6o0Easw00"]⟩,
    ⟨"Europe/Volgograd", [⟨178, false⟩, ⟨180, false⟩, ⟨240, false⟩, ⟨300, true⟩, ⟨240, true⟩],
      ["B9f74rgC5glrw4Dqi27w0C9et80D9d440C9et80D9d440C9et80D9eys0C9d6w0D9d1c0C9d1c0D9d1c0C9d1c",
        "0D9d1c0C9d1c0E9d1c0B9d440E9d1c0B9d1c0E9d1c0B9q000C9d1c0Eipzw0B9d440E9d1c0B9d1c0E9d1c0B",
        "9d1c0E9d1c0B9d1c0E9q000Basw00E7x6o0Basw00E7x6o0Basw00E7x6o0Bb5uo0E7k800Bb5uo0E7k800Bb5",
        "uo0E7x6o0Basw00E7x6o0Basw00E7x6o0Bb5uo0E7k800Bb5uo0E7k800Bb5uo0E7k800Bb5uo0E7x6o0Basw0",
        "0E7x6o0Basw00E7x6o0Bb5uo0C7k800B1vbzw0C239c40B14oqk0"]⟩,
    ⟨"Europe/Warsaw", [⟨84, false⟩, ⟨60, false⟩, ⟨120, true⟩, ⟨120, false⟩, ⟨180, true⟩],
      ["A0B74a2fkCdvyc0B7ves0Ca4yw0B7x6o0Casw00D7x6o0Eaunw0D7x6o0B1evbs0C9fcwc0B18cao0C7k800B9",
        "q000C9d1c0B9gnw0Can980B9kd80C8fs40B922w0Car1c0B7x6o0Ca2yo0B8n400C9q000B902o0C4013w0B64",
        "dc0C9d1c0B9d1c0Cclpc0B6hc00C9d1c0B9d1c0Cc8qo0B6hc00Cc8qo0B6hc00Cc8qo0B6hc00Cclpc0B64dc",
        "0C6j4tc0B902o0C9q000B9d1c0C9d1c0B9d1c0C9q000B902o0C9d1c0B9d1c0C9d1c0B9d1c0C9d1c0B9d1c0",
        "C9d1c0B9q000C9d1c0B9d1c0C9d1c0B9d1c0C9d1c0B9d1c0C9d440B9d1c0C9d1c0B9d1c0C9d1c0B9q000C9",
        "d1c0B9d1c0C9d1c0B9d1c0C9d1c0B9d1c0C9d1c0B9d1c0C9d1c0B9d1c0C9q000Basw00C7x6o0Basw00C7x6",
        "o0Basw00C7x6o0Bb5uo0C7k800Bb5uo0C7k800Bb5uo0C7x6o0Basw00C7x6o0Basw00C7x6o0Bb5uo0C7k800",
        "Bb5uo0C7k800Bb5uo0C7k800Bb5uo0C7x6o0Basw00C7x6o0Basw00C7x6o0Bb5uo0C7k800Bb5uo0C7k800Bb",
        "5uo0C7x6o0Basw00C7x6o0Basw00C7x6o0Basw00C7x6o0Bb5uo0C7k800Bb5uo0C7k800Bb5uo0C7x6o0Basw",
        "00C7x6o0Basw00C7x6o0Bb5uo0C7k800Bb5uo0C7k800Bb5uo0C7x6o0Basw00C7x6o0Basw00C7x6o0Basw00",
        "C7x6o0Bb5uo0C7k800Bb5uo0C7k800Bb5uo0C7x6o0Basw00C7x6o0Basw00C7x6o0Bb5uo0C7k800Bb5uo0C7",
        "k800Bb5uo0C7k800Bb5uo0C7x6o0Basw00C7x6o0Basw00"]⟩,
    ⟨"Europe/Zagreb", [⟨64, false⟩, ⟨60, false⟩, ⟨120, true⟩],
      ["B0Ckj923kBswz00C7k800B9q000C9d1c0B9d1c0C9d1c0B8l9c0Cjl1hc0B9d1c0C9d1c0B9q000C9d1c0B9d1",
        "c0C9d1c0B9d1c0C9d1c0B9d1c0C9d1c0B9d1c0C9d1c0B9d1c0C9d1c0B9q000C9d1c0B9d1c0C9d1c0B9d1c0",
        "C9d1c0B9d1c0C9d1c0B9d1c0C9d1c0B9d1c0C9q000Basw00C7x6o0Basw00C7x6o0Basw00C7x6o0Bb5uo0C7",
        "k800Bb5uo0C7k800Bb5uo0C7x6o0Basw00C7x6o0Basw00C7x6o0Bb5uo0C7k800Bb5uo0C7k800Bb5uo0C7k8",
        "00Bb5uo0C7x6o0Basw00C7x6o0Basw00C7x6o0Bb5uo0C7k800Bb5uo0C7k800Bb5uo0C7x6o0Basw00C7x6o0",
        "Basw00C7x6o0Basw00C7x6o0Bb5uo0C7k800Bb5uo0C7k800Bb5uo0C7x6o0Basw00C7x6o0Basw00C7x6o0Bb",
        "5uo0C7k800Bb5uo0C7k800Bb5uo0C7x6o0Basw00C7x6o0Basw00C7x6o0Basw00C7x6o0Bb5uo0C7k800Bb5u",
        "o0C7k800Bb5uo0C7x6o0Basw00C7x6o0Basw00C7x6o0Bb5uo0C7k800Bb5uo0C7k800Bb5uo0C7k800Bb5uo0",
        "C7x6o0Basw00C7x6o0Basw00"]⟩,
    ⟨"Europe/Zurich", [⟨34, false⟩, ⟨60, false⟩, ⟨120, true⟩],
      ["B0Ckk2ubkB7x6o0Casw00B7x6o0Ck2zus0B9d1c0C9d1c0B9d1c0C9d1c0B9d1c0C9d1c0B9q000C9d1c0B9d1",
        "c0C9d1c0B9d1c0C9d1c0B9d1c0C9d1c0B9d1c0C9d1c0B9d1c0C9d1c0B9q000C9d1c0B9d1c0C9d1c0B9d1c0",
        "C9d1c0B9d1c0C9d1c0B9d1c0C9d1c0B9d1c0C9q000Basw00C7x6o0Basw00C7x6o0Basw00C7x6o0Bb5uo0C7",
        "k800Bb5uo0C7k800Bb5uo0C7x6o0Basw00C7x6o0Basw00C7x6o0Bb5uo0C7k800Bb5uo0C7k800Bb5uo0C7k8",
        "00Bb5uo0C7x6o0Basw00C7x6o0Basw00C7x6o0Bb5uo0C7k800Bb5uo0C7k800Bb5uo0C7x6o0Basw00C7x6o0",
        "Basw00C7x6o0Basw00C7x6o0Bb5uo0C7k800Bb5uo0C7k800Bb5uo0C7x6o0Basw00C7x6o0Basw00C7x6o0Bb",
        "5uo0C7k800Bb5uo0C7k800Bb5uo0C7x6o0Basw00C7x6o0Basw00C7x6o0Basw00C7x6o0Bb5uo0C7k800Bb5u",
        "o0C7k800Bb5uo0C7x6o0Basw00C7x6o0Basw00C7x6o0Bb5uo0C7k800Bb5uo0C7k800Bb5uo0C7k800Bb5uo0",
        "C7x6o0Basw00C7x6o0Basw00"]⟩]

end CivilTime.Gazetteer
