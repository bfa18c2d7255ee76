import CivilTime.Zone.Gazetteer.Entry

/-!
# The Antarctic zones

* `Gazetteer.antarctica`: name, regimes and changes of each zone, in the order of the names.
-/

namespace CivilTime.Gazetteer

/-- The Antarctic zones. -/
def antarctica : List Entry :=
  [
    ⟨"Antarctica/Casey", [⟨0, false⟩, ⟨480, false⟩, ⟨660, false⟩],
      ["Byzs3nkClag4o0B73bo0Cuz1o0B60l80C2fnh80Bpz9g0Cat4c0B89u80Cacgc0B80no0Casw1oB89wycCag5p",
        "oB89wycCag5poB84lacB7rcf7j"]⟩,
    ⟨"Antarctica/Davis", [⟨0, false⟩, ⟨420, false⟩, ⟨300, false⟩],
      ["BsqxnnkA42jdw0B27wgs0Cl8uss0B7eqs0Cunmk0B60qs0Bdismrj"]⟩,
    ⟨"Antarctica/DumontDUrville", [⟨0, false⟩, ⟨600, false⟩],
      ["BniembkA2mks80B2i72g0B16dxkzj"]⟩,
    ⟨"Antarctica/Macquarie", [⟨0, false⟩, ⟨600, false⟩, ⟨660, true⟩],
      ["B0C7q0w3kB902o0A11wns0Bf4kh40Ca6p8g0B9d1c0Casw00B6uao0Cbvs00B6uao0Cbvs00B779c0Cbvs00B6",
        "4dc0Cclpc0B6hc00Cc8qo0B6hc00Cc8qo0B6hc00Cc8qo0B6uao0Cc8qo0B6hc00Cc8qo0B6hc00Cc8qo0B6hc",
        "00Cc8qo0B6hc00Cc8qo0B6hc00Cc8qo0B7x6o0Cb5uo0B7k800Cb5uo0B6hc00Cc8qo0B6hc00Cc8qo0B6hc00",
        "Cbvs00B7k800Cbitc0B7k800Cbitc0B779c0Cbitc0B779c0Cbitc0B7x6o0C9q000B902o0C9q000B902o0C9",
        "q000B902o0C9q000B902o0C9q000B9d1c0C9q000B902o0C9q000B902o0C9q000B902o0C9q000B902o0C7x6",
        "o0Basw00Ca2yo0B902o0C9q000B902o0C9q000B902o0C9q000B902o0C9q000B9d1c0C9d1c0B902o0Ca2yo0",
        "B9d1c0C9d1c0B9d1c0C9d1c0Bs3400C9d1c0B9d1c0C9q000B9d1c0C9d1c0B9d1c0C9d1c0B9d1c0C9d1c0B9",
        "d1c0C9d1c0B9d1c0C9d1c0B9d1c0C9q000B9d1c0C9d1c0B9d1c0C9d1c0B9d1c0C9d1c0B9d1c0C9d1c0B9d1",
        "c0C9d1c0B9q000C9d1c0B9d1c0C9d1c0B9d1c0C9d1c0B9d1c0C9d1c0B9d1c0C9d1c0B9d1c0C9q000B9d1c0",
        "C9d1c0B9d1c0C9d1c0B9d1c0C9d1c0B9d1c0C9d1c0B9d1c0C9d1c0B9d1c0C9q000B9d1c0C9d1c0B9d1c0C9",
        "d1c0"]⟩,
    ⟨"Antarctica/Mawson", [⟨0, false⟩, ⟨360, false⟩, ⟨300, false⟩],
      ["Br85fnkCt22y80Ceqvo3j"]⟩,
    ⟨"Antarctica/McMurdo", [⟨0, false⟩, ⟨720, false⟩, ⟨780, true⟩],
      ["Bs7hnnkC9txtk0B5reo0Cclpc0B6uao0Cc8qo0B6hc00Cc8qo0B6hc00Cc8qo0B6hc00Cc8qo0B6hc00Cc8qo0",
        "B6hc00Cc8qo0B6uao0Cc8qo0B6hc00Cc8qo0B6hc00Cc8qo0B6hc00Cc8qo0B6hc00Cc8qo0B6hc00Cc8qo0B6",
        "uao0Cc8qo0B6hc00Cb5uo0B8a5c0Cafxc0B8a5c0Cafxc0B8a5c0Cafxc0B8n400Ca2yo0B8n400Ca2yo0B8n4",
        "00Ca2yo0B8n400Cafxc0B8a5c0Cafxc0B8a5c0Cafxc0B8n400Ca2yo0B8n400Ca2yo0B8n400Cafxc0B8a5c0",
        "Cafxc0B8a5c0Cafxc0B8n400Ca2yo0B8n400Ca2yo0B8n400Ca2yo0B8n400Ca2yo0B9q000C902o0B9q000C9",
        "02o0B9q000C902o0B9q000C902o0B9q000C9d1c0B9q000C902o0B9q000C902o0B9q000C902o0B9q000C902",
        "o0B9q000C902o0B9q000C9d1c0B9q000C902o0B9q000C902o0B9q000C902o0B9q000C902o0B9q000C902o0",
        "Ba2yo0C902o0B9q000C902o0B9q000C902o0B9q000C902o0B9q000C902o0B9q000C9d1c0B9q000C902o0B9",
        "q000C902o0B9q000C902o0B9q000C902o0B9q000C902o0B9q000C9d1c0B9q000C902o0B9q000C902o0"]⟩,
    ⟨"Antarctica/Palmer", [⟨0, false⟩, ⟨-180, true⟩, ⟨-240, false⟩, ⟨-180, false⟩, ⟨-120, true⟩],
      ["BwwmjnkC31ho0Bbqas0C71mk0Bbqas0C8ovw0B9d440C9px80B9d440C9cyk0D9d440E28t6k0D51ek0C46b6s",
        "0B8c2s0C7x3w0Basys0C7x3w0Bb5xg0C7k580Bb5xg0C7k580Bb5xg0C9cyk0B9d440C7x3w0Basys0C7x3w0B",
        "b5xg0C7k580B9q2s0C8zzw0Bb5xg0C7x3w0Basys0C7x3w0Basys0C7x3w0Basys0C7x3w0Bb5xg0C7k580Bb5",
        "xg0C8n180Ba31g0C7x3w0Ba31g0C9px80B9q2s0C7x3w0Bb5xg0C7k580Bb5xg0C7k580Bb5xg0C7k580Bb5xg",
        "0C7x3w0Basys0C7x3w0Basys0C7x3w0Bb5xg0C7k580Bb5xg0C8n180Ba31g0C7x3w0Basys0C8zzw0B9q2s0C",
        "ast80B5eis0Ccyl80B6hes0Cc8nw0B6udg0Cbvp80B6udg0Cvonw0B4olg0D5rbw0Db0wwnj"]⟩,
    ⟨"Antarctica/Rothera", [⟨0, false⟩, ⟨-180, false⟩],
      ["B134hszkBvwm8zj"]⟩,
    ⟨"Antarctica/Syowa", [⟨0, false⟩, ⟨180, false⟩],
      ["BsrrabkB169crnj"]⟩,
    ⟨"Antarctica/Troll", [⟨0, false⟩, ⟨120, true⟩],
      ["A1hubvnkB27pg0Ab5uo0B7k800Ab5uo0B7k800Ab5uo0B7x6o0Aasw00B7x6o0Aasw00B7x6o0Ab5uo0B7k800",
        "Ab5uo0B7k800Ab5uo0B7x6o0Aasw00B7x6o0Aasw00B7x6o0Aasw00B7x6o0Ab5uo0B7k800Ab5uo0B7k800Ab",
        "5uo0B7x6o0Aasw00B7x6o0Aasw00B7x6o0Ab5uo0B7k800Ab5uo0B7k800Ab5uo0B7x6o0Aasw00B7x6o0Aasw",
        "00B7x6o0Aasw00B7x6o0Ab5uo0B7k800Ab5uo0B7k800Ab5uo0B7x6o0Aasw00B7x6o0Aasw00B7x6o0Ab5uo0",
        "B7k800Ab5uo0B7k800Ab5uo0B7k800Ab5uo0B7x6o0Aasw00B7x6o0Aasw00A4ffjj"]⟩,
    ⟨"Antarctica/Vostok", [⟨0, false⟩, ⟨420, false⟩, ⟨300, false⟩],
      ["Bt89qbkAiushw0Be23g0Cf79gs0C7cq9jj"]⟩]

end CivilTime.Gazetteer
