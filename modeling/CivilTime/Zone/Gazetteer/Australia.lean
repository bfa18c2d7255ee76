import CivilTime.Zone.Gazetteer.Entry

/-!
# The Australian zones

* `Gazetteer.australia`: name, regimes and changes of each zone, in the order of the names.
-/

namespace CivilTime.Gazetteer

/-- The Australian zones. -/
def australia : List Entry :=
  [
    ⟨"Australia/Adelaide", [⟨554, false⟩, ⟨570, false⟩, ⟨630, true⟩],
      ["B0C7uratkB49pc0Ccxfk00B4h400C9d1c0B9d1c0C9q000B902o0Ceeio00B64dc0Cclpc0B6hc00Cc8qo0B6h",
        "c00Cc8qo0B6hc00Cc8qo0B6uao0Cc8qo0B6hc00Cc8qo0B6hc00Cc8qo0B6hc00Cc8qo0B6hc00Cc8qo0B6hc0",
        "0Cc8qo0B6uao0Cc8qo0B6hc00Cc8qo0B6hc00Cc8qo0B6hc00Cc8qo0B779c0Cb5uo0B7k800Cbitc0B7k800C",
        "bitc0B779c0Cbitc0B779c0Cbitc0B6hc00Cc8qo0B7k800Cb5uo0B6uao0Cc8qo0B779c0Cbitc0B7k800Cb5",
        "uo0B7x6o0Casw00B7x6o0Casw00B7x6o0Casw00B7x6o0Cb5uo0B7k800Cb5uo0B7k800Cb5uo0B7x6o0Casw0",
        "0B7x6o0Casw00B7x6o0Cb5uo0B7k800Cb5uo0B7x6o0Casw00B7k800Cb5uo0B8a5c0C9d1c0B9d1c0C9d1c0B",
        "9d1c0C9d1c0B9d1c0C9d1c0B9d1c0C9q000B9d1c0C9d1c0B9d1c0C9d1c0B9d1c0C9d1c0B9d1c0C9d1c0B9d",
        "1c0C9d1c0B9d1c0C9q000B9d1c0C9d1c0B9d1c0C9d1c0B9d1c0C9d1c0B9d1c0C9d1c0B9d1c0C9d1c0B9q00",
        "0C9d1c0B9d1c0C9d1c0B9d1c0C9d1c0B9d1c0C9d1c0B9d1c0C9d1c0B9d1c0C9q000B9d1c0C9d1c0B9d1c0C",
        "9d1c0B9d1c0C9d1c0B9d1c0C9d1c0B9d1c0C9d1c0B9d1c0C9q000B9d1c0C9d1c0B9d1c0C9d1c0"]⟩,
    ⟨"Australia/Brisbane", [⟨612, false⟩, ⟨600, false⟩, ⟨660, true⟩],
      ["B0C7ur9fkB49pc0Ccxfk00B4h400C9d1c0B9d1c0C9q000B902o0Ceeio00B64dc0C97zuo0B6hc00Cc8qo0B6",
        "hc00Cc8qo0B6hc00"]⟩,
    ⟨"Australia/Broken_Hill", [⟨566, false⟩, ⟨570, false⟩, ⟨630, true⟩],
      ["B0C7uratkB49pc0Ccxfk00B4h400C9d1c0B9d1c0C9q000B902o0Ceeio00B64dc0Cclpc0B6hc00Cc8qo0B6h",
        "c00Cc8qo0B6hc00Cc8qo0B6uao0Cc8qo0B6hc00Cc8qo0B6hc00Cc8qo0B6hc00Cc8qo0B6hc00Cc8qo0B6hc0",
        "0Cc8qo0B8a5c0Casw00B6hc00Cc8qo0B6hc00Cc8qo0B6hc00Cc8qo0B779c0Cb5uo0B7k800Cbitc0B7k800C",
        "bitc0B779c0Cbitc0B6hc00Cc8qo0B6hc00Cc8qo0B6hc00Cc8qo0B6uao0Cc8qo0B6hc00Cc8qo0B6hc00Cc8",
        "qo0B7x6o0Casw00B7x6o0Casw00B7x6o0Casw00B7x6o0Cb5uo0B7k800Cb5uo0B7k800Cb5uo0B7x6o0Casw0",
        "0B7x6o0Casw00B7x6o0Cb5uo0B7k800Cb5uo0B7x6o0Casw00B7k800Cb5uo0B8a5c0C9d1c0B9d1c0C9d1c0B",
        "9d1c0C9d1c0B9d1c0C9d1c0B9d1c0C9q000B9d1c0C9d1c0B9d1c0C9d1c0B9d1c0C9d1c0B9d1c0C9d1c0B9d",
        "1c0C9d1c0B9d1c0C9q000B9d1c0C9d1c0B9d1c0C9d1c0B9d1c0C9d1c0B9d1c0C9d1c0B9d1c0C9d1c0B9q00",
        "0C9d1c0B9d1c0C9d1c0B9d1c0C9d1c0B9d1c0C9d1c0B9d1c0C9d1c0B9d1c0C9q000B9d1c0C9d1c0B9d1c0C",
        "9d1c0B9d1c0C9d1c0B9d1c0C9d1c0B9d1c0C9d1c0B9d1c0C9q000B9d1c0C9d1c0B9d1c0C9d1c0"]⟩,
    ⟨"Australia/Darwin", [⟨523, false⟩, ⟨570, false⟩, ⟨630, true⟩],
      ["B0C7uratkB49pc0Ccxfk00B4h400C9d1c0B9d1c0C9q000B902o0"]⟩,
    ⟨"Australia/Eucla", [⟨515, false⟩, ⟨525, false⟩, ⟨585, true⟩],
      ["B0C7urcwkB49pc0Ccxfk00B4h400C9d1c0B9d1c0Cgheyo0B6hc00C4ir9c0B6hc00C40r400B5eg00C7p9hc0",
        "B5reo0Cb5uo0B7x6o0Casw00B7x6o0Bf1bt2j"]⟩,
    ⟨"Australia/Hobart", [⟨589, false⟩, ⟨600, false⟩, ⟨660, true⟩],
      ["B0C7q0w3kB902o0Cb5uo0B6hc00Cc8qo0B6hc00Cbx2ao0B4h400C9d1c0B9d1c0C9q000B902o0Cc9tk00B9d",
        "1c0Casw00B6uao0Cbvs00B6uao0Cbvs00B779c0Cbvs00B64dc0Cclpc0B6hc00Cc8qo0B6hc00Cc8qo0B6hc0",
        "0Cc8qo0B6uao0Cc8qo0B6hc00Cc8qo0B6hc00Cc8qo0B6hc00Cc8qo0B6hc00Cc8qo0B6hc00Cc8qo0B7x6o0C",
        "b5uo0B7k800Cb5uo0B6hc00Cc8qo0B6hc00Cc8qo0B6hc00Cbvs00B7k800Cbitc0B7k800Cbitc0B779c0Cbi",
        "tc0B779c0Cbitc0B7x6o0C9q000B902o0C9q000B902o0C9q000B902o0C9q000B902o0C9q000B9d1c0C9q00",
        "0B902o0C9q000B902o0C9q000B902o0C9q000B902o0C7x6o0Basw00Ca2yo0B902o0C9q000B902o0C9q000B",
        "902o0C9q000B902o0C9q000B9d1c0C9d1c0B902o0Ca2yo0B9d1c0C9d1c0B9d1c0C9d1c0B9d1c0C9d1c0B9d",
        "1c0C9d1c0B9d1c0C9q000B9d1c0C9d1c0B9d1c0C9d1c0B9d1c0C9d1c0B9d1c0C9d1c0B9d1c0C9d1c0B9d1c",
        "0C9q000B9d1c0C9d1c0B9d1c0C9d1c0B9d1c0C9d1c0B9d1c0C9d1c0B9d1c0C9d1c0B9q000C9d1c0B9d1c0C",
        "9d1c0B9d1c0C9d1c0B9d1c0C9d1c0B9d1c0C9d1c0B9d1c0C9q000B9d1c0C9d1c0B9d1c0C9d1c0B9d1c0C9d",
        "1c0B9d1c0C9d1c0B9d1c0C9d1c0B9d1c0C9q000B9d1c0C9d1c0B9d1c0C9d1c0"]⟩,
    ⟨"Australia/Lindeman", [⟨596, false⟩, ⟨600, false⟩, ⟨660, true⟩],
      ["B0C7ur9fkB49pc0Ccxfk00B4h400C9d1c0B9d1c0C9q000B902o0Ceeio00B64dc0C97zuo0B6hc00Cc8qo0B6",
        "hc00Cc8qo0B6hc00Cc8qo0B6uao0Cc8qo0B6hc00"]⟩,
    ⟨"Australia/Lord_Howe", [⟨636, false⟩, ⟨600, false⟩, ⟨630, false⟩, ⟨690, true⟩, ⟨660, true⟩],
      ["B0C15c997kDc8uu0C6u7w0Dc8tg0C6h980Dc8tg0C6h980Dc8tg0C6h980Ec8tg0C777y0Eb5w20C7k6m0Ebiu",
        "q0C7k6m0Ebiuq0C777y0Ebiuq0C6ham0Ec8s20C6ham0Ec8s20C6ham0Ec8s20C6u9a0Ec8s20C6ham0Ec8s20",
        "C6ham0Ec8s20C7x5a0Easxe0C7x5a0Easxe0C7x5a0Easxe0C7x5a0Eb5w20C7k6m0E7x820Casum0Eb5w20C7",
        "x5a0Easxe0C7x5a0Easxe0C7x5a0Eb5w20C7k6m0Eb5w20C7x5a0Easxe0C7k6m0Eb5w20C8a3y0E9d2q0C9cz",
        "y0E9d2q0C9czy0E9d2q0C9czy0E9d2q0C9czy0E9q1e0C9czy0E9d2q0C9czy0E9d2q0C9czy0E9d2q0C9czy0",
        "E9d2q0C9czy0E9d2q0C9czy0E9q1e0C9czy0E9d2q0C9czy0E9d2q0C9czy0E9d2q0C9czy0E9d2q0C9czy0E9",
        "d2q0C9pym0E9d2q0C9czy0E9d2q0C9czy0E9d2q0C9czy0E9d2q0C9czy0E9d2q0C9czy0E9q1e0C9czy0E9d2",
        "q0C9czy0E9d2q0C9czy0E9d2q0C9czy0E9d2q0C9czy0E9d2q0C9czy0E9q1e0C9czy0E9d2q0C9czy0E9d2q0",
        "E5j1xj"]⟩,
    ⟨"Australia/Melbourne", [⟨580, false⟩, ⟨600, false⟩, ⟨660, true⟩],
      ["B0C7ur9fkB49pc0Ccxfk00B4h400C9d1c0B9d1c0C9q000B902o0Ceeio00B64dc0Cclpc0B6hc00Cc8qo0B6h",
        "c00Cc8qo0B6hc00Cc8qo0B6uao0Cc8qo0B6hc00Cc8qo0B6hc00Cc8qo0B6hc00Cc8qo0B6hc00Cc8qo0B6hc0",
        "0Cc8qo0B6uao0Cc8qo0B6hc00Cc8qo0B6hc00Cc8qo0B6hc00Cc8qo0B779c0Cb5uo0B7k800Cb5uo0B7x6o0C",
        "bitc0B779c0Cbitc0B779c0Cbitc0B6hc00Cc8qo0B6hc00Cc8qo0B6uao0Cc8qo0B6hc00Cc8qo0B7k800Cb5",
        "uo0B7x6o0Casw00B7x6o0Casw00B7x6o0Casw00B7x6o0Cb5uo0B7k800C7x6o0Basw00Cb5uo0B7x6o0Casw0",
        "0B7x6o0Casw00B7x6o0Cb5uo0B7k800Cb5uo0B7x6o0Casw00B7k800Cb5uo0B8a5c0C9d1c0B9d1c0C9d1c0B",
        "9d1c0C9d1c0B9d1c0C9d1c0B9d1c0C9q000B9d1c0C9d1c0B9d1c0C9d1c0B9d1c0C9d1c0B9d1c0C9d1c0B9d",
        "1c0C9d1c0B9d1c0C9q000B9d1c0C9d1c0B9d1c0C9d1c0B9d1c0C9d1c0B9d1c0C9d1c0B9d1c0C9d1c0B9q00",
        "0C9d1c0B9d1c0C9d1c0B9d1c0C9d1c0B9d1c0C9d1c0B9d1c0C9d1c0B9d1c0C9q000B9d1c0C9d1c0B9d1c0C",
        "9d1c0B9d1c0C9d1c0B9d1c0C9d1c0B9d1c0C9d1c0B9d1c0C9q000B9d1c0C9d1c0B9d1c0C9d1c0"]⟩,
    ⟨"Australia/Perth", [⟨463, false⟩, ⟨480, false⟩, ⟨540, true⟩],
      ["B0C7urezkB49pc0Ccxfk00B4h400C9d1c0B9d1c0Cgheyo0B6hc00C4ir9c0B6hc00C40r400B5eg00C7p9hc0",
        "B5reo0Cb5uo0B7x6o0Casw00B7x6o0"]⟩,
    ⟨"Australia/Sydney", [⟨605, false⟩, ⟨600, false⟩, ⟨660, true⟩],
      ["B0C7ur9fkB49pc0Ccxfk00B4h400C9d1c0B9d1c0C9q000B902o0Ceeio00B64dc0Cclpc0B6hc00Cc8qo0B6h",
        "c00Cc8qo0B6hc00Cc8qo0B6uao0Cc8qo0B6hc00Cc8qo0B6hc00Cc8qo0B6hc00Cc8qo0B6hc00Cc8qo0B6hc0",
        "0Cc8qo0B8a5c0Casw00B6hc00Cc8qo0B6hc00Cc8qo0B6hc00Cc8qo0B779c0Cb5uo0B7k800Cbitc0B7k800C",
        "bitc0B779c0Cbitc0B6hc00Cc8qo0B6hc00Cc8qo0B6hc00Cc8qo0B6uao0Cc8qo0B6hc00Cc8qo0B6hc00Cc8",
        "qo0B7x6o0Casw00B7x6o0Casw00B7x6o0Casw00B7x6o0Cb5uo0B7k800C7x6o0Basw00Cb5uo0B7x6o0Casw0",
        "0B7x6o0Casw00B7x6o0Cb5uo0B7k800Cb5uo0B7x6o0Casw00B7k800Cb5uo0B8a5c0C9d1c0B9d1c0C9d1c0B",
        "9d1c0C9d1c0B9d1c0C9d1c0B9d1c0C9q000B9d1c0C9d1c0B9d1c0C9d1c0B9d1c0C9d1c0B9d1c0C9d1c0B9d",
        "1c0C9d1c0B9d1c0C9q000B9d1c0C9d1c0B9d1c0C9d1c0B9d1c0C9d1c0B9d1c0C9d1c0B9d1c0C9d1c0B9q00",
        "0C9d1c0B9d1c0C9d1c0B9d1c0C9d1c0B9d1c0C9d1c0B9d1c0C9d1c0B9d1c0C9q000B9d1c0C9d1c0B9d1c0C",
        "9d1c0B9d1c0C9d1c0B9d1c0C9d1c0B9d1c0C9d1c0B9d1c0C9q000B9d1c0C9d1c0B9d1c0C9d1c0"]⟩]

end CivilTime.Gazetteer
