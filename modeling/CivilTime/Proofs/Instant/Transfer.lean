import CivilTime.Instant.Transfer
import CivilTime.Proofs.Instant.Understood

/-!
# Readings moved to another zone and back

What an instant reads in one zone, cut to the second, is understood in another one. The instant that
comes out reads it there, unless the clocks of that zone are set forward over it. Moved back, it is
the first instant cut to the second, unless the first zone shows that second twice.

* `Instant.MovesTo`: that a reading is moved as some instant, whatever identifier names the zone.
* `movesTo_of_ofWall`: the reading is moved as what it is understood as in the other zone.
* `movesTo_there_and_back`: what the instant reads that comes out, and where it is moved back to.
-/

namespace CivilTime

namespace Instant

variable {z target za zb : Zone} {i r : Instant} {v w : WallTime}

/-- Whether the reading `w` of an instant is moved to another zone as the instant `r`, also where
that zone is named by an identifier. -/
structure MovesTo (z target : Zone) (i : Instant) (w : WallTime) (r : Instant) : Prop where
  transfer : i.transfer z target = .ok (w, r)
  named : ∀ id, Zone.resolve id = .ok (some target) →
    transferDate (some i) (some id) z = .ok (some r, [transferRecord w target i r])

/-- A reading is moved as what it is understood as in the other zone. -/
theorem movesTo_of_ofWall (hv : i.wallClock z = .ok v)
    (hr : ofWall v.wholeSecond target = .ok r) : MovesTo z target i v.wholeSecond r := by
  have hmoved : i.transfer z target = .ok (v.wholeSecond, r) := by
    rw [Instant.transfer_eq, bind_of_ok hv]
    dsimp only
    rw [bind_of_ok hr]
    rfl
  refine ⟨hmoved, ?_⟩
  intro id hid
  rw [transferDate, bind_of_ok hid]
  dsimp only
  rw [bind_of_ok hmoved]
  rfl

/-- The reading of an instant, cut to the second, is moved to another zone as an instant. If any
instant has that reading in the other zone, the one that comes out has it; and if no two instants
have it in the first zone, that one is moved back as the first instant, cut to the second. If the
clocks of the other zone are set forward over the reading, the instant that comes out reads it moved
forward by the length of the gap. The zones that identifiers name are all regular and of whole
seconds. -/
theorem movesTo_there_and_back (ha : za.Regular) (hsa : za.WholeSeconds) (hb : zb.Regular)
    (hsb : zb.WholeSeconds) (hv : i.wallClock za = .ok v)
    (hclear : v.wholeSecond.Clear (3 * dayMicros)) :
    ∃ r, MovesTo za zb i v.wholeSecond r ∧
      ((∃ j : Instant, j.wallClock zb = .ok v.wholeSecond) →
        r.wallClock zb = .ok v.wholeSecond ∧
          ((∀ j k : Instant, j.wallClock za = .ok v.wholeSecond →
              k.wallClock za = .ok v.wholeSecond → j = k) →
            MovesTo zb za r v.wholeSecond i.wholeSecond)) ∧
      ∀ n, zb.LeapsOver v.wholeSecond n →
        ∃ u, r.wallClock zb = .ok u ∧ (u.micros : Int) = v.wholeSecond.micros + n := by
  have hmod := v.wholeSecond_mod
  obtain ⟨r, -, hr, -⟩ := exists_ofWall hb hsb.wholeMillis hmod hclear
  refine ⟨r, movesTo_of_ofWall hv hr, ?_, ?_⟩
  · intro hread
    obtain ⟨j, hj⟩ := hread
    have hrw := wallClock_of_ofWall hb hsb.wholeMillis hmod hclear hr hj
    refine ⟨hrw, ?_⟩
    intro honly
    have hi := wallClock_wholeSecond hsa hv
    have hback : ofWall v.wholeSecond za = .ok i.wholeSecond := by
      apply ofWall_of_only ha hsa.wholeMillis hclear hi
      intro k hk
      exact honly k i.wholeSecond hk hi
    rw [← v.wholeSecond_wholeSecond] at hback ⊢
    exact movesTo_of_ofWall hrw hback
  · intro n hleap
    exact wallClock_of_leapsOver hb hsb.wholeMillis hmod hclear hr hleap

/-- Half past two of the night after which the summer ends, as universal time. -/
def nightEndsUniversal : Instant := ⟨1_698_546_600_007⟩

/-- Half past two of the night before which it begins. -/
def nightBeginsUniversal : Instant := ⟨1_679_797_800_007⟩

/-- What universal time shows at the latter. -/
def nightBegins : WallTime := ⟨63_815_394_600_007_000, by decide⟩

/-- Half past two of the night after which the summer ends is shown twice, but moved to universal
time it comes back. Half past two of the night before which the summer begins is moved as half past
three. -/
theorem movesTo_there_and_back_summerNights :
    (∃ r, MovesTo .universal (summer2023.zone "Europe/Berlin") nightEndsUniversal
        nightEnds.wholeSecond r ∧
      transferDate (some r) (some "UTC") (summer2023.zone "Europe/Berlin")
        = .ok (some ⟨1_698_546_600_000⟩,
          [transferRecord nightEnds.wholeSecond .universal r ⟨1_698_546_600_000⟩])) ∧
    ∃ r u, MovesTo .universal (summer2023.zone "Europe/Berlin") nightBeginsUniversal
        nightBegins.wholeSecond r ∧
      r.wallClock (summer2023.zone "Europe/Berlin") = .ok u ∧
      (u.micros : Int) = nightBegins.wholeSecond.micros + hourMicros := by
  have hsummer : (summer2023.zone "Europe/Berlin").Regular ∧
      (summer2023.zone "Europe/Berlin").WholeSeconds := by decide
  have huniversal : Zone.universal.Regular ∧ Zone.universal.WholeSeconds := ⟨trivial, trivial⟩
  have hends : nightEndsUniversal.wallClock .universal = .ok nightEnds := by rfl
  have hbegins : nightBeginsUniversal.wallClock .universal = .ok nightBegins := by rfl
  constructor
  · obtain ⟨r, hmoved, hread, -⟩ := movesTo_there_and_back huniversal.1 huniversal.2
      hsummer.1 hsummer.2 hends (by decide)
    have hshown : Instant.wallClock ⟨1_698_543_000_000⟩ (summer2023.zone "Europe/Berlin")
        = .ok nightEnds.wholeSecond := by rfl
    have hback := (hread ⟨_, hshown⟩).2 fun j k => eq_of_wallClock_constant rfl
    exact ⟨r, hmoved, hback.named "UTC" (by rfl)⟩
  · obtain ⟨r, hmoved, -, hleap⟩ := movesTo_there_and_back huniversal.1 huniversal.2
      hsummer.1 hsummer.2 hbegins (by decide)
    obtain ⟨u, hu, hmicros⟩ := hleap hourMicros ⟨_, _, _, rfl,
      ⟨List.mem_cons_self, by decide, by decide⟩, by decide⟩
    exact ⟨r, u, hmoved, hu, hmicros⟩

end Instant

end CivilTime
