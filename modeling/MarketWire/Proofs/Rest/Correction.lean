import MarketWire.Proofs.Calendar
import MarketWire.Proofs.Rest.Measuring

namespace MarketWire

open Clock (Instant nanosPerMilli nanosPerSecond)

namespace Clock.Instant

variable {i j : Instant} {millis : Int}

def later (i : Instant) (millis : Int) : Instant := ⟨i.nanos + millis * nanosPerMilli⟩

theorem within_civil :
    i.Within 1970 9999 ↔ 0 ≤ i.nanos ∧ i.nanos < 253402300800000000000 := by
  have most : Date.newYear (9999 + 1) * 86400 * nanosPerSecond = 253402300800000000000 := by decide
  rw [within_iff, most]
  rfl

theorem within_calendar :
    i.Within (-262143) 262142 ↔
      -8334601228800000000000 ≤ i.nanos ∧ i.nanos < 8210266876800000000000 := by
  rw [← inRange_iff, inRange, Bool.and_eq_true, decide_eq_true_iff, decide_eq_true_iff]
  rfl

theorem nanos_later (i : Instant) (millis : Int) :
    (i.later millis).nanos = i.nanos + millis * 1000000 := rfl

theorem shift?_eq (civil : i.Within 1970 9999) (millis : Int) :
    i.shift? millis
      = if (i.later millis).Within (-262143) 262142 then some (i.later millis) else none := by
  refine if_congr ?_ rfl rfl
  rw [inRange_iff]
  refine and_iff_right_of_imp fun within => ?_
  -- A reading of these years would have to go back further than the calendar does.
  have least : -8334601228800000000000 ≤ i.nanos + millis * 1000000 :=
    (within_calendar.mp within).1
  have most := (within_civil.mp civil).2
  have power : (Number.twoTo 63 : Int) = 9223372036854775808 := by decide
  omega

end Clock.Instant

namespace Rest.TimeSync

open Client (Surroundings)

variable {t : TimeSync} {c : Client} {w : Surroundings} {sent received server offset : Int}

def stamp? (t : TimeSync) (i : Instant) : Option (String × Int) :=
  (t.now? (some i)).map fun j => (j.iso, j.seconds)

theorem stamp?_eq {i : Instant} (civil : i.Within 1970 9999) :
    t.stamp? i
      = if (i.later t.offset).Within (-262143) 262142
        then some ((i.later t.offset).iso, (i.later t.offset).seconds) else none := by
  rw [stamp?, now?, Option.bind_some, Instant.shift?_eq civil]
  split <;> rfl

theorem stamp?_isSome {i : Instant} (civil : i.Within 1970 9999) :
    (t.stamp? i).isSome ↔ (i.later t.offset).Within (-262143) 262142 := by
  rw [stamp?_eq civil]
  split <;> simp [*]

theorem stamps_iff :
    (∀ i : Instant, i.Within 1970 9999 → (t.stamp? i).isSome) ↔
      -8334601228800000 ≤ t.offset ∧ t.offset ≤ 7956864576000000 := by
  constructor
  · intro all
    have first : (⟨0⟩ : Instant).Within 1970 9999 := Instant.within_civil.mpr (by decide)
    have last : (⟨253402300799999999999⟩ : Instant).Within 1970 9999 :=
      Instant.within_civil.mpr (by decide)
    have least : -8334601228800000000000 ≤ 0 + t.offset * 1000000 :=
      (Instant.within_calendar.mp ((stamp?_isSome first).mp (all _ first))).1
    have most : 253402300799999999999 + t.offset * 1000000 < 8210266876800000000000 :=
      (Instant.within_calendar.mp ((stamp?_isSome last).mp (all _ last))).2
    omega
  · rintro ⟨least, most⟩ i civil
    have bounds := Instant.within_civil.mp civil
    rw [stamp?_isSome civil, Instant.within_calendar, Instant.nanos_later]
    omega

theorem midpoint_bounds {low high : Int} (sends : low ≤ sent ∧ sent ≤ high)
    (receives : low ≤ received ∧ received ≤ high) :
    low ≤ sent + (received - sent).tdiv 2 ∧ sent + (received - sent).tdiv 2 ≤ high := by
  have unit : Int.sign 2 = 1 := rfl
  rw [Int.tdiv_eq_ediv, unit]
  split <;> omega

theorem fits_of_civil (sends : 0 ≤ sent ∧ sent < 253402300800000)
    (receives : 0 ≤ received ∧ received < 253402300800000)
    (serves : 0 ≤ server ∧ server < 253402300800000) : Fits sent received server := by
  have word : (Number.twoTo 63 : Int) = 9223372036854775808 := by decide
  have middle : 0 ≤ sent + (received - sent).tdiv 2 ∧
      sent + (received - sent).tdiv 2 ≤ 253402300799999 :=
    midpoint_bounds (by omega) (by omega)
  refine ⟨?_, ?_, ?_⟩ <;> rw [Number.InWord, word] <;> omega

theorem ofMillis_civil {millis : Int} :
    (Instant.ofMillis millis).Within 1970 9999 ↔ 0 ≤ millis ∧ millis < 253402300800000 := by
  have nanos : (Instant.ofMillis millis).nanos = millis * 1000000 := rfl
  rw [Instant.within_civil, nanos]
  omega

theorem synced_stamps (measured : (t.sync c sent received w).1 = .ok offset) :
    (∀ i : Instant, i.Within 1970 9999 →
      (t.sync c sent received w).2.1.stamp? i
        = if (i.later offset).Within (-262143) 262142
          then some ((i.later offset).iso, (i.later offset).seconds) else none) ∧
      ((∀ i : Instant, i.Within 1970 9999 →
          ((t.sync c sent received w).2.1.stamp? i).isSome) ↔
        -8334601228800000 ≤ offset ∧ offset ≤ 7956864576000000) ∧
      ∃ time server, (c.serverTime w).1 = .ok time ∧ time.millis? = some server ∧
        offset = estimate sent received server ∧
        ((Instant.ofMillis sent).Within 1970 9999 → (Instant.ofMillis received).Within 1970 9999 →
          (Instant.ofMillis server).Within 1970 9999 →
          ∀ i : Instant, i.Within 1970 9999 →
            ((t.sync c sent received w).2.1.stamp? i).isSome) := by
  have kept : (t.sync c sent received w).2.1.offset = offset := by
    rw [sync_record, measured]
    rfl
  have all := stamps_iff (t := (t.sync c sent received w).2.1)
  rw [kept] at all
  refine ⟨fun i civil => kept ▸ stamp?_eq civil, all, ?_⟩
  obtain ⟨time, server, told, read, rfl⟩ := sync_ok measured
  refine ⟨time, server, told, read, rfl, fun sends receives serves => all.mpr ?_⟩
  have sends := ofMillis_civil.mp sends
  have receives := ofMillis_civil.mp receives
  have serves := ofMillis_civil.mp serves
  have middle : 0 ≤ sent + (received - sent).tdiv 2 ∧
      sent + (received - sent).tdiv 2 ≤ 253402300799999 :=
    midpoint_bounds (by omega) (by omega)
  rw [(fits_of_civil sends receives serves).estimate_eq]
  omega

theorem half_second_stamps :
    (unsynced.sync Client.forger 1000 1101 (telling "1550")).1 = .ok 500 ∧
      (unsynced.sync Client.forger 1000 1101 (telling "1550")).2.1.stamp?
        (.ofMillis 1700000000000) = some ("2023-11-14T22:13:20.500Z", 1700000000) := by
  have measured : (unsynced.sync Client.forger 1000 1101 (telling "1550")).1 = .ok 500 :=
    eq_ok_of_toOption (by decide +kernel)
  refine ⟨measured, ?_⟩
  rw [(synced_stamps measured).1 _ (ofMillis_civil.mpr (by decide))]
  decide +kernel

theorem nanoseconds_unstamped :
    (Instant.ofMillis 1700000000000).Within 1970 9999 ∧
      (unsynced.sync Client.forger 1700000000000 1700000000000
        (telling "1700000000000000000")).1 = .ok 1699998300000000000 ∧
      (unsynced.sync Client.forger 1700000000000 1700000000000
        (telling "1700000000000000000")).2.1.stamp? (.ofMillis 1700000000000) = none := by
  have civil : (Instant.ofMillis 1700000000000).Within 1970 9999 := ofMillis_civil.mpr (by decide)
  refine ⟨civil, eq_ok_of_toOption (by decide +kernel), ?_⟩
  decide +kernel

end Rest.TimeSync

end MarketWire
