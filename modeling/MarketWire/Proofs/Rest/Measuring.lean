import MarketWire.Proofs.Rest.Retrying
import Mathlib.Data.Rat.Floor
import Mathlib.Tactic.Linarith

namespace MarketWire.Rest.TimeSync

open Client (Course Surroundings Try)
open Number (InWord twoTo wrapped)

variable {t u : TimeSync} {c : Client} {w : Surroundings} {sent received server offset : Int}
  {time : ServerTime} {results : List (Except RestError Int)}

theorem sync_result (t : TimeSync) (c : Client) (sent received : Int) (w : Surroundings) :
    (t.sync c sent received w).1 = (c.serverTime w).1.bind (offsetOf sent received) := rfl

theorem sync_record (t : TimeSync) (c : Client) (sent received : Int) (w : Surroundings) :
    (t.sync c sent received w).2.1 = t.record (t.sync c sent received w).1 := rfl

inductive Measures (sent received : Int) :
    Except RestError (List ServerTime) → Except RestError Int → Prop where
  | failed (e : RestError) : Measures sent received (.error e) (.error e)
  | empty :
      Measures sent received (.ok []) (.error (.undecodable "empty server time response"))
  | unreadable {time : ServerTime} {times : List ServerTime} :
      time.millis? = none →
      Measures sent received (.ok (time :: times))
        (.error (.undecodable ("invalid server timestamp: " ++ time.ts)))
  | measured {time : ServerTime} {times : List ServerTime} {server : Int} :
      time.millis? = some server →
      Measures sent received (.ok (time :: times)) (.ok (estimate sent received server))

theorem offsetOf_measures (sent received : Int) (times : Except RestError (List ServerTime)) :
    Measures sent received times
      ((times.bind Client.firstTime).bind (offsetOf sent received)) := by
  cases times with
  | error e => exact .failed e
  | ok times =>
      cases times with
      | nil => exact .empty
      | cons time times =>
          simp only [Except.bind, Client.firstTime, offsetOf]
          split
          · next server read => exact .measured read
          · next unread => exact .unreadable unread

theorem sync_measures (t : TimeSync) (c : Client) (sent received : Int) (w : Surroundings) :
    ∃ tries last times,
      c.Course Client.serverTimeCall c.retry.maxRetries w tries (t.sync c sent received w).2.2 ∧
        tries.getLast? = some last ∧ Outcome.Tells serverTimes? last.outcome times ∧
        Measures sent received times (t.sync c sent received w).1 := by
  obtain ⟨tries, course, ended, _⟩ :=
    Client.attempts_course c Client.serverTimeCall c.retry.maxRetries w
  obtain ⟨last, hlast, outcome⟩ := Option.map_eq_some_iff.mp ended
  refine ⟨tries, last, _, course, hlast, Outcome.result_tells serverTimes? _, ?_⟩
  rw [outcome]
  exact offsetOf_measures sent received _

theorem offsetOf_ok (measured : offsetOf sent received time = .ok offset) :
    ∃ server, time.millis? = some server ∧ offset = estimate sent received server := by
  rw [offsetOf] at measured
  split at measured
  · next server read =>
      cases measured
      exact ⟨server, read, rfl⟩
  · cases measured

theorem sync_ok (measured : (t.sync c sent received w).1 = .ok offset) :
    ∃ time server, (c.serverTime w).1 = .ok time ∧ time.millis? = some server ∧
      offset = estimate sent received server := by
  rw [sync_result] at measured
  cases told : (c.serverTime w).1 with
  | error e =>
      rw [told] at measured
      cases measured
  | ok time =>
      rw [told] at measured
      obtain ⟨server, read, same⟩ := offsetOf_ok measured
      exact ⟨time, server, rfl, read, same⟩

theorem wrapped_of_inWord {n : Int} (fits : InWord n) : wrapped n = n := by
  have word : twoTo 64 = 18446744073709551616 := by decide
  have half : (twoTo 63 : Int) = 9223372036854775808 := by decide
  obtain ⟨least, most⟩ := fits
  rw [wrapped, word]
  exact Int.bmod_eq_of_le (by omega) (by omega)

structure Fits (sent received server : Int) : Prop where
  trip : InWord (received - sent)
  midpoint : InWord (sent + (received - sent).tdiv 2)
  difference : InWord (server - (sent + (received - sent).tdiv 2))

theorem Fits.estimate_eq (fits : Fits sent received server) :
    estimate sent received server = server - (sent + (received - sent).tdiv 2) := by
  rw [estimate, wrapped_of_inWord fits.trip, wrapped_of_inWord fits.midpoint,
    wrapped_of_inWord fits.difference]

theorem half_bounds (order : sent ≤ received) :
    2 * (received - sent).tdiv 2 ≤ received - sent ∧
      received - sent ≤ 2 * (received - sent).tdiv 2 + 1 := by
  rw [Int.tdiv_eq_ediv_of_nonneg (Int.sub_nonneg.mpr order)]
  omega

theorem estimate_near (fits : Fits sent received server) {moment theta : ℚ} (after : sent ≤ moment) (before : moment ≤ received)
    (reads : server = moment + theta) :
    |(estimate sent received server : ℚ) - theta| ≤ ⌈((received : ℚ) - sent) / 2⌉ := by
  have order : sent ≤ received := by exact_mod_cast after.trans before
  obtain ⟨least, most⟩ := half_bounds order
  have ceiling : received - sent ≤ 2 * ⌈((received : ℚ) - sent) / 2⌉ := by
    have above := Int.le_ceil (((received : ℚ) - sent) / 2)
    have doubled : ((received - sent : Int) : ℚ) ≤ (2 * ⌈((received : ℚ) - sent) / 2⌉ : Int) := by
      push_cast
      linarith only [above]
    exact_mod_cast doubled
  rw [fits.estimate_eq]
  generalize ⌈((received : ℚ) - sent) / 2⌉ = bound at *
  generalize (received - sent).tdiv 2 = half at *
  have late : ((received - sent - half : Int) : ℚ) ≤ bound := by exact_mod_cast (by omega)
  have early : (half : ℚ) ≤ bound := by exact_mod_cast (by omega)
  push_cast at late ⊢
  rw [reads, abs_le]
  constructor
  · linarith only [after, early]
  · linarith only [before, late]

inductive Syncs : TimeSync → List (Except RestError Int) → TimeSync → Prop where
  | nil (t : TimeSync) : Syncs t [] t
  | cons {t u : TimeSync} {results : List (Except RestError Int)} (c : Client)
      (sent received : Int) (w : Surroundings) :
      Syncs (t.sync c sent received w).2.1 results u →
      Syncs t ((t.sync c sent received w).1 :: results) u

def offsets (results : List (Except RestError Int)) : List Int := results.filterMap Except.toOption

theorem mem_offsets : offset ∈ offsets results ↔ .ok offset ∈ results := by
  rw [offsets, List.mem_filterMap]
  constructor
  · rintro ⟨r, hr, same⟩
    cases r with
    | error e => cases same
    | ok offset =>
        cases same
        exact hr
  · exact fun h => ⟨_, h, rfl⟩

theorem Syncs.measured (syncs : Syncs t results u) :
    u.measured = (offsets results).getLast?.or t.measured := by
  induction syncs with
  | nil t => rfl
  | @cons t u results c sent received w _ ih =>
      rw [ih, sync_record]
      cases (t.sync c sent received w).1 with
      | error e => rfl
      | ok offset =>
          simp only [record, offsets, List.filterMap_cons, Except.toOption, List.getLast?_cons]
          cases (List.filterMap Except.toOption results).getLast? <;> rfl

theorem Syncs.isSynced_iff (syncs : Syncs unsynced results u) :
    u.isSynced = true ↔ ∃ offset, .ok offset ∈ results := by
  rw [isSynced, syncs.measured, unsynced, Option.or_none, List.getLast?_isSome]
  simp only [← mem_offsets]
  exact ⟨List.exists_mem_of_ne_nil _, fun ⟨_, held⟩ => List.ne_nil_of_mem held⟩

theorem Syncs.offset_eq (syncs : Syncs unsynced results u) :
    u.offset = (offsets results).getLast?.getD 0 := by
  rw [offset, syncs.measured, unsynced, Option.or_none]

theorem syncs_measured :
    (∀ {results u}, Syncs unsynced results u →
      (u.isSynced = true ↔ ∃ offset, .ok offset ∈ results) ∧
        u.offset = (offsets results).getLast?.getD 0) ∧
      ∀ (t : TimeSync) (c : Client) (sent received : Int) (w : Surroundings),
        (∃ tries last times,
          c.Course Client.serverTimeCall c.retry.maxRetries w tries (t.sync c sent received w).2.2 ∧
            tries.getLast? = some last ∧ Outcome.Tells serverTimes? last.outcome times ∧
            Measures sent received times (t.sync c sent received w).1) ∧
          (∀ e, (t.sync c sent received w).1 = .error e → (t.sync c sent received w).2.1 = t) ∧
          ∀ offset, (t.sync c sent received w).1 = .ok offset →
            (t.sync c sent received w).2.1.isSynced = true ∧
              (t.sync c sent received w).2.1.offset = offset ∧
              ∃ time server, (c.serverTime w).1 = .ok time ∧ time.millis? = some server ∧
                (Fits sent received server →
                  ∀ moment theta : ℚ, sent ≤ moment → moment ≤ received → server = moment + theta →
                    |(offset : ℚ) - theta| ≤ ⌈((received : ℚ) - sent) / 2⌉) := by
  refine ⟨fun syncs => ⟨syncs.isSynced_iff, syncs.offset_eq⟩, fun t c sent received w =>
    ⟨sync_measures t c sent received w, fun e failed => ?_, fun offset measured => ?_⟩⟩
  · rw [sync_record, failed]
    rfl
  · obtain ⟨time, server, told, read, rfl⟩ := sync_ok measured
    rw [sync_record, measured]
    exact ⟨rfl, rfl, time, server, told, read, fun fits _ _ => estimate_near fits⟩

def replying (body : String) : Surroundings :=
  ⟨⟨[], 0⟩, ⟨⟨.v6 [0, 0, 0, 0, 0, 0, 0, 1], 80⟩, true,
    [.answer 200 (Text.Utf8.encode body) false], []⟩⟩

def telling (ts : String) : Surroundings :=
  replying ("\x7b\"code\":\"0\",\"data\":[\x7b\"ts\":\"" ++ ts ++ "\"\x7d]\x7d")

theorem eq_ok_of_toOption {α : Type} {r : Except RestError α} {a : α}
    (h : r.toOption = some a) : r = .ok a := by
  cases r with
  | error e => cases h
  | ok b =>
      cases h
      rfl

theorem second_measured :
    ∃ results u, Syncs unsynced results u ∧
      results.map Except.toOption = [none, some 500, none] ∧ u.isSynced = true ∧ u.offset = 500 ∧
      ∀ moment theta : ℚ, (1000 : Int) ≤ moment → moment ≤ (1101 : Int) →
        (1550 : Int) = moment + theta →
          |((500 : Int) : ℚ) - theta| ≤ ⌈(((1101 : Int) : ℚ) - (1000 : Int)) / 2⌉ := by
  obtain ⟨results, u, syncs, told⟩ : ∃ results u, Syncs unsynced results u ∧
      results.map Except.toOption = [none, some 500, none] := by
    refine ⟨_, _, .cons Client.forger 0 1 (telling "soon") (.cons Client.forger 1000 1101
      (telling "1550") (.cons Client.forger 2000 2001 (replying "") (.nil _))), ?_⟩
    decide +kernel
  have second : offsets results = [500] := by
    rw [offsets, ← Function.id_comp Except.toOption, ← List.filterMap_map, told]
    rfl
  obtain ⟨synced, kept⟩ := syncs_measured.1 syncs
  rw [second] at kept
  have measured : (unsynced.sync Client.forger 1000 1101 (telling "1550")).1 = .ok 500 :=
    eq_ok_of_toOption (by decide +kernel)
  have asked : (Client.forger.serverTime (telling "1550")).1 = .ok ⟨"1550"⟩ :=
    eq_ok_of_toOption (by decide +kernel)
  obtain ⟨_, _, time, server, read, stamp, near⟩ :=
    (syncs_measured.2 unsynced Client.forger 1000 1101 (telling "1550")).2.2 500 measured
  cases asked.symm.trans read
  have same : server = 1550 := Option.some.inj (stamp.symm.trans (by decide +kernel))
  rw [same] at near
  have fits : Fits 1000 1101 1550 := ⟨by decide, by decide, by decide⟩
  refine ⟨results, u, syncs, told, synced.mpr ⟨500, mem_offsets.mp ?_⟩, kept, near fits⟩
  rw [second]
  exact List.mem_singleton_self 500

end MarketWire.Rest.TimeSync
