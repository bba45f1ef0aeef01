import MarketWire.Rest.Client
import MarketWire.Stream.Session.Basic

namespace MarketWire

open Rest (Client Options)
open Signature (Login)
open MarketWire.Stream (Access Profile Session)

namespace Credentials

variable {a b c : Credentials}

def shownKey (c : Credentials) : List Char :=
  c.apiKey.toList.take (min visibleKey (c.apiKey.length / 2))

theorem redactedKey_eq (c : Credentials) : c.redactedKey = String.ofList c.shownKey ++ mask := by
  rw [redactedKey, shownKey, String.length_toList]

theorem redactedKey_eq_iff : a.redactedKey = b.redactedKey ↔ a.shownKey = b.shownKey := by
  rw [redactedKey_eq, redactedKey_eq, ← String.toList_inj, String.toList_append,
    String.toList_append, String.toList_ofList, String.toList_ofList, List.append_cancel_right_eq]

theorem visible_lt (held : c.apiKey ≠ "") :
    min visibleKey (c.apiKey.length / 2) < c.apiKey.length := by
  have : c.apiKey.length ≠ 0 := by rwa [ne_eq, String.length_eq_zero_iff]
  omega

theorem shownKey_long (long : 8 ≤ c.apiKey.length) : c.shownKey = c.apiKey.toList.take 4 := by
  have four : min visibleKey (c.apiKey.length / 2) = 4 := by
    rw [visibleKey]
    omega
  rw [shownKey, four]

def altered (cs : List Char) : List Char :=
  cs.dropLast ++ [if cs.getLast? = some '0' then '1' else '0']

theorem length_altered {cs : List Char} (held : cs ≠ []) : (altered cs).length = cs.length := by
  rw [altered, List.length_append, List.length_dropLast, List.length_singleton]
  exact Nat.sub_add_cancel (List.length_pos_iff.mpr held)

theorem altered_ne (cs : List Char) : altered cs ≠ cs := by
  intro same
  have last := congrArg List.getLast? same
  rw [altered, List.getLast?_concat] at last
  split at last
  · next zero =>
      rw [zero] at last
      cases last
  · next other => exact other last.symm

theorem take_altered {cs : List Char} {n : Nat} (less : n < cs.length) :
    (altered cs).take n = cs.take n := by
  have within : n ≤ cs.dropLast.length := by
    rw [List.length_dropLast]
    exact Nat.le_sub_one_of_lt less
  rw [altered, List.take_append_of_le_length within, List.dropLast_eq_take, List.take_take,
    Nat.min_eq_left (Nat.le_sub_one_of_lt less)]

theorem exists_other_key (held : c.apiKey ≠ "") :
    ∃ key, key ≠ c.apiKey ∧ ∀ secret passphrase,
      (⟨key, secret, passphrase⟩ : Credentials).redactedKey = c.redactedKey := by
  have chars : c.apiKey.toList ≠ [] := by rwa [ne_eq, String.toList_eq_nil_iff]
  refine ⟨String.ofList (altered c.apiKey.toList), fun same => ?_, fun secret passphrase => ?_⟩
  · refine altered_ne c.apiKey.toList ?_
    rw [← String.toList_ofList (l := altered c.apiKey.toList), same]
  · rw [redactedKey_eq_iff, shownKey, shownKey, String.toList_ofList, String.length_ofList,
      length_altered chars, String.length_toList]
    refine take_altered ?_
    rw [String.length_toList]
    exact visible_lt held

structure Alike (a b : Credentials) : Prop where
  credentials : a.describe = b.describe
  access : (Access.account a).describe = (Access.account b).describe
  options : ∀ o : Options,
    { o with credentials := some a }.describe = { o with credentials := some b }.describe
  client : ∀ c : Client,
    { c with credentials := some a }.describe = { c with credentials := some b }.describe
  login : ∀ seconds, (Login.signed a seconds).describe = (Login.signed b seconds).describe
  profile : ∀ p : Profile,
    { p with access := .account a }.describe = { p with access := .account b }.describe
  session : ∀ s : Session,
    { s with profile := { s.profile with access := .account a } }.describe
      = { s with profile := { s.profile with access := .account b } }.describe

theorem describe_login {l m : Login} (same : l.timestamp = m.timestamp) :
    l.describe = m.describe := by
  unfold Login.describe
  rw [same]

theorem alike_of_redactedKey (same : a.redactedKey = b.redactedKey) : a.Alike b := by
  have credentials : a.describe = b.describe := by
    unfold describe
    rw [same]
  have held : Options.describeCredentials (some a) = Options.describeCredentials (some b) :=
    congrArg (fun text => "Some(" ++ text ++ ")") credentials
  refine ⟨credentials, ?_, fun o => ?_, fun c => ?_, fun _ => describe_login rfl, fun _ => rfl,
    fun _ => rfl⟩
  · exact congrArg (fun text => "Private(" ++ text ++ ")") credentials
  · unfold Options.describe
    rw [held]
  · unfold Client.describe
    rw [held]

theorem descriptions_masked :
    (∀ a b : Credentials, a.redactedKey = b.redactedKey → a.Alike b) ∧
      (∀ c : Credentials,
        c.redactedKey
            = String.ofList (c.apiKey.toList.take (min 4 (c.apiKey.length / 2))) ++ "***" ∧
          (c.apiKey ≠ "" →
            min 4 (c.apiKey.length / 2) < c.apiKey.length ∧
            ∃ key, key ≠ c.apiKey ∧ ∀ secret passphrase,
              (⟨key, secret, passphrase⟩ : Credentials).redactedKey = c.redactedKey)) ∧
      ∀ a b : Credentials, 8 ≤ a.apiKey.length → 8 ≤ b.apiKey.length →
        a.apiKey.toList.take 4 = b.apiKey.toList.take 4 → a.redactedKey = b.redactedKey := by
  refine ⟨fun _ _ => alike_of_redactedKey, fun c => ⟨c.redactedKey_eq, fun held => ?_⟩, ?_⟩
  · exact ⟨visible_lt held, exists_other_key held⟩
  · intro a b longA longB same
    rw [redactedKey_eq_iff, shownKey_long longA, shownKey_long longB, same]

theorem greek_masked :
    (⟨"κλειδί-1", "s", "p"⟩ : Credentials).redactedKey = "κλει***" ∧
      (⟨"κλειδί-1", "s", "p"⟩ : Credentials).Alike ⟨"κλειδούχος", "t", ""⟩ := by
  have same := descriptions_masked.2.2 ⟨"κλειδί-1", "s", "p"⟩ ⟨"κλειδούχος", "t", ""⟩
    (by decide) (by decide) (by decide)
  exact ⟨by decide, descriptions_masked.1 _ _ same⟩

end Credentials

end MarketWire
