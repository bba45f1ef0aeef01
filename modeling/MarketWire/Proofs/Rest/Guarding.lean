import MarketWire.Proofs.Rest.Receiving

namespace MarketWire.Rest

namespace Url

variable {scheme x y z : List Char} {d : Char} {n : Nat}

def cleanTail (cs : List Char) : List Char := (Text.stripEnd isMarginal cs).filter isBroken

theorem cleanTail_cons (visible : isMarginal d = false) :
    cleanTail (d :: z) = d :: cleanTail z := by
  have stripped : Text.stripEnd isMarginal (d :: z) = d :: Text.stripEnd isMarginal z :=
    stripEnd_stop (x := []) visible
  rw [cleanTail, stripped, List.filter_cons_of_pos (isBroken_of_visible visible)]
  rfl

theorem cleanHead_visible (visible : ∀ c ∈ x, isMarginal c = false) : cleanHead x = x := by
  have kept : x.dropWhile isMarginal = x := by
    cases x with
    | nil => rfl
    | cons c x => exact List.dropWhile_cons_of_neg (by simp [visible c])
  rw [cleanHead, kept, List.filter_eq_self]
  exact fun c hc => isBroken_of_visible (visible c hc)

theorem clean_visible (visible : ∀ c ∈ x, isMarginal c = false) (some' : x ≠ []) (y : List Char) :
    clean (x ++ y) = x ++ cleanTail y := by
  obtain ⟨x, d, rfl⟩ := (List.eq_nil_or_concat x).resolve_left some'
  have last : isMarginal d = false := visible d (by simp)
  have before : ∀ c ∈ x, isMarginal c = false := fun c hc => visible c (by simp [hc])
  rw [List.concat_eq_append, List.append_assoc, List.singleton_append,
    clean_stop last (isBroken_of_visible last), cleanHead_visible before]
  simp [cleanTail]

theorem schemeOf_colon (plain : ':' ∉ scheme) :
    schemeOf (scheme ++ ':' :: z) = String.ofList (scheme.map Char.toLower) := by
  rw [schemeOf, takeWhile_stop (by decide), List.takeWhile_eq_self_iff.mpr (bne_of_not_mem plain)]

theorem siteOf?_formed (plain : ':' ∉ scheme) (first : ∀ c, y.head? = some c → isSlash c = false) :
    siteOf? (scheme ++ ':' :: '/' :: '/' :: y)
      = (defaultPort? (String.ofList (scheme.map Char.toLower))).bind fun n =>
          site? n (y.takeWhile fun c => !endsAuthority c) := by
  have kept : y.dropWhile isSlash = y := by
    cases y with
    | nil => rfl
    | cons c y =>
        have visible := first c rfl
        exact List.dropWhile_cons_of_neg (by simp [visible])
  have after : afterScheme (scheme ++ ':' :: '/' :: '/' :: y) = y := by
    rw [afterScheme, List.dropWhile_append_of_pos (bne_of_not_mem plain),
      List.dropWhile_cons_of_neg (by decide), List.drop_succ_cons, List.drop_zero,
      List.dropWhile_cons_of_pos (by decide), List.dropWhile_cons_of_pos (by decide), kept]
  rw [siteOf?, if_pos (by simp), schemeOf_colon plain, authorityOf, after]

theorem site?_credentials (x y : List Char) : site? n (x ++ '@' :: y) = site? n y := by
  have hostPort : (afterCredentials (x ++ '@' :: y)).1 = (afterCredentials y).1 := by
    rw [afterCredentials, afterCredentials, List.reverse_append, List.reverse_cons,
      List.append_assoc, List.singleton_append, takeWhile_stop (by decide)]
  have credentials : (afterCredentials (x ++ '@' :: y)).2 = true := by simp [afterCredentials]
  -- If `y` has no `@` of its own, only one side sees credentials. That tells on an empty host only,
  -- and an empty host is none.
  by_cases within : '@' ∈ y
  · have same : (afterCredentials y).2 = true := by simp [afterCredentials, within]
    simp only [site?, hostPort, credentials, same]
  · have whole : (afterCredentials y).1 = y := by
      rw [afterCredentials, List.takeWhile_eq_self_iff.mpr, List.reverse_reverse]
      exact bne_of_not_mem (by simpa using within)
    cases y with
    | nil =>
        rw [site?_nil]
        simp only [site?, hostPort, whole, credentials, List.isEmpty_nil, and_self, if_true]
    | cons c y =>
        simp only [site?, hostPort, whole, List.isEmpty_cons, Bool.false_eq_true, and_false,
          if_false]

structure Base where
  scheme : List Char
  authority : List Char
  below : List Char
  plain : ':' ∉ scheme
  named : authority ≠ []
  within : ∀ c ∈ authority, endsAuthority c = false
  rooted : ∀ c, below.head? = some c → c = '/'
  visible : ∀ c ∈ scheme ++ authority ++ below, isMarginal c = false

namespace Base

variable {b : Base} {path rest : String}

def chars (b : Base) : List Char := b.scheme ++ ':' :: '/' :: '/' :: (b.authority ++ b.below)

def text (b : Base) : String := String.ofList b.chars

def site (b : Base) : Option Site := (parse? b.text).map Url.site

def Bounds (b : Base) (path : String) : Prop :=
  ∀ c, (b.below ++ cleanTail path.toList).head? = some c → endsAuthority c = true

theorem bounds_of_rooted (b : Base) (rooted : path.toList.head? = some '/') : b.Bounds path := by
  intro c hc
  cases hbelow : b.below with
  | cons d below =>
      have slash : d = '/' := b.rooted d (by rw [hbelow]; rfl)
      rw [hbelow] at hc
      cases hc
      rw [slash]
      rfl
  | nil =>
      obtain ⟨rest, begins⟩ := List.head?_eq_some_iff.mp rooted
      rw [hbelow, List.nil_append, begins, cleanTail_cons (by decide)] at hc
      cases hc
      rfl

theorem clean_chars (b : Base) (y : List Char) : clean (b.chars ++ y) = b.chars ++ cleanTail y := by
  refine clean_visible (fun c hc => ?_) (by simp [chars]) y
  have visible := b.visible c
  simp only [chars, List.mem_append, List.mem_cons] at hc visible
  rcases hc with hc | rfl | rfl | rfl | hc
  · exact visible (Or.inl (Or.inl hc))
  · decide
  · decide
  · decide
  · exact visible (hc.imp Or.inr id)

theorem authority_first (b : Base) (y : List Char) :
    ∀ c, (b.authority ++ y).head? = some c → isSlash c = false := by
  obtain ⟨d, authority, begins⟩ := List.exists_cons_of_ne_nil b.named
  intro c hc
  have first : endsAuthority d = false := b.within d (by simp [begins])
  rw [begins] at hc
  cases hc
  simp only [endsAuthority, Bool.or_eq_false_iff] at first
  exact first.1.1

theorem site?_append (b : Base) (path : String) :
    (parse? (b.text ++ path)).map Url.site
      = (defaultPort? (String.ofList (b.scheme.map Char.toLower))).bind fun n =>
          site? n (b.authority ++
            (b.below ++ cleanTail path.toList).takeWhile fun c => !endsAuthority c) := by
  rw [parse?_site, text, String.toList_append, String.toList_ofList, clean_chars, chars,
    List.append_assoc, List.cons_append, List.cons_append, List.cons_append, List.append_assoc,
    siteOf?_formed b.plain (b.authority_first _),
    List.takeWhile_append_of_pos fun c hc => by simp [b.within c hc]]

theorem site_eq (bounds : b.Bounds path) : (parse? (b.text ++ path)).map Url.site = b.site := by
  have ended : ∀ path, b.Bounds path →
      (b.below ++ cleanTail path.toList).takeWhile (fun c => !endsAuthority c) = [] := by
    intro path bounds
    cases hmore : b.below ++ cleanTail path.toList with
    | nil => rfl
    | cons c more =>
        have mark := bounds c (by rw [hmore]; rfl)
        exact List.takeWhile_cons_of_neg (by simp [mark])
  have alone : b.Bounds "" := by
    intro c hc
    have none : cleanTail "".toList = [] := rfl
    rw [none, List.append_nil] at hc
    rw [b.rooted c hc]
    rfl
  rw [site?_append, ended path bounds, ← ended "" alone, ← site?_append, String.append_empty]
  rfl

theorem site_credentials (bare : b.below = [])
    (first : ∀ c, (cleanTail rest.toList).head? = some c → isSlash c = false) :
    (parse? (b.text ++ ("@" ++ rest))).map Url.site
      = (parse? (String.ofList b.scheme ++ "://" ++ rest)).map Url.site := by
  have marked : cleanTail ("@" ++ rest).toList = '@' :: cleanTail rest.toList := by
    rw [String.toList_append]
    exact cleanTail_cons (by decide)
  have cleaned : clean (String.ofList b.scheme ++ "://" ++ rest).toList
      = b.scheme ++ ':' :: '/' :: '/' :: cleanTail rest.toList := by
    have visible : ∀ c ∈ b.scheme ++ [':', '/', '/'], isMarginal c = false := by
      intro c hc
      rcases List.mem_append.mp hc with hc | hc
      · exact b.visible c (by simp [hc])
      · simp only [List.mem_cons, List.not_mem_nil, or_false] at hc
        rcases hc with rfl | rfl | rfl <;> decide
    rw [String.toList_append, String.toList_append, String.toList_ofList]
    have whole := clean_visible visible (by simp) rest.toList
    rwa [List.append_assoc b.scheme [':', '/', '/'] (cleanTail _)] at whole
  rw [site?_append, bare, List.nil_append, marked, List.takeWhile_cons_of_pos (by decide),
    parse?_site, cleaned, siteOf?_formed b.plain first]
  simp only [site?_credentials]

end Base

end Url

theorem Server.sees?_site {s : Server} {q : HttpRequest} {r : Received}
    (h : s.sees? q = some r) : (Url.parse? q.url).map Url.site = some s.site := by
  obtain ⟨u, hu, h⟩ := Option.bind_eq_some_iff.mp h
  split at h
  · next there => rw [hu, Option.map_some, there.2.2]
  · cases h

theorem Server.exchange_elsewhere {s : Server} {q : HttpRequest}
    (elsewhere : (Url.parse? q.url).map Url.site ≠ some s.site) : (s.exchange q).2 = s := by
  rw [Server.exchange]
  cases parsed : Url.parse? q.url with
  | none => rfl
  | some u =>
      have apart : ¬(s.listening = true ∧ u.site = s.site) := fun there => by
        rw [parsed, Option.map_some, there.2] at elsewhere
        exact elsewhere rfl
      by_cases sendable : isSendable q u = true <;> simp [sendable, apart]

namespace Client

open Url (Base)

variable {c : Client} {ask : Ask} {call : Call} {n : Nat} {u w : Surroundings} {tries : List Try}
  {b : Base} {k : Credentials}

def Ask.path : Ask → String
  | .publicGet path _ => path
  | .serverTime => serverTimePath
  | .privateGet path _ => path
  | .privatePost path _ => path

theorem requestPath_unrooted {path : String} (unrooted : path.toList.head? ≠ some '/')
    (query : List (String × String)) :
    requestPath path query = .error (.invalidParameter ("path must start with '/': " ++ path)) := by
  rw [requestPath, if_pos unrooted]

theorem requestPath_rooted {path whole : String} {query : List (String × String)}
    (made : requestPath path query = .ok whole) : whole.toList.head? = some '/' := by
  rw [requestPath] at made
  split at made
  · cases made
  · next rooted =>
      rw [not_not] at rooted
      split at made
      · cases made
        exact rooted
      · cases made
        obtain ⟨rest, begins⟩ := List.head?_eq_some_iff.mp rooted
        rw [String.toList_append, String.toList_append, begins]
        rfl

theorem get_unrooted (signer : c.credentials = some k) (get : ask.method = .get)
    (unrooted : ask.path.toList.head? ≠ some '/') :
    ask.call? c = .error (.invalidParameter ("path must start with '/': " ++ ask.path)) := by
  cases ask with
  | publicGet path query =>
      have refused := requestPath_unrooted unrooted query
      simp only [Ask.path] at refused ⊢
      rw [Ask.call?, publicGet, refused]
      rfl
  | serverTime => exact absurd rfl unrooted
  | privateGet path query =>
      have refused := requestPath_unrooted unrooted query
      simp only [Ask.path] at refused ⊢
      rw [Ask.call?, privateGet, requireCredentials, signer, refused]
      rfl
  | privatePost path body => cases get

theorem get_rooted (asked : ask.call? c = .ok call) (get : ask.method = .get) :
    call.path.toList.head? = some '/' := by
  have path := (asks_of_call? asked).path
  cases ask with
  | publicGet _ _ => exact requestPath_rooted path
  | serverTime =>
      rw [← Except.ok.inj path]
      decide
  | privateGet _ _ => exact requestPath_rooted path
  | privatePost _ _ => cases get

structure GoesTo (c : Client) (call : Call) (site : Option Site) : Prop where
  named : ∀ {n w tries u}, c.Course call n w tries u → ∀ t ∈ tries,
    (Url.parse? t.request.url).map Url.site = site
  received : ∀ {n w tries u}, c.Course call n w tries u → ∀ t ∈ tries, ∀ (s : Server) r,
    s.sees? t.request = some r → site = some s.site
  elsewhere : ∀ {α : Type} (decode : Json → Option α) (w : Surroundings),
    site ≠ some w.server.site → (c.perform decode (.ok call) w).2.server = w.server

theorem attempt_elsewhere (elsewhere :
    (Url.parse? (c.baseUrl ++ call.path)).map Url.site ≠ some w.server.site) :
    (c.attempt call w).2.server = w.server := by
  simp only [attempt_eq]
  rw [Server.exchange_elsewhere]
  exact elsewhere

theorem attempts_elsewhere (n : Nat) (elsewhere :
    (Url.parse? (c.baseUrl ++ call.path)).map Url.site ≠ some w.server.site) :
    (c.attempts call n w).2.server = w.server := by
  induction n generalizing w with
  | zero =>
      rw [attempts]
      exact attempt_elsewhere elsewhere
  | succ n ih =>
      have same := attempt_elsewhere elsewhere
      rw [attempts_succ]
      split
      · rw [ih (by rwa [same]), same]
      · exact same

theorem goesTo_site (c : Client) (call : Call) :
    c.GoesTo call ((Url.parse? (c.baseUrl ++ call.path)).map Url.site) := by
  have named : ∀ {n w tries u}, c.Course call n w tries u → ∀ t ∈ tries,
      t.request.url = c.baseUrl ++ call.path := by
    intro n w tries u course t ht
    obtain ⟨timestamp, request⟩ := course.requests t ht
    rw [request]
    rfl
  refine ⟨fun course t ht => ?_, fun course t ht s r seen => ?_, fun decode w elsewhere => ?_⟩
  · rw [named course t ht]
  · rw [← named course t ht]
    exact Server.sees?_site seen
  · simp only [perform]
    rw [attempts_elsewhere]
    exact elsewhere

theorem attempts_guarded (based : c.baseUrl = b.text) (signer : c.credentials = some k) :
    (∀ ask : Ask, ask.method = .get → ask.path.toList.head? ≠ some '/' →
      ∀ {α : Type} (decode : Json → Option α) (w : Surroundings),
        c.perform decode (ask.call? c) w
          = (.error (.invalidParameter ("path must start with '/': " ++ ask.path)), w)) ∧
      (∀ (ask : Ask) call, ask.call? c = .ok call → ask.method = .get ∨ b.Bounds ask.path →
        c.GoesTo call b.site) ∧
      (∀ path body, (Ask.privatePost path body).call? c = .ok ⟨.post, path, body.text, some k⟩) ∧
      ∀ rest body, b.below = [] →
        (∀ d, (Url.cleanTail rest.toList).head? = some d → Url.isSlash d = false) →
          c.GoesTo ⟨.post, "@" ++ rest, body, some k⟩
            ((Url.parse? (String.ofList b.scheme ++ "://" ++ rest)).map Url.site) := by
  refine ⟨fun ask get unrooted _ decode w => ?_, fun ask call asked bounds => ?_,
    fun path body => ?_, fun rest body bare first => ?_⟩
  · rw [get_unrooted signer get unrooted]
    rfl
  · have bounded : b.Bounds call.path := by
      rcases bounds with get | bounds
      · exact b.bounds_of_rooted (get_rooted asked get)
      · cases ask with
        | privatePost path body =>
            rwa [← Except.ok.inj (asks_of_call? asked).path]
        | _ => exact b.bounds_of_rooted (get_rooted asked rfl)
    have there := goesTo_site c call
    rwa [based, Base.site_eq bounded] at there
  · rw [Ask.call?, privatePost, requireCredentials, signer]
    rfl
  · have there := goesTo_site c ⟨.post, "@" ++ rest, body, some k⟩
    rwa [based, Base.site_credentials bare first] at there

def loopback : Base where
  scheme := "http".toList
  authority := "[::1]".toList
  below := []
  plain := by decide
  named := by decide
  within := by simp [Url.endsAuthority, Url.isSlash]
  rooted := nofun
  visible := by simp [Url.isMarginal]

def abroad : Surroundings :=
  ⟨⟨["t0"], 0⟩, ⟨⟨.v6 [0, 0, 0, 0, 0, 0, 0, 2], 80⟩, true, [], []⟩⟩

theorem reading_guarded :
    signingClient.baseUrl = loopback.text ∧
      signingClient.credentials = some ⟨"key", "secret", "pass"⟩ ∧
      (signingClient.perform serverTimes? ((Ask.privateGet "@[::2]/p" []).call? signingClient) abroad
        = (.error (.invalidParameter "path must start with '/': @[::2]/p"), abroad)) ∧
      (signingClient.perform serverTimes? (reading.call? signingClient) abroad).2.server
        = abroad.server := by
  have based : signingClient.baseUrl = loopback.text := by decide
  have signer : signingClient.credentials = some ⟨"key", "secret", "pass"⟩ := rfl
  obtain ⟨guarded, kept, _, _⟩ := attempts_guarded based signer
  have asked : reading.call? signingClient = .ok ⟨.get, "/a b", "", some ⟨"key", "secret", "pass"⟩⟩ :=
    rfl
  have there : loopback.site ≠ some abroad.server.site := by decide +kernel
  refine ⟨based, signer, guarded (.privateGet "@[::2]/p" []) rfl (by decide) serverTimes? abroad, ?_⟩
  rw [asked]
  exact (kept reading _ asked (Or.inl rfl)).elsewhere serverTimes? abroad there

def straying : Ask := .privatePost "@[::2]/p" (.obj [])

theorem straying_received :
    straying.path.toList.head? ≠ some '/' ∧ loopback.site ≠ some abroad.server.site ∧
      ∃ r at', (signingClient.perform serverTimes? (straying.call? signingClient)
          abroad).2.server.received = [r] ∧
        r.target = "/p" ∧ r.carried Signature.keyHeader = ["key"] ∧
        r.carried Signature.signHeader
          = [Signature.sign "secret" at' "POST" "@[::2]/p" "\x7b\x7d"] := by
  have built : signing.build = .ok signingClient := rfl
  have asked : straying.call? signingClient
      = .ok ⟨.post, "@[::2]/p", "\x7b\x7d", some ⟨"key", "secret", "pass"⟩⟩ := rfl
  have arrived : (signingClient.perform serverTimes? (straying.call? signingClient)
      abroad).2.server.received.map (fun r => (r.target, r.carried Signature.keyHeader))
        = [("/p", ["key"])] := by decide +kernel
  obtain ⟨r, received, told⟩ := List.map_eq_singleton_iff.mp arrived
  obtain ⟨target, key⟩ := Prod.mk.inj told
  obtain ⟨tries, course, seen⟩ := perform_course asked serverTimes? abroad
  have met : r ∈ tries.filterMap Try.seen := by
    have mem : r ∈ abroad.server.received ++ tries.filterMap Try.seen := by
      rw [← seen, received]
      exact List.mem_singleton_self r
    exact mem
  obtain ⟨t, ht, seen⟩ := List.mem_filterMap.mp met
  obtain ⟨s, sees⟩ := course.seen t ht
  obtain ⟨at', request⟩ := course.requests t ht
  rw [sees, request] at seen
  have receives : Receives signing ⟨"key", "secret", "pass"⟩ at' .post "@[::2]/p" "\x7b\x7d" r :=
    sees?_receives built rfl seen
  exact ⟨by decide, by decide +kernel, r, at', received, target, key, receives.signature⟩

end Client

end MarketWire.Rest
