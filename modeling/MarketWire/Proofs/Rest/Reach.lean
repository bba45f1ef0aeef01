import MarketWire.Proofs.Encoding
import MarketWire.Proofs.Rest.Target
import Mathlib.Data.List.TakeWhile

namespace MarketWire.Rest.Url

variable {cs x y z : List Char} {d : Char} {p : Char → Bool}

def schemeOf (cs : List Char) : String := String.ofList ((cs.takeWhile (· != ':')).map Char.toLower)

def afterScheme (cs : List Char) : List Char := ((cs.dropWhile (· != ':')).drop 1).dropWhile isSlash

def authorityOf (cs : List Char) : List Char := (afterScheme cs).takeWhile fun c => !endsAuthority c

def tailOf (cs : List Char) : List Char := (afterScheme cs).dropWhile fun c => !endsAuthority c

def site? (defaultPort : Nat) (authority : List Char) : Option Site :=
  let (hostPort, credentials) := afterCredentials authority
  let (host, portDigits) := splitPort false hostPort
  if credentials ∧ hostPort.isEmpty then none
  else
    (Host.parse? host).bind fun host => (portNumber? defaultPort portDigits).map fun n => ⟨host, n⟩

def siteOf? (cs : List Char) : Option Site :=
  if ':' ∈ cs then (defaultPort? (schemeOf cs)).bind fun n => site? n (authorityOf cs) else none

def askedOf (cs : List Char) : List Char := targetOf ((tailOf cs).takeWhile (· != '#'))

theorem ofParts?_parts (scheme : String) (defaultPort : Nat) (rest : List Char) :
    (ofParts? scheme defaultPort rest).map (fun u => (u.site, u.target))
      = (site? defaultPort ((rest.dropWhile isSlash).takeWhile fun c => !endsAuthority c)).map
          fun site => (site, targetOf (((rest.dropWhile isSlash).dropWhile
            fun c => !endsAuthority c).takeWhile (· != '#'))) := by
  simp only [ofParts?, site?]
  split
  · rfl
  · cases Host.parse? (splitPort false (afterCredentials _).1).1 with
    | none => rfl
    | some host =>
        cases portNumber? defaultPort (splitPort false (afterCredentials _).1).2 with
        | none => rfl
        | some n => rfl

theorem dropWhile_of_mem (h : d ∈ cs) : ∃ rest, cs.dropWhile (· != d) = d :: rest := by
  induction cs with
  | nil => cases h
  | cons c cs ih =>
      by_cases here : c = d
      · exact ⟨cs, by simp [here]⟩
      · rw [List.dropWhile_cons_of_pos (by simpa using here)]
        exact ih ((List.mem_cons.mp h).resolve_left (Ne.symm here))

theorem parse?_parts (text : String) :
    (parse? text).map (fun u => (u.site, u.target))
      = (siteOf? (clean text.toList)).map fun site => (site, askedOf (clean text.toList)) := by
  rw [parse?, siteOf?]
  generalize clean text.toList = cs
  by_cases colon : ':' ∈ cs
  · obtain ⟨rest, after⟩ := dropWhile_of_mem colon
    rw [if_pos colon, after]
    cases hn : defaultPort? (schemeOf cs) with
    | none =>
        rw [schemeOf] at hn
        rw [hn]
        rfl
    | some n =>
        rw [schemeOf] at hn
        rw [hn]
        simp only [ofParts?_parts, Option.bind_some, authorityOf, askedOf, tailOf, afterScheme,
          after, List.drop_succ_cons, List.drop_zero]
  · have none : cs.dropWhile (· != ':') = [] :=
      List.dropWhile_eq_nil_iff.mpr (bne_of_not_mem colon)
    rw [if_neg colon, none]
    cases defaultPort? _ <;> rfl

theorem parse?_site (text : String) :
    (parse? text).map site = siteOf? (clean text.toList) := by
  have parts := congrArg (Option.map Prod.fst) (parse?_parts text)
  simpa [Option.map_map, Function.comp_def] using parts

theorem parse?_target (text : String) :
    (parse? text).map target
      = (siteOf? (clean text.toList)).map fun _ => askedOf (clean text.toList) := by
  have parts := congrArg (Option.map Prod.snd) (parse?_parts text)
  simpa [Option.map_map, Function.comp_def] using parts

theorem takeWhile_stop (stop : p d = false) : (x ++ d :: z).takeWhile p = x.takeWhile p := by
  induction x with
  | nil => simp [stop]
  | cons c x ih =>
      rw [List.cons_append, List.takeWhile_cons, List.takeWhile_cons, ih]

theorem dropWhile_stop (stop : p d = false) :
    (x ++ d :: z).dropWhile p = x.dropWhile p ++ d :: z := by
  induction x with
  | nil => simp [stop]
  | cons c x ih =>
      rw [List.cons_append, List.dropWhile_cons, List.dropWhile_cons, ih]
      split <;> rfl

theorem stripEnd_stop (stop : p d = false) :
    Text.stripEnd p (x ++ d :: z) = x ++ d :: Text.stripEnd p z := by
  rw [Text.stripEnd, List.reverse_append, List.reverse_cons, List.append_assoc,
    List.singleton_append, dropWhile_stop stop]
  simp [Text.stripEnd]

def isMarginal (c : Char) : Bool := c.toNat ≤ 0x20

def isBroken (c : Char) : Bool := c != '\t' && c != '\n' && c != '\r'

theorem isBroken_of_visible (visible : isMarginal d = false) : isBroken d = true := by
  rw [isBroken]
  refine Bool.and_eq_true_iff.mpr ⟨Bool.and_eq_true_iff.mpr ⟨?_, ?_⟩, ?_⟩ <;>
  · rw [bne_iff_ne]
    rintro rfl
    exact absurd visible (by decide)

def cleanHead (cs : List Char) : List Char := (cs.dropWhile isMarginal).filter isBroken

theorem clean_stop (visible : isMarginal d = false) (whole : isBroken d = true) :
    clean (x ++ d :: z) = cleanHead x ++ d :: (Text.stripEnd isMarginal z).filter isBroken := by
  change (Text.stripEnds isMarginal _).filter isBroken = _
  rw [Text.stripEnds, dropWhile_stop visible, stripEnd_stop visible, List.filter_append,
    List.filter_cons_of_pos whole]
  rfl

theorem schemeOf_append (colon : ':' ∈ x) : schemeOf (x ++ y) = schemeOf x := by
  obtain ⟨before, after, rfl⟩ := List.append_of_mem colon
  rw [schemeOf, schemeOf, List.append_assoc, List.cons_append, takeWhile_stop (by decide),
    takeWhile_stop (by decide)]

theorem dropWhile_append_of_ne_nil (left : x.dropWhile p ≠ []) :
    (x ++ y).dropWhile p = x.dropWhile p ++ y := by
  rw [List.dropWhile_append, if_neg (by simpa using left)]

theorem afterColon_append (colon : ':' ∈ x) :
    ((x ++ y).dropWhile (· != ':')).drop 1 = (x.dropWhile (· != ':')).drop 1 ++ y := by
  obtain ⟨rest, after⟩ := dropWhile_of_mem colon
  rw [dropWhile_append_of_ne_nil (by simp [after]), after]
  rfl

theorem afterScheme_append (colon : ':' ∈ x) (more : afterScheme x ≠ []) :
    afterScheme (x ++ y) = afterScheme x ++ y := by
  rw [afterScheme, afterColon_append colon]
  exact dropWhile_append_of_ne_nil more

theorem afterScheme_stop (colon : ':' ∈ x) (stop : isSlash d = false) :
    afterScheme (x ++ d :: z) = afterScheme x ++ d :: z := by
  rw [afterScheme, afterColon_append colon]
  exact dropWhile_stop stop

theorem siteOf?_stop (colon : ':' ∈ x)
    (after : afterScheme (x ++ d :: z) = afterScheme x ++ d :: z) (stop : endsAuthority d = true) :
    siteOf? (x ++ d :: z) = (defaultPort? (schemeOf x)).bind fun n => site? n (authorityOf x) := by
  rw [siteOf?, if_pos (List.mem_append_left _ colon), schemeOf_append colon, authorityOf, after,
    takeWhile_stop (by simp [stop])]
  rfl

theorem tailOf_stop (after : afterScheme (x ++ d :: z) = afterScheme x ++ d :: z)
    (stop : endsAuthority d = true) : tailOf (x ++ d :: z) = tailOf x ++ d :: z := by
  rw [tailOf, after, dropWhile_stop (by simp [stop])]
  rfl

theorem siteOf?_unnamed (colon : ':' ∉ x) (plain : d ≠ ':') (strange : d.toLower ∉ "https".toList) :
    siteOf? (x ++ d :: z) = none := by
  rw [siteOf?]
  split
  · have inside : d.toLower ∈ (schemeOf (x ++ d :: z)).toList := by
      rw [schemeOf, String.toList_ofList, List.takeWhile_append_of_pos (bne_of_not_mem colon),
        List.takeWhile_cons_of_pos (by simpa using plain)]
      simp
    have unknown : defaultPort? (schemeOf (x ++ d :: z)) = none := by
      rw [defaultPort?]
      split
      · next http =>
          rw [http] at inside
          have among : "http".toList.all ("https".toList.contains ·) = true := by decide
          exact absurd (by simpa using List.all_eq_true.mp among _ inside) strange
      · split
        · next https =>
            rw [https] at inside
            exact absurd inside strange
        · rfl
    rw [unknown]
    rfl
  · rfl

theorem fragment_leads (x y z : List Char) :
    (siteOf? (x ++ '#' :: y)).map (fun _ => askedOf (x ++ '#' :: y))
      = (siteOf? (x ++ '#' :: z)).map fun _ => askedOf (x ++ '#' :: z) := by
  by_cases colon : ':' ∈ x
  · have after : ∀ y, afterScheme (x ++ '#' :: y) = afterScheme x ++ '#' :: y :=
      fun _ => afterScheme_stop colon (by decide)
    have asked : ∀ y, askedOf (x ++ '#' :: y) = askedOf x := fun y => by
      rw [askedOf, tailOf_stop (after y) (by decide), takeWhile_stop (by decide)]
      rfl
    rw [siteOf?_stop colon (after y) (by decide), siteOf?_stop colon (after z) (by decide),
      asked y, asked z]
  · have nowhere : ∀ y, siteOf? (x ++ '#' :: y) = none :=
      fun _ => siteOf?_unnamed colon (by decide) (by decide)
    rw [nowhere y, nowhere z]
    rfl

theorem Canonical.visible (h : Canonical cs) : ∀ c ∈ cs, isMarginal c = false ∧ isBroken c = true ∧
    c ≠ '#' := by
  intro c hc
  have kept : keepsAllBut encodedInPath c = true ∨ keepsAllBut encodedInQuery c = true := by
    rw [← List.takeWhile_append_dropWhile (p := (· != '?')) (l := cs)] at hc
    rcases List.mem_append.mp hc with hc | hc
    · exact Or.inl (h.path c hc).1
    · exact Or.inr (h.query c hc)
  have visible : 0x20 < c.toNat ∧ c ≠ '#' := by
    rcases kept with kept | kept <;>
    · simp only [keepsAllBut, Bool.and_eq_true, decide_eq_true_eq, Bool.not_eq_true'] at kept
      refine ⟨kept.1.1, ?_⟩
      rintro rfl
      exact absurd kept.2 (by decide)
  have shown : isMarginal c = false := by simpa [isMarginal] using visible.1
  exact ⟨shown, isBroken_of_visible shown, visible.2⟩

theorem Canonical.cons (h : Canonical cs) : ∃ rest, cs = '/' :: rest := by
  cases cs with
  | nil => cases h.rooted
  | cons c rest =>
      cases h.rooted
      exact ⟨rest, rfl⟩

theorem clean_canonical (h : Canonical cs) : clean (x ++ cs) = cleanHead x ++ cs := by
  obtain ⟨rest, rfl⟩ := h.cons
  have visible := h.visible
  rw [clean_stop (by decide) (by decide)]
  have kept : Text.stripEnd isMarginal rest = rest :=
    Text.stripEnd_of_not fun c hc => (visible c (List.mem_cons_of_mem _ hc)).1
  rw [kept, List.filter_eq_self.mpr]
  exact fun c hc => (visible c (List.mem_cons_of_mem _ hc)).2.1

theorem uncrossed_of_canonical (h : Canonical cs) (hx : '#' ∉ x) :
    (x ++ cs).takeWhile (· != '#') = x ++ cs := by
  refine List.takeWhile_eq_self_iff.mpr (bne_of_not_mem fun crossed => ?_)
  rcases List.mem_append.mp crossed with crossed | crossed
  · exact hx crossed
  · exact (h.visible _ crossed).2.2 rfl

theorem targetOf_queried (marked : '?' ∈ x) (y : List Char) :
    y.length + 2 ≤ (targetOf (x ++ y)).length := by
  obtain ⟨rest, query⟩ := dropWhile_of_mem marked
  have queried : (x ++ y).dropWhile (· != '?') = '?' :: (rest ++ y) := by
    rw [dropWhile_append_of_ne_nil (by simp [query]), query]
    rfl
  obtain ⟨some', _⟩ := segments_plain ((x ++ y).takeWhile (· != '?'))
  have encoded := Text.Percent.length_le_encodeChars (keepsAllBut encodedInQuery) (rest ++ y)
  rw [List.length_append] at encoded
  rw [targetOf, queried, slashed_eq_join some', encodeAfter, if_pos rfl]
  simp only [markedText, List.length_append, List.length_cons]
  omega

theorem site?_nil (n : Nat) : site? n [] = none := by
  have unnamed : Host.parse? [] = none := by decide
  simp [site?, afterCredentials, splitPort, unnamed]

theorem Canonical.below (h : Canonical (x ++ '/' :: z)) (unmarked : ∀ c ∈ x, (c != '?') = true) :
    Canonical ('/' :: z) := by
  have path := h.path
  have query := h.query
  have undotted := h.undotted
  rw [List.takeWhile_append_of_pos unmarked] at path undotted
  rw [List.dropWhile_append_of_pos unmarked] at query
  refine ⟨rfl, fun c hc => path c (List.mem_append_right _ hc), query, ?_⟩
  rw [List.takeWhile_cons_of_pos (by decide)] at undotted ⊢
  rw [Text.pieces_append (by decide)] at undotted
  rw [Text.pieces_cons_of_separates (by decide)]
  intro s hs
  rcases List.mem_cons.mp hs with rfl | hs
  · decide
  · exact undotted s (List.mem_append_right _ hs)

theorem targetOf_sited (h : Canonical (x ++ y)) (long : 2 ≤ x.length)
    (unmarked : ∀ c ∈ x, (c != '?') = true)
    (ends : ∀ c, y.head? = some c → endsAuthority c = true) : targetOf y ≠ x ++ y := by
  intro same
  have shorter := congrArg List.length same
  rw [List.length_append] at shorter
  cases y with
  | nil =>
      rw [show targetOf [] = ['/'] by decide] at shorter
      simp only [List.length_cons, List.length_nil] at shorter
      omega
  | cons c z =>
      have end' := ends c rfl
      by_cases mark : c = '?'
      · subst mark
        have query := h.query
        rw [List.dropWhile_append_of_pos unmarked, List.dropWhile_cons_of_neg (by decide)] at query
        rw [targetOf, List.dropWhile_cons_of_neg (by decide), marked_query query (by simp),
          List.takeWhile_cons_of_neg (by decide)] at shorter
        simp only [segments, slashed_cons, slashed_nil, List.length_append, List.length_cons,
          List.length_nil] at shorter
        omega
      · have path := h.path
        rw [List.takeWhile_append_of_pos unmarked,
          List.takeWhile_cons_of_pos (by simpa using mark)] at path
        have here := path c (by simp)
        have uncrossed := (h.visible c (by simp)).2.2
        have slash : c = '/' := by
          simpa [endsAuthority, isSlash, mark, here.2, uncrossed] using end'
        subst slash
        rw [targetOf_canonical (h.below unmarked)] at shorter
        omega

theorem siteOf?_some {site : Site} (there : siteOf? cs = some site) : authorityOf cs ≠ [] := by
  intro unnamed
  rw [siteOf?] at there
  split at there
  · rw [unnamed] at there
    simp only [site?_nil] at there
    cases hn : defaultPort? (schemeOf cs) <;> simp [hn] at there
  · cases there

theorem afterScheme_nil (colon : ':' ∈ x) (none : afterScheme x = []) :
    afterScheme (x ++ y) = y.dropWhile isSlash := by
  rw [afterScheme, afterColon_append colon, List.dropWhile_append]
  exact if_pos (by simpa [afterScheme] using none)

theorem askedOf_unsited (h : Canonical cs) {site : Site} (there : siteOf? (x ++ cs) = some site)
    (colon : ':' ∈ x) (none : afterScheme x = []) : askedOf (x ++ cs) ≠ cs := by
  have after := afterScheme_nil (y := cs) colon none
  have parts : cs.takeWhile isSlash ++ (authorityOf (x ++ cs) ++ tailOf (x ++ cs)) = cs := by
    rw [authorityOf, tailOf, after, List.takeWhile_append_dropWhile,
      List.takeWhile_append_dropWhile]
  have named := List.length_pos_iff.mpr (siteOf?_some there)
  have slash : 1 ≤ (cs.takeWhile isSlash).length := by
    obtain ⟨rest, rfl⟩ := h.cons
    rw [List.takeWhile_cons_of_pos (by decide)]
    simp
  have uncrossed : (tailOf (x ++ cs)).takeWhile (· != '#') = tailOf (x ++ cs) := by
    refine List.takeWhile_eq_self_iff.mpr (bne_of_not_mem fun crossed => ?_)
    refine (h.visible '#' ?_).2.2 rfl
    rw [← parts]
    simp [crossed]
  rw [← List.append_assoc] at parts
  rw [askedOf, uncrossed]
  intro same
  rw [← parts] at h
  refine targetOf_sited h ?_ ?_ ?_ (same.trans parts.symm)
  · rw [List.length_append]
    omega
  · refine bne_of_not_mem fun marked => ?_
    rcases List.mem_append.mp marked with marked | marked
    · exact absurd (List.mem_takeWhile_imp marked) (by decide)
    · exact absurd (List.mem_takeWhile_imp marked) (by decide)
  · intro c hc
    simpa using head_dropWhile_not hc

theorem targetOf_append (ends : ∀ c, x.head? = some c → endsAuthority c = true) (uncrossed : '#' ∉ x)
    (h : Canonical cs) : targetOf (x ++ cs) = cs ↔ targetOf (x ++ ['/']) = ['/'] := by
  by_cases marked : '?' ∈ x
  · have long := targetOf_queried marked
    refine iff_of_false (fun same => ?_) fun same => ?_
    · have := long cs
      rw [same] at this
      omega
    · have := long ['/']
      rw [same] at this
      simp at this
  · have slash : ∀ c, x.head? = some c → isSlash c = true := by
      intro c hc
      have mem := List.mem_of_head? hc
      have unmarked : c ≠ '?' := fun e => marked (e ▸ mem)
      have uncrossed : c ≠ '#' := fun e => uncrossed (e ▸ mem)
      simpa [endsAuthority, unmarked, uncrossed] using ends c hc
    obtain ⟨kept, below⟩ := targetOf_below slash marked
    rw [below cs h, below _ canonical_root, List.append_left_eq_self, List.append_left_eq_self]

theorem askedOf_append (uncrossed : '#' ∉ x) (h : Canonical cs) {site : Site}
    (there : siteOf? (x ++ cs) = some site) :
    askedOf (x ++ cs) = cs ↔
      (siteOf? (x ++ ['/'])).map (fun _ => askedOf (x ++ ['/'])) = some ['/'] := by
  have colon : ':' ∈ x := by
    obtain ⟨rest, rfl⟩ := h.cons
    refine Decidable.byContradiction fun colon => ?_
    rw [siteOf?_unnamed colon (by decide) (by decide)] at there
    cases there
  by_cases none : afterScheme x = []
  · refine iff_of_false (askedOf_unsited h there colon none) fun root => ?_
    obtain ⟨site, rootSite, _⟩ := Option.map_eq_some_iff.mp root
    refine siteOf?_some rootSite ?_
    rw [authorityOf, afterScheme_nil colon none]
    rfl
  · have left : '#' ∉ tailOf x := by
      intro crossed
      have within := (List.dropWhile_sublist _).subset crossed
      have within := List.mem_of_mem_drop ((List.dropWhile_sublist _).subset within)
      exact uncrossed ((List.dropWhile_sublist _).subset within)
    have same : ∀ cs, Canonical cs → siteOf? (x ++ cs)
          = (defaultPort? (schemeOf x)).bind (fun n => site? n (authorityOf x)) ∧
        askedOf (x ++ cs) = targetOf (tailOf x ++ cs) := by
      intro cs h
      obtain ⟨rest, rfl⟩ := h.cons
      have after : afterScheme (x ++ '/' :: rest) = afterScheme x ++ '/' :: rest :=
        afterScheme_append colon none
      refine ⟨siteOf?_stop colon after (by decide), ?_⟩
      rw [askedOf, tailOf_stop after (by decide), uncrossed_of_canonical h left]
    rw [(same _ canonical_root).1, ← (same _ h).1, there, (same _ canonical_root).2,
      (same _ h).2, Option.map_some, Option.some.injEq]
    exact targetOf_append (fun c hc => by simpa using head_dropWhile_not hc) left h

def leads (base : String) : Option String :=
  (parse? (base ++ "/")).map fun u => String.ofList u.target

theorem toList_target {u : Url} {path : String} :
    String.ofList u.target = path ↔ u.target = path.toList := by
  rw [← String.toList_inj, String.toList_ofList]

theorem canonical_target {text : String} {u : Url} (h : parse? text = some u) :
    Canonical u.target := by
  have asked := parse?_target text
  rw [h, Option.map_some] at asked
  obtain ⟨_, _, same⟩ := Option.map_eq_some_iff.mp asked.symm
  rw [← same]
  exact canonical_targetOf _

theorem target_append {base path : String} {u : Url} (h : parse? (base ++ path) = some u) :
    String.ofList u.target = path ↔
      if '#' ∈ base.toList then leads base = some path
      else Canonical path.toList ∧ leads base = some "/" := by
  have asked := parse?_target (base ++ path)
  rw [h, Option.map_some] at asked
  obtain ⟨site, there, same⟩ := Option.map_eq_some_iff.mp asked.symm
  rw [toList_target, ← same]
  rw [String.toList_append] at there same ⊢
  have root : leads base = ((siteOf? (clean (base.toList ++ ['/']))).map fun _ =>
      askedOf (clean (base.toList ++ ['/']))).map String.ofList := by
    rw [leads, ← Function.comp_def, ← Option.map_map, parse?_target, String.toList_append]
    rfl
  rw [root]
  have told : ∀ {o : Option (List Char)} {text : String},
      o.map String.ofList = some text ↔ o = some text.toList := by
    intro o text
    cases o with
    | none => simp
    | some cs => rw [Option.map_some, Option.some.injEq, Option.some.injEq, ← String.toList_inj,
        String.toList_ofList]
  rw [told]
  split
  · next crossed =>
      obtain ⟨before, after, parts⟩ := List.append_of_mem crossed
      have cleaned : ∀ rest, clean (base.toList ++ rest) = cleanHead before ++
          '#' :: (Text.stripEnd isMarginal (after ++ rest)).filter isBroken := by
        intro rest
        rw [parts, List.append_assoc, List.cons_append]
        exact clean_stop (by decide) (by decide)
      rw [cleaned] at there
      rw [cleaned, cleaned, ← fragment_leads (cleanHead before), there, Option.map_some,
        Option.some.injEq]
  · next uncrossed =>
      rw [told]
      by_cases canonical : Canonical path.toList
      · rw [clean_canonical canonical] at there ⊢
        rw [clean_canonical canonical_root, and_iff_right canonical]
        refine askedOf_append (fun crossed => ?_) canonical there
        exact uncrossed ((List.dropWhile_sublist _).subset (List.mem_of_mem_filter crossed))
      · refine iff_of_false (fun same => canonical ?_) fun both => canonical both.1
        rw [← same]
        exact canonical_targetOf _

end MarketWire.Rest.Url
