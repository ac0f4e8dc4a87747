/-
Where probes are aimed.

* **AtHome** — a probe that goes to the host and the port of its instance and asks for what is set
  to be asked for, below the base path of the instance.
* **Joins** — a base URL behind whose path something can be put by writing it behind the URL.
* `atHome_iff` — these are the same.

The path of a probe is put behind the text of a URL, and what that comes to is read again. A query
or a fragment is in the way then, and so is an authority with no slash between it and the path.
-/
import HttpGateway.Health.Probe
import HttpGateway.Proofs.Forward.Outbound
import HttpGateway.Proofs.Http.Target
import HttpGateway.Proofs.Text.Trimmed

namespace HttpGateway

open Http Route Text Url

variable {u : Url} {c : Char} {path rest wanted : List Char}

/-! ### Slashes at the end -/

/-- The query of a URL behind its question mark. -/
def Url.queryText (u : Url) : List Char := u.query.elim [] ('?' :: ·)

namespace Health

theorem text_eq (u : Url) :
    u.text = u.origin ++ (u.path ++ (u.queryText ++ u.fragment.elim [] ('#' :: ·))) := by
  unfold Url.text Url.queryText
  cases u.query <;> cases u.fragment <;> simp

/-- No authority ends in a slash. -/
theorem trim_origin (h : Sited u) : withoutTrailingSlashes u.origin = u.origin := by
  rw [origin_eq, withoutTrailingSlashes, trimEnd_append_eq]
  have hsite : trimEnd (· == '/') (site u) = site u :=
    trimEnd_eq_self fun c hc =>
      beq_eq_false_iff_ne.mpr fun hslash => site_chars h c hc (by rw [hslash]; decide)
  rw [hsite, if_neg (site_ne_nil h)]

/-- What is left of a URL without a query and a fragment. -/
theorem trim_text (h : Sited u) (hquery : u.query = none) (hfragment : u.fragment = none) :
    withoutTrailingSlashes u.text = u.origin ++ withoutTrailingSlashes u.path := by
  rw [text_eq, Url.queryText, hquery, hfragment]
  simp only [Option.elim_none, List.append_nil]
  have htrim := trim_origin h
  unfold withoutTrailingSlashes at htrim ⊢
  rw [trimEnd_append_eq, htrim]
  split
  · next hnil => rw [hnil, List.append_nil]
  · rfl

theorem trim_text_query {query : List Char} (hquery : u.query = some query)
    (hfragment : u.fragment = none) :
    withoutTrailingSlashes u.text
      = u.origin ++ (u.path ++ '?' :: withoutTrailingSlashes query) := by
  rw [text_eq, Url.queryText, hquery, hfragment]
  simp only [Option.elim_none, Option.elim_some, List.append_nil]
  rw [← List.append_assoc, withoutTrailingSlashes, trimEnd_behind _ (by decide), List.append_assoc]
  rfl

theorem trim_text_fragment {fragment : List Char} (hfragment : u.fragment = some fragment) :
    withoutTrailingSlashes u.text
      = u.origin ++ (u.path ++ (u.queryText ++ '#' :: withoutTrailingSlashes fragment)) := by
  rw [text_eq, hfragment]
  simp only [Option.elim_some]
  rw [← List.append_assoc, ← List.append_assoc, withoutTrailingSlashes,
    trimEnd_behind _ (by decide), List.append_assoc, List.append_assoc]
  rfl

/-! ### Probes -/

/-- An instance with the host and the port of its URL. -/
structure Located (i : Instance) : Prop where
  url : Sited i.url
  host : i.host = String.ofList i.url.hostText
  port : i.port = i.url.port.getD defaultPort

/-- A probe that goes to the host and the port of its instance, and asks for the path that is set,
below the base path of the instance. -/
def AtHome (i : Instance) (path : String) : Prop :=
  ∃ t, probeTarget? i path = some t ∧ t.scheme = some probeScheme ∧ String.ofList t.host = i.host ∧
    probePort t = i.port ∧ t.pathAndQuery = withoutTrailingSlashes i.url.path ++ path.toList

variable {i : Instance}

theorem eq_ok_of_toOption {ε α : Type} {x : Except ε α} {a : α} (h : x.toOption = some a) :
    x = .ok a := by
  cases x with
  | error e => cases h
  | ok b => exact congrArg Except.ok (Option.some.inj h)

/-- Where the text of a probe goes on with a slash behind the authority of its URL, it goes home if
it is a target and asks for what is wanted. -/
theorem atHome_iff_of_rest (h : Located i) {path : String} {rest : List Char}
    (htext : withoutTrailingSlashes i.url.text ++ path.toList = i.url.origin ++ rest)
    (hrest : rest.head? = some '/') :
    AtHome i path ↔
      (utf8 (i.url.origin ++ rest)).length ≤ longestTarget ∧ Nameable i.url.hostText ∧
        (∃ parts, readPathAndQuery rest = .ok parts) ∧
        rest.takeWhile (· != '#') = withoutTrailingSlashes i.url.path ++ path.toList := by
  obtain ⟨rest, rfl⟩ : ∃ rest', rest = '/' :: rest' := by
    cases rest with
    | nil => cases hrest
    | cons c rest => exact ⟨rest, by rw [Option.some.inj hrest]⟩
  have hends : EndsAuthority ('/' :: rest) := endsAuthority_cons (by decide) rest
  -- Path and query of such a target are all of the text up to `#`: its path is not empty.
  have hasked : ∀ {parts}, readPathAndQuery ('/' :: rest) = .ok parts →
      (Target.mk (some probeScheme) (some (site i.url)) parts.1 parts.2).pathAndQuery
        = ('/' :: rest).takeWhile (· != '#') := by
    intro parts hparts
    have hpath : parts.1.isEmpty = false := by
      rw [readPathAndQuery_path hparts, List.takeWhile_cons_of_pos (by decide)]
      rfl
    rw [← readPathAndQuery_text hparts, Target.pathAndQuery, Target.path]
    dsimp only
    rw [hpath]
    rfl
  unfold AtHome probeTarget?
  rw [htext]
  constructor
  · rintro ⟨t, hparse, -, -, -, hwanted⟩
    obtain ⟨hshort, hnameable, parts, hparts, rfl⟩ :=
      (parse_origin_iff h.url hends).mp (eq_ok_of_toOption hparse)
    exact ⟨hshort, hnameable, ⟨parts, hparts⟩, (hasked hparts).symm.trans hwanted⟩
  · rintro ⟨hshort, hnameable, ⟨parts, hparts⟩, hwanted⟩
    refine ⟨⟨some probeScheme, some (site i.url), parts.1, parts.2⟩, ?_, rfl, ?_, ?_,
      (hasked hparts).trans hwanted⟩
    · exact congrArg Except.toOption
        ((parse_origin_iff h.url hends).mpr ⟨hshort, hnameable, parts, hparts, rfl⟩)
    · rw [host_site h.url rfl, h.host]
    · rw [probePort, port?_site h.url rfl, h.port]
      cases i.url.port <;> rfl

/-- A URL behind whose path a text can be put by writing it behind the URL. The URL has to be one
that can be asked, and behind a fragment nothing that is written counts. -/
structure Joins (u : Url) (path : List Char) : Prop where
  nameable : Nameable u.hostText
  short : (utf8 (withoutTrailingSlashes u.text ++ path)).length ≤ longestTarget
  below : match u.fragment with
    | some _ => u.path ++ u.queryText = withoutTrailingSlashes u.path ++ path
    | none => u.query = none ∧ '#' ∉ path ∧ (∃ parts, readPathAndQuery path = .ok parts) ∧
        (withoutTrailingSlashes u.path = [] → path.head? = some '/')

theorem hash_not_mem_path (h : Sited u) : '#' ∉ u.path := fun hc => (h.pathChars _ hc).2.2 rfl

theorem hash_not_mem_queryText (h : Sited u) : '#' ∉ u.queryText := by
  unfold Url.queryText
  cases hquery : u.query with
  | none => exact List.not_mem_nil
  | some query =>
    intro hc
    rcases List.mem_cons.mp hc with hc | hc
    · exact absurd hc (by decide)
    · exact (h.queryChars query hquery _ hc).2 rfl

/-- The query of a URL can be read as that of a target, where a fragment follows it. -/
theorem exists_readPathAndQuery (h : Sited u) (behind : List Char) :
    ∃ parts, readPathAndQuery (u.queryText ++ '#' :: behind) = .ok parts := by
  have hhash := hash_not_mem_queryText h
  unfold Url.queryText at hhash ⊢
  cases hquery : u.query with
  | none => exact ⟨_, rfl⟩
  | some query =>
    rw [hquery] at hhash
    have hkept : (query ++ '#' :: behind).takeWhile (· != '#') = query := by
      rw [takeWhile_hash (List.not_mem_of_not_mem_cons hhash),
        List.takeWhile_cons_of_neg (by decide), List.append_nil]
    have hall : query.all isTargetQueryChar = true :=
      List.all_eq_true.mpr fun c hc => (h.queryChars query hquery c hc).1
    refine ⟨([], some query), (readPathAndQuery_question (query ++ '#' :: behind)).trans ?_⟩
    rw [hkept, if_pos hall]

/-- What is left of a text is part of it. -/
theorem mem_of_mem_trim (h : c ∈ withoutTrailingSlashes path) : c ∈ path := by
  obtain ⟨cut, heq, -⟩ := trimEnd_append (· == '/') path
  rw [heq]
  exact List.mem_append_left _ h

theorem length_trim_le (path : List Char) :
    (withoutTrailingSlashes path).length ≤ path.length := by
  obtain ⟨cut, heq, -⟩ := trimEnd_append (· == '/') path
  conv => rhs; rw [heq]
  rw [List.length_append]
  exact Nat.le_add_right ..

/-- Behind a fragment it does not count what is written. -/
theorem atHome_iff_of_fragment (h : Located i) {path : String} {fragment : List Char}
    (hfragment : i.url.fragment = some fragment) :
    AtHome i path ↔
      (utf8 (withoutTrailingSlashes i.url.text ++ path.toList)).length ≤ longestTarget ∧
        Nameable i.url.hostText ∧
        i.url.path ++ i.url.queryText = withoutTrailingSlashes i.url.path ++ path.toList := by
  have htext : withoutTrailingSlashes i.url.text ++ path.toList
      = i.url.origin ++ (i.url.path ++ (i.url.queryText ++
          '#' :: (withoutTrailingSlashes fragment ++ path.toList))) := by
    rw [trim_text_fragment hfragment]
    simp only [List.append_assoc, List.cons_append]
  have hrest : (i.url.path ++ (i.url.queryText ++
      '#' :: (withoutTrailingSlashes fragment ++ path.toList))).head? = some '/' := by
    rw [List.head?_append, h.url.path, Option.some_or]
  have hread : ∃ parts, readPathAndQuery (i.url.path ++ (i.url.queryText ++
      '#' :: (withoutTrailingSlashes fragment ++ path.toList))) = .ok parts := by
    obtain ⟨parts, hparts⟩ := exists_readPathAndQuery h.url
      (withoutTrailingSlashes fragment ++ path.toList)
    rw [readPathAndQuery_append h.url.pathChars, hparts]
    exact ⟨_, rfl⟩
  rw [atHome_iff_of_rest h htext hrest, htext, takeWhile_hash (hash_not_mem_path h.url),
    takeWhile_hash (hash_not_mem_queryText h.url), List.takeWhile_cons_of_neg (by decide),
    List.append_nil]
  exact ⟨fun ⟨hshort, hnameable, _, hwanted⟩ => ⟨hshort, hnameable, hwanted⟩,
    fun ⟨hshort, hnameable, hwanted⟩ => ⟨hshort, hnameable, hread, hwanted⟩⟩

/-- A query is in the way. -/
theorem not_atHome_of_query (h : Located i) {path : String} {query : List Char}
    (hquery : i.url.query = some query) (hfragment : i.url.fragment = none) :
    ¬ AtHome i path := by
  have htext : withoutTrailingSlashes i.url.text ++ path.toList = i.url.origin ++
      (i.url.path ++ '?' :: (withoutTrailingSlashes query ++ path.toList)) := by
    rw [trim_text_query hquery hfragment]
    simp only [List.append_assoc, List.cons_append]
  have hrest : (i.url.path ++ '?' :: (withoutTrailingSlashes query ++ path.toList)).head?
      = some '/' := by
    rw [List.head?_append, h.url.path, Option.some_or]
  rw [atHome_iff_of_rest h htext hrest]
  rintro ⟨-, -, -, hwanted⟩
  -- Nothing is asked for from a `#` on, so there is none in the path; but then too much is asked.
  have hhash : '#' ∉ path.toList := fun hc => by
    have hmem : '#' ∈ withoutTrailingSlashes i.url.path ++ path.toList :=
      List.mem_append_right _ hc
    rw [← hwanted] at hmem
    exact hash_not_mem_takeWhile hmem
  have hleft : '#' ∉ withoutTrailingSlashes query := fun hc =>
    (h.url.queryChars query hquery _ (mem_of_mem_trim hc)).2 rfl
  rw [takeWhile_hash (hash_not_mem_path h.url), List.takeWhile_cons_of_pos (by decide),
    takeWhile_hash hleft, takeWhile_hash_eq_self.mpr hhash] at hwanted
  have hlength := congrArg List.length hwanted
  have hle := length_trim_le i.url.path
  simp only [List.length_append, List.length_cons] at hlength
  omega

/-- Without a query and a fragment the path is written behind the base path, or behind the authority
where nothing is left of that. -/
theorem atHome_iff_of_plain (h : Located i) {path : String} (hquery : i.url.query = none)
    (hfragment : i.url.fragment = none) :
    AtHome i path ↔
      (utf8 (withoutTrailingSlashes i.url.text ++ path.toList)).length ≤ longestTarget ∧
        Nameable i.url.hostText ∧ '#' ∉ path.toList ∧
        (∃ parts, readPathAndQuery path.toList = .ok parts) ∧
        (withoutTrailingSlashes i.url.path = [] → path.toList.head? = some '/') := by
  have htext : withoutTrailingSlashes i.url.text ++ path.toList
      = i.url.origin ++ (withoutTrailingSlashes i.url.path ++ path.toList) := by
    rw [trim_text h.url hquery hfragment, List.append_assoc]
  by_cases hrest : (withoutTrailingSlashes i.url.path ++ path.toList).head? = some '/'
  · have hbase : ∀ c ∈ withoutTrailingSlashes i.url.path,
        isTargetPathChar c = true ∧ c ≠ '?' ∧ c ≠ '#' := fun c hc =>
      h.url.pathChars c (mem_of_mem_trim hc)
    have hread : (∃ parts, readPathAndQuery (withoutTrailingSlashes i.url.path ++ path.toList)
        = .ok parts) ↔ ∃ parts, readPathAndQuery path.toList = .ok parts := by
      rw [readPathAndQuery_append hbase]
      cases readPathAndQuery path.toList <;> simp [Except.map]
    have hall : (withoutTrailingSlashes i.url.path ++ path.toList).takeWhile (· != '#')
        = withoutTrailingSlashes i.url.path ++ path.toList ↔ '#' ∉ path.toList := by
      rw [takeWhile_hash fun hc => (hbase _ hc).2.2 rfl, List.append_cancel_left_eq,
        takeWhile_hash_eq_self]
    have hslash : withoutTrailingSlashes i.url.path = [] → path.toList.head? = some '/' := by
      intro hnil
      rwa [hnil, List.nil_append] at hrest
    rw [atHome_iff_of_rest h htext hrest, htext, hread, hall]
    exact ⟨fun ⟨hshort, hnameable, hread, hhash⟩ => ⟨hshort, hnameable, hhash, hread, hslash⟩,
      fun ⟨hshort, hnameable, hhash, hread, _⟩ => ⟨hshort, hnameable, hread, hhash⟩⟩
  · -- Whatever is asked for begins with a slash, and this does not.
    refine iff_of_false ?_ ?_
    · rintro ⟨t, hparse, -, -, -, hwanted⟩
      unfold probeTarget? at hparse
      rw [htext] at hparse
      have hslash := head?_pathAndQuery h.url (eq_ok_of_toOption hparse)
      rw [hwanted] at hslash
      exact hrest hslash
    · rintro ⟨-, -, -, -, hslash⟩
      cases hbase : withoutTrailingSlashes i.url.path with
      | nil => exact hrest (by rw [hbase]; exact hslash hbase)
      | cons c base =>
        have hfirst : (withoutTrailingSlashes i.url.path).head? = some c := by rw [hbase]; rfl
        rw [hbase] at hrest
        exact hrest ((head?_trimEnd hfirst).symm.trans h.url.path)

/-- **A probe goes home exactly if its path can be written behind the base URL.** -/
theorem atHome_iff (h : Located i) (path : String) : AtHome i path ↔ Joins i.url path.toList := by
  cases hfragment : i.url.fragment with
  | some fragment =>
    rw [atHome_iff_of_fragment h hfragment]
    refine ⟨fun ⟨hshort, hnameable, hbelow⟩ => ⟨hnameable, hshort, ?_⟩, fun hjoins => ?_⟩
    · rw [hfragment]
      exact hbelow
    · have hbelow := hjoins.below
      rw [hfragment] at hbelow
      exact ⟨hjoins.short, hjoins.nameable, hbelow⟩
  | none =>
    cases hquery : i.url.query with
    | some query =>
      refine iff_of_false (not_atHome_of_query h hquery hfragment) fun hjoins => ?_
      have hbelow := hjoins.below
      rw [hfragment, hquery] at hbelow
      exact absurd hbelow.1 (by simp)
    | none =>
      rw [atHome_iff_of_plain h hquery hfragment]
      refine ⟨fun ⟨hshort, hnameable, hbelow⟩ => ⟨hnameable, hshort, ?_⟩, fun hjoins => ?_⟩
      · rw [hfragment]
        exact ⟨hquery, hbelow⟩
      · have hbelow := hjoins.below
        rw [hfragment] at hbelow
        exact ⟨hjoins.short, hjoins.nameable, hbelow.2⟩

end Health

end HttpGateway
