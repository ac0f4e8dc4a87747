/-
The parts of a URL that names a host.

* **HostText** — the texts of hosts: none of their characters ends a host or belongs beside one,
  but for the few colons of an address in brackets.
* `Host.parse_text` — a host that is read has such a text.
* **Sited** — what the parts of an `http` URL are written in.
* `sited_of_parse` — what is read from a text is so written.
-/
import HttpGateway.Http.Target
import HttpGateway.Proofs.Url.Host

namespace HttpGateway.Net

open Text

/-! ### Colons in addresses -/

theorem count_digitsOnto (n : Nat) : (digitsOnto 16 n []).count ':' = 0 := by
  refine List.count_eq_zero.mpr fun h => ?_
  have hdigit := (of_mem_digitsOnto (by decide) (by decide) n [] h).resolve_right List.not_mem_nil
  exact absurd hdigit (by decide)

theorem count_joinNumbers (gs : List Nat) :
    (joinNumbers ':' 16 gs).count ':' = gs.length - 1 := by
  unfold joinNumbers
  induction gs with
  | nil => rfl
  | cons g rest ih =>
    cases rest with
    | nil => simp [count_digitsOnto]
    | cons g' rest =>
      rw [List.map_cons, List.map_cons, List.intercalate_cons_cons, List.append_assoc,
        List.count_append, List.singleton_append, List.count_cons_self, count_digitsOnto]
      rw [List.map_cons] at ih
      rw [ih]
      simp

/-- A run of zeros is not empty, and lies within the groups. -/
theorem zeroRuns_bounds (i : Nat) (gs : List Nat) :
    ∀ r ∈ zeroRuns i gs, i ≤ r.1 ∧ 1 ≤ r.2 ∧ r.1 + r.2 ≤ i + gs.length := by
  have hlater : ∀ {i : Nat} {rest : List Nat} {r : Nat × Nat},
      i + 1 ≤ r.1 ∧ 1 ≤ r.2 ∧ r.1 + r.2 ≤ i + 1 + rest.length →
      i ≤ r.1 ∧ 1 ≤ r.2 ∧ r.1 + r.2 ≤ i + (rest.length + 1) := by
    omega
  -- A zero begins a run of its own, or grows the one that begins right behind it.
  fun_induction zeroRuns i gs with
  | case1 => simp
  | case2 i g rest hg ih => exact fun r hr => hlater (ih r hr)
  | case3 i g rest hg n runs h ih =>
    rw [h] at ih
    obtain ⟨⟨-, -, hlast⟩, hruns⟩ := List.forall_mem_cons.mp ih
    have hgrown : i + (n + 1) ≤ i + (rest.length + 1) := by
      dsimp only at hlast
      omega
    exact List.forall_mem_cons.mpr
      ⟨⟨Nat.le_refl _, Nat.le_add_left .., hgrown⟩, fun r hr => hlater (hruns r hr)⟩
  | case4 i g rest hg j n runs h hj ih =>
    rw [h] at ih
    exact List.forall_mem_cons.mpr
      ⟨⟨Nat.le_refl _, Nat.le_refl _, by simp⟩, fun r hr => hlater (ih r hr)⟩
  | case5 i g rest hg h ih =>
    exact List.forall_mem_cons.mpr ⟨⟨Nat.le_refl _, Nat.le_refl _, by simp⟩, by simp⟩

/-- Where each step keeps the best so far or takes the next one, the best is one of them. -/
theorem mem_of_foldl {α : Type} {f : Option α → α → Option α} {a : α}
    (hf : ∀ best a, f best a = best ∨ f best a = some a) (as : List α) {best : Option α}
    (h : as.foldl f best = some a) : best = some a ∨ a ∈ as := by
  induction as generalizing best with
  | nil => exact .inl h
  | cons first rest ih =>
    rw [List.foldl_cons] at h
    rcases ih h with hbest | hrest
    · rcases hf best first with hkept | htaken
      · exact .inl (hkept ▸ hbest)
      · exact .inr (Option.some.inj (htaken.symm.trans hbest) ▸ List.mem_cons_self)
    · exact .inr (List.mem_cons_of_mem _ hrest)

theorem mem_zeroRuns_of_longest {gs : List Nat} {r : Nat × Nat}
    (h : longestZeroRun? gs = some r) : r ∈ zeroRuns 0 gs := by
  unfold longestZeroRun? at h
  refine (mem_of_foldl (fun best r => ?_) _ h).resolve_left (Option.some_ne_none _).symm
  split
  · exact .inl rfl
  · split
    · split
      · exact .inr rfl
      · exact .inl rfl
    · exact .inr rfl

/-- Eight groups are parted by eight colons at most, also where a run of zeros is left out. -/
theorem count_groupsText {gs : List Nat} (h : gs.length ≤ 8) :
    (groupsText gs).count ':' ≤ 8 := by
  unfold groupsText
  split
  · rw [count_joinNumbers]
    omega
  · next start length hlongest =>
    have hbounds := zeroRuns_bounds 0 gs _ (mem_zeroRuns_of_longest hlongest)
    dsimp only at hbounds
    have hcolons : "::".toList.count ':' = 2 := by decide
    rw [List.count_append, List.count_append, count_joinNumbers, count_joinNumbers, hcolons,
      List.length_take, List.length_drop]
    omega

end HttpGateway.Net

namespace HttpGateway.Url

open Http Text Net Percent

variable {c : Char} {s : List Char} {host : Host} {ip : IpAddress}

/-! ### Hosts -/

theorem Groups.finish?_length {g : Groups} (h : g.finish? = some ip) :
    ∃ gs, ip = .v6 gs ∧ gs.length ≤ 8 := by
  unfold finish? at h
  split at h
  · split at h
    · cases h
    · refine ⟨_, (Option.some.inj h).symm, ?_⟩
      unfold count at *
      simp only [List.length_append, List.length_reverse, List.length_replicate]
      omega
  · split at h
    · next hcount =>
      refine ⟨_, (Option.some.inj h).symm, ?_⟩
      unfold count at hcount
      rw [List.length_reverse]
      omega
    · cases h

theorem finishDotted?_length {g : Groups} (h : finishDotted? g s = some ip) :
    ∃ gs, ip = .v6 gs ∧ gs.length ≤ 8 := by
  unfold finishDotted? at h
  dsimp only at h
  rw [Option.ite_none_left_eq_some] at h
  obtain ⟨-, h⟩ := h
  split at h
  · exact Groups.finish?_length h
  · cases h

/-- Whatever way groups are read, at most eight of them are. -/
theorem parseGroups?_length {fuel : Nat} {g : Groups} (h : parseGroups? fuel g s = some ip) :
    ∃ gs, ip = .v6 gs ∧ gs.length ≤ 8 := by
  induction fuel generalizing g s with
  | zero => cases h
  | succ fuel ih =>
    unfold parseGroups? at h
    split at h
    · exact Groups.finish?_length h
    · split at h
      · cases h
      · exact ih h
    · split at h
      · cases h
      dsimp only at h
      split at h
      · split at h
        · cases h
        · exact finishDotted?_length h
      · cases h
      · obtain ⟨n, -, h⟩ := Option.bind_eq_some_iff.mp h
        exact ih h
      · obtain ⟨n, -, h⟩ := Option.bind_eq_some_iff.mp h
        exact Groups.finish?_length h
      · cases h

theorem parseV6?_length (h : parseV6? s = some ip) : ∃ gs, ip = .v6 gs ∧ gs.length ≤ 8 := by
  unfold parseV6? at h
  split at h
  · exact parseGroups?_length h
  · cases h
  · split at h
    · cases h
    · exact parseGroups?_length h

/-- A version 4 address has four octets at least, however few numbers it is written with. -/
theorem parseV4?_length (h : parseV4? s = some ip) :
    ∃ octets, ip = .v4 octets ∧ 4 ≤ octets.length := by
  unfold parseV4? at h
  dsimp only at h
  rw [Option.ite_none_left_eq_some] at h
  obtain ⟨numbers, -, h⟩ := Option.bind_eq_some_iff.mp h.2
  obtain ⟨last, -, h⟩ := Option.bind_eq_some_iff.mp h
  split at h
  · cases h
  · refine ⟨_, (Option.some.inj h).symm, ?_⟩
    simp only [List.length_append, List.length_map, List.length_reverse, List.length_range]
    omega

/-- The characters that end a host, or part it from what stands beside it. -/
def delimiters : List Char := "/?#@:[]%".toList

/-- The texts of hosts. -/
inductive HostText : List Char → Prop
  | plain {text : List Char} : text ≠ [] → (∀ c ∈ text, c ∉ delimiters) → HostText text
  | bracketed {text : List Char} : (∀ c ∈ text, c ∈ addressChars) → text.count ':' ≤ 8 →
      HostText ('[' :: text ++ [']'])

/-- A host holds no delimiters but colons and brackets. -/
theorem HostText.not_mem {text : List Char} (h : HostText text) (hc : c ∈ "/?#@%".toList) :
    c ∉ text := by
  have hall : ∀ d ∈ "/?#@%".toList, d ∈ delimiters ∧ d ∉ addressChars ∧ d ≠ '[' ∧ d ≠ ']' :=
    forall_mem_of_all (by decide)
  obtain ⟨hdelimiter, haddress, hopening, hclosing⟩ := hall c hc
  intro hmem
  cases h with
  | plain _ hplain => exact hplain c hmem hdelimiter
  | bracketed hinner _ =>
    rcases List.mem_append.mp hmem with hmem | hmem
    · exact (List.mem_cons.mp hmem).elim hopening fun hmem => haddress (hinner c hmem)
    · exact hclosing (List.mem_singleton.mp hmem)

theorem octetsText_hostText {octets : List Nat} (h : 4 ≤ octets.length) :
    HostText (octetsText octets) := by
  refine .plain (joinNumbers_ne_nil (by omega)) fun c hc => ?_
  have hchars : ∀ d ∈ hexDigits, d ∉ delimiters := forall_mem_of_all (by decide)
  rcases of_mem_joinNumbers (by decide) (by decide) hc with hdigit | rfl
  · exact hchars c hdigit
  · decide

theorem parseBracketed_text (h : parseBracketed s = .ok host) : HostText host.text := by
  unfold parseBracketed at h
  split at h
  · split at h
    · next ip hip =>
      obtain ⟨gs, rfl, hlength⟩ := parseV6?_length hip
      rw [← Except.ok.inj h]
      exact .bracketed (fun c hc => of_mem_groupsText hc) (count_groupsText hlength)
    · cases h
  · cases h

/-- The host of a URL with a special scheme is written without delimiters, but for addresses in
brackets. -/
theorem Host.parse_text (h : Host.parse s = .ok host) : HostText host.text := by
  unfold Host.parse at h
  split at h
  · exact parseBracketed_text h
  split at h
  · cases h
  · next name hname =>
    obtain ⟨decoded, -, hname⟩ := Option.bind_eq_some_iff.mp hname
    split at h
    · cases h
    next hempty =>
    split at h
    · split at h
      · next ip hip =>
        obtain ⟨octets, rfl, hlength⟩ := parseV4?_length hip
        rw [← Except.ok.inj h]
        exact octetsText_hostText hlength
      · cases h
    · rw [← Except.ok.inj h]
      refine .plain (by simpa [Host.text] using hempty) fun c hc hdelimiter => ?_
      have hforbidden : ∀ d ∈ delimiters, Domain.isForbidden d = true :=
        forall_mem_of_all (by decide)
      exact absurd (Domain.not_isForbidden hname hc) (by simp [hforbidden c hdelimiter])

/-! ### URLs -/

/-- Whether a character may stand in a user name or a password. -/
def isCredentialChar (c : Char) : Bool := c = '%' || (isAuthorityChar c && c ∉ delimiters)

/-- The host as it stands in a URL. -/
def hostText (u : Url) : List Char := u.host.elim [] Host.text

/-- What the parts of an `http` URL are written in. -/
structure Sited (u : Url) : Prop where
  scheme : u.scheme = "http".toList
  username : ∀ c ∈ u.username, isCredentialChar c = true
  password : ∀ c ∈ u.password, isCredentialChar c = true
  host : HostText u.hostText
  port : ∀ port, u.port = some port → port < 65536
  path : u.path.head? = some '/'
  pathChars : ∀ c ∈ u.path, isTargetPathChar c = true ∧ c ≠ '?' ∧ c ≠ '#'
  queryChars : ∀ query, u.query = some query → ∀ c ∈ query, isTargetQueryChar c = true ∧ c ≠ '#'

/-- What holds of the characters that percent-encoding writes, and of the ASCII characters that it
leaves, holds of the characters of an encoded text. -/
theorem forall_mem_encode {set p : Char → Bool}
    (hencoding : (encodingChars.all p) = true)
    (hkept : ∀ n < 128, set (Char.ofNat n) = false → p (Char.ofNat n) = true) :
    ∀ c ∈ encode set s, p c = true := by
  intro c hc
  rcases of_mem_encode hc with hc | ⟨hascii, hset⟩
  · exact List.all_eq_true.mp hencoding c hc
  · have hchar : Char.ofNat c.toNat = c := Char.ofNat_toNat c
    have h := hkept c.toNat hascii
    rw [hchar] at h
    exact h hset

theorem encode_userinfoSet : ∀ c ∈ encode userinfoSet s, isCredentialChar c = true :=
  forall_mem_encode (by decide) (by decide)

theorem encode_pathSet :
    ∀ c ∈ encode pathSet s, (isTargetPathChar c && c != '?' && c != '#') = true :=
  forall_mem_encode (by decide) (by decide)

theorem encode_specialQuerySet :
    ∀ c ∈ encode specialQuerySet s, (isTargetQueryChar c && c != '#') = true :=
  forall_mem_encode (by decide) (by decide)

theorem readPort_lt {scheme : List Char} {port : Nat} (h : readPort scheme s = .ok (some port)) :
    port < 65536 := by
  unfold readPort at h
  split at h
  · simp at h
  · simp at h
  · split at h
    · cases h
    split at h
    · cases h
    · next n hn =>
      have hlt : n < 65536 := of_decide_eq_true (Option.filter_eq_some_iff.mp hn).2
      have hport := Except.ok.inj h
      split at hport
      · cases hport
      · exact Option.some.inj hport ▸ hlt

/-- Segments that are resolved are encoded, or empty. -/
theorem of_mem_resolveSegments {done segments : List (List Char)} {segment : List Char}
    (h : segment ∈ resolveSegments done segments) :
    segment ∈ done ∨ segment = [] ∨ ∃ t, segment = encode pathSet t := by
  induction segments generalizing done with
  | nil => exact .inl (List.mem_reverse.mp h)
  | cons first rest ih =>
    unfold resolveSegments at h
    dsimp only at h
    rcases ih h with hdone | hnew
    · -- What has been done is kept or cut short, and a segment or an empty one may be put to it.
      split at hdone
      · split at hdone
        · rcases List.mem_cons.mp hdone with rfl | hdone
          · exact .inr (.inl rfl)
          · exact .inl (List.mem_of_mem_tail hdone)
        · exact .inl (List.mem_of_mem_tail hdone)
      split at hdone
      · split at hdone
        · rcases List.mem_cons.mp hdone with rfl | hdone
          · exact .inr (.inl rfl)
          · exact .inl hdone
        · exact .inl hdone
      · rcases List.mem_cons.mp hdone with rfl | hdone
        · exact .inr (.inr ⟨first, rfl⟩)
        · exact .inl hdone
    · exact .inr hnew

/-- The path of a special URL. -/
theorem readPath_special (s : List Char) : (readPath .special s).head? = some '/' ∧
    ∀ c ∈ readPath .special s, (isTargetPathChar c && c != '?' && c != '#') = true := by
  have hslash : (isTargetPathChar '/' && '/' != '?' && '/' != '#') = true := by decide
  have hresolved : ∀ t, (resolvePath .special t).head? = some '/' ∧
      ∀ c ∈ resolvePath .special t, (isTargetPathChar c && c != '?' && c != '#') = true := by
    refine fun t => ⟨rfl, fun c hc => ?_⟩
    rcases List.mem_cons.mp hc with rfl | hc
    · exact hslash
    rcases of_mem_intercalate hc with rfl | ⟨segment, hsegment, hc⟩
    · exact hslash
    rcases of_mem_resolveSegments hsegment with hnone | rfl | ⟨u, rfl⟩
    · cases hnone
    · cases hc
    · exact encode_pathSet c hc
  unfold readPath
  split
  · exact ⟨rfl, fun c hc => by rw [List.mem_singleton.mp hc]; exact hslash⟩
  · exact hresolved _

/-- Where the parts of a special URL come from. -/
structure IsRead (u : Url) : Prop where
  username : ∃ t, u.username = encode userinfoSet t
  password : ∃ t, u.password = encode userinfoSet t
  host : ∀ host, u.host = some host → ∃ t, Host.parse t = .ok host
  port : ∃ t, readPort u.scheme t = .ok u.port
  path : ∃ t, u.path = readPath .special t
  query : ∀ query, u.query = some query → ∃ t, query = encode specialQuerySet t

variable {scheme : List Char} {u : Url}

theorem readAuthority_isRead (hspecial : schemeKind scheme = .special)
    (h : readAuthority scheme s = .ok u) : u.scheme = scheme ∧ IsRead u := by
  have htail : ∀ {url : Url} {query fragment : Option (List Char)} {q : List Char},
      url.scheme = scheme → (withTail url query fragment).query = some q →
      ∃ t, q = encode specialQuerySet t := by
    intro url query fragment q hscheme hq
    unfold withTail at hq
    rw [hscheme, hspecial] at hq
    obtain ⟨t, -, rfl⟩ := Option.map_eq_some_iff.mp hq
    exact ⟨t, rfl⟩
  have hkept : ∀ {empty : Bool} {parsed host : Host},
      (if empty then none else some parsed) = some host → parsed = host := by
    intro empty parsed host hsome
    cases empty with
    | false => exact Option.some.inj hsome
    | true => cases hsome
  rw [readAuthority] at h
  dsimp only at h
  rw [hspecial] at h
  -- There may be credentials or not.
  split at h
  all_goals
    split at h
    · cases h
    obtain ⟨parsed, hparsed, h⟩ := of_bind_ok h
    obtain ⟨port, hport, h⟩ := of_bind_ok h
    rw [← Except.ok.inj h]
    exact ⟨rfl, ⟨_, rfl⟩, ⟨_, rfl⟩, fun host hhost => ⟨_, hkept hhost ▸ hparsed⟩, ⟨_, hport⟩,
      ⟨_, rfl⟩, fun query hquery => htail rfl hquery⟩

/-- The scheme of a URL is the one that is read first. -/
theorem readAuthority_scheme (h : readAuthority scheme s = .ok u) : u.scheme = scheme := by
  rw [readAuthority] at h
  dsimp only at h
  split at h
  all_goals
    split at h
    · cases h
    split at h
    all_goals
      obtain ⟨parsed, -, h⟩ := of_bind_ok h
      obtain ⟨port, -, h⟩ := of_bind_ok h
      rw [← Except.ok.inj h]
      rfl

theorem readFile_scheme (h : readFile scheme s = .ok u) : u.scheme = scheme := by
  rw [readFile] at h
  dsimp only at h
  have hnone : ∀ {path query fragment},
      pure (hostless scheme path query fragment) = (Except.ok u : Except ParseError Url) →
      u.scheme = scheme := fun h => by
    rw [← Except.ok.inj h]
    rfl
  split at h
  · split at h
    · split at h
      · exact hnone h
      split at h
      · exact hnone h
      obtain ⟨parsed, -, h⟩ := of_bind_ok h
      split at h
      · exact hnone h
      · rw [← Except.ok.inj h]
        rfl
    · exact hnone h
  · exact hnone h

theorem readOther_scheme (h : readOther scheme s = .ok u) : u.scheme = scheme := by
  rw [readOther.eq_def] at h
  split at h
  · exact readAuthority_scheme h
  · rw [← Except.ok.inj h]
    split <;> rfl

/-- An `http` URL is read as a special one. -/
theorem isRead_of_parse (h : Url.parse s = .ok u) (hscheme : u.scheme = "http".toList) :
    IsRead u := by
  rw [Url.parse] at h
  split at h
  · cases h
  · next scheme rest hparts =>
    split at h
    · next hkind => exact (readAuthority_isRead hkind h).2
    · next hkind =>
      rw [← readFile_scheme h, hscheme] at hkind
      exact absurd hkind (by decide)
    · next hkind =>
      rw [← readOther_scheme h, hscheme] at hkind
      exact absurd hkind (by decide)

/-- **The parts of an `http` URL can be told apart** where it was read from a text and has a
host. -/
theorem sited_of_parse (h : Url.parse s = .ok u) (hscheme : u.scheme = "http".toList)
    (hhost : u.host = some host) : Sited u := by
  obtain ⟨⟨name, hname⟩, ⟨word, hword⟩, hhosts, ⟨portText, hport⟩, ⟨pathText, hpath⟩, hquery⟩ :=
    isRead_of_parse h hscheme
  obtain ⟨text, hparsed⟩ := hhosts host hhost
  obtain ⟨hfirst, hpathChars⟩ := readPath_special pathText
  refine ⟨hscheme, ?_, ?_, ?_, ?_, ?_, ?_, ?_⟩
  · exact hname ▸ encode_userinfoSet
  · exact hword ▸ encode_userinfoSet
  · rw [hostText, hhost]
    exact Host.parse_text hparsed
  · exact fun port h => readPort_lt (hport.trans (congrArg _ h))
  · rw [hpath]
    exact hfirst
  · intro c hc
    simpa [and_assoc] using hpathChars c (hpath ▸ hc)
  · intro query hq c hc
    obtain ⟨t, rfl⟩ := hquery query hq
    simpa using encode_specialQuerySet c hc

end HttpGateway.Url
