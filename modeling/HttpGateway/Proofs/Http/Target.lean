/-
Targets that are made from URLs.

* **Url.site** — the authority of a URL: its credentials, its host and its port.
* `scans_site` — the authority of an `http` URL can be read in a target, if its host is written in
  characters that may stand there.
* `readPathAndQuery_append`, `readPathAndQuery_text` — a path of a URL may stand in front of a
  target's path; and what is read there is the text up to a fragment.
* `parse_origin_iff` — when a URL with something behind its authority is a target, and which one.
* `host_site`, `port?_site` — the host and the port of a target with the authority of a URL are
  those of the URL.

What stands in an authority is told apart by its delimiters. The text of a host has none of them but
the colons of an address in brackets, and credentials have none at all.
-/
import HttpGateway.Proofs.Url.Parts
import Mathlib.Data.List.TakeWhile

namespace HttpGateway.Http

open Net Text Url

variable {c : Char} {text text' : List Char}

/-! ### What stands behind a separator -/

theorem behindLast?_eq_none {separator : Char} (h : separator ∉ text) :
    behindLast? separator text = none := by
  induction text with
  | nil => rfl
  | cons c rest ih =>
    rw [behindLast?, ih (List.not_mem_of_not_mem_cons h),
      if_neg (List.ne_of_not_mem_cons h).symm]
    rfl

theorem behindLast?_append {separator : Char} (front : List Char) (h : separator ∉ text) :
    behindLast? separator (front ++ text)
      = (behindLast? separator front).map (· ++ text) := by
  induction front with
  | nil => exact behindLast?_eq_none h
  | cons c rest ih =>
    rw [List.cons_append, behindLast?, behindLast?, ih]
    cases behindLast? separator rest with
    | some found => rfl
    | none =>
      by_cases hc : c = separator
      · rw [if_pos hc, if_pos hc]
        rfl
      · rw [if_neg hc, if_neg hc]
        rfl

theorem behindLast?_separator {separator : Char} (front : List Char) (h : separator ∉ text) :
    behindLast? separator (front ++ separator :: text) = some text := by
  induction front with
  | nil =>
    rw [List.nil_append, behindLast?, behindLast?_eq_none h, if_pos rfl]
    rfl
  | cons c rest ih =>
    rw [List.cons_append, behindLast?, ih]
    rfl

/-! ### Authorities -/

/-- Reading a text leads from one state to another one. -/
def Scans (text : List Char) (s s' : AuthorityScan) : Prop :=
  text.foldlM AuthorityScan.step s = .ok s'

theorem Scans.append {s s' s'' : AuthorityScan} (h : Scans text s s') (h' : Scans text' s' s'') :
    Scans (text ++ text') s s'' := by
  rw [Scans, List.foldlM_append, h]
  exact h'

theorem scans_char {s s' : AuthorityScan} (h : s.step c = .ok s') : Scans [c] s s' := by
  rw [Scans, List.foldlM_cons, h]
  rfl

/-- What is known when a text without brackets and `@` has been read. -/
structure Stretch (text : List Char) (s s' : AuthorityScan) : Prop where
  scans : Scans text s s'
  colons : s'.colons = s.colons + text.count ':'
  opened : s'.opened = s.opened
  closed : s'.closed = s.closed
  percent : '%' ∉ text → s'.percent = s.percent
  endsInAt : text ≠ [] → s'.endsInAt = false

/-- Nothing but a ninth colon is wrong with a text of such characters. -/
theorem exists_stretch (s : AuthorityScan)
    (hchars : ∀ c ∈ text, (isAuthorityChar c || c = '%') = true ∧ c ∉ "[]@".toList)
    (hcolons : s.colons + text.count ':' ≤ 8) : ∃ s', Stretch text s s' := by
  induction text generalizing s with
  | nil => exact ⟨s, rfl, rfl, rfl, rfl, fun _ => rfl, fun h => absurd rfl h⟩
  | cons c rest ih =>
    obtain ⟨⟨hc, hplain⟩, hrest⟩ := List.forall_mem_cons.mp hchars
    have hbrackets : c ≠ '[' ∧ c ≠ ']' ∧ c ≠ '@' := by simpa using hplain
    -- A colon is counted, a percent sign marks the scan, any other character only shows that the
    -- text does not end in `@`.
    have hstep : ∃ s₁, AuthorityScan.step s c = .ok s₁ ∧
        s₁.colons = s.colons + [c].count ':' ∧ s₁.opened = s.opened ∧ s₁.closed = s.closed ∧
        (c ≠ '%' → s₁.percent = s.percent) ∧ s₁.endsInAt = false := by
      unfold AuthorityScan.step
      by_cases hcolon : c = ':'
      · subst hcolon
        rw [List.count_cons_self] at hcolons
        have hfew : ¬ 8 ≤ s.colons := by omega
        simp [hfew]
      by_cases hpercent : c = '%'
      · subst hpercent
        simp
      · have hauthority : isAuthorityChar c = true := by simpa [hpercent] using hc
        simp [hcolon, hbrackets, hpercent, hauthority]
    obtain ⟨s₁, hs₁, hcolons₁, hopened₁, hclosed₁, hpercent₁, hends₁⟩ := hstep
    have hcount : (c :: rest).count ':' = [c].count ':' + rest.count ':' := by
      rw [← List.count_append, List.singleton_append]
    obtain ⟨s', h⟩ := ih s₁ hrest (by omega)
    refine ⟨s', ?_, ?_, h.opened.trans hopened₁, h.closed.trans hclosed₁, fun hnone => ?_,
      fun _ => ?_⟩
    · rw [Scans, List.foldlM_cons, hs₁]
      exact h.scans
    · rw [h.colons, hcolons₁, hcount, Nat.add_assoc]
    · exact (h.percent (List.not_mem_of_not_mem_cons hnone)).trans
        (hpercent₁ (List.ne_of_not_mem_cons hnone).symm)
    · by_cases hempty : rest = []
      · subst hempty
        obtain rfl : s₁ = s' := Except.ok.inj h.scans
        exact hends₁
      · exact h.endsInAt hempty

/-- A host whose characters may stand in the authority of a target. -/
def Nameable (text : List Char) : Prop := ∀ c ∈ text, isAuthorityChar c = true

/-- The state at the end of a host: nothing before it is left to be accounted for. -/
structure Settled (s : AuthorityScan) : Prop where
  colons : s.colons = 0
  brackets : s.opened = s.closed
  percent : s.percent = false
  endsInAt : s.endsInAt = false

theorem scans_host {s : AuthorityScan} (hcolons : s.colons = 0) (hopened : s.opened = false)
    (hclosed : s.closed = false) (hpercent : s.percent = false) (h : HostText text)
    (hnameable : Nameable text) : ∃ s', Scans text s s' ∧ Settled s' := by
  cases h with
  | plain hne hplain =>
    have hcolon : text.count ':' = 0 :=
      List.count_eq_zero.mpr fun hc => hplain _ hc (by decide)
    have hbrackets : ∀ c ∈ "[]@".toList, c ∈ delimiters := forall_mem_of_all (by decide)
    obtain ⟨s', h⟩ := exists_stretch s
      (fun c hc => ⟨by rw [hnameable c hc]; rfl, fun h => hplain c hc (hbrackets c h)⟩) (by omega)
    refine ⟨s', h.scans, ?_, ?_, ?_, h.endsInAt hne⟩
    · rw [h.colons, hcolons, hcolon]
    · rw [h.opened, h.closed, hopened, hclosed]
    · rw [h.percent fun hc => hplain _ hc (by decide), hpercent]
  | @bracketed inner hinner hcount =>
    -- Of an address within brackets the colons are forgotten where the bracket closes; there are
    -- few enough of them for the scan to get that far.
    have hchars : ∀ c ∈ addressChars, (isAuthorityChar c || c = '%') = true ∧ c ∉ "[]@".toList ∧
        c ≠ '%' := forall_mem_of_all (by decide)
    obtain ⟨s', h⟩ := exists_stretch { s with opened := true, endsInAt := false }
      (fun c hc => ⟨(hchars c (hinner c hc)).1, (hchars c (hinner c hc)).2.1⟩)
      (by rw [hcolons]; omega)
    have hpercent' : s'.percent = false :=
      (h.percent fun hc => (hchars _ (hinner _ hc)).2.2 rfl).trans hpercent
    have hopening : s.step '[' = .ok { s with opened := true, endsInAt := false } := by
      simp [AuthorityScan.step, hpercent, hopened]
    have hclosing : s'.step ']' = .ok
        { s' with closed := true, colons := 0, percent := false, endsInAt := false } := by
      simp [AuthorityScan.step, h.opened, h.closed, hclosed]
    refine ⟨_, ((scans_char hopening).append h.scans).append (scans_char hclosing), rfl, ?_, rfl,
      rfl⟩
    exact h.opened

/-- The number of a port behind its colon. -/
def portText (port : Option Nat) : List Char := port.elim [] (':' :: decimal ·)

/-- What stands before the host: a user name, and a password behind a colon. -/
def credentials (u : Url) : List Char :=
  let user := u.username ++ (if u.password.isEmpty then [] else ':' :: u.password)
  if user.isEmpty then [] else user ++ ['@']

/-- The authority of a URL. -/
def site (u : Url) : List Char := credentials u ++ u.hostText ++ portText u.port

theorem origin_eq (u : Url) : u.origin = u.scheme ++ "://".toList ++ site u := by
  unfold Url.origin site credentials portText hostText
  cases u.host <;> cases u.port <;> simp

variable {u : Url}

/-- The user name and the password as they stand in the URL. -/
theorem credentials_cases (h : Sited u) : credentials u = [] ∨ ∃ user,
    credentials u = user ++ ['@'] ∧ user.count ':' ≤ 1 ∧
      ∀ c ∈ user, isCredentialChar c = true ∨ c = ':' := by
  have hcount : ∀ text : List Char, (∀ c ∈ text, isCredentialChar c = true) →
      text.count ':' = 0 := fun text h =>
    List.count_eq_zero.mpr fun hc => absurd (h _ hc) (by decide)
  have hword : (if u.password.isEmpty then [] else ':' :: u.password).count ':' ≤ 1 ∧
      ∀ c ∈ if u.password.isEmpty then [] else ':' :: u.password,
        isCredentialChar c = true ∨ c = ':' := by
    split
    · simp
    · refine ⟨?_, fun c hc => (List.mem_cons.mp hc).symm.imp_left (h.password c)⟩
      exact Nat.le_of_eq (by rw [List.count_cons_self, hcount _ h.password])
  unfold credentials
  generalize (if u.password.isEmpty then [] else ':' :: u.password) = word at hword
  dsimp only
  split
  · exact .inl rfl
  · refine .inr ⟨_, rfl, ?_, fun c hc => ?_⟩
    · rw [List.count_append, hcount _ h.username]
      omega
    · exact (List.mem_append.mp hc).elim (fun hc => .inl (h.username c hc)) (hword.2 c)

theorem decimal_chars {n : Nat} (hc : c ∈ decimal n) : c ∈ hexDigits :=
  (of_mem_digitsOnto (by decide) (by decide) n [] hc).resolve_right List.not_mem_nil

theorem portText_chars {port : Option Nat} (hc : c ∈ portText port) : c = ':' ∨ c ∈ hexDigits := by
  cases port with
  | none => cases hc
  | some port => exact (List.mem_cons.mp hc).imp_right decimal_chars

/-- Before anything has been read. -/
def fresh : AuthorityScan := ⟨0, false, false, false, false⟩

/-- Whether an authority may end where it has been read up to. -/
structure MayEnd (s : AuthorityScan) : Prop where
  colons : s.colons ≤ 1
  brackets : s.opened = s.closed
  percent : s.percent = false
  endsInAt : s.endsInAt = false

/-- Whatever stands before the `@` is of no account behind it. -/
theorem scans_credentials (h : Sited u) : ∃ s, Scans (credentials u) fresh s ∧ s.colons = 0 ∧
    s.opened = false ∧ s.closed = false ∧ s.percent = false := by
  have hbrackets : ∀ c ∈ "[]@".toList, ¬ (isCredentialChar c = true ∨ c = ':') :=
    forall_mem_of_all (by decide)
  have hchars : ∀ c, isCredentialChar c = true ∨ c = ':' →
      (isAuthorityChar c || c = '%') = true ∧ c ∉ "[]@".toList := by
    refine fun c hc => ⟨?_, fun hbracket => hbrackets c hbracket hc⟩
    rcases hc with hc | rfl
    · unfold isCredentialChar at hc
      grind
    · decide
  rcases credentials_cases h with hnone | ⟨user, huser, hcount, hall⟩
  · rw [hnone]
    exact ⟨_, rfl, rfl, rfl, rfl, rfl⟩
  · rw [huser]
    have hcolons : fresh.colons + user.count ':' ≤ 8 := by
      show 0 + _ ≤ 8
      omega
    obtain ⟨s, hs⟩ := exists_stretch fresh (fun c hc => hchars c (hall c hc)) hcolons
    have hat : s.step '@' = .ok { s with colons := 0, percent := false, endsInAt := true } := by
      simp [AuthorityScan.step]
    exact ⟨_, hs.scans.append (scans_char hat), rfl, hs.opened, hs.closed, rfl⟩

theorem scans_port {s : AuthorityScan} (hs : Settled s) (port : Option Nat) :
    ∃ s', Scans (portText port) s s' ∧ MayEnd s' := by
  cases port with
  | none =>
    exact ⟨s, rfl, by rw [hs.colons]; omega, hs.brackets, hs.percent, hs.endsInAt⟩
  | some port =>
    have hdigits : ∀ c ∈ ':' :: hexDigits, (isAuthorityChar c || c = '%') = true ∧
        c ∉ "[]@".toList ∧ c ≠ '%' := forall_mem_of_all (by decide)
    have hport : ∀ c ∈ ':' :: decimal port, c ∈ ':' :: hexDigits := fun c hc =>
      List.mem_cons.mpr ((List.mem_cons.mp hc).imp_right decimal_chars)
    have hcount : (decimal port).count ':' = 0 :=
      List.count_eq_zero.mpr fun hc => absurd (decimal_chars hc) (by decide)
    have hcolons : s.colons + (':' :: decimal port).count ':' = 1 := by
      rw [hs.colons, List.count_cons_self, hcount]
    obtain ⟨s', h⟩ := exists_stretch s
      (fun c hc => ⟨(hdigits c (hport c hc)).1, (hdigits c (hport c hc)).2.1⟩) (by omega)
    refine ⟨s', h.scans, ?_, ?_, ?_, h.endsInAt (by simp)⟩
    · exact Nat.le_of_eq (h.colons.trans hcolons)
    · rw [h.opened, h.closed, hs.brackets]
    · rw [h.percent fun hc => (hdigits _ (hport _ hc)).2.2 rfl, hs.percent]

/-- **The authority of a URL can be read in a target** if its host is written in characters that may
stand there. -/
theorem scans_site (h : Sited u) (hnameable : Nameable u.hostText) :
    ∃ s, Scans (site u) fresh s ∧ MayEnd s := by
  obtain ⟨s₁, hscans₁, hcolons, hopened, hclosed, hpercent⟩ := scans_credentials h
  obtain ⟨s₂, hscans₂, hsettled⟩ :=
    scans_host hcolons hopened hclosed hpercent h.host hnameable
  obtain ⟨s₃, hscans₃, hend⟩ := scans_port hsettled u.port
  exact ⟨s₃, (hscans₁.append hscans₂).append hscans₃, hend⟩

/-- No character of an authority that can be read is one that may not stand there. -/
theorem Scans.chars {s s' : AuthorityScan} (h : Scans text s s') :
    ∀ c ∈ text, isAuthorityChar c = true ∨ c = '%' := by
  induction text generalizing s with
  | nil => simp
  | cons c rest ih =>
    rw [Scans, List.foldlM_cons] at h
    obtain ⟨s₁, hstep, hrest⟩ := of_bind_ok h
    refine List.forall_mem_cons.mpr ⟨?_, ih hrest⟩
    refine Decidable.byContradiction fun hc => ?_
    have hknown : ∀ d ∈ ":[]@".toList, isAuthorityChar d = true := forall_mem_of_all (by decide)
    have hne : ∀ d ∈ ":[]@".toList, c ≠ d := fun d hd heq => hc (.inl (heq ▸ hknown d hd))
    rw [not_or, Bool.not_eq_true] at hc
    simp [AuthorityScan.step, hne, hc] at hstep

/-! ### Targets -/

/-- The characters of an authority do not end it. -/
theorem site_chars (h : Sited u) : ∀ c ∈ site u, c ∉ "/?#".toList := by
  have hends : ∀ c ∈ "/?#".toList, c ∈ "/?#@%".toList ∧ isCredentialChar c = false ∧
      c ≠ ':' ∧ c ≠ '@' ∧ c ∉ hexDigits := forall_mem_of_all (by decide)
  intro c hc hend
  obtain ⟨hhost, hcredential, hcolon, hat, hdigit⟩ := hends c hend
  rcases List.mem_append.mp hc with hc | hc
  · rcases List.mem_append.mp hc with hc | hc
    · rcases credentials_cases h with hnone | ⟨user, huser, -, hall⟩
      · simp [hnone] at hc
      · rw [huser] at hc
        rcases List.mem_append.mp hc with hc | hc
        · exact (hall c hc).elim (fun hkept => by simp [hcredential] at hkept) hcolon
        · exact hat (List.mem_singleton.mp hc)
    · exact h.host.not_mem hhost hc
  · exact (portText_chars hc).elim hcolon hdigit

/-- The authority of a text that begins with one. -/
theorem takeWhile_site (h : Sited u) (rest : List Char) :
    (site u ++ rest).takeWhile (fun c => !(c == '/' || c == '?' || c == '#'))
      = site u ++ rest.takeWhile (fun c => !(c == '/' || c == '?' || c == '#')) := by
  refine List.takeWhile_append_of_pos fun c hc => ?_
  simpa [not_or, and_assoc] using site_chars h c hc

/-- What may follow an authority. -/
def EndsAuthority (rest : List Char) : Prop :=
  rest.takeWhile (fun c => !(c == '/' || c == '?' || c == '#')) = []

theorem endsAuthority_cons (hc : c ∈ "/?#".toList) (rest : List Char) :
    EndsAuthority (c :: rest) := by
  have hall : ∀ d ∈ "/?#".toList, (!(d == '/' || d == '?' || d == '#')) = false :=
    forall_mem_of_all (by decide)
  exact List.takeWhile_cons_of_neg (by simp [hall c hc])

theorem readTargetAuthority_site (h : Sited u) (hnameable : Nameable u.hostText)
    {rest : List Char} (hrest : EndsAuthority rest) :
    readTargetAuthority (site u ++ rest) = .ok (site u, rest) := by
  obtain ⟨s, hs, hend⟩ := scans_site h hnameable
  have hcolons : ¬ 1 < s.colons := Nat.not_lt.mpr hend.colons
  have hmayEnd : (s.opened != s.closed || 1 < s.colons || s.endsInAt || s.percent) = false := by
    simp [hcolons, hend.brackets, hend.percent, hend.endsInAt]
  unfold readTargetAuthority
  rw [takeWhile_site h, hrest, List.append_nil]
  dsimp only
  rw [show (site u).foldlM AuthorityScan.step ⟨0, false, false, false, false⟩ = .ok s from hs]
  show (if _ then _ else _) = _
  rw [hmayEnd, List.drop_left]
  rfl

/-- What is read as an authority begins with that of the URL, so its host can be named. -/
theorem nameable_of_readTargetAuthority (h : Sited u) {rest : List Char}
    {parts : List Char × List Char} (hread : readTargetAuthority (site u ++ rest) = .ok parts) :
    Nameable u.hostText := by
  unfold readTargetAuthority at hread
  rw [takeWhile_site h] at hread
  dsimp only at hread
  obtain ⟨s, hscan, -⟩ := of_bind_ok hread
  intro c hc
  have hmem : c ∈ site u := List.mem_append_left _ (List.mem_append_right _ hc)
  rcases Scans.chars hscan c (List.mem_append_left _ hmem) with hkept | rfl
  · exact hkept
  · exact absurd hc (h.host.not_mem (by decide))

theorem readTargetScheme_http (rest : List Char) :
    readTargetScheme ("http".toList ++ ("://".toList ++ rest)) = .ok (some "http".toList, rest) :=
  rfl

/-- The text of a URL is read as an absolute target. -/
theorem parse_origin (h : Sited u) (rest : List Char) :
    Target.parse (u.origin ++ rest)
      = if longestTarget < (utf8 (u.origin ++ rest)).length then .error .tooLong
        else do
          let (authority, rest) ← readTargetAuthority (site u ++ rest)
          if authority.isEmpty then .error .invalidFormat
          else
            let (path, query) ← readPathAndQuery rest
            return ⟨some "http".toList, some authority, path, query⟩ := by
  have horigin : u.origin ++ rest = "http".toList ++ ("://".toList ++ (site u ++ rest)) := by
    rw [origin_eq, h.scheme]
    simp only [List.append_assoc]
  rw [horigin]
  unfold Target.parse
  split
  · rfl
  · show readTargetScheme ("http".toList ++ ("://".toList ++ (site u ++ rest))) >>= _ = _
    rw [readTargetScheme_http]
    rfl

/-! ### Path and query -/

/-- What is put behind path characters becomes part of the path, or stands behind it. -/
theorem readPathAndQuery_append {base : List Char}
    (hbase : ∀ c ∈ base, isTargetPathChar c = true ∧ c ≠ '?' ∧ c ≠ '#') (tail : List Char) :
    readPathAndQuery (base ++ tail)
      = (readPathAndQuery tail).map fun parts => (base ++ parts.1, parts.2) := by
  have hkept : (base ++ tail).takeWhile (fun c => !(c == '?' || c == '#'))
      = base ++ tail.takeWhile (fun c => !(c == '?' || c == '#')) :=
    List.takeWhile_append_of_pos fun c hc => by simp [(hbase c hc).2]
  have hall : base.all isTargetPathChar = true :=
    List.all_eq_true.mpr fun c hc => (hbase c hc).1
  unfold readPathAndQuery
  rw [hkept]
  dsimp only
  rw [List.length_append, List.drop_append, List.all_append, hall, Bool.true_and]
  simp only [Nat.add_sub_cancel_left, List.drop_eq_nil_of_le (Nat.le_add_right ..),
    List.nil_append]
  split
  · rfl
  · split
    · rfl
    · split <;> rfl

theorem drop_length_takeWhile (q : Char → Bool) (text : List Char) :
    text.drop (text.takeWhile q).length = text.dropWhile q :=
  (congrArg _ List.takeWhile_append_dropWhile.symm).trans List.drop_left

/-- The path of a text is what stands before `?` and `#`. -/
theorem readPathAndQuery_path {parts : List Char × Option (List Char)}
    (h : readPathAndQuery text = .ok parts) :
    parts.1 = text.takeWhile fun c => !(c == '?' || c == '#') := by
  unfold readPathAndQuery at h
  dsimp only at h
  split at h
  · cases h
  split at h
  · rw [← Except.ok.inj h]
  · split at h
    · rw [← Except.ok.inj h]
    · cases h

/-- A text that is read as path and query is kept up to `#`. -/
theorem readPathAndQuery_text {parts : List Char × Option (List Char)}
    (h : readPathAndQuery text = .ok parts) :
    parts.1 ++ parts.2.elim [] ('?' :: ·) = text.takeWhile (· != '#') := by
  let inPath : Char → Bool := fun c => !(c == '?' || c == '#')
  have hsplit : text = text.takeWhile inPath ++ text.dropWhile inPath :=
    List.takeWhile_append_dropWhile.symm
  have hpath : ∀ c ∈ text.takeWhile inPath, (c != '#') = true := fun c hc => by
    have hin := List.all_eq_true.mp List.all_takeWhile c hc
    simp only [inPath, Bool.not_eq_true', Bool.or_eq_false_iff, beq_eq_false_iff_ne] at hin
    exact bne_iff_ne.mpr hin.2
  have hkept : text.takeWhile (· != '#')
      = text.takeWhile inPath ++ (text.dropWhile inPath).takeWhile (· != '#') :=
    (congrArg _ hsplit).trans (List.takeWhile_append_of_pos hpath)
  have hstop := List.head?_dropWhile_not inPath text
  rw [hkept]
  unfold readPathAndQuery at h
  dsimp only at h
  rw [show text.drop (text.takeWhile fun c => !(c == '?' || c == '#')).length = _ from
    drop_length_takeWhile inPath text] at h
  generalize text.dropWhile inPath = rest at h hstop
  split at h
  · cases h
  -- What follows the path is a query, or is dropped.
  split at h
  · next hquery =>
    have hnone : rest.takeWhile (· != '#') = [] := by
      cases rest with
      | nil => rfl
      | cons c rest =>
        by_cases hc : c = '?'
        · subst hc
          cases hquery
        · have hhash : c = '#' := by simpa [inPath, hc] using hstop
          exact List.takeWhile_cons_of_neg (by simp [hhash])
    obtain rfl := Except.ok.inj h
    rw [hnone]
    rfl
  · next query hquery =>
    split at h
    · obtain rfl := Except.ok.inj h
      split at hquery
      · rw [← Option.some.inj hquery]
        rfl
      · cases hquery
    · cases h

theorem readPathAndQuery_question (s : List Char) :
    readPathAndQuery ('?' :: s)
      = if (s.takeWhile (· != '#')).all isTargetQueryChar then
          .ok ([], some (s.takeWhile (· != '#')))
        else .error .invalidCharacter :=
  rfl

/-- What stands before `#`, where there is nothing like it in front. -/
theorem takeWhile_hash (h : '#' ∉ text) (behind : List Char) :
    (text ++ behind).takeWhile (· != '#') = text ++ behind.takeWhile (· != '#') :=
  List.takeWhile_append_of_pos fun _ hc => bne_iff_ne.mpr fun heq => h (heq ▸ hc)

theorem hash_not_mem_takeWhile : '#' ∉ text.takeWhile (· != '#') := fun hc => by
  have hkept := List.mem_takeWhile_imp hc
  simp at hkept

theorem takeWhile_hash_eq_self : text.takeWhile (· != '#') = text ↔ '#' ∉ text := by
  rw [List.takeWhile_eq_self_iff]
  refine ⟨fun h hc => ?_, fun h c hc => bne_iff_ne.mpr fun heq => h (heq ▸ hc)⟩
  exact bne_iff_ne.mp (h _ hc) rfl

/-! ### URLs as targets -/

variable {rest : List Char} {t : Target}

theorem site_ne_nil (h : Sited u) : site u ≠ [] := by
  have htext : u.hostText ≠ [] := by
    have hhost := h.host
    generalize u.hostText = text at hhost ⊢
    cases hhost with
    | plain hne _ => exact hne
    | bracketed _ _ => simp
  simp [site, htext]

/-- **A URL with something behind its authority is a target** exactly if it is not too long, its
host can be named there, and what stands behind the authority can be read. -/
theorem parse_origin_iff (h : Sited u) (hrest : EndsAuthority rest) :
    Target.parse (u.origin ++ rest) = .ok t ↔
      (utf8 (u.origin ++ rest)).length ≤ longestTarget ∧ Nameable u.hostText ∧
        ∃ parts, readPathAndQuery rest = .ok parts ∧
          t = ⟨some "http".toList, some (site u), parts.1, parts.2⟩ := by
  have hsite : (site u).isEmpty = false := by simpa using site_ne_nil h
  rw [parse_origin h]
  constructor
  · intro hparse
    split at hparse
    · cases hparse
    · next hshort =>
      obtain ⟨read, hread, hparse⟩ := of_bind_ok hparse
      have hnameable := nameable_of_readTargetAuthority h hread
      rw [readTargetAuthority_site h hnameable hrest] at hread
      obtain rfl := Except.ok.inj hread
      dsimp only at hparse
      rw [hsite] at hparse
      obtain ⟨parts, hparts, hparse⟩ := of_bind_ok hparse
      exact ⟨Nat.not_lt.mp hshort, hnameable, parts, hparts, (Except.ok.inj hparse).symm⟩
  · rintro ⟨hshort, hnameable, parts, hparts, rfl⟩
    rw [if_neg (Nat.not_lt.mpr hshort), readTargetAuthority_site h hnameable hrest]
    show (if _ then _ else readPathAndQuery rest >>= _) = _
    rw [hsite, hparts]
    rfl

/-- Whatever stands behind a URL's authority, the path that is asked for begins with a slash. -/
theorem head?_pathAndQuery (h : Sited u) (hparse : Target.parse (u.origin ++ rest) = .ok t) :
    t.pathAndQuery.head? = some '/' := by
  rw [parse_origin h] at hparse
  split at hparse
  · cases hparse
  obtain ⟨read, hread, hparse⟩ := of_bind_ok hparse
  dsimp only at hparse
  split at hparse
  · cases hparse
  obtain ⟨parts, hparts, hparse⟩ := of_bind_ok hparse
  obtain rfl := Except.ok.inj hparse
  -- What is left over behind an authority begins with one of the characters that end it.
  have hrest : read.2
      = (site u ++ rest).dropWhile fun c => !(c == '/' || c == '?' || c == '#') := by
    unfold readTargetAuthority at hread
    obtain ⟨scan, -, hread⟩ := of_bind_ok hread
    split at hread
    · cases hread
    · rw [← Except.ok.inj hread]
      exact drop_length_takeWhile ..
  have hstop := List.head?_dropWhile_not (fun c => !(c == '/' || c == '?' || c == '#'))
    (site u ++ rest)
  rw [← hrest] at hstop
  have hpath := readPathAndQuery_path hparts
  unfold Target.pathAndQuery Target.path
  dsimp only
  generalize read.2 = left at hpath hstop
  rw [hpath]
  cases left with
  | nil => rfl
  | cons c left =>
    by_cases hc : c = '/'
    · rw [List.takeWhile_cons_of_pos (by simp [hc]), hc]
      rfl
    · have hend : c = '?' ∨ c = '#' := by
        simpa [hc, Decidable.or_iff_not_imp_left] using hstop
      rw [List.takeWhile_cons_of_neg (by rcases hend with rfl | rfl <;> decide)]
      rfl

/-- The host of the authority of a URL is that of the URL. -/
theorem host_site (h : Sited u) (ht : t.authority = some (site u)) : t.host = u.hostText := by
  have hat : '@' ∉ u.hostText ++ portText u.port := fun hmem =>
    (List.mem_append.mp hmem).elim (h.host.not_mem (by decide)) fun hmem =>
      absurd (portText_chars hmem) (by decide)
  have hsite : (behindLast? '@' (site u)).getD (site u) = u.hostText ++ portText u.port := by
    unfold site
    rw [List.append_assoc]
    rcases credentials_cases h with hnone | ⟨user, huser, -, -⟩
    · rw [hnone, List.nil_append, behindLast?_eq_none hat]
      rfl
    · rw [huser, List.append_assoc, List.singleton_append, behindLast?_separator user hat]
      rfl
  have hport : ∀ q : Char → Bool, q ':' = false → (portText u.port).takeWhile q = [] := by
    intro q hq
    cases u.port with
    | none => rfl
    | some port => exact List.takeWhile_cons_of_neg (by simp [hq])
  unfold Target.host
  rw [ht]
  dsimp only [Option.getD_some]
  rw [hsite]
  -- A plain host ends at the colon of the port, one in brackets where these close.
  have hhost := h.host
  generalize u.hostText = text at hhost ⊢
  cases hhost with
  | plain hne hplain =>
    have hhead : (text ++ portText u.port).head? ≠ some '[' := by
      obtain ⟨c, rest, rfl⟩ := List.exists_cons_of_ne_nil hne
      exact fun heq => hplain c List.mem_cons_self (Option.some.inj heq ▸ by decide)
    have hcolon : ∀ c ∈ text, decide (c ≠ ':') = true := fun c hc =>
      decide_eq_true fun heq => hplain c hc (by rw [heq]; decide)
    rw [if_neg hhead, List.takeWhile_append_of_pos hcolon, hport _ (by decide), List.append_nil]
  | @bracketed inner hinner hcount =>
    have hclosing : ∀ c ∈ '[' :: inner, decide (c ≠ ']') = true := by
      have hall : ∀ c ∈ addressChars, decide (c ≠ ']') = true := forall_mem_of_all (by decide)
      exact List.forall_mem_cons.mpr ⟨by decide, fun c hc => hall c (hinner c hc)⟩
    have hhead : ('[' :: inner ++ [']'] ++ portText u.port).head? = some '[' := rfl
    rw [if_pos hhead, List.append_assoc, List.takeWhile_append_of_pos hclosing,
      List.singleton_append, List.takeWhile_cons_of_neg (by decide), List.append_nil]

/-- Where the last colon has a character behind it that is no digit, there is no port. -/
theorem port?_eq_none {front back : List Char} {mark : Char}
    (ht : t.authority = some (front ++ mark :: back)) (hcolon : ':' ∉ mark :: back)
    (hdigit : digitIn? 10 mark = none) (hplus : mark ≠ '+') : t.port? = none := by
  unfold Target.port?
  rw [ht, Option.getD_some, behindLast?_append front hcolon]
  cases behindLast? ':' front with
  | none => rfl
  | some written =>
    have hmem : mark ∈ written ++ mark :: back :=
      List.mem_append_right _ List.mem_cons_self
    simp [unsigned?_eq_none hmem hdigit hplus]

/-- The port of the authority of a URL is that of the URL. -/
theorem port?_site (h : Sited u) (ht : t.authority = some (site u)) :
    t.port? = u.port.map fun port => (decimal port, port) := by
  unfold site at ht
  cases hport : u.port with
  | some port =>
    have hdigits : ':' ∉ decimal port := fun hc => absurd (decimal_chars hc) (by decide)
    rw [hport] at ht
    unfold Target.port?
    rw [ht, Option.getD_some]
    show (behindLast? ':' (_ ++ ':' :: decimal port)).bind _ = _
    rw [behindLast?_separator _ hdigits, Option.bind_some, unsigned?_decimal (h.port port hport)]
    rfl
  | none =>
    -- The last colon is one of the credentials or of an address in brackets. Behind it stands `@` or
    -- `]`, and so no number.
    rw [hport] at ht
    have hhost := h.host
    generalize u.hostText = text at hhost ht
    rw [show portText none = [] from rfl, List.append_nil] at ht
    cases hhost with
    | plain hne hplain =>
      have hcolon : ':' ∉ text := fun hc => hplain _ hc (by decide)
      rcases credentials_cases h with hnone | ⟨user, huser, -, -⟩
      · unfold Target.port?
        rw [ht, hnone, Option.getD_some, List.nil_append, behindLast?_eq_none hcolon]
        rfl
      · rw [huser, List.append_assoc, List.singleton_append] at ht
        exact port?_eq_none ht (by simp [hcolon]) (by decide) (by decide)
    | @bracketed inner hinner hcount =>
      rw [← List.append_assoc] at ht
      exact port?_eq_none ht (by decide) (by decide) (by decide)

end HttpGateway.Http
