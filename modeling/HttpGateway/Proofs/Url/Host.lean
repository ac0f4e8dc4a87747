/-
The characters of the host of a URL.

* `of_mem_encode`, `encode_controlSet` — what percent-encoding leaves; no control characters.
* `Host.parse_controlSet`, `Host.parseOpaque_controlSet` — a host that is read holds none.
* `parse_host` — the host of a URL that is read holds none.
-/
import HttpGateway.Proofs.Net.Address
import HttpGateway.Url.Basic

namespace HttpGateway.Url

open Text Net Percent

variable {c : Char} {s : List Char} {host : Host}

/-! ### Percent-encoding -/

/-- The characters with which percent-encoding writes a byte. -/
def encodingChars : List Char := '%' :: hexDigits.map Char.toUpper

theorem mem_encodingChars {b : UInt8} (h : c ∈ encodeByte b) : c ∈ encodingChars := by
  rcases List.mem_cons.mp h with rfl | h
  · exact List.mem_cons_self
  obtain ⟨d, hd, rfl⟩ := List.mem_map.mp h
  refine List.mem_cons_of_mem _ (List.mem_map_of_mem ?_)
  rcases List.mem_append.mp hd with hzero | hd
  · rw [List.eq_of_mem_replicate hzero]
    decide
  · exact (of_mem_digitsOnto (by decide) (by decide) _ _ hd).resolve_right List.not_mem_nil

/-- Percent-encoding leaves ASCII characters that are not in the set, and adds its own. -/
theorem of_mem_encode {set : Char → Bool} (h : c ∈ encode set s) :
    c ∈ encodingChars ∨ c.toNat < 0x80 ∧ set c = false := by
  obtain ⟨d, -, hd⟩ := List.mem_flatMap.mp h
  unfold encodeChar at hd
  split at hd
  · obtain ⟨b, -, hb⟩ := List.mem_flatMap.mp hd
    exact .inl (mem_encodingChars hb)
  · next hkept =>
    rw [List.mem_singleton] at hd
    subst hd
    rw [Bool.or_eq_true, not_or, decide_eq_true_eq, Nat.not_le] at hkept
    exact .inr ⟨hkept.1, Bool.eq_false_iff.mpr hkept.2⟩

theorem encode_controlSet (h : c ∈ encode controlSet s) : controlSet c = false := by
  have hencoding : ∀ d ∈ encodingChars, controlSet d = false := forall_mem_of_all (by decide)
  exact (of_mem_encode h).elim (hencoding c) And.right

/-! ### Hosts -/

theorem addressChars_controlSet : ∀ d ∈ addressChars, controlSet d = false :=
  forall_mem_of_all (by decide)

theorem Domain.not_isForbidden {name : List Char} (h : Domain.toAscii? s = some name)
    (hc : c ∈ name) : Domain.isForbidden c = false := by
  rw [Domain.toAscii?] at h
  obtain ⟨images, -, h⟩ := Option.bind_eq_some_iff.mp h
  obtain ⟨labels, -, h⟩ := Option.bind_eq_some_iff.mp h
  dsimp only at h
  split at h
  · cases h
  split at h
  · cases h
  next hallowed =>
    rw [← Option.some.inj h] at hc
    exact Bool.eq_false_iff.mpr fun hforbidden => hallowed (List.any_eq_true.mpr ⟨c, hc, hforbidden⟩)

theorem Domain.toAscii?_controlSet {name : List Char} (h : Domain.toAscii? s = some name)
    (hc : c ∈ name) : controlSet c = false := by
  have hkept := Domain.not_isForbidden h hc
  simp only [Domain.isForbidden, Bool.or_eq_false_iff, decide_eq_false_iff_not,
    Nat.not_le] at hkept
  rw [controlSet, Bool.or_eq_false_iff, decide_eq_false_iff_not, Nat.not_lt]
  exact ⟨Nat.le_of_lt hkept.1.1, hkept.1.2⟩

theorem address_controlSet {ip : IpAddress} (hc : c ∈ (Host.address ip).text) :
    controlSet c = false := by
  cases ip with
  | v4 octets => exact addressChars_controlSet c (of_mem_octetsText hc)
  | v6 groups =>
    simp only [Host.text, List.cons_append, List.mem_cons, List.mem_append, List.not_mem_nil,
      or_false] at hc
    rcases hc with rfl | hc | rfl
    · decide
    · exact addressChars_controlSet c (of_mem_groupsText hc)
    · decide

theorem parseBracketed_controlSet (h : parseBracketed s = .ok host) (hc : c ∈ host.text) :
    controlSet c = false := by
  unfold parseBracketed at h
  split at h
  · split at h
    · rw [← Except.ok.inj h] at hc
      exact address_controlSet hc
    · simp at h
  · simp at h

theorem Host.parse_controlSet (h : Host.parse s = .ok host) (hc : c ∈ host.text) :
    controlSet c = false := by
  unfold Host.parse at h
  split at h
  · exact parseBracketed_controlSet h hc
  split at h
  · simp at h
  · next name hname =>
    obtain ⟨decoded, -, hname⟩ := Option.bind_eq_some_iff.mp hname
    split at h
    · simp at h
    split at h
    · split at h
      · rw [← Except.ok.inj h] at hc
        exact address_controlSet hc
      · simp at h
    · rw [← Except.ok.inj h] at hc
      exact Domain.toAscii?_controlSet hname hc

theorem Host.parseOpaque_controlSet (h : Host.parseOpaque s = .ok host) (hc : c ∈ host.text) :
    controlSet c = false := by
  unfold Host.parseOpaque at h
  split at h
  · exact parseBracketed_controlSet h hc
  split at h
  · simp at h
  · rw [← Except.ok.inj h] at hc
    exact encode_controlSet hc

/-! ### URLs -/

theorem of_bind_ok {ε α β : Type} {x : Except ε α} {f : α → Except ε β} {b : β}
    (h : x >>= f = .ok b) : ∃ a, x = .ok a ∧ f a = .ok b := by
  cases x with
  | error e => cases h
  | ok a => exact ⟨a, rfl, h⟩

/-- Whether a host is read from some text. -/
def IsParsed (host : Host) : Prop :=
  ∃ text, Host.parse text = .ok host ∨ Host.parseOpaque text = .ok host

theorem IsParsed.controlSet (h : IsParsed host) (hc : c ∈ host.text) : controlSet c = false := by
  obtain ⟨text, h | h⟩ := h
  · exact Host.parse_controlSet h hc
  · exact Host.parseOpaque_controlSet h hc

variable {scheme : List Char} {u : Url}

theorem readAuthority_host (h : readAuthority scheme s = .ok u) (hhost : u.host = some host) :
    IsParsed host := by
  have hread : ∀ {parsed : Except ParseError Host} {port : Except ParseError (Option Nat)}
      {url : Host → Option Nat → Url} {empty : Bool},
      (∀ a p, (url a p).host = if empty then none else some a) →
      (do let a ← parsed; let p ← port; pure (url a p)) = Except.ok u → parsed = .ok host := by
    intro parsed port url empty hurl h
    obtain ⟨a, ha, h⟩ := of_bind_ok h
    obtain ⟨p, -, h⟩ := of_bind_ok h
    rw [← Except.ok.inj h, hurl] at hhost
    split at hhost
    · cases hhost
    · rw [ha, Option.some.inj hhost]
  rw [readAuthority] at h
  dsimp only at h
  -- The credentials play no part.
  split at h
  all_goals
    split at h
    · cases h
    split at h
    · exact ⟨_, .inl (hread (fun _ _ => rfl) h)⟩
    · exact ⟨_, .inr (hread (fun _ _ => rfl) h)⟩

theorem hostless_host {path : List Char} {query fragment : Option (List Char)}
    (h : u = hostless scheme path query fragment) : u.host ≠ some host := by
  rw [h]
  exact nofun

theorem readFile_host (h : readFile scheme s = .ok u) (hhost : u.host = some host) :
    IsParsed host := by
  rw [readFile] at h
  dsimp only at h
  have hnone : ∀ {path query fragment},
      pure (hostless scheme path query fragment) = (Except.ok u : Except ParseError Url) → False :=
    fun h => hostless_host (Except.ok.inj h).symm hhost
  split at h
  · split at h
    · split at h
      · exact (hnone h).elim
      split at h
      · exact (hnone h).elim
      obtain ⟨parsed, hparsed, h⟩ := of_bind_ok h
      replace h := Except.ok.inj h
      split at h
      · exact (hostless_host h.symm hhost).elim
      · rw [← h] at hhost
        rw [Option.some.inj hhost] at hparsed
        exact ⟨_, .inl hparsed⟩
    · exact (hnone h).elim
  · exact (hnone h).elim

theorem readOther_host (h : readOther scheme s = .ok u) (hhost : u.host = some host) :
    IsParsed host := by
  rw [readOther.eq_def] at h
  split at h
  · exact readAuthority_host h hhost
  · replace h := Except.ok.inj h
    split at h
    all_goals exact (hostless_host h.symm hhost).elim

/-- The host of a URL that is read holds no control characters. -/
theorem parse_host (h : Url.parse s = .ok u) (hhost : u.host = some host) (hc : c ∈ host.text) :
    controlSet c = false := by
  rw [Url.parse] at h
  cases hscheme : readScheme? (clean s) with
  | none =>
    rw [hscheme] at h
    cases h
  | some parts =>
    rw [hscheme] at h
    dsimp only at h
    refine IsParsed.controlSet ?_ hc
    split at h
    · exact readAuthority_host h hhost
    · exact readFile_host h hhost
    · exact readOther_host h hhost

end HttpGateway.Url
