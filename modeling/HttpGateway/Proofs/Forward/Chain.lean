/-
The chain of addresses that a request has come through.

* **forwardedEntries** — all that the `X-Forwarded-For` lines of a message hold, line after line:
  the entries between commas that are not blank.
* **firstEntries**, **laterEntries** — what the first line holds, and what the others do.
* `forwardedEntries_append` — once a peer is in the chain it holds what the first line held, and the
  peer behind that.
* `chain_kept_iff` — so nothing is lost exactly if the other lines hold nothing, and whatever
  gateways are behind this one lose nothing any more.

The field may be repeated, and then it means the same as one line with all the entries. The peer is
put behind the first line, and the line that comes of it takes the place of all of them.
-/
import HttpGateway.Proofs.Forward.Origin

namespace HttpGateway.Forward

open Http Net Text Outbound

variable {h : Fields} {p : SocketAddress} {s t : List Char}

/-! ### Entries of a text -/

/-- The entries of a text that are not blank. -/
def filledEntries (s : String) : List String := (commaEntries s).filter (· ≠ "")

theorem filledEntries_append_comma (s t : List Char) :
    filledEntries (String.ofList (s ++ ',' :: t))
      = filledEntries (String.ofList s) ++ filledEntries (String.ofList t) := by
  simp only [filledEntries, commaEntries, String.toList_ofList, List.splitOn_append_cons_self,
    List.map_append, List.filter_append]

theorem filledEntries_of_no_comma (hs : ',' ∉ s) :
    filledEntries (String.ofList s) = if trim s = [] then [] else [String.ofList (trim s)] := by
  rw [filledEntries, commaEntries, String.toList_ofList, List.splitOn_eq_singleton hs]
  by_cases hblank : trim s = [] <;> simp [hblank]

/-- A blank text has no entry, for a comma is not blank. -/
theorem filledEntries_of_blank (hs : trim s = []) : filledEntries (String.ofList s) = [] := by
  have hcomma : ',' ∉ s := fun hmem =>
    absurd (trim_eq_nil.mp hs _ hmem) (by decide)
  rw [filledEntries_of_no_comma hcomma, if_pos hs]

/-- An address is an entry of its own, whatever blanks are in front of it. -/
theorem filledEntries_address {ip : IpAddress} (hip : IsComplete ip)
    (hblank : ∀ c ∈ s, isBlank c = true) :
    filledEntries (String.ofList (s ++ (addressText ip).toList)) = [addressText ip] := by
  have htrim : trim (s ++ (addressText ip).toList) = (addressText ip).toList :=
    trim_append hblank fun c hc => (addressText_chars hc).2.2
  have hcomma : ',' ∉ s ++ (addressText ip).toList := by
    rw [List.mem_append, not_or]
    exact ⟨fun hmem => absurd (hblank _ hmem) (by decide),
      fun hmem => (addressText_chars hmem).2.1 rfl⟩
  have hsome : (addressText ip).toList ≠ [] := by
    rw [addressText, String.toList_ofList]
    exact text_ne_nil hip
  rw [filledEntries_of_no_comma hcomma, htrim, if_neg hsome, String.ofList_toList]

/-! ### Entries of a message -/

/-- The entries of a line. A line that is no text has none. -/
def lineEntries (v : FieldValue) : List String := v.text?.elim [] filledEntries

/-- The entries of all `X-Forwarded-For` lines. -/
def forwardedEntries (h : Fields) : List String :=
  (h.getAll "x-forwarded-for").flatMap lineEntries

/-- The entries of the first line. -/
def firstEntries (h : Fields) : List String := (h.text? "x-forwarded-for").elim [] filledEntries

/-- The entries of all lines behind the first one. -/
def laterEntries (h : Fields) : List String :=
  (h.getAll "x-forwarded-for").tail.flatMap lineEntries

theorem forwardedEntries_eq (h : Fields) :
    forwardedEntries h = firstEntries h ++ laterEntries h := by
  rw [forwardedEntries, firstEntries, laterEntries, Fields.text?, Fields.get?]
  cases h.getAll "x-forwarded-for" with
  | nil => rfl
  | cons line rest => exact List.flatMap_cons

theorem filledEntries_forwardedChain (hp : IsComplete p.ip) (h : Fields) :
    filledEntries (forwardedChain h p) = firstEntries h ++ [addressText p.ip] := by
  have hpeer : filledEntries (addressText p.ip) = [addressText p.ip] := by
    have haddress := filledEntries_address (s := []) hp (by simp)
    rwa [List.nil_append, String.ofList_toList] at haddress
  by_cases hstands : ChainStands h
  · obtain ⟨chain, hchain, hblank⟩ := hstands
    have htext : forwardedChain h p
        = String.ofList (chain.toList ++ ',' :: ([' '] ++ (addressText p.ip).toList)) := by
      rw [forwardedChain_of_stands hchain hblank, ← String.toList_inj, String.toList_append,
        String.toList_append, List.append_assoc]
      exact String.toList_ofList.symm
    rw [htext, filledEntries_append_comma, String.ofList_toList,
      filledEntries_address hp (by simp [isBlank]), firstEntries, hchain]
    rfl
  · -- A first line that does not stand has no entry.
    have hnone : firstEntries h = [] := by
      rw [firstEntries]
      cases hchain : h.text? "x-forwarded-for" with
      | none => rfl
      | some chain =>
        have hblank : trim chain.toList = [] := by
          by_contra hne
          exact hstands ⟨chain, hchain, hne⟩
        have hempty := filledEntries_of_blank hblank
        rwa [String.ofList_toList] at hempty
    rw [forwardedChain_of_not_stands hstands, hpeer, hnone, List.nil_append]

/-! ### The peer in the chain -/

theorem getAll_appendForwarded (h : Fields) (p : SocketAddress) :
    (appendForwarded h p).getAll "x-forwarded-for" = [utf8 (forwardedChain h p).toList] := by
  rw [appendForwarded_eq, Fields.getAll_set_self]

/-- The peer stands behind what the first line held. -/
theorem forwardedEntries_append (hp : IsComplete p.ip) (h : Fields) :
    forwardedEntries (appendForwarded h p) = firstEntries h ++ [addressText p.ip] := by
  have hread : FieldValue.text? (utf8 (forwardedChain h p).toList) = some (forwardedChain h p) := by
    rw [FieldValue.text?_utf8 fun c hc => forwardedChain_readable h p hc, String.ofList_toList]
  rw [forwardedEntries, getAll_appendForwarded, List.flatMap_singleton, lineEntries, hread]
  exact filledEntries_forwardedChain hp h

/-- Afterwards there is one line. -/
theorem laterEntries_append (h : Fields) (p : SocketAddress) :
    laterEntries (appendForwarded h p) = [] := by
  rw [laterEntries, getAll_appendForwarded]
  rfl

/-- A gateway does no more to the chain than that, unless the sender has it dropped. -/
theorem getAll_send_forwarded (hnamed : ¬ NamedByConnection h "x-forwarded-for") (r : Relay) :
    (r.send h).getAll "x-forwarded-for" = (appendForwarded h r.peer).getAll "x-forwarded-for" := by
  rw [getAll_send (by decide) (by decide), getAll_appendForwarded, getAll_appendForwarded,
    forwardedChain, forwardedChain, text?_stripped hnamed (by decide)]

theorem forwardedEntries_send (hnamed : ¬ NamedByConnection h "x-forwarded-for") {r : Relay}
    (hr : IsComplete r.peer.ip) :
    forwardedEntries (r.send h) = firstEntries h ++ [addressText r.peer.ip] ∧
      laterEntries (r.send h) = [] := by
  rw [forwardedEntries, laterEntries, getAll_send_forwarded hnamed]
  exact ⟨forwardedEntries_append hr h, laterEntries_append h r.peer⟩

/-- Where only the first line holds something, gateways in a row put their peers behind it and lose
nothing. -/
theorem forwardedEntries_relays (hlater : laterEntries h = [])
    (hnamed : ¬ NamedByConnection h "x-forwarded-for") {relays : List Relay}
    (hpeers : ∀ r ∈ relays, IsComplete r.peer.ip) :
    forwardedEntries (relays.foldl Relay.send h)
      = forwardedEntries h ++ relays.map (addressText ·.peer.ip) := by
  induction relays generalizing h with
  | nil => exact (List.append_nil _).symm
  | cons r rest ih =>
    obtain ⟨hr, hrest⟩ := List.forall_mem_cons.mp hpeers
    obtain ⟨hentries, hnone⟩ := forwardedEntries_send hnamed hr
    rw [List.foldl_cons, ih hnone (not_namedByConnection_send h r _) hrest, hentries,
      forwardedEntries_eq h, hlater, List.append_nil, List.map_cons, List.append_assoc,
      List.singleton_append]

/-- **When the chain is kept.** Once a peer is in the chain, it holds what its first line held, and
the peer behind that. So this is all that its lines held, in their order, with the peer at the end,
exactly if the other lines held nothing; a line that is blank, or no text, holds nothing. The
requests of gateways in a row lose no more than the first of them, if its sender does not have the
chain dropped. -/
theorem chain_kept_iff (h : Fields) (p : SocketAddress) (hp : IsComplete p.ip) :
    (forwardedEntries (appendForwarded h p) = forwardedEntries h ++ [addressText p.ip]
      ↔ laterEntries h = []) ∧
    forwardedEntries h = firstEntries h ++ laterEntries h ∧
    forwardedEntries (appendForwarded h p) = firstEntries h ++ [addressText p.ip] ∧
    (¬ NamedByConnection h "x-forwarded-for" → ∀ (first : Relay) relays, first.peer = p →
      (∀ r ∈ relays, IsComplete r.peer.ip) →
        forwardedEntries ((first :: relays).foldl Relay.send h)
          = firstEntries h ++ addressText p.ip :: relays.map (addressText ·.peer.ip)) := by
  have happend := forwardedEntries_append hp h
  have hsplit := forwardedEntries_eq h
  refine ⟨?_, hsplit, happend, ?_⟩
  · rw [happend, hsplit, List.append_assoc, List.append_cancel_left_eq, List.self_eq_append_left]
  · rintro hnamed first relays rfl hpeers
    obtain ⟨hentries, hnone⟩ := forwardedEntries_send hnamed hp
    have hnext := not_namedByConnection_send h first "x-forwarded-for"
    rw [List.foldl_cons, forwardedEntries_relays hnone hnext hpeers, hentries, List.append_assoc,
      List.singleton_append]

/-- A client whose second line is blank and whose third one is no text. The chain begins with a
blank entry, and two gateways put their peers behind it. -/
theorem chain_kept_iff_blank_line :
    let p : SocketAddress := ⟨.v4 [10, 0, 0, 1], 4000⟩
    let q : SocketAddress := ⟨.v4 [10, 0, 0, 2], 4000⟩
    let h : Fields := ⟨[("x-forwarded-for", utf8 ", 192.0.2.7,192.0.2.8".toList),
      ("connection", utf8 "close".toList), ("x-forwarded-for", utf8 " ,".toList),
      ("x-forwarded-for", [0xff])]⟩
    let relay (peer : SocketAddress) : Relay := ⟨peer, utf8 "a".toList, "id-1", 5000⟩
    IsComplete p.ip ∧ ¬ NamedByConnection h "x-forwarded-for" ∧
      forwardedEntries (appendForwarded h p) = forwardedEntries h ++ ["10.0.0.1"] ∧
      forwardedEntries ([relay p, relay q].foldl Relay.send h)
        = ["192.0.2.7", "192.0.2.8", "10.0.0.1", "10.0.0.2"] := by
  intro p q h relay
  have hnamed : ¬ NamedByConnection h "x-forwarded-for" := by decide +kernel
  have hlater : laterEntries h = [] := by decide +kernel
  have hfirst : firstEntries h = ["192.0.2.7", "192.0.2.8"] := by decide +kernel
  have hpeer : addressText p.ip = "10.0.0.1" := by decide +kernel
  obtain ⟨hkept, -, -, hrelays⟩ := chain_kept_iff h p rfl
  refine ⟨rfl, hnamed, hpeer ▸ hkept.mpr hlater, ?_⟩
  have hchain := hrelays hnamed (relay p) [relay q] rfl
    (List.forall_mem_singleton.mpr (rfl : IsComplete q.ip))
  rw [hfirst] at hchain
  exact hchain.trans (by decide +kernel)

/-- A client whose chain is on two lines. The second of them is lost, and so is what follows a first
line that is blank. -/
theorem chain_cut_to_first_line :
    let p : SocketAddress := ⟨.v4 [10, 0, 0, 1], 4000⟩
    let h : Fields := ⟨[("x-forwarded-for", utf8 "192.0.2.7".toList),
      ("x-forwarded-for", utf8 "192.0.2.8".toList)]⟩
    let blank : Fields := ⟨[("x-forwarded-for", utf8 " ".toList),
      ("x-forwarded-for", utf8 "192.0.2.8".toList)]⟩
    (forwardedEntries h = ["192.0.2.7", "192.0.2.8"] ∧
      forwardedEntries (appendForwarded h p) = ["192.0.2.7", "10.0.0.1"]) ∧
    (forwardedEntries blank = ["192.0.2.8"] ∧
      forwardedEntries (appendForwarded blank p) = ["10.0.0.1"]) ∧
    ¬ ∀ (h : Fields) (p : SocketAddress),
      (∀ line ∈ h.getAll "x-forwarded-for", line.text?.isSome = true) → IsComplete p.ip →
        forwardedEntries (appendForwarded h p) = forwardedEntries h ++ [addressText p.ip] := by
  intro p h blank
  have hbefore : forwardedEntries h = ["192.0.2.7", "192.0.2.8"] := by decide +kernel
  have hafter : forwardedEntries (appendForwarded h p) = ["192.0.2.7", "10.0.0.1"] := by
    decide +kernel
  refine ⟨⟨hbefore, hafter⟩, ⟨by decide +kernel, by decide +kernel⟩, fun hall => ?_⟩
  have heq := hall h p (by decide +kernel) rfl
  rw [hbefore, hafter] at heq
  exact absurd heq (by decide)

end HttpGateway.Forward
