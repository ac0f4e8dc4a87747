/-
The client that a request speaks for, along a chain of gateways.

* **ChainStands** — the first `X-Forwarded-For` line is a text that is not blank. The peer is then
  put behind what the line holds; else it takes its place.
* **SpeaksFor** — whoever brings the request, it speaks for one client. `SpeaksFor.append` says that
  no peer that is put behind the chain changes this.
* **KeepsClient** — a request that speaks for the same client once its peer is in the chain.
* **Relay** — a gateway that sends a request on; what it strips and puts in does not matter here
  (`SameOrigin.send`).
* `client_kept_iff` — the gateway behind finds the same client, and so do all those behind it,
  exactly if the request is such a one.

The two ways in which a client gets lost are those in which what is put in and what is looked up do
not go by the same rule. The peer takes the first place in the chain although `X-Real-IP` names
somebody else; and a chain whose first entry is blank stands, although nobody is found in it.
-/
import HttpGateway.Proofs.Forward.Outbound
import Mathlib.Data.List.TakeWhile

namespace HttpGateway.Forward

open Http Net Text Outbound

variable {h h' : Fields} {p q : SocketAddress} {ip : String} {s t : List Char}

/-! ### Entries that are blank -/

theorem nonBlank?_eq_none : nonBlank? s = none ↔ trim s = [] := by
  rw [nonBlank?]
  cases trim s <;> simp

/-- What stands behind a comma is of no account for the first entry. -/
theorem takeWhile_append_comma (s t : List Char) :
    (s ++ ',' :: t).takeWhile (· ≠ ',') = s.takeWhile (· ≠ ',') := by
  induction s with
  | nil => rfl
  | cons c rest ih =>
    rw [List.cons_append, List.takeWhile_cons, List.takeWhile_cons, ih]

/-! ### Texts of addresses -/

/-- Whether an address has all its parts: four octets, or eight groups. -/
def IsComplete : IpAddress → Prop
  | .v4 octets => octets.length = 4
  | .v6 groups => groups.length = 8

theorem text_ne_nil {ip : IpAddress} (hip : IsComplete ip) : ip.text ≠ [] := by
  cases ip with
  | v4 octets =>
    have hlength : octets.length = 4 := hip
    exact joinNumbers_ne_nil (by omega)
  | v6 groups =>
    have hlength : groups.length = 8 := hip
    rw [IpAddress.text.eq_def]
    dsimp only
    split
    · simp
    · rw [groupsText]
      split
      · exact joinNumbers_ne_nil (by omega)
      · simp

/-- The text of an address is an entry of its own. -/
theorem nonBlank?_addressText {ip : IpAddress} (hip : IsComplete ip) :
    nonBlank? ((addressText ip).toList.takeWhile (· ≠ ',')) = some (addressText ip) := by
  have hwhole : (addressText ip).toList.takeWhile (· ≠ ',') = (addressText ip).toList := by
    refine List.takeWhile_eq_self_iff.mpr fun c hc => ?_
    exact decide_eq_true (addressText_chars hc).2.1
  have htrim : trim (addressText ip).toList = (addressText ip).toList :=
    trim_append (t := []) (by simp) fun c hc => (addressText_chars hc).2.2
  have hsome : (addressText ip).toList ≠ [] := by
    rw [addressText, String.toList_ofList]
    exact text_ne_nil hip
  rw [hwhole, nonBlank?, htrim]
  simp [hsome]

/-! ### What is looked up -/

/-- Whether the peer is put behind what the first `X-Forwarded-For` line holds. -/
def ChainStands (h : Fields) : Prop :=
  ∃ chain, h.text? "x-forwarded-for" = some chain ∧ trim chain.toList ≠ []

/-- Whether a request speaks for a client whoever brings it: its chain begins with the client, or it
begins with a blank entry and `X-Real-IP` names the client. -/
def SpeaksFor (h : Fields) (client : String) : Prop :=
  ChainStands h ∧ (firstForwarded? h).or (realAddress? h) = some client

/-- Whether a request that a peer brings speaks for the same client once the peer is in its chain:
if the chain stands it must lead to a client or `X-Real-IP` must, and else `X-Real-IP` must not name
anybody but the peer. -/
def KeepsClient (h : Fields) (peer : SocketAddress) : Prop :=
  (ChainStands h → (firstForwarded? h).isSome = true ∨ (realAddress? h).isSome = true) ∧
    (¬ ChainStands h → ∀ client, realAddress? h = some client → client = addressText peer.ip)

theorem clientAddress_eq (h : Fields) (peer : SocketAddress) :
    clientAddress h peer
      = ((firstForwarded? h).or (realAddress? h)).getD (addressText peer.ip) := by
  rw [clientAddress]
  cases firstForwarded? h <;> rfl

/-- A client that is first in the chain stands in a line that is not blank. -/
theorem chainStands_of_firstForwarded (hfirst : firstForwarded? h = some ip) : ChainStands h := by
  obtain ⟨chain, hchain, hentry⟩ := Option.bind_eq_some_iff.mp hfirst
  refine ⟨chain, hchain, fun hblank => ?_⟩
  have hnone : nonBlank? (chain.toList.takeWhile (· ≠ ',')) = none :=
    nonBlank?_eq_none.mpr <| trim_eq_nil.mpr fun c hc =>
      trim_eq_nil.mp hblank c ((List.takeWhile_sublist _).mem hc)
  rw [hnone] at hentry
  cases hentry

theorem SpeaksFor.clientAddress (hs : SpeaksFor h ip) (q : SocketAddress) :
    clientAddress h q = ip := by
  rw [clientAddress_eq, hs.2]
  rfl

/-! ### The peer in the chain -/

theorem forwardedChain_of_stands {chain : String} (hchain : h.text? "x-forwarded-for" = some chain)
    (hblank : trim chain.toList ≠ []) (p : SocketAddress) :
    forwardedChain h p = chain ++ ", " ++ addressText p.ip := by
  rw [forwardedChain, hchain]
  exact if_neg (by simpa using hblank)

theorem forwardedChain_of_not_stands (hstands : ¬ ChainStands h) (p : SocketAddress) :
    forwardedChain h p = addressText p.ip := by
  rw [forwardedChain]
  split
  · next chain hchain =>
    cases hblank : trim chain.toList with
    | nil => rfl
    | cons c rest => exact absurd ⟨chain, hchain, by simp [hblank]⟩ hstands
  · rfl

theorem text?_appendForwarded (h : Fields) (p : SocketAddress) :
    (appendForwarded h p).text? "x-forwarded-for" = some (forwardedChain h p) := by
  rw [appendForwarded_eq, Fields.text?, Fields.get?, Fields.getAll_set_self, List.head?_cons,
    Option.bind_some, FieldValue.text?_utf8 fun c hc => forwardedChain_readable h p hc,
    String.ofList_toList]

theorem text?_appendForwarded_other {name : String} (hname : "x-forwarded-for" ≠ name)
    (h : Fields) (p : SocketAddress) : (appendForwarded h p).text? name = h.text? name := by
  rw [appendForwarded_eq, Fields.text?, Fields.get?, Fields.getAll_set_other _ hname]
  rfl

theorem realAddress?_appendForwarded (h : Fields) (p : SocketAddress) :
    realAddress? (appendForwarded h p) = realAddress? h := by
  rw [realAddress?, text?_appendForwarded_other (by decide)]
  rfl

/-- What stands behind the peer is not looked at, and nothing in front of it changes. -/
theorem firstForwarded?_appendForwarded (hstands : ChainStands h) (q : SocketAddress) :
    firstForwarded? (appendForwarded h q) = firstForwarded? h := by
  obtain ⟨chain, hchain, hblank⟩ := hstands
  have htext : (forwardedChain h q).toList
      = chain.toList ++ ',' :: (' ' :: (addressText q.ip).toList) := by
    rw [forwardedChain_of_stands hchain hblank, String.toList_append, String.toList_append,
      List.append_assoc]
    rfl
  rw [firstForwarded?, firstForwarded?, text?_appendForwarded, hchain, Option.bind_some,
    Option.bind_some, htext, takeWhile_append_comma]

theorem ChainStands.append (hstands : ChainStands h) (q : SocketAddress) :
    ChainStands (appendForwarded h q) := by
  obtain ⟨chain, hchain, hblank⟩ := hstands
  refine ⟨_, text?_appendForwarded h q, fun hnone => hblank (trim_eq_nil.mpr fun c hc => ?_)⟩
  refine trim_eq_nil.mp hnone c ?_
  rw [forwardedChain_of_stands hchain hblank, String.toList_append, String.toList_append,
    List.append_assoc]
  exact List.mem_append_left _ hc

/-- No peer that is put behind the chain takes a client away. -/
theorem SpeaksFor.append (hs : SpeaksFor h ip) (q : SocketAddress) :
    SpeaksFor (appendForwarded h q) ip := by
  refine ⟨hs.1.append q, ?_⟩
  rw [firstForwarded?_appendForwarded hs.1, realAddress?_appendForwarded]
  exact hs.2

/-- Where no chain stands the peer is the first one in it. -/
theorem firstForwarded?_of_not_stands (hstands : ¬ ChainStands h) (hp : IsComplete p.ip) :
    firstForwarded? (appendForwarded h p) = some (addressText p.ip) := by
  rw [firstForwarded?, text?_appendForwarded, Option.bind_some,
    forwardedChain_of_not_stands hstands, nonBlank?_addressText hp]

theorem firstForwarded?_eq_none (hstands : ¬ ChainStands h) : firstForwarded? h = none := by
  cases hfirst : firstForwarded? h with
  | none => rfl
  | some ip => exact absurd (chainStands_of_firstForwarded hfirst) hstands

theorem KeepsClient.append (hk : KeepsClient h p) (hp : IsComplete p.ip) :
    SpeaksFor (appendForwarded h p) (clientAddress h p) := by
  rw [clientAddress_eq]
  by_cases hstands : ChainStands h
  · refine SpeaksFor.append ⟨hstands, ?_⟩ p
    rcases hk.1 hstands with hfirst | hreal
    · obtain ⟨client, hclient⟩ := Option.isSome_iff_exists.mp hfirst
      rw [hclient]
      rfl
    · obtain ⟨client, hclient⟩ := Option.isSome_iff_exists.mp hreal
      rw [hclient]
      cases firstForwarded? h <;> rfl
  · have hfirst := firstForwarded?_of_not_stands hstands hp
    refine ⟨chainStands_of_firstForwarded hfirst, ?_⟩
    rw [hfirst, firstForwarded?_eq_none hstands, Option.none_or, Option.some_or]
    cases hreal : realAddress? h with
    | none => rfl
    | some client =>
      rw [hk.2 hstands client hreal]
      rfl

/-- Two gateways behind that have different peers tell whether a client is found at all. -/
theorem keepsClient_of_forall (hp : IsComplete p.ip)
    (hkept : ∀ q, clientAddress (appendForwarded h p) q = clientAddress h p) : KeepsClient h p := by
  constructor
  · intro hstands
    cases hfound : (firstForwarded? h).or (realAddress? h) with
    | some client =>
      have hsome : ((firstForwarded? h).or (realAddress? h)).isSome = true := by rw [hfound]; rfl
      rwa [Option.isSome_or, Bool.or_eq_true] at hsome
    | none =>
      -- the gateway behind takes its own peer for the client, whoever that is
      have hpeer : ∀ q : SocketAddress, addressText q.ip = addressText p.ip := by
        intro q
        have hq := hkept q
        rwa [clientAddress_eq, clientAddress_eq, firstForwarded?_appendForwarded hstands,
          realAddress?_appendForwarded, hfound] at hq
      have hsame := (hpeer ⟨.loopback, 0⟩).trans (hpeer ⟨.v4 [0, 0, 0, 0], 0⟩).symm
      exact absurd hsame (by decide +kernel)
  · intro hstands client hreal
    have hq := hkept p
    rw [clientAddress_eq, clientAddress_eq, firstForwarded?_of_not_stands hstands hp,
      firstForwarded?_eq_none hstands, hreal] at hq
    exact hq.symm

/-- A chain of peers behind a request that speaks for a client. -/
theorem SpeaksFor.foldl (behind : List SocketAddress) (hs : SpeaksFor h ip) :
    SpeaksFor (behind.foldl appendForwarded h) ip := by
  induction behind generalizing h with
  | nil => exact hs
  | cons q rest ih => exact ih (hs.append q)

/-! ### Gateways in a row -/

/-- What a gateway needs to send a request on: the peer that it has the request from, and what it
puts in besides. -/
structure Relay where
  peer : SocketAddress
  host : FieldValue
  requestId : String
  timeoutMs : UInt64

/-- The fields that the next gateway gets. -/
def Relay.send (h : Fields) (r : Relay) : Fields :=
  fieldsFor h r.host r.peer r.requestId r.timeoutMs

/-- Whether two messages hold the same of what a client is looked up in. -/
def SameOrigin (h h' : Fields) : Prop :=
  h.text? "x-forwarded-for" = h'.text? "x-forwarded-for" ∧
    h.text? "x-real-ip" = h'.text? "x-real-ip"

theorem SameOrigin.speaksFor (hsame : SameOrigin h h') (hs : SpeaksFor h' ip) :
    SpeaksFor h ip := by
  obtain ⟨hchain, hreal⟩ := hsame
  rw [SpeaksFor, ChainStands, firstForwarded?, realAddress?, hchain, hreal]
  exact hs

theorem SameOrigin.append (hsame : SameOrigin h h') (q : SocketAddress) :
    SameOrigin (appendForwarded h q) (appendForwarded h' q) := by
  constructor
  · rw [text?_appendForwarded, text?_appendForwarded, forwardedChain, forwardedChain, hsame.1]
  · rw [text?_appendForwarded_other (by decide), text?_appendForwarded_other (by decide), hsame.2]

/-- What is put in after the chain has nothing to do with it. -/
theorem getAll_send {name : String} (hid : "x-request-id" ≠ name)
    (htimeout : "x-request-timeout" ≠ name) (h : Fields) (r : Relay) :
    (r.send h).getAll name
      = (appendForwarded ((stripped h).set "host" r.host) r.peer).getAll name := by
  rw [Relay.send, fieldsFor, Fields.getAll_set_other _ htimeout]
  split
  · rw [Fields.getAll_set_other _ hid]
    rfl
  · rfl

theorem text?_stripped {name : String} (hnamed : ¬ NamedByConnection h name)
    (hhop : name ∉ "host" :: "content-length" :: hopNames) (host : FieldValue) :
    ((stripped h).set "host" host).text? name = h.text? name := by
  rw [List.mem_cons, List.mem_cons, not_or, not_or] at hhop
  obtain ⟨hhost, hlength, hhop⟩ := hhop
  rw [Fields.text?, Fields.text?, Fields.get?, Fields.get?,
    Fields.getAll_set_other _ (Ne.symm hhost), getAll_stripped hhost hlength,
    (getAll_stripHop h name).2 hhop hnamed]

/-- A gateway does to what a client is looked up in no more than putting its peer into the chain,
unless the sender has it dropped. -/
theorem SameOrigin.send (hchain : ¬ NamedByConnection h "x-forwarded-for")
    (hreal : ¬ NamedByConnection h "x-real-ip") (r : Relay) :
    SameOrigin (r.send h) (appendForwarded h r.peer) := by
  have hsame : SameOrigin ((stripped h).set "host" r.host) h :=
    ⟨text?_stripped hchain (by decide) r.host, text?_stripped hreal (by decide) r.host⟩
  have happend := hsame.append r.peer
  constructor
  · rw [← happend.1, Fields.text?, Fields.get?, getAll_send (by decide) (by decide)]
    rfl
  · rw [← happend.2, Fields.text?, Fields.get?, getAll_send (by decide) (by decide)]
    rfl

/-- What a gateway sends has no `Connection` lines. -/
theorem not_namedByConnection_send (h : Fields) (r : Relay) (name : String) :
    ¬ NamedByConnection (r.send h) name := by
  have hnone : (r.send h).getAll "connection" = [] := by
    rw [getAll_send (by decide) (by decide), appendForwarded_eq,
      Fields.getAll_set_other _ (by decide), Fields.getAll_set_other _ (by decide),
      getAll_stripped (by decide) (by decide)]
    exact (getAll_stripHop h "connection").1 (.inl (by decide))
  rintro ⟨line, hline, -⟩
  rw [hnone] at hline
  cases hline

theorem SpeaksFor.send (hs : SpeaksFor h ip) (hchain : ¬ NamedByConnection h "x-forwarded-for")
    (hreal : ¬ NamedByConnection h "x-real-ip") (relays : List Relay) :
    SpeaksFor (relays.foldl Relay.send h) ip := by
  induction relays generalizing h with
  | nil => exact hs
  | cons r rest ih =>
    refine ih ?_ (not_namedByConnection_send h r _) (not_namedByConnection_send h r _)
    exact (SameOrigin.send hchain hreal r).speaksFor (hs.append r.peer)

/-- **Who a request speaks for** — the gateway behind finds the same client whoever its peer is
exactly if the request keeps its client, and then every gateway of a chain finds it. The whole
requests that gateways send do as well as the chain alone, if the sender of the first one does not
have what names the client dropped. -/
theorem client_kept_iff (h : Fields) (p : SocketAddress) (hp : IsComplete p.ip) :
    ((∀ q, clientAddress (appendForwarded h p) q = clientAddress h p) ↔ KeepsClient h p) ∧
      (KeepsClient h p → ∀ (behind : List SocketAddress) q,
        clientAddress (behind.foldl appendForwarded (appendForwarded h p)) q = clientAddress h p) ∧
      (KeepsClient h p → ¬ NamedByConnection h "x-forwarded-for" →
        ¬ NamedByConnection h "x-real-ip" → ∀ (first : Relay) relays q, first.peer = p →
          clientAddress ((first :: relays).foldl Relay.send h) q = clientAddress h p) := by
  refine ⟨⟨keepsClient_of_forall hp, fun hk q => (hk.append hp).clientAddress q⟩, ?_, ?_⟩
  · intro hk behind q
    exact ((hk.append hp).foldl behind).clientAddress q
  · rintro hk hchain hreal first relays q rfl
    have hs := (SameOrigin.send hchain hreal first).speaksFor (hk.append hp)
    exact (hs.send (not_namedByConnection_send h first _) (not_namedByConnection_send h first _)
      relays).clientAddress q

/-- The first entry of the chain is blank, and `X-Real-IP` names the client all along. -/
theorem client_kept_iff_blank_entry :
    let p : SocketAddress := ⟨.v4 [10, 0, 0, 1], 4000⟩
    let h : Fields := ⟨[("connection", utf8 "close, x-secret".toList),
      ("x-forwarded-for", utf8 " , 10.1.1.1".toList), ("x-real-ip", utf8 "192.0.2.7".toList)]⟩
    let first : Relay := ⟨p, utf8 "a".toList, "id-1", 5000⟩
    IsComplete p.ip ∧ KeepsClient h p ∧ ¬ NamedByConnection h "x-forwarded-for" ∧
      ¬ NamedByConnection h "x-real-ip" ∧
      ∀ relays q, clientAddress ((first :: relays).foldl Relay.send h) q = "192.0.2.7" := by
  intro p h first
  have hstands : ChainStands h := ⟨" , 10.1.1.1", by decide +kernel, by decide +kernel⟩
  have hk : KeepsClient h p :=
    ⟨fun _ => .inr (by decide +kernel), fun hnot => absurd hstands hnot⟩
  have hchain : ¬ NamedByConnection h "x-forwarded-for" := by decide +kernel
  have hreal : ¬ NamedByConnection h "x-real-ip" := by decide +kernel
  refine ⟨rfl, hk, hchain, hreal, fun relays q => ?_⟩
  have hclient : clientAddress h p = "192.0.2.7" := by decide +kernel
  rw [← hclient]
  exact (client_kept_iff h p rfl).2.2 hk hchain hreal first relays q rfl

/-- The peer takes the place of the client that `X-Real-IP` names; and a client that is nowhere but
in the connection gets lost behind a blank entry. -/
theorem client_lost_behind_peer :
    let p : SocketAddress := ⟨.v4 [10, 0, 0, 1], 4000⟩
    let q : SocketAddress := ⟨.v4 [10, 0, 0, 2], 4000⟩
    let named : Fields := ⟨[("x-real-ip", utf8 "192.0.2.7".toList)]⟩
    let blank : Fields := ⟨[("x-forwarded-for", utf8 ", 10.1.1.1".toList)]⟩
    (clientAddress named p = "192.0.2.7" ∧
      clientAddress (appendForwarded named p) q = "10.0.0.1") ∧
    (clientAddress blank p = "10.0.0.1" ∧
      clientAddress (appendForwarded blank p) q = "10.0.0.2") ∧
    ¬ ∀ h p q, clientAddress (appendForwarded h p) q = clientAddress h p := by
  intro p q named blank
  have hnamed : clientAddress named p = "192.0.2.7" := by decide +kernel
  have happended : clientAddress (appendForwarded named p) q = "10.0.0.1" := by decide +kernel
  refine ⟨⟨hnamed, happended⟩, ⟨by decide +kernel, by decide +kernel⟩, fun hall => ?_⟩
  have heq := hall named p q
  rw [hnamed, happended] at heq
  exact absurd heq (by decide)

end HttpGateway.Forward
