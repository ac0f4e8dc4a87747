/-
The fields of requests to instances.

* `forwardedChain_readable`, `getLast?_forwardedChain` — the chain of addresses is a text whose
  last entry is the peer.
* `hostField_printable` — the host of an instance can be the value of a field.
* **Clean** — what the fields of a request to an instance hold: each of the gateway's own fields
  once, nothing that concerns the connection to the client only, and all else as it came.
* `ofRequest_clean` — every request to an instance has such fields.

A client may name any field in its `Connection` lines, those of the gateway among them. They come
to no harm, since the gateway puts them in only after it has dropped what is named.
-/
import HttpGateway.Forward.Outbound
import HttpGateway.Proofs.Http.Field
import HttpGateway.Proofs.Text.Trimmed
import HttpGateway.Proofs.Url.Host

namespace HttpGateway.Forward.Outbound

open Http Net Route Settings Text

variable {c : Char} {h inbound : Fields} {peer : SocketAddress} {i : Instance}

/-! ### The chain of addresses -/

theorem addressText_chars {ip : IpAddress} (hc : c ∈ (addressText ip).toList) :
    IsReadable c ∧ c ≠ ',' ∧ isBlank c = false := by
  have hall : ∀ d ∈ addressChars, IsReadable d ∧ d ≠ ',' ∧ isBlank d = false :=
    forall_mem_of_all (by decide)
  rw [addressText, String.toList_ofList] at hc
  exact hall c (of_mem_ipText hc)

/-- The last of the entries, where what follows the last comma is an address behind blanks. -/
theorem getLast?_commaEntries {s : String} (before blanks : List Char) {ip : IpAddress}
    (hs : s.toList = before ++ (blanks ++ (addressText ip).toList))
    (hbefore : before = [] ∨ ∃ chain, before = chain ++ [','])
    (hblanks : ∀ c ∈ blanks, isBlank c = true ∧ c ≠ ',') :
    (commaEntries s).getLast? = some (addressText ip) := by
  have hentry : trim (blanks ++ (addressText ip).toList) = (addressText ip).toList :=
    trim_append (fun c hc => (hblanks c hc).1) fun c hc => (addressText_chars hc).2.2
  have hnone : ',' ∉ blanks ++ (addressText ip).toList := by
    intro hmem
    rcases List.mem_append.mp hmem with hmem | hmem
    · exact (hblanks _ hmem).2 rfl
    · exact (addressText_chars hmem).2.1 rfl
  -- Within the entry there is no comma, so the last one is the one in front of it.
  have hlast : (s.toList.splitOn ',').getLast? = some (blanks ++ (addressText ip).toList) := by
    rcases hbefore with rfl | ⟨chain, rfl⟩
    · rw [hs, List.nil_append, List.splitOn_eq_singleton hnone]
      rfl
    · rw [hs, List.append_assoc, List.singleton_append, List.splitOn_append_cons_self,
        List.splitOn_eq_singleton hnone, List.getLast?_append]
      rfl
  rw [commaEntries, List.getLast?_map, hlast, Option.map_some, hentry, String.ofList_toList]

/-- The chain is that of the client and the peer, or the peer alone. -/
theorem forwardedChain_cases (h : Fields) (peer : SocketAddress) :
    forwardedChain h peer = addressText peer.ip ∨
      ∃ chain, (∀ c ∈ chain.toList, IsReadable c) ∧
        forwardedChain h peer = chain ++ ", " ++ addressText peer.ip := by
  unfold forwardedChain
  split
  · next chain hchain =>
    split
    · exact .inl rfl
    · obtain ⟨v, -, hv⟩ := Option.bind_eq_some_iff.mp hchain
      exact .inr ⟨chain, FieldValue.readable_of_text? hv, rfl⟩
  · exact .inl rfl

theorem forwardedChain_readable (h : Fields) (peer : SocketAddress)
    (hc : c ∈ (forwardedChain h peer).toList) : IsReadable c := by
  have hcomma : ∀ d ∈ ", ".toList, IsReadable d := forall_mem_of_all (by decide)
  rcases forwardedChain_cases h peer with heq | ⟨chain, hchain, heq⟩
  · rw [heq] at hc
    exact (addressText_chars hc).1
  · rw [heq, String.toList_append, String.toList_append] at hc
    rcases List.mem_append.mp hc with hc | hc
    · rcases List.mem_append.mp hc with hc | hc
      · exact hchain c hc
      · exact hcomma c hc
    · exact (addressText_chars hc).1

theorem getLast?_forwardedChain (h : Fields) (peer : SocketAddress) :
    (commaEntries (forwardedChain h peer)).getLast? = some (addressText peer.ip) := by
  rcases forwardedChain_cases h peer with heq | ⟨chain, -, heq⟩
  · exact getLast?_commaEntries [] [] (by rw [heq]; rfl) (.inl rfl)
      (by simp)
  · refine getLast?_commaEntries (chain.toList ++ [',']) [' '] ?_
      (.inr ⟨_, rfl⟩) (forall_mem_of_all (by decide))
    rw [heq, String.toList_append, String.toList_append, List.append_assoc, List.append_assoc]
    rfl

theorem appendForwarded_eq (h : Fields) (peer : SocketAddress) :
    appendForwarded h peer = h.set "x-forwarded-for" (utf8 (forwardedChain h peer).toList) := by
  have hvalue := FieldValue.ofText?_of_printable (s := (forwardedChain h peer).toList)
    fun c hc => (forwardedChain_readable h peer hc).printable
  rw [String.ofList_toList] at hvalue
  rw [appendForwarded, hvalue]

/-! ### The host of an instance -/

theorem toString_readable {n : Nat} (hc : c ∈ (toString n).toList) : IsReadable c := by
  rw [Nat.toString_eq_repr, Nat.repr_eq_ofList_toDigits, String.toList_ofList] at hc
  have hdigit := Nat.isDigit_of_mem_toDigits (by decide) (by decide) hc
  rw [Char.isDigit_iff_toNat] at hdigit
  have hlow : 48 ≤ c.toNat := hdigit.1
  have hhigh : c.toNat ≤ 57 := hdigit.2
  unfold IsReadable
  omega

theorem of_ofSpec {spec : InstanceSpec} (hspec : Instance.ofSpec spec = .ok i) :
    ∃ u host, Url.parse spec.url.toList = .ok u ∧ u.host = some host ∧
      i.host = String.ofList host.text ∧ i.health = .given spec.healthy := by
  rw [Instance.ofSpec] at hspec
  split at hspec
  · cases hspec
  next u hparse =>
    split at hspec
    · cases hspec
    next host hhost =>
      split at hspec
      · cases hspec
      · rw [← Except.ok.inj hspec]
        exact ⟨u, host, hparse, hhost, rfl, rfl⟩

theorem hostField_printable {spec : InstanceSpec} (hspec : Instance.ofSpec spec = .ok i)
    (hc : c ∈ i.hostField.toList) : IsPrintable c := by
  have hhost : ∀ c ∈ i.host.toList, IsPrintable c := by
    obtain ⟨u, host, hparse, hhost, htext, -⟩ := of_ofSpec hspec
    rw [htext, String.toList_ofList]
    intro c hc
    have hcontrol := Url.parse_host hparse hhost hc
    rw [Url.Percent.controlSet, Bool.or_eq_false_iff, decide_eq_false_iff_not, Nat.not_lt,
      beq_eq_false_iff_ne] at hcontrol
    exact .inl hcontrol
  rw [Instance.hostField] at hc
  split at hc
  · rw [String.toList_append, String.toList_append] at hc
    rcases List.mem_append.mp hc with hc | hc
    · rcases List.mem_append.mp hc with hc | hc
      · exact hhost c hc
      · exact forall_mem_of_all (s := ":".toList) (by decide) c hc
    · exact (toString_readable hc).printable
  · exact hhost c hc

/-! ### The fields that are sent -/

/-- The fields that the gateway puts in itself. -/
def ownNames : List String := ["host", "x-forwarded-for", "x-request-id", "x-request-timeout"]

/-- Whether a field of the client is passed on as it is: it is none of the gateway's own, does not
give the length of the body, and does not concern the connection to the client only. -/
def PassesOn (inbound : Fields) (name : String) : Prop :=
  name ∉ ownNames ∧ name ≠ "content-length" ∧ name ∉ hopNames ∧ ¬ NamedByConnection inbound name

instance (inbound : Fields) (name : String) : Decidable (PassesOn inbound name) :=
  inferInstanceAs (Decidable (_ ∧ _ ∧ _ ∧ ¬ _))

/-- What the fields of a request to an instance hold. -/
structure Clean (inbound : Fields) (i : Instance) (peer : SocketAddress) (requestId : String)
    (timeoutMs : UInt64) (sent : Fields) : Prop where
  host : sent.getAll "host" = [utf8 i.hostField.toList]
  id : sent.getAll "x-request-id" = [utf8 requestId.toList]
  timeout : sent.getAll "x-request-timeout" = [utf8 (toString timeoutMs).toList]
  forwarded : ∃ v chain, sent.getAll "x-forwarded-for" = [v] ∧ v.text? = some chain ∧
    (commaEntries chain).getLast? = some (addressText peer.ip)
  length : sent.getAll "content-length" = []
  hop : ∀ name ∈ hopNames, sent.getAll name = []
  named : ∀ name, NamedByConnection inbound name → name ∉ ownNames → sent.getAll name = []
  others : ∀ name, PassesOn inbound name → sent.getAll name = inbound.getAll name

variable {requestId : String} {timeoutMs : UInt64} {host : FieldValue}

theorem ofAscii_toString (n : UInt64) :
    FieldValue.ofAscii (toString n) = utf8 (toString n).toList := by
  have hascii : ∀ c ∈ (toString n).toList, c.toNat ≤ 0x7f := by
    intro c hc
    change c ∈ (toString n.toNat).toList at hc
    have hreadable := toString_readable hc
    unfold IsReadable at hreadable
    omega
  rw [FieldValue.utf8_ascii hascii]
  rfl

/-- What is left of the client's fields when the gateway puts in its own. -/
def stripped (inbound : Fields) : Fields :=
  ((stripHop inbound).erase "host").erase "content-length"

/-- The gateway's own fields are put in one after the other, each in place of all its lines. -/
theorem fieldsFor_eq (inbound : Fields) (host : FieldValue) (peer : SocketAddress)
    (timeoutMs : UInt64) {id : FieldValue} (hid : FieldValue.ofText? requestId = some id) :
    ∃ chain, (∀ c ∈ chain.toList, IsReadable c) ∧
      (commaEntries chain).getLast? = some (addressText peer.ip) ∧
      fieldsFor inbound host peer requestId timeoutMs =
        ((((stripped inbound).set "host" host).set "x-forwarded-for" (utf8 chain.toList)).set
          "x-request-id" id).set "x-request-timeout" (utf8 (toString timeoutMs).toList) := by
  refine ⟨_, fun c hc => forwardedChain_readable ((stripped inbound).set "host" host) peer hc,
    getLast?_forwardedChain _ peer, ?_⟩
  rw [fieldsFor, hid, appendForwarded_eq, ofAscii_toString]
  rfl

/-- Only the gateway's own fields are put in, so all else is as it was stripped. -/
theorem getAll_fieldsFor_other {name : String} {id : FieldValue}
    (hid : FieldValue.ofText? requestId = some id) (hname : name ∉ ownNames) :
    (fieldsFor inbound host peer requestId timeoutMs).getAll name =
      (stripped inbound).getAll name := by
  have hne : ∀ own ∈ ownNames, own ≠ name := fun own hown heq => hname (heq ▸ hown)
  obtain ⟨chain, -, -, heq⟩ := fieldsFor_eq inbound host peer timeoutMs hid
  rw [heq, Fields.getAll_set_other _ (hne "x-request-timeout" (by decide)),
    Fields.getAll_set_other _ (hne "x-request-id" (by decide)),
    Fields.getAll_set_other _ (hne "x-forwarded-for" (by decide)),
    Fields.getAll_set_other _ (hne "host" (by decide))]

theorem getAll_stripped {name : String} (hhost : name ≠ "host") (hlength : name ≠ "content-length") :
    (stripped inbound).getAll name = (stripHop inbound).getAll name := by
  rw [stripped, Fields.getAll_erase_other _ (Ne.symm hlength),
    Fields.getAll_erase_other _ (Ne.symm hhost)]

theorem fieldsFor_clean {id : FieldValue} (hid : FieldValue.ofText? requestId = some id)
    (hhost : FieldValue.ofText? i.hostField = some host) :
    Clean inbound i peer requestId timeoutMs (fieldsFor inbound host peer requestId timeoutMs) := by
  obtain ⟨chain, hchain, hlast, heq⟩ := fieldsFor_eq inbound host peer timeoutMs hid
  have hother : ∀ name, name ∉ ownNames →
      (fieldsFor inbound host peer requestId timeoutMs).getAll name =
        (stripped inbound).getAll name := fun name => getAll_fieldsFor_other hid
  -- What concerns the connection only is gone before the gateway's own fields are put in.
  have hgone : ∀ name, name ∈ hopNames ∨ NamedByConnection inbound name → name ∉ ownNames →
      (fieldsFor inbound host peer requestId timeoutMs).getAll name = [] := by
    intro name hdrop hname
    rw [hother name hname]
    have hnone := (getAll_stripHop inbound name).1 hdrop
    exact Fields.getAll_erase_nil (Fields.getAll_erase_nil hnone "host") "content-length"
  constructor
  case host =>
    rw [heq, Fields.getAll_set_other _ (by decide), Fields.getAll_set_other _ (by decide),
      Fields.getAll_set_other _ (by decide), Fields.getAll_set_self,
      FieldValue.eq_utf8_of_ofText? hhost]
  case id =>
    rw [heq, Fields.getAll_set_other _ (by decide), Fields.getAll_set_self,
      FieldValue.eq_utf8_of_ofText? hid]
  case timeout => rw [heq, Fields.getAll_set_self]
  case forwarded =>
    refine ⟨utf8 chain.toList, chain, ?_, ?_, hlast⟩
    · rw [heq, Fields.getAll_set_other _ (by decide), Fields.getAll_set_other _ (by decide),
        Fields.getAll_set_self]
    · rw [FieldValue.text?_utf8 hchain, String.ofList_toList]
  case length =>
    rw [hother "content-length" (by decide)]
    exact Fields.getAll_erase_self ..
  case hop =>
    intro name hname
    exact hgone name (.inl hname) ((by decide : ∀ name ∈ hopNames, name ∉ ownNames) name hname)
  case named => exact fun name hname => hgone name (.inr hname)
  case others =>
    rintro name ⟨hown, hlength, hhop, hnamed⟩
    -- Neither what is dropped nor what is put in has this name.
    have hhost : name ≠ "host" := by
      rintro rfl
      exact hown (by decide)
    rw [hother name hown, getAll_stripped hhost hlength]
    exact (getAll_stripHop inbound name).2 hhop hnamed

/-- **Fields of requests to instances** — whatever the client sends, an instance that was read from
its settings gets a request, and whenever an instance gets one, its fields are clean. -/
theorem ofRequest_clean (method : String) (target : Target) (inbound : Fields) (body : ByteArray)
    (depth : Nat) (i : Instance) (peer : SocketAddress) (requestId : String) (timeoutMs : UInt64)
    (hid : (FieldValue.ofText? requestId).isSome = true) :
    ((∃ spec health, Instance.ofSpec spec = .ok { i with health }) →
      ∃ r, ofRequest method target inbound body depth i peer requestId timeoutMs = .ok r) ∧
    ∀ r, ofRequest method target inbound body depth i peer requestId timeoutMs = .ok r →
      Clean inbound i peer requestId timeoutMs r.fields := by
  obtain ⟨id, hid⟩ := Option.isSome_iff_exists.mp hid
  constructor
  · rintro ⟨spec, health, hspec⟩
    have hvalue := FieldValue.ofText?_of_printable (s := i.hostField.toList)
      fun c hc => hostField_printable hspec hc
    rw [String.ofList_toList] at hvalue
    rw [ofRequest, hvalue]
    exact ⟨_, rfl⟩
  · intro r hr
    rw [ofRequest] at hr
    cases hhost : FieldValue.ofText? i.hostField with
    | none =>
      rw [hhost] at hr
      cases hr
    | some host =>
      rw [hhost] at hr
      rw [← Except.ok.inj hr]
      exact fieldsFor_clean hid hhost

/-- The fields of a client that names fields in two lines, those of the gateway among them, and in
a third line that is no text. -/
def meddling : Fields :=
  ⟨[("connection", utf8 "close, Host, X-Forwarded-For".toList),
    ("x-custom", utf8 "one".toList),
    ("connection", utf8 "x-secret".toList),
    ("connection", [0xff]),
    ("host", utf8 "elsewhere".toList),
    ("x-forwarded-for", utf8 "10.0.0.1".toList),
    ("x-secret", utf8 "hidden".toList),
    ("content-length", utf8 "12".toList),
    ("x-custom", utf8 "two".toList)]⟩

theorem ofRequest_clean_meddling :
    ∃ i r, Instance.ofSpec { serviceId := "a", url := "http://[::1]:9000" } = .ok i ∧
      ofRequest "GET" ⟨none, none, "/a".toList, none⟩ meddling .empty 1 i ⟨.v4 [10, 0, 0, 2], 4000⟩
        "id-1" 5000 = .ok r ∧
      Clean meddling i ⟨.v4 [10, 0, 0, 2], 4000⟩ "id-1" 5000 r.fields ∧
      r.fields.getAll "x-secret" = [] ∧
      r.fields.getAll "x-custom" = [utf8 "one".toList, utf8 "two".toList] := by
  have hspec : (Instance.ofSpec { serviceId := "a", url := "http://[::1]:9000" }).toOption.isSome =
      true := by decide
  cases hi : Instance.ofSpec { serviceId := "a", url := "http://[::1]:9000" } with
  | error e =>
    rw [hi] at hspec
    cases hspec
  | ok i =>
    have hsent := ofRequest_clean "GET" ⟨none, none, "/a".toList, none⟩ meddling .empty 1 i
      ⟨.v4 [10, 0, 0, 2], 4000⟩ "id-1" 5000 (by decide)
    obtain ⟨r, hr⟩ := hsent.1 ⟨_, i.health, hi⟩
    have hclean := hsent.2 r hr
    refine ⟨i, r, rfl, hr, hclean, hclean.named "x-secret" (by decide) (by decide), ?_⟩
    rw [hclean.others "x-custom" (by decide)]
    rfl

end HttpGateway.Forward.Outbound
