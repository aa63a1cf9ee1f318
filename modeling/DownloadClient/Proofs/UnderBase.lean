import DownloadClient.Proofs.Endpoint
import DownloadClient.Proofs.OnTheWire
import DownloadClient.Proofs.PlainBase

/-! Calls under a plain base: every operation is served at the text of the base with its path
behind it, and that is where its request goes, as long as an address may be that long. -/

namespace DownloadClient.Client

open DownloadClient.Session DownloadClient.Text DownloadClient.Web

section Under

variable (b : PlainBase) (k : Nat) (op : Operation)

theorem segment_name : Segment op.name.toList := by
  cases op <;> constructor <;> simp [Operation.name, isSegmentChar, Char.isAlphanum, Char.isAlpha,
    Char.isLower]

def under : PlainBase :=
  { b with
    segments := b.segments ++ ["api".toList, op.name.toList]
    plain := by
      refine List.forall_mem_append.2 ⟨b.plain, List.forall_mem_cons.2 ⟨?_, ?_⟩⟩
      · constructor <;> simp [isSegmentChar, Char.isAlphanum, Char.isAlpha, Char.isLower]
      · exact List.forall_mem_cons.2 ⟨segment_name op, nofun⟩ }

theorem root_under : (under b op).root = b.root ++ op.path.toList := by
  simp [under, PlainBase.root, PlainBase.place, PlainBase.host, PlainBase.portText, PlainBase.path,
    Operation.path]

theorem toList_endpointText_text :
    (endpointText (b.text k) op.path).toList = (under b op).root := by
  have ne : b.root ≠ [] := by simp [PlainBase.root]
  obtain ⟨front, c, e⟩ := (List.eq_nil_or_concat' b.root).resolve_left ne
  have solid : c ≠ '/' := b.getLast?_root c (by simp [e])
  have bare : (b.text k).toList.reverse.dropWhile (· == '/') = b.root.reverse := by
    rw [PlainBase.text, String.toList_ofList, List.reverse_append, List.reverse_replicate,
      List.dropWhile_append_of_pos (by simp), e]
    simp [solid]
  rw [toList_endpointText, bare, List.reverse_reverse, root_under]
  simp [Operation.path]

theorem ofString_endpointText :
    Address.ofString (endpointText (b.text k) op.path) = .ok (under b op).address := by
  rw [Address.ofString, toList_endpointText_text]
  exact (under b op).parse_root (by simp [under])

theorem endpoint_text : endpoint (b.text k) op.path = .ok (under b op).address := by
  rw [endpoint, ofString_endpointText]
  rfl

end Under

def asking : (op : Operation) → op.Request → List Char
  | .remoteList, r => '?' :: Form.encodePair "path".toList (Api.ListRequest.path r).toList
  | .login, _ => []
  | .downloadBegin, _ => []
  | .downloadPause, _ => []
  | .downloadResume, _ => []
  | .downloadRemove, _ => []
  | .downloadStatus, _ => []

def destination (b : PlainBase) (op : Operation) (r : op.Request) : List Char :=
  b.root ++ op.path.toList ++ asking op r

theorem anonymous_address (b : PlainBase) : anonymous b.address = b.address := by
  unfold anonymous
  split <;> rfl

theorem target_located_address (b : PlainBase) (op : Operation) (r : op.Request) :
    (located op r b.address).target = located op r b.address := by
  cases op <;> rfl

theorem text_located_address (b : PlainBase) (op : Operation) (r : op.Request) :
    (located op r b.address).text = b.root ++ asking op r := by
  rw [← b.text_address]
  cases op with
  | remoteList =>
    simp [located, asking, PlainBase.address, Address.text, Address.hierarchy, Address.tail,
      Form.append]
  | _ => simp [located, asking]

theorem sendable_under_iff (b : PlainBase) (op : Operation) (r : op.Request) :
    Sendable op r (under b op).address ↔ (destination b op r).length ≤ longestAddress := by
  have text : (located op r (anonymous (under b op).address)).text = destination b op r := by
    rw [anonymous_address, text_located_address, root_under, destination]
  constructor
  · intro h
    rw [← text]
    exact h.length
  · intro h
    refine ⟨.inl rfl, nofun, fun x hx hm => ?_, text ▸ h⟩
    have plain := ((under b op).inert_of_mem_host hm).path
    have coded : ∀ x ∈ ['"', '\x60', '{', '}'], pathSet x = true := by
      simp [pathSet, fragmentSet]
    exact absurd (coded x hx) (by simp [plain])

section Call

variable {b : PlainBase} {k : Nat} {c : Configuration} {op : Operation} (r : op.Request)
  (own : Option Duration) (replies : List Reply)

theorem received_at_destination [Locator] (base : c.baseUrl = b.text k) (token : TokenSendable c)
    (short : (destination b op r).length ≤ longestAddress) :
    ∃ q, (call c op r own (.scripted replies)).received = [q] ∧
      q.url.text = destination b op r := by
  have parsed : Address.ofString (endpointText c.baseUrl op.path) = .ok (under b op).address :=
    base ▸ ofString_endpointText b k op
  obtain ⟨header, hb⟩ := bearer_of_sendable token
  have sent := addressed_of_sendable ((sendable_under_iff b op r).2 short)
  rw [anonymous_address] at sent
  have url (header : Option String) :
      (carried op r (located op r (under b op).address) header).url =
        located op r (under b op).address := by
    unfold carried
    split <;> exact target_located_address _ op r
  refine ⟨carried op r (located op r (under b op).address)
    ((basic? (under b op).address).or header), ?_, ?_⟩
  · rw [call, prepare_of_parsed r parsed, hb, sent]
    exact received_exchange _ _ replies
  · rw [url, text_located_address, root_under, destination]

theorem received_eq_nil_of_far [Locator] (base : c.baseUrl = b.text k)
    (long : longestAddress < (destination b op r).length) :
    (call c op r own (.scripted replies)).received = [] := by
  have prepares := prepares_prepare c op r
  rw [call]
  generalize prepare c op r = prepared at prepares
  cases prepares with
  | @ready u _ ready =>
    have parsed := base ▸ ofString_endpointText b k op
    obtain rfl : u = (under b op).address := Except.ok.inj (ready.parsed.symm.trans parsed)
    have short := (sendable_under_iff b op r).1 ready.sendable
    omega
  | _ => rfl

end Call

/-- Under a plain base every endpoint is the text of the base, however many slashes end it, with
the path of the operation behind it. Requests go there, unless that is too far to write. -/
theorem served_under_base [Locator] (b : PlainBase) (k : Nat) :
    (∀ op : Operation, ∃ u, endpoint (b.text k) op.path = .ok u ∧
      u.text = b.root ++ op.path.toList) ∧
    ∀ (c : Configuration) (op : Operation) (r : op.Request) (own : Option Duration)
      (replies : List Reply), c.baseUrl = b.text k → TokenSendable c →
      ((∃ q, (call c op r own (.scripted replies)).received = [q] ∧
          q.url.text = destination b op r) ↔ (destination b op r).length ≤ longestAddress) := by
  constructor
  · intro op
    refine ⟨_, endpoint_text b k op, ?_⟩
    rw [PlainBase.text_address, root_under]
  · intro c op r own replies base token
    refine ⟨?_, received_at_destination r own replies base token⟩
    rintro ⟨q, hq, -⟩
    by_contra long
    rw [received_eq_nil_of_far r own replies base (not_le.1 long)] at hq
    cases hq

def driveBase : PlainBase where
  labels := ["a".toList, "example".toList]
  port := some 8080
  segments := ["pik~pak".toList]
  named := nofun
  lower := by simp [Char.isLower]
  numbered := by simp
  plain := by
    refine List.forall_mem_singleton.2 ?_
    constructor <;> simp [isSegmentChar, Char.isAlphanum, Char.isAlpha, Char.isLower]

theorem listing_under_base :
    letI := Locator.atEnd
    ∃ q, (call (.of "http://a.example:8080/pik~pak//" none none) .remoteList ⟨"/a b"⟩ none
        (.scripted [])).received = [q] ∧
      q.url.toString = "http://a.example:8080/pik~pak/api/remote_list?path=%2Fa+b" := by
  let := Locator.atEnd
  have text : "http://a.example:8080/pik~pak//" = driveBase.text 2 := by decide +kernel
  have there : destination driveBase .remoteList ⟨"/a b"⟩ =
      "http://a.example:8080/pik~pak/api/remote_list?path=%2Fa+b".toList := by decide +kernel
  obtain ⟨q, hq, url⟩ := ((served_under_base driveBase 2).2 (.of _ none none) .remoteList
    ⟨"/a b"⟩ none [] text (tokenSendable_of_none _)).2 (by rw [there]; decide)
  refine ⟨q, hq, ?_⟩
  rw [Address.toString, url, there, String.ofList_toList]

def longBase (n : Nat) : PlainBase where
  labels := ["a".toList, "example".toList]
  port := none
  segments := [List.replicate (n + 1) 'a']
  named := nofun
  lower := by simp [Char.isLower]
  numbered := nofun
  plain := by
    refine List.forall_mem_singleton.2 ⟨fun c hc => ?_, nofun, nofun, nofun⟩
    rw [List.eq_of_mem_replicate hc]
    decide

theorem long_base_not_received :
    letI := Locator.atEnd
    ∃ b : PlainBase, b.text 0 = "http://a.example/" ++ String.ofList (List.replicate 65535 'a') ∧
      (∃ u, endpoint (b.text 0) Operation.downloadPause.path = .ok u) ∧
      TokenSendable (.of (b.text 0) none none) ∧
      ∀ replies, (call (.of (b.text 0) none none) .downloadPause ⟨"f"⟩ none
        (.scripted replies)).received = [] := by
  let := Locator.atEnd
  have text (n : Nat) : (longBase n).text 0 =
      "http://a.example/" ++ String.ofList (List.replicate (n + 1) 'a') := by
    refine String.toList_inj.1 ?_
    simp [longBase, PlainBase.text, PlainBase.root, PlainBase.place, PlainBase.host,
      PlainBase.portText, PlainBase.path]
  have long (n : Nat) : n < (destination (longBase n) .downloadPause ⟨"f"⟩).length := by
    simp [destination, PlainBase.root, PlainBase.path, longBase]
    omega
  have unsent (n : Nat) (h : longestAddress ≤ n) (replies : List Reply) :
      (call (.of ((longBase n).text 0) none none) .downloadPause ⟨"f"⟩ none
        (.scripted replies)).received = [] :=
    received_eq_nil_of_far _ none replies rfl (h.trans_lt (long n))
  exact ⟨longBase 65534, text _, ⟨_, endpoint_text _ 0 _⟩, tokenSendable_of_none _,
    unsent _ (le_refl _)⟩

end DownloadClient.Client
