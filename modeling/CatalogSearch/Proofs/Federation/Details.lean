import CatalogSearch.Proofs.Federation.Engaged
import CatalogSearch.Proofs.Federation.Queries
import CatalogSearch.Proofs.Gateway.Exchange

/-! # How asking for one item ends

One item is asked for at one source, in one call that takes a request for each redirect more than
the one it starts with. Whatever goes wrong is told to the caller, and there is one failure for each
way in which it goes wrong: with what the caller asks for, with the URL of the source, or with what
the source does. Only the last is a failure of the source.

* **`Source.DetailsFault`**: what can be wrong with the URL of an item;
* **`Gateway.AnswerEnd`**: what an answer comes to;
* **`Gateway.CallEnd`**: what a call comes to, with an answer in the end or without;
* **`Federation.DetailsEnd`**: how asking for one item ends, and what is sent for it;
* **`Federation.details_ends`**: it ends in one of these ways, and as they say. -/

namespace CatalogSearch

/-! ## The URL of an item -/

/-- A segment is added to every path that has segments, and to no other. -/
theorem Url.pushSegment?_eq_none_iff {u : Url} {cs : List Char} :
    u.pushSegment? cs = none ↔ ∃ text, u.path = .plain text := by
  rw [pushSegment?, Option.map_eq_none_iff]
  cases u.path with
  | segments all =>
    refine iff_of_false ?_ ?_
    · unfold UrlPath.push?
      by_cases hadds : UrlPath.addsNothing cs
      · simp only [if_pos hadds, reduceCtorEq, not_false_eq_true]
      · simp only [if_neg hadds, reduceCtorEq, not_false_eq_true]
    · rintro ⟨text, ⟨⟩⟩
  | plain text => exact iff_of_true rfl ⟨text, rfl⟩

namespace Source

variable {st : Gateway.Settings} {s : Source} {itemId : String} {e : Failure}

/-- Where the items of a source are, as a text. -/
def detailsText (st : Gateway.Settings) (s : Source) : List Char :=
  joinPath s.detailsBaseUrl.toList st.detailsPath.toList

/-- **What can be wrong with the URL of an item**: base and path are no URL, or one whose path has
no segments. -/
inductive DetailsFault (st : Gateway.Settings) (s : Source) : Failure → Prop where
  | unreadable (fault : UrlFault) (hread : Url.read (s.detailsText st) = .error fault) :
    DetailsFault st s (.invalidSourceUrl s.displayName
      (.unreadable (String.ofList (s.detailsText st)) fault))
  | pathless (u : Url) (text : List Char) (hread : Url.read (s.detailsText st) = .ok u)
      (hpath : u.path = .plain text) :
    DetailsFault st s (.invalidSourceUrl s.displayName .pathless)

/-- **There are no other ways** in which the URL of an item fails to be made up. -/
theorem detailsUrl_eq_error_iff : s.detailsUrl st itemId = .error e ↔ s.DetailsFault st e := by
  rw [detailsUrl, bind_eq_error_iff, endpoint_eq_error_iff]
  constructor
  · rintro (⟨fault, hread, rfl⟩ | ⟨u, hread, h⟩)
    · exact .unreadable fault hread
    · split at h
      · cases h
      · next hpush =>
        cases h
        obtain ⟨text, hpath⟩ := Url.pushSegment?_eq_none_iff.mp hpush
        exact .pathless u text (mapError_eq_ok_iff.mp hread) hpath
  · rintro (⟨fault, hread⟩ | ⟨u, text, hread, hpath⟩)
    · exact Or.inl ⟨fault, hread, rfl⟩
    · refine Or.inr ⟨u, mapError_eq_ok_iff.mpr hread, ?_⟩
      rw [Url.pushSegment?_eq_none_iff.mpr ⟨text, hpath⟩]

end Source

/-! ## Answers -/

/-- **A body that spells a resource.** It need not be a text throughout: bytes that belong to no
character do not matter in strings that are passed over. -/
def Resource.SpelledBy (r : Resource) (bytes : List UInt8) : Prop :=
  Resource.codec.readBytes bytes = .ok r

/-- The bytes of a text spell what the text stands for. -/
theorem Resource.spelledBy_encode {r : Resource} {cs : List Char} :
    r.SpelledBy (Text.Utf8.encode cs) ↔ codec.readText cs = .ok r := by
  rw [SpelledBy, Codec.readBytes_encode]

/-- A success, told by its number. -/
theorem Status.isSuccess_iff {s : Status} :
    s.isSuccess = true ↔ 200 ≤ s.code ∧ s.code < 300 := by
  simp only [isSuccess, Bool.and_eq_true, decide_eq_true_eq]

/-- A wrong request, told by its number. -/
theorem Status.isClientError_iff {s : Status} :
    s.isClientError = true ↔ 400 ≤ s.code ∧ s.code < 500 := by
  simp only [isClientError, Bool.and_eq_true, decide_eq_true_eq]

namespace Gateway

variable {g : Gateway} {s : Source} {itemId : String} {r : Response}
  {x : Except Failure Resource} {u : Url}

/-- **What an answer to the request for an item comes to.** -/
inductive AnswerEnd (s : Source) (itemId : String) (r : Response) :
    Except Failure Resource → Prop where
  /-- There is no such item, whatever the body, and whether or not it breaks off. -/
  | missing (hlow : 400 ≤ r.status.code) (hhigh : r.status.code < 500) :
    AnswerEnd s itemId r (.error (.itemNotFound s.id itemId))
  /-- The source says that something else went wrong, whatever the body. -/
  | refused (hmissing : r.status.code < 400 ∨ 500 ≤ r.status.code)
      (hsuccess : r.status.code < 200 ∨ 300 ≤ r.status.code) :
    AnswerEnd s itemId r (.error (.sourceUnavailable s.displayName (.status r.status)))
  /-- The body of a success breaks off. -/
  | truncated (hlow : 200 ≤ r.status.code) (hhigh : r.status.code < 300) (hbody : r.body = none) :
    AnswerEnd s itemId r (.error (.sourceUnavailable s.displayName .interrupted))
  /-- The body of a success is no resource. -/
  | undecodable (bytes : List UInt8) (hlow : 200 ≤ r.status.code) (hhigh : r.status.code < 300)
      (hbody : r.body = some bytes) (hitem : ∀ item, ¬ Resource.SpelledBy item bytes) :
    AnswerEnd s itemId r (.error (.sourceBadResponse s.displayName))
  /-- The body of a success is the item. -/
  | item (bytes : List UInt8) (item : Resource) (hlow : 200 ≤ r.status.code)
      (hhigh : r.status.code < 300) (hbody : r.body = some bytes) (hitem : item.SpelledBy bytes) :
    AnswerEnd s itemId r (.ok (item.stamp s))

/-- The body of a success is read. -/
theorem readItem_of_isSuccess (hstatus : r.status.isSuccess = true) :
    readItem s itemId r = (readBody s Resource.codec.readBytes r).map (Resource.stamp s) := by
  rw [readItem, Status.not_isClientError_of_isSuccess hstatus]
  rfl

/-- An answer comes to what is read of it. -/
theorem AnswerEnd.readItem_eq (h : AnswerEnd s itemId r x) : readItem s itemId r = x := by
  cases h with
  | missing hlow hhigh => rw [readItem, if_pos (Status.isClientError_iff.mpr ⟨hlow, hhigh⟩)]
  | refused hmissing hsuccess =>
    have hclient : ¬ r.status.isClientError = true := by
      rw [Status.isClientError_iff]
      omega
    have hstatus : ¬ r.status.isSuccess = true := by
      rw [Status.isSuccess_iff]
      omega
    rw [readItem, if_neg hclient, readBody_of_refused s _ hstatus]
    rfl
  | truncated hlow hhigh hbody =>
    have hstatus := Status.isSuccess_iff.mpr ⟨hlow, hhigh⟩
    rw [readItem_of_isSuccess hstatus, readBody_of_truncated s _ hstatus hbody]
    rfl
  | undecodable bytes hlow hhigh hbody hitem =>
    have hstatus := Status.isSuccess_iff.mpr ⟨hlow, hhigh⟩
    rw [readItem_of_isSuccess hstatus, readBody_of_body s _ hstatus hbody]
    cases hread : Resource.codec.readBytes bytes with
    | error e => rfl
    | ok item => exact absurd hread (hitem item)
  | item bytes item hlow hhigh hbody hitem =>
    have hstatus := Status.isSuccess_iff.mpr ⟨hlow, hhigh⟩
    rw [readItem_of_isSuccess hstatus, readBody_eq_ok_iff.mpr ⟨hstatus, bytes, hbody, hitem⟩]
    rfl

/-- Every answer comes to something. -/
theorem exists_answerEnd (s : Source) (itemId : String) (r : Response) :
    ∃ x, AnswerEnd s itemId r x := by
  -- The status decides first: only in a success does it matter whether the body breaks off.
  by_cases hmissing : 400 ≤ r.status.code ∧ r.status.code < 500
  · exact ⟨_, .missing hmissing.1 hmissing.2⟩
  · by_cases hsuccess : 200 ≤ r.status.code ∧ r.status.code < 300
    · obtain ⟨hlow, hhigh⟩ := hsuccess
      cases hbody : r.body with
      | none => exact ⟨_, .truncated hlow hhigh hbody⟩
      | some bytes =>
        by_cases hitem : ∃ item, Resource.SpelledBy item bytes
        · obtain ⟨item, hitem⟩ := hitem
          exact ⟨_, .item bytes item hlow hhigh hbody hitem⟩
        · exact ⟨_, .undecodable bytes hlow hhigh hbody (not_exists.mp hitem)⟩
    · exact ⟨_, .refused (by omega) (by omega)⟩

/-! ## Calls -/

/-- **What a call for an item comes to**, by what comes back for it in the end. -/
inductive CallEnd (st : Settings) (s : Source) (itemId : String) :
    Reply → Except Failure Resource → Prop where
  /-- There is never an answer. -/
  | silent :
    CallEnd st s itemId .silent
      (.error (.sourceUnavailable s.displayName (.timedOut st.timeoutMillis)))
  /-- There is nothing until it is too late. -/
  | late (reply : Reply) (millis : Nat) (hmillis : reply.millis? = some millis)
      (hlate : st.timeoutMillis < millis) :
    CallEnd st s itemId reply
      (.error (.sourceUnavailable s.displayName (.timedOut st.timeoutMillis)))
  /-- The connection is not made or dropped before there is an answer, or there is a redirect that
  the client gives up at. -/
  | dropped (millis : Nat) (htime : millis ≤ st.timeoutMillis) :
    CallEnd st s itemId (.unsent millis) (.error (.sourceUnavailable s.displayName .unsent))
  /-- There is an answer in time. -/
  | answered (millis : Nat) (r : Response) (x : Except Failure Resource)
      (htime : millis ≤ st.timeoutMillis) (hanswer : AnswerEnd s itemId r x) :
    CallEnd st s itemId (.answered millis r) x

/-- A call comes to what is read of its reply. -/
theorem CallEnd.response_bind_eq {reply : Reply} (h : CallEnd g.settings s itemId reply x)
    (hreply : g.network u.requested = reply) (hurl : u.isReachable = true) :
    (g.response ⟨s, u⟩).bind (readItem s itemId) = x := by
  rw [response]
  cases h with
  | silent =>
    rw [reply_of_silent hurl hreply]
    rfl
  | late reply millis hmillis hlate =>
    rw [← hreply] at hmillis
    rw [reply_of_late hurl hmillis hlate]
    rfl
  | dropped millis htime =>
    rw [reply_of_unsent hurl hreply htime]
    rfl
  | answered millis r x htime hanswer =>
    rw [reply_of_answered hurl hreply htime]
    exact hanswer.readItem_eq

/-- Every call comes to something. -/
theorem exists_callEnd (st : Settings) (s : Source) (itemId : String) (reply : Reply) :
    ∃ x, CallEnd st s itemId reply x := by
  cases reply with
  | silent => exact ⟨_, .silent⟩
  | unsent millis =>
    by_cases htime : millis ≤ st.timeoutMillis
    · exact ⟨_, .dropped millis htime⟩
    · exact ⟨_, .late _ millis rfl (Nat.not_le.mp htime)⟩
  | answered millis r =>
    by_cases htime : millis ≤ st.timeoutMillis
    · obtain ⟨x, hanswer⟩ := exists_answerEnd s itemId r
      exact ⟨x, .answered millis r x htime hanswer⟩
    · exact ⟨_, .late _ millis rfl (Nat.not_le.mp htime)⟩

end Gateway

/-! ## Items -/

/-- The failures of sources. -/
theorem Failure.isSourceFailure_iff {e : Failure} :
    e.isSourceFailure = true ↔
      (∃ source why, e = .sourceUnavailable source why) ∨
        ∃ source, e = .sourceBadResponse source := by
  cases e <;> simp [isSourceFailure]

namespace Federation

variable {f : Federation} {policy : RedirectPolicy} {servers : Servers} {sourceId itemId : String}
  {requests : List Url} {x : Except Failure Resource}

/-- **How asking for one item ends**, and what is sent for it. -/
inductive DetailsEnd (f : Federation) (policy : RedirectPolicy) (servers : Servers)
    (sourceId itemId : String) : List Url → Except Failure Resource → Prop where
  | blankId (hid : Text.blank itemId = true) :
    DetailsEnd f policy servers sourceId itemId [] (.error (.invalidRequest .blankItemId))
  | unknownSource (hid : Text.blank itemId = false) (hs : ¬ f.registry.Knows sourceId) :
    DetailsEnd f policy servers sourceId itemId [] (.error (.unknownSource sourceId))
  | invalidUrl (s : Source) (e : Failure) (hid : Text.blank itemId = false)
      (hs : f.registry.source? sourceId = some s) (he : s.DetailsFault f.gateway.settings e) :
    DetailsEnd f policy servers sourceId itemId [] (.error e)
  /-- No request can go to the URL. -/
  | unreachable (s : Source) (u : Url) (hid : Text.blank itemId = false)
      (hs : f.registry.source? sourceId = some s)
      (hu : s.detailsUrl f.gateway.settings itemId = .ok u) (hurl : u.isReachable = false) :
    DetailsEnd f policy servers sourceId itemId []
      (.error (.sourceUnavailable s.displayName
        (.unsupportedUrl (String.ofList u.withoutUser.text))))
  /-- There is time for a request, and more of them are sent for redirects that are followed. -/
  | sent (s : Source) (u : Url) (requests : List Url) (reply : Reply)
      (x : Except Failure Resource) (hid : Text.blank itemId = false)
      (hs : f.registry.source? sourceId = some s)
      (hu : s.detailsUrl f.gateway.settings itemId = .ok u) (hurl : u.isReachable = true)
      (htimeout : f.gateway.settings.timeoutMillis ≠ 0)
      (hexchange : servers.Exchanges policy f.gateway.settings.timeoutMillis policy.limit 0
        u.requested requests reply)
      (hcall : Gateway.CallEnd f.gateway.settings s itemId reply x) :
    DetailsEnd f policy servers sourceId itemId requests x

/-- All requests that go out for one item. -/
def detailsSent (f : Federation) (policy : RedirectPolicy) (servers : Servers)
    (sourceId itemId : String) (user : Option String) : List Url :=
  ((f.servedBy policy servers).details sourceId itemId user).sent servers policy
    f.gateway.settings.timeoutMillis

/-- An item of a source that is known is asked for there. -/
theorem item_of_source {s : Source} (hid : Text.blank itemId = false)
    (hs : f.registry.source? sourceId = some s) :
    f.item sourceId itemId = f.gateway.details s itemId := by
  rw [item, if_neg (ne_true_of_eq_false hid), requireSource, hs, Run.ofExcept_ok_bind]

/-- An item of a source that has a URL for it is asked for at this URL. -/
theorem item_servedBy_of_url {s : Source} {u : Url} (hid : Text.blank itemId = false)
    (hs : f.registry.source? sourceId = some s)
    (hu : s.detailsUrl f.gateway.settings itemId = .ok u) :
    (f.servedBy policy servers).item sourceId itemId =
      ⟨[u], ((f.servedBy policy servers).gateway.response ⟨s, u⟩).bind
        (Gateway.readItem s itemId)⟩ := by
  have hs' : (f.servedBy policy servers).registry.source? sourceId = some s := hs
  have hu' : s.detailsUrl (f.servedBy policy servers).gateway.settings itemId = .ok u := hu
  rw [item_of_source hid hs', Gateway.details_of_url hu']

/-- An item is asked for as its rules say. -/
theorem DetailsEnd.item_eq (h : f.DetailsEnd policy servers sourceId itemId requests x) :
    ((f.servedBy policy servers).item sourceId itemId).sent servers policy
        f.gateway.settings.timeoutMillis = requests ∧
      ((f.servedBy policy servers).item sourceId itemId).result = x := by
  cases h with
  | blankId hid =>
    rw [item, if_pos hid]
    exact ⟨rfl, rfl⟩
  | unknownSource hid hs =>
    have hnone : (f.servedBy policy servers).registry.source? sourceId = none :=
      Registry.source?_eq_none_iff.mpr hs
    rw [item, if_neg (ne_true_of_eq_false hid), requireSource, hnone]
    exact ⟨rfl, rfl⟩
  | invalidUrl s e hid hs he =>
    have hs' : (f.servedBy policy servers).registry.source? sourceId = some s := hs
    have hurl : s.detailsUrl (f.servedBy policy servers).gateway.settings itemId = .error e :=
      Source.detailsUrl_eq_error_iff.mpr he
    rw [item_of_source hid hs', Gateway.details, hurl]
    exact ⟨rfl, rfl⟩
  | unreachable s u hid hs hu hurl =>
    rw [item_servedBy_of_url hid hs hu, Run.sent, Run.requests, List.filter_singleton, hurl,
      Gateway.response, Gateway.reply_of_not_isReachable hurl]
    exact ⟨rfl, rfl⟩
  | sent s u requests reply x hid hs hu hurl htimeout hexchange hcall =>
    -- The call and what is sent for it are two sides of one exchange.
    have hexchange' := hexchange.exchange_eq
    have hreply : (f.servedBy policy servers).gateway.network u.requested = reply :=
      congrArg Exchange.reply hexchange'
    have hsent : servers.sent policy f.gateway.settings.timeoutMillis u.requested = requests :=
      congrArg Exchange.sent hexchange'
    rw [item_servedBy_of_url hid hs hu, Run.sent, Run.requests, List.filter_singleton, hurl,
      Gateway.CallEnd.response_bind_eq (g := (f.servedBy policy servers).gateway) hcall hreply hurl]
    exact ⟨(List.flatMap_singleton ..).trans hsent, rfl⟩

/-- Details end as the item does, and nothing more is sent for them. -/
theorem DetailsEnd.details_eq (h : f.DetailsEnd policy servers sourceId itemId requests x)
    (user : Option String) :
    f.detailsSent policy servers sourceId itemId user = requests ∧
      ((f.servedBy policy servers).details sourceId itemId user).result =
        x.map (f.engaged ⟨sourceId, itemId⟩ user) := by
  obtain ⟨hsent, hresult⟩ := h.item_eq
  rw [detailsSent, details_eq_item, Run.sent, Run.requests, Run.asked_bind_pure,
    Run.result_bind_pure, hresult]
  exact ⟨hsent, rfl⟩

/-- If there is any time to wait, there is an end. -/
theorem exists_detailsEnd (policy : RedirectPolicy) (servers : Servers)
    (htimeout : f.gateway.settings.timeoutMillis ≠ 0) (sourceId itemId : String) :
    ∃ requests x, f.DetailsEnd policy servers sourceId itemId requests x := by
  -- The cases are those of the checks, in the order in which they are made.
  cases hid : Text.blank itemId with
  | true => exact ⟨_, _, .blankId hid⟩
  | false =>
    cases hs : f.registry.source? sourceId with
    | none => exact ⟨_, _, .unknownSource hid (Registry.source?_eq_none_iff.mp hs)⟩
    | some s =>
      cases hu : s.detailsUrl f.gateway.settings itemId with
      | error e => exact ⟨_, _, .invalidUrl s e hid hs (Source.detailsUrl_eq_error_iff.mp hu)⟩
      | ok u =>
        cases hurl : u.isReachable with
        | false => exact ⟨_, _, .unreachable s u hid hs hu hurl⟩
        | true =>
          obtain ⟨requests, reply, hexchange⟩ := Servers.exists_exchanges servers policy
            f.gateway.settings.timeoutMillis policy.limit 0 u.requested
          obtain ⟨x, hcall⟩ := Gateway.exists_callEnd f.gateway.settings s itemId reply
          exact ⟨_, _, .sent s u requests reply x hid hs hu hurl htimeout hexchange hcall⟩

/-- There is at most one request more than the client follows redirects. -/
theorem DetailsEnd.length_le (h : f.DetailsEnd policy servers sourceId itemId requests x) :
    requests.length ≤ policy.limit + 1 := by
  cases h with
  | sent s u requests reply x hid hs hu hurl htimeout hexchange hcall => exact hexchange.length_le
  | _ => exact Nat.zero_le _

/-- **How asking for one item ends**, whatever redirects the client follows. A blank id is refused
before anything else, then a source that no entry has the id of, then a URL that cannot be read or
has no segments; nothing is sent for them. Nothing is sent either to a URL that no request can go
to, which makes the source unavailable. Else one request is sent, if there is any time to wait for
an answer, and one more for each redirect that is followed. What counts is the last answer. A status
from 400 to 499 in time means that there is no such item, whatever its body; any other that is no
success, a body of a success that breaks off, a connection that is not made or dropped, a redirect
that the client gives up at, and no answer in time make the source unavailable. The whole body of a
success is the item, if it spells a resource, and a bad answer otherwise. The failures of the source
are just these: that it is unavailable, and that it gives a bad answer. -/
theorem details_ends (f : Federation) (policy : RedirectPolicy) (servers : Servers)
    (sourceId itemId : String) (user : Option String) :
    (∀ requests x, f.DetailsEnd policy servers sourceId itemId requests x →
        f.detailsSent policy servers sourceId itemId user = requests ∧
          ((f.servedBy policy servers).details sourceId itemId user).result =
            x.map (f.engaged ⟨sourceId, itemId⟩ user) ∧
          requests.length ≤ policy.limit + 1) ∧
      (f.gateway.settings.timeoutMillis ≠ 0 →
        ∃ requests x, f.DetailsEnd policy servers sourceId itemId requests x) ∧
      ∀ e : Failure, e.isSourceFailure = true ↔
        (∃ source why, e = .sourceUnavailable source why) ∨
          ∃ source, e = .sourceBadResponse source := by
  refine ⟨?_, ?_, ?_⟩
  · intro requests x h
    obtain ⟨hsent, hresult⟩ := h.details_eq user
    exact ⟨hsent, hresult, h.length_le⟩
  · intro htimeout
    exact exists_detailsEnd policy servers htimeout sourceId itemId
  · intro e
    exact Failure.isSourceFailure_iff

/-- One source. -/
def singleHost : Federation := .ofHosts ["a"] .offline

/-- A URL at this source. -/
def singleHostUrl (steps : List String) : Url where
  scheme := "http"
  authority := some ⟨[], .domain ['a'], none⟩
  path := .segments (steps.map (·.toList))
  query := none
  fragment := none

/-- The source has nothing, and its answers break off when they say so. -/
def curtServers : Servers where
  reply _ _ := .answered 5 { status := ⟨404⟩, body := none }

/-- An item with a byte that belongs to no character, in a string that is passed over. -/
def noisyItem : List UInt8 :=
  Text.Utf8.encode "\x7b\"id\":\"x\",\"note\":\"".toList ++
    0xE9 :: Text.Utf8.encode "\"\x7d".toList

/-- The source has moved its items, and this is one of them. -/
def movedServers : Servers where
  reply _ u :=
    if u = singleHostUrl ["resources", "x"] then
      .answered 5 { status := ⟨302⟩, headers := [("location", "/items/x")] }
    else .answered 5 { status := ⟨200⟩, body := some noisyItem }

/-- There is no such item, although the answer breaks off; and an item that has moved is found by
one more request. -/
theorem details_ends_singleHost :
    (singleHost.DetailsEnd {} curtServers "a" "x" [singleHostUrl ["resources", "x"]]
        (.error (.itemNotFound "a" "x")) ∧
      singleHost.detailsSent {} curtServers "a" "x" none = [singleHostUrl ["resources", "x"]] ∧
      ((singleHost.servedBy {} curtServers).details "a" "x" none).result =
        .error (.itemNotFound "a" "x")) ∧
      singleHost.detailsSent {} movedServers "a" "x" none =
        [singleHostUrl ["resources", "x"], singleHostUrl ["items", "x"]] ∧
      ((singleHost.servedBy {} movedServers).details "a" "x" none).result =
        .ok (singleHost.engaged ⟨"a", "x"⟩ none
          (({ id := "x" } : Resource).stamp (.ofHost "a"))) := by
  have hknown : Text.blank "x" = false ∧ singleHost.registry.source? "a" = some (.ofHost "a") ∧
      (Source.ofHost "a").detailsUrl singleHost.gateway.settings "x" =
        .ok (singleHostUrl ["resources", "x"]) ∧
      (singleHostUrl ["resources", "x"]).isReachable = true := by
    decide +kernel
  obtain ⟨hid, hs, hu, hurl⟩ := hknown
  have hcurt : singleHost.DetailsEnd {} curtServers "a" "x" [singleHostUrl ["resources", "x"]]
      (.error (.itemNotFound "a" "x")) :=
    .sent (.ofHost "a") _ _ _ _ hid hs hu hurl (by decide)
      (.last 10 0 _ 5 _ rfl (by decide +kernel))
      (.answered 5 _ _ (by decide) (.missing (by decide) (by decide)))
  have hspelled : Resource.SpelledBy { id := "x" } noisyItem := by
    unfold Resource.SpelledBy
    decide +kernel
  -- The redirect takes one of the ten, and five of the milliseconds.
  have hmoved : singleHost.DetailsEnd {} movedServers "a" "x"
      [singleHostUrl ["resources", "x"], singleHostUrl ["items", "x"]]
      (.ok (({ id := "x" } : Resource).stamp (.ofHost "a"))) :=
    .sent (.ofHost "a") _ _ _ _ hid hs hu hurl (by decide)
      (.moved 9 0 _ 5 { status := ⟨302⟩, headers := [("location", "/items/x")] }
        (singleHostUrl ["items", "x"]) _ _ (by decide +kernel) (by decide +kernel) (by decide)
        (.last 9 5 _ 5 { status := ⟨200⟩, body := some noisyItem } (by decide +kernel)
          (by decide +kernel)))
      (.answered 10 _ _ (by decide)
        (.item noisyItem _ (by decide) (by decide) rfl hspelled))
  obtain ⟨hcurtSent, hcurtResult, -⟩ :=
    (details_ends singleHost {} curtServers "a" "x" none).1 _ _ hcurt
  obtain ⟨hmovedSent, hmovedResult, -⟩ :=
    (details_ends singleHost {} movedServers "a" "x" none).1 _ _ hmoved
  exact ⟨⟨hcurt, hcurtSent, hcurtResult⟩, hmovedSent, hmovedResult⟩

/-- A source at a URL that is in order, but not for requests. -/
def fileSource : Source where
  id := "s"
  displayName := "S"
  searchBaseUrl := "ftp://s.test"
  detailsBaseUrl := "ftp://s.test"

/-- This source alone. -/
def fileHost : Federation where
  registry := ⟨[⟨fileSource, true⟩]⟩
  gateway := ⟨{}, .ofRoutes []⟩

/-- **Not every source that is known and has a proper URL is sent one request.** If no request can
go to the URL, nothing is sent, and still it is not the URL that is refused: the source is
unavailable. If the answer sends the client on, there is a second request, and the item is in the
answer to it. -/
theorem item_not_asked_once :
    (Text.blank "i" = false ∧ fileHost.registry.source? "s" = some fileSource ∧
      fileHost.gateway.settings.timeoutMillis ≠ 0 ∧
      (fileHost.details "s" "i" none).requests = [] ∧
      (fileHost.details "s" "i" none).result =
        .error (.sourceUnavailable "S" (.unsupportedUrl "ftp://s.test/resources/i")) ∧
      ¬ ((∃ fault, (fileHost.details "s" "i" none).result =
            .error (.invalidSourceUrl "S" fault)) ∨
          ∃ u, (fileHost.details "s" "i" none).requests = [u])) ∧
      Text.blank "x" = false ∧ singleHost.registry.source? "a" = some (.ofHost "a") ∧
      singleHost.gateway.settings.timeoutMillis ≠ 0 ∧
      singleHost.detailsSent {} movedServers "a" "x" none =
        [singleHostUrl ["resources", "x"], singleHostUrl ["items", "x"]] ∧
      ((singleHost.servedBy {} movedServers).details "a" "x" none).result.toOption.isSome = true ∧
      ¬ ∃ u, singleHost.detailsSent {} movedServers "a" "x" none = [u] := by
  have hrequests : (fileHost.details "s" "i" none).requests = [] := by decide +kernel
  have hresult : (fileHost.details "s" "i" none).result =
      .error (.sourceUnavailable "S" (.unsupportedUrl "ftp://s.test/resources/i")) := by
    decide +kernel
  have hsent : singleHost.detailsSent {} movedServers "a" "x" none =
      [singleHostUrl ["resources", "x"], singleHostUrl ["items", "x"]] := by
    decide +kernel
  refine ⟨⟨by decide +kernel, by decide, by decide, hrequests, hresult, ?_⟩, by decide +kernel,
    by decide, by decide, hsent, by decide +kernel, ?_⟩
  · rintro (⟨fault, hfault⟩ | ⟨u, hu⟩)
    · rw [hresult] at hfault
      cases hfault
    · rw [hrequests] at hu
      cases hu
  · rintro ⟨u, hu⟩
    rw [hsent] at hu
    cases hu

end Federation

end CatalogSearch
