import CatalogSearch.Proofs.Federation.Dispatch
import CatalogSearch.Proofs.Gateway.Forged
import CatalogSearch.Proofs.Merge.Origin

/-! # Where the items of callers come from

Whatever sources answer, every item that a caller receives is a resource that a source has sent when
it was asked, and carries the name and the id of this source. What sources claim about their names
and ids has no effect: not on the items, and not on their order.

* **`Gateway.Sent`**, **`Gateway.Accounts`**: resources that sources have sent, and items that are
  such resources;
* **`Gateway.accounts_searchAll`**: merged results of searches;
* **`Federation.withNetwork`**: a federation over another network;
* **`Federation.attributes_items_to_senders`**: what this comes to for all operations that bring
  items. -/

namespace CatalogSearch

namespace Gateway

/-! ## Resources that have been sent -/

/-- **A resource that has been sent** for a query: its source has been asked where it is searched,
and the resource has a place in its answer. -/
def Sent (g : Gateway) (page : PageRequest) (cancel : Cancellation) (asked : List Url)
    (q : Source × SearchRequest) (position : Nat) (r : Resource) : Prop :=
  ∃ c a, g.searchCall page q = .ok c ∧ c.url ∈ asked ∧ g.Answers cancel c a ∧
    a.resources[position]? = some r

/-- **Items that are accounted for**: each is a resource that has been sent for a query, with the
stamp of its source, and different items are sent in different places. -/
def Accounts (g : Gateway) (page : PageRequest) (cancel : Cancellation) (asked : List Url)
    (queries : List (Source × SearchRequest)) (items : List Resource) : Prop :=
  ∃ origins : List Origin, origins.Nodup ∧
    List.Forall₂ (fun item o => ∃ q r, queries[o.list]? = some q ∧
      g.Sent page cancel asked q o.position r ∧ item = r.stamp q.1) items origins

/-- **An item that has been sent** by a source that was asked for it. -/
def SentItem (g : Gateway) (asked : List Url) (s : Source) (itemId : String) (r : Resource) :
    Prop :=
  ∃ url response, s.detailsUrl g.settings itemId = .ok url ∧ url ∈ asked ∧
    g.response ⟨s, url⟩ = .ok response ∧ readBody s Resource.codec.readBytes response = .ok r

variable {g : Gateway} {page : PageRequest} {cancel : Cancellation}

/-- Only answers yield resources. -/
theorem answers_of_yielded {c : Call} {position : Nat} {r : Resource}
    (h : (g.yielded cancel readAnswer c).resources[position]? = some r) :
    ∃ a, g.Answers cancel c a ∧ a.resources[position]? = some r := by
  by_cases hfails : g.Fails cancel c
  · rw [yielded_of_fails hfails] at h
    cases h
  · rw [fails_iff] at hfails
    obtain ⟨a, ha⟩ : ∃ a, g.Answers cancel c a := by simpa using hfails
    rw [yielded_of_answers ha] at h
    exact ⟨a, ha, h⟩

/-- A call with an answer has been made. -/
theorem Answers.cancel_ne {c : Call} {a : SourceAnswer} (h : g.Answers cancel c a) :
    cancel ≠ some 0 := by
  rintro rfl
  cases h.1

/-- Nothing is wrong with a search that has results. -/
theorem calls_of_searchAll {queries : List (Source × SearchRequest)} {results : List SourceResult}
    (h : (g.searchAll queries page cancel).result = .ok results) :
    page.validate = .ok () ∧ ∃ calls, queries.mapM (g.searchCall page) = .ok calls := by
  cases hpage : page.validate with
  | error e =>
    rw [searchAll, hpage] at h
    cases h
  | ok _ =>
    cases hcalls : queries.mapM (g.searchCall page) with
    | error e =>
      rw [searchAll, hpage, Run.ofExcept_ok_bind, hcalls] at h
      cases h
    | ok calls => exact ⟨rfl, calls, rfl⟩

/-- Every call is that of the query at the same place. -/
theorem exists_query_of_call {queries : List (Source × SearchRequest)} {calls : List Call}
    (h : queries.mapM (g.searchCall page) = .ok calls) {i : Nat} {c : Call}
    (hc : calls[i]? = some c) : ∃ q, queries[i]? = some q ∧ g.searchCall page q = .ok c := by
  have hcalls := mapM_eq_ok_iff.mp h
  obtain ⟨hi, rfl⟩ := List.getElem?_eq_some_iff.mp hc
  have hi' : i < queries.length := by
    rw [hcalls.length_eq]
    exact hi
  exact ⟨queries[i], List.getElem?_eq_getElem hi', hcalls.get hi' hi⟩

/-- **The items of merged results are accounted for**, whatever page is made of them. -/
theorem accounts_searchAll {queries : List (Source × SearchRequest)} {results : List SourceResult}
    (h : (g.searchAll queries page cancel).result = .ok results) (shown : PageRequest)
    (order : MergeOrder) :
    g.Accounts page cancel (g.searchAll queries page cancel).asked queries
      (merge results shown order).items := by
  obtain ⟨hpage, calls, hcalls⟩ := calls_of_searchAll h
  rw [searchAll_of_calls hpage hcalls] at h ⊢
  obtain rfl := Except.ok.inj h
  obtain ⟨origins, hnodup, hholds⟩ := exists_origins_merge _ shown order
  refine ⟨origins, hnodup, hholds.imp ?_⟩
  rintro item o ⟨items, hitems, hitem⟩
  -- The item is one of a call, and the call is that of a query.
  rw [List.map_map, List.getElem?_map] at hitems
  obtain ⟨c, hc, rfl⟩ := Option.map_eq_some_iff.mp hitems
  obtain ⟨q, hq, hcall⟩ := exists_query_of_call hcalls hc
  obtain ⟨r, hr, rfl⟩ := Option.map_eq_some_iff.mp ((List.getElem?_map ..).symm.trans hitem)
  obtain ⟨a, ha, hresource⟩ := answers_of_yielded hr
  refine ⟨q, r, hq, ⟨c, a, hcall, ?_, ha, hresource⟩, ?_⟩
  · rw [if_neg ha.cancel_ne]
    exact List.mem_map_of_mem (List.mem_of_getElem? hc)
  · rw [(searchCall_eq_ok hcall).1]

/-- **An item that comes of asking a source** has been sent by it. -/
theorem sentItem_of_details {s : Source} {itemId : String} {item : Resource}
    (h : (g.details s itemId).result = .ok item) :
    ∃ r, g.SentItem (g.details s itemId).asked s itemId r ∧ item = r.stamp s := by
  cases hurl : s.detailsUrl g.settings itemId with
  | error e =>
    rw [details, hurl] at h
    cases h
  | ok url =>
    rw [details_of_url hurl] at h ⊢
    obtain ⟨response, hresponse, hitem⟩ := bind_eq_ok_iff.mp h
    rw [readItem] at hitem
    split at hitem
    · cases hitem
    · obtain ⟨r, hr, rfl⟩ := map_eq_ok_iff.mp hitem
      exact ⟨r, ⟨url, response, hurl, List.mem_singleton_self url, hresponse, hr⟩, rfl⟩

end Gateway

namespace Federation

variable {f : Federation} {page : PageRequest} {cancel : Cancellation}

/-! ## Operations -/

/-- **The items of a search** are accounted for. -/
theorem accounts_search {r : SearchRequest} {p : ResultPage}
    (h : (f.search r page cancel).result = .ok p) :
    f.gateway.Accounts page cancel (f.search r page cancel).asked (f.searchQueries r) p.items := by
  rw [search_eq_searchAll] at h ⊢
  rw [Run.result_bind_pure] at h
  obtain ⟨results, hresults, rfl⟩ := map_eq_ok_iff.mp h
  rw [Run.asked_bind_pure]
  exact Gateway.accounts_searchAll hresults page .external

/-- **The items of a search for known items** are accounted for. -/
theorem accounts_searchByIds {keys : List ItemKey} {base : SearchRequest} {order : MergeOrder}
    {p : ResultPage} (h : (f.searchByIds keys base page order cancel).result = .ok p) :
    f.gateway.Accounts { page with number := 0 } cancel
      (f.searchByIds keys base page order cancel).asked (f.idQueries keys base) p.items := by
  rw [searchByIds_eq_searchAll] at h ⊢
  cases hcheck : checkItems keys page with
  | error e =>
    rw [hcheck] at h
    cases h
  | ok _ =>
    rw [hcheck, Run.ofExcept_ok_bind, Run.result_bind_pure] at h
    obtain ⟨results, hresults, rfl⟩ := map_eq_ok_iff.mp h
    rw [Run.ofExcept_ok_bind, Run.asked_bind_pure]
    exact Gateway.accounts_searchAll hresults { page with number := 0 } order

/-- **One item** has been sent by the source that was asked for it. -/
theorem sentItem_of_details {sourceId itemId : String} {user : Option String}
    {d : ResourceDetails} (h : (f.details sourceId itemId user).result = .ok d) :
    ∃ s r, f.registry.source? sourceId = some s ∧
      f.gateway.SentItem (f.details sourceId itemId user).asked s itemId r ∧
        d.resource = r.stamp s := by
  by_cases hblank : Text.blank itemId = true
  · rw [details, if_pos hblank] at h
    cases h
  · rw [details, if_neg hblank] at h ⊢
    cases hs : f.registry.source? sourceId with
    | none =>
      rw [requireSource, hs] at h
      cases h
    | some s =>
      rw [requireSource, hs, Run.ofExcept_ok_bind] at h ⊢
      rw [Run.result_bind_pure] at h
      obtain ⟨item, hitem, rfl⟩ := map_eq_ok_iff.mp h
      obtain ⟨r, hsent, rfl⟩ := Gateway.sentItem_of_details hitem
      rw [Run.asked_bind_pure]
      exact ⟨s, r, rfl, hsent, rfl⟩

/-! ## Forgeries -/

/-- **The same federation over another network.** -/
def withNetwork (f : Federation) (network : Network) : Federation :=
  { f with gateway := f.gateway.withNetwork network }

variable {network : Network}

/-- **A search does not depend on signatures.** -/
theorem search_withNetwork {r : SearchRequest}
    (h : Network.SameWithout ResourceSet.unsigned (f.search r page cancel).requests
      f.gateway.network network) :
    (f.withNetwork network).search r page cancel = f.search r page cancel := by
  rw [search_eq_searchAll, Run.requests, Run.asked_bind_pure] at h
  rw [search_eq_searchAll, search_eq_searchAll]
  show (f.gateway.withNetwork network).searchAll (f.searchQueries r) page cancel >>= _ = _
  rw [Gateway.searchAll_withNetwork _ _ _ h]

/-- **A search for known items does not depend on signatures**, in whatever order. -/
theorem searchByIds_withNetwork {keys : List ItemKey} {base : SearchRequest} {order : MergeOrder}
    (h : Network.SameWithout ResourceSet.unsigned
      (f.searchByIds keys base page order cancel).requests f.gateway.network network) :
    (f.withNetwork network).searchByIds keys base page order cancel =
      f.searchByIds keys base page order cancel := by
  rw [searchByIds_eq_searchAll] at h ⊢
  rw [searchByIds_eq_searchAll]
  cases hcheck : checkItems keys page with
  | error e => rw [Run.ofExcept_error_bind, Run.ofExcept_error_bind]
  | ok _ =>
    rw [hcheck, Run.ofExcept_ok_bind, Run.requests, Run.asked_bind_pure] at h
    rw [Run.ofExcept_ok_bind, Run.ofExcept_ok_bind]
    show (f.gateway.withNetwork network).searchAll (f.idQueries keys base) _ cancel >>= _ = _
    rw [Gateway.searchAll_withNetwork _ _ _ h]

/-- **One item does not depend on its signature.** -/
theorem details_withNetwork {sourceId itemId : String} {user : Option String}
    (h : Network.SameWithout Resource.unsigned (f.details sourceId itemId user).requests
      f.gateway.network network) :
    (f.withNetwork network).details sourceId itemId user = f.details sourceId itemId user := by
  by_cases hblank : Text.blank itemId = true
  · rw [details, details, if_pos hblank, if_pos hblank]
  · rw [details, if_neg hblank] at h ⊢
    rw [details, if_neg hblank]
    have hsource : (f.withNetwork network).requireSource sourceId = f.requireSource sourceId := rfl
    rw [hsource]
    cases hs : f.requireSource sourceId with
    | error e => rfl
    | ok s =>
      rw [hs, Run.ofExcept_ok_bind, Run.requests, Run.asked_bind_pure] at h
      rw [Run.ofExcept_ok_bind, Run.ofExcept_ok_bind]
      show (f.gateway.withNetwork network).details s itemId >>= _ = _
      rw [Gateway.details_withNetwork s itemId h]
      rfl

/-! ## All operations -/

/-- **Items are attributed to the sources that have sent them**, and to no others. Every item of a
search, or of a search for known items, has been sent by a source that was asked for it, and carries
the stamp of this source; different items were sent by different sources or in different places. One
item alone has been sent by the source that was asked for it. A stamp is the name and the id of a
source, converts ages once, and leaves everything else. What sources say about their names and ids
changes neither what is asked for nor what comes of it. -/
theorem attributes_items_to_senders (f : Federation) (cancel : Cancellation) :
    (∀ r page,
      (∀ p, (f.search r page cancel).result = .ok p →
          f.gateway.Accounts page cancel (f.search r page cancel).asked (f.searchQueries r)
            p.items) ∧
        (f.registry.Distinct → ((f.searchQueries r).map (·.1.id)).Nodup) ∧
        ∀ network, Network.SameWithout ResourceSet.unsigned (f.search r page cancel).requests
            f.gateway.network network →
          (f.withNetwork network).search r page cancel = f.search r page cancel) ∧
      (∀ keys base page order,
        (∀ p, (f.searchByIds keys base page order cancel).result = .ok p →
            f.gateway.Accounts { page with number := 0 } cancel
              (f.searchByIds keys base page order cancel).asked (f.idQueries keys base) p.items) ∧
          ((f.idQueries keys base).map (·.1.id)).Nodup ∧
          ∀ network, Network.SameWithout ResourceSet.unsigned
              (f.searchByIds keys base page order cancel).requests f.gateway.network network →
            (f.withNetwork network).searchByIds keys base page order cancel =
              f.searchByIds keys base page order cancel) ∧
      (∀ sourceId itemId user,
        (∀ d, (f.details sourceId itemId user).result = .ok d →
            ∃ s r, f.registry.source? sourceId = some s ∧
              f.gateway.SentItem (f.details sourceId itemId user).asked s itemId r ∧
                d.resource = r.stamp s) ∧
          ∀ network, Network.SameWithout Resource.unsigned
              (f.details sourceId itemId user).requests f.gateway.network network →
            (f.withNetwork network).details sourceId itemId user = f.details sourceId itemId user) ∧
      ∀ (s : Source) (r : Resource), r.Attributed s (r.stamp s) := by
  refine ⟨fun r page => ?_, fun keys base page order => ?_, fun sourceId itemId user => ?_, ?_⟩
  · exact ⟨fun p => accounts_search, fun h => nodup_ids_searchQueries h r,
      fun _ => search_withNetwork⟩
  · exact ⟨fun p => accounts_searchByIds, nodup_ids_idQueries f keys base,
      fun _ => searchByIds_withNetwork⟩
  · exact ⟨fun d => sentItem_of_details, fun _ => details_withNetwork⟩
  · exact fun s r => Resource.attributed_iff.mpr rfl

/-- The second of two sources answers at some URL, with a text of its own. -/
def signingNetwork (url : String) (body : List Char) : Network :=
  .ofRoutes
    [ .ofHost "a" "\x7b\"resources\":[\x7b\"id\":\"a1\"\x7d]\x7d" .answers,
      { url := url, response := { status := ⟨200⟩, body := some (Text.Utf8.encode body) } } ]

/-- Networks of this kind differ in what is struck out if the text of the second source does. -/
theorem sameWithout_signingNetwork {strike : Json → Json} {body body' : List Char}
    (h : Json.SameWithout strike (Json.read body) (Json.read body')) (url : String)
    (urls : List Url) :
    Network.SameWithout strike urls (signingNetwork url body) (signingNetwork url body') := by
  unfold signingNetwork
  refine Network.sameWithout_ofRoutes (.cons ⟨?_, .same _⟩ (.cons ⟨?_, ?_⟩ .nil)) urls
  · rfl
  · rfl
  · rw [← Json.readBytes_encode, ← Json.readBytes_encode] at h
    exact .answered 0 _ _ ⟨rfl, Gateway.declaredMatches_congr rfl, Or.inr ⟨_, _, rfl, rfl, h⟩⟩

/-- An item of the second source, signed as one of some source. -/
def signedItem (id : String) : List Char :=
  "\x7b\"id\":\"b1\",\"publisherId\":\"".toList ++ id.toList ++ "\"\x7d".toList

/-- The answer to a search with this item. -/
def signedSet (id : String) : List Char :=
  "\x7b\"resources\":[".toList ++ signedItem id ++ "]\x7d".toList

/-- The item with its signature, whichever it is. -/
theorem read_signedItem :
    Json.read (signedItem "a") =
        ⟨.object [("id", .string "b1"), ("publisherId", .string "a")], false⟩ ∧
      Json.read (signedItem "b") =
        ⟨.object [("id", .string "b1"), ("publisherId", .string "b")], false⟩ := by
  constructor
  · with_unfolding_all rfl
  · with_unfolding_all rfl

/-- The answer to a search holds this item and nothing else. -/
theorem read_signedSet :
    Json.read (signedSet "a") =
        ⟨.object [("resources", .array
          [.object [("id", .string "b1"), ("publisherId", .string "a")]])], false⟩ ∧
      Json.read (signedSet "b") =
        ⟨.object [("resources", .array
          [.object [("id", .string "b1"), ("publisherId", .string "b")]])], false⟩ := by
  constructor
  · with_unfolding_all rfl
  · with_unfolding_all rfl

/-- A forged item is the same without its signature. -/
theorem sameWithout_signedItem :
    Json.SameWithout Resource.unsigned (Json.read (signedItem "a"))
      (Json.read (signedItem "b")) := by
  rw [Json.SameWithout, read_signedItem.1, read_signedItem.2]
  exact ⟨rfl, rfl⟩

/-- So is the answer to a search with this item. -/
theorem sameWithout_signedSet :
    Json.SameWithout ResourceSet.unsigned (Json.read (signedSet "a"))
      (Json.read (signedSet "b")) := by
  rw [Json.SameWithout, read_signedSet.1, read_signedSet.2]
  exact ⟨rfl, rfl⟩

/-- The second source signs its item as one of some source when it is searched. -/
def signedSearch (id : String) : Federation :=
  .ofHosts ["a", "b"] (signingNetwork "http://b/resources" (signedSet id))

/-- The second source signs its item as one of some source when it is asked for it. -/
def signedDetails (id : String) : Federation :=
  .ofHosts ["a", "b"] (signingNetwork "http://b/resources/b1" (signedItem id))

/-- The item of the second source stays its own, whether it is signed so or not: in a search, among
known items, and alone. -/
theorem attributes_items_to_senders_forged :
    (∃ p, ((signedSearch "a").search {} {} none).result = .ok p ∧
        (signedSearch "a").gateway.Accounts {} none ((signedSearch "a").search {} {} none).asked
          ((signedSearch "a").searchQueries {}) p.items ∧
        (((signedSearch "a").searchQueries {}).map (·.1.id)).Nodup ∧
        ((signedSearch "b").search {} {} none).result = .ok p) ∧
      (∃ p, ((signedSearch "a").searchByIds [⟨"b", "b1"⟩, ⟨"a", "a1"⟩] {} {}
            (.remembered [⟨"b", "b1"⟩, ⟨"a", "a1"⟩]) none).result = .ok p ∧
          (signedSearch "a").gateway.Accounts {} none
            ((signedSearch "a").searchByIds [⟨"b", "b1"⟩, ⟨"a", "a1"⟩] {} {}
              (.remembered [⟨"b", "b1"⟩, ⟨"a", "a1"⟩]) none).asked
            ((signedSearch "a").idQueries [⟨"b", "b1"⟩, ⟨"a", "a1"⟩] {}) p.items ∧
          ((signedSearch "b").searchByIds [⟨"b", "b1"⟩, ⟨"a", "a1"⟩] {} {}
            (.remembered [⟨"b", "b1"⟩, ⟨"a", "a1"⟩]) none).result = .ok p) ∧
      ∃ d, ((signedDetails "a").details "b" "b1" none).result = .ok d ∧
        (∃ (s : Source) (r : Resource), (signedDetails "a").registry.source? "b" = some s ∧
          d.resource = r.stamp s) ∧
        ((signedDetails "b").details "b" "b1" none).result = .ok d := by
  obtain ⟨hsearch, hknown, -, -⟩ := (signedSearch "a").attributes_items_to_senders none
  obtain ⟨-, -, hdetails, -⟩ := (signedDetails "a").attributes_items_to_senders none
  have hset := sameWithout_signingNetwork sameWithout_signedSet "http://b/resources"
  have hitem := sameWithout_signingNetwork sameWithout_signedItem "http://b/resources/b1"
  refine ⟨?_, ?_, ?_⟩
  · obtain ⟨p, hp⟩ : ∃ p, ((signedSearch "a").search {} {} none).result = .ok p := by
      decide +kernel
    obtain ⟨haccounts, hnodup, hnetwork⟩ := hsearch {} {}
    have hsame := congrArg Run.result (hnetwork _ (hset _))
    exact ⟨p, hp, haccounts p hp, hnodup (by decide +kernel), hsame.trans hp⟩
  · obtain ⟨p, hp⟩ : ∃ p, ((signedSearch "a").searchByIds [⟨"b", "b1"⟩, ⟨"a", "a1"⟩] {} {}
        (.remembered [⟨"b", "b1"⟩, ⟨"a", "a1"⟩]) none).result = .ok p := by
      decide +kernel
    obtain ⟨haccounts, -, hnetwork⟩ := hknown [⟨"b", "b1"⟩, ⟨"a", "a1"⟩] {} {}
      (.remembered [⟨"b", "b1"⟩, ⟨"a", "a1"⟩])
    have hsame := congrArg Run.result (hnetwork _ (hset _))
    exact ⟨p, hp, haccounts p hp, hsame.trans hp⟩
  · obtain ⟨d, hd⟩ : ∃ d, ((signedDetails "a").details "b" "b1" none).result = .ok d := by
      decide +kernel
    obtain ⟨hsent, hnetwork⟩ := hdetails "b" "b1" none
    obtain ⟨s, r, hs, -, hr⟩ := hsent d hd
    have hsame := congrArg Run.result (hnetwork _ (hitem _))
    exact ⟨d, hd, ⟨s, r, hs, hr⟩, hsame.trans hd⟩

end Federation

end CatalogSearch
