import CatalogSearch.Proofs.Gateway.Dispatch
import CatalogSearch.Proofs.Resource.Unsigned

/-! # Forged answers

A source may sign its resources as those of another source. It is all the same: two networks whose
answers differ in nothing but signatures lead to the same results.

* **`Json.SameWithout`**, **`Response.SameWithout`**, **`Reply.SameWithout`**: documents, answers
  and replies that differ in nothing but what is struck out of them;
* **`Network.SameWithout`**, **`Network.sameWithout_ofRoutes`**: networks that reply so to some
  URLs;
* **`Gateway.withNetwork`**: a gateway over another network;
* **`Gateway.searchAll_withNetwork`**, **`Gateway.details_withNetwork`**: what is asked for and what
  comes of it does not depend on signatures. -/

namespace CatalogSearch

/-! ## What may differ -/

/-- **Documents that differ in nothing but what is struck out.** -/
def Json.SameWithout (strike : Json → Json) (doc doc' : Json.Document) : Prop :=
  strike doc.root = strike doc'.root ∧ doc.trailing = doc'.trailing

/-- **Answers that differ in nothing but what is struck out**: they have the same status, declare
the same number of matches, and have the same body but for that. -/
structure Response.SameWithout (strike : Json → Json) (r r' : Response) : Prop where
  status : r.status = r'.status
  declared : Gateway.declaredMatches r = Gateway.declaredMatches r'
  body : r.body = r'.body ∨ ∃ bytes bytes', r.body = some bytes ∧ r'.body = some bytes' ∧
    Json.SameWithout strike (Json.readBytes bytes) (Json.readBytes bytes')

/-- **Replies that differ in nothing but what is struck out**: answers at the same time, or no
answer in the same way. -/
inductive Reply.SameWithout (strike : Json → Json) : Reply → Reply → Prop where
  | same (reply : Reply) : SameWithout strike reply reply
  | answered (millis : Nat) (r r' : Response) (h : r.SameWithout strike r') :
    SameWithout strike (.answered millis r) (.answered millis r')

/-- **Networks that differ in nothing but what is struck out** of their replies to some URLs. -/
def Network.SameWithout (strike : Json → Json) (urls : List Url) (n n' : Network) : Prop :=
  ∀ u ∈ urls, Reply.SameWithout strike (n u) (n' u)

/-- They come at the same time. -/
theorem Reply.SameWithout.millis? {strike : Json → Json} {reply reply' : Reply}
    (h : reply.SameWithout strike reply') : reply.millis? = reply'.millis? := by
  cases h with
  | same => rfl
  | answered => rfl

/-- **Tables differ in nothing but what is struck out** if their routes do so one by one. -/
theorem Network.sameWithout_ofRoutes {strike : Json → Json} {routes routes' : List Route}
    (h : List.Forall₂ (fun a b => a.url = b.url ∧ Reply.SameWithout strike a.reply b.reply)
      routes routes') (urls : List Url) :
    Network.SameWithout strike urls (ofRoutes routes) (ofRoutes routes') := by
  intro u _
  unfold ofRoutes
  induction h with
  | nil => exact .same _
  | @cons a b routes routes' hab _ ih =>
    obtain ⟨hurl, hreply⟩ := hab
    rw [List.find?_cons, List.find?_cons, hurl]
    cases b.url.toList == u.base with
    | true => exact hreply
    | false => exact ih

/-- A codec that overlooks what is struck out reads the same. -/
theorem Json.SameWithout.map_readBytes {α τ : Type} {strike : Json → Json} {c : Codec α}
    {view : α → τ} (hc : c.Overlooks view strike) {bytes bytes' : List UInt8}
    (h : Json.SameWithout strike (Json.readBytes bytes) (Json.readBytes bytes')) :
    (c.readBytes bytes).map view = (c.readBytes bytes').map view :=
  hc.map_readDocument h.1 h.2

/-! ## What is read -/

namespace Gateway

variable {α τ : Type} {strike : Json → Json} {r r' : Response}

/-- The number of matches depends on the headers only. -/
theorem declaredMatches_congr (h : r.headers = r'.headers) :
    declaredMatches r = declaredMatches r' := by
  rw [declaredMatches, declaredMatches, Response.header?, Response.header?, h]

/-- **Bodies look the same** if what is read of their documents does. -/
theorem map_readBody {read : List UInt8 → Decoded α} {view : α → τ}
    (hread : ∀ bytes bytes',
      Json.SameWithout strike (Json.readBytes bytes) (Json.readBytes bytes') →
        (read bytes).map view = (read bytes').map view)
    (h : r.SameWithout strike r') (s : Source) :
    (readBody s read r).map view = (readBody s read r').map view := by
  by_cases hstatus : r.status.isSuccess = true
  · have hstatus' := hstatus
    rw [h.status] at hstatus'
    rcases h.body with hbody | ⟨bytes, bytes', hbody, hbody', hsame⟩
    · cases hbytes : r.body with
      | none =>
        rw [readBody_of_truncated s read hstatus hbytes,
          readBody_of_truncated s read hstatus' (hbody.symm.trans hbytes)]
      | some bytes =>
        rw [readBody_of_body s read hstatus hbytes,
          readBody_of_body s read hstatus' (hbody.symm.trans hbytes)]
    · rw [readBody_of_body s read hstatus hbody, readBody_of_body s read hstatus' hbody',
        map_mapError, map_mapError, hread bytes bytes' hsame]
  · have hstatus' := hstatus
    rw [h.status] at hstatus'
    rw [readBody_of_refused s read hstatus, readBody_of_refused s read hstatus', h.status]

/-- **A source's result of a forged answer** is that of the true one. -/
theorem map_ofAnswer_readAnswer (h : r.SameWithout ResourceSet.unsigned r') (c : Call) :
    (readAnswer c r).map (SourceResult.ofAnswer c.source) =
      (readAnswer c r').map (SourceResult.ofAnswer c.source) := by
  rw [readAnswer, readAnswer, map_map, map_map, h.declared]
  have hread : ∀ bytes bytes',
      Json.SameWithout ResourceSet.unsigned (Json.readBytes bytes) (Json.readBytes bytes') →
        (ResourceSet.codec.readBytes bytes).map ResourceSet.anonymous =
          (ResourceSet.codec.readBytes bytes').map ResourceSet.anonymous :=
    fun _ _ => Json.SameWithout.map_readBytes ResourceSet.overlooks_codec
  refine map_congr_of_map_eq (map_readBody hread h c.source) fun set set' hset => ?_
  exact SourceResult.ofAnswer_congr c.source rfl (congrArg ResourceSet.resources hset)

/-- **A forged item** is the true one. -/
theorem readItem_eq (h : r.SameWithout Resource.unsigned r') (s : Source) (itemId : String) :
    readItem s itemId r = readItem s itemId r' := by
  have hread : ∀ bytes bytes',
      Json.SameWithout Resource.unsigned (Json.readBytes bytes) (Json.readBytes bytes') →
        (Resource.codec.readBytes bytes).map Resource.anonymous =
          (Resource.codec.readBytes bytes').map Resource.anonymous :=
    fun _ _ => Json.SameWithout.map_readBytes Resource.overlooks_codec
  rw [readItem, readItem, h.status]
  split
  · rfl
  · refine map_congr_of_map_eq (map_readBody hread h s) fun item item' hitem => ?_
    rw [← Resource.stamp_anonymous, hitem, Resource.stamp_anonymous]

/-! ## What is asked -/

/-- **The same gateway over another network.** -/
def withNetwork (g : Gateway) (network : Network) : Gateway := { g with network := network }

variable {g : Gateway} {network : Network} {c : Call}

/-- What comes of a call looks the same if the replies do. -/
theorem map_response_bind
    (hreply : c.url.isReachable = true →
      Reply.SameWithout strike (g.network c.url.requested) (network c.url.requested))
    {read : Response → Except Failure α} {view : α → τ}
    (hread : ∀ r r', r.SameWithout strike r' → (read r).map view = (read r').map view) :
    ((g.response c).bind read).map view =
      (((g.withNetwork network).response c).bind read).map view := by
  -- Only the two networks differ, so that both replies go through the same checks.
  obtain ⟨settings, network₀⟩ := g
  show ((Except.mapError _ (reply ⟨settings, network₀⟩ c.url)).bind read).map view =
    ((Except.mapError _ (reply ⟨settings, network⟩ c.url)).bind read).map view
  simp only [reply]
  by_cases hurl : c.url.isReachable = true
  · have hsame : Reply.SameWithout strike (network₀ c.url.requested) (network c.url.requested) :=
      hreply hurl
    simp only [if_pos hurl]
    generalize network₀ c.url.requested = reply at hsame
    generalize network c.url.requested = reply' at hsame
    cases hsame with
    | same => rfl
    | answered millis r r' h =>
      by_cases hmillis : millis ≤ settings.timeoutMillis
      · simp only [if_pos hmillis]
        exact hread r r' h
      · simp only [if_neg hmillis]
  · simp only [if_neg hurl]

/-- A call ends at the same time if the replies come at the same time. -/
theorem inTime_withNetwork
    (hreply : c.url.isReachable = true →
      Reply.SameWithout strike (g.network c.url.requested) (network c.url.requested))
    (cancel : Cancellation) : (g.withNetwork network).inTime cancel c = g.inTime cancel c := by
  have hduration : (g.withNetwork network).duration c = g.duration c := by
    simp only [duration, withNetwork]
    by_cases hurl : c.url.isReachable = true
    · simp only [if_pos hurl, (hreply hurl).millis?]
    · simp only [if_neg hurl]
  unfold inTime
  rw [hduration]

/-- **The result of a call does not depend on signatures.** If the caller has cancelled before, it
does not depend on the reply at all. -/
theorem ofAnswer_yielded_withNetwork (cancel : Cancellation)
    (hreply : cancel ≠ some 0 → c.url.isReachable = true →
      Reply.SameWithout ResourceSet.unsigned (g.network c.url.requested)
        (network c.url.requested)) :
    SourceResult.ofAnswer c.source ((g.withNetwork network).yielded cancel readAnswer c) =
      SourceResult.ofAnswer c.source (g.yielded cancel readAnswer c) := by
  by_cases hcancel : cancel = some 0
  · rw [hcancel]
    rfl
  · have hresults := map_response_bind (hreply hcancel) fun r r' h => map_ofAnswer_readAnswer h c
    rw [yielded, yielded, inTime_withNetwork (hreply hcancel)]
    split
    · cases hanswer : (g.response c).bind (readAnswer c) with
      | error e =>
        rw [hanswer] at hresults
        rw [map_eq_error_iff.mp hresults.symm]
      | ok a =>
        rw [hanswer] at hresults
        obtain ⟨a', ha', hresult⟩ := map_eq_ok_iff.mp hresults.symm
        rw [ha']
        exact hresult
    · rfl

/-- **Searches at many sources do not depend on signatures**: of all that networks reply to their
requests, nothing else may differ. -/
theorem searchAll_withNetwork (queries : List (Source × SearchRequest)) (page : PageRequest)
    (cancel : Cancellation)
    (h : Network.SameWithout ResourceSet.unsigned (g.searchAll queries page cancel).requests
      g.network network) :
    (g.withNetwork network).searchAll queries page cancel = g.searchAll queries page cancel := by
  cases hpage : page.validate with
  | error e =>
    rw [searchAll, searchAll, hpage]
    rfl
  | ok _ =>
    have hsame : queries.mapM ((g.withNetwork network).searchCall page) =
        queries.mapM (g.searchCall page) := rfl
    cases hcalls : queries.mapM (g.searchCall page) with
    | error e =>
      rw [searchAll, searchAll, hpage, hsame, hcalls]
      rfl
    | ok calls =>
      -- Both make the same calls, and what each of them brings depends on its own reply only.
      rw [searchAll_of_calls hpage hcalls] at h ⊢
      rw [searchAll_of_calls hpage (hsame.trans hcalls)]
      have hresults : ∀ c ∈ calls,
          SourceResult.ofAnswer c.source ((g.withNetwork network).yielded cancel readAnswer c) =
            SourceResult.ofAnswer c.source (g.yielded cancel readAnswer c) := by
        intro c hc
        refine ofAnswer_yielded_withNetwork cancel fun hcancel hurl => h _ ?_
        rw [Run.requests, if_neg hcancel]
        exact List.mem_map_of_mem (List.mem_filter.mpr ⟨List.mem_map_of_mem hc, hurl⟩)
      rw [List.map_congr_left hresults]

/-- **One item of a source does not depend on its signature.** -/
theorem details_withNetwork (s : Source) (itemId : String)
    (h : Network.SameWithout Resource.unsigned (g.details s itemId).requests g.network network) :
    (g.withNetwork network).details s itemId = g.details s itemId := by
  have hsame : s.detailsUrl (g.withNetwork network).settings itemId =
      s.detailsUrl g.settings itemId := rfl
  cases hurl : s.detailsUrl g.settings itemId with
  | error e =>
    rw [details, details, hsame, hurl]
    rfl
  | ok url =>
    rw [details_of_url hurl] at h ⊢
    rw [details_of_url (hsame.trans hurl)]
    have hitem : ((g.response ⟨s, url⟩).bind (readItem s itemId)).map id =
        (((g.withNetwork network).response ⟨s, url⟩).bind (readItem s itemId)).map id := by
      refine map_response_bind (fun hreachable => h _ ?_) fun r r' hr => ?_
      · rw [Run.requests]
        exact List.mem_map_of_mem (List.mem_filter.mpr ⟨List.mem_singleton_self url, hreachable⟩)
      · rw [readItem_eq hr]
    rw [Except.map_id] at hitem
    exact congrArg (Run.mk [url]) hitem.symm

end Gateway

end CatalogSearch
