import CatalogSearch.Gateway.Basic
import CatalogSearch.Proofs.Attempt
import Mathlib.Data.List.Basic

/-! # How calls end

Of many calls made at once, each ends in its own way and at its own time. What a search makes of
them depends on how each of them ends, and not on the others.

* **`Gateway.Answers`**: a call that ends in time, with an answer that can be read;
* **`Gateway.Fails`**: the ways in which a call fails;
* **`Gateway.fails_iff`**: there are no others;
* **`Gateway.outcome`**: the result of one query;
* **`Gateway.result_searchAll`**: a search at many sources gives the outcomes of its queries. -/

namespace CatalogSearch

/-- A run goes on from the result of its first part. -/
theorem Run.result_bind {α β : Type} {r : Run α} {a : α} (h : r.result = .ok a) (f : α → Run β) :
    (r >>= f).result = (f a).result := by
  show (Run.andThen r f).result = _
  unfold Run.andThen
  rw [h]

namespace Gateway

/-! ## One call -/

/-- **A call with an answer**: it ends before the caller cancels, and what arrives can be read. -/
def Answers (g : Gateway) (cancel : Cancellation) (c : Call) (a : SourceAnswer) : Prop :=
  g.inTime cancel c = true ∧ (g.response c).bind (readAnswer c) = .ok a

/-- **The ways in which an answer to a search cannot be read**, whatever number of matches it
declares. -/
inductive Unread (r : Response) : Prop where
  /-- The status is no success. -/
  | refused (hstatus : r.status.isSuccess = false)
  /-- The body breaks off. -/
  | truncated (hbody : r.body = none)
  /-- The body is no set of resources. -/
  | undecodable (bytes : List UInt8) (fault : DecodeError) (hbody : r.body = some bytes)
      (hset : ResourceSet.codec.readBytes bytes = .error fault)

/-- **The ways in which a call fails** when the caller may cancel. -/
inductive Fails (g : Gateway) (cancel : Cancellation) (c : Call) : Prop where
  /-- The caller cancels before the call ends. -/
  | cancelled (moment : Nat) (hcancel : cancel = some moment) (hmoment : moment ≤ g.duration c)
  /-- No request can go to the URL. -/
  | unreachable (hurl : c.url.isReachable = false)
  /-- The connection is not made, or dropped before there is an answer. -/
  | dropped (millis : Nat) (hreply : g.network c.url.requested = .unsent millis)
  /-- There is never an answer. -/
  | silent (hreply : g.network c.url.requested = .silent)
  /-- The answer comes too late. -/
  | late (millis : Nat) (r : Response) (hreply : g.network c.url.requested = .answered millis r)
      (hlate : g.settings.timeoutMillis < millis)
  /-- The answer cannot be read. -/
  | unread (millis : Nat) (r : Response) (hreply : g.network c.url.requested = .answered millis r)
      (hread : Unread r)

variable {g : Gateway} {cancel : Cancellation} {c : Call} {u : Url} {millis : Nat} {r : Response}

/-- A URL that no request can go to is refused by itself. -/
theorem reply_of_not_isReachable (hurl : u.isReachable = false) :
    g.reply u = .error (.unsupportedUrl (String.ofList u.withoutUser.text)) := by
  rw [reply, if_neg (ne_true_of_eq_false hurl)]

/-- Where there is never an answer, the time runs out. -/
theorem reply_of_silent (hurl : u.isReachable = true) (h : g.network u.requested = .silent) :
    g.reply u = .error (.timedOut g.settings.timeoutMillis) := by
  rw [reply, if_pos hurl, h]

/-- Whatever comes too late counts as no answer. -/
theorem reply_of_late (hurl : u.isReachable = true)
    (hmillis : (g.network u.requested).millis? = some millis)
    (hlate : g.settings.timeoutMillis < millis) :
    g.reply u = .error (.timedOut g.settings.timeoutMillis) := by
  have hle := Nat.not_le.mpr hlate
  rw [reply, if_pos hurl]
  cases hkind : g.network u.requested with
  | silent => rfl
  | unsent late =>
    rw [hkind] at hmillis
    obtain rfl := Option.some.inj hmillis
    exact if_neg hle
  | answered late r =>
    rw [hkind] at hmillis
    obtain rfl := Option.some.inj hmillis
    exact if_neg hle

/-- A connection that is dropped in time brings nothing. -/
theorem reply_of_unsent (hurl : u.isReachable = true) (h : g.network u.requested = .unsent millis)
    (htime : millis ≤ g.settings.timeoutMillis) : g.reply u = .error .unsent := by
  rw [reply, if_pos hurl, h]
  exact if_pos htime

/-- An answer in time is what comes of asking. -/
theorem reply_of_answered (hurl : u.isReachable = true)
    (h : g.network u.requested = .answered millis r) (htime : millis ≤ g.settings.timeoutMillis) :
    g.reply u = .ok r := by
  rw [reply, if_pos hurl, h]
  exact if_pos htime

/-- **What a call brings**: only answers that arrive in time from a URL that can be asked, read. -/
theorem response_bind_eq_ok_iff {α : Type} {read : Response → Except Failure α} {a : α} :
    (g.response c).bind read = .ok a ↔
      c.url.isReachable = true ∧ ∃ millis r, g.network c.url.requested = .answered millis r ∧
        millis ≤ g.settings.timeoutMillis ∧ read r = .ok a := by
  rw [response]
  constructor
  · intro h
    cases hurl : c.url.isReachable with
    | false =>
      rw [reply_of_not_isReachable hurl] at h
      cases h
    | true =>
      -- Of all that can come back, only an answer in time leaves something to read.
      cases hreply : g.network c.url.requested with
      | silent =>
        rw [reply_of_silent hurl hreply] at h
        cases h
      | unsent millis =>
        by_cases htime : millis ≤ g.settings.timeoutMillis
        · rw [reply_of_unsent hurl hreply htime] at h
          cases h
        · rw [reply_of_late hurl (congrArg Reply.millis? hreply) (Nat.not_le.mp htime)] at h
          cases h
      | answered millis r =>
        by_cases htime : millis ≤ g.settings.timeoutMillis
        · rw [reply_of_answered hurl hreply htime] at h
          exact ⟨rfl, millis, r, rfl, htime, h⟩
        · rw [reply_of_late hurl (congrArg Reply.millis? hreply) (Nat.not_le.mp htime)] at h
          cases h
  · rintro ⟨hurl, millis, r, hreply, htime, h⟩
    rw [reply_of_answered hurl hreply htime]
    exact h

/-- What is no success is not read. -/
theorem readBody_of_refused {α : Type} (s : Source) (read : List UInt8 → Decoded α) {r : Response}
    (hstatus : ¬ r.status.isSuccess = true) :
    readBody s read r = .error (.sourceUnavailable s.displayName (.status r.status)) := by
  rw [readBody, ensureSuccess, if_neg hstatus]
  rfl

/-- What breaks off is not read. -/
theorem readBody_of_truncated {α : Type} (s : Source) (read : List UInt8 → Decoded α) {r : Response}
    (hstatus : r.status.isSuccess = true) (hbody : r.body = none) :
    readBody s read r = .error (.sourceUnavailable s.displayName .interrupted) := by
  rw [readBody, ensureSuccess, if_pos hstatus]
  show ((body r).mapError _).bind _ = _
  rw [body, hbody]
  rfl

/-- The body of a success that has one makes sense, or is a bad answer. -/
theorem readBody_of_body {α : Type} (s : Source) (read : List UInt8 → Decoded α) {r : Response}
    {bytes : List UInt8} (hstatus : r.status.isSuccess = true) (hbody : r.body = some bytes) :
    readBody s read r = (read bytes).mapError fun _ => .sourceBadResponse s.displayName := by
  rw [readBody, ensureSuccess, if_pos hstatus]
  show ((body r).mapError _).bind _ = _
  rw [body, hbody]
  rfl

/-- **What is read of an answer**: the body of a success, if it makes sense. -/
theorem readBody_eq_ok_iff {α : Type} {s : Source} {read : List UInt8 → Decoded α} {r : Response}
    {a : α} :
    readBody s read r = .ok a ↔
      r.status.isSuccess = true ∧ ∃ bytes, r.body = some bytes ∧ read bytes = .ok a := by
  by_cases hstatus : r.status.isSuccess
  · cases hbody : r.body with
    | none =>
      rw [readBody_of_truncated s read hstatus hbody]
      constructor
      · rintro ⟨⟩
      · rintro ⟨-, _, ⟨⟩, -⟩
    | some bytes =>
      rw [readBody_of_body s read hstatus hbody, mapError_eq_ok_iff]
      constructor
      · intro hread
        exact ⟨hstatus, bytes, rfl, hread⟩
      · rintro ⟨-, _, ⟨⟩, hread⟩
        exact hread
  · rw [readBody_of_refused s read hstatus]
    constructor
    · rintro ⟨⟩
    · rintro ⟨h, -⟩
      exact absurd h hstatus

/-- What is read of the answer to a search. -/
theorem readAnswer_eq_ok_iff {r : Response} {a : SourceAnswer} :
    readAnswer c r = .ok a ↔
      r.status.isSuccess = true ∧ ∃ bytes set, r.body = some bytes ∧
        ResourceSet.codec.readBytes bytes = .ok set ∧
        a = ⟨set.resources, declaredMatches r⟩ := by
  rw [readAnswer, map_eq_ok_iff]
  constructor
  · rintro ⟨set, hread, rfl⟩
    obtain ⟨hstatus, bytes, hbody, hset⟩ := readBody_eq_ok_iff.mp hread
    exact ⟨hstatus, bytes, set, hbody, hset, rfl⟩
  · rintro ⟨hstatus, bytes, set, hbody, hset, rfl⟩
    exact ⟨set, readBody_eq_ok_iff.mpr ⟨hstatus, bytes, hbody, hset⟩, rfl⟩

/-- There are no other ways in which an answer cannot be read. -/
theorem unread_iff (c : Call) {r : Response} : Unread r ↔ ∀ a, readAnswer c r ≠ .ok a := by
  constructor
  · intro h a hread
    obtain ⟨hstatus, bytes, set, hbody, hset, -⟩ := readAnswer_eq_ok_iff.mp hread
    cases h with
    | refused hstatus' =>
      rw [hstatus] at hstatus'
      cases hstatus'
    | truncated hbody' =>
      rw [hbody] at hbody'
      cases hbody'
    | undecodable _ _ hbody' hset' =>
      rw [hbody] at hbody'
      cases hbody'
      rw [hset] at hset'
      cases hset'
  · -- What is wrong is looked for in the order in which an answer is read.
    intro h
    cases hstatus : r.status.isSuccess with
    | false => exact .refused hstatus
    | true =>
      cases hbody : r.body with
      | none => exact .truncated hbody
      | some bytes =>
        cases hset : ResourceSet.codec.readBytes bytes with
        | error fault => exact .undecodable bytes fault hbody hset
        | ok set =>
          exact absurd (readAnswer_eq_ok_iff.mpr ⟨hstatus, bytes, set, hbody, hset, rfl⟩) (h _)

/-- A call is not in time if the caller cancels before it ends. -/
theorem inTime_eq_false_iff :
    g.inTime cancel c = false ↔ ∃ moment, cancel = some moment ∧ moment ≤ g.duration c := by
  cases cancel with
  | none =>
    constructor
    · rintro ⟨⟩
    · rintro ⟨_, ⟨⟩, -⟩
  | some moment =>
    rw [inTime, decide_eq_false_iff_not, Nat.not_lt]
    constructor
    · intro h
      exact ⟨moment, rfl, h⟩
    · rintro ⟨_, ⟨⟩, h⟩
      exact h

/-- **There are no other ways to fail**: a call fails if and only if it has no answer. -/
theorem fails_iff : g.Fails cancel c ↔ ∀ a, ¬ g.Answers cancel c a := by
  constructor
  · rintro h a ⟨htime, hanswer⟩
    obtain ⟨hurl, millis, r, hreply, hmillis, hread⟩ := response_bind_eq_ok_iff.mp hanswer
    cases h with
    | cancelled moment hcancel hmoment =>
      rw [inTime_eq_false_iff.mpr ⟨moment, hcancel, hmoment⟩] at htime
      cases htime
    | unreachable hurl' =>
      rw [hurl] at hurl'
      cases hurl'
    | dropped _ hreply' =>
      rw [hreply] at hreply'
      cases hreply'
    | silent hreply' =>
      rw [hreply] at hreply'
      cases hreply'
    | late _ _ hreply' hlate =>
      rw [hreply] at hreply'
      cases hreply'
      exact absurd hmillis (Nat.not_le.mpr hlate)
    | unread _ _ hreply' hunread =>
      rw [hreply] at hreply'
      cases hreply'
      exact (unread_iff c).mp hunread a hread
  · -- What is wrong is looked for in the order in which a call goes.
    intro h
    cases htime : g.inTime cancel c with
    | false =>
      obtain ⟨moment, hcancel, hmoment⟩ := inTime_eq_false_iff.mp htime
      exact .cancelled moment hcancel hmoment
    | true =>
      cases hurl : c.url.isReachable with
      | false => exact .unreachable hurl
      | true =>
        cases hreply : g.network c.url.requested with
        | silent => exact .silent hreply
        | unsent millis => exact .dropped millis hreply
        | answered millis r =>
          by_cases hmillis : millis ≤ g.settings.timeoutMillis
          · refine .unread millis r hreply ((unread_iff c).mpr fun a hread => ?_)
            exact h a ⟨htime, response_bind_eq_ok_iff.mpr ⟨hurl, millis, r, hreply, hmillis, hread⟩⟩
          · exact .late millis r hreply (Nat.not_le.mp hmillis)

instance (g : Gateway) (cancel : Cancellation) (c : Call) : Decidable (g.Fails cancel c) :=
  decidable_of_iff
    (g.inTime cancel c = false ∨ ((g.response c).bind (readAnswer c)).toOption = none) <| by
    rw [fails_iff]
    unfold Answers
    cases htime : g.inTime cancel c with
    | false => simp
    | true =>
      cases (g.response c).bind (readAnswer c) with
      | error e => simp [Except.toOption]
      | ok a => simp [Except.toOption]

/-- A call with an answer yields it. -/
theorem yielded_of_answers {a : SourceAnswer} (h : g.Answers cancel c a) :
    g.yielded cancel readAnswer c = a := by
  rw [yielded, if_pos h.1, h.2]

/-- **A call that fails yields nothing**: no resources, and no number of matches. -/
theorem yielded_of_fails (h : g.Fails cancel c) : g.yielded cancel readAnswer c = {} := by
  rw [yielded]
  by_cases htime : g.inTime cancel c
  · rw [if_pos htime]
    cases hanswer : (g.response c).bind (readAnswer c) with
    | error e => rfl
    | ok a => exact absurd ⟨htime, hanswer⟩ (fails_iff.mp h a)
  · rw [if_neg htime]
    rfl

/-! ## Many calls -/

/-- Queries that all have a URL: nothing is wrong with them before they are sent. -/
def Prepared (g : Gateway) (page : PageRequest) (queries : List (Source × SearchRequest)) : Prop :=
  ∀ q ∈ queries, ∃ c, g.searchCall page q = .ok c

instance (g : Gateway) (page : PageRequest) (queries : List (Source × SearchRequest)) :
    Decidable (g.Prepared page queries) := by
  unfold Prepared
  infer_instance

/-- **The result of one query**, whatever the others bring. -/
def outcome (g : Gateway) (page : PageRequest) (cancel : Cancellation)
    (q : Source × SearchRequest) : SourceResult :=
  match g.searchCall page q with
  | .ok c => .ofAnswer q.1 (g.yielded cancel readAnswer c)
  | .error _ => .empty q.1

/-- The call of a query goes to its source, at the URL of its search. -/
theorem searchCall_eq_ok {page : PageRequest} {q : Source × SearchRequest}
    (h : g.searchCall page q = .ok c) :
    c.source = q.1 ∧ q.1.searchUrl g.settings page q.2 = .ok c.url := by
  obtain ⟨url, hurl, rfl⟩ := map_eq_ok_iff.mp h
  exact ⟨rfl, hurl⟩

/-- **A search whose calls have been made up** makes them all, unless the caller has cancelled
before, and has a result of each. -/
theorem searchAll_of_calls {page : PageRequest} {queries : List (Source × SearchRequest)}
    {calls : List Call} (hpage : page.validate = .ok ())
    (hcalls : queries.mapM (g.searchCall page) = .ok calls) (cancel : Cancellation) :
    g.searchAll queries page cancel =
      ⟨if cancel = some 0 then [] else calls.map (·.url),
        .ok (calls.map fun c =>
          SourceResult.ofAnswer c.source (g.yielded cancel readAnswer c))⟩ := by
  have hzip : calls.zipWith (fun c a => SourceResult.ofAnswer c.source a)
      (calls.map (g.yielded cancel readAnswer)) =
        calls.map fun c => SourceResult.ofAnswer c.source (g.yielded cancel readAnswer c) := by
    rw [List.zipWith_map_right, List.zipWith_self]
  rw [searchAll, hpage, Run.ofExcept_ok_bind, hcalls, Run.ofExcept_ok_bind, ← hzip]
  show (⟨((if cancel = some 0 then [] else calls.map (·.url)) ++ []) ++ [], .ok _⟩ : Run _) = _
  rw [List.append_nil, List.append_nil]

/-- The calls of prepared queries bring their outcomes, in the order of the queries. -/
theorem exists_calls {page : PageRequest} {queries : List (Source × SearchRequest)}
    (h : g.Prepared page queries) (cancel : Cancellation) :
    ∃ calls, queries.mapM (g.searchCall page) = .ok calls ∧
      (calls.map fun c => SourceResult.ofAnswer c.source (g.yielded cancel readAnswer c)) =
        queries.map (g.outcome page cancel) := by
  induction queries with
  | nil => exact ⟨[], rfl, rfl⟩
  | cons q queries ih =>
    obtain ⟨c, hc⟩ := h q List.mem_cons_self
    obtain ⟨calls, hcalls, hresults⟩ := ih fun p hp => h p (List.mem_cons_of_mem q hp)
    refine ⟨c :: calls, ?_, ?_⟩
    · rw [List.mapM_cons, hc, hcalls]
      rfl
    · rw [List.map_cons, List.map_cons, hresults, (searchCall_eq_ok hc).1, outcome, hc]

/-- **A search at many sources gives the outcomes of its queries**, in their order. -/
theorem result_searchAll {page : PageRequest} {queries : List (Source × SearchRequest)}
    (hpage : page.validate = .ok ()) (h : g.Prepared page queries) (cancel : Cancellation) :
    (g.searchAll queries page cancel).result = .ok (queries.map (g.outcome page cancel)) := by
  obtain ⟨calls, hcalls, hresults⟩ := exists_calls h cancel
  rw [searchAll_of_calls hpage hcalls, hresults]

end Gateway

end CatalogSearch
