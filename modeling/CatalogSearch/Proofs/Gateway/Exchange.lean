import CatalogSearch.Http.Redirect

/-! # How calls go

A call takes one request, and one more for each redirect that is followed. It ends with an answer
that is the last one, with none, or with a redirect that is not followed.

* **`Servers.Exchanges`**: how a call goes, request by request;
* **`Servers.exchange_eq_iff`**: calls go just so;
* **`Servers.Exchanges.head?_eq`**, **`Servers.Exchanges.length_le`**: the requests of a call start
  with the one for its URL, and there are not many more;
* **`Servers.network_of_last`**: the replies of servers that send nobody on stay as they are. -/

namespace CatalogSearch.Servers

variable {servers : Servers} {policy : RedirectPolicy} {timeoutMillis left elapsed : Nat} {u : Url}
  {sent : List Url} {reply : Reply}

/-- **How a call goes** from a URL on, when so many redirects are left to follow and so many
milliseconds have passed: what is sent, and what comes back in the end. -/
inductive Exchanges (servers : Servers) (policy : RedirectPolicy) (timeoutMillis : Nat) :
    Nat → Nat → Url → List Url → Reply → Prop where
  /-- There is never an answer. -/
  | silent (left elapsed : Nat) (u : Url) (hreply : servers.reply left u = .silent) :
    Exchanges servers policy timeoutMillis left elapsed u [u] .silent
  /-- The connection is not made, or dropped before there is an answer. -/
  | dropped (left elapsed : Nat) (u : Url) (millis : Nat)
      (hreply : servers.reply left u = .unsent millis) :
    Exchanges servers policy timeoutMillis left elapsed u [u] (.unsent (elapsed + millis))
  /-- The answer is the last one. -/
  | last (left elapsed : Nat) (u : Url) (millis : Nat) (r : Response)
      (hreply : servers.reply left u = .answered millis r) (hsequel : policy.sequel u r = .last) :
    Exchanges servers policy timeoutMillis left elapsed u [u] (.answered (elapsed + millis) r)
  /-- The answer sends the client where it does not go. -/
  | refused (left elapsed : Nat) (u : Url) (millis : Nat) (r : Response)
      (hreply : servers.reply left u = .answered millis r)
      (hsequel : policy.sequel u r = .refused) :
    Exchanges servers policy timeoutMillis left elapsed u [u] (.unsent (elapsed + millis))
  /-- The answer sends the client on once too often. -/
  | exhausted (elapsed : Nat) (u : Url) (millis : Nat) (r : Response) (target : Url)
      (hreply : servers.reply 0 u = .answered millis r)
      (hsequel : policy.sequel u r = .moved target) :
    Exchanges servers policy timeoutMillis 0 elapsed u [u] (.unsent (elapsed + millis))
  /-- There is no time left for one more request. -/
  | spent (left elapsed : Nat) (u : Url) (millis : Nat) (r : Response) (target : Url)
      (hreply : servers.reply (left + 1) u = .answered millis r)
      (hsequel : policy.sequel u r = .moved target)
      (htime : timeoutMillis ≤ elapsed + millis) :
    Exchanges servers policy timeoutMillis (left + 1) elapsed u [u] .silent
  /-- The client goes on from where the answer sends it. -/
  | moved (left elapsed : Nat) (u : Url) (millis : Nat) (r : Response) (target : Url)
      (sent : List Url) (reply : Reply) (hreply : servers.reply (left + 1) u = .answered millis r)
      (hsequel : policy.sequel u r = .moved target) (htime : elapsed + millis < timeoutMillis)
      (hrest : Exchanges servers policy timeoutMillis left (elapsed + millis) target.requested
        sent reply) :
    Exchanges servers policy timeoutMillis (left + 1) elapsed u (u :: sent) reply

/-! ## One request -/

variable {now millis : Nat} {target : Url} {r : Response}

/-- An answer that sends the client on. -/
theorem course_of_moved (hreply : servers.reply left u = .answered millis r)
    (hsequel : policy.sequel u r = .moved target) :
    policy.course elapsed u (servers.reply left u) = .moved (elapsed + millis) target := by
  rw [hreply, RedirectPolicy.course, hsequel]

/-- The call ends with what comes back for a request, however many redirects are left. -/
theorem exchange_of_ended (h : policy.course elapsed u (servers.reply left u) = .ended reply) :
    servers.exchange policy timeoutMillis left elapsed u = ⟨[u], reply⟩ := by
  cases left with
  | zero => simp [exchange, CatalogSearch.exchange, h]
  | succ left => simp [exchange, CatalogSearch.exchange, h]

/-- The call ends if the client is sent on once too often. -/
theorem exchange_zero_of_moved
    (h : policy.course elapsed u (servers.reply 0 u) = .moved now target) :
    servers.exchange policy timeoutMillis 0 elapsed u = ⟨[u], .unsent now⟩ := by
  simp [exchange, CatalogSearch.exchange, h]

/-- The call ends if there is no time left for one more request. -/
theorem exchange_succ_of_le
    (h : policy.course elapsed u (servers.reply (left + 1) u) = .moved now target)
    (htime : timeoutMillis ≤ now) :
    servers.exchange policy timeoutMillis (left + 1) elapsed u = ⟨[u], .silent⟩ := by
  simp [exchange, CatalogSearch.exchange, h, Nat.not_lt.mpr htime]

/-- The call goes on from where the client is sent. -/
theorem exchange_succ_of_lt
    (h : policy.course elapsed u (servers.reply (left + 1) u) = .moved now target)
    (htime : now < timeoutMillis)
    (hrest : servers.exchange policy timeoutMillis left now target.requested = ⟨sent, reply⟩) :
    servers.exchange policy timeoutMillis (left + 1) elapsed u = ⟨u :: sent, reply⟩ := by
  rw [exchange] at hrest
  simp [exchange, CatalogSearch.exchange, h, htime, hrest]

/-! ## Whole calls -/

/-- A call goes as its requests do. -/
theorem Exchanges.exchange_eq
    (h : servers.Exchanges policy timeoutMillis left elapsed u sent reply) :
    servers.exchange policy timeoutMillis left elapsed u = ⟨sent, reply⟩ := by
  -- By induction on the rules. All but the last end the call with its first request.
  induction h with
  | silent left elapsed u hreply =>
    refine exchange_of_ended ?_
    rw [hreply, RedirectPolicy.course]
  | dropped left elapsed u millis hreply =>
    refine exchange_of_ended ?_
    rw [hreply, RedirectPolicy.course]
  | last left elapsed u millis r hreply hsequel =>
    refine exchange_of_ended ?_
    rw [hreply, RedirectPolicy.course, hsequel]
  | refused left elapsed u millis r hreply hsequel =>
    refine exchange_of_ended ?_
    rw [hreply, RedirectPolicy.course, hsequel]
  | exhausted elapsed u millis r target hreply hsequel =>
    exact exchange_zero_of_moved (course_of_moved hreply hsequel)
  | spent left elapsed u millis r target hreply hsequel htime =>
    exact exchange_succ_of_le (course_of_moved hreply hsequel) htime
  | moved left elapsed u millis r target sent reply hreply hsequel htime hrest ih =>
    exact exchange_succ_of_lt (course_of_moved hreply hsequel) htime ih

/-- Every call goes somehow. -/
theorem exists_exchanges (servers : Servers) (policy : RedirectPolicy)
    (timeoutMillis left elapsed : Nat) (u : Url) :
    ∃ sent reply, servers.Exchanges policy timeoutMillis left elapsed u sent reply := by
  cases hreply : servers.reply left u with
  | silent => exact ⟨_, _, .silent left elapsed u hreply⟩
  | unsent millis => exact ⟨_, _, .dropped left elapsed u millis hreply⟩
  | answered millis r =>
    cases hsequel : policy.sequel u r with
    | last => exact ⟨_, _, .last left elapsed u millis r hreply hsequel⟩
    | refused => exact ⟨_, _, .refused left elapsed u millis r hreply hsequel⟩
    | moved target =>
      -- Only here does it matter how many redirects are left, and each takes one of them.
      cases left with
      | zero => exact ⟨_, _, .exhausted elapsed u millis r target hreply hsequel⟩
      | succ left =>
        by_cases htime : elapsed + millis < timeoutMillis
        · obtain ⟨sent, reply, hrest⟩ :=
            exists_exchanges servers policy timeoutMillis left (elapsed + millis) target.requested
          exact ⟨_, _, .moved left _ _ millis r target sent reply hreply hsequel htime hrest⟩
        · exact ⟨_, _, .spent left _ _ millis r target hreply hsequel (Nat.not_lt.mp htime)⟩

/-- **Calls go just so**: each in one way, request by request. -/
theorem exchange_eq_iff :
    servers.exchange policy timeoutMillis left elapsed u = ⟨sent, reply⟩ ↔
      servers.Exchanges policy timeoutMillis left elapsed u sent reply := by
  constructor
  · intro h
    obtain ⟨sent', reply', h'⟩ := exists_exchanges servers policy timeoutMillis left elapsed u
    obtain ⟨rfl, rfl⟩ := Exchange.mk.inj (h'.exchange_eq.symm.trans h)
    exact h'
  · exact Exchanges.exchange_eq

namespace Exchanges

/-- The first request is the one for the URL itself. -/
theorem head?_eq (h : servers.Exchanges policy timeoutMillis left elapsed u sent reply) :
    sent.head? = some u := by
  cases h <;> rfl

/-- **There is at most one request more** than redirects are left to follow. -/
theorem length_le (h : servers.Exchanges policy timeoutMillis left elapsed u sent reply) :
    sent.length ≤ left + 1 := by
  induction h with
  | moved left elapsed u millis r target sent reply hreply hsequel htime hrest ih =>
    rw [List.length_cons]
    exact Nat.succ_le_succ ih
  | _ => exact Nat.succ_le_succ (Nat.zero_le _)

end Exchanges

/-- **Servers that send nobody on** are a network as they are. -/
theorem network_of_last (h : ∀ u r, policy.sequel u r = .last) :
    servers.network policy timeoutMillis = servers.reply policy.limit := by
  funext u
  have hended : policy.course 0 u (servers.reply policy.limit u) =
      .ended (servers.reply policy.limit u) := by
    cases servers.reply policy.limit u with
    | silent => rfl
    | unsent millis => rw [RedirectPolicy.course, Nat.zero_add]
    | answered millis r => rw [RedirectPolicy.course, h, Nat.zero_add]
  rw [network, exchange_of_ended hended]

end CatalogSearch.Servers
