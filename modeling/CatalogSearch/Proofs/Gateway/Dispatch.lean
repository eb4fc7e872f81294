import CatalogSearch.Proofs.Gateway.Endings

/-! # Checks before the first request

Whatever can be wrong with a request to many sources is found before any of them is asked. After
that nothing fails: every source is asked once, and what comes of it is a result.

* **`Run.Guarded`**: a run that fails before it asks anybody, or else asks everybody once;
* **`Gateway.guarded_gather`**: calls that are made up before they are sent are such a run;
* **`Source.SearchFault`**, **`Source.SubjectsFault`**: what can be wrong with asking a source;
* **`Gateway.guarded_searchAll`**, **`Gateway.guarded_subjects`**: the faults of many sources;
* **`Gateway.asked_details`**: what is asked for one item. -/

namespace CatalogSearch

/-! ## Runs in sequence -/

namespace Run

variable {α β γ τ : Type}

/-- To leave the result as it is leaves the run as it is. -/
theorem map_id (run : Run α) : id <$> run = run := by
  obtain ⟨asked, result⟩ := run
  cases result with
  | error e => rfl
  | ok a =>
    show (⟨asked ++ [], .ok a⟩ : Run α) = _
    rw [List.append_nil]

/-- Runs in sequence can be grouped in any way. -/
theorem andThen_assoc (run : Run α) (f : α → Run β) (g : β → Run γ) :
    (run >>= f) >>= g = run >>= fun a => f a >>= g := by
  obtain ⟨asked, result⟩ := run
  cases result with
  | error e => rfl
  | ok a =>
    show andThen ⟨asked ++ (f a).asked, (f a).result⟩ g =
      ⟨asked ++ (andThen (f a) g).asked, (andThen (f a) g).result⟩
    unfold andThen
    cases (f a).result with
    | error e => rfl
    | ok b =>
      show (⟨(asked ++ (f a).asked) ++ (g b).asked, (g b).result⟩ : Run γ) = _
      rw [List.append_assoc]

instance : LawfulMonad Run := LawfulMonad.mk' Run map_id (fun _ _ => rfl) andThen_assoc

/-- A result is changed without asking. -/
theorem asked_bind_pure (run : Run α) (f : α → β) :
    (run >>= fun a => pure (f a)).asked = run.asked := by
  obtain ⟨asked, result⟩ := run
  cases result with
  | error e => rfl
  | ok a => exact List.append_nil asked

/-- A result is changed if there is one. -/
theorem result_bind_pure (run : Run α) (f : α → β) :
    (run >>= fun a => pure (f a)).result = run.result.map f := by
  obtain ⟨asked, result⟩ := run
  cases result with
  | error e => rfl
  | ok a => rfl

/-! ## Guarded runs -/

/-- **A run that fails before it asks anybody, or else asks everybody once**, each at one site. A
site that no request can go to counts as asked, although nothing is sent there. -/
structure Guarded (run : Run α) (g : Gateway) (cancel : Cancellation) (fault : Failure → Prop)
    (targets : List τ) (site : τ → Except Failure Url) : Prop where
  /-- It fails with its faults, and in no other way. -/
  error_iff : ∀ e, run.result = .error e ↔ fault e
  /-- A failure is none of a source, and then nobody has been asked. -/
  unasked : ∀ e, run.result = .error e → e.isSourceFailure = false ∧ run.asked = []
  /-- Nobody is asked twice. -/
  once : ∀ a, run.result = .ok a →
    ∃ urls, List.Forall₂ (fun t u => site t = .ok u) targets urls ∧ run.asked.Sublist urls
  /-- Everybody is asked if there is time for it and the caller does not cancel. -/
  everybody : ∀ a, run.result = .ok a → g.settings.timeoutMillis ≠ 0 → cancel = none →
    List.Forall₂ (fun t u => site t = .ok u) targets run.asked
  /-- Nobody is asked if the caller has cancelled before. -/
  nobody : cancel = some 0 → run.asked = []

namespace Guarded

variable {run : Run α} {g : Gateway} {cancel : Cancellation} {fault : Failure → Prop}
  {targets : List τ} {site : τ → Except Failure Url}

/-- Faults can be told in other words. -/
theorem congr {fault' : Failure → Prop} (h : run.Guarded g cancel fault targets site)
    (hfault : ∀ e, fault e ↔ fault' e) : run.Guarded g cancel fault' targets site :=
  { h with error_iff := fun e => (h.error_iff e).trans (hfault e) }

/-- What is made of the result asks nobody. -/
theorem bind_pure (h : run.Guarded g cancel fault targets site) (f : α → β) :
    Guarded (run >>= fun a => pure (f a)) g cancel fault targets site where
  error_iff e := by rw [result_bind_pure, map_eq_error_iff, h.error_iff]
  unasked e he := by
    rw [result_bind_pure, map_eq_error_iff] at he
    rw [asked_bind_pure]
    exact h.unasked e he
  once b hb := by
    rw [result_bind_pure, map_eq_ok_iff] at hb
    obtain ⟨a, ha, -⟩ := hb
    rw [asked_bind_pure]
    exact h.once a ha
  everybody b hb := by
    rw [result_bind_pure, map_eq_ok_iff] at hb
    obtain ⟨a, ha, -⟩ := hb
    rw [asked_bind_pure]
    exact h.everybody a ha
  nobody hcancel := by rw [asked_bind_pure, h.nobody hcancel]

end Guarded

/-- A failure before anybody is asked is a guarded run. -/
theorem guarded_ofExcept_error {e : Failure} (he : e.isSourceFailure = false) (g : Gateway)
    (cancel : Cancellation) (targets : List τ) (site : τ → Except Failure Url) :
    Guarded (ofExcept (.error e) : Run α) g cancel (e = ·) targets site where
  error_iff e' := by
    constructor
    · rintro ⟨⟩
      rfl
    · rintro rfl
      rfl
  unasked e' := by
    rintro ⟨⟩
    exact ⟨he, rfl⟩
  once a := by rintro ⟨⟩
  everybody a := by rintro ⟨⟩
  nobody _ := rfl

end Run

/-! ## Calls made up before they are sent -/

namespace Gateway

variable {τ α : Type} [Inhabited α]

/-- All calls are made at the start, unless the caller has cancelled before. -/
theorem asked_gather (g : Gateway) (cancel : Cancellation)
    (read : Call → Response → Except Failure α) (calls : List Call) :
    (g.gather cancel read calls).asked = if cancel = some 0 then [] else calls.map (·.url) :=
  List.append_nil _

/-- **Calls that are made up before they are sent**: what is wrong with the first of those that
cannot be made up is the failure of all, and then none of them is sent. -/
theorem guarded_gather (g : Gateway) (cancel : Cancellation) (call : τ → Except Failure Call)
    (read : Call → Response → Except Failure α) (targets : List τ)
    (hcall : ∀ t e, call t = .error e → e.isSourceFailure = false) :
    Run.Guarded
      (do
        let calls ← Run.ofExcept (targets.mapM call)
        let answers ← g.gather cancel read calls
        pure (calls, answers))
      g cancel (FirstFault (fun t e => call t = .error e) targets) targets
      (fun t => (call t).map (·.url)) := by
  cases hcalls : targets.mapM call with
  | error e =>
    -- Nothing has been sent yet, so that the failure is all there is.
    obtain ⟨-, t, -, -, -, ht⟩ := mapM_eq_error_iff.mp hcalls
    rw [Run.ofExcept_error_bind]
    refine (Run.guarded_ofExcept_error (hcall t e ht) g cancel targets _).congr fun e' => ?_
    rw [← mapM_eq_error_iff, hcalls, Except.error.injEq]
  | ok calls =>
    rw [Run.ofExcept_ok_bind]
    have hasked := Run.asked_bind_pure (g.gather cancel read calls) fun answers => (calls, answers)
    rw [asked_gather] at hasked
    have hsites : List.Forall₂ (fun t u => (call t).map (·.url) = .ok u) targets
        (calls.map (·.url)) := by
      rw [List.forall₂_map_right_iff]
      refine (mapM_eq_ok_iff.mp hcalls).imp fun t c htc => ?_
      rw [htc]
      rfl
    refine { error_iff := fun e => ?_, unasked := ?_, once := fun a ha => ?_,
             everybody := fun a ha htime hcancel => ?_, nobody := fun hcancel => ?_ }
    · constructor
      · rintro ⟨⟩
      · intro he
        rw [← mapM_eq_error_iff, hcalls] at he
        cases he
    · rintro e ⟨⟩
    · refine ⟨_, hsites, ?_⟩
      rw [hasked]
      by_cases hcancel : cancel = some 0
      · rw [if_pos hcancel]
        exact List.nil_sublist _
      · rw [if_neg hcancel]
    · rw [hasked, hcancel]
      exact hsites
    · rw [hasked, if_pos hcancel]

end Gateway

/-! ## What can be wrong with asking a source -/

namespace Source

variable {st : Gateway.Settings} {page : PageRequest} {s : Source} {r : SearchRequest} {e : Failure}

/-- **What can be wrong with a search of a source**: the filter cannot be said in its dialect, or
else base and path are no URL. -/
inductive SearchFault (st : Gateway.Settings) (s : Source) (r : SearchRequest) :
    Failure → Prop where
  | filter (fault : EncodingFault) (hfilter : r.encodedFilter s.dialect = .error fault) :
    SearchFault st s r (.encoding fault)
  | url (filter : List Char) (fault : UrlFault) (hfilter : r.encodedFilter s.dialect = .ok filter)
      (hurl : Url.read (joinPath s.searchBaseUrl.toList st.searchPath.toList) = .error fault) :
    SearchFault st s r (.invalidSourceUrl s.displayName
      (.unreadable (String.ofList (joinPath s.searchBaseUrl.toList st.searchPath.toList)) fault))

/-- **What can be wrong with asking a source for its subjects**: base and path are no URL. -/
inductive SubjectsFault (st : Gateway.Settings) (s : Source) : Failure → Prop where
  | url (fault : UrlFault)
      (hurl : Url.read (joinPath s.searchBaseUrl.toList st.subjectPath.toList) = .error fault) :
    SubjectsFault st s (.invalidSourceUrl s.displayName
      (.unreadable (String.ofList (joinPath s.searchBaseUrl.toList st.subjectPath.toList)) fault))

/-- Base and path are no URL if they cannot be read as one. -/
theorem endpoint_eq_error_iff {base path : String} :
    s.endpoint base path = .error e ↔
      ∃ fault, Url.read (joinPath base.toList path.toList) = .error fault ∧
        .invalidSourceUrl s.displayName
          (.unreadable (String.ofList (joinPath base.toList path.toList)) fault) = e :=
  mapError_eq_error_iff

/-- **There are no other ways** in which a search of a source fails to be made up. -/
theorem searchUrl_eq_error_iff : s.searchUrl st page r = .error e ↔ s.SearchFault st r e := by
  rw [searchUrl, bind_eq_error_iff, mapError_eq_error_iff]
  constructor
  · rintro (⟨fault, hfilter, rfl⟩ | ⟨filter, hfilter, h⟩)
    · exact .filter fault hfilter
    · rcases bind_eq_error_iff.mp h with hurl | ⟨url, -, ⟨⟩⟩
      obtain ⟨fault, hread, rfl⟩ := endpoint_eq_error_iff.mp hurl
      exact .url filter fault (mapError_eq_ok_iff.mp hfilter) hread
  · rintro (⟨fault, hfilter⟩ | ⟨filter, fault, hfilter, hread⟩)
    · exact Or.inl ⟨fault, hfilter, rfl⟩
    · refine Or.inr ⟨filter, mapError_eq_ok_iff.mpr hfilter, bind_eq_error_iff.mpr (Or.inl ?_)⟩
      exact endpoint_eq_error_iff.mpr ⟨fault, hread, rfl⟩

/-- There are no other ways in which asking for subjects fails to be made up. -/
theorem subjectsUrl_eq_error_iff : s.subjectsUrl st = .error e ↔ s.SubjectsFault st e := by
  rw [subjectsUrl, endpoint_eq_error_iff]
  constructor
  · rintro ⟨fault, hread, rfl⟩
    exact .url fault hread
  · rintro ⟨fault, hread⟩
    exact ⟨fault, hread, rfl⟩

/-- **A source that cannot be searched** for what a request asks: the filter cannot be said in its
dialect, or base and path are no URL. -/
def Unsearchable (st : Gateway.Settings) (s : Source) (r : SearchRequest) : Prop :=
  (∃ fault, r.encodedFilter s.dialect = .error fault) ∨
    ∃ fault, Url.read (joinPath s.searchBaseUrl.toList st.searchPath.toList) = .error fault

/-- Something is wrong with a search of a source if that cannot be searched. -/
theorem exists_searchFault_iff : (∃ e, s.SearchFault st r e) ↔ s.Unsearchable st r := by
  constructor
  · rintro ⟨e, ⟨fault, hfilter⟩ | ⟨filter, fault, -, hurl⟩⟩
    · exact Or.inl ⟨fault, hfilter⟩
    · exact Or.inr ⟨fault, hurl⟩
  · intro h
    unfold Unsearchable at h
    -- The filter is looked at first.
    cases hfilter : r.encodedFilter s.dialect with
    | error fault => exact ⟨_, .filter fault hfilter⟩
    | ok filter =>
      rw [hfilter] at h
      rcases h with ⟨fault, ⟨⟩⟩ | ⟨fault, hurl⟩
      exact ⟨_, .url filter fault hfilter hurl⟩

/-- Something is wrong with asking for subjects if base and path are no URL. -/
theorem exists_subjectsFault_iff :
    (∃ e, s.SubjectsFault st e) ↔
      ∃ fault, Url.read (joinPath s.searchBaseUrl.toList st.subjectPath.toList) = .error fault := by
  constructor
  · rintro ⟨e, ⟨fault, hurl⟩⟩
    exact ⟨fault, hurl⟩
  · rintro ⟨fault, hurl⟩
    exact ⟨_, .url fault hurl⟩

/-- What is wrong with a search is no failure of a source. -/
theorem SearchFault.isSourceFailure_eq_false (h : s.SearchFault st r e) :
    e.isSourceFailure = false := by
  cases h with
  | filter => rfl
  | url => rfl

/-- What is wrong with asking for subjects is no failure of a source. -/
theorem SubjectsFault.isSourceFailure_eq_false (h : s.SubjectsFault st e) :
    e.isSourceFailure = false := by
  cases h with
  | url => rfl

end Source

/-! ## Asking many sources -/

namespace Gateway

/-- A call goes where its source is searched. -/
theorem map_url_searchCall (g : Gateway) (page : PageRequest) (q : Source × SearchRequest) :
    (g.searchCall page q).map (·.url) = q.1.searchUrl g.settings page q.2 := by
  unfold searchCall
  cases q.1.searchUrl g.settings page q.2 with
  | error e => rfl
  | ok u => rfl

/-- A call for subjects goes where its source is asked for them. -/
theorem map_url_subjectsCall (g : Gateway) (s : Source) :
    (g.subjectsCall s).map (·.url) = s.subjectsUrl g.settings := by
  unfold subjectsCall
  cases s.subjectsUrl g.settings with
  | error e => rfl
  | ok u => rfl

/-- A call fails to be made up as the URL of its search does. -/
theorem searchCall_eq_error_iff {g : Gateway} {page : PageRequest} {q : Source × SearchRequest}
    {e : Failure} : g.searchCall page q = .error e ↔ q.1.SearchFault g.settings q.2 e := by
  rw [searchCall, map_eq_error_iff, Source.searchUrl_eq_error_iff]

/-- A call for subjects fails to be made up as its URL does. -/
theorem subjectsCall_eq_error_iff {g : Gateway} {s : Source} {e : Failure} :
    g.subjectsCall s = .error e ↔ s.SubjectsFault g.settings e := by
  rw [subjectsCall, map_eq_error_iff, Source.subjectsUrl_eq_error_iff]

/-- **A search at many sources** fails with the first of them that something is wrong with, before
any is asked, or else asks each of them once. -/
theorem guarded_searchAll (g : Gateway) (cancel : Cancellation) {page : PageRequest}
    (hpage : page.validate = .ok ()) (queries : List (Source × SearchRequest)) :
    (g.searchAll queries page cancel).Guarded g cancel
      (FirstFault (fun q e => q.1.SearchFault g.settings q.2 e) queries) queries
      (fun q => q.1.searchUrl g.settings page q.2) := by
  have hguarded := guarded_gather g cancel (g.searchCall page) readAnswer queries
    fun q e hq => (searchCall_eq_error_iff.mp hq).isSourceFailure_eq_false
  simp only [map_url_searchCall, searchCall_eq_error_iff] at hguarded
  have hresults := hguarded.bind_pure fun p =>
    p.1.zipWith (fun c a => SourceResult.ofAnswer c.source a) p.2
  simp only [bind_assoc, pure_bind] at hresults
  rw [searchAll, hpage, Run.ofExcept_ok_bind]
  exact hresults

/-- **Asking many sources for their subjects** fails with the first of them whose URL cannot be
read, before any is asked, or else asks each of them once. -/
theorem guarded_subjects (g : Gateway) (cancel : Cancellation) (sources : List Source) :
    (g.subjects sources cancel).Guarded g cancel
      (FirstFault (fun s e => s.SubjectsFault g.settings e) sources) sources
      (fun s => s.subjectsUrl g.settings) := by
  have hguarded := guarded_gather g cancel g.subjectsCall readSubjects sources
    fun s e hs => (subjectsCall_eq_error_iff.mp hs).isSourceFailure_eq_false
  simp only [map_url_subjectsCall, subjectsCall_eq_error_iff] at hguarded
  have hnames := hguarded.bind_pure fun p => p.2.flatten.eraseDups
  simp only [bind_assoc, pure_bind] at hnames
  exact hnames

/-- What comes of asking for one item whose URL has been made up. -/
theorem details_of_url {g : Gateway} {s : Source} {itemId : String} {url : Url}
    (hurl : s.detailsUrl g.settings itemId = .ok url) :
    g.details s itemId = ⟨[url], (g.response ⟨s, url⟩).bind (readItem s itemId)⟩ := by
  rw [details, hurl, Run.ofExcept_ok_bind]
  rfl

/-- **One item is asked for once**, if its URL can be made up. -/
theorem asked_details (g : Gateway) (s : Source) (itemId : String) :
    (g.details s itemId).asked = (s.detailsUrl g.settings itemId).toOption.toList := by
  cases hurl : s.detailsUrl g.settings itemId with
  | error e =>
    rw [details, hurl]
    rfl
  | ok url =>
    rw [details_of_url hurl]
    rfl

end Gateway

end CatalogSearch
