import CatalogSearch.Proofs.Attempt
import CatalogSearch.Proofs.Config.Faults

/-! # What the layers make together

The environment wins over the file, and the file over what is usual. What the environment says is
set variable by variable, but nothing is set if the timeout that it gives is no number. What comes
of all layers is accepted or not as a whole.

* **`Config.TimeoutFrom`**, **`Config.withVariables`**: what the environment makes of a
  configuration;
* **`Config.run_applyEnvironment`**: it makes this of it, or leaves it as it is;
* **`Config.FileSays`**: what the file says, which is nothing without a file;
* **`Config.Layered`**: a configuration that is made of its layers;
* **`Config.load_layers`**: when there is one, and which. -/

namespace CatalogSearch.Config

/-! ## The environment -/

variable {lookup : String → Option String} {c c' : Config} {fault : ConfigFault}

/-- **The timeout that the environment leads to**, over the one below it: the number its variable
gives, which has to be one of 64 bits, or the one below if the variable is not set. -/
def TimeoutFrom (lookup : String → Option String) (below timeout : UInt64) : Prop :=
  match lookup "LOR_REQUEST_TIMEOUT_SECS" with
  | some raw => Text.readBounded? maxTimeout (Text.trim raw.toList) = some timeout.toNat
  | none => timeout = below

/-- **What the environment makes of a configuration**, with the timeout that it leads to. -/
def withVariables (lookup : String → Option String) (timeout : UInt64) (c : Config) : Config where
  requestTimeoutSecs := timeout
  searchPath := (lookup "LOR_SEARCH_PATH").getD c.searchPath
  detailsPath := (lookup "LOR_DETAILS_PATH").getD c.detailsPath
  subjectPath := (lookup "LOR_SUBJECT_PATH").getD c.subjectPath
  dufProviderName := ((lookup "LOR_DUF_PROVIDER_NAME").map dufNameOf).getD c.dufProviderName
  sources := c.sources

/-! ## Setting one thing after the other -/

/-- The number of a text that is read within a bound is within the bound. -/
theorem le_of_readBounded? {bound n : Nat} {cs : List Char}
    (h : Text.readBounded? bound cs = some n) : n ≤ bound := by
  rw [Text.readBounded?, Option.filter_eq_some_iff] at h
  exact of_decide_eq_true h.2

/-- What follows a thing that is done is done next. -/
theorem run_bind_of_ok {x y : Setting Unit} (h : x.run.run c = (.ok (), c')) :
    (x >>= fun _ => y).run.run c = y.run.run c' := by
  rw [ExceptT.run_bind, StateT.run_bind, h]
  rfl

/-- What follows a fault is not done. -/
theorem run_bind_of_error {x y : Setting Unit} (h : x.run.run c = (.error fault, c')) :
    (x >>= fun _ => y).run.run c = (.error fault, c') := by
  rw [ExceptT.run_bind, StateT.run_bind, h]
  rfl

/-- **The timeout is set** if the environment leads to one. -/
theorem run_setTimeout_of_from {timeout : UInt64}
    (h : TimeoutFrom lookup c.requestTimeoutSecs timeout) :
    (withVariable lookup "LOR_REQUEST_TIMEOUT_SECS" setTimeout).run.run c =
      (.ok (), { c with requestTimeoutSecs := timeout }) := by
  rw [TimeoutFrom] at h
  rw [withVariable]
  cases hraw : lookup "LOR_REQUEST_TIMEOUT_SECS" with
  | none =>
    rw [hraw] at h
    subst h
    rfl
  | some raw =>
    rw [hraw] at h
    have hword : UInt64.ofNat timeout.toNat = timeout := UInt64.ofNat_toNat
    simp only [setTimeout, h, hword]
    rfl

/-- **Nothing is set** if the environment leads to no timeout. -/
theorem run_setTimeout_of_not_from
    (h : ∀ timeout, ¬ TimeoutFrom lookup c.requestTimeoutSecs timeout) :
    ∃ raw, (withVariable lookup "LOR_REQUEST_TIMEOUT_SECS" setTimeout).run.run c =
      (.error (.timeoutNoNumber raw), c) := by
  simp only [TimeoutFrom] at h
  rw [withVariable]
  cases hraw : lookup "LOR_REQUEST_TIMEOUT_SECS" with
  | none =>
    rw [hraw] at h
    exact absurd rfl (h c.requestTimeoutSecs)
  | some raw =>
    rw [hraw] at h
    cases hread : Text.readBounded? maxTimeout (Text.trim raw.toList) with
    | none =>
      refine ⟨raw, ?_⟩
      simp only [setTimeout, hread]
      rfl
    | some n =>
      have hle : n ≤ UInt64.size - 1 := le_of_readBounded? hread
      have hlt : n < UInt64.size := Nat.lt_of_le_of_lt hle (by decide)
      refine absurd ?_ (h (UInt64.ofNat n))
      show Text.readBounded? maxTimeout (Text.trim raw.toList) = some (UInt64.ofNat n).toNat
      rw [hread, UInt64.toNat_ofNat_of_lt' hlt]

/-- **All variables are set** if the environment leads to a timeout. -/
theorem run_applyEnvironment_of_from {timeout : UInt64}
    (h : TimeoutFrom lookup c.requestTimeoutSecs timeout) :
    (applyEnvironment lookup).run.run c = (.ok (), c.withVariables lookup timeout) := by
  rw [applyEnvironment, run_bind_of_ok (run_setTimeout_of_from h), withVariables]
  -- Each of the other variables is there or not, and sets its own value only.
  simp only [withVariable]
  cases lookup "LOR_SEARCH_PATH" <;> cases lookup "LOR_DETAILS_PATH" <;>
    cases lookup "LOR_SUBJECT_PATH" <;> cases lookup "LOR_DUF_PROVIDER_NAME" <;> rfl

/-- **A configuration stays as it is** if the environment leads to no timeout. -/
theorem run_applyEnvironment_of_not_from
    (h : ∀ timeout, ¬ TimeoutFrom lookup c.requestTimeoutSecs timeout) :
    ∃ raw, (applyEnvironment lookup).run.run c = (.error (.timeoutNoNumber raw), c) := by
  obtain ⟨raw, hraw⟩ := run_setTimeout_of_not_from h
  exact ⟨raw, run_bind_of_error hraw⟩

/-- **After a fault a configuration is as it was.** -/
theorem eq_of_run_applyEnvironment (h : (applyEnvironment lookup).run.run c = (.error fault, c')) :
    c' = c := by
  by_cases hfrom : ∃ timeout, TimeoutFrom lookup c.requestTimeoutSecs timeout
  · obtain ⟨timeout, htimeout⟩ := hfrom
    rw [run_applyEnvironment_of_from htimeout] at h
    cases h
  · obtain ⟨raw, hraw⟩ := run_applyEnvironment_of_not_from (not_exists.mp hfrom)
    rw [hraw] at h
    cases h
    rfl

/-- What comes of a configuration and an environment that leads to a timeout. -/
theorem override_eq_ok_iff :
    c.override lookup = .ok c' ↔
      ∃ timeout, TimeoutFrom lookup c.requestTimeoutSecs timeout ∧
        c' = c.withVariables lookup timeout := by
  rw [override]
  constructor
  · intro h
    by_cases hfrom : ∃ timeout, TimeoutFrom lookup c.requestTimeoutSecs timeout
    · obtain ⟨timeout, htimeout⟩ := hfrom
      rw [run_applyEnvironment_of_from htimeout] at h
      exact ⟨timeout, htimeout, (Except.ok.inj h).symm⟩
    · obtain ⟨raw, hraw⟩ := run_applyEnvironment_of_not_from (not_exists.mp hfrom)
      rw [hraw] at h
      cases h
  · rintro ⟨timeout, htimeout, rfl⟩
    rw [run_applyEnvironment_of_from htimeout]

/-! ## The file -/

variable {env : Environment} {path : Option String} {ms : Toml.Table} {file : Config}

/-- **What the file says**: the table of its text, or nothing at all if there is no file. -/
def FileSays (env : Environment) (path : Option String) (ms : Toml.Table) : Prop :=
  match path <|> env.lookup pathVariable with
  | some path => ∃ cs, env.text path = .ok cs ∧ Toml.read? cs = some ms
  | none => ms = []

/-- A text that the file gives for a setting. -/
def textMember (ms : Toml.Table) (name : String) : Option String :=
  (ms.lookup name).bind Toml.text?

/-- The values that the file gives for sources. -/
def sourceMembers (ms : Toml.Table) : List Toml := ((ms.lookup "sources").bind Toml.items?).getD []

/-- A value that may be missing is the one that is read, or the usual one. -/
theorem eq_getD_of_orUsual {α : Type} {usual a : α} {read : Toml → Option α} {v : Option Toml}
    (h : Toml.orUsual usual read v = some a) : a = (v.bind read).getD usual := by
  cases v with
  | none => exact (Option.some.inj h).symm
  | some v =>
    have hread : read v = some a := h
    rw [Option.bind_some, hread, Option.getD_some]

/-- **A configuration that is read off a table**: what the table gives, and what is usual where it
gives nothing. -/
structure ReadFrom (ms : Toml.Table) (c : Config) : Prop where
  timeout : c.requestTimeoutSecs =
    ((ms.lookup "request_timeout_secs").bind Toml.word64?).getD 10
  searchPath : c.searchPath = (textMember ms "search_path").getD "/resources"
  detailsPath : c.detailsPath = (textMember ms "details_path").getD "/resources"
  subjectPath : c.subjectPath = (textMember ms "subject_path").getD "/subjects"
  dufProviderName : c.dufProviderName = textMember ms "duf_provider_name"
  sources : (sourceMembers ms).mapM SourceConfig.ofToml? = some c.sources

/-- **A table that is accepted** gives each setting its value. -/
theorem readFrom_of_ofTable? (h : ofTable? ms = some c) : ReadFrom ms c := by
  simp only [ofTable?, Option.bind_eq_bind, Option.bind_eq_some_iff, Option.pure_def,
    Option.some.injEq] at h
  obtain ⟨timeout, htimeout, search, hsearch, details, hdetails, subject, hsubject, duf, hduf,
    sources, hsources, rfl⟩ := h
  refine ⟨eq_getD_of_orUsual htimeout, eq_getD_of_orUsual hsearch, eq_getD_of_orUsual hdetails,
    eq_getD_of_orUsual hsubject, ?_, ?_⟩
  · cases hmember : ms.lookup "duf_provider_name" with
    | none =>
      rw [hmember] at hduf
      cases hduf
      rw [textMember, hmember, Option.bind_none]
    | some v =>
      rw [hmember] at hduf
      obtain ⟨name, hname, rfl⟩ := Option.map_eq_some_iff.mp hduf
      rw [textMember, hmember, Option.bind_some, hname]
  · cases hmember : ms.lookup "sources" with
    | none =>
      rw [hmember] at hsources
      cases hsources
      rw [sourceMembers, hmember]
      rfl
    | some v =>
      rw [hmember] at hsources
      obtain ⟨items, hitems, hall⟩ := Option.bind_eq_some_iff.mp hsources
      rw [sourceMembers, hmember, Option.bind_some, hitems, Option.getD_some, hall]

/-! ## All layers -/

/-- **A configuration is made of its layers**: each setting is what the environment gives, or else
what the file gives, or else what is usual, and the sources are those of the file, in order. -/
structure Layered (lookup : String → Option String) (ms : Toml.Table) (c : Config) : Prop where
  timeout : TimeoutFrom lookup (((ms.lookup "request_timeout_secs").bind Toml.word64?).getD 10)
    c.requestTimeoutSecs
  searchPath : c.searchPath =
    ((lookup "LOR_SEARCH_PATH").or (textMember ms "search_path")).getD "/resources"
  detailsPath : c.detailsPath =
    ((lookup "LOR_DETAILS_PATH").or (textMember ms "details_path")).getD "/resources"
  subjectPath : c.subjectPath =
    ((lookup "LOR_SUBJECT_PATH").or (textMember ms "subject_path")).getD "/subjects"
  dufProviderName : c.dufProviderName =
    ((lookup "LOR_DUF_PROVIDER_NAME").map dufNameOf).getD (textMember ms "duf_provider_name")
  sources : (sourceMembers ms).mapM SourceConfig.ofToml? = some c.sources

/-- What an upper layer gives wins over the one below, and that over what is usual. -/
theorem getD_getD {α : Type} (upper lower : Option α) (usual : α) :
    upper.getD (lower.getD usual) = (upper.or lower).getD usual := by
  cases upper with
  | none => rfl
  | some a => rfl

/-- What the environment makes of a configuration that is read off a table is made of its layers. -/
theorem ReadFrom.layered_withVariables (h : ReadFrom ms file) {timeout : UInt64}
    (htimeout : TimeoutFrom lookup file.requestTimeoutSecs timeout) :
    Layered lookup ms (file.withVariables lookup timeout) where
  timeout := h.timeout ▸ htimeout
  searchPath := by
    rw [withVariables, h.searchPath, getD_getD]
  detailsPath := by
    rw [withVariables, h.detailsPath, getD_getD]
  subjectPath := by
    rw [withVariables, h.subjectPath, getD_getD]
  dufProviderName := by
    rw [withVariables, h.dufProviderName]
  sources := h.sources

/-- A configuration is loaded from that of the file. -/
theorem load_eq (hms : FileSays env path ms) (hfile : ofTable? ms = some file) :
    load env path = do
      let c ← (file.override env.lookup).mapError Failure.config
      c.validate.mapError Failure.config
      return c := by
  simp only [FileSays] at hms
  simp only [load]
  cases hpath : path <|> env.lookup pathVariable with
  | none =>
    rw [hpath] at hms
    subst hms
    obtain rfl : {} = file := Option.some.inj hfile
    rfl
  | some p =>
    rw [hpath] at hms
    obtain ⟨cs, hcs, htable⟩ := hms
    have hread : ofFile env p = .ok file := by
      simp only [ofFile, hcs, ofToml?, htable, Option.bind_some, hfile]
    simp only [hread]
    rfl

/-- **A configuration is loaded** if it is what the environment makes of that of the file, and is
accepted. -/
theorem load_eq_ok_iff (hms : FileSays env path ms) (hfile : ofTable? ms = some file) :
    load env path = .ok c ↔ file.override env.lookup = .ok c ∧ c.validate = .ok () := by
  rw [load_eq hms hfile]
  constructor
  · intro h
    obtain ⟨c', hc', h⟩ := bind_eq_ok_iff.mp h
    obtain ⟨⟨⟩, hvalid, h⟩ := bind_eq_ok_iff.mp h
    cases h
    exact ⟨mapError_eq_ok_iff.mp hc', mapError_eq_ok_iff.mp hvalid⟩
  · rintro ⟨hoverride, hvalid⟩
    refine bind_eq_ok_iff.mpr ⟨c, mapError_eq_ok_iff.mpr hoverride, ?_⟩
    exact bind_eq_ok_iff.mpr ⟨(), mapError_eq_ok_iff.mpr hvalid, rfl⟩

/-- **Layers of a configuration.** Let the file, if there is one, be accepted. A configuration is
loaded just if the environment gives no timeout or one that is a number of 64 bits, what comes of it
is not zero, and the sources of the file have different ids and say where they are asked. It is then
made of its layers. Whatever else the environment says, a timeout that is no number leaves every
configuration as it was, and the fault that is told of one that is not accepted is a missing
timeout, or else that of the first faulty source. -/
theorem load_layers (hms : FileSays env path ms) (hfile : ofTable? ms = some file) :
    ((∃ c, load env path = .ok c) ↔
        (∃ timeout, TimeoutFrom env.lookup file.requestTimeoutSecs timeout ∧ timeout ≠ 0) ∧
          (file.sources.map (·.id)).Nodup ∧ ∀ s ∈ file.sources, s.Complete) ∧
      (∀ c, load env path = .ok c → Layered env.lookup ms c) ∧
      (∀ (lookup : String → Option String) (c c' : Config) (fault : ConfigFault),
        (applyEnvironment lookup).run.run c = (.error fault, c') → c' = c) ∧
      ∀ (c : Config) (fault : ConfigFault), c.validate = .error fault ↔
        c.requestTimeoutSecs = 0 ∧ fault = .zeroTimeout ∨
          c.requestTimeoutSecs ≠ 0 ∧ FirstFaulty c.sources fault := by
  refine ⟨?_, ?_, fun _ _ _ _ => eq_of_run_applyEnvironment, fun _ _ => validate_eq_error_iff⟩
  · simp only [load_eq_ok_iff hms hfile, override_eq_ok_iff, validate_eq_ok_iff]
    constructor
    · rintro ⟨_, ⟨timeout, htimeout, rfl⟩, hne, hvalid⟩
      exact ⟨⟨timeout, htimeout, hne⟩, hvalid⟩
    · rintro ⟨⟨timeout, htimeout, hne⟩, hvalid⟩
      exact ⟨_, ⟨timeout, htimeout, rfl⟩, hne, hvalid⟩
  · intro c hc
    rw [load_eq_ok_iff hms hfile, override_eq_ok_iff] at hc
    obtain ⟨⟨timeout, htimeout, rfl⟩, -⟩ := hc
    exact (readFrom_of_ofTable? hfile).layered_withVariables htimeout

/-- An environment with a file that gives no time for an answer, and with variables that give some
and leave the DUF without a name. -/
def mendingEnvironment : Environment where
  lookup name := List.lookup name
    [ (pathVariable, "lor.toml"), ("LOR_REQUEST_TIMEOUT_SECS", " 3 "),
      ("LOR_SEARCH_PATH", "/search"), ("LOR_DUF_PROVIDER_NAME", " ") ]
  file _ := .ok (Text.Utf8.encode mendedText)
where
  /-- The text of the file. -/
  mendedText : List Char :=
    ("request_timeout_secs = 0\nduf_provider_name = \"DUF\"\nsubject_path = \"/fields\"\n" ++
      "[[sources]]\nid = \"1\"\nname = \"A\"\nsearch_url = \"http://a.test\"\n").toList

/-- What the file lacks is mended by the variables. -/
theorem load_layers_mending :
    ∃ c, load mendingEnvironment none = .ok c ∧ c.requestTimeoutSecs.toNat = 3 ∧
      c.searchPath = "/search" ∧ c.subjectPath = "/fields" ∧ c.dufProviderName = none := by
  have hread : (Toml.read? mendingEnvironment.mendedText).bind ofTable? = some
      { requestTimeoutSecs := 0
        subjectPath := "/fields"
        dufProviderName := some "DUF"
        sources := [{ id := "1", name := "A", searchUrl := "http://a.test" }] } := by
    decide +kernel
  obtain ⟨ms, hms, hfile⟩ := Option.bind_eq_some_iff.mp hread
  have htext : mendingEnvironment.text "lor.toml" = .ok mendingEnvironment.mendedText := by
    rw [Environment.text]
    simp only [mendingEnvironment, Text.Utf8.decode_encode]
    rfl
  have hsays : FileSays mendingEnvironment none ms := by
    have hpath : (none <|> mendingEnvironment.lookup pathVariable) = some "lor.toml" := by decide
    rw [FileSays, hpath]
    exact ⟨_, htext, hms⟩
  obtain ⟨hloaded, hlayered, -⟩ := load_layers hsays hfile
  have hraw : mendingEnvironment.lookup "LOR_REQUEST_TIMEOUT_SECS" = some " 3 " := by decide
  have hthree : Text.readBounded? maxTimeout (Text.trim " 3 ".toList) = some 3 := by decide +kernel
  have hfrom : TimeoutFrom mendingEnvironment.lookup 0 3 := by
    rw [TimeoutFrom, hraw]
    exact hthree
  obtain ⟨c, hc⟩ := hloaded.mpr
    ⟨⟨3, hfrom, by decide⟩, by decide, by simp only [SourceConfig.complete_iff]; decide⟩
  have hlayers := hlayered c hc
  have htimeout := hlayers.timeout
  rw [TimeoutFrom, hraw] at htimeout
  refine ⟨c, hc, (Option.some.inj (hthree.symm.trans htimeout)).symm, hlayers.searchPath, ?_,
    hlayers.dufProviderName⟩
  exact hlayers.subjectPath.trans (readFrom_of_ofTable? hfile).subjectPath.symm

end CatalogSearch.Config
