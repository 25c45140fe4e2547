/-
# Where a client gets its configuration

The arguments of `__init__`, three environment variables, or two files in the datadir of walletd.

* A `Config` is what a constructor is told, and `Config.Denotes` says which endpoint it stands
  for.  `constructors_exact`: every constructor reads its configuration and builds that endpoint;
  where it builds none, either there was none to read, and the exception says what is missing, or
  the configuration stands for no endpoint, and it is a `ValueError`.
* `provisioning_round_trip`: a token and a fingerprint that walletd has written are read back,
  from the environment and from the datadir, as they would be taken from the caller.
-/
import Exfer.Construct
import Exfer.Fingerprint

namespace Exfer

open Py

/-! ## 1. Configurations -/

/-- What a constructor is told. -/
structure Config where
  url : String
  token : String
  timeout : Json
  transport : Option Nat
  fingerprint : Json

/-- The url, the token and `**kwargs`, with a fingerprint for when the caller names none. -/
def Kwargs.config (kwargs : Kwargs) (url token : String) (otherwise : Json := .null) :
    Config where
  url := url
  token := token
  timeout := kwargs.timeout.getD defaultTimeout
  transport := kwargs.transport.getD none
  fingerprint := kwargs.fingerprint.getD otherwise

/-- The configuration in three environment variables. -/
def ReadsEnv (host : Host) (urlEnv tokenEnv fingerprintEnv : String) (kwargs : Kwargs)
    (K : Config) : Prop :=
  ∃ url token, host.environ urlEnv = some url ∧ url ≠ "" ∧
    host.environ tokenEnv = some token ∧ token ≠ "" ∧
    K = kwargs.config url token
      (if (host.environ fingerprintEnv).getD "" = "" then .null
        else .str ((host.environ fingerprintEnv).getD ""))

/-- A variable is missing, or empty. -/
def EnvMissing (host : Host) (urlEnv tokenEnv : String) (e : Exc) : Prop :=
  ((host.environ urlEnv).getD "" = "" ∧ e = Exc.runtimeError (urlEnv ++ " is not set")) ∨
    ((host.environ urlEnv).getD "" ≠ "" ∧ (host.environ tokenEnv).getD "" = "" ∧
      e = Exc.runtimeError (tokenEnv ++ " is not set"))

/-- `from_datadir` is to look for a fingerprint. -/
def LooksForPin (url : String) (kwargs : Kwargs) : Prop :=
  startswith url "https://" = true ∧ kwargs.fingerprint = none

/-- The text in a file, without the blanks around it, of which there is some. -/
def ReadsFile (host : Host) (path text : String) : Prop :=
  ∃ raw, host.readText path = .ok raw ∧ strip raw = text ∧ text ≠ ""

/-- There is no text to read: no file, none that can be read, or nothing but blanks in it. -/
def FileMissing (host : Host) (path notFound empty : String) (e : Exc) : Prop :=
  (∃ e', host.readText path = .error e' ∧
      e = if e'.isFileNotFound then .builtin ⟨.fileNotFoundError, notFound⟩ else e') ∨
    ∃ raw, host.readText path = .ok raw ∧ strip raw = "" ∧ e = Exc.runtimeError empty

/-- The configuration in a datadir. -/
def ReadsDatadir (host : Host) (url datadir : String) (kwargs : Kwargs) (K : Config) : Prop :=
  ∃ path token, host.expanduser datadir = .ok path ∧
    ReadsFile host (joinPath path "token") token ∧
    ((LooksForPin url kwargs ∧ ∃ cert, ReadsFile host (joinPath path "cert.fingerprint") cert ∧
        K = kwargs.config url token (.str cert)) ∨
      (¬ LooksForPin url kwargs ∧ K = kwargs.config url token))

/-- The home directory, the token file or the fingerprint file is missing. -/
def DatadirMissing (host : Host) (url datadir : String) (kwargs : Kwargs) (e : Exc) : Prop :=
  host.expanduser datadir = .error e ∨
    ∃ path, host.expanduser datadir = .ok path ∧
      (FileMissing host (joinPath path "token")
          ("walletd token file not found at " ++ joinPath path "token" ++
            " — is walletd running on this host?")
          ("walletd token file at " ++ joinPath path "token" ++ " is empty") e ∨
        ((∃ token, ReadsFile host (joinPath path "token") token) ∧ LooksForPin url kwargs ∧
          FileMissing host (joinPath path "cert.fingerprint")
            ("walletd fingerprint file not found at " ++ joinPath path "cert.fingerprint" ++
              " — " ++ "is walletd running with --tls?")
            ("walletd fingerprint file at " ++ joinPath path "cert.fingerprint" ++ " is empty")
            e))

/-- **A file is read, or missing**: `readStripped`, and the test for an empty text. -/
theorem Host.readStripped_cases {α : Type} (host : Host) (path notFound empty : String)
    (f : String → Except Exc α) :
    (∃ text, ReadsFile host path text ∧
        (host.readStripped path notFound >>= fun text =>
          if text = "" then .error (Exc.runtimeError empty) else f text) = f text) ∨
      ∃ e, FileMissing host path notFound empty e ∧ (∀ text, ¬ ReadsFile host path text) ∧
        (host.readStripped path notFound >>= fun text =>
          if text = "" then .error (Exc.runtimeError empty) else f text) = .error e := by
  unfold Host.readStripped
  cases hread : host.readText path with
  | error e =>
    refine Or.inr ⟨_, Or.inl ⟨e, hread, rfl⟩, ?_, rfl⟩
    rintro text ⟨raw, hraw, -⟩
    cases hread.symm.trans hraw
  | ok raw =>
    by_cases hblank : strip raw = ""
    · refine Or.inr ⟨_, Or.inr ⟨raw, hread, hblank, rfl⟩, ?_, if_pos hblank⟩
      rintro text ⟨raw', hraw', rfl, hne⟩
      cases hread.symm.trans hraw'
      exact hne hblank
    · exact Or.inl ⟨strip raw, ⟨raw, hread, rfl, hblank⟩, if_neg hblank⟩

theorem ReadsFile.unique {host : Host} {path text text' : String} (h : ReadsFile host path text)
    (h' : ReadsFile host path text') : text = text' := by
  obtain ⟨raw, hraw, rfl, -⟩ := h
  obtain ⟨raw', hraw', rfl, -⟩ := h'
  cases hraw.symm.trans hraw'
  rfl

/-! ## 2. What a configuration stands for -/

section Denotes

variable [CharTables]

/-- The endpoint a configuration stands for.  There is none without a token, and none when the
fingerprint is no fingerprint, comes with a transport, or is for a url that is not `https://`. -/
structure Config.Denotes (K : Config) (E : Endpoint) : Prop where
  url : E.url = rstrip '/' K.url
  token : K.token ≠ "" ∧ E.token = K.token
  timeout : E.timeout = K.timeout
  unpinned : K.fingerprint = .null → E.pin = none
  pinned : K.fingerprint ≠ .null → K.transport = none ∧ startswith E.url "https://" = true ∧
    ∃ digest, parseFingerprint K.fingerprint = .ok digest ∧ E.pin = some digest

/-- `__init__` on a configuration. -/
def Config.build (K : Config) : Except Exc Endpoint :=
  (Client.init K.url K.token K.timeout K.transport K.fingerprint).map Client.endpoint

theorem parseFingerprint_error {v : Json} {e : Exc} (h : parseFingerprint v = .error e) :
    ∃ text, e = Exc.valueError text := by
  cases v with
  | str s =>
    by_cases hs : ∃ digits, Spells s digits
    · obtain ⟨digits, hdigits⟩ := hs
      obtain ⟨digest, hparse, -⟩ := hdigits.parse
      cases h.symm.trans hparse
    · obtain ⟨text, htext⟩ := parseFingerprint_refused hs
      cases h.symm.trans htext
      exact ⟨text, rfl⟩
  | null | bool _ | int _ | float _ | arr _ | obj _ =>
    cases h
    exact ⟨_, rfl⟩

/-- A fingerprint and a transport are refused together. -/
theorem Client.init_transport {url token : String} {timeout fingerprint : Json}
    {transport : Option Nat} {c : Client}
    (h : Client.init url token timeout transport fingerprint = .ok c)
    (hgiven : fingerprint ≠ .null) : transport = none := by
  unfold Client.init at h
  split at h
  · cases h
  split at h
  · cases h
  rename_i htogether
  cases transport with
  | none => rfl
  | some id =>
    have hnull : fingerprint.isNone = true := by simpa using htogether
    exact absurd (Json.isNone_iff.mp hnull) hgiven

omit [CharTables] in
/-- A client with a pin has an `https://` url. -/
theorem Client.pin_url {c : Client} {digest : Bytes} (h : c.endpoint.pin = some digest) :
    startswith c.url "https://" = true := by
  cases ht : c.http.transport with
  | default | custom _ => simp [Client.endpoint, HttpxClient.pin, ht] at h
  | pinning t => exact (c.pinned t ht).1

/-- **`__init__` builds the endpoint of its arguments.** -/
theorem Config.build_iff (K : Config) (E : Endpoint) : K.build = .ok E ↔ K.Denotes E := by
  constructor
  · intro h
    unfold Config.build at h
    cases hinit : Client.init K.url K.token K.timeout K.transport K.fingerprint with
    | error e => rw [hinit] at h; cases h
    | ok c =>
      rw [hinit] at h
      cases h
      obtain ⟨hurl, htoken, htimeout, hunpinned, hpinned⟩ := Client.init_ok hinit
      refine ⟨hurl, ⟨htoken ▸ c.token_nonempty, htoken⟩, htimeout, hunpinned, fun hne => ?_⟩
      obtain ⟨digest, hdigest, hpin⟩ := hpinned hne
      exact ⟨Client.init_transport hinit hne, Client.pin_url hpin, digest, hdigest, hpin⟩
  · obtain ⟨url, token, timeout, transport, fingerprint⟩ := K
    obtain ⟨url', token', timeout', pin⟩ := E
    rintro ⟨hurl, ⟨hne, htoken⟩, htimeout, hunpinned, hpinned⟩
    cases hurl
    cases htoken
    cases htimeout
    by_cases hnull : fingerprint = .null
    · subst hnull
      cases hunpinned rfl
      simp only [Config.build, Client.init]
      rw [dif_neg hne]
      cases transport <;> rfl
    · obtain ⟨rfl, hhttps, digest, hdigest, rfl⟩ := hpinned hnull
      have hgiven : fingerprint.isNone = false := by
        rw [Bool.eq_false_iff]
        exact fun h => hnull (Json.isNone_iff.mp h)
      rw [Config.build]
      exact congrArg (Except.map Client.endpoint)
        ((Client.init_given hne hgiven hhttps).2 digest hdigest)

/-- Where it builds none, it raises `ValueError`. -/
theorem Config.build_error {K : Config} {e : Exc} (h : K.build = .error e) :
    ∃ text, e = Exc.valueError text := by
  unfold Config.build at h
  cases hinit : Client.init K.url K.token K.timeout K.transport K.fingerprint with
  | ok c => rw [hinit] at h; cases h
  | error e' =>
    rw [hinit] at h
    cases h
    unfold Client.init at hinit
    split at hinit
    · cases hinit
      exact ⟨_, rfl⟩
    split at hinit
    · cases hinit
      exact ⟨_, rfl⟩
    split at hinit
    · split at hinit
      · split at hinit
        · rename_i he
          cases hinit
          exact parseFingerprint_error he
        · cases hinit
      · cases hinit
        exact ⟨_, rfl⟩
    · cases hinit

/-! ## 3. The constructors -/

/-- A constructor reads a configuration and builds the endpoint it stands for.  Without an
endpoint the configuration is missing, or it was read and stands for none. -/
structure Constructs (result : Except Exc Endpoint) (reads : Config → Prop)
    (missing : Exc → Prop) : Prop where
  ok : ∀ E, result = .ok E ↔ ∃ K, reads K ∧ K.Denotes E
  error : ∀ e, result = .error e → (missing e ∧ ∀ K, ¬ reads K) ∨
    ((∃ text, e = Exc.valueError text) ∧ ∃ K, reads K ∧ ∀ E, ¬ K.Denotes E)

theorem Constructs.of_eq {result result' : Except Exc Endpoint} {reads : Config → Prop}
    {missing : Exc → Prop} (heq : result = result') (h : Constructs result' reads missing) :
    Constructs result reads missing :=
  heq ▸ h

theorem Constructs.of_reads {result : Except Exc Endpoint} {reads : Config → Prop}
    {missing : Exc → Prop} {K : Config} (hreads : reads K) (honly : ∀ K', reads K' → K' = K)
    (hresult : result = K.build) : Constructs result reads missing := by
  subst hresult
  constructor
  · intro E
    rw [Config.build_iff]
    constructor
    · exact fun h => ⟨K, hreads, h⟩
    · rintro ⟨K', hK', h⟩
      exact honly K' hK' ▸ h
  · intro e he
    refine Or.inr ⟨Config.build_error he, K, hreads, fun E hE => ?_⟩
    cases he.symm.trans ((Config.build_iff K E).mpr hE)

theorem Constructs.of_missing {result : Except Exc Endpoint} {reads : Config → Prop}
    {missing : Exc → Prop} {e : Exc} (hresult : result = .error e) (hmissing : missing e)
    (hnone : ∀ K, ¬ reads K) : Constructs result reads missing := by
  subst hresult
  constructor
  · intro E
    constructor
    · intro h
      cases h
    · rintro ⟨K, hK, -⟩
      exact absurd hK (hnone K)
  · rintro e' he'
    cases he'
    exact Or.inl ⟨hmissing, hnone⟩

theorem Client.ofKwargs_constructs (url token : String) (kwargs : Kwargs) :
    Constructs ((Client.ofKwargs url token kwargs).map Client.endpoint)
      (fun K => K = kwargs.config url token) fun _ => False :=
  Constructs.of_reads rfl (fun _ h => h) rfl

theorem Client.fromEnv_constructs (host : Host) (urlEnv tokenEnv fingerprintEnv : String)
    (kwargs : Kwargs) :
    Constructs ((Client.fromEnv host urlEnv tokenEnv fingerprintEnv kwargs).map Client.endpoint)
      (ReadsEnv host urlEnv tokenEnv fingerprintEnv kwargs) (EnvMissing host urlEnv tokenEnv) := by
  by_cases hurl : (host.environ urlEnv).getD "" = ""
  · refine Constructs.of_missing ?_ (Or.inl ⟨hurl, rfl⟩) ?_
    · simp only [Client.fromEnv, hurl, if_true]
      rfl
    · rintro K ⟨url, token, hsome, hne, -⟩
      rw [hsome] at hurl
      exact hne hurl
  by_cases htoken : (host.environ tokenEnv).getD "" = ""
  · refine Constructs.of_missing ?_ (Or.inr ⟨hurl, htoken, rfl⟩) ?_
    · simp only [Client.fromEnv, htoken, if_neg hurl, if_true]
      rfl
    · rintro K ⟨url, token, -, -, hsome, hne, -⟩
      rw [hsome] at htoken
      exact hne htoken
  obtain ⟨url, hu⟩ := Option.ne_none_iff_exists'.mp fun h : host.environ urlEnv = none =>
    hurl (by rw [h]; rfl)
  obtain ⟨token, ht⟩ := Option.ne_none_iff_exists'.mp fun h : host.environ tokenEnv = none =>
    htoken (by rw [h]; rfl)
  rw [hu, Option.getD_some] at hurl
  rw [ht, Option.getD_some] at htoken
  refine Constructs.of_reads ⟨url, token, hu, hurl, ht, htoken, rfl⟩ ?_ ?_
  · rintro K ⟨url', token', hu', -, ht', -, rfl⟩
    cases hu.symm.trans hu'
    cases ht.symm.trans ht'
    rfl
  · simp only [Client.fromEnv, hu, ht, Option.getD_some, if_neg hurl, if_neg htoken]
    split
    · rfl
    · cases hk : kwargs.fingerprint <;>
        simp only [Config.build, Kwargs.config, Client.ofKwargs, hk, Option.getD_some,
          Option.getD_none]

theorem Client.fromDatadir_constructs (host : Host) (url datadir : String) (kwargs : Kwargs) :
    Constructs ((Client.fromDatadir host url datadir kwargs).map Client.endpoint)
      (ReadsDatadir host url datadir kwargs) (DatadirMissing host url datadir kwargs) := by
  unfold Client.fromDatadir
  cases hpath : host.expanduser datadir with
  | error e =>
    refine Constructs.of_missing rfl (Or.inl hpath) ?_
    rintro K ⟨path, token, hpath', -⟩
    cases hpath.symm.trans hpath'
  | ok path =>
    have hopath : ∀ {K : Config}, ReadsDatadir host url datadir kwargs K →
        ∃ token, ReadsFile host (joinPath path "token") token ∧
          ((LooksForPin url kwargs ∧
              ∃ cert, ReadsFile host (joinPath path "cert.fingerprint") cert ∧
                K = kwargs.config url token (.str cert)) ∨
            (¬ LooksForPin url kwargs ∧ K = kwargs.config url token)) := by
      rintro K ⟨path', token, hpath', h⟩
      cases hpath.symm.trans hpath'
      exact ⟨token, h⟩
    rcases host.readStripped_cases (joinPath path "token") _ _ _ with
      ⟨token, htoken, hresult⟩ | ⟨e, hmissing, hnone, hresult⟩
    · refine Constructs.of_eq (congrArg (Except.map Client.endpoint) hresult) ?_
      by_cases hlooks : LooksForPin url kwargs
      · rw [if_pos (by simp [hlooks.1, hlooks.2])]
        rcases host.readStripped_cases (joinPath path "cert.fingerprint") _ _ _ with
          ⟨cert, hcert, hresult⟩ | ⟨e, hmissing, hnone, hresult⟩
        · refine Constructs.of_reads
            ⟨path, token, hpath, htoken, Or.inl ⟨hlooks, cert, hcert, rfl⟩⟩ ?_ ?_
          · intro K hK
            obtain ⟨token', htoken', ⟨-, cert', hcert', rfl⟩ | ⟨hno, -⟩⟩ := hopath hK
            · rw [htoken'.unique htoken, hcert'.unique hcert]
            · exact absurd hlooks hno
          · refine (congrArg _ hresult).trans ?_
            simp only [Client.ofKwargs, Config.build, Kwargs.config, hlooks.2, Option.getD_some,
              Option.getD_none]
        · refine Constructs.of_missing (congrArg _ hresult)
            (Or.inr ⟨path, hpath, Or.inr ⟨⟨token, htoken⟩, hlooks, hmissing⟩⟩) ?_
          intro K hK
          obtain ⟨token', -, ⟨-, cert', hcert', -⟩ | ⟨hno, -⟩⟩ := hopath hK
          · exact hnone cert' hcert'
          · exact hno hlooks
      · rw [if_neg (by simpa [LooksForPin] using hlooks)]
        refine Constructs.of_reads ⟨path, token, hpath, htoken, Or.inr ⟨hlooks, rfl⟩⟩ ?_ rfl
        intro K hK
        obtain ⟨token', htoken', ⟨hyes, -⟩ | ⟨-, rfl⟩⟩ := hopath hK
        · exact absurd hyes hlooks
        · rw [htoken'.unique htoken]
    · refine Constructs.of_missing (congrArg _ hresult) (Or.inr ⟨path, hpath, Or.inl hmissing⟩) ?_
      intro K hK
      obtain ⟨token, htoken, -⟩ := hopath hK
      exact hnone token htoken

/-- **Every constructor is exact**, of both classes. -/
theorem constructors_exact (host : Host)
    (url token urlEnv tokenEnv fingerprintEnv datadir : String) (kwargs : Kwargs) :
    (Constructs ((Client.ofKwargs url token kwargs).map Client.endpoint)
        (fun K => K = kwargs.config url token) (fun _ => False) ∧
      Constructs ((AsyncClient.ofKwargs url token kwargs).map AsyncClient.endpoint)
        (fun K => K = kwargs.config url token) fun _ => False) ∧
    (Constructs ((Client.fromEnv host urlEnv tokenEnv fingerprintEnv kwargs).map Client.endpoint)
        (ReadsEnv host urlEnv tokenEnv fingerprintEnv kwargs)
        (EnvMissing host urlEnv tokenEnv) ∧
      Constructs
        ((AsyncClient.fromEnv host urlEnv tokenEnv fingerprintEnv kwargs).map
          AsyncClient.endpoint)
        (ReadsEnv host urlEnv tokenEnv fingerprintEnv kwargs)
        (EnvMissing host urlEnv tokenEnv)) ∧
    Constructs ((Client.fromDatadir host url datadir kwargs).map Client.endpoint)
        (ReadsDatadir host url datadir kwargs) (DatadirMissing host url datadir kwargs) ∧
      Constructs ((AsyncClient.fromDatadir host url datadir kwargs).map AsyncClient.endpoint)
        (ReadsDatadir host url datadir kwargs) (DatadirMissing host url datadir kwargs) := by
  rw [ofKwargs_toAsync, fromEnv_toAsync, fromDatadir_toAsync, map_toAsync, map_toAsync,
    map_toAsync, and_self_iff, and_self_iff, and_self_iff]
  exact ⟨Client.ofKwargs_constructs url token kwargs,
    Client.fromEnv_constructs host urlEnv tokenEnv fingerprintEnv kwargs,
    Client.fromDatadir_constructs host url datadir kwargs⟩

/-! ## 4. Reading back what walletd wrote -/

/-- `raw` is `text` between blanks. -/
def Padded (raw text : String) : Prop :=
  ∃ pre post, raw.toList = pre ++ text.toList ++ post ∧ (∀ c ∈ pre, isSpace c = true) ∧
    ∀ c ∈ post, isSpace c = true

omit [CharTables] in
theorem Padded.strip_eq {raw text : String} (h : Padded raw text) : strip raw = strip text := by
  obtain ⟨pre, post, hraw, hpre, hpost⟩ := h
  rw [strip, strip, hraw, stripBy_pad hpre hpost]

omit [CharTables] in
theorem Padded.reads {host : Host} {path raw text : String} (h : Padded raw text)
    (hread : host.readText path = .ok raw) (hclean : strip text = text) (hne : text ≠ "") :
    ReadsFile host path text :=
  ⟨raw, hread, h.strip_eq.trans hclean, hne⟩

/-- The text of a digest is read as the digest, whatever blanks are around it. -/
theorem Padded.parse {raw : String} {digest : Bytes} (hlen : digest.length = 32)
    (h : Padded raw (formatFingerprint digest)) : parseFingerprint (.str raw) = .ok digest := by
  have hformat := parseFingerprint_format hlen
  obtain ⟨digits, htext, hcount, hhex⟩ := spells_of_parse hformat
  have hspells : Spells raw digits := ⟨by rw [h.strip_eq, htext], hcount, hhex⟩
  obtain ⟨digest', hparse, hnormal⟩ := hspells.parse
  have heq : formatFingerprint digest' = formatFingerprint digest := by
    rw [hnormal, normalForm, h.strip_eq, ← normalForm, ← format_parse hformat]
  have hback := parseFingerprint_format (parseFingerprint_length hparse)
  rw [heq, hformat] at hback
  cases hback
  exact hparse

/-- Any text of the digest will do for a configuration. -/
theorem Config.denotes_pinned {url token text : String} {digest : Bytes} (timeout : Json)
    (hurl : startswith (rstrip '/' url) "https://" = true) (htoken : token ≠ "")
    (hlen : digest.length = 32) (htext : Padded text (formatFingerprint digest)) :
    Config.Denotes ⟨url, token, timeout, none, .str text⟩
      ⟨rstrip '/' url, token, timeout, some digest⟩ where
  url := rfl
  token := ⟨htoken, rfl⟩
  timeout := rfl
  unpinned h := nomatch h
  pinned _ := ⟨rfl, hurl, digest, htext.parse hlen, rfl⟩

/-- walletd's url, token and fingerprint, in the environment and in the datadir: the texts are
as they were written, but for blanks around the contents of the files and the fingerprint. -/
structure Provisioned (host : Host) (urlEnv tokenEnv fingerprintEnv datadir : String)
    (url token : String) (digest : Bytes) : Prop where
  env_url : host.environ urlEnv = some url
  env_token : host.environ tokenEnv = some token
  env_fingerprint : ∃ pin, host.environ fingerprintEnv = some pin ∧
    Padded pin (formatFingerprint digest)
  files : ∃ path rawToken rawPin, host.expanduser datadir = .ok path ∧
    host.readText (joinPath path "token") = .ok rawToken ∧ Padded rawToken token ∧
    host.readText (joinPath path "cert.fingerprint") = .ok rawPin ∧
    Padded rawPin (formatFingerprint digest)

omit [CharTables] in
theorem formatFingerprint_ne_empty (digest : Bytes) : formatFingerprint digest ≠ "" := by
  intro h
  have hnil := congrArg String.toList h
  rw [formatFingerprint, String.toList_append] at hnil
  simp at hnil

/-- **Provisioning round trip**: from the caller, from the environment and from the datadir, the
client is the same. -/
theorem provisioning_round_trip {host : Host}
    {urlEnv tokenEnv fingerprintEnv datadir url token : String} {digest : Bytes}
    (hurl : startswith (rstrip '/' url) "https://" = true) (htoken : token ≠ "")
    (hclean : strip token = token) (hlen : digest.length = 32)
    (hprov : Provisioned host urlEnv tokenEnv fingerprintEnv datadir url token digest)
    (timeout : Option Json) :
    let E : Endpoint := ⟨rstrip '/' url, token, timeout.getD defaultTimeout, some digest⟩
    let given : Kwargs := { timeout, fingerprint := some (.str (formatFingerprint digest)) }
    ((Client.ofKwargs url token given).map Client.endpoint = .ok E ∧
      (AsyncClient.ofKwargs url token given).map AsyncClient.endpoint = .ok E) ∧
    ((Client.fromEnv host urlEnv tokenEnv fingerprintEnv { timeout }).map Client.endpoint = .ok E ∧
      (AsyncClient.fromEnv host urlEnv tokenEnv fingerprintEnv { timeout }).map
        AsyncClient.endpoint = .ok E) ∧
    (Client.fromDatadir host url datadir { timeout }).map Client.endpoint = .ok E ∧
      (AsyncClient.fromDatadir host url datadir { timeout }).map AsyncClient.endpoint = .ok E := by
  intro E given
  rw [ofKwargs_toAsync, fromEnv_toAsync, fromDatadir_toAsync, map_toAsync, map_toAsync,
    map_toAsync, and_self_iff, and_self_iff, and_self_iff]
  have hclean' : strip (formatFingerprint digest) = formatFingerprint digest := strip_format hlen
  have hself : Padded (formatFingerprint digest) (formatFingerprint digest) :=
    ⟨[], [], by simp, by simp, by simp⟩
  refine ⟨?_, ?_, ?_⟩
  · refine ((Client.ofKwargs_constructs url token given).ok E).mpr ⟨_, rfl, ?_⟩
    exact Config.denotes_pinned _ hurl htoken hlen hself
  · obtain ⟨pin, hpin, hpad⟩ := hprov.env_fingerprint
    have hne : pin ≠ "" := by
      rintro rfl
      exact formatFingerprint_ne_empty digest (hclean'.symm.trans hpad.strip_eq.symm)
    refine ((Client.fromEnv_constructs host urlEnv tokenEnv fingerprintEnv _).ok E).mpr
      ⟨_, ⟨url, token, hprov.env_url, ?_, hprov.env_token, htoken, rfl⟩, ?_⟩
    · rintro rfl
      exact absurd hurl (by decide)
    · rw [hpin, Option.getD_some, if_neg hne]
      exact Config.denotes_pinned _ hurl htoken hlen hpad
  · obtain ⟨path, rawToken, rawPin, hpath, hreadToken, hpadToken, hreadPin, hpadPin⟩ :=
      hprov.files
    refine ((Client.fromDatadir_constructs host url datadir _).ok E).mpr
      ⟨_, ⟨path, token, hpath, hpadToken.reads hreadToken hclean htoken,
        Or.inl ⟨⟨startswith_of_rstrip hurl, rfl⟩, _,
          hpadPin.reads hreadPin hclean' (formatFingerprint_ne_empty digest), rfl⟩⟩, ?_⟩
    exact Config.denotes_pinned _ hurl htoken hlen hself

omit [CharTables] in
/-- A datadir whose files end in newlines, and a variable with a blank before the fingerprint. -/
theorem provisioning_round_trip_newlines :
    let digest : Bytes := List.replicate 32 7
    let host : Host := ⟨fun name =>
        if name = "WALLETD_URL" then some "https://walletd/"
        else if name = "WALLETD_AUTH_TOKEN" then some "secret"
        else some (" " ++ formatFingerprint digest),
      .ok, fun path => .ok
        (if path = "/d/token" then "secret\n" else formatFingerprint digest ++ "\n")⟩
    (@Client.fromDatadir asciiTables host "https://walletd/" "/d" {}).map Client.endpoint =
      .ok ⟨"https://walletd", "secret", defaultTimeout, some digest⟩ := by
  intro digest host
  have hprov : Provisioned host "WALLETD_URL" "WALLETD_AUTH_TOKEN" "WALLETD_FINGERPRINT" "/d"
      "https://walletd/" "secret" digest := by
    have hblank : ∀ c, isSpace c = true → ∀ d ∈ [c], isSpace d = true := by simp
    refine ⟨rfl, rfl, ⟨_, rfl, [' '], [], ?_, hblank _ rfl, by simp⟩,
      "/d", "secret\n", formatFingerprint digest ++ "\n", rfl, rfl, ?_, rfl, [], ['\n'], ?_,
      by simp, hblank _ rfl⟩
    · simp
    · exact ⟨[], ['\n'], by decide, by simp, hblank _ rfl⟩
    · simp
  exact (@provisioning_round_trip asciiTables _ _ _ _ _ _ _ _ (by decide) (by decide) (by decide)
    rfl hprov none).2.2.1

end Denotes

end Exfer
