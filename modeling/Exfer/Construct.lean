/-
# Construction, and what becomes of a pin

* The three constructors of `AsyncClient` are those of `Client` with the other pinning
  transport (`init_toAsync`, `fromEnv_toAsync`, `fromDatadir_toAsync`), so what is said of one
  class is said of both.
* `Client.init_ok` is all that a successful construction says about the client.
* `KeepsPin` says that no pin is dropped: where the url is an `https` url and a fingerprint
  applies, the client pins that fingerprint or there is no client.  `__init__` and `from_env`
  keep it always; `from_datadir` reads the url with a test of its own and keeps it except where
  that test and the url's scheme disagree.
-/
import Exfer.Refinement

namespace Exfer

open Py

/-! ## 1. From one class to the other -/

theorem except_map_bind {ε α β γ : Type} (x : Except ε α) (f : α → Except ε β) (g : β → γ) :
    (x >>= f).map g = x >>= fun a => (f a).map g := by
  cases x <;> rfl

theorem except_bind_ok {ε α β : Type} {x : Except ε α} {f : α → Except ε β} {b : β}
    (h : (x >>= f) = .ok b) : ∃ a, x = .ok a ∧ f a = .ok b := by
  cases x with
  | error e => cases h
  | ok a => exact ⟨a, rfl, h⟩

theorem readStripped_ok {host : Host} {path missing t : String}
    (h : host.readStripped path missing = .ok t) :
    ∃ text, host.readText path = .ok text ∧ t = strip text := by
  unfold Host.readStripped at h
  split at h
  · rename_i text htext
    exact ⟨text, htext, (Except.ok.inj h).symm⟩
  · cases h

section Constructors

variable [CharTables]

/-- `__init__` with a fingerprint: the parser's exception, or a client that pins the digest. -/
theorem Client.init_given {url token : String} {timeout fingerprint : Json} (htoken : token ≠ "")
    (hgiven : fingerprint.isNone = false) (hurl : startswith (rstrip '/' url) "https://" = true) :
    (∀ e, parseFingerprint fingerprint = .error e →
      Client.init url token timeout none fingerprint = .error e) ∧
    (∀ digest, (h : parseFingerprint fingerprint = .ok digest) →
      Client.init url token timeout none fingerprint = .ok {
        url := rstrip '/' url
        token := token
        http := ⟨timeout, .pinning ⟨digest⟩, [("User-Agent", userAgent)]⟩
        token_nonempty := htoken
        headers_eq := rfl
        pinned := by
          rintro t ⟨rfl⟩
          exact ⟨hurl, parseFingerprint_length h⟩ }) := by
  simp only [Client.init]
  rw [dif_neg htoken, if_neg (by simp), if_pos (by simp [hgiven]), dif_pos hurl]
  constructor
  · intro e he
    split
    · rename_i e' he'
      cases he.symm.trans he'
      rfl
    · rename_i digest hdigest
      cases he.symm.trans hdigest
  · intro digest hdigest
    split
    · rename_i e he
      cases hdigest.symm.trans he
    · rename_i digest' hdigest'
      cases hdigest.symm.trans hdigest'
      rfl

theorem AsyncClient.init_given {url token : String} {timeout fingerprint : Json}
    (htoken : token ≠ "") (hgiven : fingerprint.isNone = false)
    (hurl : startswith (rstrip '/' url) "https://" = true) :
    (∀ e, parseFingerprint fingerprint = .error e →
      AsyncClient.init url token timeout none fingerprint = .error e) ∧
    (∀ digest, (h : parseFingerprint fingerprint = .ok digest) →
      AsyncClient.init url token timeout none fingerprint = .ok {
        url := rstrip '/' url
        token := token
        http := ⟨timeout, .pinning ⟨digest⟩, [("User-Agent", userAgent)]⟩
        token_nonempty := htoken
        headers_eq := rfl
        pinned := by
          rintro t ⟨rfl⟩
          exact ⟨hurl, parseFingerprint_length h⟩ }) := by
  simp only [AsyncClient.init]
  rw [dif_neg htoken, if_neg (by simp), if_pos (by simp [hgiven]), dif_pos hurl]
  constructor
  · intro e he
    split
    · rename_i e' he'
      cases he.symm.trans he'
      rfl
    · rename_i digest hdigest
      cases he.symm.trans hdigest
  · intro digest hdigest
    split
    · rename_i e he
      cases hdigest.symm.trans he
    · rename_i digest' hdigest'
      cases hdigest.symm.trans hdigest'
      rfl

theorem init_toAsync (url token : String) (timeout : Json) (transport : Option Nat)
    (fingerprint : Json) :
    AsyncClient.init url token timeout transport fingerprint
      = (Client.init url token timeout transport fingerprint).map Client.toAsync := by
  by_cases hpins : token ≠ "" ∧ transport = none ∧ fingerprint.isNone = false ∧
      startswith (rstrip '/' url) "https://" = true
  · obtain ⟨htoken, rfl, hgiven, hurl⟩ := hpins
    obtain ⟨herror, hok⟩ := Client.init_given htoken hgiven hurl
    obtain ⟨herror', hok'⟩ := AsyncClient.init_given htoken hgiven hurl
    cases hparse : parseFingerprint fingerprint with
    | error e =>
      rw [herror e hparse, herror' e hparse]
      rfl
    | ok digest =>
      rw [hok digest hparse, hok' digest hparse]
      rfl
  · unfold AsyncClient.init Client.init
    split
    · rfl
    split
    · rfl
    split
    · rename_i htoken hboth hgiven
      split
      · rename_i hurl
        refine absurd ⟨htoken, ?_, by simpa using hgiven, hurl⟩ hpins
        cases transport with
        | none => rfl
        | some id => exact absurd (by simpa using hgiven) hboth
      · rfl
    · cases transport <;> rfl

theorem ofKwargs_toAsync (url token : String) (kwargs : Kwargs) :
    AsyncClient.ofKwargs url token kwargs
      = (Client.ofKwargs url token kwargs).map Client.toAsync :=
  init_toAsync _ _ _ _ _

theorem fromEnv_toAsync (host : Host) (urlEnv tokenEnv fingerprintEnv : String)
    (kwargs : Kwargs) :
    AsyncClient.fromEnv host urlEnv tokenEnv fingerprintEnv kwargs
      = (Client.fromEnv host urlEnv tokenEnv fingerprintEnv kwargs).map Client.toAsync := by
  unfold AsyncClient.fromEnv Client.fromEnv
  simp only [ofKwargs_toAsync]
  split
  · rfl
  split
  · rfl
  split <;> rfl

theorem fromDatadir_toAsync (host : Host) (url datadir : String) (kwargs : Kwargs) :
    AsyncClient.fromDatadir host url datadir kwargs
      = (Client.fromDatadir host url datadir kwargs).map Client.toAsync := by
  unfold AsyncClient.fromDatadir Client.fromDatadir
  simp only [ofKwargs_toAsync, except_map_bind]
  refine bind_congr fun path => bind_congr fun token => ?_
  split
  · rfl
  split
  · rw [except_map_bind]
    refine bind_congr fun fingerprint => ?_
    split <;> rfl
  · rfl

/-! ## 2. What a construction says about its client -/

/-- **A client that was built**: its url is stripped, its token is the one given, and it pins
the fingerprint if one was given and nothing otherwise. -/
theorem Client.init_ok {url token : String} {timeout : Json} {transport : Option Nat}
    {fingerprint : Json} {c : Client}
    (h : Client.init url token timeout transport fingerprint = .ok c) :
    c.url = rstrip '/' url ∧ c.token = token ∧ c.http.timeout = timeout ∧
      (fingerprint = .null → c.endpoint.pin = none) ∧
      (fingerprint ≠ .null →
        ∃ digest, parseFingerprint fingerprint = .ok digest ∧ c.endpoint.pin = some digest) := by
  unfold Client.init at h
  split at h
  · cases h
  split at h
  · cases h
  split at h
  · rename_i hgiven
    split at h
    · split at h
      · cases h
      · rename_i digest hdigest
        cases h
        refine ⟨rfl, rfl, rfl, ?_, fun _ => ⟨digest, hdigest, rfl⟩⟩
        rintro rfl
        exact absurd hgiven (by decide)
    · cases h
  · rename_i hnot
    cases h
    refine ⟨rfl, rfl, rfl, fun _ => ?_, fun hne => ?_⟩
    · cases transport <;> rfl
    · exact absurd (Json.isNone_iff.mp (by simpa using hnot)) hne

/-- Without a fingerprint there is always a client. -/
theorem Client.init_unpinned (url : String) {token : String} (htoken : token ≠ "")
    (timeout : Json) :
    ∃ c, Client.init url token timeout none .null = .ok c ∧ c.endpoint.pin = none := by
  have hok : ∃ c, Client.init url token timeout none .null = .ok c := by
    unfold Client.init
    rw [dif_neg htoken]
    exact ⟨_, rfl⟩
  obtain ⟨c, hc⟩ := hok
  exact ⟨c, hc, (Client.init_ok hc).2.2.2.1 rfl⟩

/-- **The text of a digest pins it.** -/
theorem Client.init_format {url token : String}
    (hurl : startswith (rstrip '/' url) "https://" = true) (htoken : token ≠ "") {digest : Bytes}
    (hlen : digest.length = 32) :
    ∃ c, Client.init url token defaultTimeout none (.str (formatFingerprint digest)) = .ok c ∧
      c.endpoint = ⟨rstrip '/' url, token, defaultTimeout, some digest⟩ := by
  have hparse := parseFingerprint_format hlen
  exact ⟨_, (Client.init_given htoken rfl hurl).2 digest hparse, rfl⟩

/-- **What `from_datadir` has read** when it returns a client. -/
theorem Client.fromDatadir_ok {host : Host} {url datadir : String} {kwargs : Kwargs} {c : Client}
    (h : Client.fromDatadir host url datadir kwargs = .ok c) :
    ∃ path text, host.expanduser datadir = .ok path ∧
      host.readText (joinPath path "token") = .ok text ∧ strip text ≠ "" ∧
      if startswith url "https://" = true ∧ kwargs.fingerprint = none then
        ∃ cert, host.readText (joinPath path "cert.fingerprint") = .ok cert ∧
          Client.ofKwargs url (strip text)
            { kwargs with fingerprint := some (.str (strip cert)) } = .ok c
      else Client.ofKwargs url (strip text) kwargs = .ok c := by
  obtain ⟨path, hpath, h⟩ := except_bind_ok h
  obtain ⟨token, htoken, h⟩ := except_bind_ok h
  obtain ⟨text, htext, rfl⟩ := readStripped_ok htoken
  split at h
  · cases h
  rename_i hne
  refine ⟨path, text, hpath, htext, hne, ?_⟩
  by_cases hread : startswith url "https://" = true ∧ kwargs.fingerprint = none
  · rw [if_pos (by simp [hread])] at h
    obtain ⟨fingerprint, hfingerprint, h⟩ := except_bind_ok h
    obtain ⟨cert, hcert, rfl⟩ := readStripped_ok hfingerprint
    rw [if_pos hread]
    split at h
    · cases h
    · exact ⟨cert, hcert, h⟩
  · rw [if_neg (by simpa using hread)] at h
    rw [if_neg hread]
    exact h

/-- Unless it looks for a fingerprint, `from_datadir` needs nothing but a token. -/
theorem Client.fromDatadir_unread {host : Host} {url datadir path text : String} {kwargs : Kwargs}
    (hpath : host.expanduser datadir = .ok path)
    (htext : host.readText (joinPath path "token") = .ok text) (hne : strip text ≠ "")
    (hread : ¬ (startswith url "https://" = true ∧ kwargs.fingerprint = none)) :
    Client.fromDatadir host url datadir kwargs = Client.ofKwargs url (strip text) kwargs := by
  unfold Client.fromDatadir
  have htoken : ∀ missing, host.readStripped (joinPath path "token") missing
      = .ok (strip text) := by
    intro missing
    rw [Host.readStripped, htext]
  have hskip : (startswith url "https://" && kwargs.fingerprint.isNone) = false := by
    rw [Bool.and_eq_false_iff]
    by_cases hs : startswith url "https://" = true
    · refine Or.inr ?_
      cases hf : kwargs.fingerprint with
      | none => exact absurd ⟨hs, hf⟩ hread
      | some v => rfl
    · exact Or.inl (by simpa using hs)
  simp [hpath, htoken, hne, hskip, bind, Except.bind]

end Constructors

/-! ## 3. Pins -/

/-- The scheme of the url is `https`, as `httpx` reads it: without regard to case. -/
def httpsScheme (url : String) : Bool :=
  url.toList.contains ':' && (url.toList.takeWhile (· != ':')).map Char.toLower == "https".toList

theorem httpsScheme_of_startswith {url : String} (h : startswith url "https://" = true) :
    httpsScheme url = true := by
  obtain ⟨rest, hrest⟩ := startswith_iff.mp h
  unfold httpsScheme
  rw [← hrest]
  simp

/-- Where a pin is to come from. -/
inductive PinSource where
  /-- No fingerprint applies. -/
  | absent
  | text (fingerprint : String)
  /-- A file that cannot be read. -/
  | unreadable

/-- The caller's `fingerprint=` comes first: a string is the fingerprint, and any other value is
none.  Without the keyword it is `otherwise`. -/
def callerSource (keyword : Option Json) (otherwise : PinSource) : PinSource :=
  match keyword with
  | some (.str fingerprint) => .text fingerprint
  | some _ => .absent
  | none => otherwise

/-- A non-empty fingerprint variable. -/
def envSource (host : Host) (fingerprintEnv : String) : PinSource :=
  match host.environ fingerprintEnv with
  | some fingerprint => if fingerprint = "" then .absent else .text fingerprint
  | none => .absent

/-- The `cert.fingerprint` of a datadir. -/
def datadirSource (host : Host) (datadir : String) : PinSource :=
  match host.expanduser datadir with
  | .ok path =>
    match host.readText (joinPath path "cert.fingerprint") with
    | .ok cert => .text (strip cert)
    | .error _ => .unreadable
  | .error _ => .unreadable

section Pins

variable [CharTables]

/-- The endpoint has the pin of the source. -/
def PinSource.Pinned (source : PinSource) (E : Endpoint) : Prop :=
  match source with
  | .absent => True
  | .text fingerprint =>
    ∃ digest, parseFingerprint (.str fingerprint) = .ok digest ∧ E.pin = some digest
  | .unreadable => False

/-- A construction for `url` drops no pin and makes none up. -/
structure KeepsPin (url : String) (source : PinSource) (result : Except Exc Endpoint) : Prop where
  /-- Under an `https` url the client, if there is one, pins what the source says. -/
  pins : httpsScheme url = true → ∀ E, result = .ok E → source.Pinned E
  /-- Under any other url there is no pin. -/
  https : ∀ E, result = .ok E → E.pin ≠ none → httpsScheme url = true

/-- `from_datadir` takes the url for a plain one although its scheme is `https`, looks for no
fingerprint, and finds a token. -/
def Overlooked (host : Host) (url datadir : String) (fingerprint : Option Json) : Prop :=
  fingerprint = none ∧ httpsScheme url = true ∧ startswith url "https://" = false ∧
    ∃ path text, host.expanduser datadir = .ok path ∧
      host.readText (joinPath path "token") = .ok text ∧ strip text ≠ ""

/-- A pinned client has an `https` url. -/
theorem Client.pin_https {url token : String} {timeout : Json} {transport : Option Nat}
    {fingerprint : Json} {c : Client}
    (h : Client.init url token timeout transport fingerprint = .ok c)
    (hpin : c.endpoint.pin ≠ none) : httpsScheme url = true := by
  have hurl := (Client.init_ok h).1
  cases ht : c.http.transport with
  | default | custom _ => exact absurd (by simp [Client.endpoint, HttpxClient.pin, ht]) hpin
  | pinning t =>
    have hstart := (c.pinned t ht).1
    rw [hurl] at hstart
    exact httpsScheme_of_startswith (startswith_of_rstrip hstart)

/-- **No pin is dropped** when every client comes from `__init__` with the fingerprint that the
source says. -/
theorem KeepsPin.of_init {url : String} {source : PinSource} {result : Except Exc Client}
    (h : ∀ c, result = .ok c → ∃ token timeout transport fingerprint,
      Client.init url token timeout transport fingerprint = .ok c ∧
      (httpsScheme url = true →
        source = .absent ∨ ∃ s, source = .text s ∧ fingerprint = .str s)) :
    KeepsPin url source (result.map Client.endpoint) := by
  have hmap : ∀ E, result.map Client.endpoint = .ok E → ∃ c, result = .ok c ∧ c.endpoint = E := by
    intro E hE
    cases result with
    | error e => cases hE
    | ok c => exact ⟨c, rfl, Except.ok.inj hE⟩
  constructor
  · intro hscheme E hE
    obtain ⟨c, hc, rfl⟩ := hmap E hE
    obtain ⟨token, timeout, transport, fingerprint, hinit, hsource⟩ := h c hc
    rcases hsource hscheme with rfl | ⟨s, rfl, rfl⟩
    · exact trivial
    · exact (Client.init_ok hinit).2.2.2.2 (by simp)
  · intro E hE hpin
    obtain ⟨c, hc, rfl⟩ := hmap E hE
    obtain ⟨token, timeout, transport, fingerprint, hinit, -⟩ := h c hc
    exact Client.pin_https hinit hpin

omit [CharTables] in
/-- The keyword, when there is one, is both the source and the argument. -/
theorem callerSource_some (v : Json) (otherwise : PinSource) :
    callerSource (some v) otherwise = .absent ∨
      ∃ s, callerSource (some v) otherwise = .text s ∧ v = .str s := by
  cases v with
  | str s => exact Or.inr ⟨s, rfl, rfl⟩
  | null | bool _ | int _ | float _ | arr _ | obj _ => exact Or.inl rfl

theorem Client.ofKwargs_keepsPin (url token : String) (timeout fingerprint : Option Json) :
    KeepsPin url (callerSource fingerprint .absent)
      ((Client.ofKwargs url token { timeout, fingerprint }).map Client.endpoint) := by
  refine KeepsPin.of_init fun c hc => ⟨_, _, _, _, hc, fun _ => ?_⟩
  cases fingerprint with
  | none => exact Or.inl rfl
  | some v => exact callerSource_some v .absent

theorem Client.fromEnv_keepsPin (host : Host) (urlEnv tokenEnv fingerprintEnv : String)
    (timeout fingerprint : Option Json) :
    KeepsPin ((host.environ urlEnv).getD "")
      (callerSource fingerprint (envSource host fingerprintEnv))
      ((Client.fromEnv host urlEnv tokenEnv fingerprintEnv { timeout, fingerprint }).map
        Client.endpoint) := by
  refine KeepsPin.of_init fun c hc => ?_
  simp only [Client.fromEnv] at hc
  split at hc
  · cases hc
  split at hc
  · cases hc
  split at hc
  · rename_i hempty
    refine ⟨_, _, _, _, hc, fun _ => ?_⟩
    cases fingerprint with
    | some v => exact callerSource_some v _
    | none =>
      refine Or.inl ?_
      unfold callerSource envSource
      cases henv : host.environ fingerprintEnv with
      | none => rfl
      | some text => exact if_pos (by simpa [henv] using hempty)
  · rename_i hgiven
    refine ⟨_, _, _, _, hc, fun _ => ?_⟩
    cases fingerprint with
    | some v => exact callerSource_some v _
    | none =>
      cases henv : host.environ fingerprintEnv with
      | none => exact absurd (by simp [henv]) hgiven
      | some text =>
        have hne : text ≠ "" := by simpa [henv] using hgiven
        refine Or.inr ⟨text, ?_, rfl⟩
        simp [callerSource, envSource, henv, hne]

/-- **`from_datadir` keeps the pin exactly when it does not overlook it.** -/
theorem Client.fromDatadir_keepsPin_iff (host : Host) (url datadir : String)
    (timeout fingerprint : Option Json) :
    KeepsPin url (callerSource fingerprint (datadirSource host datadir))
        ((Client.fromDatadir host url datadir { timeout, fingerprint }).map Client.endpoint) ↔
      ¬ Overlooked host url datadir fingerprint := by
  constructor
  · rintro hkeeps ⟨rfl, hscheme, hstart, path, text, hpath, htext, hne⟩
    have hunread := @Client.fromDatadir_unread _ host url datadir path text { timeout } hpath htext
      hne (by simp [hstart])
    obtain ⟨c, hc, hpin⟩ := Client.init_unpinned url hne (timeout.getD defaultTimeout)
    have hpinned := hkeeps.pins hscheme c.endpoint (by rw [hunread]; exact congrArg _ hc)
    unfold callerSource datadirSource PinSource.Pinned at hpinned
    simp only [hpath] at hpinned
    cases hcert : host.readText (joinPath path "cert.fingerprint") with
    | ok cert =>
      rw [hcert] at hpinned
      obtain ⟨digest, -, hdigest⟩ := hpinned
      exact absurd (hpin.symm.trans hdigest) (by simp)
    | error e =>
      rw [hcert] at hpinned
      exact hpinned
  · intro hseen
    refine KeepsPin.of_init fun c hc => ?_
    obtain ⟨path, text, hpath, htext, hne, hread⟩ := Client.fromDatadir_ok hc
    split at hread
    · rename_i hcond
      obtain ⟨cert, hcert, hinit⟩ := hread
      refine ⟨_, _, _, _, hinit, fun _ => Or.inr ⟨strip cert, ?_, rfl⟩⟩
      have hnone : fingerprint = none := hcond.2
      rw [hnone, callerSource, datadirSource, hpath]
      simp only [hcert]
    · rename_i hcond
      refine ⟨_, _, _, _, hread, fun hscheme => ?_⟩
      cases fingerprint with
      | some v => exact callerSource_some v _
      | none =>
        -- the url is not taken for an `https` url, although it is one
        have hstart : startswith url "https://" = false := by
          by_contra hs
          exact hcond ⟨by simpa using hs, rfl⟩
        exact absurd ⟨rfl, hscheme, hstart, path, text, hpath, htext, hne⟩ hseen

omit [CharTables] in
/-- The same construction of either class ends in the same endpoint. -/
theorem map_toAsync (result : Except Exc Client) :
    (result.map Client.toAsync).map AsyncClient.endpoint = result.map Client.endpoint := by
  cases result with
  | error e => rfl
  | ok c => exact congrArg Except.ok c.toAsync_endpoint

/-- **No constructor drops a pin, but `from_datadir` may overlook one.** -/
theorem constructors_keepPin (host : Host)
    (url token urlEnv tokenEnv fingerprintEnv datadir : String)
    (timeout fingerprint : Option Json) :
    (KeepsPin url (callerSource fingerprint .absent)
        ((Client.ofKwargs url token { timeout, fingerprint }).map Client.endpoint) ∧
      KeepsPin url (callerSource fingerprint .absent)
        ((AsyncClient.ofKwargs url token { timeout, fingerprint }).map AsyncClient.endpoint)) ∧
    (KeepsPin ((host.environ urlEnv).getD "")
        (callerSource fingerprint (envSource host fingerprintEnv))
        ((Client.fromEnv host urlEnv tokenEnv fingerprintEnv { timeout, fingerprint }).map
          Client.endpoint) ∧
      KeepsPin ((host.environ urlEnv).getD "")
        (callerSource fingerprint (envSource host fingerprintEnv))
        ((AsyncClient.fromEnv host urlEnv tokenEnv fingerprintEnv { timeout, fingerprint }).map
          AsyncClient.endpoint)) ∧
    (KeepsPin url (callerSource fingerprint (datadirSource host datadir))
        ((Client.fromDatadir host url datadir { timeout, fingerprint }).map Client.endpoint) ∧
      KeepsPin url (callerSource fingerprint (datadirSource host datadir))
        ((AsyncClient.fromDatadir host url datadir { timeout, fingerprint }).map
          AsyncClient.endpoint) ↔
      ¬ Overlooked host url datadir fingerprint) := by
  rw [ofKwargs_toAsync, fromEnv_toAsync, fromDatadir_toAsync, map_toAsync, map_toAsync,
    map_toAsync, and_self_iff, and_self_iff, and_self_iff]
  exact ⟨Client.ofKwargs_keepsPin url token timeout fingerprint,
    Client.fromEnv_keepsPin host urlEnv tokenEnv fingerprintEnv timeout fingerprint,
    Client.fromDatadir_keepsPin_iff host url datadir timeout fingerprint⟩

omit [CharTables] in
/-- A scheme in capitals: the datadir has a token and a fingerprint, and the client pins
nothing. -/
theorem fromDatadir_overlooks :
    let host : Host := ⟨fun _ => none, .ok, fun path =>
      if path = "/d/token" then .ok "secret\n"
      else .ok ("sha256:0000000000000000000000000000000000000000000000000000000000000000\n")⟩
    ¬ @KeepsPin asciiTables "HTTPS://127.0.0.1:7448" (callerSource none (datadirSource host "/d"))
      ((@Client.fromDatadir asciiTables host "HTTPS://127.0.0.1:7448" "/d" {}).map
        Client.endpoint) := by
  intro host hkeeps
  refine (@Client.fromDatadir_keepsPin_iff asciiTables host "HTTPS://127.0.0.1:7448" "/d" none
    none).mp hkeeps ⟨rfl, by decide, by decide, "/d", "secret\n", rfl, ?_, by decide⟩
  rfl

end Pins

end Exfer
