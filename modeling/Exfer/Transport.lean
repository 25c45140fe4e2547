/-
# `_transport.py`: envelopes, replies and pinning

The wire logic both clients share.

* `buildEnvelope` and `decodeResponse` are the two halves of a JSON-RPC exchange.  A reply is
  what `httpx` hands back: a status, a body as text, the body parsed as JSON when it parses, and
  the network stream it came over.
* `parseFingerprint` reads a pin and `verifyPeerFingerprint` holds a reply against it.  They
  agree on the text form: `parseFingerprint_format` and `parseFingerprint_length`.
* The pinning transports wrap `httpx`'s.  A `Session` is client code: it takes ids from the
  counter without suspending and hands requests to the base transport, which completes the TLS
  handshake with whatever certificate the peer shows, writes the request, and answers.

`httpx` itself is not modelled.  A request is what the SDK hands over, and an answer is what
comes back of it.
-/
import Exfer.Errors
import Exfer.Lib.Coro

namespace Exfer

open Py

/-! ## 1. Envelopes -/

/-- `build_envelope`. -/
def buildEnvelope (method : String) (params : Option Dict) (requestId : Nat) : Dict :=
  [("jsonrpc", .str "2.0"), ("method", .str method), ("params", .obj (params.getD [])),
    ("id", .int requestId)]

/-! ## 2. Replies -/

/-- The stdlib `ssl` object of a connection: what `getpeercert(True)` returns. -/
structure SslObject where
  peercert : Option Bytes

/-- `response.extensions["network_stream"]`: what `get_extra_info("ssl_object")` returns. -/
structure NetworkStream where
  sslObject : Option SslObject

/-- An `httpx.Response`, as the SDK reads it.  `text` is the body, which is taken to decode, and
`json` is what `Response.json()` returns, or `none` where it raises `ValueError`; it is taken to do
one or the other, at any nesting depth.  Neither field is derived from the other here. -/
structure Response where
  statusCode : Nat
  text : String
  json : Option Json
  networkStream : Option NetworkStream

/-- A builtin exception, let through. -/
def letThrough {α : Type} (r : Except BuiltinError α) : Except Exc α := r.mapError .builtin

@[simp] theorem letThrough_ok {α : Type} (a : α) :
    letThrough (.ok a : Except BuiltinError α) = .ok a := rfl
@[simp] theorem letThrough_error {α : Type} (e : BuiltinError) :
    letThrough (.error e : Except BuiltinError α) = .error (.builtin e) := rfl

section Decode

variable [CharTables]

/-- `_parse_json_or_raise`. -/
def parseJsonOrRaise (resp : Response) : Except Exc Json :=
  match resp.json with
  | some body => .ok body
  | none => .error (.transport ("walletd returned non-JSON body (HTTP " ++
      toString resp.statusCode ++ "): " ++ strRepr (takeStr 200 resp.text)))

/-- `_safe_message`. -/
def safeMessage (resp : Response) (default : String) : String :=
  match resp.json with
  | some (.obj body) =>
    match body.lookup "error" with
    | some (.obj err) =>
      match err.lookup "message" with
      | some (.str msg) => if msg = "" then default else msg
      | _ => default
    | _ => default
  | _ => default

/-- `raise error_for_code(int(err.get("code", code)), str(err.get("message", message)),
err.get("data"))`. -/
def raiseForEnvelope (err : Dict) (code : Int) (message : String) : Except Exc Json :=
  match letThrough (dictGet err "code" (.int code)).toInt with
  | .error e => .error e
  | .ok n =>
    .error (.walletd (errorForCode n (dictGet err "message" (.str message)).toStr
      (dictGet err "data")))

/-- `decode_response`. -/
def decodeResponse (resp : Response) : Except Exc Json :=
  let status := resp.statusCode
  if status = 401 then
    .error (.walletd (WalletdError.init .authenticationError
      (safeMessage resp "authentication required") (some (-32001))))
  else if status = 400 then do
    let body ← parseJsonOrRaise resp
    let err := match body with
      | .obj body => dictGet body "error"
      | _ => .null
    match err with
    | .obj err => raiseForEnvelope err (-32700) "parse error"
    | _ => .error (.walletd (WalletdError.init .parseError "parse error" (some (-32700))))
  else if status ≠ 200 then
    .error (.transport ("unexpected HTTP " ++ toString status ++ " from walletd: " ++
      strRepr (takeStr 200 resp.text)))
  else do
    let body ← parseJsonOrRaise resp
    match body with
    | .obj fields =>
      -- a null `error` counts as an absent one
      match dictGet fields "error" with
      | .null =>
        match fields.lookup "result" with
        | some result => .ok result
        | none => .error (.walletd (WalletdError.init .protocolError
            ("walletd response missing both result and error: " ++ body.repr)))
      | .obj err => raiseForEnvelope err 0 ""
      | err => .error (.walletd (WalletdError.init .protocolError
          ("walletd error envelope is not an object: " ++ err.repr)))
    | body => .error (.walletd (WalletdError.init .protocolError
        ("walletd returned non-object body: " ++ body.repr)))

end Decode

/-- `wrap_httpx_error`. -/
def wrapHttpxError (exc : Exc) : Exc := .transport ("walletd unreachable: " ++ exc.toStr)

/-! ## 3. Fingerprints -/

/-- `_FINGERPRINT_RE.match`: the group of `^sha256:([0-9a-fA-F]{64})$`.  The `$` of Python's `re`
also matches before a final newline. -/
def matchFingerprint (cs : List Char) : Option (List Char) :=
  if "sha256:".toList.isPrefixOf cs then
    let rest := cs.drop 7
    let group := rest.take 64
    if group.length = 64 ∧ group.all isHex ∧ (rest.drop 64 = [] ∨ rest.drop 64 = ['\n']) then
      some group
    else none
  else none

/-- `_format_fingerprint`. -/
def formatFingerprint (digest : Bytes) : String := "sha256:" ++ hex digest

/-- What an accepted text pins is sixty-four hexadecimal digits. -/
theorem matchFingerprint_some {cs group : List Char} (h : matchFingerprint cs = some group) :
    group.length = 64 ∧ ∀ c ∈ group, isHex c = true := by
  unfold matchFingerprint at h
  split at h
  · simp only at h
    split at h
    · rename_i hgroup
      obtain ⟨hlen, hhex, -⟩ := hgroup
      rw [← Option.some.inj h]
      exact ⟨hlen, List.all_eq_true.mp hhex⟩
    · exact absurd h (by simp)
  · exact absurd h (by simp)

theorem matchFingerprint_append {group : List Char} (hlen : group.length = 64)
    (hhex : ∀ c ∈ group, isHex c = true) :
    matchFingerprint ("sha256:".toList ++ group) = some group := by
  have hdrop : ("sha256:".toList ++ group).drop 7 = group := List.drop_left' rfl
  have htake : group.take 64 = group := List.take_of_length_le (by omega)
  have hrest : group.drop 64 = [] := List.drop_of_length_le (by omega)
  have hpre : "sha256:".toList.isPrefixOf ("sha256:".toList ++ group) = true := by simp
  unfold matchFingerprint
  rw [if_pos hpre]
  simp only [hdrop, htake, hrest]
  exact if_pos ⟨hlen, List.all_eq_true.mpr hhex, Or.inl trivial⟩

/-- A formatted digest has no blank at either end. -/
theorem strip_format {digest : Bytes} (hlen : digest.length = 32) :
    strip (formatFingerprint digest) = formatFingerprint digest := by
  have hne : (hex digest).toList ≠ [] := by
    intro hnil
    have := hex_length digest
    rw [hnil, hlen] at this
    simp at this
  apply String.toList_injective
  rw [toList_strip]
  refine stripBy_eq_self ?_ ?_
  · intro c hc
    have hs : c = 's' := by simpa [formatFingerprint] using hc.symm
    rw [hs]; rfl
  · intro c hc
    rw [formatFingerprint, String.toList_append, List.getLast?_append_of_ne_nil _ hne] at hc
    exact isSpace_of_isHex (hex_isHex digest c (List.mem_of_getLast? hc))

section Parse

variable [CharTables]

/-- `parse_fingerprint`. -/
def parseFingerprint (s : Json) : Except Exc Bytes :=
  match s with
  | .str s =>
    match matchFingerprint (strip s).toList with
    | some group =>
      match fromHex (group.map Char.toLower) with
      | some digest => .ok digest
      | none => .error (Exc.valueError "non-hexadecimal number found in fromhex() arg")
    | none => .error (Exc.valueError ("invalid fingerprint " ++ strRepr s ++
        ": expected 'sha256:<64-hex-char>' (walletd writes this in <datadir>/cert.fingerprint)"))
  | v => .error (Exc.valueError ("fingerprint must be a string, got " ++ v.typeName))

/-- **A pin is a digest**: `parse_fingerprint` yields thirty-two bytes. -/
theorem parseFingerprint_length {v : Json} {digest : Bytes}
    (h : parseFingerprint v = .ok digest) : digest.length = 32 := by
  cases v with
  | str s =>
    simp only [parseFingerprint] at h
    split at h
    · rename_i group hgroup
      obtain ⟨hlen, hhex⟩ := matchFingerprint_some hgroup
      obtain ⟨data, hdata, hn⟩ := fromHex_length 32 group hlen hhex
      rw [fromHex_map_toLower, hdata] at h
      simp only [Except.ok.injEq] at h
      exact h ▸ hn
    · exact absurd h (by simp)
  | null | bool _ | int _ | float _ | arr _ | obj _ => simp [parseFingerprint] at h

/-- **Formatting and parsing a digest is the identity.** -/
theorem parseFingerprint_format {digest : Bytes} (hlen : digest.length = 32) :
    parseFingerprint (.str (formatFingerprint digest)) = .ok digest := by
  have hmatch : matchFingerprint (strip (formatFingerprint digest)).toList
      = some (hex digest).toList := by
    rw [strip_format hlen, formatFingerprint, String.toList_append]
    exact matchFingerprint_append (by rw [hex_length, hlen]) (hex_isHex digest)
  simp only [parseFingerprint, hmatch, fromHex_map_toLower, fromHex_hex]

end Parse

/-! ## 4. Holding a reply against a pin -/

/-- `_verify_peer_fingerprint`. -/
def verifyPeerFingerprint (response : Response) (expected : Bytes) : Except Exc Unit :=
  match response.networkStream with
  | none => .error (.transport ("fingerprint pinning is configured but the response carried no " ++
      "network stream; HTTPS is required when fingerprint= is set"))
  | some stream =>
    match stream.sslObject with
    | none => .error (.transport ("fingerprint pinning is configured but the connection isn't " ++
        "TLS; use an https:// URL"))
    | some ssl =>
      -- `if not peer_der`: absent and empty are one case
      match ssl.peercert with
      | none | some [] => .error (.transport "TLS peer presented no certificate")
      | some peerDer =>
        let actual := sha256 peerDer
        if actual = expected then .ok ()
        else .error (.fingerprintMismatch (formatFingerprint expected)
          (formatFingerprint actual))

/-- The leaf certificate a reply came with: the non-empty one of its TLS stream. -/
def Response.leaf (response : Response) : Option Bytes := do
  let stream ← response.networkStream
  let ssl ← stream.sslObject
  let der ← ssl.peercert
  if der = [] then none else some der

/-- The check reads nothing of a reply but its network stream. -/
theorem verify_congr {r₁ r₂ : Response} (h : r₁.networkStream = r₂.networkStream)
    (expected : Bytes) : verifyPeerFingerprint r₁ expected = verifyPeerFingerprint r₂ expected := by
  unfold verifyPeerFingerprint
  rw [h]

/-- **The check, case by case**: no leaf certificate, the wrong one, the right one. -/
theorem verify_eq (response : Response) (expected : Bytes) :
    match response.leaf with
    | none => ∃ text, verifyPeerFingerprint response expected = .error (.transport text)
    | some der =>
      verifyPeerFingerprint response expected =
        if sha256 der = expected then .ok ()
        else .error (.fingerprintMismatch (formatFingerprint expected)
          (formatFingerprint (sha256 der))) := by
  unfold Response.leaf verifyPeerFingerprint
  cases response.networkStream with
  | none => exact ⟨_, rfl⟩
  | some stream =>
    cases hssl : stream.sslObject with
    | none => simp [hssl]
    | some ssl =>
      cases hcert : ssl.peercert with
      | none => simp [hssl, hcert]
      | some der =>
        cases der with
        | nil => simp [hssl, hcert]
        | cons b bs => simp [hssl, hcert]

/-- The leaf certificate of a reply hashes to the pin. -/
def Authenticated (expected : Bytes) (response : Response) : Prop :=
  ∃ der, response.leaf = some der ∧ sha256 der = expected

/-- **The check passes exactly the authenticated replies.** -/
theorem verify_ok_iff (response : Response) (expected : Bytes) :
    verifyPeerFingerprint response expected = .ok () ↔ Authenticated expected response := by
  have h := verify_eq response expected
  unfold Authenticated
  cases hleaf : response.leaf with
  | none =>
    rw [hleaf] at h
    obtain ⟨text, htext⟩ := h
    simp [htext]
  | some der =>
    rw [hleaf] at h
    simp only at h
    rw [h]
    by_cases hd : sha256 der = expected <;> simp [hd]

/-! ## 5. Sessions and the pinning transports -/

/-- The two HTTP methods the clients use. -/
inductive Verb where
  | get | post
  deriving DecidableEq

/-- A request as the SDK hands it to `httpx`: the line, the headers the SDK sets, the JSON body, and
the timeout in effect.  What reaches the wire is up to `httpx`, which adds headers of its own, such
as cookies or the credentials of a url that has any. -/
structure HttpRequest where
  verb : Verb
  url : String
  headers : List (String × String)
  json : Option Dict
  timeout : Json

/-- What comes of a request that `httpx` was handed: a reply, or an exception. -/
abbrev Answer := Except Exc Response

/-- Client code: it may take an id, hand a request over, and raise.  The shared state is the next
value of the client's `_IdCounter`. -/
abbrev Session := ExceptT Exc (Coro Nat HttpRequest Answer)

/-- `_IdCounter.next`: `next(itertools.count(1))`. -/
def nextId : Session Nat := ExceptT.lift (Coro.update (· + 1) Coro.ret)

/-- The first value of an `_IdCounter`. -/
def firstId : Nat := 1

/-- `httpx.HTTPTransport.handle_request` and its async twin. -/
def baseHandleRequest (request : HttpRequest) : Session Response :=
  ExceptT.mk (Coro.await request Coro.ret)

/-- Raise or return inside a session. -/
def ofExcept {α : Type} (r : Except Exc α) : Session α := ExceptT.mk (pure r)

/-- `_FingerprintHTTPTransport`. -/
structure FingerprintHTTPTransport where
  expected : Bytes

/-- `_FingerprintHTTPTransport.handle_request`. -/
def FingerprintHTTPTransport.handleRequest (self : FingerprintHTTPTransport)
    (request : HttpRequest) : Session Response := do
  let response ← baseHandleRequest request
  ofExcept (verifyPeerFingerprint response self.expected)
  return response

/-- `_FingerprintAsyncHTTPTransport`. -/
structure FingerprintAsyncHTTPTransport where
  expected : Bytes

/-- `_FingerprintAsyncHTTPTransport.handle_async_request`. -/
def FingerprintAsyncHTTPTransport.handleAsyncRequest (self : FingerprintAsyncHTTPTransport)
    (request : HttpRequest) : Session Response := do
  let response ← baseHandleRequest request
  ofExcept (verifyPeerFingerprint response self.expected)
  return response

/-- The `transport=` of an `httpx` client: its own, one the caller brought, or a pinning one. -/
inductive TransportArg (Pin : Type) where
  | default
  | custom (id : Nat)
  | pinning (t : Pin)

/-- The parts of an `httpx.Client` or `httpx.AsyncClient` the SDK sets. -/
structure HttpxClient (Pin : Type) where
  timeout : Json
  transport : TransportArg Pin
  headers : List (String × String)

/-- `httpx`'s `send`: merge headers and timeout, and give the request to the transport, once,
without retry or redirect.  A token that is no header value, or an argument that is no JSON, makes
`httpx` raise before that; it is then the answer to a request that was never written. -/
def HttpxClient.send {Pin : Type} (handle : Pin → HttpRequest → Session Response)
    (self : HttpxClient Pin) (verb : Verb) (url : String)
    (headers : List (String × String) := []) (json : Option Dict := none)
    (timeout : Option Int := none) : Session Response :=
  let request : HttpRequest :=
    ⟨verb, url, self.headers ++ headers, json, (timeout.map Json.int).getD self.timeout⟩
  match self.transport with
  | .pinning t => handle t request
  | .default | .custom _ => baseHandleRequest request

end Exfer
