/-
# What `except ExferError` does not catch

Every error of the SDK is an `ExferError`, but not everything a call raises is an error of the
SDK.

* `SharedCall.Readable` says of a result that a method can unwrap it; `readable_iff` that it does
  exactly then.
* `Escapes` lists the four ways past the blanket catch: two fees, an exception of the transport
  that is not `httpx`'s own, an error code that is no number, and a result that the method cannot
  unwrap.  `blanket_catch_iff` says that these are all, for every call of every run.
-/
import Exfer.Outcomes
import Exfer.Unwrap
import Exfer.Decode
import Exfer.Probe

namespace Exfer

open Py

/-! ## 1. Results a method can unwrap -/

theorem except_bind_isOk_iff {ε α β : Type} (x : Except ε α) (f : α → Except ε β) :
    (∃ b, (x >>= f) = .ok b) ↔ ∃ a, x = .ok a ∧ ∃ b, f a = .ok b := by
  constructor
  · rintro ⟨b, h⟩
    cases x with
    | error e => cases h
    | ok a => exact ⟨a, rfl, b, h⟩
  · rintro ⟨a, rfl, b, h⟩
    exact ⟨b, h⟩

section Unwrap

variable [CharTables]

/-- The result has every field the call exposes, `int` takes the integers among them, and
`addresses` is a list. -/
def SharedCall.Readable (c : SharedCall) (result : Json) : Prop :=
  c.exposed ≠ [] → ∃ d, result = .obj d ∧
    (∀ f ∈ c.exposed, ∃ v, d.lookup f.1 = some v ∧ (f.2 = .integer → v.IntLike)) ∧
    (c = .listAddresses → ∃ items, d.lookup "addresses" = some (.arr items))

def Client.Call.Readable (c : Client.Call) (result : Json) : Prop :=
  match c with
  | .shared c => c.Readable result
  | .swapGetQuote .. => True

def AsyncClient.Call.Readable (c : AsyncClient.Call) (result : Json) : Prop :=
  match c with
  | .shared c => c.Readable result
  | .swapGetQuote .. => True

theorem expectKeys_ok_iff {name : String} {ks : List String} {result : Json} {d : Dict} :
    expectKeys name ks result = .ok d ↔
      result = .obj d ∧ ∀ k ∈ ks, ∃ v, d.lookup k = some v := by
  cases result with
  | obj d' =>
    have hall : (ks.all fun k => (d'.lookup k).isSome) = true ↔
        ∀ k ∈ ks, ∃ v, d'.lookup k = some v := by
      simp only [List.all_eq_true, Option.isSome_iff_exists]
    simp only [expectKeys]
    split
    · rename_i hkeys
      constructor
      · rintro ⟨rfl⟩
        exact ⟨rfl, hall.mp hkeys⟩
      · rintro ⟨⟨rfl⟩, -⟩
        rfl
    · rename_i hkeys
      constructor
      · intro h
        cases h
      · rintro ⟨⟨rfl⟩, h⟩
        exact absurd (hall.mpr h) hkeys
  | null | bool _ | int _ | float _ | str _ | arr _ =>
    constructor
    · intro h
      cases h
    · rintro ⟨h, -⟩
      cases h

theorem subscript_ok_iff {d : Dict} {k : String} {v : Json} :
    subscript d k = .ok v ↔ d.lookup k = some v := by
  unfold subscript
  cases d.lookup k <;> simp

theorem field_ok_iff {name key : String} {result v : Json} :
    field name key result = .ok v ↔ ∃ d, result = .obj d ∧ d.lookup key = some v := by
  constructor
  · intro h
    unfold field at h
    cases hkeys : expectKeys name [key] result with
    | error e => rw [hkeys] at h; cases h
    | ok d =>
      rw [hkeys] at h
      exact ⟨d, (expectKeys_ok_iff.mp hkeys).1, subscript_ok_iff.mp h⟩
  · rintro ⟨d, rfl, hv⟩
    have hkeys : expectKeys name [key] (.obj d) = .ok d :=
      expectKeys_ok_iff.mpr ⟨rfl, by simpa using ⟨v, hv⟩⟩
    rw [field, hkeys]
    exact subscript_ok_iff.mpr hv

theorem letThrough_isOk_iff (v : Json) : (∃ n, letThrough v.toInt = .ok n) ↔ v.IntLike := by
  rw [← Json.toInt_isOk_iff]
  cases v.toInt <;> simp

/-- A method that takes one field out, and makes something of any value of it. -/
theorem field_isOk_iff {name key : String} {result : Json} {f : Json → Except Exc Ret}
    {P : Json → Prop} (hf : ∀ v, (∃ ret, f v = .ok ret) ↔ P v) :
    (∃ ret, (field name key result >>= f) = .ok ret) ↔
      ∃ d, result = .obj d ∧ ∃ v, d.lookup key = some v ∧ P v := by
  rw [except_bind_isOk_iff]
  constructor
  · rintro ⟨v, hv, hret⟩
    obtain ⟨d, rfl, hlookup⟩ := field_ok_iff.mp hv
    exact ⟨d, rfl, v, hlookup, (hf v).mp hret⟩
  · rintro ⟨d, rfl, v, hlookup, hP⟩
    exact ⟨v, field_ok_iff.mpr ⟨d, rfl, hlookup⟩, (hf v).mpr hP⟩

theorem isOk_pure_toInt (v : Json) :
    (∃ ret, (do let n ← letThrough v.toInt; return Ret.value (.int n) : Except Exc Ret) = .ok ret)
      ↔ v.IntLike := by
  rw [except_bind_isOk_iff, ← letThrough_isOk_iff]
  exact ⟨fun ⟨n, hn, _⟩ => ⟨n, hn⟩, fun ⟨n, hn⟩ => ⟨n, hn, _, rfl⟩⟩

/-- **A method unwraps what is readable, and nothing else.** -/
theorem SharedCall.readable_iff (c : SharedCall) (result : Json) :
    (∃ ret, c.unwrap result = .ok ret) ↔ c.Readable result := by
  cases c with
  | generateAddress =>
    simp only [SharedCall.unwrap, except_bind_isOk_iff, expectKeys_ok_iff, subscript_ok_iff]
    constructor
    · rintro ⟨d, ⟨rfl, -⟩, address, haddress, pubkey, hpubkey, index, hindex, n, hn, -⟩ -
      refine ⟨d, rfl, ?_, by simp⟩
      have hint := (letThrough_isOk_iff index).mp ⟨n, hn⟩
      simp [exposed, haddress, hpubkey, hindex, hint]
    · intro h
      obtain ⟨d, rfl, hfields, -⟩ := h (by simp [exposed])
      simp only [exposed, List.forall_mem_cons] at hfields
      obtain ⟨⟨address, haddress, -⟩, ⟨pubkey, hpubkey, -⟩, ⟨index, hindex, hint⟩, -⟩ := hfields
      obtain ⟨n, hn⟩ := (letThrough_isOk_iff index).mpr (by simpa using hint)
      refine ⟨d, ⟨rfl, by simp [haddress, hpubkey]⟩, address, haddress, pubkey, hpubkey, index,
        hindex, n, hn, _, rfl⟩
  | getTip =>
    simp only [SharedCall.unwrap, except_bind_isOk_iff, expectKeys_ok_iff, subscript_ok_iff]
    constructor
    · rintro ⟨d, ⟨rfl, -⟩, height, hheight, n, hn, blockId, hblock, -⟩ -
      refine ⟨d, rfl, ?_, by simp⟩
      have hint := (letThrough_isOk_iff height).mp ⟨n, hn⟩
      simp [exposed, hheight, hblock, hint]
    · intro h
      obtain ⟨d, rfl, hfields, -⟩ := h (by simp [exposed])
      simp only [exposed, List.forall_mem_cons] at hfields
      obtain ⟨⟨height, hheight, hint⟩, ⟨blockId, hblock, -⟩, -⟩ := hfields
      obtain ⟨n, hn⟩ := (letThrough_isOk_iff height).mpr (by simpa using hint)
      exact ⟨d, ⟨rfl, by simp [hheight, hblock]⟩, height, hheight, n, hn, blockId, hblock, _, rfl⟩
  | listAddresses =>
    refine (field_isOk_iff (P := fun v => ∃ items, v = .arr items) fun v => ?_).trans ?_
    · cases v with
      | arr items => exact iff_of_true ⟨_, rfl⟩ ⟨items, rfl⟩
      | null | bool _ | int _ | float _ | str _ | obj _ =>
        refine iff_of_false ?_ ?_
        · rintro ⟨ret, h⟩
          cases h
        · rintro ⟨items, h⟩
          cases h
    · constructor
      · rintro ⟨d, rfl, v, hlookup, items, rfl⟩ -
        exact ⟨d, rfl, by simp [exposed, hlookup], fun _ => ⟨items, hlookup⟩⟩
      · intro h
        obtain ⟨d, rfl, -, hitems⟩ := h (by simp [exposed])
        obtain ⟨items, hlookup⟩ := hitems rfl
        exact ⟨d, rfl, _, hlookup, items, rfl⟩
  | getBalance _ | getBlockHeight =>
    refine (field_isOk_iff isOk_pure_toInt).trans ?_
    simp [Readable, exposed]
  | sendRawTransaction _ | paymentUriEncode _ _ _ _ _ _ | htlcForget _ _ | contractStats _ _
  | htlcLookupByHashlock _ =>
    refine (field_isOk_iff (P := fun _ => True) fun v => ?_).trans ?_
    · exact iff_of_true ⟨_, rfl⟩ trivial
    · simp [Readable, exposed]
  | _ => exact iff_of_true ⟨_, rfl⟩ fun h => absurd rfl h

theorem Client.Call.readable_iff (c : Client.Call) (result : Json) :
    (∃ ret, c.unwrap result = .ok ret) ↔ c.Readable result := by
  cases c with
  | shared c => exact c.readable_iff result
  | swapGetQuote _ _ _ => exact iff_of_true ⟨_, rfl⟩ trivial

theorem AsyncClient.Call.readable_iff (c : AsyncClient.Call) (result : Json) :
    (∃ ret, c.unwrap result = .ok ret) ↔ c.Readable result := by
  cases c with
  | shared c => exact c.readable_iff result
  | swapGetQuote _ _ _ _ => exact iff_of_true ⟨_, rfl⟩ trivial

/-! ## 2. Past the blanket catch -/

omit [CharTables] in
/-- `try: call() except ExferError` lets nothing through. -/
def Caught {α : Type} (outcome : Except Exc α) : Prop :=
  ∀ e, outcome = .error e → e.isinstance .exferError = true

omit [CharTables] in
theorem caught_ok {α : Type} (a : α) : Caught (.ok a) := by
  rintro e ⟨⟩

omit [CharTables] in
theorem caught_error_iff {α : Type} {e : Exc} :
    Caught (.error e : Except Exc α) ↔ e.isinstance .exferError = true := by
  constructor
  · exact fun h => h e rfl
  · rintro h e' ⟨rfl⟩
    exact h

omit [CharTables] in
theorem caught_iff {α : Type} (outcome : Except Exc α) :
    Caught outcome ↔ (∃ a, outcome = .ok a) ∨
      ∃ e, outcome = .error e ∧ e.isinstance .exferError = true := by
  cases outcome with
  | ok a => exact iff_of_true (caught_ok a) (Or.inl ⟨a, rfl⟩)
  | error e => simp [caught_error_iff]

/-- The reply gets past the pin, if there is one. -/
def Endpoint.Admits (E : Endpoint) (r : Response) : Prop :=
  ∀ expected, E.pin = some expected → Authenticated expected r

/-- The four ways past the blanket catch. -/
inductive Escapes (E : Endpoint) (readable : Json → Prop) : Plan → Option Answer → Prop where
  /-- The call is refused, for giving two fees. -/
  | refused (x : Option Answer) : Escapes E readable (.reject feeConflict) x
  /-- The transport raised something that neither `httpx` nor the SDK knows. -/
  | foreign {p : Plan} {e : Exc} : p.kind ≠ .refused → e.isHTTPError = false →
      e.isinstance .exferError = false → Escapes E readable p (some (.error e))
  /-- The error object has a `code` that `int` refuses. -/
  | code {method : String} {args : Named} {timeout : Option Int} {r : Response} {err : Dict}
      {code : Json} : E.Admits r → r.statusCode = 200 ∨ r.statusCode = 400 →
      r.errorObject = some err → err.lookup "code" = some code → ¬ code.IntLike →
      Escapes E readable (.rpc method args timeout) (some (.ok r))
  /-- The method cannot unwrap the result. -/
  | result {method : String} {args : Named} {timeout : Option Int} {r : Response} {v : Json} :
      E.Admits r → r.Succeeds v → ¬ readable v →
      Escapes E readable (.rpc method args timeout) (some (.ok r))

omit [CharTables] in
theorem caught_unwrap_iff {unwrap : Json → Except Exc Ret} {readable : Json → Prop}
    (hreadable : ∀ v, (∃ ret, unwrap v = .ok ret) ↔ readable v)
    (hbuiltin : ∀ v, RaisesBuiltin (unwrap v)) (v : Json) :
    Caught (unwrap v) ↔ readable v := by
  rw [caught_iff, ← hreadable, or_iff_left]
  rintro ⟨e, he, hexfer⟩
  obtain ⟨b, rfl⟩ := hbuiltin v e he
  rw [Exc.isinstance_builtin] at hexfer
  exact absurd hexfer Bool.false_ne_true

/-- A reply decodes to a value exactly when it succeeds with it, whatever its error says. -/
theorem decodeResponse_ok_iff (r : Response) (v : Json) :
    decodeResponse r = .ok v ↔ r.Succeeds v := by
  refine ⟨fun hv => ?_, decodeResponse_of_succeeds⟩
  rcases r.kinds with h | h | ⟨h, hjson⟩ | ⟨w, h⟩ | ⟨h, hjson⟩
  · cases (decodeResponse_unauthorized h).symm.trans hv
  · obtain ⟨text, htext⟩ := decodeResponse_noise h.2.2 h.2.1 h.1
    cases htext.symm.trans hv
  · obtain ⟨text, htext⟩ := decodeResponse_unreadable h hjson
    cases htext.symm.trans hv
  · cases (decodeResponse_of_succeeds h).symm.trans hv
    exact h
  · obtain ⟨body, hbody⟩ := Option.ne_none_iff_exists'.mp hjson
    cases herr : r.errorObject with
    | some err =>
      have hstatus : r.statusCode = 200 ∨ r.statusCode = 400 := h.imp_left And.left
      obtain ⟨message, hraise⟩ := decodeResponse_raises hstatus herr
      exact absurd (hraise.symm.trans hv) (raiseForEnvelope_ne_ok _ _ _ v)
    | none =>
      rcases h with ⟨h200, -⟩ | h400
      · rcases decodeResponse_answer h200 hbody herr with ⟨w, hw, hdecode⟩ | ⟨-, text, htext⟩
        · cases hdecode.symm.trans hv
          exact hw
        · cases htext.symm.trans hv
      · have hbad := decodeResponse_badRequest h400 hbody
        rw [herr] at hbad
        cases hbad.symm.trans hv

/-- **The outcome of an accepted reply** is caught but for two kinds of replies. -/
theorem caught_decode_iff {unwrap : Json → Except Exc Ret} {readable : Json → Prop}
    (hreadable : ∀ v, (∃ ret, unwrap v = .ok ret) ↔ readable v)
    (hbuiltin : ∀ v, RaisesBuiltin (unwrap v)) (r : Response) :
    Caught (decodeResponse r >>= unwrap) ↔
      ¬ ((r.statusCode = 200 ∨ r.statusCode = 400) ∧
        ∃ err c, r.errorObject = some err ∧ err.lookup "code" = some c ∧ ¬ c.IntLike) ∧
      ∀ v, r.Succeeds v → readable v := by
  rw [← decodeResponse_catchable_iff, ← caught_iff]
  cases hdecode : decodeResponse r with
  | ok v =>
    have hunwrap : Caught (unwrap v) ↔ readable v := caught_unwrap_iff hreadable hbuiltin v
    refine hunwrap.trans ⟨fun h => ⟨caught_ok v, fun w hw => ?_⟩, fun h => ?_⟩
    · cases (decodeResponse_of_succeeds hw).symm.trans hdecode
      exact h
    · exact h.2 v ((decodeResponse_ok_iff r v).mp hdecode)
  | error e =>
    have herror : Caught (Except.error e : Except Exc Ret) ↔ e.isinstance .exferError = true :=
      caught_error_iff
    refine herror.trans ⟨fun h => ⟨caught_error_iff.mpr h, fun w hw => ?_⟩, fun h => ?_⟩
    · cases (decodeResponse_of_succeeds hw).symm.trans hdecode
    · exact caught_error_iff.mp h.1

omit [CharTables] in
/-- The exceptions of the pin check are caught. -/
theorem caught_verify {r : Response} {pin : Bytes} {e : Exc}
    (h : verifyPeerFingerprint r pin = .error e) : e.isinstance .exferError = true := by
  rw [Exc.isinstance_exferError_iff]
  have hcases := verify_eq r pin
  cases hleaf : r.leaf with
  | none =>
    rw [hleaf] at hcases
    obtain ⟨text, htext⟩ := hcases
    cases h.symm.trans htext
    simp [Exc.sdkClass]
  | some der =>
    rw [hleaf] at hcases
    simp only at hcases
    rw [hcases] at h
    split at h
    · cases h
    · cases h
      simp [Exc.sdkClass]

omit [CharTables] in
/-- A reply is admitted, or it is refused with an exception that is caught. -/
theorem Endpoint.admits_or (E : Endpoint) (r : Response) :
    (E.Admits r ∧ E.accept (.ok r) = .ok r) ∨
      (¬ E.Admits r ∧ ∃ e, E.accept (.ok r) = .error e ∧ e.isHTTPError = false ∧
        e.isinstance .exferError = true) := by
  by_cases hadmits : E.Admits r
  · exact Or.inl ⟨hadmits, accept_authenticated hadmits⟩
  · refine Or.inr ⟨hadmits, ?_⟩
    obtain ⟨pin, hpin, hauth⟩ : ∃ pin, E.pin = some pin ∧ ¬ Authenticated pin r := by
      simpa only [Endpoint.Admits, not_forall, exists_prop] using hadmits
    cases hverify : verifyPeerFingerprint r pin with
    | ok u => exact absurd ((verify_ok_iff r pin).mp hverify) hauth
    | error e =>
      exact ⟨e, accept_unauthenticated hpin hverify, verify_not_isHTTPError hverify,
        caught_verify hverify⟩

/-- **What escapes from a failed exchange**: neither class catches what the transport raises but
an `httpx` exception. -/
theorem caught_failed {E : Endpoint} {unwrap : Json → Except Exc Ret} {readable : Json → Prop}
    {p : Plan} (hp : p.kind ≠ .refused) (e : Exc) :
    Caught (E.outcome unwrap (.error e) p) ↔ ¬ Escapes E readable p (some (.error e)) := by
  by_cases hhttp : e.isHTTPError = true
  · have hcaught : Caught (E.outcome unwrap (.error e) p) := by
      cases p with
      | reject e' => exact absurd rfl hp
      | probe =>
        have hfalse : E.alive (.error e) = .ok (.value (.bool false)) := if_pos hhttp
        rw [Endpoint.outcome, hfalse]
        exact caught_ok _
      | rpc method args timeout =>
        have hsettle : E.settle (.error e) = .error (wrapHttpxError e) :=
          congrArg Except.error (if_pos hhttp)
        rw [Endpoint.outcome, hsettle]
        exact caught_error_iff.mpr rfl
    refine iff_of_true hcaught ?_
    intro h
    cases h with
    | refused => exact hp rfl
    | foreign _ hnot _ => exact absurd (hhttp.symm.trans hnot) (by simp)
  · have hraised : E.outcome unwrap (.error e) p = .error e := by
      cases p with
      | reject e' => exact absurd rfl hp
      | probe => exact if_neg hhttp
      | rpc method args timeout =>
        have hsettle : E.settle (.error e) = .error e := congrArg Except.error (if_neg hhttp)
        rw [Endpoint.outcome, hsettle]
        rfl
    rw [hraised, caught_error_iff]
    constructor
    · intro hexfer h
      cases h with
      | refused => exact hp rfl
      | foreign _ _ hnot => exact absurd (hexfer.symm.trans hnot) (by simp)
    · intro h
      by_contra hexfer
      exact h (.foreign hp (by simpa using hhttp) (by simpa using hexfer))

/-- **What escapes from a reply.** -/
theorem caught_reply {E : Endpoint} {unwrap : Json → Except Exc Ret} {readable : Json → Prop}
    (hreadable : ∀ v, (∃ ret, unwrap v = .ok ret) ↔ readable v)
    (hbuiltin : ∀ v, RaisesBuiltin (unwrap v)) {p : Plan} (hp : p.kind ≠ .refused)
    (r : Response) :
    Caught (E.outcome unwrap (.ok r) p) ↔ ¬ Escapes E readable p (some (.ok r)) := by
  rcases E.admits_or r with ⟨hadmits, haccept⟩ | ⟨hnot, e, haccept, hhttp, hexfer⟩
  · cases p with
    | reject e' => exact absurd rfl hp
    | probe =>
      refine iff_of_true ?_ ?_
      · rw [Endpoint.outcome, alive_accepted haccept]
        exact caught_ok _
      · intro h
        cases h
    | rpc method args timeout =>
      have hsettle : E.settle (.ok r) = decodeResponse r := by
        simp only [Endpoint.settle, haccept]
      rw [Endpoint.outcome, hsettle, caught_decode_iff hreadable hbuiltin]
      constructor
      · rintro ⟨hcode, hresult⟩ h
        cases h with
        | code _ hstatus herr hlookup hlike => exact hcode ⟨hstatus, _, _, herr, hlookup, hlike⟩
        | result _ hsucceeds hunread => exact hunread (hresult _ hsucceeds)
      · intro h
        refine ⟨?_, fun v hv => ?_⟩
        · rintro ⟨hstatus, err, c, herr, hlookup, hlike⟩
          exact h (.code hadmits hstatus herr hlookup hlike)
        · by_contra hunread
          exact h (.result hadmits hv hunread)
  · have hraised : E.outcome unwrap (.ok r) p = .error e := by
      cases p with
      | reject e' => exact absurd rfl hp
      | probe => simp [Endpoint.outcome, Endpoint.alive, haccept, hhttp]
      | rpc method args timeout =>
        simp only [Endpoint.outcome, Endpoint.settle, haccept, hhttp]
        rfl
    rw [hraised]
    refine iff_of_true (caught_error_iff.mpr hexfer) ?_
    intro h
    cases h with
    | refused => exact hp rfl
    | code hadmits => exact hnot hadmits
    | result hadmits => exact hnot hadmits

/-- **What escapes**, at an endpoint. -/
theorem Endpoint.caught_iff (E : Endpoint) {unwrap : Json → Except Exc Ret}
    {readable : Json → Prop} (hreadable : ∀ v, (∃ ret, unwrap v = .ok ret) ↔ readable v)
    (hbuiltin : ∀ v, RaisesBuiltin (unwrap v)) {p : Plan} (hsafe : p.FeeSafe) {x : Option Answer}
    {outcome : Except Exc Ret} (h : E.result unwrap x p = some outcome) :
    Caught outcome ↔ ¬ Escapes E readable p x := by
  by_cases hp : p.kind = .refused
  · have hreject := hsafe.refused hp
    subst hreject
    cases h
    refine iff_of_false ?_ (not_not_intro (.refused x))
    rw [caught_error_iff]
    exact Bool.false_ne_true
  · have hx : ∃ y, x = some y ∧ outcome = E.outcome unwrap y p := by
      cases p with
      | reject e => exact absurd rfl hp
      | probe | rpc _ _ _ =>
        cases x with
        | none => cases h
        | some y => exact ⟨y, rfl, (Option.some.inj h).symm⟩
    obtain ⟨y, rfl, rfl⟩ := hx
    cases y with
    | error e => exact caught_failed hp e
    | ok r => exact caught_reply hreadable hbuiltin hp r

/-! ## 3. On the clients -/

/-- The result of an RPC call whose reply gets past the pin. -/
theorem PerformsWith.result_admitted {κ : Type} {E : Endpoint}
    {unwrap : κ → Json → Except Exc Ret} {plan : κ → Plan} {prog : κ → Program}
    (h : PerformsWith E unwrap plan prog) {evs : List (Event κ Answer)} {i : Nat} {c : κ}
    (hc : (Loop.calls evs)[i]? = some c) (hkind : (plan c).kind = .rpc) {r : Response}
    (hr : Loop.answerTo evs i = some (.ok r)) (hadmits : E.Admits r) :
    (Loop.run prog firstId evs).result i = some (decodeResponse r >>= unwrap c) := by
  have hsettle : E.settle (.ok r) = decodeResponse r := by
    simp only [Endpoint.settle, accept_authenticated hadmits]
  rw [h.result_run, hc, hr, Option.bind_some]
  cases hp : plan c with
  | rpc method args timeout =>
    simp only [Endpoint.result, Option.map_some, Endpoint.outcome, hsettle]
  | reject _ | probe => rw [hp] at hkind; cases hkind

/-- **The blanket catch.**  In every run of either client, a call that has ended is one that
`except ExferError` is enough for, unless it escapes in one of the four ways. -/
theorem blanket_catch_iff :
    (∀ (self : Client) (evs : List (Event Client.Call Answer)) (i : Nat) (c : Client.Call)
        (outcome : Except Exc Ret), (Loop.calls evs)[i]? = some c →
      (Loop.run self.program firstId evs).result i = some outcome →
      (Caught outcome ↔
        ¬ Escapes self.endpoint c.Readable c.plan (Loop.answerTo evs i))) ∧
    (∀ (self : AsyncClient) (evs : List (Event AsyncClient.Call Answer)) (i : Nat)
        (c : AsyncClient.Call) (outcome : Except Exc Ret), (Loop.calls evs)[i]? = some c →
      (Loop.run self.program firstId evs).result i = some outcome →
      (Caught outcome ↔
        ¬ Escapes self.endpoint c.Readable c.plan (Loop.answerTo evs i))) := by
  constructor
  · intro self evs i c outcome hc hresult
    rw [self.performsWith.result_run, hc] at hresult
    exact self.endpoint.caught_iff c.readable_iff c.unwrap_builtin c.plan_feeSafe hresult
  · intro self evs i c outcome hc hresult
    rw [self.performsWith.result_run, hc] at hresult
    exact self.endpoint.caught_iff c.readable_iff c.unwrap_builtin c.plan_feeSafe hresult

omit [CharTables] in
/-- A balance that walletd leaves out. -/
theorem blanket_catch_missing :
    letI : CharTables := asciiTables
    ∃ c outcome, Client.init "http://127.0.0.1:7448" "secret" = .ok c ∧
      (Loop.run c.program firstId [.call (.shared (.getBalance (.str "ab"))),
        .reply 0 (.ok ⟨200, "", some (.obj [("result", .obj [])]), none⟩)]).result 0
        = some outcome ∧ ¬ Caught outcome := by
  let _ : CharTables := asciiTables
  obtain ⟨c, -, hc, -, hE, -⟩ := exists_local (by decide : "secret" ≠ "")
  let r : Response := ⟨200, "", some (.obj [("result", .obj [])]), none⟩
  let evs : List (Event Client.Call Answer) :=
    [.call (.shared (.getBalance (.str "ab"))), .reply 0 (.ok r)]
  have hresult : (Loop.run c.program firstId evs).result 0 = some _ :=
    c.performsWith.result_run evs 0
  refine ⟨c, _, hc, hresult, fun hcaught => ?_⟩
  refine (blanket_catch_iff.1 c evs 0 _ _ rfl hresult).mp hcaught ?_
  refine .result (v := .obj []) ?_ ⟨rfl, _, rfl, Or.inl rfl, rfl⟩ fun hreadable => ?_
  · intro pin hpin
    rw [hE] at hpin
    cases hpin
  · obtain ⟨d, hd, hfields, -⟩ := hreadable (by simp [SharedCall.exposed])
    cases hd
    obtain ⟨v, hv, -⟩ := hfields ("balance", .integer) (by simp [SharedCall.exposed])
    cases hv

end Unwrap

end Exfer
