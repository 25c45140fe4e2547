/-
# What a return type is worth

The methods are annotated with what they return.  Some convert or test what walletd sent, and the
others `cast` it, which does nothing at run time.

* `SharedCall.returnType` is the return annotation as far as the code makes it true.  A
  `TypedDict` that is cast is `unchecked`, and so are the lists of `contract_stats`,
  `htlc_lookup_by_hashlock` and `swap_list`, unlike that of `list_addresses`.
* `annotations_worth`: in every run, whatever the replies are, a method returns a value of its
  return type.  And a method that is `unchecked` returns what walletd sent, whatever that is:
  `SharedCall.handedBack` says which part of it.
-/
import Exfer.Blanket

namespace Exfer

open Py

/-! ## 1. The annotations -/

/-- A return annotation that the code makes true. -/
inductive ReturnType where
  | none | bool | int | str | list | tip | generateAddressResult | unchecked

/-- The values of a return type. -/
def ReturnType.Admits (ret : Ret) : ReturnType → Prop
  | none => ret = .none
  | bool => ∃ b, ret = .value (.bool b)
  | int => ∃ n, ret = .value (.int n)
  | str => ∃ s, ret = .value (.str s)
  | list => ∃ items, ret = .value (.arr items)
  | tip => ∃ t, ret = .tip t
  | generateAddressResult => ∃ address pubkey index, ret = .value (.obj [("address", .str address),
      ("pubkey", .str pubkey), ("index", .int index)])
  | unchecked => ∃ v, ret = .value v

def SharedCall.returnType : SharedCall → ReturnType
  | healthz | htlcForget .. => .bool
  | ping => .none
  | generateAddress => .generateAddressResult
  | listAddresses => .list
  | getBalance _ | getBlockHeight => .int
  | getTip => .tip
  | sendRawTransaction _ | paymentUriEncode .. => .str
  | _ => .unchecked

def Client.Call.returnType : Client.Call → ReturnType
  | .shared c => c.returnType
  | .swapGetQuote .. => .unchecked

def AsyncClient.Call.returnType : AsyncClient.Call → ReturnType
  | .shared c => c.returnType
  | .swapGetQuote .. => .unchecked

/-- A member of an object. -/
def member (k : String) : Json → Option Json
  | .obj d => d.lookup k
  | _ => none

/-- What a method that checks nothing hands back of a result: a member of it, or all of it. -/
def SharedCall.handedBack (result : Json) : SharedCall → Option Json
  | contractStats .. => member "stats" result
  | htlcLookupByHashlock _ => member "htlcs" result
  | _ => some result

def Client.Call.handedBack (result : Json) : Client.Call → Option Json
  | .shared c => c.handedBack result
  | .swapGetQuote .. => some result

def AsyncClient.Call.handedBack (result : Json) : AsyncClient.Call → Option Json
  | .shared c => c.handedBack result
  | .swapGetQuote .. => some result

section Unwrap

variable [CharTables]

/-! ## 2. Unwrapping -/

/-- **A method returns a value of its type**, whatever the result is. -/
theorem SharedCall.unwrap_admits {c : SharedCall} (hprobe : c.kind ≠ .probe) {result : Json}
    {ret : Ret} (h : c.unwrap result = .ok ret) : c.returnType.Admits ret := by
  cases c with
  | healthz => exact absurd rfl hprobe
  | ping => exact (Except.ok.inj h).symm
  | generateAddress =>
    obtain ⟨d, -, h⟩ := except_bind_ok h
    obtain ⟨address, -, h⟩ := except_bind_ok h
    obtain ⟨pubkey, -, h⟩ := except_bind_ok h
    obtain ⟨index, -, h⟩ := except_bind_ok h
    obtain ⟨n, -, h⟩ := except_bind_ok h
    exact ⟨_, _, n, (Except.ok.inj h).symm⟩
  | getTip =>
    obtain ⟨d, -, h⟩ := except_bind_ok h
    obtain ⟨height, -, h⟩ := except_bind_ok h
    obtain ⟨n, -, h⟩ := except_bind_ok h
    obtain ⟨blockId, -, h⟩ := except_bind_ok h
    exact ⟨_, (Except.ok.inj h).symm⟩
  | listAddresses =>
    obtain ⟨v, -, h⟩ := except_bind_ok h
    cases v with
    | arr items => exact ⟨items, (Except.ok.inj h).symm⟩
    | null | bool _ | int _ | float _ | str _ | obj _ => cases h
  | getBalance _ | getBlockHeight =>
    obtain ⟨v, -, h⟩ := except_bind_ok h
    obtain ⟨n, -, h⟩ := except_bind_ok h
    exact ⟨n, (Except.ok.inj h).symm⟩
  | sendRawTransaction _ | paymentUriEncode _ _ _ _ _ _ | htlcForget _ _ | contractStats _ _
  | htlcLookupByHashlock _ =>
    obtain ⟨v, -, h⟩ := except_bind_ok h
    exact ⟨_, (Except.ok.inj h).symm⟩
  -- what is cast comes back as it came
  | _ => exact ⟨result, (Except.ok.inj h).symm⟩

omit [CharTables] in
theorem member_eq_some_iff {k : String} {result v : Json} :
    member k result = some v ↔ ∃ d, result = .obj d ∧ d.lookup k = some v := by
  cases result <;> simp [member]

/-- **A method that checks nothing hands the value back untouched.** -/
theorem SharedCall.unwrap_handedBack {c : SharedCall} (hc : c.returnType = .unchecked)
    {result v : Json} (hv : c.handedBack result = some v) : c.unwrap result = .ok (.value v) := by
  have hfield : ∀ name key, member key result = some v →
      (field name key result >>= fun v => .ok (.value v)) = Except.ok (Ret.value v) := by
    intro name key hmember
    rw [field_ok_iff.mpr (member_eq_some_iff.mp hmember)]
    rfl
  cases c with
  | contractStats _ _ => exact hfield "contract_stats" "stats" hv
  | htlcLookupByHashlock _ => exact hfield "htlc_lookup_by_hashlock" "htlcs" hv
  | healthz | ping | generateAddress | listAddresses | getBalance _ | getBlockHeight | getTip
  | sendRawTransaction _ | paymentUriEncode _ _ _ _ _ _ | htlcForget _ _ => cases hc
  | _ => exact congrArg (fun v => Except.ok (Ret.value v)) (Option.some.inj hv)

omit [CharTables] in
theorem SharedCall.returnType_probe {c : SharedCall} (h : c.kind = .probe) :
    c.returnType = .bool := by
  cases c with
  | healthz => rfl
  | htlcLock _ _ _ _ _ _ _ _ | simulateHtlcLock _ _ _ _ _ _ _ _ | simulateTransfer _ _ _ _ _ _ =>
    simp only [SharedCall.kind] at h
    split at h <;> cases h
  | _ => cases h

/-- A method whose unwrapping yields values of its type, and the very value if that is
unchecked. -/
structure Annotated (kind : CallKind) (returnType : ReturnType) (handedBack : Json → Option Json)
    (unwrap : Json → Except Exc Ret) : Prop where
  admits : kind ≠ .probe → ∀ result ret, unwrap result = .ok ret → returnType.Admits ret
  untouched : returnType = .unchecked → ∀ result v, handedBack result = some v →
    unwrap result = .ok (.value v)
  probe : kind = .probe → returnType = .bool

theorem SharedCall.annotated (c : SharedCall) :
    Annotated c.kind c.returnType (fun result => c.handedBack result)
      fun result => c.unwrap result :=
  ⟨fun hprobe _ _ h => unwrap_admits hprobe h, fun hc _ _ hv => unwrap_handedBack hc hv,
    returnType_probe⟩

omit [CharTables] in
/-- `swap_get_quote` casts what it gets. -/
theorem annotated_cast :
    Annotated .rpc .unchecked some fun result => .ok (.value result) := by
  refine ⟨?_, ?_, ?_⟩
  · rintro - result ret ⟨⟩
    exact ⟨result, rfl⟩
  · rintro - result v ⟨⟩
    rfl
  · rintro ⟨⟩

theorem Client.Call.annotated (c : Client.Call) :
    Annotated c.kind c.returnType (fun result => c.handedBack result)
      fun result => c.unwrap result := by
  cases c with
  | shared c => exact c.annotated
  | swapGetQuote _ _ _ => exact annotated_cast

theorem AsyncClient.Call.annotated (c : AsyncClient.Call) :
    Annotated c.kind c.returnType (fun result => c.handedBack result)
      fun result => c.unwrap result := by
  cases c with
  | shared c => exact c.annotated
  | swapGetQuote _ _ _ _ => exact annotated_cast

/-! ## 3. Runs -/

theorem Annotated.outcome {p : Plan} {returnType : ReturnType} {handedBack : Json → Option Json}
    {unwrap : Json → Except Exc Ret} (h : Annotated p.kind returnType handedBack unwrap)
    {E : Endpoint} {x : Answer} {ret : Ret} (hret : E.outcome unwrap x p = .ok ret) :
    returnType.Admits ret := by
  cases p with
  | reject e => cases hret
  | probe =>
    rw [h.probe rfl]
    simp only [Endpoint.outcome, Endpoint.alive] at hret
    split at hret
    · exact ⟨_, (Except.ok.inj hret).symm⟩
    · split at hret
      · exact ⟨false, (Except.ok.inj hret).symm⟩
      · cases hret
  | rpc method args timeout =>
    obtain ⟨result, -, hunwrap⟩ := except_bind_ok hret
    exact h.admits (fun hkind => by cases hkind) result ret hunwrap

/-- What the return annotation of a method says of the runs of the family. -/
structure ReturnsTyped {κ : Type} (E : Endpoint) (prog : κ → Program) (kind : CallKind)
    (returnType : ReturnType) (handedBack : Json → Option Json) (c : κ) : Prop where
  /-- The method returns nothing but values of its type. -/
  sound : ∀ (evs : List (Event κ Answer)) (i : Nat) (ret : Ret), (Loop.calls evs)[i]? = some c →
    (Loop.run prog firstId evs).result i = some (.ok ret) → returnType.Admits ret
  /-- If that is unchecked, it returns what it is sent, whatever it is. -/
  untouched : returnType = .unchecked → kind = .rpc →
    ∀ (evs : List (Event κ Answer)) (i : Nat) (r : Response) (result v : Json),
      (Loop.calls evs)[i]? = some c → Loop.answerTo evs i = some (.ok r) → E.Admits r →
      r.Succeeds result → handedBack result = some v →
      (Loop.run prog firstId evs).result i = some (.ok (.value v))

theorem PerformsWith.returnsTyped {κ : Type} {E : Endpoint} {unwrap : κ → Json → Except Exc Ret}
    {plan : κ → Plan} {prog : κ → Program} (h : PerformsWith E unwrap plan prog) {c : κ}
    {kind : CallKind} (hkind : (plan c).kind = kind) {returnType : ReturnType}
    {handedBack : Json → Option Json} (hc : Annotated kind returnType handedBack (unwrap c)) :
    ReturnsTyped E prog kind returnType handedBack c := by
  subst hkind
  constructor
  case sound =>
    intro evs i ret hcall hresult
    rw [h.result_run, hcall] at hresult
    have hret : E.result (unwrap c) (Loop.answerTo evs i) (plan c) = some (.ok ret) := hresult
    cases hp : plan c with
    | reject e => rw [hp] at hret; cases hret
    | probe | rpc _ _ _ =>
      rw [hp] at hret
      obtain ⟨x, -, hx⟩ := Option.map_eq_some_iff.mp hret
      rw [← hp] at hx
      exact hc.outcome hx
  case untouched =>
    intro htype hrpc evs i r result v hcall hr hadmits hsucceeds hv
    rw [h.result_admitted hcall hrpc hr hadmits, decodeResponse_of_succeeds hsucceeds]
    exact congrArg some (hc.untouched htype result v hv)

/-- **What a return annotation is worth.**  Whatever the replies and the interleaving are, a method
of either client returns a value of its return type.  One whose type is unchecked returns what it
is sent, be it a value of its annotation or not. -/
theorem annotations_worth :
    (∀ (self : Client) (c : Client.Call), ReturnsTyped self.endpoint self.program c.kind
      c.returnType (fun result => c.handedBack result) c) ∧
    (∀ (self : AsyncClient) (c : AsyncClient.Call), ReturnsTyped self.endpoint self.program
      c.kind c.returnType (fun result => c.handedBack result) c) :=
  ⟨fun self c => self.performsWith.returnsTyped c.plan_kind c.annotated,
    fun self c => self.performsWith.returnsTyped c.plan_kind c.annotated⟩

end Unwrap

end Exfer
