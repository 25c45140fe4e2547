/-
# What the unwrapping methods make of a result

Ten methods take fields out of the `result` walletd sent.

* `SharedCall.exposed` is the table of these fields with their declared types, and
  `SharedCall.repack` the shape they are returned in.
* A result that `Carries` them is handed back as it came (`unwrap_of_carries`).
* Any other result is not refused with an exception of the SDK (`unwrap_builtin`): the methods
  test for keys, not for types, and coerce.

`unwrapped_iff` puts the two together for both clients.
-/
import Exfer.Runs

namespace Exfer

open Py

/-! ## 1. Declared fields -/

/-- The declared type of a field. -/
inductive FieldType where
  | integer | string | boolean | array

/-- The JSON values of a type.  A boolean is no integer here, though it is one in Python. -/
def FieldType.has : FieldType → Json → Bool
  | .integer, .int _ | .string, .str _ | .boolean, .bool _ | .array, .arr _ => true
  | _, _ => false

theorem FieldType.has_integer {v : Json} (h : FieldType.integer.has v = true) :
    ∃ n, v = .int n := by
  cases v with
  | int n => exact ⟨n, rfl⟩
  | null | bool _ | float _ | str _ | arr _ | obj _ => cases h

theorem FieldType.has_string {v : Json} (h : FieldType.string.has v = true) :
    ∃ s, v = .str s := by
  cases v with
  | str s => exact ⟨s, rfl⟩
  | null | bool _ | int _ | float _ | arr _ | obj _ => cases h

theorem FieldType.has_boolean {v : Json} (h : FieldType.boolean.has v = true) :
    ∃ b, v = .bool b := by
  cases v with
  | bool b => exact ⟨b, rfl⟩
  | null | int _ | float _ | str _ | arr _ | obj _ => cases h

theorem FieldType.has_array {v : Json} (h : FieldType.array.has v = true) :
    ∃ items, v = .arr items := by
  cases v with
  | arr items => exact ⟨items, rfl⟩
  | null | bool _ | int _ | float _ | str _ | obj _ => cases h

/-- The fields of the result that a call hands back; none for the calls that do not unwrap. -/
def SharedCall.exposed : SharedCall → List (String × FieldType)
  | generateAddress => [("address", .string), ("pubkey", .string), ("index", .integer)]
  | listAddresses => [("addresses", .array)]
  | getBalance _ => [("balance", .integer)]
  | getBlockHeight => [("height", .integer)]
  | getTip => [("height", .integer), ("block_id", .string)]
  | sendRawTransaction _ => [("tx_id", .string)]
  | paymentUriEncode .. => [("uri", .string)]
  | htlcForget .. => [("removed", .boolean)]
  | contractStats .. => [("stats", .array)]
  | htlcLookupByHashlock _ => [("htlcs", .array)]
  | _ => []

/-- The values of the exposed fields, in the shape the call returns them. -/
def SharedCall.repack : SharedCall → List Json → Option Ret
  | generateAddress, [address, pubkey, index] =>
    some (.value (.obj [("address", address), ("pubkey", pubkey), ("index", index)]))
  | getTip, [.int height, .str blockId] => some (.tip ⟨height, blockId⟩)
  | _, [v] => some (.value v)
  | _, _ => none

/-- The result is an object with these fields, each of its type, and these are their values. -/
def Carries (result : Json) (fields : List (String × FieldType)) (values : List Json) : Prop :=
  ∃ d, result = .obj d ∧
    List.Forall₂ (fun f v => d.lookup f.1 = some v ∧ f.2.has v = true) fields values

/-- The call returned what was on the wire, or refused it as the SDK refuses. -/
structure NothingMadeUp (c : SharedCall) (result : Json) (outcome : Except Exc Ret) : Prop where
  faithful : ∀ values, Carries result c.exposed values →
    ∃ ret, c.repack values = some ret ∧ outcome = .ok ret
  refuses : (¬ ∃ values, Carries result c.exposed values) →
    ∃ e, outcome = .error e ∧ e.isinstance .exferError = true

/-! ## 2. A well-typed result -/

theorem carries_one {result : Json} {key : String} {type : FieldType} {values : List Json}
    (h : Carries result [(key, type)] values) :
    ∃ d v, result = .obj d ∧ values = [v] ∧ d.lookup key = some v ∧ type.has v = true := by
  obtain ⟨d, rfl, hfields⟩ := h
  cases hfields with
  | cons hv hnil =>
    cases hnil
    exact ⟨d, _, rfl, rfl, hv⟩

section Unwrap

variable [CharTables]

theorem field_of_carries {result : Json} {key : String} {type : FieldType} {values : List Json}
    (h : Carries result [(key, type)] values) :
    ∃ v, values = [v] ∧ type.has v = true ∧ ∀ name, field name key result = .ok v := by
  obtain ⟨d, v, rfl, hvalues, hlookup, htype⟩ := carries_one h
  refine ⟨v, hvalues, htype, fun name => ?_⟩
  simp [field, expectKeys, subscript, hlookup, bind, Except.bind]

/-- **A well-typed result is handed back as it came.** -/
theorem unwrap_of_carries {c : SharedCall} (hc : c.exposed ≠ []) {result : Json}
    {values : List Json} (h : Carries result c.exposed values) :
    ∃ ret, c.repack values = some ret ∧ c.unwrap result = .ok ret := by
  cases c with
  | generateAddress =>
    obtain ⟨d, rfl, hfields⟩ := h
    rcases hfields with _ | ⟨⟨haddress, hstr⟩, _ | ⟨⟨hpubkey, hstr'⟩, _ | ⟨⟨hindex, hint⟩, _ | _⟩⟩⟩
    obtain ⟨address, rfl⟩ := FieldType.has_string hstr
    obtain ⟨pubkey, rfl⟩ := FieldType.has_string hstr'
    obtain ⟨index, rfl⟩ := FieldType.has_integer hint
    refine ⟨_, rfl, ?_⟩
    simp [SharedCall.unwrap, expectKeys, subscript, haddress, hpubkey, hindex, bind, Except.bind,
      pure, Except.pure]
  | getTip =>
    obtain ⟨d, rfl, hfields⟩ := h
    rcases hfields with _ | ⟨⟨hheight, hint⟩, _ | ⟨⟨hblock, hstr⟩, _ | _⟩⟩
    obtain ⟨height, rfl⟩ := FieldType.has_integer hint
    obtain ⟨blockId, rfl⟩ := FieldType.has_string hstr
    refine ⟨_, rfl, ?_⟩
    simp [SharedCall.unwrap, expectKeys, subscript, hheight, hblock, bind, Except.bind, pure,
      Except.pure]
  | getBalance _ | getBlockHeight =>
    obtain ⟨v, rfl, htype, hfield⟩ := field_of_carries h
    obtain ⟨n, rfl⟩ := FieldType.has_integer htype
    refine ⟨_, rfl, ?_⟩
    simp only [SharedCall.unwrap, hfield]
    rfl
  | sendRawTransaction _ | paymentUriEncode _ _ _ _ _ _ =>
    obtain ⟨v, rfl, htype, hfield⟩ := field_of_carries h
    obtain ⟨s, rfl⟩ := FieldType.has_string htype
    refine ⟨_, rfl, ?_⟩
    simp only [SharedCall.unwrap, hfield]
    rfl
  | htlcForget _ _ =>
    obtain ⟨v, rfl, htype, hfield⟩ := field_of_carries h
    obtain ⟨b, rfl⟩ := FieldType.has_boolean htype
    refine ⟨_, rfl, ?_⟩
    simp only [SharedCall.unwrap, hfield]
    rfl
  | listAddresses =>
    obtain ⟨v, rfl, htype, hfield⟩ := field_of_carries h
    obtain ⟨items, rfl⟩ := FieldType.has_array htype
    refine ⟨_, rfl, ?_⟩
    simp only [SharedCall.unwrap, hfield]
    rfl
  | contractStats _ _ | htlcLookupByHashlock _ =>
    obtain ⟨v, rfl, -, hfield⟩ := field_of_carries h
    refine ⟨_, rfl, ?_⟩
    simp only [SharedCall.unwrap, hfield]
    rfl
  | _ => exact absurd rfl hc

/-! ## 3. Any other result -/

omit [CharTables] in
/-- What is raised, if anything is, is an exception of Python's and not of the SDK's. -/
def RaisesBuiltin {α : Type} (r : Except Exc α) : Prop := ∀ e, r = .error e → ∃ b, e = .builtin b

omit [CharTables] in
theorem raisesBuiltin_ok {α : Type} (a : α) : RaisesBuiltin (.ok a) := by
  rintro e ⟨⟩

omit [CharTables] in
theorem raisesBuiltin_letThrough {α : Type} (r : Except BuiltinError α) :
    RaisesBuiltin (letThrough r) := by
  rintro e he
  cases r with
  | ok a => cases he
  | error b =>
    cases he
    exact ⟨b, rfl⟩

omit [CharTables] in
theorem RaisesBuiltin.bind {α β : Type} {r : Except Exc α} (hr : RaisesBuiltin r)
    {f : α → Except Exc β} (hf : ∀ a, RaisesBuiltin (f a)) : RaisesBuiltin (r >>= f) := by
  cases r with
  | ok a => exact hf a
  | error b =>
    rintro e ⟨⟩
    exact hr b rfl

theorem raisesBuiltin_expectKeys (name : String) (ks : List String) (result : Json) :
    RaisesBuiltin (expectKeys name ks result) := by
  intro e he
  unfold expectKeys at he
  split at he
  · split at he
    · cases he
    · cases he
      exact ⟨_, rfl⟩
  · cases he
    exact ⟨_, rfl⟩

theorem raisesBuiltin_subscript (d : Dict) (k : String) : RaisesBuiltin (subscript d k) := by
  intro e he
  unfold subscript at he
  split at he
  · cases he
  · cases he
    exact ⟨_, rfl⟩

theorem raisesBuiltin_field (name key : String) (result : Json) :
    RaisesBuiltin (field name key result) :=
  (raisesBuiltin_expectKeys name [key] result).bind fun d => raisesBuiltin_subscript d key

/-- **No method refuses a result with an exception of the SDK.** -/
theorem unwrap_builtin (c : SharedCall) (result : Json) : RaisesBuiltin (c.unwrap result) := by
  cases c with
  | generateAddress =>
    refine (raisesBuiltin_expectKeys _ _ _).bind fun d => ?_
    refine (raisesBuiltin_subscript _ _).bind fun address => ?_
    refine (raisesBuiltin_subscript _ _).bind fun pubkey => ?_
    refine (raisesBuiltin_subscript _ _).bind fun index => ?_
    exact (raisesBuiltin_letThrough _).bind fun n => raisesBuiltin_ok _
  | getTip =>
    refine (raisesBuiltin_expectKeys _ _ _).bind fun d => ?_
    refine (raisesBuiltin_subscript _ _).bind fun height => ?_
    refine (raisesBuiltin_letThrough _).bind fun n => ?_
    exact (raisesBuiltin_subscript _ _).bind fun blockId => raisesBuiltin_ok _
  | listAddresses =>
    refine (raisesBuiltin_field _ _ _).bind fun addresses => ?_
    cases addresses with
    | arr items => exact raisesBuiltin_ok _
    | null | bool _ | int _ | float _ | str _ | obj _ =>
      rintro e ⟨⟩
      exact ⟨_, rfl⟩
  | getBalance _ | getBlockHeight =>
    refine (raisesBuiltin_field _ _ _).bind fun v => ?_
    exact (raisesBuiltin_letThrough _).bind fun n => raisesBuiltin_ok _
  | sendRawTransaction _ | paymentUriEncode _ _ _ _ _ _ | htlcForget _ _ | contractStats _ _
  | htlcLookupByHashlock _ =>
    exact (raisesBuiltin_field _ _ _).bind fun v => raisesBuiltin_ok _
  | _ => exact raisesBuiltin_ok _

theorem Client.Call.unwrap_builtin (c : Client.Call) (v : Json) : RaisesBuiltin (c.unwrap v) := by
  cases c with
  | shared c => exact Exfer.unwrap_builtin c v
  | swapGetQuote direction amountIn from_ => exact raisesBuiltin_ok _

theorem AsyncClient.Call.unwrap_builtin (c : AsyncClient.Call) (v : Json) :
    RaisesBuiltin (c.unwrap v) := by
  cases c with
  | shared c => exact Exfer.unwrap_builtin c v
  | swapGetQuote direction amountIn from_ flow => exact raisesBuiltin_ok _

/-- **The unwrapping alone**: nothing is made up exactly where the result is well typed. -/
theorem nothingMadeUp_iff {c : SharedCall} (hc : c.exposed ≠ []) (result : Json) :
    NothingMadeUp c result (c.unwrap result) ↔ ∃ values, Carries result c.exposed values := by
  constructor
  · intro h
    by_contra hnot
    obtain ⟨e, he, hexfer⟩ := h.refuses hnot
    obtain ⟨b, rfl⟩ := unwrap_builtin c result e he
    rw [Exc.isinstance_builtin] at hexfer
    exact absurd hexfer Bool.false_ne_true
  · intro h
    exact ⟨fun values hvalues => unwrap_of_carries hc hvalues, fun hnot => absurd h hnot⟩

/-! ## 4. On the clients -/

omit [CharTables] in
/-- A call that unwraps is an RPC call. -/
theorem plan_of_exposed {c : SharedCall} (hc : c.exposed ≠ []) :
    ∃ method args timeout, c.plan = .rpc method args timeout := by
  cases c with
  | generateAddress | listAddresses | getBalance _ | getBlockHeight | getTip
  | sendRawTransaction _ | paymentUriEncode _ _ _ _ _ _ | htlcForget _ _ | contractStats _ _
  | htlcLookupByHashlock _ => exact ⟨_, _, _, rfl⟩
  | _ => exact absurd rfl hc

theorem outcome_of_exposed {c : SharedCall} (hc : c.exposed ≠ []) {E : Endpoint} {x : Answer}
    {result : Json} (hx : E.settle x = .ok result) :
    E.outcome (fun v => c.unwrap v) x c.plan = c.unwrap result := by
  obtain ⟨method, args, timeout, hplan⟩ := plan_of_exposed hc
  rw [hplan, Endpoint.outcome, hx]
  rfl

/-- **Unwrapped results.**  For each method that unwraps, on either client and for every answer
`x` that carries some `result`: the values on the wire are returned and all else is refused with
an `ExferError`, if and only if the result has every exposed field with its declared type. -/
theorem unwrapped_iff (c : SharedCall) (hc : c.exposed ≠ []) (x : Answer) (result : Json) :
    (∀ (self : Client) (id : Nat), self.endpoint.settle x = .ok result →
      (NothingMadeUp c result ((self.program (.shared c)).drive (fun _ _ => x) id []).2.2 ↔
        ∃ values, Carries result c.exposed values)) ∧
    (∀ (self : AsyncClient) (evs : List (Event AsyncClient.Call Answer)) (i : Nat)
      (req : HttpRequest) (k : Answer → Program), self.endpoint.settle x = .ok result →
      (Loop.calls evs)[i]? = some (.shared c) →
      (Loop.run self.program firstId evs).tasks[i]? = some (.waiting req k) →
      ∃ outcome, Loop.result
          (Loop.exec self.program (Loop.run self.program firstId evs) (.reply i x)) i
            = some outcome ∧
        (NothingMadeUp c result outcome ↔ ∃ values, Carries result c.exposed values)) := by
  constructor
  · intro self id hx
    have houtcome : ((self.program (.shared c)).drive (fun _ _ => x) id []).2.2
        = c.unwrap result :=
      (drive_outcome (self.program_eq _) x id).trans (outcome_of_exposed hc hx)
    rw [houtcome]
    exact nothingMadeUp_iff hc result
  · intro self evs i req k hx hcall hwait
    refine ⟨c.unwrap result, ?_, nothingMadeUp_iff hc result⟩
    rw [← outcome_of_exposed hc hx]
    exact reply_outcome self.performs.oneShot (self.program_eq _) hcall hwait x

omit [CharTables] in
/-- A balance of twelve. -/
theorem unwrapped_iff_balance :
    letI : CharTables := asciiTables
    let c : SharedCall := .getBalance (.str "a1")
    let result : Json := .obj [("balance", .int 12)]
    ∃ self, Client.init "http://127.0.0.1:7448" "secret" = .ok self ∧
      NothingMadeUp c result ((self.program (.shared c)).drive (fun _ _ => .ok
        ⟨200, "\x7b\"result\": \x7b\"balance\": 12\x7d\x7d", some (.obj [("result", result)]),
          none⟩) firstId []).2.2 := by
  let _ : CharTables := asciiTables
  intro c result
  refine ⟨_, rfl, ((unwrapped_iff c (by simp [c, SharedCall.exposed]) _ result).1 _ firstId
    rfl).mpr ?_⟩
  exact ⟨[.int 12], _, rfl, .cons ⟨rfl, rfl⟩ .nil⟩

omit [CharTables] in
/-- **A transaction id that was not on the wire**: `null` comes back as `"None"`. -/
theorem tx_id_made_up :
    letI : CharTables := asciiTables
    let c : SharedCall := .sendRawTransaction (.str "00")
    let result : Json := .obj [("tx_id", .null)]
    ∃ self, Client.init "http://127.0.0.1:7448" "secret" = .ok self ∧
      let outcome := ((self.program (.shared c)).drive (fun _ _ => .ok
        ⟨200, "\x7b\"result\": \x7b\"tx_id\": null\x7d\x7d", some (.obj [("result", result)]),
          none⟩) firstId []).2.2
      outcome = .ok (.value (.str "None")) ∧ ¬ NothingMadeUp c result outcome := by
  let _ : CharTables := asciiTables
  intro c result
  refine ⟨_, rfl, rfl, fun h => ?_⟩
  have hnot : ¬ ∃ values, Carries result c.exposed values := by
    rintro ⟨values, hvalues⟩
    obtain ⟨d, v, hd, -, hlookup, htype⟩ := carries_one hvalues
    cases Json.obj.inj hd
    cases hlookup
    cases htype
  obtain ⟨e, he, -⟩ := h.refuses hnot
  cases he

end Unwrap

end Exfer
