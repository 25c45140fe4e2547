/-
# What ties a reply to its call

A JSON-RPC reply repeats the id of its request.  The clients send ids and do not look at them in
what comes back: a reply belongs to the call whose exchange it ends.

* `Response.Alike` says of two replies that they agree on what is read.
* `replies_alike`: runs whose replies are alike, one by one, come to the same in every call, and
  send the same.  So neither `id` nor `jsonrpc`, nor any other member but `error` and `result`, has
  a say.
-/
import Exfer.Lib.Blind
import Exfer.Outcomes
import Exfer.Decode

namespace Exfer

open Py

/-! ## 1. Replies that read the same -/

/-- The body has a result, or an `error` that is not null.  A body that has neither is quoted in
the message of the error. -/
def Answers (body : Dict) : Prop :=
  (∃ v, body.lookup "result" = some v) ∨ ∃ err, body.lookup "error" = some err ∧ err ≠ .null

/-- One reply, or two JSON-RPC replies that agree on `error` and `result`.  The text of a reply
that parses is read by `healthz` alone, and no JSON text starts with `ok`. -/
inductive Response.Alike : Response → Response → Prop where
  | same (r : Response) : Alike r r
  | members {status : Nat} {text text' : String} {d d' : Dict} {stream : Option NetworkStream}
      (hanswers : status = 200 ∧ Answers d ∨ status = 400 ∨ status = 401)
      (herror : d'.lookup "error" = d.lookup "error")
      (hresult : d'.lookup "result" = d.lookup "result")
      (htext : startswith text' "ok" = startswith text "ok") :
      Alike ⟨status, text, some (.obj d), stream⟩ ⟨status, text', some (.obj d'), stream⟩

/-- One error of the transport, or two replies that read the same. -/
inductive AnswersAlike : Answer → Answer → Prop where
  | error (e : Exc) : AnswersAlike (.error e) (.error e)
  | reply {r r' : Response} : r.Alike r' → AnswersAlike (.ok r) (.ok r')

theorem lookup_setItem_ne {k m : String} (h : k ≠ m) (v : Json) (d : Dict) :
    (setItem d k v).lookup m = d.lookup m := by
  have hbeq : (m == k) = false := beq_eq_false_iff_ne.mpr (Ne.symm h)
  induction d with
  | nil => simp [setItem, List.lookup_cons, hbeq]
  | cons p d ih =>
    obtain ⟨k', v'⟩ := p
    by_cases hk : k' = k
    · subst hk
      simp [setItem, List.lookup_cons, hbeq]
    · simp only [setItem, if_neg hk, List.lookup_cons, ih]

/-- The id of a reply, or any other member that is not read, may be anything. -/
theorem Response.Alike.setItem {status : Nat} {text text' : String} {d : Dict}
    {stream : Option NetworkStream} (h : status = 200 ∧ Answers d ∨ status = 400 ∨ status = 401)
    (htext : startswith text' "ok" = startswith text "ok") {k : String} (herror : k ≠ "error")
    (hresult : k ≠ "result") (v : Json) :
    Response.Alike ⟨status, text, some (.obj d), stream⟩
      ⟨status, text', some (.obj (setItem d k v)), stream⟩ :=
  .members h (lookup_setItem_ne herror v d) (lookup_setItem_ne hresult v d) htext

section Replies

variable [CharTables]

/-- A body that answers is not quoted. -/
theorem decodeResponse_members {text text' : String} {d d' : Dict}
    {stream : Option NetworkStream} (h : Answers d)
    (herror : d'.lookup "error" = d.lookup "error")
    (hresult : d'.lookup "result" = d.lookup "result") :
    decodeResponse ⟨200, text', some (.obj d'), stream⟩
      = decodeResponse ⟨200, text, some (.obj d), stream⟩ := by
  have hget : dictGet d' "error" = dictGet d "error" := by
    rw [dictGet, dictGet, herror]
  have h401 : ¬200 = 401 := by decide
  have h400 : ¬200 = 400 := by decide
  have h200 : ¬200 ≠ 200 := by decide
  simp only [decodeResponse, if_neg h401, if_neg h400, if_neg h200, parseJsonOrRaise, hget,
    hresult, bind, Except.bind]
  cases herr : dictGet d "error" with
  | obj err => rfl
  | bool _ | int _ | float _ | str _ | arr _ => rfl
  | null =>
    rcases h with ⟨v, hv⟩ | ⟨err, hlookup, hne⟩
    · rw [hv]
    · rw [dictGet, hlookup] at herr
      exact absurd herr hne

/-- **`decode_response` reads no more than `error` and `result`.** -/
theorem decodeResponse_alike {r r' : Response} (h : r.Alike r') :
    decodeResponse r' = decodeResponse r := by
  cases h with
  | same => rfl
  | members hanswers herror hresult htext =>
    rcases hanswers with ⟨rfl, hanswers⟩ | rfl | rfl
    · exact decodeResponse_members hanswers herror hresult
    · have h401 : ¬400 = 401 := by decide
      simp only [decodeResponse, if_neg h401, reduceIte, parseJsonOrRaise, dictGet, herror, bind,
        Except.bind]
    · simp only [decodeResponse, reduceIte, safeMessage, herror]

omit [CharTables] in
/-- The pin is held against the connection, not the body. -/
theorem accept_alike (E : Endpoint) {x x' : Answer} (h : AnswersAlike x x') :
    AnswersAlike (E.accept x) (E.accept x') := by
  cases h with
  | error e => exact .error e
  | @reply r r' hr =>
    have hstream : r'.networkStream = r.networkStream := by
      cases hr with
      | same | members => rfl
    unfold Endpoint.accept
    cases E.pin with
    | none => exact .reply hr
    | some expected =>
      simp only [bind, Except.bind, verify_congr hstream]
      cases verifyPeerFingerprint r expected with
      | error e => exact .error e
      | ok _ => exact .reply hr

/-- What a plan comes to does not tell alike answers apart. -/
theorem outcome_alike (E : Endpoint) (unwrap : Json → Except Exc Ret) (p : Plan) {x x' : Answer}
    (h : AnswersAlike x x') : E.outcome unwrap x' p = E.outcome unwrap x p := by
  have haccept := accept_alike E h
  cases p with
  | reject e => rfl
  | probe =>
    simp only [Endpoint.outcome, Endpoint.alive]
    generalize E.accept x = y, E.accept x' = y' at haccept ⊢
    cases haccept with
    | error e => rfl
    | reply hr =>
      cases hr with
      | same => rfl
      | members _ _ _ htext => simp only [htext]
  | rpc method args timeout =>
    simp only [Endpoint.outcome, Endpoint.settle]
    generalize E.accept x = y, E.accept x' = y' at haccept ⊢
    cases haccept with
    | error e => rfl
    | reply hr => simp only [decodeResponse_alike hr]

/-! ## 2. Runs -/

theorem PerformsWith.blind {κ : Type} {E : Endpoint} {unwrap : κ → Json → Except Exc Ret}
    {plan : κ → Plan} {prog : κ → Program} (h : PerformsWith E unwrap plan prog) (c : κ) :
    (prog c).Blind AnswersAlike := by
  have hsame : ∀ (p : Plan) (x x' : Answer), AnswersAlike x x' →
      (Coro.ret (E.outcome (unwrap c) x' p) : Program) = .ret (E.outcome (unwrap c) x p) :=
    fun p x x' hx => congrArg Coro.ret (outcome_alike E (unwrap c) p hx)
  rw [h c]
  cases plan c with
  | reject e => trivial
  | probe => exact ⟨fun _ => trivial, hsame .probe⟩
  | rpc method args timeout =>
    exact fun _ => ⟨fun _ => trivial, hsame (.rpc method args timeout)⟩

/-- **A reply is the reply to the exchange it ends, whatever id it carries.**  When the replies of
two runs agree on `error` and `result`, one by one, the runs are one: every call of either client
sends, returns and raises the same. -/
theorem replies_alike :
    (∀ (self : Client) (steps steps' : List (Client.Call × Answer)),
      List.Forall₂ (fun step step' => step'.1 = step.1 ∧ AnswersAlike step.2 step'.2) steps
        steps' →
      Loop.session self.program firstId steps' = Loop.session self.program firstId steps) ∧
    (∀ (self : AsyncClient) (evs evs' : List (Event AsyncClient.Call Answer)),
      List.Forall₂ (Event.Alike AnswersAlike) evs evs' →
      Loop.run self.program firstId evs' = Loop.run self.program firstId evs) :=
  ⟨fun self _ _ h => Loop.session_blind self.performsWith.blind firstId h,
    fun self _ _ h => Loop.run_blind self.performsWith.blind firstId h⟩

omit [CharTables] in
/-- Two overlapping pings that get each other's id. -/
theorem replies_alike_crossed :
    letI : CharTables := asciiTables
    ∃ a, AsyncClient.init "http://127.0.0.1:7448" "secret" = .ok a ∧
      let pong (id : Int) : Answer :=
        .ok ⟨200, "", some (.obj [("id", .int id), ("result", .null)]), none⟩
      Loop.run a.program firstId [.call (.shared .ping), .call (.shared .ping),
          .reply 0 (pong 2), .reply 1 (pong 1)]
        = Loop.run a.program firstId [.call (.shared .ping), .call (.shared .ping),
          .reply 0 (pong 1), .reply 1 (pong 2)] := by
  let _ : CharTables := asciiTables
  obtain ⟨-, a, -, ha, -, -⟩ := exists_local (by decide : "secret" ≠ "")
  refine ⟨a, ha, ?_⟩
  intro pong
  have halike : ∀ id id' : Int, AnswersAlike (pong id) (pong id') := fun id id' =>
    .reply (.setItem (k := "id") (.inl ⟨rfl, .inl ⟨.null, rfl⟩⟩) rfl (by decide) (by decide)
      (.int id'))
  exact replies_alike.2 a _ _ (.cons (.call _) (.cons (.call _)
    (.cons (.reply 0 (halike 1 2)) (.cons (.reply 1 (halike 2 1)) .nil))))

end Replies

end Exfer
