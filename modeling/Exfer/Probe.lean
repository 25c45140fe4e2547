/-
# The liveness probe

`healthz` is meant to be safe in a bare loop: `True` for a healthy walletd, `False` for anything
else, and never an exception.  `TotalProbe` says so of one probe, and `probe_total_iff` says when
it holds.  The code departs from it in two places.

* Only `httpx.HTTPError` is caught, and the exceptions of the fingerprint check are none
  (`verify_not_isHTTPError`).  So a reply that fails the check makes the probe raise.
* The body is tested with `startswith("ok")`.  So a body that goes on after `ok` passes, and one
  with blanks in front of `ok` does not (`startswith_iff_strip`).
-/
import Exfer.Pinning

namespace Exfer

open Py

/-! ## 1. The body -/

/-- The body has more to say after `ok`. -/
def Overread (text : String) : Prop :=
  ∃ rest, text.toList = "ok".toList ++ rest ∧ ∃ c ∈ rest, isSpace c = false

/-- The body is `ok` behind blanks. -/
def Underread (text : String) : Prop :=
  ∃ pre post, pre ≠ [] ∧ text.toList = pre ++ "ok".toList ++ post ∧
    (∀ c ∈ pre, isSpace c = true) ∧ ∀ c ∈ post, isSpace c = true

theorem strip_eq_ok_iff (text : String) :
    strip text = "ok" ↔ ∃ pre post, text.toList = pre ++ "ok".toList ++ post ∧
      (∀ c ∈ pre, isSpace c = true) ∧ ∀ c ∈ post, isSpace c = true := by
  rw [← String.toList_inj, toList_strip]
  refine stripBy_eq_iff (by decide) ?_ ?_
  · rintro c ⟨rfl⟩
    rfl
  · rintro c ⟨rfl⟩
    rfl

/-- A text that begins with `ok` has no blank in front of it. -/
theorem eq_nil_of_ok_append {pre post rest : List Char} (hpre : ∀ c ∈ pre, isSpace c = true)
    (h : "ok".toList ++ rest = pre ++ "ok".toList ++ post) : pre = [] := by
  cases pre with
  | nil => rfl
  | cons c pre =>
    have hc : 'o' = c := (List.cons.inj h).1
    exact absurd (hpre c (by simp)) (by rw [← hc]; decide)

/-- **The prefix test** is right about a body unless it overreads or underreads it. -/
theorem startswith_iff_strip (text : String) :
    (startswith text "ok" = true ↔ strip text = "ok") ↔ ¬ Overread text ∧ ¬ Underread text := by
  rw [startswith_iff, strip_eq_ok_iff]
  constructor
  · intro hiff
    constructor
    · rintro ⟨rest, htext, c, hc, hspace⟩
      obtain ⟨pre, post, hsplit, hpre, hpost⟩ := hiff.mp ⟨rest, htext.symm⟩
      rw [htext] at hsplit
      obtain rfl := eq_nil_of_ok_append hpre hsplit
      have hrest : rest = post := List.append_cancel_left hsplit
      rw [hrest] at hc
      exact absurd (hpost c hc) (by simp [hspace])
    · rintro ⟨pre, post, hne, hsplit, hpre, hpost⟩
      obtain ⟨rest, hrest⟩ := hiff.mpr ⟨pre, post, hsplit, hpre, hpost⟩
      exact hne (eq_nil_of_ok_append hpre (hrest.trans hsplit))
  · rintro ⟨hover, hunder⟩
    constructor
    · rintro ⟨rest, hrest⟩
      refine ⟨[], rest, hrest.symm, by simp, fun c hc => ?_⟩
      by_contra hspace
      exact hover ⟨rest, hrest.symm, c, hc, by simpa using hspace⟩
    · rintro ⟨pre, post, hsplit, hpre, hpost⟩
      cases pre with
      | nil => exact ⟨post, hsplit.symm⟩
      | cons c pre => exact absurd ⟨c :: pre, post, by simp, hsplit, hpre, hpost⟩ hunder

/-! ## 2. The outcome -/

/-- The answer shows a healthy peer: status 200, a body that is `ok` between blanks, and the
certificate of the pin, if there is one. -/
def Healthy (pin : Option Bytes) (x : Answer) : Prop :=
  ∃ r, x = .ok r ∧ r.statusCode = 200 ∧ strip r.text = "ok" ∧
    ∀ expected, pin = some expected → Authenticated expected r

/-- What a probe should come to: a bool, and `True` for a healthy peer only. -/
structure TotalProbe (pin : Option Bytes) (x : Answer) (outcome : Except Exc Ret) : Prop where
  returns : ∃ b, outcome = .ok (.value (.bool b))
  exact_true : outcome = .ok (.value (.bool true)) ↔ Healthy pin x

/-- A reply that misleads the probe: it fails the fingerprint check, or it has status 200 and a
body that the prefix test gets wrong. -/
def Misled (pin : Option Bytes) (x : Answer) : Prop :=
  ∃ r, x = .ok r ∧ ((∃ expected, pin = some expected ∧ ¬ Authenticated expected r) ∨
    r.statusCode = 200 ∧ (Overread r.text ∨ Underread r.text))

theorem alive_accepted {E : Endpoint} {x : Answer} {r : Response} (h : E.accept x = .ok r) :
    E.alive x = .ok (.value (.bool (r.statusCode == 200 && startswith r.text "ok"))) := by
  simp only [Endpoint.alive, h]

/-- A transport failure is `False`, and that is right. -/
theorem totalProbe_failed (E : Endpoint) {e : Exc} (he : e.isHTTPError = true) :
    TotalProbe E.pin (.error e) (E.alive (.error e)) := by
  have hfalse : E.alive (.error e) = .ok (.value (.bool false)) := by
    simp [Endpoint.alive, Endpoint.accept, bind, Except.bind, he]
  rw [hfalse]
  refine ⟨⟨false, rfl⟩, ?_, ?_⟩
  · intro h
    cases h
  · rintro ⟨r, hr, -⟩
    cases hr

/-- A reply that gets past the pin is judged by its status and its body. -/
theorem totalProbe_accepted {E : Endpoint} {r : Response}
    (hpin : ∀ expected, E.pin = some expected → Authenticated expected r) :
    TotalProbe E.pin (.ok r) (E.alive (.ok r)) ↔
      (r.statusCode = 200 → ¬ Overread r.text ∧ ¬ Underread r.text) := by
  rw [alive_accepted (accept_authenticated hpin), ← startswith_iff_strip]
  have htrue : (Except.ok (Ret.value (.bool (r.statusCode == 200 && startswith r.text "ok"))) :
      Except Exc Ret) = .ok (.value (.bool true)) ↔
        r.statusCode = 200 ∧ startswith r.text "ok" = true := by simp
  have hhealthy : Healthy E.pin (.ok r) ↔ r.statusCode = 200 ∧ strip r.text = "ok" := by
    constructor
    · rintro ⟨r', hr', h200, htext, -⟩
      cases hr'
      exact ⟨h200, htext⟩
    · rintro ⟨h200, htext⟩
      exact ⟨r, rfl, h200, htext, hpin⟩
  constructor
  · intro h h200
    have hiff := htrue.symm.trans (h.exact_true.trans hhealthy)
    exact ⟨fun hs => (hiff.mp ⟨h200, hs⟩).2, fun hs => (hiff.mpr ⟨h200, hs⟩).2⟩
  · intro h
    refine ⟨⟨_, rfl⟩, htrue.trans (Iff.trans ?_ hhealthy.symm)⟩
    exact and_congr_right h

/-- **When a probe is total**, at an endpoint. -/
theorem totalProbe_alive_iff (E : Endpoint) (x : Answer)
    (hx : ∀ e, x = .error e → e.isHTTPError = true) :
    TotalProbe E.pin x (E.alive x) ↔ ¬ Misled E.pin x := by
  cases x with
  | error e =>
    refine iff_of_true (totalProbe_failed E (hx e rfl)) ?_
    rintro ⟨r, hr, -⟩
    cases hr
  | ok r =>
    by_cases hpin : ∀ expected, E.pin = some expected → Authenticated expected r
    · rw [totalProbe_accepted hpin]
      constructor
      · rintro h ⟨r', hr', hcheck | ⟨h200, hbody⟩⟩
        · cases hr'
          obtain ⟨expected, hexpected, hauth⟩ := hcheck
          exact hauth (hpin expected hexpected)
        · cases hr'
          rcases hbody with hover | hunder
          · exact (h h200).1 hover
          · exact (h h200).2 hunder
      · intro h h200
        exact ⟨fun hover => h ⟨r, rfl, .inr ⟨h200, .inl hover⟩⟩,
          fun hunder => h ⟨r, rfl, .inr ⟨h200, .inr hunder⟩⟩⟩
    · -- the check raises, and nothing catches it
      simp only [not_forall] at hpin
      obtain ⟨expected, hexpected, hauth⟩ := hpin
      refine iff_of_false ?_ (not_not.mpr ⟨r, rfl, .inl ⟨expected, hexpected, hauth⟩⟩)
      rintro ⟨⟨b, hb⟩, -⟩
      cases hverify : verifyPeerFingerprint r expected with
      | ok u => exact hauth ((verify_ok_iff r expected).mp hverify)
      | error e =>
        have hhttp := verify_not_isHTTPError hverify
        simp [Endpoint.alive, accept_unauthenticated hexpected hverify, hhttp] at hb

/-! ## 3. Both clients -/

section Clients

variable [CharTables]

/-- **The probe is total but for the replies that mislead it.**  `x` is any reply, or any
transport failure that `httpx` reports.  On `AsyncClient` the probe waits in any run, and `x` is
the next event. -/
theorem probe_total_iff (x : Answer) (hx : ∀ e, x = .error e → e.isHTTPError = true) :
    (∀ (self : Client) (id : Nat),
      TotalProbe self.endpoint.pin x
          ((self.program (.shared .healthz)).drive (fun _ _ => x) id []).2.2 ↔
        ¬ Misled self.endpoint.pin x) ∧
    (∀ (self : AsyncClient) (evs : List (Event AsyncClient.Call Answer)) (i : Nat)
      (req : HttpRequest) (k : Answer → Program),
      (Loop.calls evs)[i]? = some (.shared .healthz) →
      (Loop.run self.program firstId evs).tasks[i]? = some (.waiting req k) →
      ∃ outcome, Loop.result (Loop.exec self.program (Loop.run self.program firstId evs)
          (.reply i x)) i = some outcome ∧
        (TotalProbe self.endpoint.pin x outcome ↔ ¬ Misled self.endpoint.pin x)) := by
  constructor
  · intro self id
    rw [drive_outcome (self.program_eq (.shared .healthz))]
    exact totalProbe_alive_iff self.endpoint x hx
  · intro self evs i req k hcall hwait
    refine ⟨_, reply_outcome self.performs.oneShot (self.program_eq (.shared .healthz)) hcall
      hwait x, ?_⟩
    exact totalProbe_alive_iff self.endpoint x hx

omit [CharTables] in
/-- A probe that cannot connect, and returns `False`. -/
theorem probe_total_refused :
    letI : CharTables := asciiTables
    let x : Answer := .error (.httpx .connectError "refused")
    ∃ self, Client.init "http://127.0.0.1:7448" "secret" = .ok self ∧
      TotalProbe self.endpoint.pin x
        ((self.program (.shared .healthz)).drive (fun _ _ => x) firstId []).2.2 := by
  let _ : CharTables := asciiTables
  intro x
  refine ⟨_, rfl,
    ((probe_total_iff (.error (.httpx .connectError "refused")) ?_).1 _ firstId).mpr ?_⟩
  · intro e he
    cases he
    rfl
  · rintro ⟨r, hr, -⟩
    cases hr

omit [CharTables] in
/-- **Two probes that go wrong**: under another certificate than the pinned one the probe raises,
and a body `okay` passes for `ok`. -/
theorem probe_misled :
    letI : CharTables := asciiTables
    (∃ self, Client.init "https://wallet:7448" "secret" defaultTimeout none
        (.str (formatFingerprint (List.replicate 32 0))) = .ok self ∧
      ∃ e, ((self.program (.shared .healthz)).drive
        (fun _ _ => .ok ⟨200, "ok", none, some ⟨some ⟨some [0x30]⟩⟩⟩) firstId []).2.2
          = .error e) ∧
    (∃ self, Client.init "http://127.0.0.1:7448" "secret" = .ok self ∧
      ((self.program (.shared .healthz)).drive
        (fun _ _ => .ok ⟨200, "okay", none, none⟩) firstId []).2.2
          = .ok (.value (.bool true)) ∧
      strip "okay" ≠ "ok") := by
  let _ : CharTables := asciiTables
  constructor
  · obtain ⟨self, hself, hE⟩ := exists_pinned
    refine ⟨self, hself, ?_⟩
    have hpin : self.endpoint.pin = some (List.replicate 32 0) := by rw [hE]
    rw [drive_outcome (self.program_eq (.shared .healthz))]
    cases hverify : verifyPeerFingerprint ⟨200, "ok", none, some ⟨some ⟨some [0x30]⟩⟩⟩
        (List.replicate 32 0) with
    | ok u =>
      obtain ⟨der, hleaf, hder⟩ := (verify_ok_iff _ _).mp hverify
      cases hleaf
      exact absurd hder (by decide +kernel)
    | error e =>
      exact ⟨e, outcome_unauthenticated hpin hverify _ (by decide)⟩
  · refine ⟨_, rfl, ?_, by decide⟩
    rw [drive_outcome (Client.program_eq _ (.shared .healthz))]
    rfl

end Clients

end Exfer
