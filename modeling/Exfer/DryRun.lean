/-
# Dry runs and what they price

`htlc_lock` and `transfer` spend; `simulate_htlc_lock` and `simulate_transfer` say what that
would cost.  A dry run is worth something when the spend it prices can be made: when some call
sends the same parameter object to the spending method.

* The lock and its dry run share one builder, so they refuse the same arguments and send the same
  objects.
* `transfer` builds its parameters itself, and it has neither `fee_rate` nor `max_fee`.
  `dry_run_agrees_iff`: every transfer can be dry-run, and a dry run of one output prices a
  transfer that can be made exactly when it is given neither of the two.
-/
import Exfer.Mirror

namespace Exfer

open Py

variable [CharTables]

/-! ## 1. What fee-aware calls send -/

omit [CharTables] in
/-- The call raises `e` and hands nothing over. -/
def Refuses {κ : Type} (prog : κ → Program) (c : κ) (e : Exc) : Prop :=
  ∀ id, (prog c).advance id = (id, .finished (.error e))

section FeeAware

variable {κ : Type} {E : Endpoint} {plan : κ → Plan} {prog : κ → Program}

theorem Performs.refuses_iff (h : Performs E plan prog) {c : κ} {e : Exc} :
    Refuses prog c e ↔ plan c = .reject e := by
  obtain ⟨unwrap, hc⟩ := h c
  unfold Refuses
  rw [hc]
  constructor
  · intro hrefuse
    have hid := hrefuse firstId
    cases hp : plan c with
    | reject e' =>
      rw [hp] at hid
      cases hid
      rfl
    | probe => rw [hp] at hid; cases hid
    | rpc method args timeout => rw [hp] at hid; cases hid
  · intro hp id
    rw [hp]
    rfl

/-- A fee-aware call is refused exactly when both fees are given. -/
theorem Performs.refuses_feeAware (h : Performs E plan prog) {c : κ} {fee feeRate : Json}
    {method : String} {args : Named} (hp : plan c = .feeAware fee feeRate method args) {e : Exc} :
    Refuses prog c e ↔ BothFees fee feeRate ∧ e = feeConflict := by
  rw [h.refuses_iff, hp, Plan.feeAware]
  by_cases hboth : BothFees fee feeRate
  · rw [if_pos hboth, Plan.reject.injEq]
    exact ⟨fun he => ⟨hboth, he.symm⟩, fun he => he.2.symm⟩
  · rw [if_neg hboth]
    exact ⟨fun he => (by cases he), fun he => absurd he.1 hboth⟩

/-- Otherwise it sends the dict that carries its arguments. -/
theorem Performs.sends_feeAware (h : Performs E plan prog) {c : κ} {fee feeRate : Json}
    {method : String} {args : Named} (hp : plan c = .feeAware fee feeRate method args)
    {params : Dict} :
    Sends prog c method params ↔ ¬ BothFees fee feeRate ∧ args.encode = params := by
  rw [h.sends_iff, hp, Plan.feeAware]
  by_cases hboth : BothFees fee feeRate
  · rw [if_pos hboth]
    constructor
    · rintro ⟨args', timeout, hplan, -⟩
      cases hplan
    · exact fun hsend => absurd hboth hsend.1
  · rw [if_neg hboth]
    constructor
    · rintro ⟨args', timeout, hplan, hparams⟩
      cases hplan
      exact ⟨hboth, hparams⟩
    · exact fun hsend => ⟨args, none, rfl, hsend.2⟩

end FeeAware

/-! ## 2. One recipient -/

/-- `{"to": to, "amount": amount}`. -/
def payment (to_ amount : Json) : Json := .obj [("to", to_), ("amount", amount)]

/-- The arguments of `transfer`. -/
def transferArgs (from_ to_ amount fee datum : Json) : Named :=
  named [("from", from_), ("outputs", .arr [payment to_ amount])] [("fee", fee), ("datum", datum)]

omit [CharTables] in
/-- With no fee rate and no ceiling, a dry run carries what the transfer does. -/
theorem simulateArgs_encode (from_ to_ amount fee datum : Json) :
    (simulateArgs from_ [payment to_ amount] fee .null .null datum).encode
      = (transferArgs from_ to_ amount fee datum).encode := by
  have hnull : Json.null.isNone = true := rfl
  simp [Named.encode, simulateArgs, transferArgs, List.filter_cons, hnull]

omit [CharTables] in
/-- With one of them, no transfer carries the same. -/
theorem null_of_encode_eq {from_ to_ amount fee feeRate maxFee datum fee' datum' : Json}
    (h : (simulateArgs from_ [payment to_ amount] fee feeRate maxFee datum).encode
      = (transferArgs from_ to_ amount fee' datum').encode) :
    feeRate = .null ∧ maxFee = .null := by
  have hmissing : ∀ k, k ∉ (transferArgs from_ to_ amount fee' datum').args.map Prod.fst →
      ∀ v, (k, v) ∈ (simulateArgs from_ [payment to_ amount] fee feeRate maxFee datum).optional →
      v = .null := by
    intro k hk v hv
    have hlook := Named.lookup_optional hv
    rw [h, Named.lookup_other hk] at hlook
    cases hnone : v.isNone with
    | true => exact Json.isNone_iff.mp hnone
    | false => simp [hnone] at hlook
  exact ⟨hmissing "fee_rate" (by simp [transferArgs, Named.args]) feeRate (by simp [simulateArgs]),
    hmissing "max_fee" (by simp [transferArgs, Named.args]) maxFee (by simp [simulateArgs])⟩

/-- The dry run of one payment. -/
def dryRun (from_ to_ amount fee feeRate maxFee datum : Json) : SharedCall :=
  .simulateTransfer from_ [payment to_ amount] fee feeRate maxFee datum

/-- The parameters are those of an accepted dry run of the payment that is given a fee rate or a
ceiling. -/
def FeeControlled (from_ to_ amount : Json) (params : Dict) : Prop :=
  ∃ fee feeRate maxFee datum, ¬ BothFees fee feeRate ∧ (feeRate ≠ .null ∨ maxFee ≠ .null) ∧
    (simulateArgs from_ [payment to_ amount] fee feeRate maxFee datum).encode = params

section Shared

variable {E : Endpoint} {prog : SharedCall → Program}

theorem Performs.sends_transfer (h : Performs E SharedCall.plan prog)
    {from_ to_ amount fee datum : Json} {params : Dict} :
    Sends prog (.transfer from_ to_ amount fee datum) "transfer" params ↔
      (transferArgs from_ to_ amount fee datum).encode = params := by
  rw [h.sends_iff]
  constructor
  · rintro ⟨args, timeout, hplan, hparams⟩
    cases hplan
    exact hparams
  · exact fun hparams => ⟨_, _, rfl, hparams⟩

theorem Performs.sends_dryRun (h : Performs E SharedCall.plan prog)
    {from_ to_ amount fee feeRate maxFee datum : Json} {params : Dict} :
    Sends prog (dryRun from_ to_ amount fee feeRate maxFee datum) "simulate_transfer" params ↔
      ¬ BothFees fee feeRate ∧
        (simulateArgs from_ [payment to_ amount] fee feeRate maxFee datum).encode = params :=
  h.sends_feeAware rfl

/-- How far the dry runs of a client agree with its spends. -/
structure Rehearsed (prog : SharedCall → Program) : Prop where
  /-- The lock and its dry run refuse the same arguments, and send the same parameters. -/
  lock : ∀ from_ receiver hashLock timeout amount fee feeRate maxFee : Json,
    let lock := SharedCall.htlcLock from_ receiver hashLock timeout amount fee feeRate maxFee
    let dry := SharedCall.simulateHtlcLock from_ receiver hashLock timeout amount fee feeRate maxFee
    (∀ e, Refuses prog lock e ↔ Refuses prog dry e) ∧
      ∀ params, Sends prog lock "htlc_lock" params ↔ Sends prog dry "simulate_htlc_lock" params
  /-- A parameter object is sent by a transfer and by a dry run, or by neither, unless it has a
  fee rate or a ceiling. -/
  params : ∀ (from_ to_ amount : Json) (params : Dict),
    ((∃ fee datum, Sends prog (.transfer from_ to_ amount fee datum) "transfer" params) ↔
      ∃ fee feeRate maxFee datum,
        Sends prog (dryRun from_ to_ amount fee feeRate maxFee datum) "simulate_transfer" params) ↔
    ¬ FeeControlled from_ to_ amount params
  /-- A dry run prices a transfer that can be made, unless it is accepted with one of these. -/
  priced : ∀ from_ to_ amount fee feeRate maxFee datum : Json,
    (∀ params, Sends prog (dryRun from_ to_ amount fee feeRate maxFee datum) "simulate_transfer"
        params →
      ∃ fee' datum', Sends prog (.transfer from_ to_ amount fee' datum') "transfer" params) ↔
    BothFees fee feeRate ∨ feeRate = .null ∧ maxFee = .null

/-- **Every transfer can be dry-run.** -/
theorem Performs.dryRun_of_transfer (h : Performs E SharedCall.plan prog)
    {from_ to_ amount fee datum : Json} {params : Dict}
    (hsend : Sends prog (.transfer from_ to_ amount fee datum) "transfer" params) :
    Sends prog (dryRun from_ to_ amount fee .null .null datum) "simulate_transfer" params := by
  rw [h.sends_dryRun, simulateArgs_encode]
  exact ⟨fun hboth => hboth.2 rfl, h.sends_transfer.mp hsend⟩

/-- **A dry run without a fee rate and a ceiling can be spent.** -/
theorem Performs.transfer_of_dryRun (h : Performs E SharedCall.plan prog)
    {from_ to_ amount fee datum : Json} {params : Dict}
    (hsend : Sends prog (dryRun from_ to_ amount fee .null .null datum) "simulate_transfer"
      params) : Sends prog (.transfer from_ to_ amount fee datum) "transfer" params := by
  rw [h.sends_dryRun, simulateArgs_encode] at hsend
  exact h.sends_transfer.mpr hsend.2

theorem Performs.rehearsed (h : Performs E SharedCall.plan prog) : Rehearsed prog := by
  constructor
  · intro from_ receiver hashLock timeout amount fee feeRate maxFee lock dry
    let args := lockArgs from_ receiver hashLock timeout amount fee feeRate maxFee
    have hlock : lock.plan = .feeAware fee feeRate "htlc_lock" args := rfl
    have hdry : dry.plan = .feeAware fee feeRate "simulate_htlc_lock" args := rfl
    refine ⟨fun e => ?_, fun params => ?_⟩
    · rw [h.refuses_feeAware hlock, h.refuses_feeAware hdry]
    · rw [h.sends_feeAware hlock, h.sends_feeAware hdry]
  · intro from_ to_ amount params
    constructor
    · rintro hiff ⟨fee, feeRate, maxFee, datum, hboth, hcontrol, hparams⟩
      obtain ⟨fee', datum', hsend⟩ :=
        hiff.mpr ⟨fee, feeRate, maxFee, datum, h.sends_dryRun.mpr ⟨hboth, hparams⟩⟩
      have hnull := null_of_encode_eq (hparams.trans (h.sends_transfer.mp hsend).symm)
      rcases hcontrol with hrate | hmax
      · exact hrate hnull.1
      · exact hmax hnull.2
    · intro hfree
      constructor
      · rintro ⟨fee, datum, hsend⟩
        exact ⟨fee, .null, .null, datum, h.dryRun_of_transfer hsend⟩
      · rintro ⟨fee, feeRate, maxFee, datum, hsend⟩
        obtain ⟨hboth, hparams⟩ := h.sends_dryRun.mp hsend
        have hnull : feeRate = .null ∧ maxFee = .null := by
          by_contra hcontrol
          exact hfree ⟨fee, feeRate, maxFee, datum, hboth, not_and_or.mp hcontrol, hparams⟩
        obtain ⟨rfl, rfl⟩ := hnull
        exact ⟨fee, datum, h.transfer_of_dryRun hsend⟩
  · intro from_ to_ amount fee feeRate maxFee datum
    constructor
    · intro hpriced
      by_cases hboth : BothFees fee feeRate
      · exact Or.inl hboth
      · obtain ⟨fee', datum', hsend⟩ := hpriced _ (h.sends_dryRun.mpr ⟨hboth, rfl⟩)
        exact Or.inr (null_of_encode_eq (h.sends_transfer.mp hsend).symm)
    · rintro (hboth | ⟨rfl, rfl⟩) params hsend
      · exact absurd hboth (h.sends_dryRun.mp hsend).1
      · exact ⟨fee, datum, h.transfer_of_dryRun hsend⟩

end Shared

/-! ## 3. Both clients -/

theorem Client.performs_shared (self : Client) :
    Performs self.endpoint SharedCall.plan fun c => self.program (.shared c) :=
  fun c => self.performs (.shared c)

theorem AsyncClient.performs_shared (self : AsyncClient) :
    Performs self.endpoint SharedCall.plan fun c => self.program (.shared c) :=
  fun c => self.performs (.shared c)

/-- **Dry runs and spends agree** on either client, but for the two fee controls that only a dry
run has. -/
theorem dry_run_agrees_iff :
    (∀ self : Client, Rehearsed fun c => self.program (.shared c)) ∧
    (∀ self : AsyncClient, Rehearsed fun c => self.program (.shared c)) :=
  ⟨fun self => self.performs_shared.rehearsed, fun self => self.performs_shared.rehearsed⟩

omit [CharTables] in
/-- A dry run at a fee rate, which no transfer can be made at. -/
theorem dry_run_unspendable :
    letI : CharTables := asciiTables
    ∃ self, Client.init "http://127.0.0.1:7448" "secret" = .ok self ∧
      ∃ params,
        Sends self.program (.shared (dryRun (.str "a1") (.str "b2") (.int 50000) .null (.int 4)
          .null .null)) "simulate_transfer" params ∧
        ¬ ∃ fee datum, Sends self.program
          (.shared (.transfer (.str "a1") (.str "b2") (.int 50000) fee datum)) "transfer"
          params := by
  let _ : CharTables := asciiTables
  refine ⟨_, rfl, _, (Client.performs_shared _).sends_dryRun.mpr ⟨?_, rfl⟩, ?_⟩
  · exact fun hboth => hboth.1 rfl
  · rintro ⟨fee, datum, hsend⟩
    have hnull := null_of_encode_eq ((Client.performs_shared _).sends_transfer.mp hsend).symm
    cases hnull.1

end Exfer
