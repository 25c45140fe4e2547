/-
# The text form of a pin

`parse_fingerprint` and `_format_fingerprint`, over every string and every digest.

* `Spells s digits` is the accepted syntax: `matchFingerprint_strip_iff` says that the regex and
  `strip` together accept it and nothing more.  The newline that `$` would let pass is a blank,
  so `strip` has removed it.
* `fingerprint_round_trip` is the whole correspondence: what is accepted, what it decodes to, and
  that the texts of one digest are those with one `normalForm`.
-/
import Exfer.Transport

namespace Exfer

open Py

/-! ## 1. Syntax -/

/-- `s` is, between blanks, `sha256:` and the sixty-four hexadecimal digits `digits`. -/
structure Spells (s : String) (digits : List Char) : Prop where
  text : (strip s).toList = "sha256:".toList ++ digits
  count : digits.length = 64
  hex : ∀ c ∈ digits, c ∈ hexDigits

/-- The stripped text, with what follows `sha256:` in lower case. -/
def normalForm (s : String) : String :=
  String.ofList ((strip s).toList.take 7 ++ ((strip s).toList.drop 7).map Char.toLower)

theorem Spells.normalForm_eq {s : String} {digits : List Char} (h : Spells s digits) :
    (normalForm s).toList = "sha256:".toList ++ digits.map Char.toLower := by
  have htake : ("sha256:".toList ++ digits).take 7 = "sha256:".toList := List.take_left' rfl
  have hdrop : ("sha256:".toList ++ digits).drop 7 = digits := List.drop_left' rfl
  rw [normalForm, String.toList_ofList, h.text, htake, hdrop]

/-- **The regex after `strip`** matches what the syntax spells, and its group is the digits. -/
theorem matchFingerprint_strip_iff (s : String) (group : List Char) :
    matchFingerprint (strip s).toList = some group ↔ Spells s group := by
  constructor
  · intro h
    obtain ⟨hlen, hhex⟩ := matchFingerprint_some h
    refine ⟨?_, hlen, fun c hc => (isHex_iff_mem c).mp (hhex c hc)⟩
    unfold matchFingerprint at h
    split at h
    · rename_i hpre
      obtain ⟨rest, hrest⟩ := List.isPrefixOf_iff_prefix.mp hpre
      have hdrop : (strip s).toList.drop 7 = rest := by rw [← hrest]; rfl
      simp only [hdrop] at h
      split at h
      · rename_i hgroup
        have hsplit : rest = group ++ rest.drop 64 := by
          rw [← Option.some.inj h, List.take_append_drop]
        rcases hgroup.2.2 with hnil | hnewline
        · rw [← hrest, hsplit, hnil, List.append_nil]
        · -- a final newline is a blank, and there is none left
          rw [hsplit, hnewline, ← List.append_assoc, toList_strip] at hrest
          exact absurd hrest.symm (stripBy_ne_append rfl)
      · exact absurd h (by simp)
    · exact absurd h (by simp)
  · intro h
    rw [h.text]
    exact matchFingerprint_append h.count fun c hc => (isHex_iff_mem c).mpr (h.hex c hc)

/-! ## 2. Digests -/

section Parse

variable [CharTables]

/-- **What is accepted** decodes to thirty-two bytes, which are written down as the digits in
lower case. -/
theorem Spells.parse {s : String} {digits : List Char} (h : Spells s digits) :
    ∃ digest, parseFingerprint (.str s) = .ok digest ∧
      formatFingerprint digest = normalForm s := by
  have hhex : ∀ c ∈ digits, isHex c = true := fun c hc => (isHex_iff_mem c).mpr (h.hex c hc)
  obtain ⟨digest, hdigest, -⟩ := fromHex_length 32 digits h.count hhex
  refine ⟨digest, ?_, ?_⟩
  · simp only [parseFingerprint, (matchFingerprint_strip_iff s digits).mpr h,
      fromHex_map_toLower, hdigest]
  · apply String.toList_injective
    rw [h.normalForm_eq, formatFingerprint, String.toList_append, hex_fromHex hhex hdigest]

/-- **What is not accepted** is a `ValueError`. -/
theorem parseFingerprint_refused {s : String} (h : ¬ ∃ digits, Spells s digits) :
    ∃ text, parseFingerprint (.str s) = .error (Exc.valueError text) := by
  have hmatch : matchFingerprint (strip s).toList = none := by
    cases hm : matchFingerprint (strip s).toList with
    | none => rfl
    | some group => exact absurd ⟨group, (matchFingerprint_strip_iff s group).mp hm⟩ h
  simp only [parseFingerprint, hmatch]
  exact ⟨_, rfl⟩

theorem spells_of_parse {s : String} {digest : Bytes}
    (h : parseFingerprint (.str s) = .ok digest) : ∃ digits, Spells s digits := by
  by_contra hno
  obtain ⟨text, htext⟩ := parseFingerprint_refused hno
  exact absurd (h.symm.trans htext) (by simp)

/-- An accepted text and its digest. -/
theorem format_parse {s : String} {digest : Bytes}
    (h : parseFingerprint (.str s) = .ok digest) : formatFingerprint digest = normalForm s := by
  obtain ⟨digits, hs⟩ := spells_of_parse h
  obtain ⟨digest', hparse, hformat⟩ := hs.parse
  cases h.symm.trans hparse
  exact hformat

/-- **Fingerprint syntax and round trip.** -/
theorem fingerprint_round_trip :
    (∀ s : String,
      ((∃ digest, parseFingerprint (.str s) = .ok digest) ↔ ∃ digits, Spells s digits) ∧
      ((¬ ∃ digits, Spells s digits) →
        ∃ text, parseFingerprint (.str s) = .error (Exc.valueError text)) ∧
      ∀ digest, parseFingerprint (.str s) = .ok digest →
        digest.length = 32 ∧ formatFingerprint digest = normalForm s) ∧
    (∀ digest : Bytes, digest.length = 32 →
      parseFingerprint (.str (formatFingerprint digest)) = .ok digest) ∧
    (∀ (s₁ s₂ : String) (d₁ d₂ : Bytes), parseFingerprint (.str s₁) = .ok d₁ →
      parseFingerprint (.str s₂) = .ok d₂ → (d₁ = d₂ ↔ normalForm s₁ = normalForm s₂)) := by
  refine ⟨fun s => ⟨⟨?_, ?_⟩, parseFingerprint_refused, ?_⟩, ?_, ?_⟩
  · rintro ⟨digest, h⟩
    exact spells_of_parse h
  · rintro ⟨digits, h⟩
    obtain ⟨digest, hparse, -⟩ := h.parse
    exact ⟨digest, hparse⟩
  · exact fun digest h => ⟨parseFingerprint_length h, format_parse h⟩
  · exact fun digest hlen => parseFingerprint_format hlen
  · intro s₁ s₂ d₁ d₂ h₁ h₂
    rw [← format_parse h₁, ← format_parse h₂]
    constructor
    · rintro rfl
      rfl
    · intro heq
      have hback := parseFingerprint_format (parseFingerprint_length h₁)
      rw [heq, parseFingerprint_format (parseFingerprint_length h₂)] at hback
      exact (Except.ok.inj hback).symm

end Parse

end Exfer
