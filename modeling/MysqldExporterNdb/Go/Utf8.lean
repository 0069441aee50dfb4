import Mathlib.Data.List.Basic

/-!
# Go strings and `utf8.ValidString`

A Go `string` is an immutable sequence of **bytes**, with no promise that the bytes are UTF-8:
`string(b)` of a `[]byte` from the database keeps whatever the server sent. So the model's
`GoString` is a list of octets, not a Lean `String` (which is always valid Unicode), and
validity is a computed property, `Utf8.validString`, exactly as Go checks it.

`validString` is the loop of `unicode/utf8.ValidString` with its 8-byte ASCII fast path
dropped (it only skips bytes the byte loop would also skip). A leading byte is looked up in the
`first` table, which gives the sequence's size and the range its second byte must lie in
(`acceptRanges`); the remaining bytes must be continuation bytes `locb..hicb`. This rejects
overlong forms, surrogates and everything above `U+10FFFF`, as Go does.

The label values of every metric pass this check in `prometheus.NewConstMetric`, so which byte
strings are valid decides whether `MustNewConstMetric` panics.
-/

/-- A Go `string`: its bytes. -/
abbrev GoString := List UInt8

/-- The bytes of a Go string literal: Go source text is UTF-8. -/
def GoString.ofString (s : String) : GoString :=
  s.data.flatMap String.utf8EncodeChar

theorem UInt8.le_iff_toNat_le {a b : UInt8} : a ≤ b ↔ a.toNat ≤ b.toNat := Iff.rfl

theorem UInt8.lt_iff_toNat_lt {a b : UInt8} : a < b ↔ a.toNat < b.toNat := Iff.rfl

namespace Utf8

/-- `utf8.RuneSelf`: bytes below it are characters on their own. -/
def runeSelf : UInt8 := 0x80

/-- `locb..hicb`, the range of a continuation byte. -/
def continuation (c : UInt8) : Bool :=
  0x80 ≤ c && c ≤ 0xBF

/-- The `first` table read through `acceptRanges`: for a byte that can lead a multi-byte
sequence, the sequence's size and the range its **second** byte must lie in; `none` for the
bytes marked `xx` (`0x80..0xC1` and `0xF5..0xFF`). Only bytes `≥ runeSelf` are looked up. -/
def first (b : UInt8) : Option (Nat × UInt8 × UInt8) :=
  if b < 0xC2 then none
  else if b ≤ 0xDF then some (2, 0x80, 0xBF)
  else if b = 0xE0 then some (3, 0xA0, 0xBF)
  else if b ≤ 0xEC then some (3, 0x80, 0xBF)
  else if b = 0xED then some (3, 0x80, 0x9F)
  else if b ≤ 0xEF then some (3, 0x80, 0xBF)
  else if b = 0xF0 then some (4, 0x90, 0xBF)
  else if b ≤ 0xF3 then some (4, 0x80, 0xBF)
  else if b = 0xF4 then some (4, 0x80, 0x8F)
  else none

/-- `utf8.ValidString`: whether a byte string is a sequence of UTF-8 encoded characters. A
sequence cut short by the end of the string is invalid. -/
def validString : GoString → Bool
  | [] => true
  | b :: s =>
    if b < runeSelf then validString s
    else
      match first b, s with
      | some (2, lo, hi), c :: s => (lo ≤ c && c ≤ hi) && validString s
      | some (3, lo, hi), c :: d :: s =>
        (lo ≤ c && c ≤ hi) && continuation d && validString s
      | some (4, lo, hi), c :: d :: e :: s =>
        (lo ≤ c && c ≤ hi) && continuation d && continuation e && validString s
      | _, _ => false

@[simp] theorem validString_nil : validString [] = true := rfl

/- The inner `match` of `validString` is stuck on a variable `first b`, so the two lemmas below
unfold one step through the recursor rather than through the equation lemmas, which split that
`match` into all its cases. -/

set_option smartUnfolding false in
theorem validString_cons_of_lt {b : UInt8} (hb : b < runeSelf) (s : GoString) :
    validString (b :: s) = validString s := by
  show @ite _ (b < runeSelf) _ (validString s) _ = _
  exact if_pos hb

/-- **ASCII is valid.** A string of bytes below `0x80` passes, whatever they are. -/
theorem validString_of_forall_lt {s : GoString} (h : ∀ b ∈ s, b < runeSelf) :
    validString s = true := by
  induction s with
  | nil => rfl
  | cons b s ih =>
    rw [validString_cons_of_lt (h b (List.mem_cons_self b s))]
    exact ih fun c hc ↦ h c (List.mem_cons_of_mem b hc)

set_option smartUnfolding false in
/-- A byte that cannot start a character makes the whole string invalid. -/
theorem validString_cons_of_first_none {b : UInt8} (hb : ¬ b < runeSelf) (h : first b = none)
    (s : GoString) : validString (b :: s) = false := by
  show @ite _ (b < runeSelf) _ (validString s) _ = _
  rw [if_neg hb, h]

example : validString [0xFF] = false := by decide
example : validString (GoString.ofString "µs") = true := by decide

end Utf8
