import Mathlib.Algebra.Group.Nat.Basic
import MysqldExporterNdb.Go.Utf8

/-!
# `strconv`: decimal rendering and parsing of integers

Every numeric label in the collectors is `strconv.FormatUint(x, 10)` of a `uint64` column, and
every `uint64` destination of `Rows.Scan` is filled by `strconv.ParseUint(s, 10, 64)` of the
column's bytes (`sql.NullInt64` by `ParseInt`). This module models the three.

`formatUint` is `formatBits` in base 10: digits come off the low end of the number and are
put in front of what is already built, until the leading digit; twenty rounds are enough for
every `uint64`, as Go's fixed buffer is. `parseUint` is Go's loop, with its two overflow guards
(`cutoff`, then `maxVal`) checked before each digit is taken; exact `Nat` arithmetic stands for
the `uint64` accumulator, which the guards keep from wrapping.

## The round trip

`parseUint_formatUint` reads back every rendered number: `ParseUint(FormatUint(u)) = u`. It
rests on `digitsValue_formatUint`, the decimal value of the rendering, which also gives
`formatUint_injective` — distinct node ids always get distinct label values.
-/

/-- Results of fallible calls are compared outright, so that runs on fixed inputs can be checked
by evaluation. -/
instance instDecidableEqExcept {ε α : Type} [DecidableEq ε] [DecidableEq α] :
    DecidableEq (Except ε α)
  | .error a, .error b =>
    if h : a = b then isTrue (h ▸ rfl) else isFalse fun e ↦ h (Except.error.inj e)
  | .ok a, .ok b => if h : a = b then isTrue (h ▸ rfl) else isFalse fun e ↦ h (Except.ok.inj e)
  | .error _, .ok _ => isFalse nofun
  | .ok _, .error _ => isFalse nofun

namespace Strconv

/-- `strconv.ErrSyntax` and `strconv.ErrRange`: why a `*NumError` was returned. -/
inductive NumError
  | errSyntax
  | errRange
  deriving DecidableEq, Repr

/-! ### `FormatUint` -/

/-- The byte of a decimal digit. -/
def digitByte (d : Nat) : UInt8 := (0x30 + d).toUInt8

/-- Whether a byte is `'0'..'9'`. -/
def isDigit (c : UInt8) : Bool := 0x30 ≤ c && c ≤ 0x39

/-- The value of a digit byte. -/
def digitVal (c : UInt8) : Nat := c.toNat - 0x30

/-- `formatBits` in base 10: put the byte of `n`'s last digit in front of `acc`, and go on
with `n / 10` unless that was the leading digit, while `fuel` lasts. -/
def formatDigits : Nat → Nat → GoString → GoString
  | 0, _, acc => acc
  | fuel + 1, n, acc =>
    if n / 10 = 0 then digitByte (n % 10) :: acc
    else formatDigits fuel (n / 10) (digitByte (n % 10) :: acc)

/-- `strconv.FormatUint(u, 10)`. -/
def formatUint (u : UInt64) : GoString := formatDigits 20 u.toNat []

/-- The value of a string of decimal digits, read after `acc`. -/
def digitsValue (acc : Nat) (s : GoString) : Nat :=
  s.foldl (fun a c ↦ a * 10 + digitVal c) acc

theorem digitByte_spec : ∀ d < 10, isDigit (digitByte d) = true ∧ digitVal (digitByte d) = d := by
  decide

@[simp] theorem digitsValue_nil (acc : Nat) : digitsValue acc [] = acc := rfl

@[simp] theorem digitsValue_cons (acc : Nat) (c : UInt8) (s : GoString) :
    digitsValue acc (c :: s) = digitsValue (acc * 10 + digitVal c) s := rfl

theorem digitsValue_append (acc : Nat) (s t : GoString) :
    digitsValue acc (s ++ t) = digitsValue (digitsValue acc s) t := by
  simp [digitsValue, List.foldl_append]

/-- The digits produced so far are kept behind whatever comes next. -/
theorem formatDigits_eq_append (fuel n : Nat) (acc : GoString) :
    formatDigits fuel n acc = formatDigits fuel n [] ++ acc := by
  induction fuel generalizing n acc with
  | zero => rfl
  | succ fuel ih =>
    simp only [formatDigits]
    split
    · rfl
    · rw [ih, ih (n / 10) [digitByte (n % 10)]]
      simp

theorem isDigit_of_mem_formatDigits {fuel n : Nat} {c : UInt8} (h : c ∈ formatDigits fuel n []) :
    isDigit c = true := by
  induction fuel generalizing n with
  | zero => simp [formatDigits] at h
  | succ fuel ih =>
    have hd := (digitByte_spec (n % 10) (Nat.mod_lt _ (by decide))).1
    simp only [formatDigits] at h
    split at h
    · simp_all
    · rw [formatDigits_eq_append] at h
      rcases List.mem_append.1 h with h | h
      · exact ih h
      · simp_all

/-- **The rendering denotes the number**, when the fuel covers its digits. -/
theorem digitsValue_formatDigits {fuel n : Nat} (h : n < 10 ^ fuel) :
    digitsValue 0 (formatDigits fuel n []) = n := by
  induction fuel generalizing n with
  | zero => simp at h; simp [formatDigits, h]
  | succ fuel ih =>
    have hd := (digitByte_spec (n % 10) (Nat.mod_lt _ (by decide))).2
    simp only [formatDigits]
    split
    · simp [digitsValue, hd]; omega
    · rw [formatDigits_eq_append, digitsValue_append,
        ih (by rw [Nat.pow_succ] at h; omega), digitsValue_cons, hd]
      simp only [digitsValue_nil]
      omega

theorem digitsValue_formatUint (u : UInt64) : digitsValue 0 (formatUint u) = u.toNat :=
  digitsValue_formatDigits (lt_of_lt_of_le u.toNat_lt_size (by decide))

/-- **Distinct numbers get distinct labels.** -/
theorem formatUint_injective : Function.Injective formatUint := fun a b h ↦
  UInt64.toNat.inj (by rw [← digitsValue_formatUint a, h, digitsValue_formatUint])

theorem isDigit_of_mem_formatUint {u : UInt64} {c : UInt8} (h : c ∈ formatUint u) :
    isDigit c = true :=
  isDigit_of_mem_formatDigits h

theorem lt_runeSelf_of_isDigit {c : UInt8} (h : isDigit c = true) : c < Utf8.runeSelf := by
  simp only [isDigit, Bool.and_eq_true, decide_eq_true_eq] at h
  exact UInt8.lt_iff_toNat_lt.2
    (Nat.lt_of_le_of_lt (UInt8.le_iff_toNat_le.1 h.2) (by decide))

theorem formatUint_ne_nil (u : UInt64) : formatUint u ≠ [] := by
  rw [formatUint, formatDigits]
  split
  · simp
  · rw [formatDigits_eq_append]; simp

/-- A rendered number is ASCII, so it is always a valid label value. -/
theorem validString_formatUint (u : UInt64) : Utf8.validString (formatUint u) = true :=
  Utf8.validString_of_forall_lt fun _ hc ↦ lt_runeSelf_of_isDigit (isDigit_of_mem_formatUint hc)

/-! ### `ParseUint` and `ParseInt` -/

/-- `maxUint64`, the `maxVal` of bit size 64. -/
def maxUint64 : Nat := 2 ^ 64 - 1

/-- Go's `cutoff`: the least `n` with `n * 10 > maxUint64`. -/
def cutoff : Nat := maxUint64 / 10 + 1

/-- The loop of `strconv.ParseUint(s, 10, 64)` from accumulator `n`: a byte that is not a
digit is a syntax error, and a digit that would take the value past `maxUint64` a range error,
whichever comes first. -/
def parseUintLoop : Nat → GoString → Except NumError Nat
  | n, [] => .ok n
  | n, c :: s =>
    if isDigit c then
      if cutoff ≤ n then .error .errRange
      else if maxUint64 < n * 10 + digitVal c then .error .errRange
      else parseUintLoop (n * 10 + digitVal c) s
    else .error .errSyntax

/-- `strconv.ParseUint(s, 10, 64)`: the empty string is a syntax error. -/
def parseUint (s : GoString) : Except NumError UInt64 :=
  if s = [] then .error .errSyntax else (parseUintLoop 0 s).map Nat.toUInt64

/-- `strconv.ParseInt(s, 10, 64)`: an optional sign, then `ParseUint` of the rest, then the
`int64` bounds. -/
def parseInt (s : GoString) : Except NumError Int :=
  match s with
  | [] => .error .errSyntax
  | c :: rest =>
    let (neg, digits) : Bool × GoString :=
      if c = 0x2B then (false, rest) else if c = 0x2D then (true, rest) else (false, c :: rest)
    match parseUint digits with
    | .error e => .error e
    | .ok un =>
      if !neg && 2 ^ 63 ≤ un.toNat then .error .errRange
      else if neg && 2 ^ 63 < un.toNat then .error .errRange
      else .ok (if neg then -(un.toNat : Int) else un.toNat)

theorem le_digitsValue (acc : Nat) (s : GoString) : acc ≤ digitsValue acc s := by
  induction s generalizing acc with
  | nil => exact le_rfl
  | cons c s ih => rw [digitsValue_cons]; exact le_trans (by omega) (ih _)

/-- On digits whose value fits, the loop accepts and computes the value: every guard it meets
sees a prefix of the number, which is no larger. -/
theorem parseUintLoop_of_digits {n : Nat} {s : GoString} (hs : ∀ c ∈ s, isDigit c = true)
    (hv : digitsValue n s ≤ maxUint64) : parseUintLoop n s = .ok (digitsValue n s) := by
  induction s generalizing n with
  | nil => rfl
  | cons c s ih =>
    have hle := le_digitsValue (n * 10 + digitVal c) s
    rw [digitsValue_cons] at hv ⊢
    rw [parseUintLoop, if_pos (hs c (List.mem_cons_self c s)),
      if_neg (by simp only [cutoff, maxUint64] at hv hle ⊢; omega), if_neg (by omega)]
    exact ih (fun d hd ↦ hs d (List.mem_cons_of_mem c hd)) hv

/-- **The round trip**: `ParseUint` reads back what `FormatUint` wrote. -/
theorem parseUint_formatUint (u : UInt64) : parseUint (formatUint u) = .ok u := by
  have hv : digitsValue 0 (formatUint u) ≤ maxUint64 := by
    rw [digitsValue_formatUint]
    have := u.toNat_lt_size
    simp only [maxUint64, UInt64.size] at this ⊢
    omega
  rw [parseUint, if_neg (formatUint_ne_nil u),
    parseUintLoop_of_digits (fun c hc ↦ isDigit_of_mem_formatUint hc) hv]
  simp only [Except.map, digitsValue_formatUint]
  exact congrArg _ (UInt64.toNat.inj (UInt64.toNat_ofNat_of_lt u.toNat_lt_size))

example : formatUint 1234 = GoString.ofString "1234" := by decide
example : parseUint (GoString.ofString "18446744073709551616") = .error .errRange := by decide

end Strconv
