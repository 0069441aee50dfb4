import MysqldExporterNdb.Go.Strconv
import Mathlib.Algebra.Order.Ring.Rat
import Mathlib.Data.Nat.Cast.Order.Ring

/-!
# `float64` values and `strconv.ParseFloat`

Every sample value is a `float64`. The collectors make them three ways: `float64(x)` of a
`uint64` or `int64` column, arithmetic on such values (the page-to-byte products of the memory
scrapers), and `strconv.ParseFloat` of a column's text (the `float64` destinations of
`Rows.Scan`, and the three counters `ScrapeNdbinfoThreadstat` reads as strings).

`GoFloat` is the quantity a `float64` stands for: a rational, an infinity or NaN. A conversion
and a parse round as Go does, to the nearest double with ties to even (`nearestFloat64`): 53
significant bits, and a fixed step of `2 ^ -1074` below `2 ^ -1022`. An integer below `2 ^ 53` is
its own double (`nearestFloat64_of_lt`); above, `float64(2 ^ 53 + 1)` is `2 ^ 53`. A product is
kept exact (`GoFloat.mul`): the package multiplies only by the page sizes 32768 and 256, powers
of two, and a double below `2 ^ 64` times either is again a double.

`parseFloat` follows `atof64`: first `special` (`inf`, `infinity`, `nan`, any case, the first two
signed), then `readFloat`'s grammar — optional sign, optional `0x` prefix, digits with at most one
point and Go's underscore rule, an exponent (`e`, or `p` and required after `0x`) capped as Go
caps it — and the whole text must be read. A literal whose magnitude rounds past the largest
double is a range error, as `ParseFloat` reports it; any other is rounded to its nearest double.
`parseFloat_formatUint` reads a rendered `uint64` back as `float64` of it.
-/

namespace Strconv

/-! ### Rounding to a `float64` -/

/-- The number of binary digits of `n`, over at most `fuel` halvings. -/
def bitLenAux : Nat → Nat → Nat
  | 0, _ => 0
  | fuel + 1, n => if n = 0 then 0 else bitLenAux fuel (n / 2) + 1

/-- `bits.Len`: the number of binary digits of `n`, `0` for `0`. -/
def bitLen (n : Nat) : Nat := bitLenAux n n

/-- The exponent `e` of the leading binary digit of `a / b`, for `a, b > 0`:
`2 ^ e ≤ a / b < 2 ^ (e + 1)`. The difference of the bit lengths is `e` or `e + 1`. -/
def leadExp (a b : Nat) : Int :=
  let e : Int := (bitLen a : Int) - bitLen b
  let below : Bool := if 0 ≤ e then a < b * 2 ^ e.toNat else a * 2 ^ (-e).toNat < b
  if below then e - 1 else e

/-- `x / y` rounded to the nearest integer, ties to the even one. -/
def divRoundEven (x y : Nat) : Nat :=
  if y < 2 * (x % y) ∨ (2 * (x % y) = y ∧ x / y % 2 = 1) then x / y + 1 else x / y

/-- The `float64` nearest to `a / b` (`b > 0`), ties to even, as IEEE 754 rounds and as both
`float64(x)` and `ParseFloat` deliver it: the quotient is scaled by `2 ^ -shift` to 53
significant bits (fewer below `2 ^ -1022`, where `shift` stays at `-1074`), rounded to an
integer, and scaled back. Overflow is the caller's to check. -/
def nearestFloat64 (a b : Nat) : ℚ :=
  let shift := max (leadExp a b - 52) (-1074)
  if 0 ≤ shift then mkRat (divRoundEven a (b * 2 ^ shift.toNat) * 2 ^ shift.toNat) 1
  else mkRat (divRoundEven (a * 2 ^ (-shift).toNat) b) (2 ^ (-shift).toNat)

theorem bitLenAux_zero (fuel : Nat) : bitLenAux fuel 0 = 0 := by
  cases fuel <;> rfl

/-- `n` has `bitLen n` binary digits: `2 ^ (bitLen n - 1) ≤ n < 2 ^ bitLen n`. -/
theorem bitLenAux_spec : ∀ fuel n, 0 < n → n ≤ fuel →
    2 ^ bitLenAux fuel n ≤ 2 * n ∧ n < 2 ^ bitLenAux fuel n
  | 0, _, h, h' => absurd h' (by omega)
  | fuel + 1, n, h, h' => by
    rw [bitLenAux, if_neg (by omega : n ≠ 0)]
    rcases Nat.eq_zero_or_pos (n / 2) with h₂ | h₂
    · rw [h₂, bitLenAux_zero]; omega
    · obtain ⟨ih₁, ih₂⟩ := bitLenAux_spec fuel (n / 2) h₂ (by omega)
      rw [Nat.pow_succ]; omega

theorem bitLen_spec {n : Nat} (h : 0 < n) : 2 ^ bitLen n ≤ 2 * n ∧ n < 2 ^ bitLen n :=
  bitLenAux_spec n n h le_rfl

theorem divRoundEven_one (x : Nat) : divRoundEven x 1 = x := by
  simp [divRoundEven, Nat.mod_one]

/-- **An integer below `2 ^ 53` is its own `float64`.** -/
theorem nearestFloat64_of_lt {n : Nat} (h : n < 2 ^ 53) : nearestFloat64 n 1 = n := by
  rcases Nat.eq_zero_or_pos n with rfl | hn
  · decide
  obtain ⟨h₁, h₂⟩ := bitLen_spec hn
  have hB : bitLen n ≤ 53 :=
    Nat.lt_succ_iff.1 ((Nat.pow_lt_pow_iff_right (by decide)).1 (by omega : 2 ^ bitLen n < 2 ^ 54))
  have hB' : 1 ≤ bitLen n := Nat.one_le_iff_ne_zero.2 fun h0 ↦ by rw [h0] at h₂; omega
  have hpow : 2 ^ bitLen n = 2 * 2 ^ (bitLen n - 1) := by
    rw [← Nat.pow_succ']; congr 1; omega
  have hlead : leadExp n 1 = (bitLen n : Int) - 1 := by
    have hlow : ¬ n < 2 ^ (bitLen n - 1) := by omega
    simp [leadExp, show bitLen 1 = 1 from rfl, hlow]
    omega
  have hshift : max ((bitLen n : Int) - 1 - 52) (-1074) = (bitLen n : Int) - 53 := by omega
  simp only [nearestFloat64, hlead, hshift]
  split_ifs with h0
  · have h53 : bitLen n = 53 := by omega
    simp [h53, divRoundEven_one, Rat.mkRat_eq_div]
  · rw [show (-((bitLen n : Int) - 53)).toNat = 53 - bitLen n by omega, divRoundEven_one,
      Rat.mkRat_eq_div]
    push_cast
    exact mul_div_cancel_right₀ _ (pow_ne_zero _ two_ne_zero)

example : nearestFloat64 (2 ^ 53 + 1) 1 = 2 ^ 53 := by decide
example : nearestFloat64 1 10 = mkRat 3602879701896397 (2 ^ 55) := by decide

end Strconv

/-- A Go `float64`, as the quantity it stands for. -/
inductive GoFloat
  | num (q : ℚ)
  | inf (neg : Bool)
  | nan
  deriving DecidableEq

namespace GoFloat

/-- `float64(u)` of a `uint64`. -/
def ofUInt64 (u : UInt64) : GoFloat := num (Strconv.nearestFloat64 u.toNat 1)

/-- `float64(i)` of an `int64`. -/
def ofInt64 (i : Int) : GoFloat :=
  num (if i < 0 then -Strconv.nearestFloat64 i.natAbs 1 else Strconv.nearestFloat64 i.natAbs 1)

/-- `*` on `float64`: the exact product of two numbers (see the module's note), and IEEE
products of the special values. -/
def mul : GoFloat → GoFloat → GoFloat
  | num a, num b => num (a * b)
  | nan, _ => nan
  | _, nan => nan
  | inf n, num b => if b = 0 then nan else inf (n != decide (b < 0))
  | num a, inf n => if a = 0 then nan else inf (n != decide (a < 0))
  | inf n, inf m => inf (n != m)

instance : Mul GoFloat := ⟨mul⟩

@[simp] theorem num_mul_num (a b : ℚ) : num a * num b = num (a * b) := rfl

end GoFloat

namespace Strconv

/-- Go's `lower`: `c | ('x' - 'X')`. -/
def lower (c : UInt8) : UInt8 := c ||| 0x20

/-- A hexadecimal digit's value, if `c` is one. -/
def hexVal (c : UInt8) : Option Nat :=
  if isDigit c then some (digitVal c)
  else if 0x61 ≤ lower c && lower c ≤ 0x66 then some ((lower c).toNat - 0x61 + 10)
  else none

/-! ### `special` -/

/-- `commonPrefixLenIgnoreCase(s, prefix)`, for a lower-case `prefix`. -/
def commonPrefixLenIgnoreCase : GoString → GoString → Nat
  | c :: s, p :: ps =>
    let c := if 0x41 ≤ c && c ≤ 0x5A then c + 0x20 else c
    if c = p then commonPrefixLenIgnoreCase s ps + 1 else 0
  | _, _ => 0

/-- `special`: a signed `inf`/`infinity` or an unsigned `nan` at the front of `s`, with the
number of bytes it takes. -/
def special (s : GoString) : Option (GoFloat × Nat) :=
  let infinity (neg : Bool) (nsign : Nat) (s : GoString) : Option (GoFloat × Nat) :=
    let n := commonPrefixLenIgnoreCase s (GoString.ofString "infinity")
    let n := if 3 < n && n < 8 then 3 else n
    if n = 3 || n = 8 then some (.inf neg, nsign + n) else none
  match s with
  | [] => none
  | c :: t =>
    if c = 0x2B then infinity false 1 t
    else if c = 0x2D then infinity true 1 t
    else if c = 0x69 || c = 0x49 then infinity false 0 s
    else if (c = 0x6E || c = 0x4E) && commonPrefixLenIgnoreCase s (GoString.ofString "nan") = 3 then
      some (.nan, 3)
    else none

/-! ### `readFloat` -/

/-- `underscoreOK`'s loop: `saw` is the class of the last byte — `0x5E` (`^`, start), `0x30`
(a digit or a base prefix), `0x5F` (an underscore) or `0x21` (anything else). -/
def underscoreLoop (hex : Bool) : UInt8 → GoString → Bool
  | saw, [] => saw != 0x5F
  | saw, c :: s =>
    if isDigit c || (hex && 0x61 ≤ lower c && lower c ≤ 0x66) then underscoreLoop hex 0x30 s
    else if c = 0x5F then saw = 0x30 && underscoreLoop hex 0x5F s
    else saw != 0x5F && underscoreLoop hex 0x21 s

/-- `underscoreOK`: underscores only between digits, or between a base prefix and a digit. -/
def underscoreOK (s : GoString) : Bool :=
  let s := match s with
    | c :: t => if c = 0x2D || c = 0x2B then t else s
    | [] => []
  match s with
  | 0x30 :: b :: t =>
    if lower b = 0x62 || lower b = 0x6F || lower b = 0x78 then underscoreLoop (lower b = 0x78) 0x30 t
    else underscoreLoop false 0x5E s
  | _ => underscoreLoop false 0x5E s

/-- What `readFloat` gathers from the mantissa: the value of all its digits, how many came after
the point, and whether it saw the point, a digit, an underscore. -/
structure Mantissa where
  digits : Nat := 0
  frac : Nat := 0
  sawDot : Bool := false
  sawDigits : Bool := false
  underscores : Bool := false

/-- `readFloat`'s digit loop, in base 16 when `hex`; it stops at the first byte that is not a
digit, an underscore or the first point, and returns what is left. -/
def readMantissa (hex : Bool) : Mantissa → GoString → Mantissa × GoString
  | m, [] => (m, [])
  | m, c :: s =>
    if c = 0x5F then readMantissa hex { m with underscores := true } s
    else if c = 0x2E then
      if m.sawDot then (m, c :: s) else readMantissa hex { m with sawDot := true } s
    else
      match (if hex then hexVal c else if isDigit c then some (digitVal c) else none) with
      | some d =>
        readMantissa hex
          { m with digits := m.digits * (if hex then 16 else 10) + d, sawDigits := true,
                   frac := if m.sawDot then m.frac + 1 else m.frac } s
      | none => (m, c :: s)

/-- The exponent's digit loop: digits and underscores, the value growing only while below
`10000`, as Go caps it. -/
def readExponent : Nat → Bool → GoString → Nat × Bool × GoString
  | e, u, c :: s =>
    if c = 0x5F then readExponent e true s
    else if isDigit c then readExponent (if e < 10000 then e * 10 + digitVal c else e) u s
    else (e, u, c :: s)
  | e, u, [] => (e, u, [])

/-- A literal as `readFloat` reads it: its sign, base, mantissa, binary or decimal exponent,
and the bytes after it. -/
structure FloatLit where
  neg : Bool
  hex : Bool
  mant : Mantissa
  exp : Int
  rest : GoString

/-- `readFloat`: the longest literal at the front of `s`, or `none` where the grammar fails
(no digit, an exponent marker with no digit after it, a hex mantissa with no `p` exponent, or
misplaced underscores). -/
def readFloat (s : GoString) : Option FloatLit :=
  let (neg, t) : Bool × GoString := match s with
    | 0x2B :: t => (false, t)
    | 0x2D :: t => (true, t)
    | _ => (false, s)
  let (hex, t) : Bool × GoString := match t with
    | 0x30 :: x :: c :: u => if lower x = 0x78 then (true, c :: u) else (false, t)
    | _ => (false, t)
  let (m, t) := readMantissa hex {} t
  if !m.sawDigits then none
  else
    let expChar : UInt8 := if hex then 0x70 else 0x65
    let expPart : Option (Int × Bool × GoString) := match t with
      | c :: u =>
        if lower c = expChar then
          let (esign, u) : Int × GoString := match u with
            | 0x2B :: v => (1, v)
            | 0x2D :: v => (-1, v)
            | _ => (1, u)
          match u with
          | d :: _ =>
            if isDigit d then
              let (e, sawU, v) := readExponent 0 false u
              some (esign * e, sawU, v)
            else none
          | [] => none
        else if hex then none else some (0, false, t)
      | [] => if hex then none else some (0, false, [])
    match expPart with
    | none => none
    | some (e, sawU, rest) =>
      let underscores := m.underscores || sawU
      if underscores && !underscoreOK (s.take (s.length - rest.length)) then none
      else some ⟨neg, hex, { m with underscores }, e, rest⟩

namespace FloatLit

/-- The literal's magnitude as a fraction `num / den`: the digits, scaled by the base to the
number of fraction digits and by the exponent (of 10, or of 2 after `0x`). -/
def numDen (l : FloatLit) : Nat × Nat :=
  let radix := if l.hex then 16 else 10
  let scale := if l.hex then 2 else 10
  if 0 ≤ l.exp then (l.mant.digits * scale ^ l.exp.toNat, radix ^ l.mant.frac)
  else (l.mant.digits, radix ^ l.mant.frac * scale ^ (-l.exp).toNat)

/-- Whether the magnitude rounds past the largest double: at or beyond
`2^1024 - 2^970`, halfway between `MaxFloat64` and `2^1024`. -/
def overflows (l : FloatLit) : Bool :=
  ((1 <<< 1024) - (1 <<< 970)) * l.numDen.2 ≤ l.numDen.1

/-- The `float64` nearest to the value the literal denotes. -/
def value (l : FloatLit) : ℚ :=
  (if l.neg then -1 else 1) * nearestFloat64 l.numDen.1 l.numDen.2

end FloatLit

/-- `strconv.ParseFloat(s, 64)`: a special value, or a literal that takes the whole of `s`. -/
def parseFloat (s : GoString) : Except NumError GoFloat :=
  match special s with
  | some (f, n) => if n = s.length then .ok f else .error .errSyntax
  | none =>
    match readFloat s with
    | some l =>
      if l.rest ≠ [] then .error .errSyntax
      else if l.overflows then .error .errRange
      else .ok (.num l.value)
    | none => .error .errSyntax

/-! ### Reading back a decimal integer -/

theorem mem_digits_of_isDigit {c : UInt8} (h : isDigit c = true) :
    c ∈ ([0x30, 0x31, 0x32, 0x33, 0x34, 0x35, 0x36, 0x37, 0x38, 0x39] : List UInt8) := by
  simp only [isDigit, Bool.and_eq_true, decide_eq_true_eq, UInt8.le_iff_toNat_le] at h
  have h₁ : 48 ≤ c.toNat := h.1
  have h₂ : c.toNat ≤ 57 := h.2
  have e : c = UInt8.ofNat c.toNat :=
    UInt8.toNat.inj (UInt8.toNat_ofNat_of_lt c.toNat_lt_size).symm
  have : c.toNat = 48 ∨ c.toNat = 49 ∨ c.toNat = 50 ∨ c.toNat = 51 ∨ c.toNat = 52 ∨
      c.toNat = 53 ∨ c.toNat = 54 ∨ c.toNat = 55 ∨ c.toNat = 56 ∨ c.toNat = 57 := by
    omega
  rcases this with hc | hc | hc | hc | hc | hc | hc | hc | hc | hc <;> rw [e, hc] <;> decide

/-- A digit is none of the bytes `ParseFloat` reads otherwise: a sign, the start of `inf` or
`nan`, an underscore, a point, or an `x` once lowered. -/
theorem ne_of_isDigit {c : UInt8} (h : isDigit c = true) :
    c ≠ 0x2B ∧ c ≠ 0x2D ∧ c ≠ 0x69 ∧ c ≠ 0x49 ∧ c ≠ 0x6E ∧ c ≠ 0x4E ∧ c ≠ 0x5F ∧ c ≠ 0x2E ∧
      lower c ≠ 0x78 := by
  have h' := mem_digits_of_isDigit h
  clear h
  revert c
  decide

theorem special_cons_of_isDigit {c : UInt8} (h : isDigit c = true) (t : GoString) :
    special (c :: t) = none := by
  obtain ⟨h₁, h₂, h₃, h₄, h₅, h₆, -⟩ := ne_of_isDigit h
  simp [special, h₁, h₂, h₃, h₄, h₅, h₆]

/-- The mantissa loop reads a run of digits to its end, as their value. -/
theorem readMantissa_of_digits : ∀ (d : Nat) (b : Bool) (s : GoString),
    (∀ c ∈ s, isDigit c = true) →
      readMantissa false { digits := d, sawDigits := b } s =
        ({ digits := digitsValue d s, sawDigits := b || !s.isEmpty }, [])
  | d, b, [], _ => by simp [readMantissa, digitsValue]
  | d, b, c :: s, h => by
    have hc := h c (List.mem_cons_self c s)
    obtain ⟨-, -, -, -, -, -, h₇, h₈, -⟩ := ne_of_isDigit hc
    rw [readMantissa, if_neg h₇, if_neg h₈]
    simp only [hc, if_true, Bool.false_eq_true, if_false]
    rw [readMantissa_of_digits _ true s fun c' hc' ↦ h c' (List.mem_cons_of_mem c hc')]
    simp [digitsValue]

/-- A non-empty run of digits is a decimal literal with no point and no exponent. -/
theorem readFloat_of_digits {s : GoString} (hs : s ≠ []) (h : ∀ c ∈ s, isDigit c = true) :
    readFloat s = some ⟨false, false, { digits := digitsValue 0 s, sawDigits := true }, 0, []⟩ := by
  obtain ⟨c, t, rfl⟩ := List.exists_cons_of_ne_nil hs
  obtain ⟨h₁, h₂, -⟩ := ne_of_isDigit (h c (List.mem_cons_self c t))
  unfold readFloat
  split
  rename_i neg t₁ e₁
  obtain ⟨rfl, rfl⟩ : neg = false ∧ t₁ = c :: t := by
    split at e₁ <;> simp_all
  split
  rename_i hex t₂ e₂
  obtain ⟨rfl, rfl⟩ : hex = false ∧ t₂ = c :: t := by
    split at e₂
    · split at e₂
      · rename_i x _ _ hct hx
        exact absurd hx (ne_of_isDigit (h x (by rw [hct]; simp))).2.2.2.2.2.2.2.2
      · simp_all
    · simp_all
  rw [readMantissa_of_digits 0 false (c :: t) h]
  simp

/-- **`ParseFloat` reads back a `uint64` written in decimal** as `float64` of it. -/
theorem parseFloat_formatUint (u : UInt64) : parseFloat (formatUint u) = .ok (.ofUInt64 u) := by
  obtain ⟨c, t, e⟩ := List.exists_cons_of_ne_nil (formatUint_ne_nil u)
  have hd : ∀ c ∈ formatUint u, isDigit c = true := fun _ ↦ isDigit_of_mem_formatUint
  rw [parseFloat, e, special_cons_of_isDigit (hd c (e ▸ List.mem_cons_self c t)), ← e,
    readFloat_of_digits (formatUint_ne_nil u) hd]
  have hu := u.toNat_lt_size
  simp [FloatLit.overflows, FloatLit.numDen, FloatLit.value, digitsValue_formatUint,
    GoFloat.ofUInt64]
  exact hu.trans (by decide)

example : (parseFloat (GoString.ofString "1_000.5e-1")).toOption.isSome = true := by decide
example : (parseFloat (GoString.ofString "0x1.8p-2")).toOption.isSome = true := by decide
example : parseFloat (GoString.ofString "-Inf") = .ok (.inf true) := by decide
example : parseFloat (GoString.ofString "1__0") = .error .errSyntax := by decide
example : parseFloat (GoString.ofString "0x1.8") = .error .errSyntax := by decide

end Strconv
