import MysqldExporterNdb.Go.ParseFloat

/-!
# `database/sql`: column values and `Rows.Scan`

The MySQL driver answers a query without arguments over the text protocol, so every column
value reaches `database/sql` as the column's bytes, or as `nil` for NULL: a `Value` is an
`Option GoString`. `Rows.Scan(dest...)` first compares the number of destinations with the
number of columns, then converts the columns in order, stopping at the first that does not
convert. A destination's Go type decides the conversion (`convertAssign`):

* `*string` takes the bytes as they are; `*uint64` and `*float64` parse them with
  `strconv.ParseUint` / `ParseFloat`; all three refuse NULL;
* `*sql.NullString` and `*sql.NullInt64` take NULL as `Valid = false` with a zero value.

`Scan` is modelled once, over the list of destination types of a call, returning the values in
a tuple of the destinations' types (`Scanned`), so each collector's call reads as the Go call
does: `scan [.uint64, .string, .uint64, .uint64] row` is
`Scan(&nodeID, &memoryType, &reserved, &used)`.
-/

open Strconv

namespace Sql

/-- A column value as the driver hands it over: its bytes, or `none` for NULL. -/
abbrev Value := Option GoString

/-- A fetched row: one value per column of the result. -/
abbrev Row := List Value

/-- A row of non-NULL columns, each the bytes of a text. -/
def textRow (cols : List String) : Row := cols.map fun c ↦ some (GoString.ofString c)

/-- `sql.NullString`. -/
structure NullString where
  string : GoString
  valid : Bool
  deriving DecidableEq

/-- `sql.NullInt64`. -/
structure NullInt64 where
  int64 : Int
  valid : Bool
  deriving DecidableEq

/-- The Go type of a `Scan` destination, among those the collectors use. -/
inductive Dest
  | uint64
  | string
  | float64
  | nullString
  | nullInt64
  deriving DecidableEq, Repr

/-- The Lean type of a destination's value. -/
@[reducible] def Dest.Ty : Dest → Type
  | .uint64 => UInt64
  | .string => GoString
  | .float64 => GoFloat
  | .nullString => NullString
  | .nullInt64 => NullInt64

/-- The values a `Scan` call fills in, one per destination, in order. -/
@[reducible] def Scanned : List Dest → Type
  | [] => Unit
  | d :: ds => d.Ty × Scanned ds

/-- Why one column did not convert. -/
inductive ConvertError
  /-- `converting NULL to %s is unsupported` -/
  | null (d : Dest)
  /-- `converting driver.Value type []byte (%q) to a %s: %v`, with `strconv`'s reason. -/
  | parse (d : Dest) (s : GoString) (e : NumError)

/-- Why `Rows.Scan` failed. -/
inductive ScanError
  /-- `sql: expected %d destination arguments in Scan, not %d` -/
  | arity (columns dests : Nat)
  /-- `sql: Scan error on column index %d, name %q: %w` -/
  | column (index : Nat) (e : ConvertError)

/-- `convertAssign` of one column into a destination of type `d`. -/
def convertAssign : (d : Dest) → Value → Except ConvertError d.Ty
  | .uint64, none => .error (.null .uint64)
  | .uint64, some s => (parseUint s).mapError (.parse .uint64 s)
  | .string, none => .error (.null .string)
  | .string, some s => .ok s
  | .float64, none => .error (.null .float64)
  | .float64, some s => (parseFloat s).mapError (.parse .float64 s)
  | .nullString, none => .ok ⟨[], false⟩
  | .nullString, some s => .ok ⟨s, true⟩
  | .nullInt64, none => .ok ⟨0, false⟩
  | .nullInt64, some s => ((parseInt s).mapError (.parse .nullInt64 s)).map (⟨·, true⟩)

@[simp] theorem convertAssign_string (s : GoString) : convertAssign .string (some s) = .ok s := rfl

/-- A `uint64` column reads back the number the server rendered. -/
@[simp] theorem convertAssign_formatUint (x : UInt64) :
    convertAssign .uint64 (some (formatUint x)) = .ok x := by
  simp [convertAssign, parseUint_formatUint, Except.mapError]

/-- The conversion loop of `Scan`, from column `i`: each column into its destination, in
order, the first failure ending it. The lengths are checked before it runs, so the last case
is never reached from `scan`. -/
def scanColumns : (ds : List Dest) → Nat → Row → Except ScanError (Scanned ds)
  | [], _, _ => .ok ()
  | d :: ds, i, v :: vs => do
    let x ← (convertAssign d v).mapError (.column i)
    let xs ← scanColumns ds (i + 1) vs
    pure (x, xs)
  | _ :: _, i, [] => .error (.arity i (i + 1))

/-- `Rows.Scan(dest...)` with destinations of types `ds`. -/
def scan (ds : List Dest) (row : Row) : Except ScanError (Scanned ds) :=
  if row.length = ds.length then scanColumns ds 0 row
  else .error (.arity row.length ds.length)

theorem scan_of_length_eq {ds : List Dest} {row : Row} (h : row.length = ds.length) :
    scan ds row = scanColumns ds 0 row := if_pos h

@[simp] theorem scanColumns_nil (i : Nat) (row : Row) : scanColumns [] i row = .ok () := rfl

/-- A column that converts is followed by the conversion of the rest. -/
theorem scanColumns_cons_of_ok {d : Dest} {ds : List Dest} {i : Nat} {v : Value} {vs : Row}
    {x : d.Ty} (h : convertAssign d v = .ok x) :
    scanColumns (d :: ds) i (v :: vs) = (scanColumns ds (i + 1) vs).map (x, ·) := by
  simp only [scanColumns, h, Except.mapError, bind, Except.bind]
  cases scanColumns ds (i + 1) vs <;> rfl

/-- **A row of the wrong width never scans**, whatever its values. -/
theorem scan_of_length_ne {ds : List Dest} {row : Row} (h : row.length ≠ ds.length) :
    scan ds row = .error (.arity row.length ds.length) := by
  simp [scan, h]

/-- The strings among scanned values: what a `*string` or a valid `*sql.NullString`
destination received. -/
def stringsOf : (ds : List Dest) → Scanned ds → List GoString
  | [], () => []
  | .string :: ds, (s, xs) => s :: stringsOf ds xs
  | .nullString :: ds, (s, xs) => s.string :: stringsOf ds xs
  | .uint64 :: ds, (_, xs) => stringsOf ds xs
  | .float64 :: ds, (_, xs) => stringsOf ds xs
  | .nullInt64 :: ds, (_, xs) => stringsOf ds xs

theorem stringsOf_cons (d : Dest) (ds : List Dest) (x : d.Ty) (xs : Scanned ds) :
    stringsOf (d :: ds) (x, xs) = stringsOf [d] (x, ()) ++ stringsOf ds xs := by
  cases d <;> rfl

/-- A destination that holds a string took it from its column, or is a NULL `sql.NullString`. -/
theorem mem_stringsOf_convertAssign {d : Dest} {v : Value} {x : d.Ty}
    (h : convertAssign d v = .ok x) {s : GoString} (hs : s ∈ stringsOf [d] (x, ())) :
    s = [] ∨ v = some s := by
  cases d with
  | string =>
    cases v with
    | none => cases h
    | some s' => cases h; simp [stringsOf] at hs; exact .inr (by rw [hs])
  | nullString => cases v <;> cases h <;> simp [stringsOf] at hs <;> simp [hs]
  | _ => simp [stringsOf] at hs

theorem scanColumns_cons_eq_ok {d : Dest} {ds : List Dest} {i : Nat} {v : Value} {vs : Row}
    {p : Scanned (d :: ds)} (h : scanColumns (d :: ds) i (v :: vs) = .ok p) :
    convertAssign d v = .ok p.1 ∧ scanColumns ds (i + 1) vs = .ok p.2 := by
  obtain ⟨x, xs⟩ := p
  simp only [scanColumns, bind, Except.bind, Except.mapError] at h
  cases hx : convertAssign d v <;> simp only [hx] at h
  · cases h
  · cases hxs : scanColumns ds (i + 1) vs <;> simp only [hxs] at h <;> cases h
    exact ⟨rfl, rfl⟩

/-- **Strings are copied from the columns**: every string a `Scan` fills in is the bytes of
some non-NULL column of the row, or the empty string of a NULL `sql.NullString`. -/
theorem mem_stringsOf_scanColumns {ds : List Dest} {i : Nat} {row : Row} {xs : Scanned ds}
    (h : scanColumns ds i row = .ok xs) {s : GoString} (hs : s ∈ stringsOf ds xs) :
    s = [] ∨ some s ∈ row := by
  induction ds generalizing i row with
  | nil => simp [stringsOf] at hs
  | cons d ds ih =>
    match row, h with
    | v :: vs, h =>
      obtain ⟨hx, hxs⟩ := scanColumns_cons_eq_ok h
      rw [stringsOf_cons] at hs
      rcases List.mem_append.1 hs with hs | hs
      · exact (mem_stringsOf_convertAssign hx hs).imp_right
          (by rintro rfl; exact List.mem_cons_self _ _)
      · exact (ih hxs hs).imp_right (List.mem_cons_of_mem v)

theorem mem_stringsOf_scan {ds : List Dest} {row : Row} {xs : Scanned ds}
    (h : scan ds row = .ok xs) {s : GoString} (hs : s ∈ stringsOf ds xs) :
    s = [] ∨ some s ∈ row := by
  unfold scan at h
  split at h
  · exact mem_stringsOf_scanColumns h hs
  · cases h

/-! ### NULL columns -/

/-- Whether a destination takes NULL: `sql.NullString` and `sql.NullInt64` do. -/
def Dest.nullable : Dest → Bool
  | .nullString | .nullInt64 => true
  | .uint64 | .string | .float64 => false

theorem nullable_of_convertAssign_none {d : Dest} {x : d.Ty} (h : convertAssign d none = .ok x) :
    d.nullable = true := by
  cases d <;> first | rfl | cases h

theorem nullable_of_scanColumns {row : Row} {j : Nat} (hj : row[j]? = some none) :
    ∀ {ds : List Dest} {i : Nat} {xs : Scanned ds}, scanColumns ds i row = .ok xs →
      ∀ d, ds[j]? = some d → d.nullable = true := by
  induction row generalizing j with
  | nil => cases hj
  | cons v vs ih =>
    rintro (_ | ⟨d, ds⟩) i xs h d' hd'
    · cases hd'
    obtain ⟨hx, hxs⟩ := scanColumns_cons_eq_ok h
    cases j with
    | zero =>
      simp only [List.getElem?_cons_zero, Option.some.injEq] at hj hd'
      subst hj hd'
      exact nullable_of_convertAssign_none hx
    | succ j =>
      rw [List.getElem?_cons_succ] at hj hd'
      exact ih hj hxs d' hd'

/-- **Only a `sql.Null*` destination takes NULL**: a row that scans has a nullable destination
at each of its NULL columns. -/
theorem nullable_of_scan {ds : List Dest} {row : Row} {xs : Scanned ds} (h : scan ds row = .ok xs)
    {j : Nat} (hj : row[j]? = some none) : ∃ d, ds[j]? = some d ∧ d.nullable = true := by
  unfold scan at h
  split at h
  · rename_i hl
    obtain ⟨hjr, -⟩ := List.getElem?_eq_some_iff.1 hj
    have hjd : j < ds.length := hl ▸ hjr
    exact ⟨_, List.getElem?_eq_getElem hjd,
      nullable_of_scanColumns hj h _ (List.getElem?_eq_getElem hjd)⟩
  · cases h

end Sql
