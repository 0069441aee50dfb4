import MysqldExporterNdb.Scrape.Loop
import Mathlib.Logic.Relation

/-!
# The `Scrape` of a collector, step by step

Every `Scrape` method of the package has the same shape, once or twice in a row:

```
rows, err := db.QueryContext(ctx, query)
if err != nil { return err }
defer rows.Close()
for rows.Next() {
    if err := rows.Scan(dests...); err != nil { return err }
    ... // statements that send on ch
}
```

and then `return nil`. A collector is therefore its variables (the `var (...)` block, with Go's
zero values), and its query loops (`Loop`). `step` runs such a method one statement group at a
time, keeping the state that the safety of cursors is about (`scrape_cursors_closed`):

* every cursor `QueryContext` opened, in order, with the rows it has still to yield and whether
  it is closed (`Cursor`);
* the deferred `rows.Close()` calls, most recent first, which run on every way out — `return
  nil`, `return err` and a panic alike;
* the samples sent so far.

`rows.Next()` closes the cursor itself when it returns false, which it does at the end of the
rows whether the stream ended at `io.EOF` or with a driver error: the machine reads a stream's
`Ending` nowhere, exactly as the code calls `rows.Err()` nowhere.

## Invariant

`Inv` says where the cursors stand at each program point: all closed and drained before a query,
only the newest open (and its close deferred) inside a loop, only a deferred one open on the way
out, none open at the end. `inv_step` proves it is kept by one step, so it holds on every
reachable state (`inv_of_reachable`); `Run.lean` shows the end is reached.
-/

open Sql Prometheus

namespace Scrape

open Emit

/-! ### Collectors -/

/-- A collector: the name it registers under, and its `Scrape`: the variables declared before
its loops, at their zero values, and its loops in order. -/
structure Scraper where
  name : String
  Vars : Type
  vars : Vars
  loops : List (Loop Vars)

/-! ### The machine -/

/-- A `*sql.Rows`: the rows not yet fetched, how the stream ends after them, and whether the
cursor is closed. -/
structure Cursor where
  rows : List Row
  ending : Ending
  closed : Bool

/-- `rows.Close()`. Closing twice changes nothing. -/
def Cursor.close (c : Cursor) : Cursor := { c with closed := true }

/-- Where a `Scrape` stands. -/
inductive Pc
  /-- About to call `QueryContext` for loop `i` (past the last loop: `return nil`). -/
  | query (i : Nat)
  /-- At `rows.Next()` of loop `i`, whose cursor is cursor `k`. -/
  | next (i k : Nat)
  /-- Returning with this result: the deferred calls run. -/
  | exit (r : Except Stop Unit)
  /-- Returned. -/
  | done (r : Except Stop Unit)

/-- The state of a running `Scrape`. -/
structure Machine (σ : Type) where
  pc : Pc
  vars : σ
  cursors : List Cursor
  deferred : List Nat
  sent : List Metric

variable {σ : Type}

/-- One step of a `Scrape` with loops `loops` against `db`. -/
def step (db : Db) (loops : List (Loop σ)) (m : Machine σ) : Machine σ :=
  match m.pc with
  | .query i =>
    match loops[i]? with
    | none => { m with pc := .exit (.ok ()) }
    | some b =>
      match db b.query with
      | .error e => { m with pc := .exit (.error (.error e)) }
      | .rows rs en =>
        { m with pc := .next i m.cursors.length, cursors := m.cursors ++ [⟨rs, en, false⟩],
                 deferred := m.cursors.length :: m.deferred }
  | .next i k =>
    match loops[i]?, m.cursors[k]? with
    | some b, some c =>
      if c.closed then { m with pc := .query (i + 1) }
      else
        match c.rows with
        | [] => { m with pc := .query (i + 1), cursors := m.cursors.modify Cursor.close k }
        | r :: rs =>
          let it := b.iterate m.vars r
          let m := { m with cursors := m.cursors.modify (fun c ↦ { c with rows := rs }) k,
                            sent := m.sent ++ it.sent }
          match it.result with
          | .ok v => { m with vars := v }
          | .error s => { m with pc := .exit (.error s) }
    | _, _ => m
  | .exit r =>
    match m.deferred with
    | k :: ds => { m with cursors := m.cursors.modify Cursor.close k, deferred := ds }
    | [] => { m with pc := .done r }
  | .done _ => m

/-- The state `Scrape` starts in. -/
def Scraper.start (S : Scraper) : Machine S.Vars := ⟨.query 0, S.vars, [], [], []⟩

/-- `m'` is `m` after some steps. -/
def Reaches (db : Db) (loops : List (Loop σ)) : Machine σ → Machine σ → Prop :=
  Relation.ReflTransGen fun a b ↦ b = step db loops a

/-- The states a `Scrape` of `S` against `db` passes through. -/
def Scraper.Reachable (S : Scraper) (db : Db) (m : Machine S.Vars) : Prop :=
  Reaches db S.loops S.start m

/-! ### One lemma per transition -/

section Steps

variable {db : Db} {loops : List (Loop σ)} {m : Machine σ}

theorem step_query_none {i : Nat} (hpc : m.pc = .query i) (hb : loops[i]? = none) :
    step db loops m = { m with pc := .exit (.ok ()) } := by
  simp [step, hpc, hb]

theorem step_query_error {i : Nat} {b : Loop σ} {e : GoError} (hpc : m.pc = .query i)
    (hb : loops[i]? = some b) (hq : db b.query = .error e) :
    step db loops m = { m with pc := .exit (.error (.error e)) } := by
  simp [step, hpc, hb, hq]

theorem step_query_rows {i : Nat} {b : Loop σ} {rs : List Row} {en : Ending}
    (hpc : m.pc = .query i) (hb : loops[i]? = some b) (hq : db b.query = .rows rs en) :
    step db loops m =
      { m with pc := .next i m.cursors.length, cursors := m.cursors ++ [⟨rs, en, false⟩],
               deferred := m.cursors.length :: m.deferred } := by
  simp [step, hpc, hb, hq]

theorem step_next_nil {i k : Nat} {b : Loop σ} {c : Cursor} (hpc : m.pc = .next i k)
    (hb : loops[i]? = some b) (hc : m.cursors[k]? = some c) (hopen : c.closed = false)
    (hrows : c.rows = []) :
    step db loops m =
      { m with pc := .query (i + 1), cursors := m.cursors.modify Cursor.close k } := by
  simp [step, hpc, hb, hc, hopen, hrows]

theorem step_next_ok {i k : Nat} {b : Loop σ} {c : Cursor} {r : Row} {rs : List Row} {v : σ}
    (hpc : m.pc = .next i k) (hb : loops[i]? = some b) (hc : m.cursors[k]? = some c)
    (hopen : c.closed = false) (hrows : c.rows = r :: rs)
    (hit : (b.iterate m.vars r).result = .ok v) :
    step db loops m =
      { m with vars := v, cursors := m.cursors.modify (fun c ↦ { c with rows := rs }) k,
               sent := m.sent ++ (b.iterate m.vars r).sent } := by
  simp [step, hpc, hb, hc, hopen, hrows, hit]

theorem step_next_error {i k : Nat} {b : Loop σ} {c : Cursor} {r : Row} {rs : List Row}
    {s : Stop} (hpc : m.pc = .next i k) (hb : loops[i]? = some b) (hc : m.cursors[k]? = some c)
    (hopen : c.closed = false) (hrows : c.rows = r :: rs)
    (hit : (b.iterate m.vars r).result = .error s) :
    step db loops m =
      { m with pc := .exit (.error s),
               cursors := m.cursors.modify (fun c ↦ { c with rows := rs }) k,
               sent := m.sent ++ (b.iterate m.vars r).sent } := by
  simp [step, hpc, hb, hc, hopen, hrows, hit]

theorem step_next_of_none {i k : Nat} (hpc : m.pc = .next i k) (hb : loops[i]? = none) :
    step db loops m = m := by
  simp [step, hpc, hb]

theorem step_exit_cons {r : Except Stop Unit} {k : Nat} {ds : List Nat} (hpc : m.pc = .exit r)
    (hd : m.deferred = k :: ds) :
    step db loops m = { m with cursors := m.cursors.modify Cursor.close k, deferred := ds } := by
  simp [step, hpc, hd]

theorem step_exit_nil {r : Except Stop Unit} (hpc : m.pc = .exit r) (hd : m.deferred = []) :
    step db loops m = { m with pc := .done r } := by
  simp [step, hpc, hd]

theorem step_done {r : Except Stop Unit} (hpc : m.pc = .done r) : step db loops m = m := by
  simp [step, hpc]

end Steps

/-! ### Cursor lists -/

/-- Changing the last cursor leaves the others alone. -/
theorem modify_append_length (f : Cursor → Cursor) (cs : List Cursor) (c : Cursor) :
    (cs ++ [c]).modify f cs.length = cs ++ [f c] := by
  induction cs with
  | nil => rfl
  | cons d cs ih => simpa using ih

/-- Closing some cursor keeps every closed cursor closed, and touches only cursor `k`. -/
theorem mem_modify_close {cs : List Cursor} {k : Nat} {c : Cursor}
    (h : c ∈ cs.modify Cursor.close k) : c ∈ cs ∨ ∃ d ∈ cs, c = d.close := by
  induction cs generalizing k with
  | nil => simp at h
  | cons d cs ih =>
    cases k with
    | zero =>
      simp only [List.modify_zero_cons, List.mem_cons] at h
      rcases h with rfl | h
      · exact .inr ⟨d, List.mem_cons_self d cs, rfl⟩
      · exact .inl (List.mem_cons_of_mem d h)
    | succ k =>
      simp only [List.modify_succ_cons, List.mem_cons] at h
      rcases h with rfl | h
      · exact .inl (List.mem_cons_self c cs)
      · exact (ih h).imp (List.mem_cons_of_mem d) fun ⟨e, he, hc⟩ ↦
          ⟨e, List.mem_cons_of_mem d he, hc⟩

/-- Closing a cursor past the end of the closed ones leaves them as they are. -/
theorem modify_close_append_of_ne {cs : List Cursor} {c : Cursor} {k : Nat}
    (hk : k ≠ cs.length) :
    ∃ cs', (cs ++ [c]).modify Cursor.close k = cs' ++ [c] ∧ cs'.length = cs.length ∧
      ∀ d ∈ cs', d ∈ cs ∨ ∃ e ∈ cs, d = e.close := by
  induction cs generalizing k with
  | nil =>
    cases k with
    | zero => exact absurd rfl hk
    | succ k => exact ⟨[], by simp, rfl, by simp⟩
  | cons e cs ih =>
    cases k with
    | zero =>
      refine ⟨e.close :: cs, by simp, rfl, fun d hd ↦ ?_⟩
      rcases List.mem_cons.1 hd with rfl | hd
      · exact .inr ⟨e, List.mem_cons_self e cs, rfl⟩
      · exact .inl (List.mem_cons_of_mem e hd)
    | succ k =>
      obtain ⟨cs', h, hl, hm⟩ := ih (k := k) (by simpa using hk)
      refine ⟨e :: cs', by simp [h], by simp [hl], fun d hd ↦ ?_⟩
      rcases List.mem_cons.1 hd with rfl | hd
      · exact .inl (List.mem_cons_self d cs)
      · exact (hm d hd).imp (List.mem_cons_of_mem e) fun ⟨x, hx, hd⟩ ↦
          ⟨x, List.mem_cons_of_mem e hx, hd⟩

/-! ### The invariant -/

/-- Cursor `j` of `m` is open. -/
def Machine.IsOpen (m : Machine σ) (j : Nat) : Prop :=
  ∃ c, m.cursors[j]? = some c ∧ c.closed = false

/-- Where the cursors stand at each program point. -/
def Inv (m : Machine σ) : Prop :=
  match m.pc with
  | .query _ => ∀ c ∈ m.cursors, c.closed = true ∧ c.rows = []
  | .next _ k =>
    ∃ cs c, m.cursors = cs ++ [c] ∧ cs.length = k ∧ c.closed = false ∧ k ∈ m.deferred ∧
      ∀ d ∈ cs, d.closed = true ∧ d.rows = []
  | .exit _ =>
    (∀ c ∈ m.cursors, c.closed = true) ∨
      ∃ cs c, m.cursors = cs ++ [c] ∧ cs.length ∈ m.deferred ∧ ∀ d ∈ cs, d.closed = true
  | .done _ => ∀ c ∈ m.cursors, c.closed = true

/-- In a list whose cursors but the last are closed, an open cursor is the last. -/
theorem eq_length_of_open {cs : List Cursor} {c d : Cursor} {j : Nat}
    (hcs : ∀ d ∈ cs, d.closed = true) (hj : (cs ++ [c])[j]? = some d) (hd : d.closed = false) :
    j = cs.length := by
  rcases lt_trichotomy j cs.length with hlt | heq | hgt
  · rw [List.getElem?_append_left hlt] at hj
    simp [hcs d (List.getElem?_mem hj)] at hd
  · exact heq
  · rw [List.getElem?_eq_none (by simp; omega)] at hj
    cases hj

theorem closed_of_mem_modify_close {cs : List Cursor} {k : Nat}
    (hcs : ∀ c ∈ cs, c.closed = true) : ∀ c ∈ cs.modify Cursor.close k, c.closed = true :=
  fun c hc ↦ (mem_modify_close hc).elim (hcs c) fun ⟨_, _, hd⟩ ↦ hd ▸ rfl

theorem inv_start (S : Scraper) : Inv S.start := by
  simp [Inv, Scraper.start]

/-- **One step keeps the invariant**, from any state where it holds. -/
theorem inv_step {db : Db} {loops : List (Loop σ)} {m : Machine σ} (h : Inv m) :
    Inv (step db loops m) := by
  rcases hpc : m.pc with i | ⟨i, k⟩ | r | r <;> rw [Inv, hpc] at h
  case query =>
    rcases hb : loops[i]? with _ | b
    · rw [step_query_none hpc hb, Inv]
      exact .inl fun c hc ↦ (h c hc).1
    rcases hq : db b.query with e | ⟨rs, en⟩
    · rw [step_query_error hpc hb hq, Inv]
      exact .inl fun c hc ↦ (h c hc).1
    · rw [step_query_rows hpc hb hq, Inv]
      exact ⟨m.cursors, _, rfl, rfl, rfl, List.mem_cons_self _ _, h⟩
  case next =>
    obtain ⟨cs, c, hcs, rfl, hopen, hdef, hdone⟩ := h
    have hk : m.cursors[cs.length]? = some c := by rw [hcs]; exact List.getElem?_concat_length cs c
    rcases hb : loops[i]? with _ | b
    · rw [step_next_of_none hpc hb, Inv, hpc]
      exact ⟨cs, c, hcs, rfl, hopen, hdef, hdone⟩
    rcases hrows : c.rows with _ | ⟨r, rs⟩
    · rw [step_next_nil hpc hb hk hopen hrows, Inv, hcs, modify_append_length]
      simp only [List.mem_append, List.mem_singleton]
      rintro d (hd | rfl)
      · exact hdone d hd
      · exact ⟨rfl, hrows⟩
    rcases hit : (b.iterate m.vars r).result with s | v
    · rw [step_next_error hpc hb hk hopen hrows hit, Inv, hcs, modify_append_length]
      exact .inr ⟨cs, _, rfl, hdef, fun d hd ↦ (hdone d hd).1⟩
    · rw [step_next_ok hpc hb hk hopen hrows hit, Inv, hpc, hcs, modify_append_length]
      exact ⟨cs, _, rfl, rfl, hopen, hdef, hdone⟩
  case exit =>
    rcases hd : m.deferred with _ | ⟨k, ds⟩
    · rw [step_exit_nil hpc hd, Inv]
      rcases h with h | ⟨cs, c, -, hmem, -⟩
      · exact h
      · rw [hd] at hmem; cases hmem
    · rw [step_exit_cons hpc hd]
      simp only [Inv, hpc]
      rcases h with h | ⟨cs, c, hcs, hmem, hdone⟩
      · exact .inl (closed_of_mem_modify_close h)
      rw [hcs]
      by_cases hk : k = cs.length
      · subst hk
        rw [modify_append_length]
        refine .inl fun d hd ↦ ?_
        rcases List.mem_append.1 hd with hd | hd
        · exact hdone d hd
        · rw [List.mem_singleton.1 hd]; rfl
      · obtain ⟨cs', hcs', hlen, hm⟩ := modify_close_append_of_ne (c := c) hk
        rw [hcs']
        refine .inr ⟨cs', c, rfl, ?_, fun d hd ↦ ?_⟩
        · rw [hd] at hmem
          rw [hlen]
          exact (List.mem_cons.1 hmem).resolve_left (Ne.symm hk)
        · exact (hm d hd).elim (hdone d) fun ⟨_, _, he⟩ ↦ he ▸ rfl
  case done =>
    rw [step_done hpc, Inv, hpc]
    exact h

/-- **The invariant holds on every state a `Scrape` passes through.** -/
theorem inv_of_reachable {S : Scraper} {db : Db} {m : Machine S.Vars} (h : S.Reachable db m) :
    Inv m := by
  induction h with
  | refl => exact inv_start S
  | tail _ hstep ih => rw [hstep]; exact inv_step ih

/-- Under the invariant, two open cursors are the same cursor. -/
theorem eq_of_isOpen {m : Machine σ} (h : Inv m) {j j' : Nat} (hj : m.IsOpen j)
    (hj' : m.IsOpen j') : j = j' := by
  obtain ⟨c, hc, hco⟩ := hj
  obtain ⟨c', hc', hco'⟩ := hj'
  have none_open : (∀ d ∈ m.cursors, d.closed = true) → False := fun hall ↦ by
    simp [hall c (List.getElem?_mem hc)] at hco
  unfold Inv at h
  split at h
  · exact (none_open fun d hd ↦ (h d hd).1).elim
  · obtain ⟨cs, d, hcs, -, -, -, hdone⟩ := h
    rw [hcs] at hc hc'
    rw [eq_length_of_open (fun d hd ↦ (hdone d hd).1) hc hco,
      eq_length_of_open (fun d hd ↦ (hdone d hd).1) hc' hco']
  · rcases h with h | ⟨cs, d, hcs, -, hdone⟩
    · exact (none_open h).elim
    · rw [hcs] at hc hc'
      rw [eq_length_of_open hdone hc hco, eq_length_of_open hdone hc' hco']
  · exact (none_open h).elim

end Scrape
