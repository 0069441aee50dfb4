import MysqldExporterNdb.Sql.Query
import MysqldExporterNdb.Prometheus.Metric

/-!
# What a scrape's code does: send samples, then return or stop

The body of a collector's loop sends samples on `ch` and may stop half-way: `return err` after
a failed `Scan` or `ParseFloat`, or a panic inside `MustNewConstMetric`. What was sent before
the stop stays sent. `Emit α` records exactly that — the samples sent, in order, and then the
value reached or the reason for stopping — and its `bind` keeps the samples of both halves, so
Go's straight-line code reads as a `do` block:

```
ch <- prometheus.MustNewConstMetric(d, prometheus.GaugeValue, float64(count), nodeType)
```

is `send (← mustNewConstMetric d .gauge (.ofUInt64 count) [nodeType])`.

A panic is kept apart from an error (`Stop.panic`): it is not returned to the caller but aborts
the process once the deferred calls have run.
-/

open Sql Prometheus

namespace Scrape

/-- Why a scrape's code stopped before `return nil`. -/
inductive Stop
  /-- `return err`. -/
  | error (e : GoError)
  /-- `panic(err)` in `MustNewConstMetric`. -/
  | panic (e : PromError)

/-- Go code that sends on `ch`: the samples it sent, then its value or the reason it stopped. -/
structure Emit (α : Type) where
  sent : List Metric
  result : Except Stop α

namespace Emit

instance : Monad Emit where
  pure a := ⟨[], .ok a⟩
  bind m f :=
    match m.result with
    | .ok a => ⟨m.sent ++ (f a).sent, (f a).result⟩
    | .error s => ⟨m.sent, .error s⟩

/-- `ch <- m`. -/
def send (m : Metric) : Emit Unit := ⟨[m], .ok ()⟩

/-- Stop without sending anything more. -/
def stop {α : Type} (s : Stop) : Emit α := ⟨[], .error s⟩

/-- `if err != nil { return err }` after a fallible call. -/
def check {α : Type} (e : Except GoError α) : Emit α := ⟨[], e.mapError .error⟩

variable {α β : Type}

@[simp] theorem sent_pure (a : α) : (pure a : Emit α).sent = [] := rfl

@[simp] theorem result_pure (a : α) : (pure a : Emit α).result = .ok a := rfl

theorem bind_of_ok {m : Emit α} {f : α → Emit β} {a : α} (h : m.result = .ok a) :
    m >>= f = ⟨m.sent ++ (f a).sent, (f a).result⟩ := by
  show (match m.result with
    | .ok a => _
    | .error s => _) = _
  rw [h]

theorem bind_of_error {m : Emit α} {f : α → Emit β} {s : Stop} (h : m.result = .error s) :
    m >>= f = ⟨m.sent, .error s⟩ := by
  show (match m.result with
    | .ok a => _
    | .error s => _) = _
  rw [h]

@[simp] theorem ok_bind (sent : List Metric) (a : α) (f : α → Emit β) :
    (⟨sent, .ok a⟩ : Emit α) >>= f = ⟨sent ++ (f a).sent, (f a).result⟩ := bind_of_ok rfl

@[simp] theorem error_bind (sent : List Metric) (s : Stop) (f : α → Emit β) :
    (⟨sent, .error s⟩ : Emit α) >>= f = ⟨sent, .error s⟩ := bind_of_error rfl

@[simp] theorem pure_bind_eq (a : α) (f : α → Emit β) : (pure a : Emit α) >>= f = f a := rfl

@[simp] theorem stop_bind (s : Stop) (f : α → Emit β) : (stop s : Emit α) >>= f = stop s := rfl

@[simp] theorem sent_bind_pure (m : Emit α) (b : β) : (m >>= fun _ ↦ pure b).sent = m.sent := by
  cases hr : m.result <;> simp [bind_of_ok, bind_of_error, hr]

@[simp] theorem result_bind_pure (m : Emit α) (b : β) :
    (m >>= fun _ ↦ pure b).result = m.result.map fun _ ↦ b := by
  cases hr : m.result <;> simp [bind_of_ok, bind_of_error, hr, Except.map]

@[simp] theorem check_ok (a : α) : check (.ok a) = (pure a : Emit α) := rfl

@[simp] theorem check_error (e : GoError) : check (.error e : Except GoError α) = stop (.error e) :=
  rfl

/-- A step that sends nothing leaves what follows to send everything. -/
theorem sent_bind_of_sent_nil {m : Emit α} {f : α → Emit β} (h : m.sent = []) :
    (m >>= f).sent = match m.result with
      | .ok a => (f a).sent
      | .error _ => [] := by
  cases hr : m.result <;> simp [bind_of_ok, bind_of_error, hr, h]

/-- A bind sends what its first step sent, and no more than any continuation sends. -/
theorem length_sent_bind_le {m : Emit α} {f : α → Emit β} {b : Nat}
    (hf : ∀ a, (f a).sent.length ≤ b) : (m >>= f).sent.length ≤ m.sent.length + b := by
  rcases hr : m.result with s | a
  · rw [bind_of_error hr]; exact Nat.le_add_right _ _
  · rw [bind_of_ok hr, List.length_append]; exact Nat.add_le_add_left (hf a) _

theorem length_sent_bind_of_ok {m : Emit α} {f : α → Emit β} {a : α} (h : m.result = .ok a) :
    (m >>= f).sent.length = m.sent.length + (f a).sent.length := by
  rw [bind_of_ok h, List.length_append]

/-- A bind that returns got past its first step. -/
theorem exists_result_of_bind_eq_ok {m : Emit α} {f : α → Emit β} {b : β}
    (h : (m >>= f).result = .ok b) : ∃ a, m.result = .ok a ∧ (f a).result = .ok b := by
  rcases hr : m.result with s | a
  · rw [bind_of_error hr] at h; cases h
  · rw [bind_of_ok hr] at h; exact ⟨a, rfl, h⟩

/-! ### Properties of every sample sent -/

/-- Every sample `e` sends satisfies `P`. -/
def SentAll (P : Metric → Prop) (e : Emit α) : Prop := ∀ m ∈ e.sent, P m

variable {P : Metric → Prop}

theorem SentAll.bind {m : Emit α} {f : α → Emit β} (hm : SentAll P m)
    (hf : ∀ a, SentAll P (f a)) : SentAll P (m >>= f) := by
  intro x hx
  rcases hr : m.result with s | a
  · rw [bind_of_error hr] at hx
    exact hm x hx
  · rw [bind_of_ok hr] at hx
    exact (List.mem_append.1 hx).elim (hm x) (hf a x)

theorem sentAll_pure (a : α) : SentAll P (pure a : Emit α) := nofun

theorem sentAll_stop (s : Stop) : SentAll P (stop s : Emit α) := nofun

theorem sentAll_check (e : Except GoError α) : SentAll P (check e) := nofun

end Emit

open Emit

/-- `prometheus.MustNewConstMetric`: the sample, or a panic with `NewConstMetric`'s error. -/
def mustNewConstMetric (desc : Desc) (vt : ValueType) (v : GoFloat) (ls : List GoString) :
    Emit Metric :=
  ⟨[], (newConstMetric desc vt v ls).mapError .panic⟩

end Scrape
