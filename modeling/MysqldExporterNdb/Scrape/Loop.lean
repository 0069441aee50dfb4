import MysqldExporterNdb.Scrape.Emit

/-!
# A collector's loop, statement by statement

After its `Scan`, the body of every loop of the package is a run of statements of three kinds,
each sending one sample with the same label values:

* `ch <- prometheus.MustNewConstMetric(desc, valueType, value, labels...)`;
* the same under `if cond { ... }` (the free extents of `ScrapeFiles`);
* `f, err := strconv.ParseFloat(text, 64)`, `if err != nil { return err }`, then the send of `f`
  (the three counters `ScrapeNdbinfoThreadstat` reads as strings).

So a loop is modelled as data (`Loop`): its query, the destinations of its `Scan`, the assignment
`Scan` and the statements after it make to the variables, the row's label values, and the list of
statements (`Stmt`). `Loop.iterate` runs one row. The static shape of the list decides what a
failing row can have sent: `sent_runAll_of_error` shows that a stopping row has sent the samples
of a first run of the statements before the body's last parse (none, in a body without a parse),
and `sent_runAll_sublist` that a row's samples carry its label values and follow the body's
descriptors in order, each with its statement's value type (`Loop.sentAll_iterate_kind`).

A label value is either `strconv.FormatUint(x, 10)` of a `uint64` variable or a string variable
passed through (`Label`). Keeping the source of a label, and not only its text, lets the theorems
speak of rows distinct on their label *columns*: `Label.map_value_injective` turns distinct
columns into distinct label values, through `formatUint_injective`.
-/

open Sql Prometheus Strconv

namespace Scrape

open Emit

/-! ### Label values -/

/-- Where a label value comes from. -/
inductive Label
  /-- `strconv.FormatUint(x, 10)` of a `uint64` variable. -/
  | formatUint (x : UInt64)
  /-- A string variable, or a string literal, passed through. -/
  | string (s : GoString)
  deriving DecidableEq

/-- The label value the code passes to `MustNewConstMetric`. -/
def Label.value : Label → GoString
  | .formatUint x => Strconv.formatUint x
  | .string s => s

/-- Whether the label is a rendered number. -/
def Label.isNumber : Label → Bool
  | .formatUint _ => true
  | .string _ => false

/-- **Labels of the same kinds are told apart by their values**: distinct numbers render
distinctly, and strings are themselves. -/
theorem Label.map_value_injective :
    ∀ {ls ls' : List Label}, ls.map isNumber = ls'.map isNumber →
      ls.map value = ls'.map value → ls = ls'
  | [], [], _, _ => rfl
  | a :: ls, b :: ls', hk, hv => by
    simp only [List.map_cons, List.cons.injEq] at hk hv
    have hab : a = b := by
      cases a <;> cases b <;> simp_all [isNumber, value, formatUint_injective.eq_iff]
    rw [hab, map_value_injective hk.2 hv.2]

/-- A label value is valid UTF-8 when it is a rendered number or a valid string. -/
theorem Label.validString_value {l : Label} (h : ∀ s, l = .string s → Utf8.validString s = true) :
    Utf8.validString l.value = true := by
  cases l with
  | formatUint x => exact validString_formatUint x
  | string s => exact h s rfl

/-! ### Statements -/

/-- `ch <- prometheus.MustNewConstMetric(desc, valueType, value, labelValues...)`. -/
def emitMetric (desc : Desc) (vt : ValueType) (value : GoFloat) (ls : List GoString) :
    Emit Unit :=
  mustNewConstMetric desc vt value ls >>= send

theorem emitMetric_of_ok {desc : Desc} {vt : ValueType} {value : GoFloat} {ls : List GoString}
    {m : Metric} (h : newConstMetric desc vt value ls = .ok m) :
    emitMetric desc vt value ls = ⟨[m], .ok ()⟩ := by
  rw [emitMetric, mustNewConstMetric, h]; rfl

theorem emitMetric_of_error {desc : Desc} {vt : ValueType} {value : GoFloat}
    {ls : List GoString} {e : PromError} (h : newConstMetric desc vt value ls = .error e) :
    emitMetric desc vt value ls = ⟨[], .error (.panic e)⟩ := by
  rw [emitMetric, mustNewConstMetric, h]; rfl

/-- A send whose descriptor is valid and whose label values fit it puts out its sample. -/
theorem emitMetric_eq {d : Desc} {vt : ValueType} {x : GoFloat} {ls : List GoString}
    (hd : d.err = none) (hn : d.variableLabels.length = ls.length)
    (hu : ∀ s ∈ ls, Utf8.validString s = true) :
    emitMetric d vt x ls = ⟨[⟨d, vt, x, ls⟩], .ok ()⟩ :=
  emitMetric_of_ok (newConstMetric_eq_ok hd hn.symm hu)

/-- `strconv.ParseFloat(s, 64)`, with its error as the collector returns it. -/
def parseFloatErr (s : GoString) : Except GoError GoFloat :=
  (parseFloat s).mapError (.parseFloat s)

variable {σ : Type}

/-- A statement of a loop body after its `Scan`, reading the loop's variables. -/
inductive Stmt (σ : Type)
  /-- `ch <- prometheus.MustNewConstMetric(desc, valueType, value, labels...)` -/
  | send (desc : Desc) (valueType : ValueType) (value : σ → GoFloat)
  /-- `if cond { ch <- prometheus.MustNewConstMetric(desc, valueType, value, labels...) }` -/
  | sendIf (cond : σ → Bool) (desc : Desc) (valueType : ValueType) (value : σ → GoFloat)
  /-- `f, err := strconv.ParseFloat(text, 64)`, `if err != nil { return err }`, then
  `ch <- prometheus.MustNewConstMetric(desc, valueType, f, labels...)` -/
  | parseSend (text : σ → GoString) (desc : Desc) (valueType : ValueType)

namespace Stmt

/-- The descriptor the statement sends to. -/
def desc : Stmt σ → Desc
  | send d _ _ => d
  | sendIf _ d _ _ => d
  | parseSend _ d _ => d

/-- The value type the statement sends with. -/
def valueType : Stmt σ → ValueType
  | send _ vt _ => vt
  | sendIf _ _ vt _ => vt
  | parseSend _ _ vt => vt

/-- Whether the statement parses before it sends. -/
def parses : Stmt σ → Bool
  | parseSend _ _ _ => true
  | _ => false

/-- Whether the statement sends only under a condition of its own. -/
def guarded : Stmt σ → Bool
  | sendIf _ _ _ _ => true
  | _ => false

/-- The statement, run on the variables `v` with label values `ls`. -/
def run (ls : List GoString) (v : σ) : Stmt σ → Emit Unit
  | send d vt x => emitMetric d vt (x v) ls
  | sendIf c d vt x => if c v then emitMetric d vt (x v) ls else pure ()
  | parseSend s d vt => check (parseFloatErr (s v)) >>= fun f ↦ emitMetric d vt f ls

end Stmt

/-- A run of statements, in order, up to the first that stops. -/
def runAll (ls : List GoString) (v : σ) : List (Stmt σ) → Emit Unit
  | [] => pure ()
  | st :: sts => st.run ls v >>= fun _ ↦ runAll ls v sts

/-- One `for rows.Next() { ... }` of a `Scrape`: the query it runs over, the destination types of
its `Scan`, the variables after the `Scan` and the assignments that follow it, the row's label
values, and the statements that send. -/
structure Loop (σ : Type) where
  query : String
  dests : List Dest
  assign : σ → Scanned dests → σ
  labels : σ → List Label
  body : List (Stmt σ)

/-- The label values every sample of the row carries. -/
def Loop.labelValues (l : Loop σ) (v : σ) : List GoString := (l.labels v).map Label.value

/-- One iteration of the loop: `Scan`, returning its error, then the statements. -/
def Loop.iterate (l : Loop σ) (v : σ) (r : Row) : Emit σ := do
  let t ← check ((scan l.dests r).mapError .scan)
  let v := l.assign v t
  runAll (l.labelValues v) v l.body
  pure v

/-! ### What a run of statements sends -/

section Run

variable {ls : List GoString} {v : σ}

@[simp] theorem runAll_nil : runAll ls v [] = pure () := rfl

theorem runAll_cons (st : Stmt σ) (sts : List (Stmt σ)) :
    runAll ls v (st :: sts) = (st.run ls v >>= fun _ ↦ runAll ls v sts) := rfl

/-- A send puts out the sample `NewConstMetric` built from its arguments, or nothing. -/
theorem sent_emitMetric (d : Desc) (vt : ValueType) (x : GoFloat) :
    (emitMetric d vt x ls).sent = [] ∨ (emitMetric d vt x ls).sent = [⟨d, vt, x, ls⟩] := by
  cases h : newConstMetric d vt x ls with
  | error e => exact .inl (by rw [emitMetric_of_error h])
  | ok m => exact .inr (by rw [emitMetric_of_ok h, eq_of_newConstMetric_eq_ok h])

theorem mem_sent_emitMetric {d : Desc} {vt : ValueType} {x : GoFloat} {m : Metric}
    (h : m ∈ (emitMetric d vt x ls).sent) : m = ⟨d, vt, x, ls⟩ := by
  rcases @sent_emitMetric ls d vt x with h' | h' <;> rw [h'] at h
  · cases h
  · exact List.mem_singleton.1 h

variable (ls v) in
/-- A statement sends at most one sample, to its own descriptor, with the label values given. -/
theorem Stmt.sent_run (st : Stmt σ) :
    (st.run ls v).sent = [] ∨
      ∃ m, (st.run ls v).sent = [m] ∧ m.desc = st.desc ∧ m.labelValues = ls := by
  have key : ∀ d vt x, (emitMetric d vt x ls).sent = [] ∨
      ∃ m, (emitMetric d vt x ls).sent = [m] ∧ m.desc = d ∧ m.labelValues = ls := fun d vt x ↦
    (sent_emitMetric d vt x).imp_right fun h ↦ ⟨_, h, rfl, rfl⟩
  cases st with
  | send d vt x => exact key d vt (x v)
  | sendIf c d vt x =>
    simp only [run]; split
    · exact key d vt (x v)
    · exact .inl rfl
  | parseSend s d vt =>
    simp only [run]
    cases parseFloatErr (s v) with
    | error e => exact .inl rfl
    | ok f => exact key d vt f

variable (ls v) in
/-- **How a statement ends**: it goes on; or `NewConstMetric` refused its sample and it panics,
having sent nothing; or it is a parse that failed, and it returns the error, having sent
nothing. -/
theorem Stmt.run_cases (st : Stmt σ) :
    (st.run ls v).result = .ok () ∨
      (∃ vt x e, newConstMetric st.desc vt x ls = .error e ∧
        st.run ls v = ⟨[], .error (.panic e)⟩) ∨
      (st.parses = true ∧ ∃ e, st.run ls v = ⟨[], .error (.error e)⟩) := by
  have key : ∀ d vt x, (emitMetric d vt x ls).result = .ok () ∨ ∃ e,
      newConstMetric d vt x ls = .error e ∧ emitMetric d vt x ls = ⟨[], .error (.panic e)⟩ := by
    intro d vt x
    cases h : newConstMetric d vt x ls with
    | ok m => exact .inl (by rw [emitMetric_of_ok h])
    | error e => exact .inr ⟨e, rfl, emitMetric_of_error h⟩
  cases st with
  | send d vt x => exact (key d vt (x v)).imp_right fun ⟨e, he, h⟩ ↦ .inl ⟨vt, x v, e, he, h⟩
  | sendIf c d vt x =>
    simp only [run]; split
    · exact (key d vt (x v)).imp_right fun ⟨e, he, h⟩ ↦ .inl ⟨vt, x v, e, he, h⟩
    · exact .inl rfl
  | parseSend s d vt =>
    simp only [run]
    cases parseFloatErr (s v) with
    | error e => exact .inr (.inr ⟨rfl, e, rfl⟩)
    | ok f => exact (key d vt f).imp_right fun ⟨e, he, h⟩ ↦ .inl ⟨vt, f, e, he, h⟩

/-- **A row's samples follow the body**: their descriptors are a sublist of the statements'
descriptors, and they all carry the row's label values. -/
theorem sent_runAll_sublist (sts : List (Stmt σ)) :
    List.Sublist ((runAll ls v sts).sent.map Metric.desc) (sts.map Stmt.desc) ∧
      ∀ m ∈ (runAll ls v sts).sent, m.labelValues = ls := by
  induction sts with
  | nil => simp
  | cons st sts ih =>
    rw [runAll_cons]
    rcases hr : (st.run ls v).result with s | u
    · rw [bind_of_error hr]
      rcases st.sent_run ls v with h | ⟨m, h, hd, hl⟩
      · simp [h]
      · simp [h, hd, hl]
    · rw [bind_of_ok hr]
      rcases st.sent_run ls v with h | ⟨m, h, hd, hl⟩
      · simp only [h, List.nil_append, List.map_cons]
        exact ⟨ih.1.cons _, ih.2⟩
      · simp only [h, List.singleton_append, List.map_cons, hd, List.mem_cons, forall_eq_or_imp,
          hl, true_and]
        exact ⟨ih.1.cons₂ _, ih.2⟩

/-- Every sample of a run of statements is the sample of one of them. -/
theorem mem_sent_runAll {m : Metric} {sts : List (Stmt σ)} (h : m ∈ (runAll ls v sts).sent) :
    ∃ st ∈ sts, m ∈ (st.run ls v).sent := by
  induction sts with
  | nil => cases h
  | cons st sts ih =>
    rw [runAll_cons] at h
    rcases hr : (st.run ls v).result with s | u
    · rw [bind_of_error hr] at h
      exact ⟨st, List.mem_cons_self st sts, h⟩
    · rw [bind_of_ok hr] at h
      rcases List.mem_append.1 h with h | h
      · exact ⟨st, List.mem_cons_self st sts, h⟩
      · obtain ⟨st', hst', h'⟩ := ih h
        exact ⟨st', List.mem_cons_of_mem st hst', h'⟩

/-- A run of statements stops where the first of them stops, with its reason. -/
theorem runAll_result_cases {P : Stop → Prop} {sts : List (Stmt σ)}
    (h : ∀ st ∈ sts, ∀ s, (st.run ls v).result = .error s → P s) :
    ∀ s, (runAll ls v sts).result = .error s → P s := by
  induction sts with
  | nil => intro s hs; cases hs
  | cons st sts ih =>
    intro s hs
    rw [runAll_cons] at hs
    rcases hr : (st.run ls v).result with s' | u
    · rw [bind_of_error hr] at hs; cases hs
      exact h st (List.mem_cons_self st sts) _ hr
    · rw [bind_of_ok hr] at hs
      exact ih (fun st' hst' ↦ h st' (List.mem_cons_of_mem st hst')) s hs

/-- **No label count is ever refused** when every descriptor has as many labels as there are label
values: `NewConstMetric` then fails only for a bad descriptor or a value that is not UTF-8. -/
theorem runAll_result_ne_cardinality {sts : List (Stmt σ)}
    (h : ∀ st ∈ sts, st.desc.variableLabels.length = ls.length) (n k : Nat) :
    (runAll ls v sts).result ≠ .error (.panic (.inconsistentCardinality n k)) := by
  intro hr
  refine runAll_result_cases (P := fun s ↦ s ≠ .panic (.inconsistentCardinality n k))
    (fun st hst s hs ↦ ?_) _ hr rfl
  rcases st.run_cases ls v with h' | ⟨vt, x, e, he, h'⟩ | ⟨-, e, h'⟩
  · rw [h'] at hs; cases hs
  · rw [h'] at hs; cases hs
    rintro ⟨⟩
    exact newConstMetric_ne_cardinality (h st hst).symm n k he
  · rw [h'] at hs; cases hs; simp

/-- **No statement panics** when the descriptors are valid, have as many labels as there are label
values, and every label value is valid UTF-8. -/
theorem runAll_result_ne_panic {sts : List (Stmt σ)}
    (h : ∀ st ∈ sts, st.desc.err = none ∧ st.desc.variableLabels.length = ls.length)
    (hu : ∀ s ∈ ls, Utf8.validString s = true) (e : PromError) :
    (runAll ls v sts).result ≠ .error (.panic e) := by
  intro hr
  refine runAll_result_cases (P := fun s ↦ ∀ e, s ≠ .panic e) (fun st hst s hs ↦ ?_) _ hr e rfl
  rcases st.run_cases ls v with h' | ⟨vt, x, e', he, h'⟩ | ⟨-, e', h'⟩
  · rw [h'] at hs; cases hs
  · have : newConstMetric st.desc vt x ls = .ok _ :=
      newConstMetric_eq_ok (h st hst).1 (h st hst).2.symm hu
    rw [he] at this; cases this
  · rw [h'] at hs; cases hs; simp

/-- **The only panic of well-labelled statements is a label value that is not UTF-8**: with
valid descriptors of as many labels as there are values, `NewConstMetric` refuses nothing
else. -/
theorem runAll_result_panic {sts : List (Stmt σ)}
    (h : ∀ st ∈ sts, st.desc.err = none ∧ st.desc.variableLabels.length = ls.length)
    {e : PromError} (hr : (runAll ls v sts).result = .error (.panic e)) :
    ∃ s ∈ ls, e = .invalidLabelValue s ∧ Utf8.validString s = false := by
  refine runAll_result_cases (P := fun s ↦ ∀ e, s = .panic e → ∃ s ∈ ls,
    e = .invalidLabelValue s ∧ Utf8.validString s = false) (fun st hst s hs e he ↦ ?_) _ hr e rfl
  subst he
  rcases st.run_cases ls v with h' | ⟨vt, x, e', he', h'⟩ | ⟨-, e', h'⟩ <;> rw [h'] at hs <;>
    cases hs
  exact eq_invalidLabelValue_of_newConstMetric (h st hst).1 (h st hst).2.symm he'

/-- **A row whose label values are not all UTF-8 sends nothing**: its first send that runs
panics, and what ran before it (a skipped send, a parse) sent nothing. -/
theorem runAll_sent_of_not_validString {sts : List (Stmt σ)}
    (h : ∀ st ∈ sts, st.desc.err = none ∧ st.desc.variableLabels.length = ls.length)
    {s : GoString} (hs : s ∈ ls) (hu : Utf8.validString s = false) :
    (runAll ls v sts).sent = [] := by
  have key : ∀ (d : Desc) vt x, d.err = none ∧ d.variableLabels.length = ls.length →
      ∀ f : Unit → Emit Unit, (emitMetric d vt x ls >>= f).sent = [] := by
    intro d vt x hd f
    obtain ⟨s', h'⟩ : ∃ s', newConstMetric d vt x ls = .error (.invalidLabelValue s') :=
      newConstMetric_of_not_validString hd.1 hd.2.symm hs hu
    rw [emitMetric_of_error h']; rfl
  induction sts with
  | nil => rfl
  | cons st sts ih =>
    have hst := h st (List.mem_cons_self st sts)
    have ih' := ih fun st' h' ↦ h st' (List.mem_cons_of_mem st h')
    rw [runAll_cons]
    cases st with
    | send d vt x => exact key d vt (x v) hst _
    | sendIf c d vt x =>
      simp only [Stmt.run]; split
      · exact key d vt (x v) hst _
      · exact ih'
    | parseSend t d vt =>
      simp only [Stmt.run]
      cases parseFloatErr (t v) with
      | error e => rfl
      | ok f => simpa using key d vt f hst (fun _ ↦ runAll ls v sts)

/-- **A body without a parse runs to its end** when its descriptors are valid, have as many labels
as there are label values, and the values are UTF-8. -/
theorem runAll_result_of_no_parse {sts : List (Stmt σ)} (hp : ∀ st ∈ sts, st.parses = false)
    (h : ∀ st ∈ sts, st.desc.err = none ∧ st.desc.variableLabels.length = ls.length)
    (hu : ∀ s ∈ ls, Utf8.validString s = true) : (runAll ls v sts).result = .ok () := by
  rcases hr : (runAll ls v sts).result with s | u
  · refine (runAll_result_cases (P := fun _ ↦ False) (fun st hst s hs ↦ ?_) s hr).elim
    rcases st.run_cases ls v with h' | ⟨vt, x, e, he, -⟩ | ⟨hpa, -⟩
    · rw [h'] at hs; cases hs
    · have : newConstMetric st.desc vt x ls = .ok _ :=
        newConstMetric_eq_ok (h st hst).1 (h st hst).2.symm hu
      rw [he] at this; cases this
    · rw [hp st hst] at hpa; cases hpa
  · rfl

/-! ### How many samples a row's statements send -/

variable (ls v) in
/-- A statement sends at most one sample. -/
theorem Stmt.length_sent_run_le (st : Stmt σ) : (st.run ls v).sent.length ≤ 1 := by
  rcases st.sent_run ls v with h | ⟨m, h, -⟩ <;> rw [h] <;> simp

theorem length_sent_emitMetric_of_ok {d : Desc} {vt : ValueType} {x : GoFloat}
    (h : (emitMetric d vt x ls).result = .ok ()) : (emitMetric d vt x ls).sent.length = 1 := by
  cases hc : newConstMetric d vt x ls with
  | ok m => rw [emitMetric_of_ok hc]; rfl
  | error e => rw [emitMetric_of_error hc] at h; cases h

/-- A statement without a condition of its own that goes on has sent its sample. -/
theorem Stmt.length_sent_run_of_ok {st : Stmt σ} (hg : st.guarded = false)
    (h : (st.run ls v).result = .ok ()) : (st.run ls v).sent.length = 1 := by
  cases st with
  | send d vt x => exact length_sent_emitMetric_of_ok h
  | sendIf => cases hg
  | parseSend s d vt =>
    obtain ⟨f, hp, hf⟩ := exists_result_of_bind_eq_ok h
    rw [Stmt.run, length_sent_bind_of_ok hp, length_sent_emitMetric_of_ok hf]; rfl

theorem length_sent_runAll_le : ∀ sts : List (Stmt σ), (runAll ls v sts).sent.length ≤ sts.length
  | [] => Nat.le_refl 0
  | st :: sts => by
    have h₁ := length_sent_bind_le (m := st.run ls v) fun _ ↦ length_sent_runAll_le sts
    have h₂ := st.length_sent_run_le ls v
    rw [runAll_cons, List.length_cons]; omega

/-- Statements without a condition of their own that run to their end send one sample each. -/
theorem length_sent_runAll_of_ok : ∀ {sts : List (Stmt σ)}, (∀ st ∈ sts, st.guarded = false) →
    (runAll ls v sts).result = .ok () → (runAll ls v sts).sent.length = sts.length
  | [], _, _ => rfl
  | st :: sts, hg, h => by
    rw [runAll_cons] at h ⊢
    obtain ⟨⟨⟩, hst, hrest⟩ := exists_result_of_bind_eq_ok h
    rw [length_sent_bind_of_ok hst, st.length_sent_run_of_ok (hg st (List.mem_cons_self _ _)) hst,
      length_sent_runAll_of_ok (fun st' h' ↦ hg st' (List.mem_cons_of_mem _ h')) hrest,
      List.length_cons, Nat.add_comm]

/-! ### What a stopping row has sent -/

/-- The statements before the last parse of a body: those whose samples a stopping row may have
sent. -/
def beforeLastParse : List (Stmt σ) → List (Stmt σ)
  | [] => []
  | st :: sts => if sts.any Stmt.parses then st :: beforeLastParse sts else []

theorem beforeLastParse_sublist_cons (st : Stmt σ) (sts : List (Stmt σ)) :
    List.Sublist (beforeLastParse sts) (beforeLastParse (st :: sts)) := by
  rw [beforeLastParse]
  split
  · exact List.sublist_cons_self _ _
  · rename_i h
    cases sts with
    | nil => exact List.Sublist.refl _
    | cons st' sts =>
      simp only [List.any_cons, Bool.or_eq_true, not_or, Bool.not_eq_true] at h
      simp [beforeLastParse, h.2]

theorem beforeLastParse_sublist : ∀ sts : List (Stmt σ), List.Sublist (beforeLastParse sts) sts
  | [] => .slnil
  | st :: sts => by
    rw [beforeLastParse]
    split
    · exact (beforeLastParse_sublist sts).cons₂ st
    · exact List.nil_sublist _

theorem sent_runAll_of_error_of_validString {sts : List (Stmt σ)}
    (h : ∀ st ∈ sts, st.desc.err = none ∧ st.desc.variableLabels.length = ls.length)
    (hg : ∀ st ∈ beforeLastParse sts, st.guarded = false)
    (hu : ∀ s ∈ ls, Utf8.validString s = true) {s : Stop}
    (hs : (runAll ls v sts).result = .error s) :
    (runAll ls v sts).sent.map Metric.desc <+: (beforeLastParse sts).map Stmt.desc := by
  induction sts generalizing s with
  | nil => cases hs
  | cons st sts ih =>
    have h' := fun st' hst' ↦ h st' (List.mem_cons_of_mem st hst')
    rw [runAll_cons] at hs ⊢
    rcases st.run_cases ls v with hr | ⟨vt, x, e, he, -⟩ | ⟨-, e, hr⟩
    · rw [bind_of_ok hr] at hs ⊢
      have hp : sts.any Stmt.parses = true := by
        by_contra hp
        have hok := runAll_result_of_no_parse (v := v) (fun st' hst' ↦ by
          simpa using List.any_eq_false.1 (Bool.eq_false_iff.2 hp) st' hst') h' hu
        rw [hok] at hs; cases hs
      rw [beforeLastParse, if_pos hp] at hg ⊢
      have hlen := st.length_sent_run_of_ok (hg st (List.mem_cons_self st _)) hr
      rcases st.sent_run ls v with hst | ⟨m, hst, hd, -⟩
      · rw [hst] at hlen; cases hlen
      · simp only [hst, List.map_cons, List.map_append, List.map_nil, hd, List.singleton_append]
        exact List.cons_prefix_cons.2
          ⟨rfl, ih h' (fun st' h'' ↦ hg st' (List.mem_cons_of_mem st h'')) hs⟩
    · have : newConstMetric st.desc vt x ls = .ok _ :=
        newConstMetric_eq_ok (h st (List.mem_cons_self st sts)).1
          (h st (List.mem_cons_self st sts)).2.symm hu
      rw [he] at this; cases this
    · rw [hr, error_bind]; exact List.nil_prefix

/-- **A stopping run has sent the samples of a first run of the statements before its last
parse**, when the descriptors are valid and have as many labels as there are values and none of
those statements sends under a condition: with a value that is not UTF-8 it has sent nothing, and
otherwise it stopped at a failed parse, every statement before it having sent. -/
theorem sent_runAll_of_error {sts : List (Stmt σ)}
    (h : ∀ st ∈ sts, st.desc.err = none ∧ st.desc.variableLabels.length = ls.length)
    (hg : ∀ st ∈ beforeLastParse sts, st.guarded = false)
    {s : Stop} (hs : (runAll ls v sts).result = .error s) :
    (runAll ls v sts).sent.map Metric.desc <+: (beforeLastParse sts).map Stmt.desc := by
  by_cases hu : ∀ s ∈ ls, Utf8.validString s = true
  · exact sent_runAll_of_error_of_validString h hg hu hs
  · push_neg at hu
    obtain ⟨s', hs', hu'⟩ := hu
    rw [runAll_sent_of_not_validString h hs' (by simpa using hu')]
    exact List.nil_prefix

/-! ### The kind of each sample -/

variable (ls v) in
/-- A statement sends with its own descriptor and value type. -/
theorem Stmt.sentAll_run_kind (st : Stmt σ) :
    SentAll (fun m ↦ m.desc = st.desc ∧ m.valueType = st.valueType) (st.run ls v) := by
  have key : ∀ d vt x, SentAll (fun m ↦ m.desc = d ∧ m.valueType = vt) (emitMetric d vt x ls) :=
    fun d vt x m hm ↦ by rw [mem_sent_emitMetric hm]; exact ⟨rfl, rfl⟩
  cases st with
  | send d vt x => exact key d vt (x v)
  | sendIf c d vt x =>
    simp only [Stmt.run]
    split
    exacts [key d vt (x v), sentAll_pure ()]
  | parseSend t d vt => exact (sentAll_check _).bind fun f ↦ key d vt f

end Run

/-- A row sends only samples of its loop's statements, each with the descriptor and the value
type of one. -/
theorem Loop.sentAll_iterate_kind (l : Loop σ) (v : σ) (r : Row) :
    SentAll (fun m ↦ (m.desc, m.valueType) ∈ l.body.map fun st ↦ (st.desc, st.valueType))
      (l.iterate v r) :=
  (sentAll_check _).bind fun _ ↦ SentAll.bind
    (fun m hm ↦ by
      obtain ⟨st, hst, hm⟩ := mem_sent_runAll hm
      obtain ⟨h₁, h₂⟩ := st.sentAll_run_kind _ _ m hm
      exact List.mem_map.2 ⟨st, hst, by rw [h₁, h₂]⟩)
    fun _ ↦ sentAll_pure _

end Scrape
