import MysqldExporterNdb.Go.ParseFloat

/-!
# `prometheus`: descriptors and constant metrics

Every sample a collector sends is built by `prometheus.MustNewConstMetric(desc, valueType,
value, labelValues...)`. The checks it makes are the ones modelled here, in Go's order:

* `NewDesc` validates the descriptor once and records the first problem in `Desc.err`: a metric
  name outside `[a-zA-Z_:][a-zA-Z0-9_:]*`, a label name outside `[a-zA-Z_][a-zA-Z0-9_]*` or
  starting with `__`, or a label name given twice (`Desc.err`);
* `NewConstMetric` returns `Desc.err` if there is one, then checks that there are exactly as many
  label values as the descriptor has variable labels, then that every value is valid UTF-8
  (`validateLabelValues`).

Names are checked rune by rune in Go (`for i, b := range n`), so they are Lean `String`s here;
label values are Go strings of any bytes. The descriptors of this repository have no constant
labels, and none is modelled.
-/

namespace Prometheus

/-- A metric descriptor as the collectors build it: `NewDesc(fqName, help, variableLabels, nil)`. -/
structure Desc where
  fqName : String
  help : String
  variableLabels : List String
  deriving DecidableEq

/-- `prometheus.BuildFQName(namespace, subsystem, name)`: the non-empty parts joined by `_`;
nothing without a name. -/
def buildFQName (ns subsystem name : String) : String :=
  if name = "" then ""
  else if ns ≠ "" ∧ subsystem ≠ "" then ns ++ "_" ++ subsystem ++ "_" ++ name
  else if ns ≠ "" then ns ++ "_" ++ name
  else if subsystem ≠ "" then subsystem ++ "_" ++ name
  else name

/-- What `BuildFQName` puts before a non-empty name. -/
def fqPrefix (ns subsystem : String) : String :=
  if ns ≠ "" ∧ subsystem ≠ "" then ns ++ "_" ++ subsystem ++ "_"
  else if ns ≠ "" then ns ++ "_"
  else if subsystem ≠ "" then subsystem ++ "_"
  else ""

theorem buildFQName_eq_append {ns subsystem name : String} (h : name ≠ "") :
    buildFQName ns subsystem name = fqPrefix ns subsystem ++ name := by
  unfold buildFQName fqPrefix
  rw [if_neg h]
  split_ifs <;> rfl

/-- **Two names `BuildFQName` makes agree only if one of the given names ends the other.** -/
theorem isSuffix_of_buildFQName_eq {ns sub ns' sub' a b : String} (ha : a ≠ "") (hb : b ≠ "")
    (h : buildFQName ns sub a = buildFQName ns' sub' b) :
    a.data <:+ b.data ∨ b.data <:+ a.data := by
  rw [buildFQName_eq_append ha, buildFQName_eq_append hb] at h
  rcases List.append_eq_append_iff.1 (congrArg String.data h) with ⟨c, -, hc⟩ | ⟨c, -, hc⟩
  · exact .inr ⟨c, hc.symm⟩
  · exact .inl ⟨c, hc.symm⟩

/-- Under one namespace and subsystem, `BuildFQName` keeps non-empty names apart. -/
theorem eq_of_buildFQName_eq {ns sub a b : String} (ha : a ≠ "") (hb : b ≠ "")
    (h : buildFQName ns sub a = buildFQName ns sub b) : a = b := by
  rw [buildFQName_eq_append ha, buildFQName_eq_append hb] at h
  exact String.ext (List.append_cancel_left (congrArg String.data h))

/-- A character of a metric name; a digit only after the first. -/
def isMetricNameRune (first : Bool) (c : Char) : Bool :=
  ('a' ≤ c && c ≤ 'z') || ('A' ≤ c && c ≤ 'Z') || c = '_' || c = ':' ||
    (!first && '0' ≤ c && c ≤ '9')

/-- A character of a label name; a digit only after the first. -/
def isLabelNameRune (first : Bool) (c : Char) : Bool :=
  ('a' ≤ c && c ≤ 'z') || ('A' ≤ c && c ≤ 'Z') || c = '_' || (!first && '0' ≤ c && c ≤ '9')

/-- `model.IsValidMetricName`. -/
def isValidMetricName (n : String) : Bool :=
  match n.toList with
  | [] => false
  | c :: cs => isMetricNameRune true c && cs.all (isMetricNameRune false)

/-- `checkLabelName`: a valid `model.LabelName` not starting with the reserved `__`. -/
def checkLabelName (l : String) : Bool :=
  match l.toList with
  | [] => false
  | c :: cs =>
    isLabelNameRune true c && cs.all (isLabelNameRune false) && !(['_', '_'].isPrefixOf l.toList)

/-- The errors of `NewDesc` and `NewConstMetric`. -/
inductive PromError
  /-- `%q is not a valid metric name` -/
  | invalidMetricName (fqName : String)
  /-- `%q is not a valid label name for metric %q` -/
  | invalidLabelName (label fqName : String)
  /-- `duplicate label names` -/
  | duplicateLabelNames
  /-- `inconsistent label cardinality: expected %d label values but got %d in %#v` -/
  | inconsistentCardinality (expected got : Nat)
  /-- `label value %q is not valid UTF-8` -/
  | invalidLabelValue (v : GoString)

/-- `Desc.err`: the first problem `NewDesc` found, if any. -/
def Desc.err (d : Desc) : Option PromError :=
  if !isValidMetricName d.fqName then some (.invalidMetricName d.fqName)
  else
    match d.variableLabels.find? (!checkLabelName ·) with
    | some l => some (.invalidLabelName l d.fqName)
    | none => if d.variableLabels.Nodup then none else some .duplicateLabelNames

/-- `prometheus.CounterValue` and `prometheus.GaugeValue`. -/
inductive ValueType
  | counter
  | gauge
  deriving DecidableEq

/-- A constant metric: one sample of a descriptor, with its label values in the descriptor's
order. -/
structure Metric where
  desc : Desc
  valueType : ValueType
  value : GoFloat
  labelValues : List GoString
  deriving DecidableEq

/-- What makes a sample the same series as another: its descriptor and label values. -/
def Metric.series (m : Metric) : Desc × List GoString := (m.desc, m.labelValues)

/-- `validateLabelValues`: the count first, then each value's encoding. -/
def validateLabelValues (vals : List GoString) (expected : Nat) : Option PromError :=
  if vals.length ≠ expected then some (.inconsistentCardinality expected vals.length)
  else
    match vals.find? (!Utf8.validString ·) with
    | some v => some (.invalidLabelValue v)
    | none => none

/-- `prometheus.NewConstMetric`. -/
def newConstMetric (desc : Desc) (valueType : ValueType) (value : GoFloat)
    (labelValues : List GoString) : Except PromError Metric :=
  match desc.err with
  | some e => .error e
  | none =>
    match validateLabelValues labelValues desc.variableLabels.length with
    | some e => .error e
    | none => .ok ⟨desc, valueType, value, labelValues⟩

/-- **What `NewConstMetric` accepts**: a valid descriptor, the right number of label values,
each valid UTF-8. It then builds the sample from its arguments unchanged. -/
theorem newConstMetric_eq_ok {desc : Desc} {vt : ValueType} {v : GoFloat} {ls : List GoString}
    (hd : desc.err = none) (hn : ls.length = desc.variableLabels.length)
    (hu : ∀ l ∈ ls, Utf8.validString l = true) :
    newConstMetric desc vt v ls = .ok ⟨desc, vt, v, ls⟩ := by
  have hf : ls.find? (!Utf8.validString ·) = none :=
    List.find?_eq_none.2 fun l hl ↦ by simp [hu l hl]
  simp [newConstMetric, validateLabelValues, hd, hn, hf]

/-- A label count that differs from the descriptor's is refused, and it is the first thing
checked after the descriptor. -/
theorem newConstMetric_of_length_ne {desc : Desc} {vt : ValueType} {v : GoFloat}
    {ls : List GoString} (hd : desc.err = none) (hn : ls.length ≠ desc.variableLabels.length) :
    newConstMetric desc vt v ls =
      .error (.inconsistentCardinality desc.variableLabels.length ls.length) := by
  simp [newConstMetric, validateLabelValues, hd, hn]

/-- A sample `NewConstMetric` builds is its arguments, unchanged. -/
theorem eq_of_newConstMetric_eq_ok {desc : Desc} {vt : ValueType} {v : GoFloat}
    {ls : List GoString} {m : Metric} (h : newConstMetric desc vt v ls = .ok m) :
    m = ⟨desc, vt, v, ls⟩ := by
  unfold newConstMetric at h
  split at h; · cases h
  split at h; · cases h
  cases h; rfl

/-- `NewDesc` never records a cardinality error: that one only comes from the label values. -/
theorem Desc.err_ne_cardinality (d : Desc) (n k : Nat) :
    d.err ≠ some (.inconsistentCardinality n k) := by
  unfold Desc.err
  split
  · simp
  · split
    · simp
    · split <;> simp

/-- **The right number of label values is never refused for its count.** -/
theorem newConstMetric_ne_cardinality {desc : Desc} {vt : ValueType} {v : GoFloat}
    {ls : List GoString} (hn : ls.length = desc.variableLabels.length) (n k : Nat) :
    newConstMetric desc vt v ls ≠ .error (.inconsistentCardinality n k) := by
  unfold newConstMetric validateLabelValues
  split
  · rename_i e he
    intro h; cases h; exact desc.err_ne_cardinality n k he
  · simp only [hn, ne_eq, not_true_eq_false, if_false]
    cases ls.find? (!Utf8.validString ·) <;> simp

/-- With a valid descriptor and the right number of values, a value that is not UTF-8 is refused. -/
theorem newConstMetric_of_not_validString {desc : Desc} {vt : ValueType} {v : GoFloat}
    {ls : List GoString} (hd : desc.err = none) (hn : ls.length = desc.variableLabels.length)
    {s : GoString} (hs : s ∈ ls) (hu : Utf8.validString s = false) :
    ∃ s', newConstMetric desc vt v ls = .error (.invalidLabelValue s') := by
  unfold newConstMetric validateLabelValues
  simp only [hd, hn, ne_eq, not_true_eq_false, if_false]
  cases hf : ls.find? (!Utf8.validString ·) with
  | some s' => exact ⟨s', rfl⟩
  | none => have := List.find?_eq_none.1 hf s hs; simp [hu] at this

/-- **What a refusal names**: with a valid descriptor and the right number of values, the only
error `NewConstMetric` returns is a label value that is not UTF-8, one of those given. -/
theorem eq_invalidLabelValue_of_newConstMetric {desc : Desc} {vt : ValueType} {v : GoFloat}
    {ls : List GoString} (hd : desc.err = none) (hn : ls.length = desc.variableLabels.length)
    {e : PromError} (h : newConstMetric desc vt v ls = .error e) :
    ∃ s ∈ ls, e = .invalidLabelValue s ∧ Utf8.validString s = false := by
  unfold newConstMetric validateLabelValues at h
  simp only [hd, hn, ne_eq, not_true_eq_false, if_false] at h
  cases hf : ls.find? (!Utf8.validString ·) with
  | none => rw [hf] at h; cases h
  | some s =>
    rw [hf] at h; cases h
    exact ⟨s, List.mem_of_find?_eq_some hf, rfl, by simpa using List.find?_some hf⟩

end Prometheus
