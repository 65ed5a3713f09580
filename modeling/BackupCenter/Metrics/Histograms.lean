import BackupCenter.Lib.Double
import BackupCenter.Lib.JsonText
import BackupCenter.Lib.PromText
import BackupCenter.Lib.Tally
import BackupCenter.Lib.Text
import Mathlib.Data.Char
import Mathlib.Data.List.Lex
import Mathlib.Data.List.Sort

/-!
# Histograms

`observe_histogram` keeps the buckets of a metric in a Redis hash whose fields are the labels in
JSON, a separator and the bound; `render_prometheus_metrics` takes the fields apart again and prints
a series for each set of labels.
-/
namespace BackupCenter.Metrics

open BackupCenter.Lib BackupCenter.Lib.PromText

abbrev Text := List Char

/-- What is outside the code: `str.isalnum` beyond ASCII, the sums of HINCRBYFLOAT, the order in
which HGETALL lists a hash, and `str` of a float. -/
structure Env where
  isAlnum : Char → Bool
  addFloat : ℚ → ℚ → ℚ
  hgetall : Dict Text ℚ → Dict Text ℚ
  hgetall_perm : ∀ hash, (hgetall hash).Perm hash
  floatText : ℚ → Text
  floatText_line : ∀ x, '\n' ∉ floatText x

/-! ## Metrics -/

structure Bound where
  text : Text
  value : ℚ

/-- A bound that is an int. -/
def whole (n : Nat) : Bound := ⟨(toString n).toList, n⟩

/-- A bound that is a float. -/
def decimal (text : String) (value : ℚ) : Bound := ⟨text.toList, toDouble value⟩

/-- `HISTOGRAM_BUCKETS` -/
def histogramBuckets : List (Text × List Bound) :=
  [("backup_task_duration_seconds".toList,
      [1, 2, 5, 10, 20, 30, 60, 120, 300, 600, 1200].map whole),
    ("backup_script_duration_seconds".toList,
      decimal "0.5" 0.5 :: [1, 2, 5, 10, 20, 30, 60, 120, 300, 600, 1200].map whole),
    ("backup_precheck_duration_seconds".toList,
      [decimal "0.05" 0.05, decimal "0.1" 0.1, decimal "0.2" 0.2, decimal "0.5" 0.5] ++
        [1, 2, 5, 10, 20, 30].map whole),
    ("jump_host_wait_seconds".toList,
      [decimal "0.05" 0.05, decimal "0.1" 0.1, decimal "0.2" 0.2, decimal "0.5" 0.5] ++
        [1, 2, 5, 10, 20, 30, 60, 120, 180, 300].map whole)]

inductive MetricType where
  | counter
  | histogram
  | gauge
  deriving DecidableEq

def MetricType.text : MetricType → String
  | .counter => "counter"
  | .histogram => "histogram"
  | .gauge => "gauge"

/-- `METRICS_HELP` -/
def metricsHelp : List (String × MetricType × String) :=
  [("backup_task_total", .counter, "Backup task outcomes grouped by category."),
    ("backup_retry_total", .counter, "Automatic retry count for backup tasks."),
    ("backup_script_total", .counter, "Backup script outcomes grouped by script/device type."),
    ("backup_precheck_total", .counter,
      "Network precheck outcomes before running backup scripts."),
    ("bulk_preflight_devices_total", .counter, "Bulk preflight classification counts."),
    ("jump_host_slot_acquire_total", .counter, "Jump host slot acquire outcomes."),
    ("jump_host_adaptive_slot_changes_total", .counter, "Adaptive slot changes per jump host."),
    ("backup_task_duration_seconds", .histogram, "Backup task runtime in seconds."),
    ("backup_script_duration_seconds", .histogram, "Backup script runtime in seconds."),
    ("backup_precheck_duration_seconds", .histogram,
      "Duration of network precheck before backup."),
    ("jump_host_wait_seconds", .histogram, "Wait time to acquire jump host slot."),
    ("celery_queue_depth", .gauge, "Current queue depth from Redis broker lists."),
    ("celery_worker_up", .gauge, "Celery worker availability from inspect."),
    ("celery_worker_active_tasks", .gauge, "Number of active tasks per Celery worker."),
    ("celery_worker_reserved_tasks", .gauge, "Number of reserved tasks per Celery worker."),
    ("celery_worker_scheduled_tasks", .gauge, "Number of scheduled tasks per Celery worker."),
    ("celery_worker_pool_processes", .gauge, "Pool process count per Celery worker.")]

/-- `ALLOWED_LABEL_KEYS` -/
def allowedLabelKeys : List Text :=
  ["tenant_id", "outcome", "category", "device_type", "script_name", "queue", "worker",
    "classification", "jump_host", "result", "operation_kind"].map String.toList

/-! ## Labels -/

/-- `str.isalnum`, for one character -/
def isAlnum (env : Env) (c : Char) : Bool :=
  if c.toNat < 128 then c.isAlphanum else env.isAlnum c

/-- `_sanitize_metric_name` -/
def sanitizeMetricName (env : Env) (name : Text) : Text :=
  let safe := (stripChars name).map fun c =>
    if isAlnum env c || c = '_' || c = ':' then c else '_'
  let stripped := ((safe.dropWhile (· = '_')).reverse.dropWhile (· = '_')).reverse
  if stripped = [] then "metric".toList else stripped

/-- `text.replace(c, by)` -/
def replaceChar (c : Char) (by_ : Text) (text : Text) : Text :=
  text.flatMap fun d => if d = c then by_ else [d]

/-- `_normalize_label_value` -/
def normalizeLabelValue (value : Option Text) : Text :=
  let text := value.getD "unknown".toList
  replaceChar '"' ['\\', '"'] (replaceChar '\n' [' '] (replaceChar '\\' ['\\', '\\'] text))

/-- `sorted(labels.items())`; the keys of a dictionary are different. -/
def sortLabels {α : Type} (labels : List (Text × α)) : List (Text × α) :=
  labels.insertionSort fun a b => a.1 ≤ b.1

theorem lawful_text : LawfulBEq Text := inferInstance

attribute [local instance] lawful_text

/-- The loop of `_normalize_labels`, with what becomes of a value. -/
def keepLabel (env : Env) (normalize : Option Text → Text) (normalized : Dict Text Text)
    (item : Text × Option Text) : Dict Text Text :=
  let safeKey := sanitizeMetricName env item.1
  if safeKey = [] then normalized
  else if safeKey ∉ allowedLabelKeys then normalized
  else assign normalized (safeKey, some (normalize item.2))

def keptLabels (env : Env) (normalize : Option Text → Text) (labels : List (Text × Option Text)) :
    Dict Text Text :=
  (sortLabels labels).foldl (keepLabel env normalize) []

/-- `_normalize_labels` -/
def normalizeLabels (env : Env) (labels : List (Text × Option Text)) : Dict Text Text :=
  keptLabels env normalizeLabelValue labels

/-- `_labels_key` -/
def labelsKey (env : Env) (labels : List (Text × Option Text)) : Text :=
  let normalized := normalizeLabels env labels
  if normalized = [] then ['-'] else JsonText.dumps (sortLabels normalized)

/-- `_parse_labels_key` -/
def parseLabelsKey (serialized : Text) : Dict Text Text :=
  if serialized = [] ∨ serialized = ['-'] then [] else (JsonText.loads serialized).getD []

/-! ## Observing -/

/-- The Redis keys below `backup_center:metrics:hist:`, by the sanitized name. -/
inductive HashKey where
  | bucket (name : Text)
  | count (name : Text)
  | sum (name : Text)
  deriving DecidableEq

abbrev Store := Dict HashKey (Dict Text ℚ)

def Store.hash (s : Store) (key : HashKey) : Dict Text ℚ := (valueOf s key).getD []

def hincrby (s : Store) (key : HashKey) (field : Text) : Store :=
  assign s (key, some (increase (s.hash key) field 1))

def hincrbyfloat (env : Env) (s : Store) (key : HashKey) (field : Text) (delta : ℚ) : Store :=
  assign s (key, some (assign (s.hash key)
    (field, some (env.addFloat ((valueOf (s.hash key) field).getD 0) delta))))

/-- What `float(value)` makes of a value. -/
inductive Measure where
  | raises
  | nan
  | infinite
  | finite (x : ℚ)

structure Observation where
  metric : Text
  value : Measure
  labels : List (Text × Option Text)

def separator : Text := "|le=".toList

def infBound : Text := "+Inf".toList

/-- `observe_histogram` -/
def observeHistogram (env : Env) (s : Store) (o : Observation) : Store :=
  match histogramBuckets.lookup o.metric, o.value with
  | some buckets, .finite numeric =>
    if numeric < 0 then s
    else
      let name := sanitizeMetricName env o.metric
      let labelKey := labelsKey env o.labels
      let s := hincrbyfloat env s (.sum name) labelKey numeric
      let s := hincrby s (.count name) labelKey
      let s := buckets.foldl (fun s bound =>
        if numeric ≤ bound.value then hincrby s (.bucket name) (labelKey ++ separator ++ bound.text)
        else s) s
      hincrby s (.bucket name) (labelKey ++ separator ++ infBound)
  | _, _ => s

def observeAll (env : Env) (obs : List Observation) : Store :=
  obs.foldl (observeHistogram env) []

/-! ## Rendering -/

/-- `text.rsplit(sep, 1)`, if the separator occurs -/
def rsplit (sep : Text) : Text → Option (Text × Text)
  | [] => if sep = [] then some ([], []) else none
  | c :: cs =>
    match rsplit sep cs with
    | some (before, after) => some (c :: before, after)
    | none => if sep <+: c :: cs then some ([], (c :: cs).drop sep.length) else none

/-- `_iter_hash_items` -/
def iterHashItems (env : Env) (s : Store) (key : HashKey) : List (Text × ℚ) :=
  (env.hgetall (s.hash key)).map fun item => (item.1, toDouble item.2)

/-- `_labels_text` -/
def sortedLabelsText (labels : Dict Text Text) : Text := labelsText (sortLabels labels)

/-- One line with its value. -/
def line (env : Env) (name : Text) (labels : Dict Text Text) (value : ℚ) : Text :=
  name ++ sortedLabelsText labels ++ ' ' :: env.floatText value

/-- `bucket_map[(label_key, le_raw)] = value` -/
def addBucket (map : Dict (Text × Text) ℚ) (item : Text × ℚ) : Dict (Text × Text) ℚ :=
  match rsplit separator item.1 with
  | some key => assign map (key, some item.2)
  | none => map

/-- `bucket_map` -/
def bucketMap (env : Env) (s : Store) (name : Text) : Dict (Text × Text) ℚ :=
  (iterHashItems env s (.bucket name)).foldl addBucket []

def leLabel : Text := "le".toList

/-- The histogram branch of `render_prometheus_metrics`. -/
def histogramLines (env : Env) (s : Store) (metric : Text) : List Text :=
  let name := sanitizeMetricName env metric
  let bucketName := name ++ "_bucket".toList
  let buckets := bucketMap env s name
  let sumRows := iterHashItems env s (.sum name)
  (iterHashItems env s (.count name)).flatMap fun (labelKey, count) =>
    let labels := parseLabelsKey labelKey
    ((histogramBuckets.lookup metric).getD []).map (fun bound =>
      line env bucketName (assign labels (leLabel, some bound.text))
        ((valueOf buckets (labelKey, bound.text)).getD 0)) ++
    [line env bucketName (assign labels (leLabel, some infBound))
        ((valueOf buckets (labelKey, infBound)).getD 0),
      line env (name ++ "_sum".toList) labels ((valueOf sumRows labelKey).getD 0),
      line env (name ++ "_count".toList) labels count]

/-- The lines of one metric; the samples of the counters and gauges come from `others`. -/
def metricLines (env : Env) (others : String → List Text) (s : Store)
    (entry : String × MetricType × String) : List Text :=
  let name := sanitizeMetricName env entry.1.toList
  ["# HELP ".toList ++ name ++ ' ' :: entry.2.2.toList,
    "# TYPE ".toList ++ name ++ ' ' :: entry.2.1.text.toList] ++
  if entry.2.1 = .histogram then histogramLines env s entry.1.toList else others entry.1

/-- `render_prometheus_metrics`, line by line, after the cache has expired. -/
def renderLines (env : Env) (others : String → List Text) (s : Store) : List Text :=
  metricsHelp.flatMap (metricLines env others s)

end BackupCenter.Metrics
